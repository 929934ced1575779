import FlowCanvas.Event.Basic
import FlowCanvas.Outcome

/-!
# Dispatching events

Events go to every processor in turn. A processor that fails on one does not keep it from the
others: the failure is noted as a warning. A strict dispatcher stops at the first failure instead
and passes it on.

Processors take no part in the editing, so all that matters of one is when it fails. This may depend
on everything it has received. Next to the processors the dispatcher keeps a log of what it has
handed to which of them.
-/

namespace FlowCanvas

universe u

/-- What is handed to a processor. -/
inductive Message (α : Type u) where
  /-- an event -/
  | event (e : Event α)
  /-- the end of the session -/
  | shutdown

/-- A processor: how it fails on the last of the messages it has received, if it does. -/
structure Processor (α : Type u) where
  /-- the fault on the last of these messages -/
  fault? : List (Message α) → Option String

/-- A message with the number of the processor that it was handed to. -/
structure Delivery (α : Type u) where
  /-- the number of the processor -/
  receiver : Nat
  /-- what was handed to it -/
  message : Message α

/-- Processors and what has been handed to them. -/
structure Dispatcher (α : Type u) where
  /-- the processors, in the order of their numbers -/
  processors : List (Processor α)
  /-- whether a failure is passed on -/
  strict : Bool
  /-- all deliveries so far, in order -/
  log : List (Delivery α)
  /-- how many failures have been noted -/
  warnings : Nat

namespace Dispatcher

variable {α : Type u}

/-- A dispatcher that has delivered nothing. -/
def of (processors : List (Processor α)) (strict : Bool) : Dispatcher α :=
  ⟨processors, strict, [], 0⟩

/-- Whether anybody is there to receive. -/
def isActive (d : Dispatcher α) : Bool := !d.processors.isEmpty

/-- A dispatcher with a processor more. -/
def add (d : Dispatcher α) (p : Processor α) : Dispatcher α :=
  { d with processors := d.processors ++ [p] }

/-- What has been handed to the processor with a number. -/
def received (d : Dispatcher α) (i : Nat) : List (Message α) :=
  (d.log.filter fun x => x.receiver == i).map Delivery.message

/-- Hands a message to one processor. -/
def deliver (m : Message α) (i : Nat) (p : Processor α) (d : Dispatcher α) :
    Outcome (Dispatcher α) String Unit :=
  let d := { d with log := d.log ++ [⟨i, m⟩] }
  match p.fault? (d.received i) with
  | none => .done d ()
  | some f =>
    if d.strict then .failed d f else .done { d with warnings := d.warnings + 1 } ()

/-- Hands a message to every processor. -/
def dispatch (d : Dispatcher α) (m : Message α) : Outcome (Dispatcher α) String Unit :=
  Outcome.each (fun x => deliver m x.2 x.1) d.processors.zipIdx d

/-- Hands an event to every processor. -/
def emit (d : Dispatcher α) (e : Event α) : Outcome (Dispatcher α) String Unit :=
  d.dispatch (.event e)

/-- Tells every processor that the session ends. -/
def shutdown (d : Dispatcher α) : Outcome (Dispatcher α) String Unit := d.dispatch .shutdown

end Dispatcher

end FlowCanvas
