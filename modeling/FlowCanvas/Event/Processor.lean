import FlowCanvas.Event.Dispatcher

/-!
# Kinds of processors

A processor may take every event as it comes, or have a handler for each of the two announcements
and hear of nothing else. Bare events reach only the former. The kinds here are the ones that a
session can be observed with.
-/

namespace FlowCanvas

universe u

/-- By which of its doors a message reaches a processor. -/
inductive Door where
  /-- the door for every event -/
  | anyEvent
  /-- the handler of edits -/
  | graphChanged
  /-- the handler of resets -/
  | graphReset
  /-- the door for the end of the session -/
  | shutdown
  deriving DecidableEq, Repr

/-- The handler of an announcement, for a processor that has one for each. -/
def Event.door? {α : Type u} : Event α → Option Door
  | changed .. => some .graphChanged
  | reset .. => some .graphReset
  | bare .. => none

/-- What can be seen of a processor. -/
inductive ProcessorKind where
  /-- takes every event, and the end of the session -/
  | recording
  /-- the same, and the code of each event with it -/
  | recordingCode
  /-- the same as the first, and fails on everything -/
  | failing
  /-- has both handlers -/
  | typed
  /-- has only the handler of edits -/
  | typedChanged
  /-- has neither handler -/
  | typedSilent
  /-- ignores all events -/
  | silent
  deriving DecidableEq, Repr

namespace ProcessorKind

/-- The kind with a name. -/
def ofName? : String → Option ProcessorKind
  | "record" => some recording
  | "code" => some recordingCode
  | "fail" => some failing
  | "typed" => some typed
  | "typed_changed" => some typedChanged
  | "typed_base" => some typedSilent
  | "base" => some silent
  | _ => none

/-- Whether a processor of a kind takes all messages by the common doors. -/
def takesAll : ProcessorKind → Bool
  | recording => true
  | recordingCode => true
  | failing => true
  | _ => false

/-- The doors that a processor of a kind has behind the two announcements. -/
def handlers : ProcessorKind → List Door
  | typed => [.graphChanged, .graphReset]
  | typedChanged => [.graphChanged]
  | _ => []

/-- The door by which a processor of a kind hears of a message, if it does. -/
def hears? {α : Type u} (k : ProcessorKind) : Message α → Option Door
  | .shutdown => if k.takesAll then some .shutdown else none
  | .event e =>
    if k.takesAll then some .anyEvent else e.door?.filter fun d => k.handlers.contains d

/-- The processor of a kind. -/
def processor {α : Type u} (k : ProcessorKind) : Processor α where
  fault? messages :=
    if k = failing then
      match messages.getLast? with
      | some .shutdown => some "shutdown exploded"
      | _ => some "processor exploded"
    else none

end ProcessorKind

end FlowCanvas
