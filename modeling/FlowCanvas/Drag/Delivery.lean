import FlowCanvas.Drag.Basic
import FlowCanvas.Outcome

/-!
# Delivery of pointer events

A controller works for a host, which knows the zoom and carries out what releases ask for. An event
is delivered once per listening that there was when it came, and stops where the host or the
controller fails; events still to be played are lost then.
-/

namespace FlowCanvas

universe u v w

/-- What a controller works for: a state with a zoom, in which edges can be pinned. -/
structure DragHost (σ : Type u) (ε : Type v) (α : Type w) where
  /-- the zoom -/
  zoom : σ → α
  /-- carries out what a release asks for -/
  pin : σ → PinRequest α → Outcome σ ε Unit
  /-- a fault of the controller, as a fault of the host -/
  fault : DragFault α → ε

namespace DragHost

variable {σ : Type u} {ε : Type v} {α : Type w}

/-- A state with the controller that works for it. -/
abbrev Held (σ : Type u) (α : Type w) := σ × Controller α

/-- The controller ends its drag, and the host carries out what it asks for; the point is given
back. The drag has ended even if the host fails. -/
def release (h : DragHost σ ε α) (s : σ) (c : Controller α) :
    Outcome (Held σ α) ε (Option (Point α)) :=
  match c.release with
  | (c, none) => .done (s, c) none
  | (c, some r) => ((h.pin s r).mapState fun s => (s, c)).map fun _ => some r.point

variable [Scalar α]

/-- The controller gets one event. -/
def handle (h : DragHost σ ε α) (e : PointerEvent α) (held : Held σ α) :
    Outcome (Held σ α) ε Unit :=
  let (s, c) := held
  match c.handle (h.zoom s) e with
  | .error f => .failed (s, c) (h.fault f)
  | .ok (c, none) => .done (s, c) ()
  | .ok (c, some r) => (h.pin s r).mapState fun s => (s, c)

/-- The source delivers an event to everyone who listens when it comes. -/
def push (h : DragHost σ ε α) (e : PointerEvent α) (held : Held σ α) : Outcome (Held σ α) ε Unit :=
  Outcome.each (fun _ => h.handle e) (List.replicate held.2.listeners ()) held

/-- The source delivers the events that wait, and keeps none of them. -/
def play (h : DragHost σ ε α) (held : Held σ α) : Outcome (Held σ α) ε Unit :=
  match held.2.source with
  | none => .done held ()
  | some source =>
    let emptied := { held.2 with source := some { source with queue := [] } }
    Outcome.each h.push source.queue (held.1, emptied)

end DragHost

end FlowCanvas
