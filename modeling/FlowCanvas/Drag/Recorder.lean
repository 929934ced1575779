import FlowCanvas.Drag.Delivery

/-!
# A recorder of drags

The simplest host of a controller: it has a zoom that can be set to anything, writes down each
request to pin, and refuses requests while it is told to. With it the controller can be observed on
its own.
-/

namespace FlowCanvas

universe u

/-- A host that writes down requests. -/
structure Recorder (α : Type u) where
  /-- the zoom -/
  zoom : α
  /-- whether requests are refused -/
  refusing : Bool
  /-- all requests, each with whether it was granted -/
  requests : List (PinRequest α × Bool)
  deriving DecidableEq, Repr

/-- Why a call to a recorded controller fails. -/
inductive RecorderFault (α : Type u) where
  /-- the controller refuses it -/
  | drag (fault : DragFault α)
  /-- the recorder refuses the request -/
  | refused
  deriving DecidableEq, Repr

/-- The wording of a fault, by a text for scalars. -/
def RecorderFault.message {α : Type u} (write : α → String) : RecorderFault α → String
  | drag fault => fault.message write
  | refused => "commit failed"

namespace Recorder

variable {α : Type u}

/-- A recorder without requests. -/
def fresh (zoom : α) (refusing : Bool) : Recorder α := ⟨zoom, refusing, []⟩

/-- The requests that were granted. -/
def granted (r : Recorder α) : List (PinRequest α) :=
  (r.requests.filter fun q => q.2).map Prod.fst

/-- The recorder as a host. -/
def host : DragHost (Recorder α) (RecorderFault α) α where
  zoom := Recorder.zoom
  pin r q :=
    let r' := { r with requests := r.requests ++ [(q, !r.refusing)] }
    if r.refusing then .failed r' .refused else .done r' ()
  fault := .drag

end Recorder

/-- A call to a recorded controller. -/
inductive RecordedCall (α : Type u) where
  /-- a drag begins -/
  | begin (edge : String) (screen control : Point α)
  /-- the pointer moves -/
  | move (screen : Point α)
  /-- the drag is released -/
  | release
  /-- an event reaches the controller past the source -/
  | handle (event : PointerEvent α)
  /-- the source delivers an event -/
  | push (event : PointerEvent α)
  /-- an event waits to be played -/
  | enqueue (event : PointerEvent α)
  /-- the source plays what waits -/
  | play
  /-- the controller listens once more -/
  | subscribe
  /-- the controller listens once less -/
  | unsubscribe
  /-- the zoom changes -/
  | setZoom (zoom : α)
  /-- the recorder starts or stops refusing -/
  | setRefusing (refusing : Bool)
  deriving DecidableEq, Repr

/-- A recorded controller. -/
abbrev Recorded (α : Type u) := DragHost.Held (Recorder α) α

namespace Recorded

variable {α : Type u} [Scalar α]

/-- One call. It gives back the point of a move or a release. -/
def run (r : Recorded α) : RecordedCall α →
    Outcome (Recorded α) (RecorderFault α) (Option (Point α))
  | .begin edge screen control =>
    match r.2.begin edge screen control with
    | .ok c => .done (r.1, c) none
    | .error f => .failed r (.drag f)
  | .move screen =>
    match r.2.move r.1.zoom screen with
    | .ok (c, p) => .done (r.1, c) p
    | .error f => .failed r (.drag f)
  | .release => Recorder.host.release r.1 r.2
  | .handle e => (Recorder.host.handle e r).map fun _ => none
  | .push e => (Recorder.host.push e r).map fun _ => none
  | .enqueue e => .done (r.1, { r.2 with source := r.2.source.map (·.enqueue e) }) none
  | .play => (Recorder.host.play r).map fun _ => none
  | .subscribe => .done (r.1, { r.2 with source := r.2.source.map PointerSource.subscribe }) none
  | .unsubscribe =>
    .done (r.1, { r.2 with source := r.2.source.map PointerSource.unsubscribe }) none
  | .setZoom zoom => .done ({ r.1 with zoom := zoom }, r.2) none
  | .setRefusing refusing => .done ({ r.1 with refusing := refusing }, r.2) none

end Recorded

end FlowCanvas
