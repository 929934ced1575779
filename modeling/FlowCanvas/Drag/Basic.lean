import FlowCanvas.Plane.Viewport

/-!
# Drags

The control point of an edge is dragged by the pointer. While a drag is on, moves only change a
preview: the control point at the start of the drag, displaced as the pointer has been since, by the
zoom at the time of the move. The release asks for one change of the edge, to the last preview, and
ends the drag whether or not that change succeeds.

The controller of drags listens to a source of pointer events for as long as a drag is on. A source
holds one listening per subscription, and the controller is the only one here who subscribes.
-/

namespace FlowCanvas

universe u

/-- An event of the pointer. -/
inductive PointerEvent (α : Type u) where
  /-- pressed on the control point of an edge -/
  | down (edge : String) (screen : Point α)
  /-- moved -/
  | move (screen : Point α)
  /-- released -/
  | up (screen : Point α)
  deriving DecidableEq, Repr

/-- A drag that is on. -/
structure Drag (α : Type u) where
  /-- the edge whose control point is dragged -/
  edge : String
  /-- where the pointer was at the start -/
  originScreen : Point α
  /-- where the control point was at the start -/
  originControl : Point α
  /-- the preview -/
  live : Point α
  deriving DecidableEq, Repr

/-- Why the controller refuses a call. -/
inductive DragFault (α : Type u) where
  /-- a drag is on already -/
  | busy (edge current : String)
  /-- the pointer was pressed while a drag is on -/
  | pressed (edge : String)
  /-- the zoom is not positive -/
  | badZoom (fault : BadZoom α)
  deriving DecidableEq, Repr

/-- The wording of a fault, by a text for scalars. -/
def DragFault.message {α : Type u} (write : α → String) : DragFault α → String
  | busy edge current =>
    "Cannot start dragging '" ++ edge ++ "': edge '" ++ current ++ "' is already being dragged"
  | pressed edge => "Pointer down on '" ++ edge ++ "' during an active drag"
  | badZoom fault => fault.message write

/-- A source of pointer events. -/
structure PointerSource (α : Type u) where
  /-- how often the controller listens -/
  listeners : Nat
  /-- the events that wait to be played -/
  queue : List (PointerEvent α)
  deriving DecidableEq, Repr

namespace PointerSource

variable {α : Type u}

/-- A source that nobody listens to. -/
def silent (queue : List (PointerEvent α)) : PointerSource α := ⟨0, queue⟩

/-- The source with one listening more. -/
def subscribe (s : PointerSource α) : PointerSource α := { s with listeners := s.listeners + 1 }

/-- The source with one listening less, if there is one. -/
def unsubscribe (s : PointerSource α) : PointerSource α := { s with listeners := s.listeners - 1 }

/-- The source with an event more to play. -/
def enqueue (s : PointerSource α) (e : PointerEvent α) : PointerSource α :=
  { s with queue := s.queue ++ [e] }

end PointerSource

/-- What a release asks for: that an edge be pinned at a point. -/
structure PinRequest (α : Type u) where
  /-- the edge -/
  edge : String
  /-- its new control point -/
  point : Point α
  deriving DecidableEq, Repr

/-- The controller of drags. -/
structure Controller (α : Type u) where
  /-- the drag that is on, if any -/
  drag : Option (Drag α)
  /-- where pointer events come from, if from anywhere -/
  source : Option (PointerSource α)
  deriving DecidableEq, Repr

namespace Controller

variable {α : Type u}

/-- A controller without a drag. -/
def idle (source : Option (PointerSource α)) : Controller α := ⟨none, source⟩

/-- Whether a drag is on. -/
def isDragging (c : Controller α) : Bool := c.drag.isSome

/-- The preview, if a drag is on. -/
def live? (c : Controller α) : Option (Point α) := c.drag.map Drag.live

/-- How often the controller listens to its source. -/
def listeners (c : Controller α) : Nat := (c.source.map PointerSource.listeners).getD 0

/-- A drag begins, unless one is on. -/
def begin (c : Controller α) (edge : String) (screen control : Point α) :
    Except (DragFault α) (Controller α) :=
  match c.drag with
  | some d => .error (.busy edge d.edge)
  | none => .ok ⟨some ⟨edge, screen, control, control⟩, c.source.map PointerSource.subscribe⟩

variable [Scalar α]

/-- The preview follows the pointer, at a zoom; the new preview is given back. -/
def move (c : Controller α) (zoom : α) (screen : Point α) :
    Except (DragFault α) (Controller α × Option (Point α)) :=
  match c.drag with
  | none => .ok (c, none)
  | some d =>
    if Scalar.positive zoom then
      let live := d.originControl + (screen - d.originScreen).divide zoom
      .ok ({ c with drag := some { d with live := live } }, some live)
    else .error (.badZoom ⟨zoom⟩)

omit [Scalar α] in
/-- The drag ends, if one is on, and asks for its change. -/
def release (c : Controller α) : Controller α × Option (PinRequest α) :=
  match c.drag with
  | none => (c, none)
  | some d => (⟨none, c.source.map PointerSource.unsubscribe⟩, some ⟨d.edge, d.live⟩)

/-- An event of the pointer. A press has no control point with it, so it begins nothing. -/
def handle (c : Controller α) (zoom : α) :
    PointerEvent α → Except (DragFault α) (Controller α × Option (PinRequest α))
  | .move screen => (c.move zoom screen).map fun r => (r.1, none)
  | .up _ => .ok c.release
  | .down edge _ => if c.isDragging then .error (.pressed edge) else .ok (c, none)

end Controller

end FlowCanvas
