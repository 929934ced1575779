import FlowCanvas.Plane.Point

/-!
# Viewports

The canvas is seen through a viewport that pans and zooms: a point `p` of the canvas appears on
screen at `p * zoom + (x, y)`. The zoom is positive, so the map has an inverse, and a displacement
on screen is one on the canvas that the pan does not enter.
-/

namespace FlowCanvas

universe u

/-- What is wrong with a viewport: its zoom is not positive. -/
structure BadZoom (α : Type u) where
  /-- the zoom that was asked for -/
  zoom : α
  deriving DecidableEq, Repr

/-- The wording of the fault, by a text for the zoom. -/
def BadZoom.message {α : Type u} (write : α → String) (f : BadZoom α) : String :=
  "Viewport zoom must be positive, got " ++ write f.zoom

/-- Pan and zoom. -/
structure Viewport (α : Type u) where
  /-- the horizontal pan, in screen pixels -/
  x : α
  /-- the vertical pan, in screen pixels -/
  y : α
  /-- screen pixels per unit of the canvas -/
  zoom : α
  deriving DecidableEq, Repr

namespace Viewport

variable {α : Type u} [Scalar α]

/-- The viewport of a fresh canvas: no pan, no magnification. -/
def initial : Viewport α := ⟨Scalar.ratio 0 1, Scalar.ratio 0 1, Scalar.ratio 1 1⟩

/-- A viewport, unless its zoom is not positive. -/
def of (x y zoom : α) : Except (BadZoom α) (Viewport α) :=
  if Scalar.positive zoom then .ok ⟨x, y, zoom⟩ else .error ⟨zoom⟩

/-- The point of the canvas under a point of the screen. -/
def toGraph (v : Viewport α) (p : Point α) : Point α := ⟨(p.x - v.x) / v.zoom, (p.y - v.y) / v.zoom⟩

/-- Where a point of the canvas appears on screen. -/
def toScreen (v : Viewport α) (p : Point α) : Point α := ⟨p.x * v.zoom + v.x, p.y * v.zoom + v.y⟩

/-- The displacement on the canvas that a displacement on screen shows. -/
def deltaToGraph (v : Viewport α) (d : Point α) : Point α := d.divide v.zoom

end Viewport

end FlowCanvas
