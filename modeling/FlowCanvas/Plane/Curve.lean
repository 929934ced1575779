import FlowCanvas.Plane.Point

/-!
# Curves

An edge is drawn as two quadratic Bézier curves that meet at its control point. The first has an
explicit handle; the second is smooth, which means that its handle is the first one reflected
through the control point, so that the tangent is the same on both sides of it. The handle lies on
the line through the control point along the chord of the edge, at a quarter of the chord's length.

An edge with both ends at one point is drawn as a teardrop: its handle stands off the control point
at a right angle. When the control point is there too, nothing is left but a point.
-/

namespace FlowCanvas

universe u

/-- A part of a path. -/
inductive Segment (α : Type u) where
  /-- a new start -/
  | move (tip : Point α)
  /-- a curve with its handle -/
  | quad (handle tip : Point α)
  /-- a curve that goes on smoothly -/
  | smooth (tip : Point α)
  deriving DecidableEq, Repr

/-- A quadratic Bézier curve. -/
structure Bezier (α : Type u) where
  /-- where the curve starts -/
  start : Point α
  /-- the handle -/
  handle : Point α
  /-- where the curve ends -/
  tip : Point α
  deriving DecidableEq, Repr

/-- The fault of a path that begins with a curve. -/
inductive PathFault where
  /-- there is no point to start from -/
  | noStart
  deriving DecidableEq, Repr

/-- The wording of the fault. -/
def PathFault.message : PathFault → String
  | noStart => "Path must start with a move"

namespace Bezier

variable {α : Type u} [Scalar α]

/-- The point at parameter `t`: `(1 - t)² start + 2 (1 - t) t handle + t² tip`. -/
def pointAt (b : Bezier α) (t : α) : Point α :=
  let u := Scalar.whole 1 - t
  b.start.scale (u * u) + b.handle.scale (Scalar.whole 2 * u * t) + b.tip.scale (t * t)

/-- The derivative at parameter `t`: `2 (1 - t) (handle - start) + 2 t (tip - handle)`. -/
def derivativeAt (b : Bezier α) (t : α) : Point α :=
  (b.handle - b.start).scale (Scalar.whole 2 * (Scalar.whole 1 - t)) +
    (b.tip - b.handle).scale (Scalar.whole 2 * t)

end Bezier

namespace Segment

variable {α : Type u}

/-- Whether a segment is a move. -/
def isMove : Segment α → Bool
  | move _ => true
  | _ => false

/-- The point that a segment leaves the pen at. -/
def last : Segment α → Point α
  | move p => p
  | quad _ p => p
  | smooth p => p

/-- A point in the text of a path, by a text for scalars. -/
def pointText (write : α → List Char) (p : Point α) : List Char := write p.x ++ ',' :: write p.y

/-- The text of a segment, by a text for scalars. -/
def text (write : α → List Char) : Segment α → List Char
  | move p => 'M' :: ' ' :: pointText write p
  | quad h p => 'Q' :: ' ' :: pointText write h ++ ' ' :: pointText write p
  | smooth p => 'T' :: ' ' :: pointText write p

end Segment

/-- A path: segments, one after the other. -/
abbrev Path (α : Type u) := List (Segment α)

namespace Path

variable {α : Type u}

/-- The text of a path, by a text for scalars. -/
def text (write : α → List Char) (p : Path α) : List Char :=
  [' '].intercalate (p.map (Segment.text write))

/-- Whether a path is only moves, so that it draws a point. -/
def isPoint (p : Path α) : Bool := p.all Segment.isMove

variable [Scalar α]

/-- The curves of a path with the pen at `pen`, after a curve with handle `handle` if the last
segment was one. A smooth segment reflects that handle, or starts with its handle on the pen. -/
def curvesFrom (pen : Point α) (handle : Option (Point α)) : Path α → List (Bezier α)
  | [] => []
  | .move p :: rest => curvesFrom p none rest
  | .quad h p :: rest => ⟨pen, h, p⟩ :: curvesFrom p (some h) rest
  | .smooth p :: rest =>
    let h := match handle with
      | some h => pen.scale (Scalar.whole 2) - h
      | none => pen
    ⟨pen, h, p⟩ :: curvesFrom p (some h) rest

/-- The curves of a path, which begins with a move unless it is empty. -/
def curves : Path α → Except PathFault (List (Bezier α))
  | [] => .ok []
  | .move p :: rest => .ok (curvesFrom p none rest)
  | _ => .error .noStart

/-- How far the handle is from the control point, as a fraction of the chord. -/
def curvature : α := Scalar.ratio 1 4

/-- How far the handle of a loop is from the control point, as a fraction of its distance from the
ends. -/
def bulge : α := Scalar.ratio 1 2

/-- The path of an edge with both ends at `source`. -/
def loop (source target control : Point α) : Path α :=
  let spoke := control - source
  let distance := spoke.length
  if Scalar.isZero distance then [.move source]
  else
    let direction := spoke.divide distance
    let normal : Point α := ⟨-direction.y, direction.x⟩
    [.move source, .quad (control + normal.scale (distance * bulge)) control, .smooth target]

/-- The path of an edge from `source` to `target` through `control`. -/
def through (source target control : Point α) : Path α :=
  let chord := target - source
  let distance := chord.length
  if Scalar.isZero distance then loop source target control
  else
    let direction := chord.divide distance
    [.move source, .quad (control - direction.scale (distance * curvature)) control,
      .smooth target]

end Path

end FlowCanvas
