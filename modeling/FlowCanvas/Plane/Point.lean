import FlowCanvas.Scalar

/-!
# Points

Points of the canvas, which serve as vectors too: they are added, subtracted and scaled side by
side. Division by a scalar that may be zero has to say so; where the divisor is known to be none,
`p.divide k` is the plain quotient.
-/

namespace FlowCanvas

universe u v

/-- A point, or a displacement. -/
structure Point (α : Type u) where
  /-- the horizontal side -/
  x : α
  /-- the vertical side -/
  y : α
  deriving DecidableEq, Repr

namespace Point

variable {α : Type u}

/-- The point with both sides mapped. -/
def map {β : Type v} (f : α → β) (p : Point α) : Point β := ⟨f p.x, f p.y⟩

/-- A point in words, by a text for scalars. -/
def shown (write : α → String) (p : Point α) : String :=
  "Point(x=" ++ write p.x ++ ", y=" ++ write p.y ++ ")"

variable [Scalar α]

instance : Add (Point α) := ⟨fun p q => ⟨p.x + q.x, p.y + q.y⟩⟩

instance : Sub (Point α) := ⟨fun p q => ⟨p.x - q.x, p.y - q.y⟩⟩

/-- A point with both sides multiplied. -/
def scale (p : Point α) (k : α) : Point α := ⟨p.x * k, p.y * k⟩

/-- A point with both sides divided. -/
def divide (p : Point α) (k : α) : Point α := ⟨p.x / k, p.y / k⟩

/-- A point with both sides divided, unless by zero. -/
def divide? (p : Point α) (k : α) : Option (Point α) :=
  if Scalar.isZero k then none else some (p.divide k)

/-- The distance from the origin. -/
def length (p : Point α) : α := Scalar.hypot p.x p.y

/-- Equality of value on both sides. -/
def same (p q : Point α) : Bool := Scalar.same p.x q.x && Scalar.same p.y q.y

/-- The point half way between two. -/
def midpoint (p q : Point α) : Point α :=
  ⟨(p.x + q.x) / Scalar.whole 2, (p.y + q.y) / Scalar.whole 2⟩

/-- The origin. -/
def origin : Point α := ⟨Scalar.whole 0, Scalar.whole 0⟩

@[simp] theorem add_x (p q : Point α) : (p + q).x = p.x + q.x := rfl

@[simp] theorem add_y (p q : Point α) : (p + q).y = p.y + q.y := rfl

@[simp] theorem sub_x (p q : Point α) : (p - q).x = p.x - q.x := rfl

@[simp] theorem sub_y (p q : Point α) : (p - q).y = p.y - q.y := rfl

@[simp] theorem scale_x (p : Point α) (k : α) : (p.scale k).x = p.x * k := rfl

@[simp] theorem scale_y (p : Point α) (k : α) : (p.scale k).y = p.y * k := rfl

@[simp] theorem divide_x (p : Point α) (k : α) : (p.divide k).x = p.x / k := rfl

@[simp] theorem divide_y (p : Point α) (k : α) : (p.divide k).y = p.y / k := rfl

end Point

end FlowCanvas
