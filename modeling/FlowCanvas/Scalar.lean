/-!
# Scalars

Drawing asks little of a coordinate: the four operations, a few constants, the length of a vector
and two tests. Everything geometric in this library is written over this interface. The program runs
it on `Number`; over a field with square roots the same definitions are the exact geometry, free of
rounding.
-/

namespace FlowCanvas

universe u

/-- The arithmetic of coordinates. -/
class Scalar (α : Type u) extends Add α, Sub α, Mul α, Div α, Neg α where
  /-- a whole number -/
  whole : Int → α
  /-- a fraction, by numerator and denominator -/
  ratio : Nat → Nat → α
  /-- the length of the vector with these two sides -/
  hypot : α → α → α
  /-- equality of value -/
  same : α → α → Bool
  /-- whether a scalar is above zero -/
  positive : α → Bool

namespace Scalar

variable {α : Type u} [Scalar α]

/-- Whether a scalar is zero. -/
def isZero (x : α) : Bool := same x (whole 0)

end Scalar

end FlowCanvas
