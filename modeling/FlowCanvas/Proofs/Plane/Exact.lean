import FlowCanvas.Plane.Point
import Mathlib.Analysis.Real.Sqrt

/-!
# Exact scalars

Scalars are exact if two of them have one value only where they are one scalar. Numbers are not, for
a whole number and a double may have one value. The real numbers are, with the Euclidean length, and
over them the geometry of a canvas is free of rounding.
-/

namespace FlowCanvas

universe u

/-- Scalars without two of one value. -/
class Scalar.IsExact (α : Type u) [Scalar α] : Prop where
  /-- scalars of one value are one scalar -/
  eq_of_same : ∀ {x y : α}, Scalar.same x y = true → x = y

theorem Point.eq_of_same {α : Type u} [Scalar α] [Scalar.IsExact α] {p q : Point α}
    (h : p.same q = true) : p = q := by
  obtain ⟨hx, hy⟩ := Bool.and_eq_true_iff.mp h
  obtain ⟨x, y⟩ := p
  obtain ⟨x', y'⟩ := q
  obtain rfl : x = x' := Scalar.IsExact.eq_of_same hx
  obtain rfl : y = y' := Scalar.IsExact.eq_of_same hy
  rfl

attribute [ext] Point

namespace Plane

/-- The arithmetic of the plane. -/
noncomputable scoped instance : Scalar ℝ where
  whole n := n
  ratio num den := num / den
  hypot x y := √(x ^ 2 + y ^ 2)
  same x y := decide (x = y)
  positive x := decide (0 < x)

scoped instance : Scalar.IsExact ℝ := ⟨of_decide_eq_true⟩

@[simp] theorem whole_eq (n : ℤ) : (Scalar.whole n : ℝ) = n := rfl

@[simp] theorem ratio_eq (num den : ℕ) : (Scalar.ratio num den : ℝ) = num * (den : ℝ)⁻¹ :=
  div_eq_mul_inv _ _

@[simp] theorem isZero_iff (x : ℝ) : Scalar.isZero x = true ↔ x = 0 := by
  simp [Scalar.isZero, Scalar.same]

theorem length_eq (p : Point ℝ) : p.length = √(p.x ^ 2 + p.y ^ 2) := rfl

end Plane

end FlowCanvas
