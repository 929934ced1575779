import FlowCanvas.Proofs.Plane.Pen
import Mathlib.Tactic.FieldSimp
import Mathlib.Tactic.Linarith
import Mathlib.Tactic.Positivity

/-!
# The path of an edge

The path of an edge has one handle, which is computed in two ways: along the chord, or for a loop at
a right angle to the spoke. Both divide a vector by its length only to multiply by it again. The
length is not zero there: run on scalars that mark what a division by zero has spoiled, the same
definitions give the same path without a mark (`Path.through_checked`). So in exact arithmetic the
handles are a quarter of the chord and half of the spoke away from the control point
(`Path.through_of_ne`, `Path.loop_of_ne`).

The tangent at the control point is twice the way from the handle to it, on both sides of it
(`Path.smooth_through`).
-/

namespace FlowCanvas

universe u

namespace Path

variable {α : Type u} [Scalar α] {s t c : Point α}

/-! ### The two handles -/

/-- The handle of an edge, along its chord. -/
def chordHandle (s t c : Point α) : Point α :=
  c - ((t - s).divide (t - s).length).scale ((t - s).length * curvature)

/-- The handle of a loop, at a right angle to its spoke. -/
def spokeHandle (s c : Point α) : Point α :=
  let direction := (c - s).divide (c - s).length
  c + Point.scale ⟨-direction.y, direction.x⟩ ((c - s).length * bulge)

theorem through_of_isZero (h : Scalar.isZero (t - s).length = true) : through s t c = loop s t c :=
  if_pos h

theorem through_of_not_isZero (h : ¬ Scalar.isZero (t - s).length = true) :
    through s t c = [.move s, .quad (chordHandle s t c) c, .smooth t] :=
  if_neg h

theorem loop_of_isZero (h : Scalar.isZero (c - s).length = true) : loop s t c = [.move s] :=
  if_pos h

theorem loop_of_not_isZero (h : ¬ Scalar.isZero (c - s).length = true) :
    loop s t c = [.move s, .quad (spokeHandle s c) c, .smooth t] :=
  if_neg h

/-- An edge begins with a move to its source, so its path has curves. -/
theorem exists_curves_through (s t c : Point α) :
    ∃ curves, (through s t c).curves = .ok curves := by
  by_cases chord : Scalar.isZero (t - s).length = true
  · rw [through_of_isZero chord]
    by_cases spoke : Scalar.isZero (c - s).length = true
    · exact ⟨_, congrArg curves (loop_of_isZero spoke)⟩
    · exact ⟨_, congrArg curves (loop_of_not_isZero spoke)⟩
  · exact ⟨_, congrArg curves (through_of_not_isZero chord)⟩

end Path

/-! ### Divisions that are checked -/

namespace Checked

variable {α : Type u} [Scalar α]

/-- Scalars with a mark, `none`, for what a division by zero has spoiled. Every operation hands the
mark on. -/
scoped instance : Scalar (Option α) where
  add := Option.map₂ (· + ·)
  sub := Option.map₂ (· - ·)
  mul := Option.map₂ (· * ·)
  div a b := a.bind fun x => b.bind fun y => if Scalar.isZero y then none else some (x / y)
  neg := Option.map (- ·)
  whole n := some (Scalar.whole n)
  ratio num den := some (Scalar.ratio num den)
  hypot := Option.map₂ Scalar.hypot
  same a b := (Option.map₂ Scalar.same a b).getD false
  positive a := a.any Scalar.positive

/-- A displacement over its length, if that is not zero. -/
theorem direction_some {p q : Point α} (away : ¬ Scalar.isZero (p - q).length = true) :
    (p.map some - q.map some).divide (p.map some - q.map some).length =
      ((p - q).divide (p - q).length).map some := by
  have quotient (x : α) : some x / some (p - q).length = some (x / (p - q).length) := if_neg away
  exact Point.ext (quotient (p - q).x) (quotient (p - q).y)

end Checked

namespace Path

variable {α : Type u} [Scalar α]

open scoped Checked

theorem chordHandle_checked {s t : Point α} (away : ¬ Scalar.isZero (t - s).length = true)
    (c : Point α) :
    chordHandle (s.map some) (t.map some) (c.map some) = (chordHandle s t c).map some := by
  rw [chordHandle, Checked.direction_some away]
  rfl

theorem spokeHandle_checked {s c : Point α} (away : ¬ Scalar.isZero (c - s).length = true) :
    spokeHandle (s.map some) (c.map some) = (spokeHandle s c).map some := by
  rw [spokeHandle, Checked.direction_some away]
  rfl

theorem loop_checked (s t c : Point α) :
    loop (s.map some) (t.map some) (c.map some) =
      (loop s t c).map (Segment.map (Point.map some)) := by
  by_cases zero : Scalar.isZero (c - s).length = true
  · rw [loop_of_isZero zero]
    exact loop_of_isZero zero
  · rw [loop_of_not_isZero zero, List.map_cons, List.map_cons, Segment.map, Segment.map,
      ← spokeHandle_checked zero]
    exact loop_of_not_isZero zero

/-- **The path of an edge is computed without a division by zero.** -/
theorem through_checked (s t c : Point α) :
    through (s.map some) (t.map some) (c.map some) =
      (through s t c).map (Segment.map (Point.map some)) := by
  by_cases zero : Scalar.isZero (t - s).length = true
  · rw [through_of_isZero zero, ← loop_checked]
    exact through_of_isZero zero
  · rw [through_of_not_isZero zero, List.map_cons, List.map_cons, Segment.map, Segment.map,
      ← chordHandle_checked zero]
    exact through_of_not_isZero zero

end Path

/-! ### Exact geometry -/

open scoped Plane

namespace Point

/-- A vector turned by a right angle. -/
def turned (p : Point ℝ) : Point ℝ := ⟨-p.y, p.x⟩

/-- Two vectors are at a right angle, or one of them is zero. -/
def IsNormal (p q : Point ℝ) : Prop := p.x * q.x + p.y * q.y = 0

theorem length_sub_eq_zero_iff {p q : Point ℝ} : (p - q).length = 0 ↔ p = q := by
  rw [Plane.length_eq, Real.sqrt_eq_zero (by positivity), Point.ext_iff, sub_x, sub_y]
  constructor
  · intro h
    constructor
    · nlinarith
    · nlinarith
  · rintro ⟨hx, hy⟩
    simp [hx, hy]

theorem isZero_length_iff {p q : Point ℝ} : Scalar.isZero (p - q).length = true ↔ p = q := by
  rw [Plane.isZero_iff, length_sub_eq_zero_iff]

/-- A vector over its length, times a part of that length, is that part of the vector. -/
theorem divide_scale (p : Point ℝ) {d : ℝ} (hd : d ≠ 0) (k : ℝ) :
    (p.divide d).scale (d * k) = p.scale k := by
  ext
  · simp only [scale_x, divide_x]
    field_simp
  · simp only [scale_y, divide_y]
    field_simp

theorem turned_divide (p : Point ℝ) (d : ℝ) : (p.divide d).turned = p.turned.divide d := by
  ext
  · exact (neg_div d p.y).symm
  · rfl

theorem turned_isNormal (p q : Point ℝ) : (p - q).turned.IsNormal (q - p) := by
  simp only [IsNormal, turned, sub_x, sub_y]
  ring

theorem length_turned (p q : Point ℝ) : (p - q).turned.length = (q - p).length := by
  rw [Plane.length_eq, Plane.length_eq]
  congr 1
  simp only [turned, sub_x, sub_y]
  ring

end Point

namespace Path

theorem through_of_ne {s t : Point ℝ} (h : s ≠ t) (c : Point ℝ) :
    through s t c = [.move s, .quad (c - (t - s).scale 4⁻¹) c, .smooth t] := by
  have away : ¬ Scalar.isZero (t - s).length = true := mt Point.isZero_length_iff.mp h.symm
  have quarter : (curvature : ℝ) = 4⁻¹ := by simp [curvature]
  rw [through_of_not_isZero away, chordHandle, quarter,
    Point.divide_scale _ (mt Point.length_sub_eq_zero_iff.mp h.symm)]

theorem through_self (s c : Point ℝ) : through s s c = loop s s c :=
  through_of_isZero (Point.isZero_length_iff.mpr rfl)

theorem loop_self (s t : Point ℝ) : loop s t s = [.move s] :=
  loop_of_isZero (Point.isZero_length_iff.mpr rfl)

theorem loop_of_ne {s c : Point ℝ} (h : c ≠ s) (t : Point ℝ) :
    loop s t c = [.move s, .quad (c + (c - s).turned.scale 2⁻¹) c, .smooth t] := by
  have away : ¬ Scalar.isZero (c - s).length = true := mt Point.isZero_length_iff.mp h
  have half : (bulge : ℝ) = 2⁻¹ := by simp [bulge]
  have handle : spokeHandle s c = c + (c - s).turned.scale 2⁻¹ := by
    calc spokeHandle s c
        = c + ((c - s).divide (c - s).length).turned.scale ((c - s).length * bulge) := rfl
      _ = c + (c - s).turned.scale 2⁻¹ := by
        rw [Point.turned_divide, half,
          Point.divide_scale _ (mt Point.length_sub_eq_zero_iff.mp h)]
  rw [loop_of_not_isZero away, handle]

end Path

/-! ### The tangent -/

namespace Path

/-- A path of two curves, by way of a point where both have one tangent. -/
def GoesSmoothly (p : Path ℝ) (source control target tangent : Point ℝ) : Prop :=
  ∃ first second, p.curves = .ok [first, second] ∧
    first.start = source ∧ first.tip = control ∧
    second.start = control ∧ second.tip = target ∧
    first.derivativeAt 1 = tangent ∧ second.derivativeAt 0 = tangent

theorem goesSmoothly_of_handle (s h c t : Point ℝ) :
    GoesSmoothly [.move s, .quad h c, .smooth t] s c t ((c - h).scale 2) := by
  have tangent : (⟨s, h, c⟩ : Bezier ℝ).derivativeAt 1 = (c - h).scale 2 := by
    ext <;> simp [Bezier.derivativeAt]
  exact ⟨⟨s, h, c⟩, ⟨c, c.scale (Scalar.whole 2) - h, t⟩, rfl, rfl, rfl, rfl, rfl, tangent,
    (Bezier.derivativeAt_reflected ⟨s, h, c⟩ t).trans tangent⟩

open scoped Checked in
/-- **Edges are smooth at their control point**, in exact arithmetic. Nothing is divided by zero. If
all three points are one, the path is a move. Otherwise it has two curves, from the source to the
control point and on to the target, with one tangent at the control point: half of the chord, or for
a loop a vector at a right angle to the spoke and of its length. -/
theorem smooth_through (s t c : Point ℝ) :
    through (s.map some) (t.map some) (c.map some) =
        (through s t c).map (Segment.map (Point.map some)) ∧
      if s = t ∧ t = c then through s t c = [.move s] ∧ (through s t c).curves = .ok []
      else ∃ tangent, (through s t c).GoesSmoothly s c t tangent ∧
        if s = t then tangent.IsNormal (c - s) ∧ tangent.length = (c - s).length
        else tangent = (t - s).divide 2 := by
  refine ⟨through_checked s t c, ?_⟩
  by_cases loops : s = t
  · subst loops
    rw [through_self]
    by_cases collapsed : c = s
    · subst collapsed
      rw [if_pos ⟨rfl, rfl⟩, loop_self]
      exact ⟨rfl, rfl⟩
    · rw [if_neg fun same => collapsed same.2.symm, loop_of_ne collapsed]
      refine ⟨_, goesSmoothly_of_handle s _ c s, ?_⟩
      have tangent : (c - (c + (c - s).turned.scale 2⁻¹)).scale 2 = (s - c).turned := by
        ext <;> simp [Point.turned]
      rw [if_pos rfl, tangent]
      exact ⟨Point.turned_isNormal s c, Point.length_turned s c⟩
  · rw [if_neg fun same => loops same.1, through_of_ne loops]
    refine ⟨_, goesSmoothly_of_handle s _ c t, ?_⟩
    rw [if_neg loops]
    ext
    · simp
      ring
    · simp
      ring

end Path

end FlowCanvas
