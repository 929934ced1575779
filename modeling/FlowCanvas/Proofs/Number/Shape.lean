import FlowCanvas.Proofs.Number.Range

/-!
# Doubles put together again

A double is determined by its shape: `assemble` puts a finite one together again from its parts
(`assemble_of_shape`), an infinity has one double for each sign, and there is one double that is no
number. `IsParts` says which significands and exponents the parts are; each magnitude has one such
pair, except that `2 ^ 53` units are also `2 ^ 52` of the next unit (`assemble_carry`).
-/

namespace FlowCanvas.Binary64

open Float.Model (Format UnpackedFloat)
open Float.Model.UnpackedFloat

/-- The significands and exponents of doubles: all 53 bits are used unless the exponent is the
least. -/
structure IsParts (m : Nat) (e : Int) : Prop where
  /-- a significand has 53 bits at most -/
  lt : m < 2 ^ 53
  /-- an exponent is at least that of the least double -/
  least_le : leastExponent ≤ e
  /-- an exponent is at most that of the greatest double -/
  le_greatest : e ≤ 971
  /-- above the least exponent the first of the 53 bits is set -/
  full : e ≠ leastExponent → 2 ^ 52 ≤ m

theorem isParts_of_shape {x : Float} {negative : Bool} {m : Nat} {e : Int}
    (h : shape x = .finite negative m e) : IsParts m e := by
  simp only [shape, twoTo, Nat.pow_eq] at h
  split at h
  · split at h <;> cases h
  split at h
  · cases h
    exact ⟨by omega, Int.le_refl _, by decide, fun h => absurd rfl h⟩
  · cases h
    exact ⟨by omega, by simp only [leastExponent]; omega, by omega, fun _ => by omega⟩

/-- A double has the bits it was taken apart by. -/
theorem ofBits_eq_of_toNat {x : Float} {n : Nat} (h : n = x.toBits.toNat) :
    Float.ofBits n.toUInt64 = x := by
  subst h
  simp

/-- **A finite double is put together again from its parts.** -/
theorem assemble_of_shape {x : Float} {negative : Bool} {m : Nat} {e : Int}
    (h : shape x = .finite negative m e) : assemble negative m e = x := by
  have size : x.toBits.toNat < 2 ^ 64 := x.toBits.toNat_lt
  apply ofBits_eq_of_toNat
  simp only [shape, twoTo, Nat.pow_eq] at h ⊢
  split at h
  · split at h <;> cases h
  split at h
  all_goals
    cases h
    simp only [leastExponent, decide_eq_true_eq]
    split <;> omega

/-- There is one infinity of each sign. -/
theorem infinity_of_shape {x : Float} {negative : Bool} (h : shape x = .infinite negative) :
    infinity negative = x := by
  have size : x.toBits.toNat < 2 ^ 64 := x.toBits.toNat_lt
  apply ofBits_eq_of_toNat
  simp only [shape, twoTo, Nat.pow_eq] at h ⊢
  split at h
  · split at h
    · cases h
      simp only [leastExponent, decide_eq_true_eq]
      split <;> omega
    · cases h
  · split at h <;> cases h

/-- There is one double that is no number, whose bits are of one form. -/
theorem eq_nan_of_shape {x : Float} (h : shape x = .nan) : 0.0 / 0.0 = x := by
  have bits : x.toBits.toBitVec = packedNaN Format.binary64 := by
    simp only [shape, twoTo, Nat.pow_eq] at h
    split at h
    · next top =>
      split at h
      · cases h
      next bottom =>
      apply x.toModel.valid.eq_packedNaN
      · apply BitVec.eq_of_toNat_eq
        exact (toNat_unpackExponent x.toBits).trans top
      · intro zero
        apply bottom
        rw [← toNat_unpackMantissa]
        exact congrArg BitVec.toNat zero
    · split at h <;> cases h
  calc (0.0 / 0.0 : Float) = Float.ofBits (UInt64.ofBitVec (packedNaN Format.binary64)) := by rfl
    _ = Float.ofBits x.toBits := by rw [← bits]
    _ = x := Float.ofBits_toBits x

/-- `2 ^ 53` units are `2 ^ 52` of the next unit, in bits as in value. -/
theorem assemble_carry (negative : Bool) {e : Int} (h : leastExponent < e) :
    assemble negative (2 ^ 53) (e - 1) = assemble negative (2 ^ 52) e := by
  have bits : (e - 1 - leastExponent).toNat * 2 ^ 52 + 2 ^ 53
      = (e - leastExponent).toNat * 2 ^ 52 + 2 ^ 52 := by
    omega
  simp only [assemble, twoTo, Nat.pow_eq, bits]

end FlowCanvas.Binary64
