import FlowCanvas.Number.Basic
import Mathlib

/-!
# The range of doubles

Which whole numbers have a nearest double. A double is put together from the bits of its parts, so
the first fact is that its bits come back (`toBits_ofBits`); with it, a double that is assembled is
an infinity exactly when its exponent runs over (`shape_assemble_isFinite`). The greatest double
is `2 ^ 1024 - 2 ^ 971`; half a unit above it stands the least whole number that rounds to an
infinity, since a tie goes to the even side (`finite?_eq_none_iff`).
-/

namespace FlowCanvas

open Float.Model (Format UnpackedFloat)
open Float.Model.UnpackedFloat

namespace Binary64

/-! ### Bits -/

theorem toNat_unpackExponent (b : UInt64) :
    (@unpackExponent Format.binary64 b.toBitVec).toNat = b.toNat / 2 ^ 52 % 2048 := by
  simp [unpackExponent, BitVec.extractLsb_toNat, Nat.shiftRight_eq_div_pow]

theorem toNat_unpackMantissa (b : UInt64) :
    (@unpackMantissa Format.binary64 b.toBitVec).toNat = b.toNat % 2 ^ 52 := by
  simp [unpackMantissa, BitVec.extractLsb_toNat]

/-- **The bits of a double come back.** Only those that say that there is no number are kept in one
form. -/
theorem toBits_ofBits {b : UInt64} (h : b.toNat / 2 ^ 52 % 2048 = 2047 → b.toNat % 2 ^ 52 = 0) :
    (Float.ofBits b).toBits = b := by
  have number : @isNaNBits Format.binary64 b.toBitVec = false := by
    rw [isNaNBits, decide_eq_false_iff_not]
    rintro ⟨top, bottom⟩
    apply bottom
    apply BitVec.eq_of_toNat_eq
    rw [toNat_unpackMantissa]
    apply h
    rw [← toNat_unpackExponent, top]
    rfl
  have packed : pack Format.binary64 (unpack Format.binary64 b.toBitVec) = b.toBitVec := by
    rw [pack_unpack, number]
    rfl
  change UInt64.ofBitVec (pack Format.binary64 (unpack Format.binary64 b.toBitVec)) = b
  rw [packed]

/-! ### Doubles that are put together -/

/-- Whether a double is finite. -/
def Shape.isFinite : Shape → Bool
  | .finite .. => true
  | _ => false

/-- **A double that is put together is finite exactly if its exponent does not run over.** -/
theorem shape_assemble_isFinite (negative : Bool) (m : Nat) (e : Int) :
    (shape (assemble negative m e)).isFinite = true ↔
      (e - leastExponent).toNat * 2 ^ 52 + m < 2047 * 2 ^ 52 := by
  have bits : ∃ b : UInt64, assemble negative m e = Float.ofBits b ∧
      b.toNat = min ((e - leastExponent).toNat * 2 ^ 52 + m) (2047 * 2 ^ 52)
        + if negative then 2 ^ 63 else 0 := by
    refine ⟨_, rfl, ?_⟩
    rw [Nat.toUInt64_eq, UInt64.toNat_ofNat']
    apply Nat.mod_eq_of_lt
    simp only [twoTo, Nat.pow_eq]
    split <;> omega
  obtain ⟨b, made, value⟩ := bits
  -- the bits are capped at those of an infinity, so they never say that there is no number
  have back : (assemble negative m e).toBits = b := by
    rw [made]
    apply toBits_ofBits
    split at value <;> omega
  have field : b.toNat / 2 ^ 52 % 2048 = 2047 ↔
      2047 * 2 ^ 52 ≤ (e - leastExponent).toNat * 2 ^ 52 + m := by
    split at value <;> omega
  simp only [shape, back, twoTo, Nat.pow_eq]
  by_cases topped : b.toNat / 2 ^ 52 % 2048 = 2047
  · rw [if_pos topped]
    have := field.1 topped
    split <;> simp [Shape.isFinite] <;> omega
  · rw [if_neg topped]
    have := fun h => topped (field.2 h)
    split <;> simp [Shape.isFinite] <;> omega

/-! ### Rounding -/

theorem roundHalfEven_bounds (num den : Nat) :
    num / den ≤ roundHalfEven num den ∧ roundHalfEven num den ≤ num / den + 1 := by
  simp only [roundHalfEven]
  split
  · exact ⟨Nat.le_refl _, Nat.le_succ _⟩
  split
  · exact ⟨Nat.le_succ _, Nat.le_refl _⟩
  split
  · exact ⟨Nat.le_refl _, Nat.le_succ _⟩
  · exact ⟨Nat.le_succ _, Nat.le_refl _⟩

@[simp] theorem roundHalfEven_one (num : Nat) : roundHalfEven num 1 = num := by
  simp [roundHalfEven, Nat.mod_one]

/-- **What rounds to an even number or more.** Half a unit below it is enough, because the number
below is odd. -/
theorem le_roundHalfEven_iff {num den bound : Nat} (hden : 0 < den) (even : bound % 2 = 0)
    (hbound : 0 < bound) :
    bound ≤ roundHalfEven num den ↔ (2 * bound - 1) * den ≤ 2 * num := by
  have parts : den * (num / den) + num % den = num := Nat.div_add_mod num den
  have rest : num % den < den := Nat.mod_lt num hden
  obtain ⟨low, high⟩ := roundHalfEven_bounds num den
  -- rounding adds one at most, so it decides only where the quotient is one below the bound
  obtain below | just | above := Nat.lt_trichotomy (num / den + 1) bound
  · have : (num / den + 2) * den ≤ bound * den := Nat.mul_le_mul_right den below
    have : (2 * bound - 1) * den = 2 * (bound * den) - den := by
      rw [Nat.sub_mul, Nat.mul_assoc, Nat.one_mul]
    constructor
    · intro h
      omega
    · intro h
      rw [Nat.add_mul, Nat.mul_comm (num / den)] at *
      omega
  · have odd : (num / den) % 2 = 1 := by omega
    have : (2 * bound - 1) * den = 2 * (den * (num / den)) + den := by
      rw [← just, show 2 * (num / den + 1) - 1 = 2 * (num / den) + 1 by omega, Nat.add_mul,
        Nat.one_mul, Nat.mul_assoc, Nat.mul_comm den]
    have rounds : bound ≤ roundHalfEven num den ↔ den ≤ 2 * (num % den) := by
      simp only [roundHalfEven]
      split
      · omega
      split
      · omega
      split <;> omega
    rw [rounds]
    omega
  · have : bound * den ≤ num / den * den := Nat.mul_le_mul_right den (Nat.le_of_lt_succ above)
    have : (2 * bound - 1) * den ≤ 2 * (bound * den) := by
      rw [← Nat.mul_assoc]
      exact Nat.mul_le_mul_right den (Nat.sub_le _ _)
    rw [Nat.mul_comm (num / den)] at *
    constructor
    · intro h
      omega
    · intro h
      omega

/-! ### Whole numbers -/

/-- Half a unit above the greatest number of 53 bits times `2 ^ (k + 1)`. -/
def halfAbove (k : Nat) : Nat := (2 ^ 54 - 1) * 2 ^ k

/-- Half a unit above the greatest double, which is `(2 ^ 53 - 1) * 2 ^ 971`. -/
def overflowBound : Nat := halfAbove 970

theorem lt_halfAbove_of_log2_lt {n k : Nat} (h : n.log2 < 53 + k) : n < halfAbove k := by
  have size : n < 2 ^ (n.log2 + 1) := Nat.lt_log2_self
  have wide : 2 ^ (n.log2 + 1) ≤ 2 ^ (53 + k) := Nat.pow_le_pow_right (by decide) (by omega)
  have bound : 2 ^ 53 * 2 ^ k ≤ halfAbove k := Nat.mul_le_mul_right _ (by decide)
  rw [Nat.pow_add 2 53] at wide
  exact lt_of_lt_of_le size (wide.trans bound)

theorem ne_zero_of_lt_log2 {n k : Nat} (h : k < n.log2) : n ≠ 0 := by
  rintro rfl
  exact absurd h (Nat.not_lt_zero _)

theorem halfAbove_le_of_lt_log2 {n k : Nat} (h : 53 + k < n.log2) : halfAbove k ≤ n := by
  have least : 2 ^ n.log2 ≤ n := Nat.log2_self_le (ne_zero_of_lt_log2 h)
  have wide : 2 ^ (54 + k) ≤ 2 ^ n.log2 := Nat.pow_le_pow_right (by decide) (by omega)
  have bound : halfAbove k ≤ 2 ^ 54 * 2 ^ k := Nat.mul_le_mul_right _ (by decide)
  rw [Nat.pow_add 2 54] at wide
  exact bound.trans (wide.trans least)

/-- Half a unit below `2 ^ 53` units is enough to round to it. -/
theorem two_pow_le_roundHalfEven_iff {n k : Nat} :
    2 ^ 53 ≤ roundHalfEven n (2 ^ (k + 1)) ↔ halfAbove k ≤ n := by
  rw [le_roundHalfEven_iff (Nat.two_pow_pos _) (by decide) (by decide), halfAbove, Nat.pow_succ]
  omega

theorem floorLog2_one {n : Nat} (h : n ≠ 0) : floorLog2 n 1 = (n.log2 : Int) := by
  have fits : 2 ^ n.log2 ≤ n := Nat.log2_self_le h
  have one : Nat.log2 1 = 0 := by decide
  simp only [floorLog2, one, Int.ofNat_zero, Int.sub_zero, twoTo, Nat.pow_eq, Nat.one_mul]
  rw [if_pos]
  rwa [if_pos (Int.natCast_nonneg _), Int.toNat_natCast]

/-- The last bit of a double near `2 ^ k`. -/
theorem unitExponent_natCast (k : Nat) : unitExponent (k : Int) = (k : Int) - 52 := by
  simp only [unitExponent, leastExponent]
  omega

/-- A large whole number is cut to its first 53 bits, and rounded there. -/
theorem ofInt_of_large {n : Int} (h : 52 ≤ n.natAbs.log2) :
    ofInt n = assemble (decide (n < 0)) (roundHalfEven n.natAbs (2 ^ (n.natAbs.log2 - 52)))
      ((n.natAbs.log2 : Int) - 52) := by
  have pos : n.natAbs ≠ 0 := ne_zero_of_lt_log2 (Nat.lt_of_lt_of_le (Nat.zero_lt_succ 51) h)
  have shift : ((n.natAbs.log2 : Int) - 52).toNat = n.natAbs.log2 - 52 := by omega
  simp only [ofInt, ofRatio, if_neg pos, floorLog2_one pos, unitExponent_natCast, shift, twoTo,
    Nat.pow_eq, Nat.one_mul]
  rw [if_pos (by omega)]

/-- A whole number below `2 ^ 52` has a double of its own. -/
theorem isFinite_ofInt_of_small {n : Int} (h : n.natAbs.log2 < 52) :
    (shape (ofInt n)).isFinite = true := by
  rw [ofInt, ofRatio]
  split
  · rw [shape_assemble_isFinite]
    decide
  · next pos =>
    have size : n.natAbs < 2 ^ (n.natAbs.log2 + 1) := Nat.lt_log2_self
    have scaled : n.natAbs * 2 ^ (52 - n.natAbs.log2) < 2 ^ 53 := by
      calc n.natAbs * 2 ^ (52 - n.natAbs.log2)
          < 2 ^ (n.natAbs.log2 + 1) * 2 ^ (52 - n.natAbs.log2) :=
            Nat.mul_lt_mul_of_pos_right size (Nat.two_pow_pos _)
        _ = 2 ^ 53 := by rw [← Nat.pow_add]; congr 1; omega
    have shift : (-((n.natAbs.log2 : Int) - 52)).toNat = 52 - n.natAbs.log2 := by omega
    simp only [floorLog2_one pos, unitExponent_natCast, shift, twoTo, Nat.pow_eq]
    rw [if_neg (by omega), roundHalfEven_one, shape_assemble_isFinite]
    simp only [leastExponent]
    omega

/-- The first 53 bits of a number begin with a one. -/
theorem leading_bits {n : Nat} (h : 52 ≤ n.log2) :
    2 ^ 52 ≤ n / 2 ^ (n.log2 - 52) ∧ n / 2 ^ (n.log2 - 52) < 2 ^ 53 := by
  have pos : n ≠ 0 := ne_zero_of_lt_log2 (Nat.lt_of_lt_of_le (Nat.zero_lt_succ 51) h)
  have least : 2 ^ n.log2 ≤ n := Nat.log2_self_le pos
  have size : n < 2 ^ (n.log2 + 1) := Nat.lt_log2_self
  constructor
  · rw [Nat.le_div_iff_mul_le (Nat.two_pow_pos _), ← Nat.pow_add]
    rwa [show 52 + (n.log2 - 52) = n.log2 by omega]
  · rw [Nat.div_lt_iff_lt_mul (Nat.two_pow_pos _), ← Nat.pow_add]
    rwa [show 53 + (n.log2 - 52) = n.log2 + 1 by omega]

/-- **Which whole numbers have a finite nearest double.** -/
theorem isFinite_ofInt (n : Int) :
    (shape (ofInt n)).isFinite = true ↔ n.natAbs < overflowBound := by
  by_cases small : n.natAbs.log2 < 52
  · have narrow : n.natAbs.log2 < 53 + 970 := by omega
    exact iff_of_true (isFinite_ofInt_of_small small) (lt_halfAbove_of_log2_lt (k := 970) narrow)
  have large : 52 ≤ n.natAbs.log2 := not_lt.1 small
  obtain ⟨leading, quotient⟩ := leading_bits large
  obtain ⟨low, high⟩ := roundHalfEven_bounds n.natAbs (2 ^ (n.natAbs.log2 - 52))
  have exponent : ((n.natAbs.log2 : Int) - 52 - leastExponent).toNat = n.natAbs.log2 + 1022 := by
    simp only [leastExponent]
    omega
  rw [ofInt_of_large large, shape_assemble_isFinite, exponent]
  -- only at the exponent of the greatest double does the significand decide
  obtain less | equal | more := Nat.lt_trichotomy n.natAbs.log2 1023
  · refine iff_of_true ?_ (lt_halfAbove_of_log2_lt (k := 970) less)
    omega
  · have shift : n.natAbs.log2 - 52 = 970 + 1 := by omega
    have tie : 2 ^ 53 ≤ roundHalfEven n.natAbs (2 ^ (n.natAbs.log2 - 52)) ↔
        overflowBound ≤ n.natAbs := by
      rw [shift]
      exact two_pow_le_roundHalfEven_iff (k := 970)
    omega
  · refine iff_of_false ?_ (not_lt.2 (halfAbove_le_of_lt_log2 (k := 970) more))
    omega

end Binary64

namespace Number

/-- **The whole numbers beyond the greatest double.** -/
theorem finite?_eq_none_iff (n : Int) : finite? n = none ↔ Binary64.overflowBound ≤ n.natAbs := by
  rw [← not_lt, ← Binary64.isFinite_ofInt]
  simp only [finite?]
  split
  · next h => simp [h, Binary64.Shape.isFinite]
  · next h =>
    cases shape : Binary64.shape (Binary64.ofInt n) with
    | nan => simp [Binary64.Shape.isFinite]
    | infinite negative => simp [Binary64.Shape.isFinite]
    | finite negative m e => exact absurd shape (h negative m e)

end Number

end FlowCanvas
