import FlowCanvas.Number.Numeral
import FlowCanvas.Proofs.Number.Shape

/-!
# The nearest double

Which ratios round to a given double. The interval of a double reaches half a unit to both sides,
and below a power of two only a quarter, where the units are half as large; its ends belong to it if
the significand is even (`RoundsTo`). Every ratio in the interval rounds to the double
(`ofRatio_of_roundsTo`), and so does every decimal, however long (`nearest_of_roundsTo`): the sizes
at which a numeral is settled without a ratio are outside of all intervals.
-/

namespace FlowCanvas

/-- An integer power is a ratio of two natural ones, one of which is one. -/
theorem zpow_eq_toNat_div (c : ℚ) (k : ℤ) :
    c ^ k = c ^ k.toNat / c ^ (-k).toNat := by
  obtain ⟨n, rfl | rfl⟩ := k.eq_nat_or_neg
  · simp
  · simp [zpow_neg]

/-- Whether a ratio reaches a power, decided on integers. -/
theorem zpow_le_ratio_iff {c : ℕ} (hc : 0 < c) (num : ℕ) {den : ℕ} (hden : 0 < den) (k : ℤ) :
    (c : ℚ) ^ k ≤ num / den ↔
      if 0 ≤ k then den * c ^ k.toNat ≤ num else den ≤ num * c ^ (-k).toNat := by
  have cpos : (0 : ℚ) < c := by exact_mod_cast hc
  have dpos : (0 : ℚ) < den := by exact_mod_cast hden
  split
  · next h =>
    obtain ⟨n, rfl⟩ := Int.eq_ofNat_of_zero_le h
    rw [Int.toNat_natCast, zpow_natCast, le_div_iff₀ dpos, mul_comm]
    exact_mod_cast Iff.rfl
  · next h =>
    obtain ⟨n, rfl⟩ : ∃ n : ℕ, k = -n := ⟨(-k).toNat, by omega⟩
    rw [neg_neg, Int.toNat_natCast, zpow_neg, zpow_natCast, inv_le_iff_one_le_mul₀ (by positivity),
      div_mul_eq_mul_div, one_le_div dpos]
    exact_mod_cast Iff.rfl

namespace Binary64

/-! ### Logarithms -/

/-- The logarithms of the two sides tell that of a ratio, up to one. -/
theorem ratio_between_powers {num den : ℕ} (hnum : 0 < num) (hden : 0 < den) :
    (2 : ℚ) ^ ((num.log2 : ℤ) - den.log2 - 1) ≤ num / den ∧
      (num : ℚ) / den < 2 ^ ((num.log2 : ℤ) - den.log2 + 1) := by
  have dpos : (0 : ℚ) < den := by exact_mod_cast hden
  have numLow : (2 : ℚ) ^ num.log2 ≤ num := by exact_mod_cast Nat.log2_self_le hnum.ne'
  have numHigh : (num : ℚ) < 2 ^ (num.log2 + 1) := by exact_mod_cast Nat.lt_log2_self
  have denLow : (2 : ℚ) ^ den.log2 ≤ den := by exact_mod_cast Nat.log2_self_le hden.ne'
  have denHigh : (den : ℚ) < 2 ^ (den.log2 + 1) := by exact_mod_cast Nat.lt_log2_self
  have two : (2 : ℚ) ≠ 0 := two_ne_zero
  constructor
  · rw [le_div_iff₀ dpos]
    calc (2 : ℚ) ^ ((num.log2 : ℤ) - den.log2 - 1) * den
        ≤ 2 ^ ((num.log2 : ℤ) - den.log2 - 1) * 2 ^ (den.log2 + 1) := by gcongr
      _ = 2 ^ num.log2 := by
        rw [← zpow_natCast, ← zpow_natCast, ← zpow_add₀ two]
        congr 1
        push_cast
        ring
      _ ≤ num := numLow
  · rw [div_lt_iff₀ dpos]
    calc (num : ℚ) < 2 ^ (num.log2 + 1) := numHigh
      _ = 2 ^ ((num.log2 : ℤ) - den.log2 + 1) * 2 ^ den.log2 := by
        rw [← zpow_natCast, ← zpow_natCast, ← zpow_add₀ two]
        congr 1
        push_cast
        ring
      _ ≤ 2 ^ ((num.log2 : ℤ) - den.log2 + 1) * den := by gcongr

/-- **The greatest power of two below a ratio.** -/
theorem floorLog2_spec {num den : ℕ} (hnum : 0 < num) (hden : 0 < den) :
    (2 : ℚ) ^ floorLog2 num den ≤ num / den ∧ (num : ℚ) / den < 2 ^ (floorLog2 num den + 1) := by
  obtain ⟨low, high⟩ := ratio_between_powers hnum hden
  -- what is left to decide is which of two powers it is, and the test on integers decides that
  have fits := zpow_le_ratio_iff two_pos num hden ((num.log2 : ℤ) - den.log2)
  push_cast at fits
  simp only [floorLog2, twoTo, Nat.pow_eq]
  simp only [← fits]
  split
  · next h => exact ⟨h, high⟩
  · next h => exact ⟨low, by rw [sub_add_cancel]; exact not_le.1 h⟩

theorem le_floorLog2 {num den : ℕ} (hnum : 0 < num) (hden : 0 < den) {k : ℤ}
    (h : (2 : ℚ) ^ k ≤ num / den) : k ≤ floorLog2 num den := by
  have less := h.trans_lt (floorLog2_spec hnum hden).2
  rw [zpow_lt_zpow_iff_right₀ one_lt_two] at less
  omega

theorem floorLog2_lt {num den : ℕ} (hnum : 0 < num) (hden : 0 < den) {k : ℤ}
    (h : (num : ℚ) / den < 2 ^ k) : floorLog2 num den < k := by
  have less := (floorLog2_spec hnum hden).1.trans_lt h
  rwa [zpow_lt_zpow_iff_right₀ one_lt_two] at less

/-! ### Rounding -/

section Halves

variable {den : ℕ} (hden : 0 < den) (num m : ℕ)
include hden

theorem sub_half_le_ratio_iff :
    (m : ℚ) - 1 / 2 ≤ num / den ↔ 2 * (m * den) ≤ 2 * num + den := by
  have dpos : (0 : ℚ) < den := by exact_mod_cast hden
  have cleared : ((m : ℚ) - 1 / 2) * den ≤ num ↔ (2 * (m * den) : ℚ) ≤ 2 * num + den := by
    constructor <;> intro <;> linarith
  rw [le_div_iff₀ dpos, cleared]
  exact_mod_cast Iff.rfl

theorem ratio_le_add_half_iff :
    (num : ℚ) / den ≤ m + 1 / 2 ↔ 2 * num ≤ 2 * (m * den) + den := by
  have dpos : (0 : ℚ) < den := by exact_mod_cast hden
  have cleared : (num : ℚ) ≤ (m + 1 / 2) * den ↔ (2 * num : ℚ) ≤ 2 * (m * den) + den := by
    constructor <;> intro <;> linarith
  rw [div_le_iff₀ dpos, cleared]
  exact_mod_cast Iff.rfl

theorem sub_half_lt_ratio_iff :
    (m : ℚ) - 1 / 2 < num / den ↔ 2 * (m * den) < 2 * num + den := by
  have dpos : (0 : ℚ) < den := by exact_mod_cast hden
  have cleared : ((m : ℚ) - 1 / 2) * den < num ↔ (2 * (m * den) : ℚ) < 2 * num + den := by
    constructor <;> intro <;> linarith
  rw [lt_div_iff₀ dpos, cleared]
  exact_mod_cast Iff.rfl

theorem ratio_lt_add_half_iff :
    (num : ℚ) / den < m + 1 / 2 ↔ 2 * num < 2 * (m * den) + den := by
  have dpos : (0 : ℚ) < den := by exact_mod_cast hden
  have cleared : (num : ℚ) < (m + 1 / 2) * den ↔ (2 * num : ℚ) < 2 * (m * den) + den := by
    constructor <;> intro <;> linarith
  rw [div_lt_iff₀ dpos, cleared]
  exact_mod_cast Iff.rfl

end Halves

/-- What lies within half a unit of an integer rounds to it; an odd one does not get the two
halves. -/
theorem roundHalfEven_eq {num den m : ℕ} (hden : 0 < den) (low : (m : ℚ) - 1 / 2 ≤ num / den)
    (high : (num : ℚ) / den ≤ m + 1 / 2)
    (odd : m % 2 = 1 → (m : ℚ) - 1 / 2 < num / den ∧ (num : ℚ) / den < m + 1 / 2) :
    roundHalfEven num den = m := by
  rw [sub_half_le_ratio_iff hden] at low
  rw [ratio_le_add_half_iff hden] at high
  rw [sub_half_lt_ratio_iff hden, ratio_lt_add_half_iff hden] at odd
  have parts : den * (num / den) + num % den = num := Nat.div_add_mod num den
  have rest : num % den < den := Nat.mod_lt num hden
  -- the quotient is the integer itself, or one less where rounding goes up
  have near : num / den = m ∨ num / den + 1 = m := by
    have below : num / den < m + 1 := by
      rw [Nat.div_lt_iff_lt_mul hden, Nat.add_mul]
      omega
    have above : m < num / den + 2 := by
      have : m * den < (num / den + 2) * den := by
        rw [Nat.add_mul, Nat.mul_comm (num / den)]
        omega
      exact Nat.lt_of_mul_lt_mul_right this
    omega
  simp only [roundHalfEven]
  obtain h | h := near
  · rw [h] at parts ⊢
    rw [Nat.mul_comm den] at parts
    split
    · rfl
    split
    · omega
    split
    · rfl
    · have := odd (by omega)
      omega
  · have scaled : m * den = den * (num / den) + den := by
      rw [← h, Nat.add_mul, Nat.mul_comm (num / den), Nat.one_mul]
    split
    · omega
    split
    · exact h
    split
    · have := odd (by omega)
      omega
    · exact h

/-- A ratio in units of `2 ^ e`. -/
theorem ratio_in_units (num den : ℕ) (e : ℤ) :
    ((num * 2 ^ (-e).toNat : ℕ) : ℚ) / (den * 2 ^ e.toNat : ℕ) = num / den / 2 ^ e := by
  rw [zpow_eq_toNat_div 2 e]
  push_cast
  field_simp

/-- Rounding works in the units of the last bit. -/
theorem ofRatio_eq {num den : ℕ} (negative : Bool) (hnum : 0 < num) {e : ℤ}
    (he : unitExponent (floorLog2 num den) = e) :
    ofRatio negative num den = assemble negative
      (roundHalfEven (num * 2 ^ (-e).toNat) (den * 2 ^ e.toNat)) e := by
  rw [ofRatio, if_neg hnum.ne']
  simp only [he, twoTo, Nat.pow_eq]
  split
  · next h => rw [show (-e).toNat = 0 by omega, Nat.pow_zero, Nat.mul_one]
  · next h => rw [show e.toNat = 0 by omega, Nat.pow_zero, Nat.mul_one]

/-- How far down the interval of a double reaches, in units of its last bit. -/
def reachBelow (m : ℕ) (e : ℤ) : ℚ := if m = 2 ^ 52 ∧ e ≠ leastExponent then 1 / 4 else 1 / 2

/-- A positive number in the interval of the double `m * 2 ^ e`. -/
structure RoundsTo (m : ℕ) (e : ℤ) (q : ℚ) : Prop where
  /-- the lower end -/
  low : (m - reachBelow m e) * 2 ^ e ≤ q
  /-- the upper end -/
  high : q ≤ (m + 1 / 2) * 2 ^ e
  /-- both ends are left out if the significand is odd -/
  odd : m % 2 = 1 → (m - reachBelow m e) * 2 ^ e < q ∧ q < (m + 1 / 2) * 2 ^ e

theorem reachBelow_le (m : ℕ) (e : ℤ) : reachBelow m e ≤ 1 / 2 := by
  unfold reachBelow
  split <;> norm_num

theorem reachBelow_pos (m : ℕ) (e : ℤ) : 0 < reachBelow m e := by
  unfold reachBelow
  split <;> norm_num

namespace RoundsTo

variable {m : ℕ} {e : ℤ} {q : ℚ}

/-- A double is in its own interval. -/
theorem self (m : ℕ) (e : ℤ) : RoundsTo m e (m * 2 ^ e) := by
  have reach := reachBelow_pos m e
  have low : (m - reachBelow m e) * 2 ^ e < m * 2 ^ e := by gcongr; linarith
  have high : (m : ℚ) * 2 ^ e < (m + 1 / 2) * 2 ^ e := by gcongr; linarith
  exact ⟨low.le, high.le, fun _ => ⟨low, high⟩⟩

/-- In units of the last bit the interval lies within half a unit of the significand. -/
theorem near (h : RoundsTo m e q) : (m : ℚ) - 1 / 2 ≤ q / 2 ^ e ∧ q / 2 ^ e ≤ m + 1 / 2 ∧
    (m % 2 = 1 → (m : ℚ) - 1 / 2 < q / 2 ^ e ∧ q / 2 ^ e < m + 1 / 2) := by
  have unit : (0 : ℚ) < 2 ^ e := by positivity
  have reach := reachBelow_le m e
  refine ⟨?_, (div_le_iff₀ unit).2 h.high, fun odd => ⟨?_, (div_lt_iff₀ unit).2 (h.odd odd).2⟩⟩
  · have := (le_div_iff₀ unit).2 h.low
    linarith
  · have := (lt_div_iff₀ unit).2 (h.odd odd).1
    linarith

/-- The interval stays below the next power of two. -/
theorem lt_two_zpow (h : RoundsTo m e q) (parts : IsParts m e) : q < 2 ^ (e + 53) := by
  have size : (m : ℚ) + 1 ≤ 2 ^ 53 := by exact_mod_cast parts.lt
  calc q ≤ (m + 1 / 2) * 2 ^ e := h.high
    _ < 2 ^ 53 * 2 ^ e := by gcongr; linarith
    _ = 2 ^ (e + 53) := by
      rw [zpow_add₀ two_ne_zero, mul_comm]
      norm_num

/-- Below its power of two the interval reaches only if the double is that power. -/
theorem of_lt_two_zpow (h : RoundsTo m e q) (parts : IsParts m e) (he : e ≠ leastExponent)
    (less : q < 2 ^ (e + 52)) : m = 2 ^ 52 ∧ (2 ^ 52 - 1 / 4) * 2 ^ e ≤ q := by
  have unit : (0 : ℚ) < 2 ^ e := by positivity
  have reach := reachBelow_le m e
  have size : 2 ^ 52 ≤ m := parts.full he
  have below : (m : ℚ) - reachBelow m e < 2 ^ 52 := by
    have : (m - reachBelow m e) * 2 ^ e < 2 ^ 52 * 2 ^ e := by
      calc (m - reachBelow m e) * 2 ^ e ≤ q := h.low
        _ < 2 ^ (e + 52) := less
        _ = 2 ^ 52 * 2 ^ e := by
          rw [zpow_add₀ two_ne_zero, mul_comm]
          norm_num
    exact lt_of_mul_lt_mul_right this unit.le
  -- the only significand that close to the power is the power itself
  have power : m = 2 ^ 52 := by
    have : (m : ℚ) < (2 ^ 52 + 1 : ℕ) := by
      push_cast
      linarith
    have : m < 2 ^ 52 + 1 := by exact_mod_cast this
    omega
  refine ⟨power, ?_⟩
  have low := h.low
  rw [reachBelow, if_pos ⟨power, he⟩, power] at low
  exact_mod_cast low

end RoundsTo

/-- Just below a power of two the last bit is half as large, and rounding carries. -/
theorem ofRatio_below_power {num den : ℕ} (negative : Bool) (hnum : 0 < num) (hden : 0 < den)
    {e : ℤ} (he : leastExponent < e) (low : (2 ^ 52 - 1 / 4) * 2 ^ e ≤ (num : ℚ) / den)
    (less : (num : ℚ) / den < 2 ^ (e + 52)) :
    ofRatio negative num den = assemble negative (2 ^ 52) e := by
  have unitPos : (0 : ℚ) < 2 ^ (e - 1) := by positivity
  have double : (2 : ℚ) ^ e = 2 * 2 ^ (e - 1) := by
    rw [← zpow_one_add₀ two_ne_zero]
    congr 1
    ring
  have reaches : (2 : ℚ) ^ (e + 51) ≤ num / den := by
    calc (2 : ℚ) ^ (e + 51) = 2 ^ 51 * 2 ^ e := by
          rw [zpow_add₀ two_ne_zero, mul_comm]
          norm_num
      _ ≤ (2 ^ 52 - 1 / 4) * 2 ^ e := by
        gcongr
        norm_num
      _ ≤ num / den := low
  -- the ratio is below the power, so its last bit is half of that of the double
  have unit : unitExponent (floorLog2 num den) = e - 1 := by
    have := le_floorLog2 hnum hden reaches
    have := floorLog2_lt hnum hden less
    unfold unitExponent
    omega
  -- in these units the double is `2 ^ 53`, one more than a significand can be
  have carries : roundHalfEven (num * 2 ^ (-(e - 1)).toNat) (den * 2 ^ (e - 1).toNat) = 2 ^ 53 := by
    apply roundHalfEven_eq (Nat.mul_pos hden (Nat.two_pow_pos _))
    · rw [ratio_in_units, le_div_iff₀ unitPos]
      push_cast
      linarith
    · have : (num : ℚ) / den < 2 ^ 53 * 2 ^ (e - 1) := by
        calc (num : ℚ) / den < 2 ^ (e + 52) := less
          _ = 2 ^ 53 * 2 ^ (e - 1) := by
            rw [← zpow_natCast, ← zpow_add₀ two_ne_zero]
            congr 1
            push_cast
            ring
      rw [ratio_in_units, div_le_iff₀ unitPos]
      push_cast
      linarith
    · intro odd
      exact absurd odd (by decide)
  rw [ofRatio_eq negative hnum unit, carries, assemble_carry negative he]

/-- **Every ratio in the interval of a double rounds to it.** -/
theorem ofRatio_of_roundsTo {m : ℕ} {e : ℤ} (negative : Bool) (parts : IsParts m e) {num den : ℕ}
    (hnum : 0 < num) (hden : 0 < den) (h : RoundsTo m e (num / den)) :
    ofRatio negative num den = assemble negative m e := by
  have top : floorLog2 num den < e + 53 := floorLog2_lt hnum hden (h.lt_two_zpow parts)
  by_cases same : e = leastExponent ∨ (2 : ℚ) ^ (e + 52) ≤ num / den
  · -- the last bit of the ratio is that of the double
    have unit : unitExponent (floorLog2 num den) = e := by
      have := parts.least_le
      unfold unitExponent
      obtain rfl | reaches := same
      · omega
      · have := le_floorLog2 hnum hden reaches
        omega
    rw [ofRatio_eq negative hnum unit]
    obtain ⟨low, high, odd⟩ := h.near
    rw [← ratio_in_units] at low high odd
    rw [roundHalfEven_eq (Nat.mul_pos hden (Nat.two_pow_pos _)) low high odd]
  · obtain ⟨he, less⟩ := not_or.1 same
    obtain ⟨rfl, low⟩ := h.of_lt_two_zpow parts he (not_le.1 less)
    have above : leastExponent < e := lt_of_le_of_ne parts.least_le (Ne.symm he)
    exact ofRatio_below_power negative hnum hden above low (not_le.1 less)

end Binary64

namespace Numeral

/-! ### Decimals -/

/-- Each four bits of a number are a decimal digit at least. -/
theorem ten_pow_log2_div_four_le {n : ℕ} (h : 0 < n) : 10 ^ (n.log2 / 4) ≤ n := by
  calc 10 ^ (n.log2 / 4) ≤ 16 ^ (n.log2 / 4) := Nat.pow_le_pow_left (by decide) _
    _ = 2 ^ (4 * (n.log2 / 4)) := by rw [Nat.pow_mul]
    _ ≤ 2 ^ n.log2 := Nat.pow_le_pow_right (by decide) (by omega)
    _ ≤ n := Nat.log2_self_le h.ne'

/-- Each three bits of a number are a decimal digit at most. -/
theorem lt_ten_pow_log2_div_three {n : ℕ} : n < 10 ^ (n.log2 / 3 + 1) := by
  calc n < 2 ^ (n.log2 + 1) := Nat.lt_log2_self
    _ ≤ 2 ^ (3 * (n.log2 / 3 + 1)) := Nat.pow_le_pow_right (by decide) (by omega)
    _ = 8 ^ (n.log2 / 3 + 1) := by rw [Nat.pow_mul]
    _ ≤ 10 ^ (n.log2 / 3 + 1) := Nat.pow_le_pow_left (by decide) _

variable {m : ℕ} {e : ℤ} {digits : ℕ} {exponent : ℤ}

theorem not_beyond_of_roundsTo (parts : Binary64.IsParts m e) (hdigits : 0 < digits)
    (h : Binary64.RoundsTo m e (digits * 10 ^ exponent)) :
    ¬ 310 < exponent + (digits.log2 / 4 : ℕ) := by
  intro beyond
  have low : (10 : ℚ) ^ (digits.log2 / 4) ≤ digits := by
    exact_mod_cast ten_pow_log2_div_four_le hdigits
  -- the number would be above all intervals of doubles
  have : (10 : ℚ) ^ (311 : ℤ) < 2 ^ (1024 : ℤ) := by
    calc (10 : ℚ) ^ (311 : ℤ) ≤ 10 ^ (((digits.log2 / 4 : ℕ) : ℤ) + exponent) :=
          zpow_le_zpow_right₀ (by norm_num) (by omega)
      _ = 10 ^ (digits.log2 / 4) * 10 ^ exponent := by
        rw [zpow_add₀ (by norm_num), zpow_natCast]
      _ ≤ digits * 10 ^ exponent := by gcongr
      _ < 2 ^ (e + 53) := h.lt_two_zpow parts
      _ ≤ 2 ^ (1024 : ℤ) := zpow_le_zpow_right₀ (by norm_num) (by linarith [parts.le_greatest])
  have sizes : 2 ^ 1024 ≤ 10 ^ 311 := by decide +kernel
  exact absurd this (not_lt.2 (by exact_mod_cast sizes))

theorem not_below_of_roundsTo (parts : Binary64.IsParts m e) (hm : 0 < m)
    (h : Binary64.RoundsTo m e (digits * 10 ^ exponent)) :
    ¬ exponent + (digits.log2 / 3 + 1 : ℕ) < -330 := by
  intro below
  have high : (digits : ℚ) < 10 ^ (digits.log2 / 3 + 1) := by
    exact_mod_cast lt_ten_pow_log2_div_three
  have positive : (1 : ℚ) ≤ m := by exact_mod_cast hm
  have reach := Binary64.reachBelow_le m e
  -- the number would be less than half of the least double
  have : (2 : ℚ) ^ (-1075 : ℤ) < 10 ^ (-331 : ℤ) := by
    calc (2 : ℚ) ^ (-1075 : ℤ) = 1 / 2 * 2 ^ (-1074 : ℤ) := by
          rw [show (-1075 : ℤ) = -1 + -1074 by decide, zpow_add₀ two_ne_zero]
          norm_num
      _ ≤ 1 / 2 * 2 ^ e := by
        gcongr
        · norm_num
        · exact parts.least_le
      _ ≤ (m - Binary64.reachBelow m e) * 2 ^ e := by
        gcongr
        linarith
      _ ≤ digits * 10 ^ exponent := h.low
      _ < 10 ^ (digits.log2 / 3 + 1) * 10 ^ exponent := by gcongr
      _ = 10 ^ (((digits.log2 / 3 + 1 : ℕ) : ℤ) + exponent) := by
        rw [zpow_add₀ (by norm_num), zpow_natCast]
      _ ≤ 10 ^ (-331 : ℤ) := zpow_le_zpow_right₀ (by norm_num) (by omega)
  have sizes : 2 ^ 1075 ≤ 10 ^ 331 := by decide +kernel
  rw [zpow_neg, zpow_neg, inv_lt_inv₀ (by positivity) (by positivity)] at this
  exact absurd this (not_lt.2 (by exact_mod_cast sizes))

/-- Zero has one double of each sign, whatever its exponent. -/
theorem nearest_zero (negative : Bool) (exponent : ℤ) :
    nearest negative 0 exponent = Binary64.assemble negative 0 Binary64.leastExponent := by
  rw [nearest, if_pos rfl, Binary64.ofRatio, if_pos rfl]

/-- **Every decimal in the interval of a double reads as that double.** -/
theorem nearest_of_roundsTo (negative : Bool) (parts : Binary64.IsParts m e) (hm : 0 < m)
    (hdigits : 0 < digits) (h : Binary64.RoundsTo m e (digits * 10 ^ exponent)) :
    nearest negative digits exponent = Binary64.assemble negative m e := by
  rw [nearest, if_neg hdigits.ne', if_neg (not_beyond_of_roundsTo parts hdigits h),
    if_neg (not_below_of_roundsTo parts hm h)]
  apply Binary64.ofRatio_of_roundsTo negative parts (Nat.mul_pos hdigits (tenTo_pos _))
    (tenTo_pos _)
  have value : ((digits * tenTo exponent.toNat : ℕ) : ℚ) / (tenTo (-exponent).toNat : ℕ)
      = digits * 10 ^ exponent := by
    rw [zpow_eq_toNat_div 10 exponent]
    simp only [tenTo, Nat.pow_eq]
    push_cast
    ring
  rwa [value]

end Numeral

end FlowCanvas
