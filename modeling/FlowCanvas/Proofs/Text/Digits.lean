import FlowCanvas.Text.Digits
import Mathlib.Data.List.Induction
import Mathlib.Tactic.IntervalCases
import Mathlib.Tactic.Ring

/-!
# Digits read back

The digits of a number write that number (`digitsValue_decimal`), and what some digits write has no
more digits than they are. Four hexadecimal digits are those of the number in its four places.
-/

namespace FlowCanvas.Text

/-! ### Decimal digits -/

theorem digitValue?_digitChar {d : Nat} (h : d < 10) : digitValue? (Nat.digitChar d) = some d := by
  interval_cases d <;> decide

theorem decimal_of_lt {n : Nat} (h : n < 10) : decimal n = [Nat.digitChar n] :=
  Nat.toDigits_of_lt_base h

theorem decimal_of_le {n : Nat} (h : 10 ≤ n) :
    decimal n = decimal (n / 10) ++ [Nat.digitChar (n % 10)] :=
  Nat.toDigits_of_base_le (by decide) h

theorem decimal_ne_nil (n : Nat) : decimal n ≠ [] := Nat.toDigits_ne_nil

theorem isDigit_of_mem_decimal {n : Nat} {c : Char} (h : c ∈ decimal n) : isDigit c = true := by
  have hdigit : c.isDigit = true := Nat.isDigit_of_mem_toDigits (by decide) (by decide) h
  simp only [Char.isDigit, Bool.and_eq_true, decide_eq_true_eq, ge_iff_le] at hdigit
  have low : 48 ≤ c.toNat := hdigit.1
  have high : c.toNat ≤ 57 := hdigit.2
  simp [isDigit, low, high]

/-- The digits of a number write it. -/
@[simp] theorem digitsValue_decimal (n : Nat) : digitsValue (decimal n) = n := by
  induction n using Nat.strongRecOn with
  | _ n ih =>
    by_cases h : n < 10
    · rw [decimal_of_lt h]
      simp [digitsValue, digitValue?_digitChar h]
    · have hmod : n % 10 < 10 := Nat.mod_lt _ (by decide)
      rw [decimal_of_le (by omega), digitsValue_append_singleton, ih (n / 10) (by omega),
        digitValue?_digitChar hmod, Option.getD_some]
      omega

/-- A number that is not zero has no zero in front. -/
theorem decimal_injective : Function.Injective decimal :=
  Function.LeftInverse.injective digitsValue_decimal

theorem decimal_eq_cons {n : Nat} (h : 0 < n) : ∃ c cs, decimal n = c :: cs ∧ c ≠ '0' := by
  induction n using Nat.strongRecOn with
  | _ n ih =>
    by_cases hn : n < 10
    · refine ⟨Nat.digitChar n, [], decimal_of_lt hn, ?_⟩
      interval_cases n <;> decide
    · obtain ⟨c, cs, hcs, hc⟩ := ih (n / 10) (by omega) (by omega)
      exact ⟨c, cs ++ [Nat.digitChar (n % 10)], by rw [decimal_of_le (by omega), hcs]; rfl, hc⟩

theorem digitsValue_append (s t : List Char) :
    digitsValue (s ++ t) = digitsValue s * 10 ^ t.length + digitsValue t := by
  induction t using List.reverseRecOn with
  | nil => simp
  | append_singleton t c ih =>
    rw [← List.append_assoc, digitsValue_append_singleton, ih, digitsValue_append_singleton,
      List.length_append, List.length_singleton, pow_succ]
    ring

theorem digitsValue_replicate_zero (n : Nat) : digitsValue (List.replicate n '0') = 0 := by
  induction n with
  | zero => rfl
  | succ n ih =>
    rw [List.replicate_succ', digitsValue_append_singleton, ih]
    rfl

theorem digitsValue_lt {ds : List Char} : digitsValue ds < 10 ^ ds.length := by
  induction ds using List.reverseRecOn with
  | nil => simp
  | append_singleton ds c ih =>
    have digit : (digitValue? c).getD 0 < 10 := by
      unfold digitValue?
      split
      · rw [Option.getD_some]
        omega
      · decide
    rw [digitsValue_append_singleton, List.length_append, List.length_singleton, pow_succ]
    omega

/-- What some digits write has no more digits than they are. -/
theorem length_decimal_digitsValue {ds : List Char} (h : ds ≠ []) :
    (decimal (digitsValue ds)).length ≤ ds.length :=
  (Nat.length_toDigits_le_iff (by decide) (List.length_pos_iff.mpr h)).mpr digitsValue_lt

/-! ### Hexadecimal digits -/

theorem hexValue?_digitChar {d : Nat} (h : d < 16) : hexValue? (Nat.digitChar d) = some d := by
  interval_cases d <;> decide

theorem hex_four {n : Nat} (h : n < 0x10000) :
    hex 4 n = [Nat.digitChar (n / 0x1000), Nat.digitChar (n / 0x100 % 16),
      Nat.digitChar (n / 0x10 % 16), Nat.digitChar (n % 16)] := by
  have digits (m : Nat) : Nat.toDigits 16 m =
      if m < 16 then [Nat.digitChar m] else Nat.toDigits 16 (m / 16) ++ [Nat.digitChar (m % 16)] :=
    Nat.toDigits_eq_if (by decide)
  have zero {k : Nat} (hk : k = 0) : Nat.digitChar k = '0' := by subst hk; decide
  unfold hex padLeft
  by_cases h1 : n < 16
  · rw [digits n, if_pos h1, zero (by omega : n / 0x1000 = 0),
      zero (by omega : n / 0x100 % 16 = 0), zero (by omega : n / 0x10 % 16 = 0),
      Nat.mod_eq_of_lt h1]
    rfl
  by_cases h2 : n / 16 < 16
  · rw [digits n, if_neg h1, digits (n / 16), if_pos h2, zero (by omega : n / 0x1000 = 0),
      zero (by omega : n / 0x100 % 16 = 0), Nat.mod_eq_of_lt h2]
    rfl
  by_cases h3 : n / 16 / 16 < 16
  · rw [digits n, if_neg h1, digits (n / 16), if_neg h2, digits (n / 16 / 16), if_pos h3,
      zero (by omega : n / 0x1000 = 0), (by omega : n / 0x100 % 16 = n / 16 / 16)]
    rfl
  · rw [digits n, if_neg h1, digits (n / 16), if_neg h2, digits (n / 16 / 16), if_neg h3,
      digits (n / 16 / 16 / 16), if_pos (by omega), (by omega : n / 0x1000 = n / 16 / 16 / 16),
      (by omega : n / 0x100 = n / 16 / 16)]
    rfl

end FlowCanvas.Text
