import FlowCanvas.Number.Shortest
import FlowCanvas.Proofs.Number.Nearest

/-!
# The shortest decimal reads back

The search for the shortest decimal of a double ends with one in the interval of the double, so that
reading gives the double again (`shortest_spec`). A point of a grid is accepted only inside the
interval. With seventeen digits one is always found: the two points that enclose the double are then
closer to each other than the two ends of the interval.
-/

namespace FlowCanvas.Decimal

/-- What a decimal stands for. -/
def value (d : Decimal) : ℚ := d.digits * 10 ^ d.exponent

theorem dropZeros_value (fuel : ℕ) (d : Decimal) : (d.dropZeros fuel).value = d.value := by
  induction fuel generalizing d with
  | zero => rfl
  | succ fuel ih =>
    rw [dropZeros]
    split
    · next h =>
      rw [ih, value, value, zpow_add_one₀ (by norm_num)]
      have whole : ((d.digits / 10 : ℕ) : ℚ) * 10 = d.digits := by
        exact_mod_cast Nat.div_mul_cancel (Nat.dvd_of_mod_eq_zero h.1)
      calc ((d.digits / 10 : ℕ) : ℚ) * (10 ^ d.exponent * 10)
          = ((d.digits / 10 : ℕ) : ℚ) * 10 * 10 ^ d.exponent := by ring
        _ = d.digits * 10 ^ d.exponent := by rw [whole]
    · rfl

theorem digits_pos_iff (d : Decimal) : 0 < d.digits ↔ 0 < d.value := by
  have unit : (0 : ℚ) < 10 ^ d.exponent := by positivity
  rw [value, mul_pos_iff_of_pos_right unit, Nat.cast_pos]

/-! ### The place of the point -/

/-- The guess for the place of the point is not above it, for every exponent of a double. -/
theorem guess_spec : ∀ i : ℕ, i < 2098 → let k : ℤ := i - 1074
    let p : ℤ := k * 30103 / 100000 - 1
    10 ^ p.toNat * 2 ^ (-k).toNat ≤ 2 ^ k.toNat * 10 ^ (-p).toNat := by
  intro i
  decide +revert +kernel

theorem ten_zpow_guess_le {k : ℤ} (low : -1074 ≤ k) (high : k < 1024) :
    (10 : ℚ) ^ (k * 30103 / 100000 - 1) ≤ 2 ^ k := by
  obtain ⟨i, rfl⟩ : ∃ i : ℕ, k = (i : ℤ) - 1074 := ⟨(k + 1074).toNat, by omega⟩
  have powers := guess_spec i (by omega)
  simp only at powers
  generalize ((i : ℤ) - 1074) * 30103 / 100000 - 1 = p at powers ⊢
  rw [zpow_eq_toNat_div 10 p, zpow_eq_toNat_div 2,
    div_le_div_iff₀ (by positivity) (by positivity)]
  exact_mod_cast powers

theorem pointPlace_spec {num den : ℕ} (hnum : 0 < num) (hden : 0 < den)
    (low : (2 : ℚ) ^ (-1074 : ℤ) ≤ num / den) (high : (num : ℚ) / den < 2 ^ (1024 : ℤ)) :
    (10 : ℚ) ^ (pointPlace num den - 1) ≤ num / den := by
  have reaches (p : ℤ) : (if 0 ≤ p then decide (den * tenTo p.toNat ≤ num)
      else decide (den ≤ num * tenTo (-p).toNat)) = true ↔ (10 : ℚ) ^ p ≤ num / den := by
    have := zpow_le_ratio_iff (c := 10) (by decide) num hden p
    push_cast at this
    rw [this]
    simp only [tenTo, Nat.pow_eq]
    split <;> rw [decide_eq_true_eq]
  simp only [pointPlace, reaches]
  split
  · next h => rwa [add_sub_assoc]
  split
  · next h => rwa [add_sub_cancel_right]
  · calc _ ≤ (2 : ℚ) ^ Binary64.floorLog2 num den :=
          ten_zpow_guess_le (Binary64.le_floorLog2 hnum hden low)
            (Binary64.floorLog2_lt hnum hden high)
      _ ≤ num / den := (Binary64.floorLog2_spec hnum hden).1

/-! ### Points of a grid -/

namespace Target

/-- A number between the ends of a target. -/
def Contains (t : Target) (q : ℚ) : Prop :=
  if t.inclusive then t.low * 2 ^ t.scale ≤ q ∧ q ≤ t.high * 2 ^ t.scale
  else t.low * 2 ^ t.scale < q ∧ q < t.high * 2 ^ t.scale

/-- Binary and decimal multiples have a common unit, in which both are integers. -/
theorem exists_common_unit (s p : ℤ) : ∃ u : ℚ, 0 < u ∧
    (∀ a : ℕ, (a : ℚ) * 2 ^ s = (a * (2 ^ s.toNat * 10 ^ (-p).toNat) : ℕ) * u) ∧
    ∀ b : ℕ, (b : ℚ) * 10 ^ p = (b * (10 ^ p.toNat * 2 ^ (-s).toNat) : ℕ) * u := by
  refine ⟨(2 ^ (-s).toNat * 10 ^ (-p).toNat)⁻¹, by positivity, fun a => ?_, fun b => ?_⟩
  · rw [zpow_eq_toNat_div 2 s]
    push_cast
    field_simp
  · rw [zpow_eq_toNat_div 10 p]
    push_cast
    field_simp

theorem unit_le_step_iff (a b : ℕ) (s p : ℤ) :
    a * (2 ^ s.toNat * 10 ^ (-p).toNat) ≤ b * (10 ^ p.toNat * 2 ^ (-s).toNat) ↔
      (a : ℚ) * 2 ^ s ≤ b * 10 ^ p := by
  obtain ⟨u, hu, binary, decimal⟩ := exists_common_unit s p
  rw [binary, decimal, mul_le_mul_iff_left₀ hu, Nat.cast_le]

theorem step_le_unit_iff (a b : ℕ) (s p : ℤ) :
    b * (10 ^ p.toNat * 2 ^ (-s).toNat) ≤ a * (2 ^ s.toNat * 10 ^ (-p).toNat) ↔
      (b : ℚ) * 10 ^ p ≤ a * 2 ^ s := by
  obtain ⟨u, hu, binary, decimal⟩ := exists_common_unit s p
  rw [binary, decimal, mul_le_mul_iff_left₀ hu, Nat.cast_le]

/-- Whether a point of a grid lies in a target, decided on integers. -/
theorem inside_iff (t : Target) (p : ℤ) (d : ℕ) :
    (if t.inclusive then
        decide (t.low * (twoTo t.scale.toNat * tenTo (-p).toNat)
          ≤ d * (tenTo p.toNat * twoTo (-t.scale).toNat))
        && decide (d * (tenTo p.toNat * twoTo (-t.scale).toNat)
          ≤ t.high * (twoTo t.scale.toNat * tenTo (-p).toNat))
      else
        decide (t.low * (twoTo t.scale.toNat * tenTo (-p).toNat)
          < d * (tenTo p.toNat * twoTo (-t.scale).toNat))
        && decide (d * (tenTo p.toNat * twoTo (-t.scale).toNat)
          < t.high * (twoTo t.scale.toNat * tenTo (-p).toNat))) = true ↔
      t.Contains (d * 10 ^ p) := by
  simp only [twoTo, tenTo, Nat.pow_eq, Contains]
  cases t.inclusive with
  | true =>
    simp only [if_true, Bool.and_eq_true, decide_eq_true_eq, unit_le_step_iff, step_le_unit_iff]
  | false =>
    simp only [Bool.false_eq_true, if_false, Bool.and_eq_true, decide_eq_true_eq, ← not_le,
      unit_le_step_iff, step_le_unit_iff]

/-- A point that is accepted lies in the target. -/
theorem contains_of_onGrid? {t : Target} {p : ℤ} {d : ℕ} (h : t.onGrid? p = some d) :
    t.Contains (d * 10 ^ p) := by
  simp only [onGrid?] at h
  split at h
  · cases h
  · next inside _ =>
    cases h
    exact (inside_iff t p _).1 inside
  · next _ inside =>
    cases h
    exact (inside_iff t p _).1 inside
  · next inside inside' =>
    cases h
    split
    · exact (inside_iff t p _).1 inside
    split
    · exact (inside_iff t p _).1 inside'
    split
    · exact (inside_iff t p _).1 inside
    · exact (inside_iff t p _).1 inside'

/-- If none is accepted, the two points that enclose the number are outside. -/
theorem exists_of_onGrid?_eq_none {t : Target} {p : ℤ} (h : t.onGrid? p = none) :
    ∃ d : ℕ, (d : ℚ) * 10 ^ p ≤ t.value * 2 ^ t.scale ∧
      (t.value : ℚ) * 2 ^ t.scale < (d + 1 : ℕ) * 10 ^ p ∧
      ¬ t.Contains (d * 10 ^ p) ∧ ¬ t.Contains ((d + 1 : ℕ) * 10 ^ p) := by
  simp only [onGrid?] at h
  split at h
  · next outside outside' =>
    have step : 0 < tenTo p.toNat * twoTo (-t.scale).toNat :=
      Nat.mul_pos (tenTo_pos _) (twoTo_pos _)
    refine ⟨_, (step_le_unit_iff ..).1 (Nat.div_mul_le_self _ _), ?_, ?_, ?_⟩
    · rw [← not_le, ← step_le_unit_iff, not_le]
      exact Nat.lt_mul_of_div_lt (Nat.lt_succ_self _) step
    · exact fun contains => Bool.false_ne_true (outside.symm.trans ((inside_iff t p _).2 contains))
    · exact fun contains => Bool.false_ne_true (outside'.symm.trans ((inside_iff t p _).2 contains))
  all_goals cases h

/-! ### The search -/

/-- The search ends with an accepted point if there is one within its reach. -/
theorem exists_of_search {t : Target} {point : ℤ} {fuel digits k : ℕ} (low : digits ≤ k)
    (high : k < digits + fuel) (h : t.onGrid? (point - k) ≠ none) :
    ∃ d p, t.search point fuel digits = ⟨d, p⟩ ∧ t.onGrid? p = some d := by
  induction fuel generalizing digits with
  | zero => omega
  | succ fuel ih =>
    rw [search]
    split
    · next d found => exact ⟨d, _, rfl, found⟩
    · next none =>
      have : digits ≠ k := by
        rintro rfl
        exact h none
      exact ih (by omega) (by omega)

/-! ### The interval of a double -/

variable {m : ℕ} {e : ℤ}

theorem ofDouble_value (m : ℕ) (e : ℤ) :
    ((ofDouble m e).value : ℚ) * 2 ^ (ofDouble m e).scale = m * 2 ^ e := by
  simp only [ofDouble]
  rw [zpow_sub₀ two_ne_zero]
  push_cast
  ring

theorem ofDouble_high (m : ℕ) (e : ℤ) :
    ((ofDouble m e).high : ℚ) * 2 ^ (ofDouble m e).scale = (m + 1 / 2) * 2 ^ e := by
  simp only [ofDouble]
  rw [zpow_sub₀ two_ne_zero]
  push_cast
  ring

theorem ofDouble_low (hm : 0 < m) (e : ℤ) :
    ((ofDouble m e).low : ℚ) * 2 ^ (ofDouble m e).scale
      = (m - Binary64.reachBelow m e) * 2 ^ e := by
  simp only [ofDouble, Binary64.reachBelow, twoTo, Nat.pow_eq]
  rw [zpow_sub₀ two_ne_zero]
  split
  all_goals
    rw [Nat.cast_sub (by omega)]
    push_cast
    ring

/-- What lies between the ends of the target of a double rounds to the double. -/
theorem roundsTo_of_contains {q : ℚ} (hm : 0 < m) (h : (ofDouble m e).Contains q) :
    Binary64.RoundsTo m e q := by
  rw [Contains, ofDouble_low hm, ofDouble_high] at h
  split at h
  · next even =>
    refine ⟨h.1, h.2, fun odd => ?_⟩
    simp only [ofDouble, beq_iff_eq] at even
    omega
  · exact ⟨h.1.le, h.2.le, fun _ => h⟩

/-- Outside of the target on the near side means beyond its end. -/
theorem le_low_of_not_contains {q : ℚ} (hm : 0 < m) (below : q ≤ m * 2 ^ e)
    (h : ¬ (ofDouble m e).Contains q) : q ≤ (m - Binary64.reachBelow m e) * 2 ^ e := by
  have unit : (0 : ℚ) < 2 ^ e := by positivity
  have inside : q < (m + 1 / 2) * 2 ^ e := by linarith
  by_contra above
  rw [Contains, ofDouble_low hm, ofDouble_high] at h
  split at h
  · exact h ⟨(not_le.1 above).le, inside.le⟩
  · exact h ⟨not_le.1 above, inside⟩

theorem high_le_of_not_contains {q : ℚ} (hm : 0 < m) (above : m * 2 ^ e < q)
    (h : ¬ (ofDouble m e).Contains q) : (m + 1 / 2) * 2 ^ e ≤ q := by
  have unit : (0 : ℚ) < 2 ^ e := by positivity
  have reach := Binary64.reachBelow_pos m e
  have inside : (m - Binary64.reachBelow m e) * 2 ^ e < q := by
    have : (m - Binary64.reachBelow m e) * 2 ^ e ≤ m * 2 ^ e := by
      gcongr
      linarith
    linarith
  by_contra below
  rw [Contains, ofDouble_low hm, ofDouble_high] at h
  split at h
  · exact h ⟨inside.le, (not_le.1 below).le⟩
  · exact h ⟨inside, not_le.1 below⟩

/-- **Seventeen digits suffice.** The step of their grid is less than the length of the interval. -/
theorem onGrid?_seventeen {point : ℤ} (parts : Binary64.IsParts m e) (hm : 0 < m)
    (h : (10 : ℚ) ^ (point - 1) ≤ m * 2 ^ e) : (ofDouble m e).onGrid? (point - 17) ≠ none := by
  intro none
  obtain ⟨d, below, above, outside, outside'⟩ := exists_of_onGrid?_eq_none none
  rw [ofDouble_value] at below above
  have low := le_low_of_not_contains hm below outside
  have high := high_le_of_not_contains hm above outside'
  have unit : (0 : ℚ) < 2 ^ e := by positivity
  -- the two points enclose the interval, so their distance is at least its length
  have long : (Binary64.reachBelow m e + 1 / 2) * 2 ^ e ≤ 10 ^ (point - 17) := by
    push_cast at high
    linarith
  have step : (10 : ℚ) ^ 16 * 10 ^ (point - 17) = 10 ^ (point - 1) := by
    rw [← zpow_natCast, ← zpow_add₀ (by norm_num)]
    congr 1
    push_cast
    ring
  have wide : 10 ^ 16 * (Binary64.reachBelow m e + 1 / 2) ≤ (m : ℚ) := by
    have : 10 ^ 16 * (Binary64.reachBelow m e + 1 / 2) * 2 ^ e ≤ (m : ℚ) * 2 ^ e := by linarith
    exact le_of_mul_le_mul_right this unit
  have size : (m : ℚ) < 2 ^ 53 := by exact_mod_cast parts.lt
  unfold Binary64.reachBelow at wide
  split at wide
  · next power =>
    rw [power.1] at wide
    norm_num at wide
  · linarith

end Target

/-- **The shortest decimal lies in the interval of its double.** -/
theorem shortest_spec {m : ℕ} {e : ℤ} (parts : Binary64.IsParts m e) (hm : 0 < m) :
    0 < (shortest m e).digits ∧ Binary64.RoundsTo m e (shortest m e).value := by
  have unit : (0 : ℚ) < 2 ^ e := by positivity
  have positive : (1 : ℚ) ≤ m := by exact_mod_cast hm
  have ratio : ((m * twoTo e.toNat : ℕ) : ℚ) / (twoTo (-e).toNat : ℕ) = m * 2 ^ e := by
    simp only [twoTo, Nat.pow_eq]
    rw [zpow_eq_toNat_div 2 e]
    push_cast
    ring
  -- the double is within the bounds in which the place of the point is found
  have place : (10 : ℚ) ^ (pointPlace (m * twoTo e.toNat) (twoTo (-e).toNat) - 1) ≤ m * 2 ^ e := by
    rw [← ratio]
    apply pointPlace_spec (Nat.mul_pos hm (twoTo_pos _)) (twoTo_pos _)
    · rw [ratio]
      calc (2 : ℚ) ^ (-1074 : ℤ) ≤ 2 ^ e := zpow_le_zpow_right₀ (by norm_num) parts.least_le
        _ ≤ m * 2 ^ e := le_mul_of_one_le_left unit.le positive
    · rw [ratio]
      calc (m : ℚ) * 2 ^ e < 2 ^ (53 : ℤ) * 2 ^ e := by
            gcongr
            exact_mod_cast parts.lt
        _ = 2 ^ (53 + e) := (zpow_add₀ two_ne_zero _ _).symm
        _ ≤ 2 ^ (1024 : ℤ) := zpow_le_zpow_right₀ (by norm_num) (by linarith [parts.le_greatest])
  -- seventeen digits are always enough, so the search ends in the interval
  obtain ⟨d, p, found, accepted⟩ := Target.exists_of_search (t := Target.ofDouble m e)
    (show 1 ≤ 17 by decide) (show 17 < 1 + 17 by decide) (Target.onGrid?_seventeen parts hm place)
  have rounds := Target.roundsTo_of_contains hm (Target.contains_of_onGrid? accepted)
  have same : (shortest m e).value = d * 10 ^ p := by
    rw [shortest, dropZeros_value, found]
    rfl
  have reach := Binary64.reachBelow_le m e
  rw [digits_pos_iff, same]
  refine ⟨lt_of_lt_of_le (mul_pos ?_ unit) rounds.low, rounds⟩
  linarith

/-- **Reading the shortest decimal gives the double.** So does reading any other way to write its
value. -/
theorem nearest_of_value_eq {m : ℕ} {e : ℤ} (negative : Bool) (parts : Binary64.IsParts m e)
    (hm : 0 < m) {d : Decimal} (h : d.value = (shortest m e).value) :
    Numeral.nearest negative d.digits d.exponent = Binary64.assemble negative m e := by
  obtain ⟨digits, rounds⟩ := shortest_spec parts hm
  rw [digits_pos_iff, ← h, ← digits_pos_iff] at digits
  rw [← h] at rounds
  exact Numeral.nearest_of_roundsTo negative parts hm digits rounds

end FlowCanvas.Decimal
