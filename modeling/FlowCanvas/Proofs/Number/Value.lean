import FlowCanvas.Proofs.Graph.Alike
import FlowCanvas.Proofs.Number.Nearest

/-!
# Numbers of one value

Two doubles have one value if they are the same, or zeros of different signs
(`Number.alike_real_iff`), and the one double that is no number is alike to itself. A whole number
has the value of a double if that is an integer, and then it rounds to that double
(`Number.alike_ofInt`). So numbers that are alike stay alike as doubles, and being alike is an
equivalence.

Sums of doubles that are alike are alike (`Number.Alike.real_add`): a zero makes no difference to
what it is added to but for the sign of another zero. For whole numbers this holds only when they
have met a double, since what is exact as a whole number may not be as a sum of doubles.
-/

namespace FlowCanvas

open Float.Model (Format UnpackedFloat)
open Float.Model.UnpackedFloat

namespace Binary64

/-! ### Doubles that are integers -/

/-- **The integer that a double is**, by its parts. -/
theorem eq_of_integerValue? {x : Float} {n : ℤ} (h : integerValue? x = some n) :
    ∃ negative m e, ∃ k : ℕ, shape x = .finite negative m e ∧ (k : ℚ) = m * 2 ^ e ∧
      n = if negative then -(k : ℤ) else k := by
  unfold integerValue? at h
  split at h
  · next negative m e found =>
    split at h
    · next up =>
      obtain ⟨j, rfl⟩ := Int.eq_ofNat_of_zero_le up
      refine ⟨negative, m, j, m * 2 ^ j, found, by simp, ?_⟩
      simpa [eq_comm] using h
    · split at h
      · next exact =>
        obtain ⟨j, rfl⟩ : ∃ j : ℕ, e = -j := ⟨(-e).toNat, by omega⟩
        simp only [neg_neg, Int.toNat_natCast, twoTo, Nat.pow_eq] at exact h
        refine ⟨negative, m, -j, m / 2 ^ j, found, ?_, ?_⟩
        · rw [zpow_neg, zpow_natCast, ← div_eq_mul_inv,
            Nat.cast_div_charZero (Nat.dvd_of_mod_eq_zero exact)]
          simp
        · simpa [eq_comm] using h
      · cases h
  · cases h

/-- An integer rounds to the double that it is. -/
theorem ofInt_of_integerValue? {x : Float} {n : ℤ} (h : integerValue? x = some n) (hn : n ≠ 0) :
    ofInt n = x := by
  obtain ⟨negative, m, e, k, found, value, rfl⟩ := eq_of_integerValue? h
  have positive : 0 < k := by
    rw [Nat.pos_iff_ne_zero]
    rintro rfl
    simp at hn
  have sign : decide ((if negative then -(k : ℤ) else k) < 0) = negative := by
    cases negative <;> simp [positive]
  have size : (if negative then -(k : ℤ) else k).natAbs = k := by
    cases negative <;> simp
  rw [ofInt, sign, size, ← assemble_of_shape found]
  refine ofRatio_of_roundsTo negative (isParts_of_shape found) positive one_pos ?_
  rw [Nat.cast_one, div_one, value]
  exact .self m e

/-- There are two doubles that are zero. -/
theorem zero_of_integerValue? {x : Float} (h : integerValue? x = some 0) : x = 0 ∨ x = -0 := by
  obtain ⟨negative, m, e, k, found, value, zero⟩ := eq_of_integerValue? h
  obtain rfl : k = 0 := by
    cases negative <;> simpa using zero.symm
  obtain rfl : m = 0 := by
    rw [Nat.cast_zero, eq_comm, mul_eq_zero] at value
    simpa using value.resolve_right (by positivity)
  have least : e = leastExponent := by
    by_contra above
    exact absurd ((isParts_of_shape found).full above) (by decide)
  rw [← assemble_of_shape found, least]
  cases negative
  · exact .inl rfl
  · exact .inr rfl

/-! ### Sums with zeros -/

/-- A double is told by what it unpacks to. -/
theorem ofModel_pack_unpack (x : Float) : Float.ofModel (.pack x.toModel.unpack) = x := by
  have bits : pack Format.binary64 (unpack Format.binary64 x.toBits.toBitVec)
      = x.toBits.toBitVec := by
    rw [pack_unpack]
    split
    · next nan =>
      rw [isNaNBits, decide_eq_true_eq] at nan
      exact (x.toModel.valid.eq_packedNaN nan.1 nan.2).symm
    · rfl
  calc Float.ofModel (.pack x.toModel.unpack)
      = .ofModel ⟨⟨pack Format.binary64 (unpack Format.binary64 x.toBits.toBitVec)⟩, _⟩ := rfl
    _ = x := by simp only [bits]; rfl

theorem zero_of_unpack {x : Float} {s : Sign} (h : x.toModel.unpack = .zero s) :
    x = 0 ∨ x = -0 := by
  rw [← ofModel_pack_unpack x, h]
  cases s
  · exact .inr rfl
  · exact .inl rfl

theorem add_eq_ofModel (x y : Float) :
    x + y = .ofModel (.pack (add Format.binary64 x.toModel.unpack y.toModel.unpack)) := rfl

/-- The sign of a zero counts in a sum with another zero only. -/
theorem add_zero_eq {x : Float} (h : ¬ (x = 0 ∨ x = -0)) : x + 0 = x + -0 ∧ 0 + x = -0 + x := by
  have plus : (0 : Float).toModel.unpack = .zero .positive := rfl
  have minus : (-0 : Float).toModel.unpack = .zero .negative := rfl
  simp only [add_eq_ofModel, plus, minus]
  cases unpacked : x.toModel.unpack with
  | zero s => exact absurd (zero_of_unpack unpacked) h
  | _ => exact ⟨rfl, rfl⟩

end Binary64

namespace Number

variable {a b c : Number} {x x' y y' : Float} {n : ℤ}

/-! ### What is alike -/

theorem alike_real_iff :
    (real x).Alike (real y) ↔ x = y ∨ (x = 0 ∧ y = -0) ∨ (x = -0 ∧ y = 0) := by
  constructor
  · rintro (h | h)
    · exact .inl (real.inj h)
    · exact (Float.beq_iff_ne_nan_and_eq.1 h).2.2
  · rintro (rfl | ⟨rfl, rfl⟩ | ⟨rfl, rfl⟩)
    · exact .inl rfl
    · exact .inr (by decide +kernel)
    · exact .inr (by decide +kernel)

theorem alike_whole_real_iff : (whole n).Alike (real x) ↔ Binary64.integerValue? x = some n := by
  constructor
  · rintro (h | h)
    · cases h
    · exact beq_iff_eq.1 h
  · exact fun h => .inr (beq_iff_eq.2 h)

theorem alike_whole_iff {m : ℤ} : (whole n).Alike (whole m) ↔ n = m := by
  constructor
  · rintro (h | h)
    · exact whole.inj h
    · exact beq_iff_eq.1 h
  · rintro rfl
    exact .inl rfl

/-- A whole number with the value of a double rounds to it. -/
theorem alike_ofInt (h : Binary64.integerValue? x = some n) :
    (real x).Alike (real (Binary64.ofInt n)) := by
  rw [alike_real_iff]
  by_cases hn : n = 0
  · subst hn
    have zero : Binary64.ofInt 0 = 0 := by decide +kernel
    rw [zero]
    obtain rfl | rfl := Binary64.zero_of_integerValue? h
    · exact .inl rfl
    · exact .inr (.inr ⟨rfl, rfl⟩)
  · exact .inl (Binary64.ofInt_of_integerValue? h hn).symm

namespace Alike

theorem refl (a : Number) : a.Alike a := .inl rfl

theorem symm (h : a.Alike b) : b.Alike a := by
  cases a with
  | whole n =>
    cases b with
    | whole m => exact alike_whole_iff.2 (alike_whole_iff.1 h).symm
    | real y =>
      rw [alike_whole_real_iff] at h
      exact .inr (beq_iff_eq.2 h)
  | real x =>
    cases b with
    | whole m =>
      obtain h | h := h
      · cases h
      · exact .inr h
    | real y =>
      rw [alike_real_iff] at h ⊢
      tauto

theorem real_trans {z : Float} (h : (real x).Alike (real y)) (h' : (real y).Alike (real z)) :
    (real x).Alike (real z) := by
  rw [alike_real_iff] at h h' ⊢
  obtain rfl | ⟨rfl, rfl⟩ | ⟨rfl, rfl⟩ := h
  · exact h'
  · obtain rfl | ⟨-, rfl⟩ | ⟨-, rfl⟩ := h' <;> simp
  · obtain rfl | ⟨-, rfl⟩ | ⟨-, rfl⟩ := h' <;> simp

/-- Doubles that are alike are the same integer, if any. -/
theorem integerValue?_eq (h : (real x).Alike (real y)) :
    Binary64.integerValue? x = Binary64.integerValue? y := by
  obtain rfl | ⟨rfl, rfl⟩ | ⟨rfl, rfl⟩ := alike_real_iff.1 h
  · rfl
  · decide +kernel
  · decide +kernel

theorem trans (h : a.Alike b) (h' : b.Alike c) : a.Alike c := by
  cases b with
  | whole m =>
    have h := h.symm
    cases a with
    | whole n =>
      obtain rfl := alike_whole_iff.1 h
      exact h'
    | real x =>
      cases c with
      | whole k =>
        obtain rfl := alike_whole_iff.1 h'
        exact h.symm
      | real z =>
        -- both doubles are what the whole number rounds to
        exact (alike_ofInt (alike_whole_real_iff.1 h)).real_trans
          (alike_ofInt (alike_whole_real_iff.1 h')).symm
  | real y =>
    cases a with
    | whole n =>
      rw [alike_whole_real_iff] at h
      cases c with
      | whole k =>
        have h' := alike_whole_real_iff.1 h'.symm
        exact alike_whole_iff.2 (Option.some.inj (h.symm.trans h'))
      | real z => exact alike_whole_real_iff.2 (h'.integerValue?_eq.symm.trans h)
    | real x =>
      cases c with
      | whole k =>
        have h' := alike_whole_real_iff.1 h'.symm
        exact (alike_whole_real_iff.2 (h.integerValue?_eq.trans h')).symm
      | real z => exact h.real_trans h'

/-- Numbers that are alike are alike as doubles. -/
theorem settled (h : a.Alike b) : a.settled.Alike b.settled := by
  cases a with
  | whole n =>
    cases b with
    | whole m =>
      obtain rfl := alike_whole_iff.1 h
      exact refl _
    | real y => exact (alike_ofInt (alike_whole_real_iff.1 h)).symm
  | real x =>
    cases b with
    | whole m => exact alike_ofInt (alike_whole_real_iff.1 h.symm)
    | real y => exact h

/-! ### Sums and halves -/

/-- A zero of the other sign in a sum. -/
theorem add_zero (z : Float) :
    (real (z + 0)).Alike (real (z + -0)) ∧ (real (0 + z)).Alike (real (-0 + z)) := by
  by_cases zero : z = 0 ∨ z = -0
  · obtain rfl | rfl := zero
    · exact ⟨.inr (by decide +kernel), .inr (by decide +kernel)⟩
    · exact ⟨.inr (by decide +kernel), .inr (by decide +kernel)⟩
  · obtain ⟨right, left⟩ := Binary64.add_zero_eq zero
    exact ⟨alike_real_iff.2 (.inl right), alike_real_iff.2 (.inl left)⟩

/-- **Sums of doubles that are alike are alike.** -/
theorem real_add (h : (real x).Alike (real x')) (h' : (real y).Alike (real y')) :
    (real (x + y)).Alike (real (x' + y')) := by
  -- one side at a time
  have first : (real (x + y)).Alike (real (x' + y)) := by
    obtain rfl | ⟨rfl, rfl⟩ | ⟨rfl, rfl⟩ := alike_real_iff.1 h
    · exact refl _
    · exact (add_zero y).2
    · exact (add_zero y).2.symm
  have second : (real (x' + y)).Alike (real (x' + y')) := by
    obtain rfl | ⟨rfl, rfl⟩ | ⟨rfl, rfl⟩ := alike_real_iff.1 h'
    · exact refl _
    · exact (add_zero x').1
    · exact (add_zero x').1.symm
  exact first.trans second

/-- Halves of doubles that are alike are alike. -/
theorem real_half (h : (real x).Alike (real y)) :
    (real x / whole 2).Alike (real y / whole 2) := by
  obtain rfl | ⟨rfl, rfl⟩ | ⟨rfl, rfl⟩ := alike_real_iff.1 h
  · exact refl _
  · exact .inr (by decide +kernel)
  · exact .inr (by decide +kernel)

end Alike

end Number

/-! ### Points -/

namespace Point.Alike

variable {p q r : Point Number}

theorem refl (p : Point Number) : p.Alike p := ⟨.refl _, .refl _⟩

theorem symm (h : p.Alike q) : q.Alike p := ⟨h.x.symm, h.y.symm⟩

theorem trans (h : p.Alike q) (h' : q.Alike r) : p.Alike r := ⟨h.x.trans h'.x, h.y.trans h'.y⟩

end Point.Alike

end FlowCanvas
