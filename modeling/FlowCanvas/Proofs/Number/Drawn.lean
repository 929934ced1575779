import FlowCanvas.Proofs.Json.Number
import FlowCanvas.Proofs.Number.Value

/-!
# Numbers in drawings

A drawing writes a double that is an integer as one, and any other one as messages do. The first are
written with digits only, and the others with a point or an exponent (`numeric_realText`), so the
two are not confused; and the text of a finite double is read back (`eq_of_realText_eq`). So two
finite doubles are drawn in the same way exactly if they have one value
(`Number.drawn_eq_drawn_iff`): the zeros are the only two doubles that share their text.
-/

namespace FlowCanvas

open Text

/-! ### Characters of numerals -/

/-- A mark that sets a decimal apart from the digits of an integer. -/
def isMark (c : Char) : Bool := c == '.' || c == 'e'

/-- A character that numbers are written with. -/
def isNumeric (c : Char) : Bool := isDigit c || isMark c || c == '-' || c == '+'

theorem isNumeric_of_isDigit {c : Char} (h : isDigit c = true) : isNumeric c = true := by
  simp [isNumeric, h]

/-- Characters of an integer. -/
theorem mem_integer {n : ℤ} {c : Char} (h : c ∈ integer n) : isDigit c = true ∨ c = '-' := by
  cases n with
  | ofNat n => exact .inl (isDigit_of_mem_decimal h)
  | negSucc n =>
    obtain rfl | h := List.mem_cons.mp h
    · exact .inr rfl
    · exact .inl (isDigit_of_mem_decimal h)

theorem isMark_of_mem_integer {n : ℤ} {c : Char} (h : c ∈ integer n) : isMark c = false := by
  obtain digit | rfl := mem_integer h
  · rw [← Bool.not_eq_true]
    intro mark
    simp only [isMark, Bool.or_eq_true, beq_iff_eq] at mark
    obtain rfl | rfl := mark <;> cases digit
  · rfl

theorem isNumeric_of_mem_integer {n : ℤ} {c : Char} (h : c ∈ integer n) : isNumeric c = true := by
  obtain digit | rfl := mem_integer h
  · exact isNumeric_of_isDigit digit
  · rfl

theorem Text.integer_injective : Function.Injective integer := by
  intro n m h
  have minus (k : ℕ) : '-' ∉ decimal k := fun mem => nomatch isDigit_of_mem_decimal mem
  cases n with
  | ofNat n =>
    cases m with
    | ofNat m => exact congrArg Int.ofNat (decimal_injective h)
    | negSucc m =>
      -- only a negative number is written with a minus sign
      refine absurd ?_ (minus n)
      change '-' ∈ integer (.ofNat n)
      rw [h]
      exact List.mem_cons_self
  | negSucc n =>
    cases m with
    | ofNat m =>
      refine absurd ?_ (minus m)
      change '-' ∈ integer (.ofNat m)
      rw [← h]
      exact List.mem_cons_self
    | negSucc m =>
      have size := decimal_injective (List.tail_eq_of_cons_eq h)
      exact congrArg Int.negSucc (Nat.succ.inj size)

/-! ### Decimals -/

namespace Decimal

theorem isNumeric_of_mem_exponentText {e : ℤ} {c : Char} (h : c ∈ exponentText e) :
    isNumeric c = true := by
  obtain rfl | h := List.mem_cons.mp h
  · rfl
  obtain rfl | h := List.mem_cons.mp h
  · split <;> rfl
  obtain h | h := List.mem_append.mp h
  · rw [List.eq_of_mem_replicate h]
    rfl
  · exact isNumeric_of_isDigit (isDigit_of_mem_decimal h)

/-- The text of a decimal is written with numeric characters, and there is a mark among them. -/
theorem numeric_text {d : Decimal} (hd : 0 < d.digits) :
    (∀ c ∈ d.text, isNumeric c = true) ∧ ∃ c ∈ d.text, isMark c = true := by
  obtain ⟨whole, fraction, e, parts⟩ := Json.exists_isTextOf hd
  have digits (c : Char) (h : c ∈ whole ∨ c ∈ fraction) : isNumeric c = true :=
    isNumeric_of_isDigit (h.elim (parts.wholePart.digits c) (parts.fractionPart c))
  have text := parts.text
  generalize d.text = s at text
  cases text with
  | pointed some =>
    -- the mark is the point
    refine ⟨fun c h => ?_, '.', by simp, rfl⟩
    simp only [List.mem_append, List.mem_cons] at h
    obtain h | rfl | h := h
    · exact digits c (.inl h)
    · rfl
    · exact digits c (.inr h)
  | scientific =>
    -- the mark is the letter of the exponent
    refine ⟨fun c h => ?_, 'e', by simp [exponentText], rfl⟩
    simp only [List.mem_append] at h
    obtain (h | h) | h := h
    · exact digits c (.inl h)
    · split at h
      · cases h
      · obtain rfl | h := List.mem_cons.mp h
        · rfl
        · exact digits c (.inr h)
    · exact isNumeric_of_mem_exponentText h

end Decimal

/-! ### Finite doubles -/

variable {x y : Float}

theorem exists_shape (hx : (Binary64.shape x).isFinite = true) :
    ∃ negative m e, Binary64.shape x = .finite negative m e := by
  cases h : Binary64.shape x with
  | finite negative m e => exact ⟨negative, m, e, rfl⟩
  | nan => rw [h] at hx; cases hx
  | infinite negative => rw [h] at hx; cases hx

theorem mem_signed {negative : Bool} {s : List Char} {c : Char} :
    c ∈ signed negative s ↔ (negative = true ∧ c = '-') ∨ c ∈ s := by
  cases negative <;> simp [signed]

/-- The text of a finite double has numeric characters only, and there is a mark among them. -/
theorem numeric_realText (hx : (Binary64.shape x).isFinite = true) (words : NumberWords) :
    (∀ c ∈ realText words x, isNumeric c = true) ∧ ∃ c ∈ realText words x, isMark c = true := by
  obtain ⟨negative, m, e, shape⟩ := exists_shape hx
  have size : ∃ s, realText words x = signed negative s ∧
      (∀ c ∈ s, isNumeric c = true) ∧ ∃ c ∈ s, isMark c = true := by
    refine ⟨if m = 0 then ['0', '.', '0'] else (Decimal.shortest m e).text,
      by simp only [realText, shape], ?_⟩
    split
    · exact ⟨List.all_eq_true.mp rfl, '.', by simp, rfl⟩
    · next hm =>
      have parts := Binary64.isParts_of_shape shape
      exact Decimal.numeric_text (Decimal.shortest_spec parts (Nat.pos_of_ne_zero hm)).1
  obtain ⟨s, text, numeric, c, hc, mark⟩ := size
  rw [text]
  refine ⟨fun c h => ?_, c, mem_signed.mpr (.inr hc), mark⟩
  obtain ⟨-, rfl⟩ | h := mem_signed.mp h
  · rfl
  · exact numeric c h

/-- A finite double is told by its text. -/
theorem eq_of_realText_eq (hx : (Binary64.shape x).isFinite = true)
    (hy : (Binary64.shape y).isFinite = true) (h : realText .plain x = realText .plain y) :
    x = y := by
  obtain ⟨_, _, _, shape⟩ := exists_shape hx
  obtain ⟨_, _, _, shape'⟩ := exists_shape hy
  -- for finite doubles the words do not matter
  have same : realText .json x = realText .json y := by
    simp only [realText, shape, shape'] at h ⊢
    exact h
  have ends : Json.EndsNumber [] := by simp [Json.EndsNumber]
  have back := Json.readNumber_real shape ends
  rw [same] at back
  obtain ⟨_, read⟩ := back
  obtain ⟨_, read'⟩ := Json.readNumber_real shape' ends
  exact Number.real.inj (Prod.ext_iff.mp (Except.ok.inj (read.symm.trans read'))).1

namespace Number

/-- A finite double. -/
def IsFinite : Number → Prop
  | whole _ => False
  | real x => (Binary64.shape x).isFinite = true

instance : DecidablePred IsFinite
  | whole _ => .isFalse id
  | real x => inferInstanceAs (Decidable ((Binary64.shape x).isFinite = true))

/-- The text of a finite double in a drawing has numeric characters only. -/
theorem isNumeric_of_mem_drawn {a : Number} (ha : a.IsFinite) {c : Char} (h : c ∈ a.drawn) :
    isNumeric c = true := by
  cases a with
  | whole n => cases ha
  | real x =>
    unfold drawn at h
    split at h
    · exact isNumeric_of_mem_integer h
    · exact (numeric_realText ha .plain).1 c h

theorem alike_of_drawn_eq (hx : (real x).IsFinite) (hy : (real y).IsFinite)
    (h : (real x).drawn = (real y).drawn) : (real x).Alike (real y) := by
  unfold drawn toFloat at h
  cases found : Binary64.integerValue? x with
  | some n =>
    cases found' : Binary64.integerValue? y with
    | some m =>
      simp only [found, found'] at h
      obtain rfl := integer_injective h
      exact (alike_ofInt found).trans (alike_ofInt found').symm
    | none =>
      simp only [found, found'] at h
      -- integers are drawn without a mark, and what is none is drawn with one
      obtain ⟨c, hc, mark⟩ := (numeric_realText hy .plain).2
      rw [← h] at hc
      exact absurd mark (Bool.eq_false_iff.mp (isMark_of_mem_integer hc))
  | none =>
    cases found' : Binary64.integerValue? y with
    | some m =>
      simp only [found, found'] at h
      obtain ⟨c, hc, mark⟩ := (numeric_realText hx .plain).2
      rw [h] at hc
      exact absurd mark (Bool.eq_false_iff.mp (isMark_of_mem_integer hc))
    | none =>
      simp only [found, found'] at h
      rw [eq_of_realText_eq hx hy h]
      exact .refl _

theorem drawn_eq_of_alike (h : (real x).Alike (real y)) : (real x).drawn = (real y).drawn := by
  obtain rfl | ⟨rfl, rfl⟩ | ⟨rfl, rfl⟩ := alike_real_iff.mp h
  · rfl
  · decide +kernel
  · decide +kernel

/-- **Finite doubles are drawn in the same way exactly if they have one value.** -/
theorem drawn_eq_drawn_iff {a b : Number} (ha : a.IsFinite) (hb : b.IsFinite) :
    a.drawn = b.drawn ↔ a.same b = true := by
  cases a with
  | whole n => cases ha
  | real x =>
    cases b with
    | whole m => cases hb
    | real y =>
      have number : real x ≠ .real Float.nan := by
        intro nan
        rw [nan] at ha
        revert ha
        decide +kernel
      rw [← alike_iff_same number]
      exact ⟨alike_of_drawn_eq ha hb, drawn_eq_of_alike⟩

end Number

end FlowCanvas
