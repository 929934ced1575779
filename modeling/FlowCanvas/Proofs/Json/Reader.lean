import FlowCanvas.Json.Reader
import Mathlib.Data.List.TakeWhile

/-!
# Numbers that are not read

An integer with more than `digitLimit` digits is refused with a fault of its own, wherever it
stands. The converse is what is proved here: where the reader gives that fault, the text does hold
so many digits in a row (`holdsRun_of_read`). The invariant of all parts of the reader is
`Step.Within`: what is left is the end of the text, and the fault is told of digits that stand in
it.
-/

namespace FlowCanvas.Json

open Text

/-- Whether a text holds `n` digits in a row, more than are read. -/
def HoldsRun (n : Nat) (s : List Char) : Prop :=
  digitLimit < n ∧ ∃ ds, ds.length = n ∧ (∀ c ∈ ds, isDigit c = true) ∧ ds <:+: s

theorem HoldsRun.of_suffix {n : Nat} {s t : List Char} (h : HoldsRun n t) (ht : t <:+ s) :
    HoldsRun n s := by
  obtain ⟨many, ds, length, digits, inside⟩ := h
  exact ⟨many, ds, length, digits, inside.trans ht.isInfix⟩

/-- What a step may give: the end of the text, or a fault about digits that the text holds. -/
def Step.Within {β : Type} {s : List Char} : Step β s → Prop
  | .ok (_, r) => r.1 <:+ s
  | .error (.tooManyDigits n) => HoldsRun n s
  | .error _ => True

namespace Step.Within

variable {β γ : Type} {s t : List Char}

/-- A fault of a part is a fault of the whole. -/
theorem error {x : Step β t} {e : Fault} (h : x.Within) (hx : x = .error e) (ht : t <:+ s) :
    Step.Within (.error e : Step γ s) := by
  subst hx
  cases e with
  | malformed p n => trivial
  | tooManyDigits n => exact HoldsRun.of_suffix h ht
  | tooDeep => trivial

/-- What a part leaves is the end of the whole. -/
theorem suffix {x : Step β t} {v : β} {r : { r : List Char // r.length < t.length }}
    (h : x.Within) (hx : x = .ok (v, r)) (ht : t <:+ s) : r.1 <:+ s := by
  subst hx
  exact List.IsSuffix.trans h ht

end Step.Within

theorem skip_suffix {s t : List Char} {r : { r : List Char // r.length ≤ s.length }}
    (h : skip s = r) (ht : s <:+ t) : r.1 <:+ t := by
  subst h
  exact (List.dropWhile_suffix _).trans ht

theorem after?_suffix {c : Char} {s t : List Char} {r : { r : List Char // r.length < s.length }}
    (h : after? c s = some r) (ht : s <:+ t) : r.1 <:+ t := by
  cases s with
  | nil => cases h
  | cons d s =>
    simp only [after?] at h
    split at h
    · cases h
      exact (List.suffix_cons d s).trans ht
    · cases h

/-! ### Strings -/

theorem lowUnit_eq_some {s : List Char} {m : Nat} {r : { r : List Char // r.length < s.length }}
    (h : lowUnit s = .ok (some (m, r))) : r.1 <:+ s := by
  unfold lowUnit at h
  split at h
  · next a b c d e rest =>
    split at h
    · cases h
    · split at h
      · cases h
        exact ⟨['\\', 'u', a, b, c, d], rfl⟩
      · cases h
  · cases h

theorem lowUnit_eq_error {s : List Char} {f : Fault} (h : lowUnit s = .error f) :
    ∃ left, f = .malformed .unitEscape left := by
  unfold lowUnit at h
  split at h
  · split at h
    · cases h
      exact ⟨_, rfl⟩
    · cases h
  · cases h

theorem unicodeEscape_within (s : List Char) : (unicodeEscape s).Within := by
  unfold unicodeEscape
  split
  · next a b c d e rest =>
    have ends : (e :: rest) <:+ (a :: b :: c :: d :: e :: rest) := ⟨[a, b, c, d], rfl⟩
    split
    · trivial
    · split
      · next f h =>
        split at h
        · obtain ⟨left, rfl⟩ := lowUnit_eq_error h
          trivial
        · cases h
      · next m r hr h =>
        split at h
        · exact (lowUnit_eq_some h).trans ends
        · cases h
      · exact ends
  · trivial

theorem stringRest_within (opened : Nat) (s : List Char) : (stringRest opened s).Within := by
  fun_induction stringRest opened s with
  | case1 => trivial
  | case2 r => exact List.suffix_cons _ r
  | case3 => trivial
  | case4 r e h => exact (unicodeEscape_within r).error h ⟨['\\', 'u'], rfl⟩
  | case5 r x t ht h e h' _ ih =>
    have ends : t <:+ '\\' :: 'u' :: r := (unicodeEscape_within r).suffix h ⟨['\\', 'u'], rfl⟩
    exact ih.error h' ends
  | case6 r x t ht h xs t' ht' h' _ ih =>
    have ends : t <:+ '\\' :: 'u' :: r := (unicodeEscape_within r).suffix h ⟨['\\', 'u'], rfl⟩
    exact ih.suffix h' ends
  | case7 => trivial
  | case8 d r _ x _ e h _ ih => exact ih.error h ⟨['\\', d], rfl⟩
  | case9 d r _ x _ xs t ht h _ ih => exact ih.suffix h ⟨['\\', d], rfl⟩
  | case10 => trivial
  | case11 d r _ _ _ e h ih => exact ih.error h (List.suffix_cons d r)
  | case12 d r _ _ _ xs t ht h ih => exact ih.suffix h (List.suffix_cons d r)

/-! ### Numbers -/

theorem wholePart?_spec {s whole : List Char} {r : { r : List Char // r.length < s.length }}
    (h : wholePart? s = some (whole, r)) :
    whole ++ r.1 = s ∧ ∀ c ∈ whole, isDigit c = true := by
  cases s with
  | nil => cases h
  | cons c s =>
    simp only [wholePart?] at h
    split at h
    · next zero =>
      cases h
      rw [zero]
      exact ⟨rfl, List.forall_mem_singleton.2 rfl⟩
    split at h
    · next digit =>
      cases h
      refine ⟨by rw [List.cons_append, List.takeWhile_append_dropWhile], ?_⟩
      intro d hd
      obtain rfl | hd := List.mem_cons.1 hd
      · exact digit
      · exact List.mem_takeWhile_imp hd
    · cases h

theorem fractionPart_suffix (s : List Char) : (fractionPart s).2 <:+ s := by
  unfold fractionPart
  split
  · next c rest =>
    split
    · exact (List.dropWhile_suffix _).trans ⟨['.', c], rfl⟩
    · exact List.suffix_refl _
  · exact List.suffix_refl _

theorem sign_suffix (s : List Char) : (Numeral.sign s).2 <:+ s := by
  unfold Numeral.sign
  split
  · exact List.suffix_cons _ _
  · exact List.suffix_cons _ _
  · exact List.suffix_refl _

theorem exponentPart_suffix (s : List Char) : (exponentPart s).2 <:+ s := by
  unfold exponentPart
  split
  · exact List.suffix_refl _
  · next c rest =>
    split
    · dsimp only
      split
      · exact List.suffix_refl _
      · exact (List.dropWhile_suffix _).trans ((sign_suffix rest).trans (List.suffix_cons c rest))
    · exact List.suffix_refl _

/-- An integer is refused for its digits only if there are more than are read. -/
theorem Digits.number_eq_error {d : Digits} {e : Fault} (h : d.number = .error e) :
    e = .tooManyDigits d.whole.length ∧ digitLimit < d.whole.length := by
  unfold Digits.number at h
  split at h
  · split at h
    · next many =>
      cases h
      exact ⟨rfl, many⟩
    · cases h
  · cases h

theorem minusPart_suffix (s : List Char) : (minusPart s).2 <:+ s := by
  unfold minusPart
  split
  · exact List.suffix_cons _ _
  · exact List.suffix_refl _

theorem readNumber_within (s : List Char) : (readNumber s).Within := by
  have ends := minusPart_suffix s
  unfold readNumber
  dsimp only
  split
  · trivial
  · next whole r _ read =>
    obtain ⟨parts, digits⟩ := wholePart?_spec read
    rw [← parts] at ends
    split
    · next shorter =>
      cases number : Digits.number ⟨(minusPart s).1, whole, (fractionPart r).1,
        (exponentPart (fractionPart r).2).1⟩ with
      | ok n =>
        exact (exponentPart_suffix _).trans ((fractionPart_suffix _).trans
          (List.IsSuffix.trans ⟨whole, rfl⟩ ends))
      | error e =>
        -- the digits are the whole part, with which the text begins after its sign
        obtain ⟨rfl, many⟩ := Digits.number_eq_error number
        have inside : whole <:+: s := List.IsInfix.trans ⟨[], r, rfl⟩ ends.isInfix
        exact ⟨many, whole, rfl, digits, inside⟩
    · trivial

/-! ### Values -/

theorem word?_suffix {s r : List Char} {v : Json} (h : word? s = some (v, r)) : r <:+ s := by
  unfold word? at h
  obtain ⟨w, -, h⟩ := Option.map_eq_some_iff.1 h
  cases h
  exact List.drop_suffix _ _

mutual

theorem readValue_within (room : Nat) (s : List Char) : (readValue room s).Within := by
  rw [readValue.eq_def]
  split
  · trivial
  · next c rest =>
    -- what a bracket or a brace opens is shorter by that character
    have tail : rest <:+ c :: rest := List.suffix_cons c rest
    split
    · have string := stringRest_within (rest.length + 1) rest
      split
      · next e h => exact string.error h tail
      · next xs r hr h => exact string.suffix h tail
    split
    · split
      · trivial
      · next _ room =>
        split
        next inside _ hinside =>
        have ends := skip_suffix hinside tail
        split
        · next r _ hr =>
          have ends := after?_suffix hr ends
          exact ends
        · have items := readItems_within room inside
          split
          · next e h => exact items.error h ends
          · next vs r _ h => exact items.suffix h ends
    split
    · split
      · trivial
      · next _ room =>
        split
        next inside _ hinside =>
        have ends := skip_suffix hinside tail
        split
        · next r _ hr =>
          have ends := after?_suffix hr ends
          exact ends
        · have fields := readFields_within room inside []
          split
          · next e h => exact fields.error h ends
          · next fs r _ h => exact fields.suffix h ends
    split
    · next v r word =>
      split
      · exact word?_suffix word
      · trivial
    · have number := readNumber_within (c :: rest)
      cases h : readNumber (c :: rest) with
      | ok n => exact number.suffix h (List.suffix_refl _)
      | error e => exact number.error h (List.suffix_refl _)
termination_by (s.length, 0)
decreasing_by all_goals (subst_vars; exact Prod.Lex.left _ _ (Nat.lt_succ_of_le ‹_›))

theorem readItems_within (room : Nat) (s : List Char) : (readItems room s).Within := by
  rw [readItems.eq_def]
  have value := readValue_within room s
  split
  · next e h => exact value.error h (List.suffix_refl _)
  next v r _ h =>
  have ends := value.suffix h (List.suffix_refl _)
  split
  next r _ hr =>
  have ends := skip_suffix hr ends
  split
  · next r _ hr =>
    have ends := after?_suffix hr ends
    exact ends
  split
  · trivial
  next r _ hr =>
  have ends := after?_suffix hr ends
  split
  next r _ hr =>
  have ends := skip_suffix hr ends
  -- behind the comma
  have items := readItems_within room r
  split
  · next e h => exact items.error h ends
  · next vs r _ h => exact items.suffix h ends
termination_by (s.length, 1)

theorem readFields_within (room : Nat) (s : List Char) (before : Fields) :
    (readFields room s before).Within := by
  rw [readFields.eq_def]
  split
  · trivial
  next r _ hr =>
  have ends := after?_suffix hr (List.suffix_refl _)
  -- the name of the field
  have string := stringRest_within s.length r
  split
  · next e h => exact string.error h ends
  next name r _ h =>
  have ends := string.suffix h ends
  split
  next r _ hr =>
  have ends := skip_suffix hr ends
  split
  · trivial
  next r _ hr =>
  have ends := after?_suffix hr ends
  split
  next r _ hr =>
  have ends := skip_suffix hr ends
  -- its value, behind the colon
  have value := readValue_within room r
  split
  · next e h => exact value.error h ends
  next v r _ h =>
  have ends := value.suffix h ends
  split
  next r _ hr =>
  have ends := skip_suffix hr ends
  split
  · next r _ hr =>
    have ends := after?_suffix hr ends
    exact ends
  split
  · trivial
  next r _ hr =>
  have ends := after?_suffix hr ends
  split
  next r _ hr =>
  have ends := skip_suffix hr ends
  -- the other fields, behind the comma
  have fields := readFields_within room r (setField before (String.ofList name) v)
  split
  · next e h => exact fields.error h ends
  · next fs r _ h => exact fields.suffix h ends
termination_by (s.length, 1)

end

/-- **A text that is refused for its digits holds that many in a row.** -/
theorem holdsRun_of_read {s : List Char} {n : Nat} (h : read s = .error (.tooManyDigits n)) :
    HoldsRun n s := by
  have value := readValue_within depthLimit (skip s).1
  have ends : (skip s).1 <:+ s := skip_suffix rfl (List.suffix_refl _)
  unfold read at h
  split at h
  · cases h
  split at h
  · next e he =>
    cases h
    rw [he] at value
    exact HoldsRun.of_suffix value ends
  · split at h <;> cases h

/-! ### A text of nines -/

theorem readNumber_nines {n : Nat} (h : digitLimit < n + 1) :
    readNumber (List.replicate (n + 1) '9') = .error (.tooManyDigits (n + 1)) := by
  have nine : isDigit '9' = true := by decide
  have digits : ∀ whole r, wholePart? (minusPart (List.replicate (n + 1) '9')).2 = some (whole, r) →
      whole = List.replicate (n + 1) '9' ∧ r.1 = [] := by
    intro whole r hr
    cases hr
    simp [nine, List.replicate_succ]
  unfold readNumber
  dsimp only
  split
  · next none => cases none
  · next whole r _ some =>
    obtain ⟨rfl, left⟩ := digits _ _ some
    dsimp only at left
    subst left
    rw [dif_pos (by simp [fractionPart, exponentPart])]
    simp [fractionPart, exponentPart, Digits.number, h, Except.map]

/-- A text of nothing but nines is an integer, which is refused if there are too many of them. -/
theorem read_nines {n : Nat} (h : digitLimit < n) :
    read (List.replicate n '9') = .error (.tooManyDigits n) := by
  obtain ⟨n, rfl⟩ := Nat.exists_eq_succ_of_ne_zero (Nat.ne_of_gt (Nat.zero_lt_of_lt h))
  have value : readValue depthLimit (List.replicate (n + 1) '9')
      = .error (.tooManyDigits (n + 1)) := by
    have number := readNumber_nines h
    rw [List.replicate_succ] at number ⊢
    rw [readValue.eq_def]
    simp [number, word?, words, Except.map]
  unfold read
  split
  · next mark => cases mark
  · split
    · next e he =>
      cases value.symm.trans he
      rfl
    · next he => cases value.symm.trans he

end FlowCanvas.Json
