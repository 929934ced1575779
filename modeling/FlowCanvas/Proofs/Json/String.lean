import FlowCanvas.Proofs.Json.Number

/-!
# Strings read back

The text of a string is read back character by character: however a character is written, the reader
gives it and goes on behind it (`stringRest_escaped`). Beyond the first plane it is a pair of UTF-16
units, whose halves are never a character of their own.
-/

namespace FlowCanvas.Json

open Text

/-! ### Units -/

/-- The four hexadecimal digits of a unit are read as the unit. -/
theorem unit?_digits {n : ℕ} (h : n < 0x10000) :
    unit? (Nat.digitChar (n / 0x1000)) (Nat.digitChar (n / 0x100 % 16))
      (Nat.digitChar (n / 0x10 % 16)) (Nat.digitChar (n % 16)) = some n := by
  have sixteen (k : ℕ) : k % 16 < 16 := Nat.mod_lt k (by decide)
  simp only [unit?, hexValue?_digitChar (show n / 0x1000 < 16 by omega),
    hexValue?_digitChar (sixteen _), Option.bind_eq_bind, Option.bind_some, Option.pure_def]
  congr 1
  omega

theorem unitEscape_eq {n : ℕ} (h : n < 0x10000) :
    unitEscape n = ['\\', 'u', Nat.digitChar (n / 0x1000), Nat.digitChar (n / 0x100 % 16),
      Nat.digitChar (n / 0x10 % 16), Nat.digitChar (n % 16)] := by
  rw [unitEscape, hex_four h]

/-- A character is no half of a pair. -/
theorem not_half_toNat (c : Char) : isHigh c.toNat = false ∧ isLow c.toNat = false := by
  obtain h | ⟨h, -⟩ := c.valid
  all_goals
    simp only [isHigh, isLow, Char.toNat, Bool.and_eq_false_iff, decide_eq_false_iff_not]
    omega

theorem toNat_lt (c : Char) : c.toNat < 0x110000 := by
  obtain h | ⟨-, h⟩ := c.valid
  all_goals
    simp only [Char.toNat]
    omega

/-! ### Escapes -/

/-- A unit that is a character is that character. -/
theorem unicodeEscape_unit {c d : Char} {rest : List Char} (h : c.toNat < 0x10000) :
    (unicodeEscape (Nat.digitChar (c.toNat / 0x1000) :: Nat.digitChar (c.toNat / 0x100 % 16) ::
      Nat.digitChar (c.toNat / 0x10 % 16) :: Nat.digitChar (c.toNat % 16) :: d :: rest)).Gives c
      (d :: rest) := by
  obtain ⟨high, low⟩ := not_half_toNat c
  refine ⟨by simp only [List.length_cons]; omega, ?_⟩
  simp only [unicodeEscape, unit?_digits h, high, Bool.false_eq_true, if_false, unitChar, low,
    Bool.or_self, Char.ofNat_toNat]

/-- Two units of a pair are the character they stand for together. -/
theorem unicodeEscape_pair {c d : Char} {rest : List Char} {high low : ℕ}
    (far : 0x10000 ≤ c.toNat) (hhigh : high = 0xD800 + (c.toNat - 0x10000) / 0x400)
    (hlow : low = 0xDC00 + (c.toNat - 0x10000) % 0x400) :
    (unicodeEscape (Nat.digitChar (high / 0x1000) :: Nat.digitChar (high / 0x100 % 16) ::
      Nat.digitChar (high / 0x10 % 16) :: Nat.digitChar (high % 16) ::
      (unitEscape low ++ d :: rest))).Gives c (d :: rest) := by
  have range := toNat_lt c
  have isFirst : isHigh high = true := by
    simp only [isHigh, Bool.and_eq_true, decide_eq_true_eq]
    omega
  have isSecond : isLow low = true := by
    simp only [isLow, Bool.and_eq_true, decide_eq_true_eq]
    omega
  have together : Char.ofNat (0x10000 + (high - 0xD800) * 0x400 + (low - 0xDC00)) = c := by
    rw [show 0x10000 + (high - 0xD800) * 0x400 + (low - 0xDC00) = c.toNat by omega,
      Char.ofNat_toNat]
  rw [unitEscape_eq (by omega : low < 0x10000)]
  refine ⟨by simp only [List.length_cons, List.length_append]; omega, ?_⟩
  simp only [List.cons_append, List.nil_append, unicodeEscape, lowUnit, isFirst, isSecond,
    unit?_digits (by omega : high < 0x10000), unit?_digits (by omega : low < 0x10000), if_true,
    together]

/-! ### Characters -/

/-- The ways to write a character: by a backslash and a letter, as it is, or by its units. -/
theorem escaped_cases (c : Char) :
    (∃ d, d ≠ 'u' ∧ simpleEscape? d = some c ∧ escaped c = ['\\', d]) ∨
    (c ≠ '\x22' ∧ c ≠ '\\' ∧ 0x20 ≤ c.toNat ∧ escaped c = [c]) ∨
    (c.toNat < 0x10000 ∧ escaped c = unitEscape c.toNat) ∨
    (0x10000 ≤ c.toNat ∧ escaped c = unitEscape (0xD800 + (c.toNat - 0x10000) / 0x400)
      ++ unitEscape (0xDC00 + (c.toNat - 0x10000) % 0x400)) := by
  unfold escaped
  split
  · next special =>
    refine .inl ⟨c, ?_, ?_, rfl⟩
    · rintro rfl
      exact absurd special (by decide)
    · rw [simpleEscape?, if_pos]
      obtain rfl | rfl := special <;> simp
  next special =>
  obtain ⟨quote, backslash⟩ := not_or.1 special
  split
  · -- control characters with a letter of their own
    next newline => exact .inl ⟨'n', by decide, by rw [newline]; rfl, rfl⟩
  split
  · next back => exact .inl ⟨'r', by decide, by rw [back]; rfl, rfl⟩
  split
  · next tab => exact .inl ⟨'t', by decide, by rw [tab]; rfl, rfl⟩
  split
  · next erase => exact .inl ⟨'b', by decide, by rw [erase]; rfl, rfl⟩
  split
  · next feed => exact .inl ⟨'f', by decide, by rw [feed]; rfl, rfl⟩
  split
  · next printable => exact .inr (.inl ⟨quote, backslash, printable.1, rfl⟩)
  split
  · next near => exact .inr (.inr (.inl ⟨near, rfl⟩))
  · next far => exact .inr (.inr (.inr ⟨not_lt.1 far, rfl⟩))

section

variable {opened : ℕ} {c : Char} {s xs rest : List Char} (h : (stringRest opened s).Gives xs rest)
include h

theorem stringRest_plain (quote : c ≠ '\x22') (backslash : c ≠ '\\') (printable : 0x20 ≤ c.toNat) :
    (stringRest opened (c :: s)).Gives (c :: xs) rest := by
  obtain ⟨shorter, h⟩ := h
  refine ⟨Nat.lt_succ_of_lt shorter, ?_⟩
  rw [stringRest.eq_def]
  simp only [if_neg quote, if_neg backslash, if_neg (not_lt.2 printable), h]

theorem stringRest_simple {d : Char} (hd : d ≠ 'u') (hc : simpleEscape? d = some c) :
    (stringRest opened ('\\' :: d :: s)).Gives (c :: xs) rest := by
  obtain ⟨shorter, h⟩ := h
  refine ⟨Nat.lt_succ_of_lt (Nat.lt_succ_of_lt shorter), ?_⟩
  rw [stringRest.eq_def]
  simp only [if_neg (by decide : '\\' ≠ '\x22'), if_true, if_neg hd, hc, h]

theorem stringRest_unicode {t : List Char} (hc : (unicodeEscape t).Gives c s) :
    (stringRest opened ('\\' :: 'u' :: t)).Gives (c :: xs) rest := by
  obtain ⟨shorter, h⟩ := h
  obtain ⟨shorter', hc⟩ := hc
  refine ⟨by simp only [List.length_cons]; omega, ?_⟩
  rw [stringRest.eq_def]
  simp only [if_neg (by decide : '\\' ≠ '\x22'), if_true, hc, h]

/-- **However a character is written, the reader gives it and goes on.** -/
theorem stringRest_escaped (c : Char) :
    (stringRest opened (escaped c ++ s)).Gives (c :: xs) rest := by
  -- what follows is not empty, since a string ends with its quote
  obtain ⟨d, t, rfl⟩ : ∃ d t, s = d :: t := by
    obtain ⟨shorter, -⟩ := h
    exact List.exists_cons_of_length_pos (by omega)
  obtain ⟨e, he, simple, eq⟩ | ⟨quote, backslash, printable, eq⟩ | ⟨near, eq⟩ | ⟨far, eq⟩ :=
    escaped_cases c
  · rw [eq]
    exact stringRest_simple h he simple
  · rw [eq]
    exact stringRest_plain h quote backslash printable
  · rw [eq, unitEscape_eq near]
    exact stringRest_unicode h (unicodeEscape_unit near)
  · have range := toNat_lt c
    rw [eq, unitEscape_eq (show 0xD800 + (c.toNat - 0x10000) / 0x400 < 0x10000 by omega),
      List.append_assoc]
    exact stringRest_unicode h (unicodeEscape_pair far rfl rfl)

end

/-- **A text is read back from between its quotes.** -/
theorem stringRest_flatMap_escaped (opened : ℕ) (s rest : List Char) :
    (stringRest opened (s.flatMap escaped ++ '\x22' :: rest)).Gives s rest := by
  induction s with
  | nil =>
    refine ⟨Nat.lt_succ_self _, ?_⟩
    rw [stringRest.eq_def]
    rfl
  | cons c s ih =>
    rw [List.flatMap_cons, List.append_assoc]
    exact stringRest_escaped ih c

end FlowCanvas.Json
