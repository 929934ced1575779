import FlowCanvas.Json.Printer
import FlowCanvas.Json.Reader
import FlowCanvas.Proofs.Number.Shortest
import FlowCanvas.Proofs.Text.Digits

/-!
# Numbers read back

The text of a number, followed by something that cannot belong to it, is read as that number: a
whole number as a whole number with the same digits (`readNumber_whole`), a finite double as the
double nearest to the decimal that is written, which is the double itself (`readNumber_real`).
-/

namespace FlowCanvas.Json

open Text

/-- A step that reads a value and leaves `rest`. -/
def Step.Gives {β : Type} {s : List Char} (x : Step β s) (b : β) (rest : List Char) : Prop :=
  ∃ h, x = .ok (b, ⟨rest, h⟩)

/-- What may follow a number: nothing, or a character that does not continue it. -/
def EndsNumber (rest : List Char) : Prop :=
  ∀ c ∈ rest.head?, isDigit c = false ∧ c ≠ '.' ∧ c ≠ 'e' ∧ c ≠ 'E'

variable {rest : List Char}

/-! ### The parts of a numeral -/

theorem takeWhile_digits {ds : List Char} (hds : ∀ c ∈ ds, isDigit c = true)
    (ends : ∀ c ∈ rest.head?, isDigit c = false) : (ds ++ rest).takeWhile isDigit = ds := by
  rw [List.takeWhile_append_of_pos hds]
  cases rest with
  | nil => simp
  | cons c rest => simp [ends c rfl]

theorem dropWhile_digits {ds : List Char} (hds : ∀ c ∈ ds, isDigit c = true)
    (ends : ∀ c ∈ rest.head?, isDigit c = false) : (ds ++ rest).dropWhile isDigit = rest := by
  rw [List.dropWhile_append_of_pos hds]
  cases rest with
  | nil => rfl
  | cons c rest => simp [ends c rfl]

/-- Digits that may stand in front of a point: a zero alone, or digits that do not start with zero.
-/
structure IsWholePart (ds : List Char) : Prop where
  /-- they are digits -/
  digits : ∀ c ∈ ds, isDigit c = true
  /-- a zero in front stands alone -/
  front : ds = ['0'] ∨ ∃ c cs, ds = c :: cs ∧ c ≠ '0'

theorem isWholePart_zero : IsWholePart ['0'] := ⟨List.forall_mem_singleton.2 rfl, .inl rfl⟩

theorem isWholePart_decimal (n : ℕ) : IsWholePart (decimal n) := by
  refine ⟨fun c => isDigit_of_mem_decimal, ?_⟩
  obtain rfl | pos := Nat.eq_zero_or_pos n
  · exact .inl rfl
  · exact .inr (decimal_eq_cons pos)

theorem wholePart?_append {ds : List Char} (hds : IsWholePart ds)
    (ends : ∀ c ∈ rest.head?, isDigit c = false) :
    ∃ h, wholePart? (ds ++ rest) = some (ds, ⟨rest, h⟩) := by
  obtain ⟨digits, rfl | ⟨c, cs, rfl, hc⟩⟩ := hds
  · exact ⟨Nat.lt_succ_self _, rfl⟩
  · obtain ⟨digit, digits⟩ := List.forall_mem_cons.1 digits
    simp only [List.cons_append, wholePart?, if_neg hc, if_pos digit, takeWhile_digits digits ends,
      dropWhile_digits digits ends]
    exact ⟨by simp only [List.length_cons, List.length_append]; omega, trivial⟩

theorem fractionPart_point {ds : List Char} (hne : ds ≠ []) (hds : ∀ c ∈ ds, isDigit c = true)
    (ends : ∀ c ∈ rest.head?, isDigit c = false) :
    fractionPart ('.' :: ds ++ rest) = (some ds, rest) := by
  obtain ⟨c, cs, rfl⟩ := List.exists_cons_of_ne_nil hne
  have digits := List.forall_mem_cons.1 hds
  simp only [List.cons_append, fractionPart, if_pos digits.1, takeWhile_digits digits.2 ends,
    dropWhile_digits digits.2 ends]

theorem fractionPart_none (h : ∀ c ∈ rest.head?, c ≠ '.') : fractionPart rest = (none, rest) := by
  cases rest with
  | nil => rfl
  | cons c rest =>
    unfold fractionPart
    split
    · next heq =>
      cases heq
      exact absurd rfl (h '.' rfl)
    · rfl

theorem exponentPart_none (h : ∀ c ∈ rest.head?, c ≠ 'e' ∧ c ≠ 'E') :
    exponentPart rest = (none, rest) := by
  cases rest with
  | nil => rfl
  | cons c rest =>
    have := h c rfl
    rw [exponentPart, if_neg (by rintro (rfl | rfl) <;> simp_all)]

/-- An exponent is read with its sign, whatever zeros stand in front. -/
theorem exponentPart_exponentText (e : ℤ) (ends : ∀ c ∈ rest.head?, isDigit c = false) :
    exponentPart (Decimal.exponentText e ++ rest) = (some e, rest) := by
  have digits : ∀ c ∈ padLeft 2 '0' (decimal e.natAbs), isDigit c = true := by
    intro c hc
    obtain hc | hc := List.mem_append.1 hc
    · rw [List.eq_of_mem_replicate hc]
      decide
    · exact isDigit_of_mem_decimal hc
  have value : digitsValue (padLeft 2 '0' (decimal e.natAbs)) = e.natAbs := by
    rw [padLeft, digitsValue_append, digitsValue_replicate_zero, digitsValue_decimal]
    omega
  have some : padLeft 2 '0' (decimal e.natAbs) ≠ [] := by
    simp [padLeft, decimal_ne_nil]
  have sign : Numeral.sign ((if e < 0 then '-' else '+') ::
      (padLeft 2 '0' (decimal e.natAbs) ++ rest))
      = (decide (e < 0), padLeft 2 '0' (decimal e.natAbs) ++ rest) := by
    by_cases he : e < 0 <;> simp [he, Numeral.sign]
  simp only [Decimal.exponentText, List.cons_append, exponentPart, true_or, if_true, sign,
    takeWhile_digits digits ends, dropWhile_digits digits ends, if_neg some, value,
    decide_eq_true_eq, Prod.mk.injEq, Option.some.injEq, and_true]
  split <;> omega

theorem signed_append (negative : Bool) (s t : List Char) :
    signed negative s ++ t = signed negative (s ++ t) := by
  cases negative <;> rfl

theorem minusPart_signed {s : List Char} (negative : Bool) (h : wholePart? s ≠ none) :
    minusPart (signed negative s) = (negative, s) := by
  cases negative with
  | true => rfl
  | false =>
    change minusPart s = _
    unfold minusPart
    split
    · exact absurd rfl h
    · rfl

/-- A number is read from its parts. -/
theorem readNumber_gives {negative : Bool} {u r₁ r₂ whole : List Char}
    {fraction : Option (List Char)} {exponent : Option ℤ} {n : Number}
    (hwhole : ∃ h, wholePart? (u ++ rest) = some (whole, ⟨r₁, h⟩))
    (hfraction : fractionPart r₁ = (fraction, r₂)) (hexponent : exponentPart r₂ = (exponent, rest))
    (hnumber : Digits.number ⟨negative, whole, fraction, exponent⟩ = .ok n) :
    (readNumber (signed negative u ++ rest)).Gives n rest := by
  obtain ⟨shorter, hwhole⟩ := hwhole
  rw [signed_append]
  have minus : minusPart (signed negative (u ++ rest)) = (negative, u ++ rest) :=
    minusPart_signed negative (by simp [hwhole])
  have left : rest.length < (signed negative (u ++ rest)).length := by
    have h₁ := length_fractionPart_le r₁
    have h₂ := length_exponentPart_le r₂
    rw [hfraction] at h₁
    rw [hexponent] at h₂
    have : (u ++ rest).length ≤ (signed negative (u ++ rest)).length := by
      cases negative <;> simp [signed]
    exact (h₂.trans h₁).trans_lt (shorter.trans_le this)
  refine ⟨left, ?_⟩
  unfold readNumber
  generalize minusPart (signed negative (u ++ rest)) = parts at minus ⊢
  subst minus
  simp only [hwhole, hfraction, hexponent, hnumber, dif_pos left, Except.map]

/-! ### Whole numbers -/

theorem integer_eq_signed (n : ℤ) : integer n = signed (decide (n < 0)) (decimal n.natAbs) := by
  cases n with
  | ofNat n => rfl
  | negSucc n =>
    rw [decide_eq_true (Int.negSucc_lt_zero n)]
    rfl

/-- **A whole number is read back if it has no more digits than are read.** -/
theorem readNumber_whole {n : ℤ} (few : (decimal n.natAbs).length ≤ digitLimit)
    (ends : EndsNumber rest) : (readNumber (integer n ++ rest)).Gives (.whole n) rest := by
  rw [integer_eq_signed]
  apply readNumber_gives (wholePart?_append (isWholePart_decimal _) fun c hc => (ends c hc).1)
    (fractionPart_none fun c hc => (ends c hc).2.1)
    (exponentPart_none fun c hc => (ends c hc).2.2)
  simp only [Digits.number, if_neg (not_lt.2 few), digitsValue_decimal, decide_eq_true_eq]
  congr 2
  split <;> omega

/-! ### Decimals -/

/-- Ways to write a decimal: digits on both sides of a point, or a fraction that may be empty and an
exponent. -/
inductive IsText (whole fraction : List Char) : (e : ℤ) → List Char → Prop where
  /-- with a point -/
  | pointed (some : fraction ≠ []) : IsText whole fraction 0 (whole ++ '.' :: fraction)
  /-- with an exponent -/
  | scientific (e : ℤ) : IsText whole fraction e
      (whole ++ (if fraction = [] then [] else '.' :: fraction) ++ Decimal.exponentText e)

/-- A text of a decimal is a double, that of all its digits. -/
theorem readNumber_isText {whole fraction u : List Char} {e : ℤ} (h : IsText whole fraction e u)
    (negative : Bool) (hwhole : IsWholePart whole) (hfraction : ∀ c ∈ fraction, isDigit c = true)
    (ends : EndsNumber rest) :
    (readNumber (signed negative u ++ rest)).Gives
      (.real (Numeral.nearest negative (digitsValue (whole ++ fraction)) (e - fraction.length)))
      rest := by
  have ends' : ∀ c ∈ rest.head?, isDigit c = false := fun c hc => (ends c hc).1
  cases h with
  | pointed some =>
    have first : ∃ h, wholePart? (whole ++ '.' :: fraction ++ rest)
        = .some (whole, ⟨'.' :: fraction ++ rest, h⟩) := by
      rw [List.append_assoc]
      exact wholePart?_append hwhole (by simp [isDigit])
    exact readNumber_gives first (fractionPart_point some hfraction ends')
      (exponentPart_none fun d hd => (ends d hd).2.2) rfl
  | scientific =>
    -- without a fraction the exponent stands right behind the digits in front
    by_cases none : fraction = []
    · subst none
      have first : ∃ h, wholePart? (whole ++ [] ++ Decimal.exponentText e ++ rest)
          = .some (whole, ⟨Decimal.exponentText e ++ rest, h⟩) := by
        rw [List.append_nil, List.append_assoc]
        exact wholePart?_append hwhole (by simp [Decimal.exponentText, isDigit])
      exact readNumber_gives first (fractionPart_none (by simp [Decimal.exponentText]))
        (exponentPart_exponentText e ends') (by simp [Digits.number])
    · rw [if_neg none]
      have first : ∃ h, wholePart? (whole ++ '.' :: fraction ++ Decimal.exponentText e ++ rest)
          = .some (whole, ⟨'.' :: fraction ++ (Decimal.exponentText e ++ rest), h⟩) := by
        rw [List.append_assoc, List.append_assoc]
        exact wholePart?_append hwhole (by simp [isDigit])
      exact readNumber_gives first
        (fractionPart_point none hfraction (by simp [Decimal.exponentText, isDigit]))
        (exponentPart_exponentText e ends') rfl

/-- Parts of a text for a decimal: all their digits are those of the decimal and some zeros, and the
place of the point is that of the decimal. -/
structure IsTextOf (d : Decimal) (whole fraction : List Char) (e : ℤ) : Prop where
  /-- the digits in front of the point -/
  wholePart : IsWholePart whole
  /-- the digits behind it -/
  fractionPart : ∀ c ∈ fraction, isDigit c = true
  /-- all digits, and the place of the point -/
  value : ∃ zeros : ℕ, digitsValue (whole ++ fraction) = d.digits * 10 ^ zeros ∧
    e - fraction.length = d.exponent - zeros
  /-- the text -/
  text : IsText whole fraction e d.text

theorem digitsValue_zeros_append (n : ℕ) (ds : List Char) :
    digitsValue (List.replicate n '0' ++ ds) = digitsValue ds := by
  rw [digitsValue_append, digitsValue_replicate_zero, Nat.zero_mul, Nat.zero_add]

theorem digitsValue_append_zeros (ds : List Char) (n : ℕ) :
    digitsValue (ds ++ List.replicate n '0') = digitsValue ds * 10 ^ n := by
  rw [digitsValue_append, digitsValue_replicate_zero, Nat.add_zero, List.length_replicate]

theorem isDigit_of_mem_zeros_append {n : ℕ} {ds : List Char} (hds : ∀ c ∈ ds, isDigit c = true) :
    ∀ c ∈ List.replicate n '0' ++ ds, isDigit c = true := by
  intro c hc
  obtain hc | hc := List.mem_append.1 hc
  · rw [List.eq_of_mem_replicate hc]
    rfl
  · exact hds c hc

variable {d : Decimal} {point : ℤ}

/-- Where the point is in front of all digits, zeros stand between. -/
theorem isTextOf_small (hpoint : point = d.exponent + (decimal d.digits).length) (low : -4 < point)
    (high : point ≤ 0) :
    IsTextOf d ['0'] (List.replicate (-point).toNat '0' ++ decimal d.digits) 0 where
  wholePart := isWholePart_zero
  fractionPart := isDigit_of_mem_zeros_append fun _ => isDigit_of_mem_decimal
  value := by
    refine ⟨0, ?_, ?_⟩
    · rw [pow_zero, mul_one, digitsValue_append, digitsValue_zeros_append, digitsValue_decimal,
        show digitsValue ['0'] = 0 from rfl, Nat.zero_mul, Nat.zero_add]
    · rw [List.length_append, List.length_replicate]
      omega
  text := by
    have some : List.replicate (-point).toNat '0' ++ decimal d.digits ≠ [] := by
      simp [decimal_ne_nil]
    have text : d.text
        = ['0'] ++ '.' :: (List.replicate (-point).toNat '0' ++ decimal d.digits) := by
      simp only [Decimal.text, Decimal.positional, ← hpoint, if_pos high, if_neg some]
      rw [if_pos ⟨low, by omega⟩]
    rw [text]
    exact .pointed some

/-- Where the point is among the digits or behind them. -/
theorem text_of_point (hpoint : point = d.exponent + (decimal d.digits).length) (low : 0 < point)
    (high : point ≤ 16) :
    d.text = (decimal d.digits).take point.toNat
        ++ List.replicate (point.toNat - (decimal d.digits).length) '0'
      ++ '.' :: if (decimal d.digits).drop point.toNat = [] then ['0']
        else (decimal d.digits).drop point.toNat := by
  simp only [Decimal.text, Decimal.positional, ← hpoint, if_neg (not_le.2 low)]
  rw [if_pos ⟨by omega, high⟩]

theorem isTextOf_whole (hd : 0 < d.digits)
    (hpoint : point = d.exponent + (decimal d.digits).length) (high : point ≤ 16)
    (behind : (decimal d.digits).length ≤ point.toNat) :
    IsTextOf d (decimal d.digits
      ++ List.replicate (point.toNat - (decimal d.digits).length) '0') ['0'] 0 where
  wholePart := by
    obtain ⟨c, cs, hcs, hc⟩ := decimal_eq_cons hd
    refine ⟨?_, .inr
      ⟨c, cs ++ List.replicate (point.toNat - (decimal d.digits).length) '0', ?_, hc⟩⟩
    · intro x hx
      obtain hx | hx := List.mem_append.1 hx
      · exact isDigit_of_mem_decimal hx
      · rw [List.eq_of_mem_replicate hx]
        rfl
    · rw [hcs]
      rfl
  fractionPart := List.forall_mem_singleton.2 rfl
  value := by
    refine ⟨point.toNat - (decimal d.digits).length + 1, ?_, ?_⟩
    · rw [List.append_assoc, ← List.replicate_succ', digitsValue_append_zeros, digitsValue_decimal]
    · have := List.length_pos_iff.2 (decimal_ne_nil d.digits)
      simp only [List.length_singleton]
      omega
  text := by
    have low : 0 < point := by
      have := List.length_pos_iff.2 (decimal_ne_nil d.digits)
      omega
    rw [text_of_point hpoint low high, List.take_of_length_le behind,
      List.drop_eq_nil_of_le behind, if_pos rfl]
    exact .pointed (by simp)

theorem isTextOf_split (hd : 0 < d.digits)
    (hpoint : point = d.exponent + (decimal d.digits).length) (low : 0 < point)
    (high : point ≤ 16) (among : point.toNat < (decimal d.digits).length) :
    IsTextOf d ((decimal d.digits).take point.toNat) ((decimal d.digits).drop point.toNat) 0 where
  wholePart := by
    obtain ⟨c, cs, hcs, hc⟩ := decimal_eq_cons hd
    obtain ⟨n, hn⟩ : ∃ n, point.toNat = n + 1 := ⟨point.toNat - 1, by omega⟩
    refine ⟨fun x hx => isDigit_of_mem_decimal (List.mem_of_mem_take hx),
      .inr ⟨c, cs.take n, ?_, hc⟩⟩
    rw [hcs, hn, List.take_succ_cons]
  fractionPart := fun x hx => isDigit_of_mem_decimal (List.mem_of_mem_drop hx)
  value := by
    refine ⟨0, ?_, ?_⟩
    · rw [List.take_append_drop, digitsValue_decimal, pow_zero, mul_one]
    · rw [List.length_drop]
      omega
  text := by
    have some : (decimal d.digits).drop point.toNat ≠ [] := by
      rw [ne_eq, List.drop_eq_nil_iff]
      omega
    rw [text_of_point hpoint low high, if_neg some, show point.toNat - (decimal d.digits).length = 0
      by omega, List.replicate_zero, List.append_nil]
    exact .pointed some

/-- Outside of the window one digit stands in front of the point, and the exponent counts from
there. -/
theorem isTextOf_scientific (hd : 0 < d.digits)
    (hpoint : point = d.exponent + (decimal d.digits).length)
    (outside : ¬ (-4 < point ∧ point ≤ 16)) :
    IsTextOf d ((decimal d.digits).take 1) ((decimal d.digits).drop 1) (point - 1) where
  wholePart := by
    obtain ⟨c, cs, hcs, hc⟩ := decimal_eq_cons hd
    refine ⟨fun x hx => isDigit_of_mem_decimal (List.mem_of_mem_take hx), .inr ⟨c, [], ?_, hc⟩⟩
    rw [hcs]
    rfl
  fractionPart := fun x hx => isDigit_of_mem_decimal (List.mem_of_mem_drop hx)
  value := by
    refine ⟨0, ?_, ?_⟩
    · rw [List.take_append_drop, digitsValue_decimal, pow_zero, mul_one]
    · have := List.length_pos_iff.2 (decimal_ne_nil d.digits)
      rw [List.length_drop]
      omega
  text := by
    have text : d.text = (decimal d.digits).take 1
        ++ (if (decimal d.digits).drop 1 = [] then [] else '.' :: (decimal d.digits).drop 1)
        ++ Decimal.exponentText (point - 1) := by
      simp only [Decimal.text, ← hpoint, if_neg outside]
    rw [text]
    exact .scientific (point - 1)

/-- The text of a decimal consists of such parts. -/
theorem exists_isTextOf (hd : 0 < d.digits) : ∃ whole fraction e, IsTextOf d whole fraction e := by
  by_cases inside : -4 < d.exponent + (decimal d.digits).length ∧
      d.exponent + (decimal d.digits).length ≤ 16
  · by_cases small : d.exponent + (decimal d.digits).length ≤ 0
    · exact ⟨_, _, _, isTextOf_small rfl inside.1 small⟩
    by_cases behind : (decimal d.digits).length ≤ (d.exponent + (decimal d.digits).length).toNat
    · exact ⟨_, _, _, isTextOf_whole hd rfl inside.2 behind⟩
    · exact ⟨_, _, _, isTextOf_split hd rfl (not_le.1 small) inside.2 (not_le.1 behind)⟩
  · exact ⟨_, _, _, isTextOf_scientific hd rfl inside⟩

/-- **A decimal is read back from its text**, as one of the same value. -/
theorem readNumber_text (hd : 0 < d.digits) (negative : Bool) (ends : EndsNumber rest) :
    ∃ d' : Decimal, d'.value = d.value ∧ (readNumber (signed negative d.text ++ rest)).Gives
      (.real (Numeral.nearest negative d'.digits d'.exponent)) rest := by
  obtain ⟨whole, fraction, e, parts⟩ := exists_isTextOf hd
  refine ⟨⟨digitsValue (whole ++ fraction), e - fraction.length⟩, ?_,
    readNumber_isText parts.text negative parts.wholePart parts.fractionPart ends⟩
  obtain ⟨zeros, digits, place⟩ := parts.value
  rw [Decimal.value, Decimal.value, digits, place, zpow_sub₀ (by norm_num), zpow_natCast]
  push_cast
  field_simp

/-! ### Doubles -/

/-- **A finite double is read back.** -/
theorem readNumber_real {x : Float} {negative : Bool} {m : ℕ} {e : ℤ}
    (h : Binary64.shape x = .finite negative m e) (ends : EndsNumber rest) :
    (readNumber (realText .json x ++ rest)).Gives (.real x) rest := by
  have parts := Binary64.isParts_of_shape h
  have back := Binary64.assemble_of_shape h
  have text : realText .json x
      = signed negative (if m = 0 then ['0', '.', '0'] else (Decimal.shortest m e).text) := by
    simp only [realText, h]
  rw [text]
  obtain rfl | pos := Nat.eq_zero_or_pos m
  · -- zero has the least exponent only
    have least : e = Binary64.leastExponent := by
      by_contra he
      exact absurd (parts.full he) (by norm_num)
    have some : ['0'] ≠ [] := by simp
    have gives := readNumber_isText (.pointed some) negative isWholePart_zero
      (List.forall_mem_singleton.2 rfl) ends
    have digits : digitsValue (['0'] ++ ['0']) = 0 := rfl
    rw [digits, Numeral.nearest_zero, ← least, back] at gives
    rw [if_pos rfl]
    exact gives
  · rw [if_neg pos.ne']
    obtain ⟨d, value, gives⟩ := readNumber_text (Decimal.shortest_spec parts pos).1 negative ends
    rwa [Decimal.nearest_of_value_eq negative parts pos value, back] at gives

end FlowCanvas.Json
