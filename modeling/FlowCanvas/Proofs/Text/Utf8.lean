import FlowCanvas.Text.Utf8
import Mathlib.Data.List.Basic

/-!
# A text from its octets

What is written in UTF-8 is read back as it was (`decode_encode`). One character at a time: its
octets, whatever follows them, are read as the character (`next_encodeChar`), since the lead tells
how many octets follow and the least and the greatest that may come second.
-/

namespace FlowCanvas.Text.Utf8

theorem continuation_zero {low high bits taken : Nat} {s : Octets} {c : Char}
    (h : Char.ofNat bits = c) :
    ∃ le, continuation 0 low high bits taken s = .ok (c, ⟨s, le⟩) := by
  refine ⟨Nat.le_refl _, ?_⟩
  rw [continuation, h]

/-- An octet between the bounds adds its six bits. -/
theorem continuation_succ {more low high bits taken n : Nat} {s r : Octets} {c : Char}
    (hlow : low ≤ 0x80 + n % 0x40) (hhigh : 0x80 + n % 0x40 ≤ high)
    (h : ∃ le, continuation more 0x80 0xBF (0x40 * bits + n % 0x40) (taken + 1) s
      = .ok (c, ⟨r, le⟩)) :
    ∃ le, continuation (more + 1) low high bits taken ((0x80 + n % 0x40).toUInt8 :: s)
      = .ok (c, ⟨r, le⟩) := by
  obtain ⟨le, h⟩ := h
  have value : (0x80 + n % 0x40).toUInt8.toNat = 0x80 + n % 0x40 := Nat.mod_eq_of_lt (by omega)
  refine ⟨Nat.le_succ_of_le le, ?_⟩
  rw [continuation, value, if_pos ⟨hlow, hhigh⟩, show (0x80 + n % 0x40) % 0x40 = n % 0x40 by omega,
    h]

theorem toNat_toUInt8 {n : Nat} (h : n < 256) : n.toUInt8.toNat = n := Nat.mod_eq_of_lt h

/-! ### Leads -/

section Leads

variable {n : Nat}

theorem lead?_two (least : 0x80 ≤ n) (greatest : n < 0x800) :
    lead? (0xC0 + n / 0x40) = some ⟨1, n / 0x40, 0x80, 0xBF⟩ := by
  rw [lead?, if_neg (by omega), if_pos (by omega), Nat.add_sub_cancel_left]

/-- The second octet of three keeps overlong forms and surrogates out. -/
theorem lead?_three (least : 0x800 ≤ n) (greatest : n < 0x10000)
    (valid : n < 0xD800 ∨ 0xDFFF < n) :
    ∃ low high, lead? (0xE0 + n / 0x1000) = some ⟨2, n / 0x1000, low, high⟩ ∧
      low ≤ 0x80 + n / 0x40 % 0x40 ∧ 0x80 + n / 0x40 % 0x40 ≤ high := by
  rw [lead?, if_neg (by omega), if_neg (by omega)]
  by_cases first : n / 0x1000 = 0
  · refine ⟨0xA0, 0xBF, ?_, by omega, by omega⟩
    rw [first, if_pos rfl]
  rw [if_neg (by omega)]
  by_cases surrogates : n / 0x1000 = 0xD
  · refine ⟨0x80, 0x9F, ?_, by omega, by omega⟩
    rw [surrogates, if_pos rfl]
  · refine ⟨0x80, 0xBF, ?_, by omega, by omega⟩
    rw [if_neg (by omega), if_pos (by omega), Nat.add_sub_cancel_left]

/-- The second octet of four keeps overlong forms and what is above the last plane out. -/
theorem lead?_four (least : 0x10000 ≤ n) (greatest : n < 0x110000) :
    ∃ low high, lead? (0xF0 + n / 0x40000) = some ⟨3, n / 0x40000, low, high⟩ ∧
      low ≤ 0x80 + n / 0x1000 % 0x40 ∧ 0x80 + n / 0x1000 % 0x40 ≤ high := by
  rw [lead?, if_neg (by omega), if_neg (by omega), if_neg (by omega), if_neg (by omega),
    if_neg (by omega)]
  by_cases first : n / 0x40000 = 0
  · refine ⟨0x90, 0xBF, ?_, by omega, by omega⟩
    rw [first, if_pos rfl]
  rw [if_neg (by omega)]
  by_cases last : n / 0x40000 = 4
  · refine ⟨0x80, 0x8F, ?_, by omega, by omega⟩
    rw [last, if_neg (by decide), if_pos rfl]
  · refine ⟨0x80, 0xBF, ?_, by omega, by omega⟩
    rw [if_pos (by omega), Nat.add_sub_cancel_left]

end Leads

/-! ### Characters and texts -/

/-- A character is read from its octets, whatever follows them. -/
theorem next_encodeChar (c : Char) (s : Octets) :
    ∃ b t, encodeChar c = b :: t ∧ ∃ le, next b (t ++ s) = .ok (c, ⟨s, le⟩) := by
  have back : Char.ofNat c.toNat = c := Char.ofNat_toNat c
  have valid : c.toNat < 0xD800 ∨ 0xDFFF < c.toNat ∧ c.toNat < 0x110000 := c.valid
  rw [encodeChar]
  -- from here on only the number of the character counts
  generalize c.toNat = n at back valid ⊢
  split
  · next one =>
    refine ⟨_, [], rfl, Nat.le_refl _, ?_⟩
    rw [next, toNat_toUInt8 (by omega), if_pos one, back]
    rfl
  split
  · next _ two =>
    refine ⟨_, _, rfl, ?_⟩
    rw [next, toNat_toUInt8 (by omega), if_neg (by omega), lead?_two (by omega) two]
    dsimp only
    refine continuation_succ (by omega) (by omega) (continuation_zero ?_)
    rw [← back]
    congr 1
    omega
  split
  · next _ three =>
    obtain ⟨low, high, lead, hlow, hhigh⟩ := lead?_three (by omega) three (by omega)
    refine ⟨_, _, rfl, ?_⟩
    rw [next, toNat_toUInt8 (by omega), if_neg (by omega), lead]
    dsimp only
    refine continuation_succ hlow hhigh (continuation_succ (by omega) (by omega)
      (continuation_zero ?_))
    rw [← back]
    congr 1
    omega
  · obtain ⟨low, high, lead, hlow, hhigh⟩ := lead?_four (n := n) (by omega) (by omega)
    refine ⟨_, _, rfl, ?_⟩
    rw [next, toNat_toUInt8 (by omega), if_neg (by omega), lead]
    dsimp only
    refine continuation_succ hlow hhigh (continuation_succ (by omega) (by omega)
      (continuation_succ (by omega) (by omega) (continuation_zero ?_)))
    rw [← back]
    congr 1
    omega

theorem decodeFrom_encode (start : Nat) (s : List Char) :
    decodeFrom start (s.flatMap encodeChar) = .ok s := by
  induction s generalizing start with
  | nil => simp [decodeFrom]
  | cons c s ih =>
    obtain ⟨b, t, octets, le, read⟩ := next_encodeChar c (s.flatMap encodeChar)
    rw [List.flatMap_cons, octets, List.cons_append, decodeFrom, read]
    simp only [ih]

/-- **What is written is read back.** -/
theorem decode_encode (s : String) : decode (encode s) = .ok s := by
  rw [decode, encode, decodeFrom_encode]
  exact congrArg Except.ok (String.ofList_toList)

end FlowCanvas.Text.Utf8
