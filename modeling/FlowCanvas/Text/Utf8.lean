/-!
# UTF-8

Texts are stored as octets. Writing is total. Reading goes character by character and, where the
octets are not well formed, tells which octets are at fault and why: a first octet that starts no
character, a later octet outside the range that the first one allows, or the end of the data inside
a character. The allowed range of the second octet excludes overlong forms, surrogates and code
points above the last plane, so a character is rejected at the earliest octet that shows it.
-/

namespace FlowCanvas.Text.Utf8

/-- Stored data. -/
abbrev Octets := List UInt8

/-- Why octets are not a character. -/
inductive Reason where
  /-- no character starts with this octet -/
  | invalidStart
  /-- the octet after those consumed does not continue the character -/
  | invalidContinuation
  /-- the data ends inside a character -/
  | unexpectedEnd
  deriving DecidableEq, Repr

/-- Octets that are no character: their place, how many there are, and the first of them. -/
structure Fault where
  /-- the offset of the first octet at fault -/
  start : Nat
  /-- how many octets are at fault -/
  count : Nat
  /-- the first octet at fault -/
  octet : UInt8
  /-- why they are no character -/
  reason : Reason
  deriving DecidableEq, Repr

/-- The octets of one character. -/
def encodeChar (c : Char) : Octets :=
  let n := c.toNat
  if n < 0x80 then [n.toUInt8]
  else if n < 0x800 then [(0xC0 + n / 0x40).toUInt8, (0x80 + n % 0x40).toUInt8]
  else if n < 0x10000 then
    [(0xE0 + n / 0x1000).toUInt8, (0x80 + n / 0x40 % 0x40).toUInt8, (0x80 + n % 0x40).toUInt8]
  else
    [(0xF0 + n / 0x40000).toUInt8, (0x80 + n / 0x1000 % 0x40).toUInt8,
     (0x80 + n / 0x40 % 0x40).toUInt8, (0x80 + n % 0x40).toUInt8]

/-- The octets of a text. -/
def encode (s : String) : Octets := s.toList.flatMap encodeChar

/-- What the first octet of a character tells: how many octets follow, its share of the code point,
and the least and the greatest octet that may come next. -/
structure Lead where
  /-- how many octets follow -/
  more : Nat
  /-- the bits of the code point in the first octet -/
  bits : Nat
  /-- the least second octet -/
  low : Nat
  /-- the greatest second octet -/
  high : Nat

/-- The lead of a character of more than one octet. -/
def lead? (b : Nat) : Option Lead :=
  if b < 0xC2 then none
  else if b < 0xE0 then some ⟨1, b - 0xC0, 0x80, 0xBF⟩
  else if b = 0xE0 then some ⟨2, 0, 0xA0, 0xBF⟩
  else if b = 0xED then some ⟨2, 0xD, 0x80, 0x9F⟩
  else if b < 0xF0 then some ⟨2, b - 0xE0, 0x80, 0xBF⟩
  else if b = 0xF0 then some ⟨3, 0, 0x90, 0xBF⟩
  else if b < 0xF4 then some ⟨3, b - 0xF0, 0x80, 0xBF⟩
  else if b = 0xF4 then some ⟨3, 4, 0x80, 0x8F⟩
  else none

/-- The octets after the first: `more` of them, the next one between `low` and `high`, the rest any
continuation octets. `taken` counts the octets of this character so far. -/
def continuation : (more low high bits taken : Nat) → (s : Octets) →
    Except (Nat × Reason) (Char × { r : Octets // r.length ≤ s.length })
  | 0, _, _, bits, _, s => .ok (Char.ofNat bits, ⟨s, Nat.le_refl _⟩)
  | _ + 1, _, _, _, taken, [] => .error (taken, .unexpectedEnd)
  | more + 1, low, high, bits, taken, b :: s =>
    if low ≤ b.toNat ∧ b.toNat ≤ high then
      match continuation more 0x80 0xBF (0x40 * bits + b.toNat % 0x40) (taken + 1) s with
      | .ok (c, ⟨r, h⟩) => .ok (c, ⟨r, Nat.le_succ_of_le h⟩)
      | .error e => .error e
    else .error (taken, .invalidContinuation)

/-- The first character of some octets, with the octets after it; a fault counts its octets. -/
def next (b : UInt8) (s : Octets) :
    Except (Nat × Reason) (Char × { r : Octets // r.length ≤ s.length }) :=
  if b.toNat < 0x80 then .ok (Char.ofNat b.toNat, ⟨s, Nat.le_refl _⟩)
  else match lead? b.toNat with
    | none => .error (1, .invalidStart)
    | some l => continuation l.more l.low l.high l.bits 1 s

/-- The characters of some octets; `start` is the offset of the first of them. -/
def decodeFrom (start : Nat) (s : Octets) : Except Fault (List Char) :=
  match s with
  | [] => .ok []
  | b :: s =>
    match next b s with
    | .error (count, reason) => .error ⟨start, count, b, reason⟩
    | .ok (c, ⟨r, _⟩) =>
      match decodeFrom (start + 1 + (s.length - r.length)) r with
      | .ok cs => .ok (c :: cs)
      | .error e => .error e
termination_by s.length
decreasing_by simp only [List.length_cons]; omega

/-- The text of some octets, or the first fault. -/
def decode (s : Octets) : Except Fault String :=
  (decodeFrom 0 s).map String.ofList

end FlowCanvas.Text.Utf8
