import FlowCanvas.Text.Digits

/-!
# Numbers in listings

How long the number is that a text starts with: a whole number, one with a point or an exponent, or
one in another radix behind a zero and a letter. Decimal digits may be those of any script, and a
low line may stand between two digits. Only lengths are told, since a listing is cut and not
computed.
-/

namespace FlowCanvas.Token

open Text

/-- The length of the digits that go on with a number; a low line may stand before each. -/
def moreLength (digit : Char → Bool) : List Char → Nat
  | [] => 0
  | '_' :: d :: rest => if digit d then 2 + moreLength digit rest else 0
  | d :: rest => if digit d then 1 + moreLength digit rest else 0

/-- The length of the run of digits that a text starts with; a low line may stand between two. -/
def runLength (digit : Char → Bool) : List Char → Nat
  | [] => 0
  | c :: rest => if digit c then 1 + moreLength digit rest else 0

/-- Whether a character is a decimal digit of any script. -/
def isFigure (c : Char) : Bool := (asciiDigit? c).isSome

/-- The length of the exponent that a text starts with. -/
def exponentLength : List Char → Nat
  | e :: s =>
    if e = 'e' ∨ e = 'E' then
      let (sign, digits) := match s with
        | '+' :: rest => (1, rest)
        | '-' :: rest => (1, rest)
        | _ => (0, s)
      let n := runLength isFigure digits
      if n = 0 then 0 else 1 + sign + n
    else 0
  | [] => 0

/-- The digits of a radix by the letter that announces it. -/
def radixDigit? (letter : Char) : Option (Char → Bool) :=
  if letter = 'o' ∨ letter = 'O' then some fun c => decide ('0' ≤ c) && decide (c ≤ '7')
  else if letter = 'b' ∨ letter = 'B' then some fun c => c == '0' || c == '1'
  else if letter = 'x' ∨ letter = 'X' then some fun c => (hexValue? c).isSome
  else none

/-- The length of a number that a zero and a letter start. -/
def radixLength : List Char → Nat
  | '0' :: letter :: rest =>
    match radixDigit? letter with
    | none => 0
    | some digit =>
      let n := moreLength digit rest
      if n = 0 then 0 else 2 + n
  | _ => 0

/-- The length of the number that a text starts with. -/
def numberLength (s : List Char) : Nat :=
  let whole := runLength isFigure s
  match s.drop whole with
  | '.' :: rest =>
    let places := runLength isFigure rest
    if whole = 0 ∧ places = 0 then 0
    else whole + 1 + places + exponentLength (rest.drop places)
  | rest =>
    let power := exponentLength rest
    if whole = 0 then 0
    else if 0 < power then
      whole + power + (if (rest.drop power).head? = some 'j' then 1 else 0)
    else max whole (radixLength s)

end FlowCanvas.Token
