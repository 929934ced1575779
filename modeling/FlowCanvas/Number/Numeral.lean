import FlowCanvas.Number.Basic
import FlowCanvas.Text.Blank
import FlowCanvas.Text.Digits

/-!
# Numerals

Reading a number out of a text. A numeral is a sign, digits with at most one point among them, and
perhaps an exponent; a single underscore may stand between two digits, the digits may be those of
any script, and blanks around the numeral do not count. The words for infinity and for what is no
number are read in any case.

The value is the nearest double, computed once from the exact decimal. A numeral far beyond the
range of doubles is settled by its size alone.
-/

namespace FlowCanvas

open Text

/-- What a numeral says. -/
inductive Numeral where
  /-- no number -/
  | nan
  /-- infinity -/
  | infinite (negative : Bool)
  /-- `digits * 10 ^ exponent`, or its negative -/
  | decimal (negative : Bool) (digits : Nat) (exponent : Int)
  deriving DecidableEq, Repr

namespace Numeral

/-- The double nearest to `digits * 10 ^ exponent`. -/
def nearest (negative : Bool) (digits : Nat) (exponent : Int) : Float :=
  if digits = 0 then Binary64.ofRatio negative 0 1
  else if 310 < exponent + (digits.log2 / 4 : Nat) then Binary64.infinity negative
  else if exponent + (digits.log2 / 3 + 1 : Nat) < -330 then Binary64.ofRatio negative 0 1
  else Binary64.ofRatio negative (digits * tenTo exponent.toNat) (tenTo (-exponent).toNat)

/-- The value of a numeral. -/
def toFloat : Numeral → Float
  | nan => 0.0 / 0.0
  | infinite negative => Binary64.infinity negative
  | decimal negative digits exponent => nearest negative digits exponent

/-- The blanks that may surround a numeral: the separators of ASCII are not among them. -/
def isMargin (c : Char) : Bool := isBlank c && !(decide (0x1C ≤ c.toNat) && decide (c.toNat ≤ 0x1F))

/-- A text without the blanks at its ends. -/
def trim (s : List Char) : List Char :=
  ((s.dropWhile isMargin).reverse.dropWhile isMargin).reverse

/-- A text without the blanks at its ends and with all digits in ASCII. -/
def plain? (s : List Char) : Option (List Char) :=
  (trim s).mapM fun c => if c.toNat < 0x7F then some c else asciiDigit? c

/-- A text without its underscores, each of which has a digit on both sides. -/
def joinGroups? (last : Option Char) : List Char → Option (List Char)
  | [] => some []
  | '_' :: rest =>
    if last.any isDigit && rest.head?.any isDigit then joinGroups? none rest else none
  | c :: rest => (joinGroups? (some c) rest).map (c :: ·)

/-- A sign, if there is one. -/
def sign : List Char → Bool × List Char
  | '-' :: rest => (true, rest)
  | '+' :: rest => (false, rest)
  | s => (false, s)

/-- The digits at the start of a text, and what follows them. -/
def digits (s : List Char) : List Char × List Char := s.span isDigit

/-- An exponent, which ends the numeral. -/
def exponent? : List Char → Option Int
  | [] => some 0
  | c :: rest =>
    if c = 'e' ∨ c = 'E' then
      let (negative, rest) := sign rest
      match digits rest with
      | ([], _) => none
      | (ds, []) => some (if negative then -(digitsValue ds : Int) else digitsValue ds)
      | _ => none
    else none

/-- A numeral without its sign. -/
def unsigned? (negative : Bool) (s : List Char) : Option Numeral :=
  let word := s.map Char.toLower
  if word = ['n', 'a', 'n'] then some .nan
  else if word = ['i', 'n', 'f'] ∨ word = ['i', 'n', 'f', 'i', 'n', 'i', 't', 'y'] then
    some (.infinite negative)
  else
    let (whole, rest) := digits s
    let (fraction, rest) := match rest with
      | '.' :: rest => digits rest
      | rest => ([], rest)
    if whole = [] ∧ fraction = [] then none
    else (exponent? rest).map fun e =>
      .decimal negative (digitsValue (whole ++ fraction)) (e - fraction.length)

/-- A numeral with its sign, without blanks or underscores. -/
def signed? (s : List Char) : Option Numeral :=
  let (negative, s) := sign s
  unsigned? negative s

/-- The numeral that a text writes. -/
def read? (s : List Char) : Option Numeral := do
  let s ← plain? s
  let s ← joinGroups? none s
  signed? s

end Numeral

end FlowCanvas
