import FlowCanvas.Number.Basic
import FlowCanvas.Number.Shortest
import FlowCanvas.Text.Digits

/-!
# Numbers as text

A double is written with the fewest digits that read back, at least one of them after the point: as
a plain decimal between `0.0001` and `10 ^ 16`, and with an exponent of at least two digits outside.
Whole numbers have no point, which keeps the two kinds apart. Drawings write a double without a
fractional part as a whole number.
-/

namespace FlowCanvas

open Text

/-- The words for what is no finite number. -/
structure NumberWords where
  /-- what is no number -/
  nan : List Char
  /-- infinity, without its sign -/
  infinity : List Char

/-- The words in messages and drawings. -/
def NumberWords.plain : NumberWords := ⟨['n', 'a', 'n'], ['i', 'n', 'f']⟩

namespace Decimal

/-- An exponent with its sign and at least two digits. -/
def exponentText (e : Int) : List Char :=
  'e' :: (if e < 0 then '-' else '+') :: padLeft 2 '0' (decimal e.natAbs)

/-- Digits with a point in them, and zeros where the point is outside; `point` digits are in front
of the point. -/
def positional (digits : List Char) (point : Int) : List Char × List Char :=
  if point ≤ 0 then (['0'], List.replicate (-point).toNat '0' ++ digits)
  else
    let n := point.toNat
    (digits.take n ++ List.replicate (n - digits.length) '0', digits.drop n)

/-- A decimal in plain notation, or with an exponent if that is below `-4` or above `15`. -/
def text (d : Decimal) : List Char :=
  let digits := decimal d.digits
  let point := d.exponent + digits.length
  if -4 < point ∧ point ≤ 16 then
    let (whole, fraction) := positional digits point
    whole ++ '.' :: if fraction = [] then ['0'] else fraction
  else
    let fraction := digits.drop 1
    digits.take 1 ++ (if fraction = [] then [] else '.' :: fraction) ++ exponentText (point - 1)

end Decimal

/-- The sign of a number in front of the text of its size. -/
def signed (negative : Bool) (s : List Char) : List Char :=
  if negative then '-' :: s else s

/-- A double with the fewest digits that read back. -/
def realText (words : NumberWords) (x : Float) : List Char :=
  match Binary64.shape x with
  | .nan => words.nan
  | .infinite negative => signed negative words.infinity
  | .finite negative m e =>
    signed negative (if m = 0 then ['0', '.', '0'] else (Decimal.shortest m e).text)

namespace Number

/-- A number as messages write it. -/
def text : Number → List Char
  | whole n => integer n
  | real x => realText .plain x

/-- A number as drawings write it: without a point if it is whole. -/
def drawn (a : Number) : List Char :=
  match Binary64.integerValue? a.toFloat with
  | some n => integer n
  | none => realText .plain a.toFloat

/-- A number as messages write coordinates, whole or not: as a double. -/
def realForm (a : Number) : List Char := realText .plain a.toFloat

end Number

end FlowCanvas
