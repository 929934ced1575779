import FlowCanvas.Number.Numeral

/-!
# Values of arguments

How arguments and options write numbers. Only the ten plain digits count as digits. Underscores may
stand anywhere inside a number, alone, and one that has them has no blanks around it. A whole number
may have a plus sign, zeros in front, and a point with one or more zeros and nothing else behind it.

The program says only which of its arguments are numbers. How they are read is up to the library for
command lines, and is written down here after what that library does.
-/

namespace FlowCanvas.Form

open Text

/-- A text without its underscores, if it has some, none of them at an end or beside another. -/
def joined? (s : List Char) : Option (List Char) :=
  let pieces := s.splitOn '_'
  if 1 < pieces.length ∧ [] ∉ pieces then some pieces.flatten else none

/-- The number of an argument. -/
def number? (s : String) : Option Float :=
  let s := s.toList
  (((Numeral.signed? (Numeral.trim s)).or ((joined? s).bind Numeral.signed?))).map Numeral.toFloat

/-- What is left of the digits of a whole number behind a zero: the further zeros and the
underscores among them do not count, but one character stays, `last` if there is no other. -/
def behindZeros? (last : Char) : List Char → Option (List Char)
  | [] => some [last]
  | c :: rest =>
    if c = '0' ∨ c = '_' then behindZeros? c rest
    else if isDigit c then some (c :: rest)
    else if c = '.' then some (last :: c :: rest)
    else none

/-- The digits of a whole number without the zeros in front. -/
def significant? : List Char → Option (List Char)
  | [] => none
  | c :: rest =>
    if c = '0' then behindZeros? c rest
    else if isDigit c then some (c :: rest)
    else none

/-- A text without a point that has one or more zeros and nothing else behind it. -/
def integral (s : List Char) : List Char :=
  let whole := s.takeWhile (· ≠ '.')
  let behind := s.drop (whole.length + 1)
  if behind ≠ [] ∧ behind.all (· == '0') then whole else s

/-- The whole number of an argument, if it is not negative. -/
def count? (s : String) : Option Nat := do
  let s := Numeral.trim s.toList
  let s ← significant? (match s with
    | '+' :: rest => rest
    | s => s)
  let s := integral s
  let digits := (joined? s).getD s
  if digits ≠ [] ∧ digits.all isDigit ∧ digits.length ≤ digitLimit then some (digitsValue digits)
  else none

end FlowCanvas.Form
