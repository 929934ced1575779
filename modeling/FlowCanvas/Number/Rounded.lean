import FlowCanvas.Number.Text

/-!
# Rounded decimals

Two ways in which listings show a number: with a fixed number of places, and with six significant
digits. Both round the exact value of the double, a half to the even digit, so the shortest decimal
plays no part in them.
-/

namespace FlowCanvas

open Text

namespace Decimal

/-- `num / den` with a fixed number of places. -/
def fixed (places : Nat) (num den : Nat) : List Char :=
  let n := Binary64.roundHalfEven (num * tenTo places) den
  let digits := padLeft (places + 1) '0' (decimal n)
  let whole := digits.length - places
  if places = 0 then digits else digits.take whole ++ '.' :: digits.drop whole

/-- `num / den` to `places` significant digits. -/
def significant (places : Nat) (num den : Nat) : Decimal :=
  let exponent := pointPlace num den - places
  let n := if 0 ≤ exponent then Binary64.roundHalfEven num (den * tenTo exponent.toNat)
    else Binary64.roundHalfEven (num * tenTo (-exponent).toNat) den
  ⟨n, exponent⟩

/-- A decimal without zeros at its end: plain if its exponent is at least `-4` and below `places`.
-/
def brief (places : Nat) (d : Decimal) : List Char :=
  let d := d.dropZeros (places + 1)
  let digits := decimal d.digits
  let point := d.exponent + digits.length
  let pointed (whole fraction : List Char) : List Char :=
    whole ++ if fraction = [] then [] else '.' :: fraction
  if -4 < point ∧ point ≤ places then
    let (whole, fraction) := positional digits point
    pointed whole fraction
  else pointed (digits.take 1) (digits.drop 1) ++ exponentText (point - 1)

end Decimal

/-- A double by a text for the ratio that it is; the ratio is positive or zero. -/
def ratioText (write : (num den : Nat) → List Char) (x : Float) : List Char :=
  match Binary64.shape x with
  | .nan => NumberWords.plain.nan
  | .infinite negative => signed negative NumberWords.plain.infinity
  | .finite negative m e => signed negative (write (m * twoTo e.toNat) (twoTo (-e).toNat))

namespace Number

/-- A number with one place. -/
def oneDecimal (a : Number) : List Char := ratioText (Decimal.fixed 1) a.toFloat

/-- A number with six significant digits at most. -/
def sixDigits (a : Number) : List Char :=
  ratioText
    (fun num den => if num = 0 then ['0'] else (Decimal.significant 6 num den).brief 6) a.toFloat

end Number

end FlowCanvas
