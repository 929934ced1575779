import FlowCanvas.Number.Power

/-!
# Binary floating-point numbers as exact integers

A finite double is an integer times a power of two. `shape` takes a double apart into these two, and
`ofRatio` is the way back: the double nearest to a ratio of integers, the even one of two that are
equally near. Whatever has to be exact about a double (its decimal digits, the value of a numeral,
the length of a vector) is computed between the two on integers, without rounding on the way.
-/

namespace FlowCanvas.Binary64

/-- What a double stands for. -/
inductive Shape where
  /-- no number -/
  | nan
  /-- an infinity -/
  | infinite (negative : Bool)
  /-- `m * 2 ^ e`, or its negative -/
  | finite (negative : Bool) (m : Nat) (e : Int)
  deriving DecidableEq, Repr

/-- The exponent of the least positive double. -/
def leastExponent : Int := -1074

/-- A double taken apart: one bit of sign, eleven of exponent, fifty-two of significand. -/
def shape (x : Float) : Shape :=
  let bits : Nat := x.toBits.toNat
  let negative := decide (twoTo 63 ≤ bits)
  let field : Nat := bits / twoTo 52 % 2048
  let fraction : Nat := bits % twoTo 52
  if field = 2047 then if fraction = 0 then .infinite negative else .nan
  else if field = 0 then .finite negative fraction leastExponent
  else .finite negative (fraction + twoTo 52) ((field : Int) - 1075)

/-- The quotient of two numbers rounded to the nearest integer, a half to the even one. -/
def roundHalfEven (num den : Nat) : Nat :=
  let q := num / den
  let r := num % den
  if 2 * r < den then q
  else if den < 2 * r then q + 1
  else if q % 2 = 0 then q else q + 1

/-- The double with the bits of `m * 2 ^ e`, for `m` at most `2 ^ 53` and, unless `e` is the least
exponent, at least `2 ^ 52`. Past the greatest double it is an infinity. -/
def assemble (negative : Bool) (m : Nat) (e : Int) : Float :=
  let magnitude := min ((e - leastExponent).toNat * twoTo 52 + m) (2047 * twoTo 52)
  Float.ofBits (magnitude + if negative then twoTo 63 else 0).toUInt64

/-- The infinity of a sign. -/
def infinity (negative : Bool) : Float := assemble negative (2047 * twoTo 52) leastExponent

/-- The greatest power of two that is at most `num / den`, by its exponent; both are positive. -/
def floorLog2 (num den : Nat) : Int :=
  let k : Int := (num.log2 : Int) - den.log2
  let fits := if 0 ≤ k then den * twoTo k.toNat ≤ num else den ≤ num * twoTo (-k).toNat
  if fits then k else k - 1

/-- The exponent of the last bit of a double near `2 ^ k`. -/
def unitExponent (k : Int) : Int := max (k - 52) leastExponent

/-- The double nearest to `num / den`, the even one of two equally near; `den` is positive. -/
def ofRatio (negative : Bool) (num den : Nat) : Float :=
  if num = 0 then assemble negative 0 leastExponent
  else
    let e := unitExponent (floorLog2 num den)
    let m := if 0 ≤ e then roundHalfEven num (den * twoTo e.toNat)
      else roundHalfEven (num * twoTo (-e).toNat) den
    assemble negative m e

/-- The double nearest to an integer. -/
def ofInt (n : Int) : Float := ofRatio (decide (n < 0)) n.natAbs 1

/-- Whether a double is an integer; the infinities are none. -/
def integerValue? (x : Float) : Option Int :=
  match shape x with
  | .finite negative m e =>
    let magnitude? :=
      if 0 ≤ e then some (m * twoTo e.toNat)
      else if m % twoTo (-e).toNat = 0 then some (m / twoTo (-e).toNat) else none
    magnitude?.map fun n => if negative then -(n : Int) else n
  | _ => none

/-! ### The length of a vector -/

/-- The greatest integer whose square is at most `n`. -/
def floorSqrt (n : Nat) : Nat :=
  if _h : n = 0 then 0
  else
    let r := 2 * floorSqrt (n / 4)
    if (r + 1) * (r + 1) ≤ n then r + 1 else r
termination_by n
decreasing_by omega

/-- The double nearest to `sqrt s * 2 ^ e`, the even one of two equally near. -/
def ofScaledSqrt (s : Nat) (e : Int) : Float :=
  if s = 0 then assemble false 0 leastExponent
  else
    let u := unitExponent ((s.log2 : Int) / 2 + e)
    let shift := e - u
    let num := if 0 ≤ shift then s * twoTo (2 * shift.toNat) else s
    let den := if 0 ≤ shift then 1 else twoTo (2 * (-shift).toNat)
    let q := floorSqrt (num / den)
    let half := (2 * q + 1) * (2 * q + 1) * den
    let m := if 4 * num < half then q
      else if half < 4 * num then q + 1
      else if q % 2 = 0 then q else q + 1
    assemble false m u

/-- The length of the vector `(x, y)`, rounded once. An infinite side makes it infinite, whatever
the other side is. -/
def hypot (x y : Float) : Float :=
  match shape x, shape y with
  | .infinite _, _ => infinity false
  | _, .infinite _ => infinity false
  | .finite _ m e, .finite _ n f =>
    let u := min e f
    let a := m * twoTo (e - u).toNat
    let b := n * twoTo (f - u).toNat
    ofScaledSqrt (a * a + b * b) u
  | _, _ => 0.0 / 0.0

end FlowCanvas.Binary64
