import FlowCanvas.Number.Binary64

/-!
# The shortest decimal of a double

Among the decimals that read back as a given double there are some with the fewest digits, and among
these one nearest to the double: `shortest` finds it. A decimal with `n` digits is a point of a
grid; if any point of a grid reads back, then so does one of the two that enclose the double, so it
is enough to try these two for one digit, two digits and so on. Seventeen digits always suffice. All
comparisons are made on integers.
-/

namespace FlowCanvas

/-- A decimal `digits * 10 ^ exponent`. -/
structure Decimal where
  /-- the significant digits, as one number -/
  digits : Nat
  /-- the power of ten -/
  exponent : Int
  deriving DecidableEq, Repr

namespace Decimal

/-- The same value with no zero at the end of the digits; `fuel` bounds the number of zeros. -/
def dropZeros : (fuel : Nat) → Decimal → Decimal
  | 0, d => d
  | fuel + 1, d =>
    if d.digits % 10 = 0 ∧ d.digits ≠ 0 then dropZeros fuel ⟨d.digits / 10, d.exponent + 1⟩ else d

/-- The place of the decimal point: the power of ten just above `num / den`. -/
def pointPlace (num den : Nat) : Int :=
  let guess := Binary64.floorLog2 num den * 30103 / 100000
  let reaches (p : Int) : Bool :=
    if 0 ≤ p then decide (den * tenTo p.toNat ≤ num) else decide (den ≤ num * tenTo (-p).toNat)
  if reaches (guess + 1) then guess + 2
  else if reaches guess then guess + 1
  else guess

/-- A positive number `value * 2 ^ scale` and the interval around it that reads back as it. -/
structure Target where
  /-- the lower end, in units of `2 ^ scale` -/
  low : Nat
  /-- the number -/
  value : Nat
  /-- the upper end -/
  high : Nat
  /-- the exponent of the unit -/
  scale : Int
  /-- whether the two ends read back as well -/
  inclusive : Bool

/-- The interval of a double: half way to each neighbour, and the half itself if the significand is
even. Below a power of two the neighbour is twice as near. -/
def Target.ofDouble (m : Nat) (e : Int) : Target :=
  let below := if m = twoTo 52 ∧ e ≠ Binary64.leastExponent then 1 else 2
  ⟨4 * m - below, 4 * m, 4 * m + 2, e - 2, m % 2 == 0⟩

/-- The point of the grid of step `10 ^ p` that reads back as the target and is nearest to it, if
there is one; of two equally near the even one. -/
def Target.onGrid? (t : Target) (p : Int) : Option Nat :=
  let unit := twoTo t.scale.toNat * tenTo (-p).toNat
  let step := tenTo p.toNat * twoTo (-t.scale).toNat
  let value := t.value * unit
  let inside (d : Nat) : Bool :=
    let x := d * step
    if t.inclusive then decide (t.low * unit ≤ x) && decide (x ≤ t.high * unit)
    else decide (t.low * unit < x) && decide (x < t.high * unit)
  let d := value / step
  match inside d, inside (d + 1) with
  | false, false => none
  | true, false => some d
  | false, true => some (d + 1)
  | true, true =>
    let below := value - d * step
    let above := (d + 1) * step - value
    some (if below < above then d else if above < below then d + 1
      else if d % 2 = 0 then d else d + 1)

/-- The first grid with a point that reads back, from `digits` digits on. -/
def Target.search (t : Target) (point : Int) : (fuel digits : Nat) → Decimal
  | 0, digits => ⟨0, point - digits⟩
  | fuel + 1, digits =>
    match t.onGrid? (point - digits) with
    | some d => ⟨d, point - digits⟩
    | none => search t point fuel (digits + 1)

/-- The shortest decimal that reads back as the positive double `m * 2 ^ e`. -/
def shortest (m : Nat) (e : Int) : Decimal :=
  let point := pointPlace (m * twoTo e.toNat) (twoTo (-e).toNat)
  ((Target.ofDouble m e).search point 17 1).dropZeros 17

end Decimal

end FlowCanvas
