import FlowCanvas.Number.Binary64
import FlowCanvas.Scalar

/-!
# Numbers

A number is a whole number or a double, as in a JSON text, where `1` and `1.0` are told apart. The
fixed coordinates of a fresh canvas are whole; every coordinate that is given, loaded or computed is
a double. Sums, differences and products of whole numbers stay whole, a quotient never does, and
whole numbers meet doubles as doubles.
-/

namespace FlowCanvas

/-- A whole number or a double. -/
inductive Number where
  /-- a whole number -/
  | whole (n : Int)
  /-- a double -/
  | real (x : Float)

namespace Number

instance : Inhabited Number := ⟨.whole 0⟩

/-- The double nearest to a number. -/
def toFloat : Number → Float
  | whole n => Binary64.ofInt n
  | real x => x

/-- The double nearest to a whole number, unless that is beyond the greatest double. -/
def finite? (n : Int) : Option Float :=
  let x := Binary64.ofInt n
  match Binary64.shape x with
  | .finite .. => some x
  | _ => none

/-- An operation that keeps whole numbers whole. -/
def lift (onWhole : Int → Int → Int) (onReal : Float → Float → Float) : Number → Number → Number
  | whole a, whole b => whole (onWhole a b)
  | a, b => real (onReal a.toFloat b.toFloat)

/-- Equality of value: a whole number equals the double with just its value, and what is no number
equals nothing. -/
def same : Number → Number → Bool
  | whole a, whole b => a == b
  | whole a, real y => Binary64.integerValue? y == some a
  | real x, whole b => Binary64.integerValue? x == some b
  | real x, real y => x == y

/-- Whether a number is above zero. -/
def positive : Number → Bool
  | whole n => decide (0 < n)
  | real x => decide (0.0 < x)

instance : Scalar Number where
  add := lift (· + ·) (· + ·)
  sub := lift (· - ·) (· - ·)
  mul := lift (· * ·) (· * ·)
  div a b := real (a.toFloat / b.toFloat)
  neg
    | whole n => whole (-n)
    | real x => real (-x)
  whole := whole
  ratio num den := real (Binary64.ofRatio false num den)
  hypot a b := real (Binary64.hypot a.toFloat b.toFloat)
  same := same
  positive := positive

end Number

end FlowCanvas
