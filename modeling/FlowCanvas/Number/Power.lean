/-!
# Powers of the two bases

The units of binary and of decimal numbers. A negative exponent is written as a divisor: of
`e.toNat` and `(-e).toNat` one at least is zero, so the ratio of the two powers is the power of `e`.
-/

namespace FlowCanvas

/-- The power of two with an exponent. -/
abbrev twoTo (exponent : Nat) : Nat := Nat.pow 2 exponent

/-- The power of ten with an exponent. -/
abbrev tenTo (exponent : Nat) : Nat := Nat.pow 10 exponent

theorem twoTo_pos (n : Nat) : 0 < twoTo n := Nat.pow_pos (by decide)

theorem tenTo_pos (n : Nat) : 0 < tenTo n := Nat.pow_pos (by decide)

end FlowCanvas
