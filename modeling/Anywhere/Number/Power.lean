/-!
# Powers of ten and of two

Powers of ten put the decimal point into its place, powers of two the binary one.
-/

namespace Anywhere.Number

/-- Ten to the given power. -/
def tenTo (exponent : Nat) : Nat := Nat.pow 10 exponent

/-- Two to the given power. -/
def twoTo (exponent : Nat) : Nat := Nat.pow 2 exponent

theorem tenTo_zero : tenTo 0 = 1 := rfl

theorem tenTo_succ (n : Nat) : tenTo (n + 1) = tenTo n * 10 := rfl

theorem twoTo_zero : twoTo 0 = 1 := rfl

theorem twoTo_succ (n : Nat) : twoTo (n + 1) = twoTo n * 2 := rfl

end Anywhere.Number
