/-!
# Sets of characters given by ranges of code points

A Unicode property is a set of code points that the standard lists as closed ranges. The table
modules beside this one hold such lists; this module says what a list denotes.
-/

namespace Anywhere.Text

/-- Closed ranges of code points, each written as its first and last member. -/
abbrev Ranges := List (Nat × Nat)

/-- The code point of `c` lies in one of the ranges. -/
def Ranges.holds (ranges : Ranges) (c : Char) : Bool :=
  ranges.any fun range => range.1 ≤ c.toNat && c.toNat ≤ range.2

end Anywhere.Text
