/-!
# Ranges of code points

A property of characters beyond ASCII is a list of ranges, both ends included.
-/

set_option autoImplicit false

namespace ArmTokens

abbrev CodeRanges := List (Nat × Nat)

namespace CodeRanges

def has (ranges : CodeRanges) (c : Char) : Bool :=
  ranges.any fun (first, last) => first ≤ c.toNat && c.toNat ≤ last

end CodeRanges

def isAscii (c : Char) : Bool := c.toNat < 0x80

end ArmTokens
