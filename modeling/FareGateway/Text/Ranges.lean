/-!
# Ranges of characters

A set of characters as a list of code point ranges, both ends included.
-/

namespace FareGateway

def inRanges (ranges : List (Nat × Nat)) (c : Char) : Bool :=
  ranges.any fun range => range.1 ≤ c.toNat && c.toNat ≤ range.2

end FareGateway
