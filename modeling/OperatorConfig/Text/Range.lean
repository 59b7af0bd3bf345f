/-!
# Sets of characters as ranges

A property of characters is given by the ranges of code points that have it, both ends included.
-/

namespace OperatorConfig.Text

def within (ranges : Array (Nat × Nat)) (c : Char) : Bool :=
  ranges.any fun range => range.1 ≤ c.toNat && c.toNat ≤ range.2

end OperatorConfig.Text
