/-! Sets of characters given by ranges of code points. -/

namespace NearDup.Text

/-- A set of characters, as the ranges of code points that it holds. -/
structure CharClass where
  ranges : List (Nat × Nat)

def CharClass.contains (cls : CharClass) (c : Char) : Bool :=
  cls.ranges.any fun range => range.1 ≤ c.toNat && c.toNat ≤ range.2

end NearDup.Text
