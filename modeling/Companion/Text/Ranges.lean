/-!
Sets of characters given as ranges of code points, the form in which the tables of a standard are
written down.
-/

namespace Companion.Text

def inRanges (ranges : List (Nat × Nat)) (c : Char) : Bool :=
  ranges.any fun (low, high) => low ≤ c.toNat && c.toNat ≤ high

end Companion.Text
