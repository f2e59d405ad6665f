/-
This file holds sets of characters given as ranges of code points.
-/

namespace ContentMount.Text

/-- The character lies in one of the closed ranges. -/
def inRanges (ranges : Array (Nat × Nat)) (c : Char) : Bool :=
  ranges.any fun range => range.1 ≤ c.toNat && c.toNat ≤ range.2

end ContentMount.Text
