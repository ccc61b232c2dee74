/-!
# Ranges of characters

* `inRanges` — membership in one of some ranges of code points, which is how classes of characters
  are given.
-/

namespace DataShape

/-- Whether a character lies in one of the ranges, given by their first and last code points. -/
def inRanges (ranges : List (Nat × Nat)) (c : Char) : Bool :=
  ranges.any fun (first, last) => first ≤ c.toNat && c.toNat ≤ last

end DataShape
