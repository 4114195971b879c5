/-!
# Sets of characters

A set of characters is a list of closed ranges of code points in ascending order; a search
stops at the first range that lies beyond the character.
-/

namespace Assay

/-- Whether a code point lies in one of the ranges. -/
def inRanges (n : Nat) : List (Nat × Nat) → Bool
  | [] => false
  | (low, high) :: rest => if n < low then false else n ≤ high || inRanges n rest

end Assay
