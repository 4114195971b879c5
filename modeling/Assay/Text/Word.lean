import Assay.Text.Ranges
import Assay.Text.WordTable

/-!
# Characters of words
-/

namespace Assay

/-- Whether a character belongs to a word. -/
def isWordChar (c : Char) : Bool := inRanges c.toNat wordRanges

end Assay
