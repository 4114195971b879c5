import Assay.Pattern.CharSet
import Assay.Property.Runs
import Assay.Property.AgeTable

/-!
# Sets of ages

The age of a code point is the version in which it was assigned. A version names all code
points that had been assigned by then.
-/

namespace Assay

/-- The ages of the code points. -/
def ageRuns : List Run := Run.ofLines ageLines

/-- Whether a name stands for a version: its two numbers with a point between them, or
without the point after the letter `v`. -/
def namesVersion (name version : String) : Bool :=
  name = version || name = "v" ++ String.ofList (version.toList.filter (· != '.'))

/-- The characters that had been assigned in a version, by its name. -/
def CharSet.age? (name : String) : Option CharSet :=
  (versionLetters.findIdx? fun (_, version) => namesVersion name version).map fun i =>
    let letters := (versionLetters.take (i + 1)).map (·.1)
    .listed (Run.rangesWhere letters.contains 0 ageRuns)

end Assay
