import Assay.Pattern.CharSet
import Assay.Property.Runs
import Assay.Property.ScriptTable

/-!
# Sets of scripts

Every code point has one script, and some characters are used in several: a script extends
to those too. A character that is listed with the scripts it is used in extends no other, not
even the one it would have alone.
-/

namespace Assay

/-- The scripts of the code points. -/
def scriptRuns : List Run := Run.ofLines scriptLines

/-- The code of a script by its name. -/
def scriptCode? (name : String) : Option String :=
  (scriptNames.find? fun (_, names) => names.contains name).map (·.1)

/-- The characters whose script has a code. -/
def CharSet.ofScript (code : String) : CharSet :=
  .listed (Run.rangesWhere (· = code) 0 scriptRuns)

/-- The characters that are used in the script with a code. -/
def CharSet.ofExtendedScript (code : String) : CharSet :=
  let shared := sharedScripts.map fun (low, high, _) => (low, high)
  let own := sharedScripts.filterMap fun (low, high, codes) =>
    if codes.contains code then some (low, high) else none
  .union (.diff (.ofScript code) (.listed shared)) (.listed own)

/-- The characters of a script by its name. -/
def CharSet.script? (name : String) : Option CharSet :=
  (scriptCode? name).map .ofScript

/-- The characters that are used in a script, by its name. -/
def CharSet.extendedScript? (name : String) : Option CharSet :=
  (scriptCode? name).map .ofExtendedScript

end Assay
