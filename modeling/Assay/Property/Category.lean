import Assay.Pattern.CharSet
import Assay.Property.Runs
import Assay.Property.CategoryTable

/-!
# Sets of general categories

Every code point has one general category, with a code of two letters. Some groups of
categories have names of their own.
-/

namespace Assay

/-- The general categories of the code points. -/
def categoryRuns : List Run := Run.ofLines categoryLines

/-- The characters of some categories, which are given by their codes. -/
def CharSet.ofCategories (codes : List String) : CharSet :=
  .listed (Run.rangesWhere codes.contains 0 categoryRuns)

/-- The codes of the categories that each of the names stands for. -/
def categoryNames : List (List String × List String) :=
  [(["lu", "uppercaseletter"], ["Lu"]),
   (["ll", "lowercaseletter"], ["Ll"]),
   (["lt", "titlecaseletter"], ["Lt"]),
   (["lc", "casedletter"], ["Lu", "Ll", "Lt"]),
   (["lm", "modifierletter"], ["Lm"]),
   (["lo", "otherletter"], ["Lo"]),
   (["l", "letter"], ["Lu", "Ll", "Lt", "Lm", "Lo"]),
   (["mn", "nonspacingmark"], ["Mn"]),
   (["mc", "spacingmark"], ["Mc"]),
   (["me", "enclosingmark"], ["Me"]),
   (["m", "mark", "combiningmark"], ["Mn", "Mc", "Me"]),
   (["nd", "decimalnumber", "digit"], ["Nd"]),
   (["nl", "letternumber"], ["Nl"]),
   (["no", "othernumber"], ["No"]),
   (["n", "number"], ["Nd", "Nl", "No"]),
   (["pc", "connectorpunctuation"], ["Pc"]),
   (["pd", "dashpunctuation"], ["Pd"]),
   (["ps", "openpunctuation"], ["Ps"]),
   (["pe", "closepunctuation"], ["Pe"]),
   (["pi", "initialpunctuation"], ["Pi"]),
   (["pf", "finalpunctuation"], ["Pf"]),
   (["po", "otherpunctuation"], ["Po"]),
   (["p", "punctuation", "punct"], ["Pc", "Pd", "Ps", "Pe", "Pi", "Pf", "Po"]),
   (["sm", "mathsymbol"], ["Sm"]),
   (["sc", "currencysymbol"], ["Sc"]),
   (["sk", "modifiersymbol"], ["Sk"]),
   (["so", "othersymbol"], ["So"]),
   (["s", "symbol"], ["Sm", "Sc", "Sk", "So"]),
   (["zs", "spaceseparator"], ["Zs"]),
   (["zl", "lineseparator"], ["Zl"]),
   (["zp", "paragraphseparator"], ["Zp"]),
   (["z", "separator"], ["Zs", "Zl", "Zp"]),
   (["cc", "control", "cntrl"], ["Cc"]),
   (["cf", "format"], ["Cf"]),
   (["co", "privateuse"], ["Co"]),
   (["cn", "unassigned"], ["Cn"]),
   (["c", "other"], ["Cc", "Cf", "Co", "Cn", "Cs"])]

/-- The characters of a category or of a group of categories by its name. -/
def CharSet.category? (name : String) : Option CharSet :=
  match name with
  | "any" => some .all
  | "ascii" => some (.range 0 0x7F)
  | "assigned" => some (.compl (.ofCategories ["Cn"]))
  | name =>
    (categoryNames.find? fun (names, _) => names.contains name).map fun (_, codes) =>
      .ofCategories codes

end Assay
