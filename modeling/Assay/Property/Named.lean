import Assay.Property.Age
import Assay.Property.Segments

/-!
# Sets by the name of a property

A set is named by a binary property, a category or a script, or by a property and its value
with a mark between them. Names are compared without case, hyphens, underscores and
spaces, and without the word `is` at their beginning.
-/

namespace Assay

/-- A name as it is compared. -/
def plainName (cs : List Char) : String :=
  let cs := match cs with
    | a :: b :: rest => if a.toLower = 'i' && b.toLower = 's' then rest else cs
    | cs => cs
  let kept := cs.filter fun c => c.toNat < 0x80 && !(" _-".contains c)
  String.ofList (kept.map Char.toLower)

namespace CharSet

/-- The set of a name that stands alone. A binary property comes before a category of the
same name, and that before a script. -/
def named? (name : String) : Option CharSet :=
  binary? name <|> category? name <|> script? name

/-- The set of a property and its value. -/
def valued? (property value : String) : Option CharSet :=
  match property with
  | "gc" | "generalcategory" => category? value
  | "sc" | "script" => script? value
  | "scx" | "scriptextensions" => extendedScript? value
  | "age" => age? value
  | "gcb" | "graphemeclusterbreak" => breakClass? graphemeBreaks value
  | "wb" | "wordbreak" => breakClass? wordBreaks value
  | "sb" | "sentencebreak" => breakClass? sentenceBreaks value
  | _ => none

/-- The set that a name, or a property and its value, stand for. The marks `=`, `:` and `!=`
between them all say the same. -/
def ofProperty? (cs : List Char) : Option CharSet :=
  match cs.span fun c => c != '=' && c != ':' && c != '!' with
  | (name, []) => named? (plainName name)
  | (name, '=' :: value) | (name, ':' :: value) | (name, '!' :: '=' :: value) =>
    valued? (plainName name) (plainName value)
  | _ => none

end CharSet
end Assay
