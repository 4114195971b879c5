import Assay.Rule.Basic

/-!
# Rules as text

`describe` says in a few words what a rule accepts; `report` shows how the rule is built.
-/

namespace Assay

open Inspect (call record dictionary)

instance : Inspect StringTransform where
  inspect
    | .trim => "Trim"
    | .lowercase => "Lowercase"
    | .uppercase => "Uppercase"

instance : Inspect Regex where
  inspect regex := call "Regex" [inspect regex.source]

instance : Inspect StringCheck where
  inspect
    | .nonEmpty => "NonEmpty"
    | .minLength least => call "MinLength" [inspect least]
    | .maxLength greatest => call "MaxLength" [inspect greatest]
    | .length exact => call "Length" [inspect exact]
    | .email => "Email"
    | .uuid => "Uuid"
    | .startsWith start => call "StartsWith" [inspect start]
    | .endsWith finish => call "EndsWith" [inspect finish]
    | .includes needle => call "Includes" [inspect needle]
    | .pattern regex => call "Pattern" [inspect regex]

instance : Inspect StringRule where
  inspect rule := record "StringRule"
    [("transforms", inspect rule.transforms), ("checks", inspect rule.checks)]

instance [Inspect ν] : Inspect (NumberCheck ν) where
  inspect
    | .gt bound => call "Gt" [inspect bound]
    | .gte bound => call "Gte" [inspect bound]
    | .lt bound => call "Lt" [inspect bound]
    | .lte bound => call "Lte" [inspect bound]
    | .multipleOf divisor => call "MultipleOf" [inspect divisor]
    | .int => "Int"

instance [Inspect ν] : Inspect (NumberRule ν) where
  inspect rule := record "NumberRule" [("checks", inspect rule.checks)]

namespace Rule

/-- What the rule accepts, in a few words. -/
def describe : Rule → String
  | string _ => "string"
  | number _ => Numeric.kindName Double
  | integer _ => Numeric.kindName Int64
  | boolean => "boolean"
  | array item _ => "array of " ++ item.describe
  | object fields _ => "object \x7b " ++ ", ".intercalate (fields.map Prod.fst) ++ " \x7d"
  | typed name _ => shortName name
  | ensure rule _ message => rule.describe ++ " (" ++ message ++ ")"
  | transform rule _ => rule.describe
  | optional rule => rule.describe ++ " | null"
  | brand tag rule => rule.describe ++ " & " ++ tag.name
  | shared rule => rule.describe
  | custom rule => rule.description
termination_by structural rule => rule

/-- How the rule is built. The fields of an object are only described. -/
def report : Rule → String
  | string rule => inspect rule
  | number rule => inspect rule
  | integer rule => inspect rule
  | boolean => "BooleanRule"
  | array item bounds => record "ArrayRule"
      [("item", item.report), ("min_items", inspect bounds.minItems),
       ("max_items", inspect bounds.maxItems)]
  | object fields _ => dictionary (fields.map fun (name, rule) => (name, inspect rule.describe))
  | typed name _ => "TypedRule<" ++ name ++ ">"
  | ensure rule _ message => record "Ensure" [("rule", rule.report), ("message", inspect message)]
  | transform rule _ => record "Transform" [("rule", rule.report)]
  | optional rule => record "Optional" [("rule", rule.report)]
  | brand tag rule => record "Brand" [("tag", inspect tag.name), ("rule", rule.report)]
  | shared rule => rule.report
  | custom rule => rule.report
termination_by structural rule => rule

end Rule

instance : Inspect Rule := ⟨Rule.report⟩

end Assay
