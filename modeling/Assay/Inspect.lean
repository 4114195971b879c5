import Assay.Diagnostics
import Assay.Validation
import Assay.Json.Writer

/-!
# Reports for developers

`inspect` writes a value with its structure: names of constructors and fields, quoted
strings, brackets around lists. It serves failure messages and logs, not data exchange.
-/

namespace Assay

/-- A type whose values have a text that shows their structure. -/
class Inspect (α : Type u) where
  inspect : α → String

export Inspect (inspect)

namespace Inspect

/-- Texts separated by commas. -/
def commaSeparated (parts : List String) : String := ", ".intercalate parts

/-- A list of texts in brackets. -/
def listText (items : List String) : String := "[" ++ commaSeparated items ++ "]"

/-- A constructor with its arguments. -/
def call (name : String) (args : List String) : String :=
  name ++ "(" ++ commaSeparated args ++ ")"

/-- A constructor with named fields. -/
def record (name : String) (fields : List (String × String)) : String :=
  name ++ " \x7b " ++ commaSeparated (fields.map fun (field, text) => field ++ ": " ++ text) ++
    " \x7d"

/-- Keys with the texts of their values. -/
def dictionary (entries : List (String × String)) : String :=
  "\x7b" ++ commaSeparated (entries.map fun (key, text) => quote key ++ ": " ++ text) ++ "\x7d"

/-- A value that may be missing. -/
def option : Option String → String
  | none => "None"
  | some text => call "Some" [text]

end Inspect

open Inspect (call record dictionary listText)

instance : Inspect String := ⟨quote⟩

instance : Inspect Bool := ⟨fun b => if b then "true" else "false"⟩

instance : Inspect Nat := ⟨toString⟩

instance : Inspect Int := ⟨toString⟩

instance : Inspect Int64 := ⟨fun n => toString n.toInt⟩

instance : Inspect Double := ⟨NumberStyle.report.text⟩

instance [Inspect α] : Inspect (List α) := ⟨fun items => listText (items.map inspect)⟩

instance [Inspect α] : Inspect (Option α) := ⟨fun a => Inspect.option (a.map inspect)⟩

instance [Inspect α] : Inspect (NonEmptyList α) where
  inspect xs := record "NonEmptyVec" [("head", inspect xs.head), ("tail", inspect xs.tail)]

instance [Inspect ε] [Inspect α] : Inspect (Validation ε α) where
  inspect
    | .success a => call "Success" [inspect a]
    | .failure e => call "Failure" [inspect e]

mutual

/-- The structure of a JSON value. -/
def Json.inspect : Json → String
  | .null => "Null"
  | .boolean b => call "Bool" [Inspect.inspect b]
  | .number n => call "Number" [Json.numberText n]
  | .string s => call "String" [quote s]
  | .array items => "Array " ++ listText (Json.inspectItems items)
  | .object members => "Object " ++ dictionary (Json.inspectMembers members)

/-- The structures of the items of an array. -/
def Json.inspectItems : List Json → List String
  | [] => []
  | item :: rest => item.inspect :: Json.inspectItems rest

/-- The structures of the members of an object. -/
def Json.inspectMembers : List (String × Json) → List (String × String)
  | [] => []
  | (key, value) :: rest => (key, value.inspect) :: Json.inspectMembers rest

end

instance : Inspect Json := ⟨Json.inspect⟩

instance : Inspect PathSegment where
  inspect
    | .key name => call "Key" [inspect name]
    | .index position => call "Index" [inspect position]

instance : Inspect IssueCode where
  inspect
    | .invalidType expected received =>
      record "InvalidType" [("expected", inspect expected), ("received", inspect received.name)]
    | .tooSmall minimum inclusive =>
      record "TooSmall" [("minimum", inspect minimum), ("inclusive", inspect inclusive)]
    | .tooBig maximum inclusive =>
      record "TooBig" [("maximum", inspect maximum), ("inclusive", inspect inclusive)]
    | .invalidFormat format => record "InvalidFormat" [("format", inspect format.name)]
    | .notInteger => "NotInteger"
    | .notMultipleOf divisor => record "NotMultipleOf" [("divisor", inspect divisor)]
    | .unrecognizedKey key => record "UnrecognizedKey" [("key", inspect key)]
    | .custom => "Custom"

instance : Inspect Issue where
  inspect issue := record "Issue"
    [("code", inspect issue.code), ("message", inspect issue.message),
     ("path", inspect issue.path)]

instance : Inspect Diagnostics where
  inspect d := record "Diagnostics" [("issues", inspect d.issues)]

end Assay
