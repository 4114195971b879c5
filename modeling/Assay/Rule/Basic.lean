import Assay.Output
import Assay.Rule.Strings
import Assay.Rule.Numbers

/-!
# Rules

A rule describes acceptable input. Parsing yields the canonical output or diagnostics that
list every violated constraint: the issues of all fields of an object and of all items of
an array, each at its place.
-/

namespace Assay

/-- The numbers of items that an array rule accepts. -/
structure ItemBounds where
  minItems : Option Nat
  maxItems : Option Nat
deriving DecidableEq, Inhabited

/-- A call that sets a bound of an array rule. -/
inductive ItemCall where
  | minItems (least : Nat)
  | maxItems (greatest : Nat)
deriving DecidableEq

namespace ItemBounds

/-- Bounds that every array meets. -/
def any : ItemBounds := ⟨none, none⟩

/-- The bounds after a call, which replaces the bound that it names. -/
def call (bounds : ItemBounds) : ItemCall → ItemBounds
  | .minItems least => { bounds with minItems := some least }
  | .maxItems greatest => { bounds with maxItems := some greatest }

/-- The bounds that a chain of calls makes. -/
def ofCalls (calls : List ItemCall) : ItemBounds := calls.foldl call any

/-- The issue of an array with too few items. -/
def tooFew (least : Nat) : Issue :=
  .atRoot (.tooSmall (toString least) true) s!"Too small: expected array to have >={least} items"

/-- The issue of an array with too many items. -/
def tooMany (greatest : Nat) : Issue :=
  .atRoot (.tooBig (toString greatest) true)
    s!"Too big: expected array to have <={greatest} items"

/-- The issues of an array with the given number of items. -/
def issues (bounds : ItemBounds) (length : Nat) : List Issue :=
  (match bounds.minItems with
    | some least => if length < least then [tooFew least] else []
    | none => []) ++
  (match bounds.maxItems with
    | some greatest => if greatest < length then [tooMany greatest] else []
    | none => [])

end ItemBounds

/-- A rule that the caller defines by a function of its own. -/
structure CustomRule where
  description : String
  report : String
  parse : Json → Validation Diagnostics Output

/-- A description of acceptable input. -/
inductive Rule where
  | string (rule : StringRule)
  | number (rule : NumberRule Double)
  | integer (rule : NumberRule Int64)
  | boolean
  | array (item : Rule) (bounds : ItemBounds)
  /-- Objects with declared fields; a strict rule accepts no other members. -/
  | object (fields : List (String × Rule)) (strict : Bool)
  /-- Data that the reader of a type takes, under the name of the type. The reader makes a value
  or refuses the data with a text of its own. -/
  | typed (name : String) (read : Json → Except String Output)
  /-- A further condition on the output of a rule. -/
  | ensure (rule : Rule) (holds : Output → Bool) (message : String)
  /-- The output of a rule, passed through a function. -/
  | transform (rule : Rule) (f : Output → Output)
  /-- Null, or what the rule accepts. -/
  | optional (rule : Rule)
  /-- The output of a rule with a tag. -/
  | brand (tag : Tag) (rule : Rule)
  /-- A rule that other rules use as well; it behaves as the rule itself. -/
  | shared (rule : Rule)
  | custom (rule : CustomRule)

namespace Rule

/-- The part of a qualified name behind its last `::`, which is `tail` if there is none in
the characters to come. -/
def lastSegment (tail : List Char) : List Char → List Char
  | [] => tail
  | ':' :: ':' :: rest => lastSegment rest rest
  | _ :: rest => lastSegment tail rest

/-- The short name of a type. -/
def shortName (name : String) : String := String.ofList (lastSegment name.toList name.toList)

/-- The issue that the reader of a type refuses the data; its text is passed as it stands. -/
def refusal (name : String) (input : Json) (text : String) : Issue :=
  .atRoot (.invalidType (shortName name) input.kind) s!"Invalid input: {text}"

/-- The issue that a member is not declared. -/
def unrecognizedKey (key : String) : Issue :=
  .atRoot (.unrecognizedKey key) s!"Unrecognized key: {quote key}"

/-- The members of an object that no field declares, as issues. -/
def unrecognized (fields : List (String × Rule)) (members : List (String × Json)) : List Issue :=
  ((members.map Prod.fst).filter fun key => !(fields.map Prod.fst).contains key).map
    unrecognizedKey

/-- The issues of a check that has no output of its own. -/
def checked (issues : List Issue) : Validation Diagnostics Unit :=
  match Diagnostics.ofList? issues with
  | some diagnostics => .failure diagnostics
  | none => .success ()

/-- The issue that the output of a field cannot be written; the reason is passed as it stands. -/
def unwritable (e : WriteError) : Issue := .custom s!"Unrepresentable value: {e.message}"

/-- The output of a field as JSON, or the issue that it cannot be written. -/
def written (output : Output) : Validation Diagnostics Json :=
  match output.toJson with
  | .ok value => .success value
  | .error e => .failure (.single (unwritable e))

/-- The member that a field contributes to the output. A field that is absent from the input
contributes none when its value is null. -/
def fieldMember (name : String) (given : Option Json) (value : Json) : Option (String × Json) :=
  if given.isSome || !value.isNull then some (name, value) else none

mutual

/-- The canonical output of an accepted input, or all issues of a rejected one. -/
def parse : Rule → Json → Validation Diagnostics Output
  | string rule, input => (rule.parse input).map .string
  | number rule, input => (rule.parse input).map .number
  | integer rule, input => (rule.parse input).map .integer
  | boolean, input => match input with
    | .boolean b => .success (.boolean b)
    | input => .failure (.single (.invalidType "boolean" input))
  | array item bounds, input => match input with
    | .array items =>
      let length := checked (bounds.issues items.length)
      let elements := Validation.all
        (items.mapIdx fun i x => (item.parse x).mapError (·.under (.index i)))
      (length.both elements).map fun (_, outputs) => .array outputs
    | input => .failure (.single (.invalidType "array" input))
  | object fields strict, input => match input with
    | .object members =>
      let declared := Validation.all (parseFields fields members)
      let others := checked (if strict then unrecognized fields members else [])
      (declared.both others).map fun (found, _) => .object (Json.ofPairs (found.filterMap id))
    | input => .failure (.single (.invalidType "object" input))
  | typed name read, input => match read input with
    | .ok output => .success output
    | .error text => .failure (.single (refusal name input text))
  | ensure rule holds message, input =>
    (rule.parse input).andThen fun output =>
      if holds output then .success output else .failure (.single (.custom message))
  | transform rule f, input => (rule.parse input).map f
  | optional rule, input => match input with
    | .null => .success .absent
    | input => (rule.parse input).map .present
  | brand tag rule, input => (rule.parse input).map (.branded tag)
  | shared rule, input => rule.parse input
  | custom rule, input => rule.parse input
termination_by structural rule => rule

/-- The outcomes of the fields of an object; a member that is absent counts as null. -/
def parseFields : List (String × Rule) → List (String × Json) →
    List (Validation Diagnostics (Option (String × Json)))
  | [], _ => []
  | (name, rule) :: rest, members =>
    let given := members.lookup name
    let outcome := ((rule.parse (given.getD .null)).andThen written).map (fieldMember name given)
    outcome.mapError (·.under (.key name)) :: parseFields rest members
termination_by structural fields => fields

end

end Rule
end Assay
