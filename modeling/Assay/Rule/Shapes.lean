import Assay.Output

/-!
# Shapes

A shape describes JSON data by its structure: primitive types, lists, dictionaries, records
with named fields, and enumerations. Reading by a shape goes depth first and in order, stops
at the first mismatch, and yields the data in normal form, in which every field of a record
is written. A shape is one way to make a reader for a typed rule.
-/

namespace Assay

/-- A structure of JSON data. -/
inductive Shape where
  | boolean
  | character
  | string
  /-- The integers between two bounds, under the name of their type. -/
  | integer (name : String) (least greatest : Int)
  | double
  | list (item : Shape)
  /-- Null or data of the shape. -/
  | nullable (shape : Shape)
  /-- An array with one item for each shape. -/
  | tuple (items : List Shape)
  | dictionary (value : Shape)
  /-- An object with the given fields, some with a default, or an array of their values.
  A closed record has no other members. -/
  | record (name : String) (fields : List (String × Shape × Option Json)) (closed : Bool)
  /-- One of several words, or an object whose only member has the word as key and the value
  null. -/
  | enumeration (variants : List String)
deriving Inhabited

/-- A description of the data that was met instead of what was expected. -/
inductive Found where
  | null
  | boolean (b : Bool)
  | integer (n : Int)
  | double (x : Double)
  | string (s : String)
  | sequence
  | map
deriving DecidableEq

namespace Found

def ofJson : Json → Found
  | .null => null
  | .boolean b => boolean b
  | .number (.whole n _) => integer n
  | .number (.real x _) => double x
  | .string s => string s
  | .array _ => sequence
  | .object _ => map

/-- The words for the data. -/
def text : Found → String
  | null => "null"
  | boolean b => s!"boolean `{inspect b}`"
  | integer n => s!"integer `{n}`"
  | double x => s!"floating point `{NumberStyle.wire.text x}`"
  | string s => s!"string {quote s}"
  | sequence => "sequence"
  | map => "map"

end Found

/-- Why data does not have a shape. -/
inductive ShapeError where
  | invalidType (found : Found) (expected : String)
  | invalidValue (found : Found) (expected : String)
  | invalidLength (length : Nat) (expected : String)
  | missingField (name : String)
  | unknownField (name : String) (known : List String)
  | unknownVariant (name : String) (known : List String)
deriving DecidableEq

namespace ShapeError

/-- The words for a choice among names. -/
def choice (nothing : String) (names : List String) : String :=
  match names with
  | [] => nothing
  | [a] => s!"expected `{a}`"
  | [a, b] => s!"expected `{a}` or `{b}`"
  | names => "expected one of " ++ ", ".intercalate (names.map fun name => s!"`{name}`")

/-- The message of an error. -/
def message : ShapeError → String
  | invalidType found expected => s!"invalid type: {found.text}, expected {expected}"
  | invalidValue found expected => s!"invalid value: {found.text}, expected {expected}"
  | invalidLength length expected => s!"invalid length {length}, expected {expected}"
  | missingField name => s!"missing field `{name}`"
  | unknownField name known =>
    let known := choice "there are no fields" known
    s!"unknown field `{name}`, {known}"
  | unknownVariant name known =>
    let known := choice "there are no variants" known
    s!"unknown variant `{name}`, {known}"

end ShapeError

namespace Shape

/-- How a field of a record is read. -/
structure FieldReader where
  name : String
  read : Json → Except ShapeError Json
  /-- The value of a missing field, in an array of values as well. -/
  default : Option Json
  /-- Whether a missing member of an object stands for null. -/
  nullable : Bool

def isNullable : Shape → Bool
  | nullable _ => true
  | _ => false

/-- The items of an array read one by one, and the items that are left. An item that is
missing has its default or is an error. -/
def readPositions (expected : String) :
    (position : Nat) → List FieldReader → List Json →
      Except ShapeError (List (String × Json) × List Json)
  | _, [], items => .ok ([], items)
  | position, field :: fields, [] =>
    match field.default with
    | none => .error (.invalidLength position expected)
    | some value => do
      let (pairs, items) ← readPositions expected (position + 1) fields []
      return ((field.name, value) :: pairs, items)
  | position, field :: fields, item :: items => do
    let value ← field.read item
    let (pairs, items) ← readPositions expected (position + 1) fields items
    return ((field.name, value) :: pairs, items)

/-- An array read by position; items beyond the last position are an error. -/
def readArray (expected : String) (fields : List FieldReader) (items : List Json) :
    Except ShapeError (List (String × Json)) := do
  let (pairs, rest) ← readPositions expected 0 fields items
  if rest.isEmpty then return pairs
  else throw (.invalidLength items.length "fewer elements in array")

/-- The members of an object that are fields, in the order of the members. -/
def readMembers (fields : List FieldReader) (closed : Bool) :
    List (String × Json) → Except ShapeError (List (String × Json))
  | [] => .ok []
  | (key, value) :: rest =>
    match fields.find? (·.name == key) with
    | some field => do
      let value ← field.read value
      let pairs ← readMembers fields closed rest
      return (key, value) :: pairs
    | none =>
      if closed then .error (.unknownField key (fields.map (·.name)))
      else readMembers fields closed rest

/-- The values of all fields, those that were not read taken from the defaults. -/
def fillIn (fields : List FieldReader) (pairs : List (String × Json)) :
    Except ShapeError (List (String × Json)) :=
  fields.mapM fun field =>
    match pairs.lookup field.name, field.default with
    | some value, _ | none, some value => .ok (field.name, value)
    | none, none =>
      if field.nullable then .ok (field.name, .null) else .error (.missingField field.name)

/-- An integer between two bounds. -/
def readInteger (name : String) (least greatest : Int) (input : Json) :
    Except ShapeError Json :=
  match input with
  | .number (.whole n _) =>
    if least ≤ n ∧ n ≤ greatest then .ok input else .error (.invalidValue (.integer n) name)
  | input => .error (.invalidType (.ofJson input) name)

/-- One of several words, with no data of its own. -/
def readVariant (variants : List String) (word : String) (data : Option Json) :
    Except ShapeError Json :=
  if variants.contains word then
    match data with
    | none | some .null => .ok (.string word)
    | some data => .error (.invalidType (.ofJson data) "unit")
  else .error (.unknownVariant word variants)

mutual

/-- The data of an input in normal form, if it has the shape. -/
def read : Shape → Json → Except ShapeError Json
  | boolean, input => match input with
    | .boolean b => .ok (.boolean b)
    | input => .error (.invalidType (.ofJson input) "a boolean")
  | character, input => match input with
    | .string s =>
      if s.length = 1 then .ok (.string s)
      else .error (.invalidValue (.string s) "a character")
    | input => .error (.invalidType (.ofJson input) "a character")
  | string, input => match input with
    | .string s => .ok (.string s)
    | input => .error (.invalidType (.ofJson input) "a string")
  | integer name least greatest, input => readInteger name least greatest input
  | double, input => match input with
    | .number n => .ok (.ofDouble n.toDouble)
    | input => .error (.invalidType (.ofJson input) "f64")
  | list item, input => match input with
    | .array items => (items.mapM item.read).map .array
    | input => .error (.invalidType (.ofJson input) "a sequence")
  | nullable shape, input => match input with
    | .null => .ok .null
    | input => shape.read input
  | tuple items, input =>
    let expected := s!"a tuple of size {items.length}"
    match input with
    | .array values =>
      (readArray expected (tupleReaders items) values).map fun pairs =>
        .array (pairs.map Prod.snd)
    | input => .error (.invalidType (.ofJson input) expected)
  | dictionary value, input => match input with
    | .object members =>
      (members.mapM fun (member : String × Json) =>
        (value.read member.2).map fun v => (member.1, v)).map .object
    | input => .error (.invalidType (.ofJson input) "a map")
  | record name fields closed, input =>
    let readers := fieldReaders fields
    let expected := s!"struct {name}"
    match input with
    | .array items =>
      let elements := if readers.length = 1 then "element" else "elements"
      (readArray s!"{expected} with {readers.length} {elements}" readers items).map Json.mkObject
    | .object members =>
      ((readMembers readers closed members).bind (fillIn readers)).map Json.mkObject
    | input => .error (.invalidType (.ofJson input) expected)
  | enumeration variants, input => match input with
    | .string word => readVariant variants word none
    | .object [(word, data)] => readVariant variants word (some data)
    | .object _ => .error (.invalidValue .map "map with a single key")
    | input => .error (.invalidType (.ofJson input) "string or map")
termination_by structural shape => shape

/-- The readers of the fields of a record. -/
def fieldReaders : List (String × Shape × Option Json) → List FieldReader
  | [] => []
  | (name, shape, default) :: rest =>
    ⟨name, shape.read, default, shape.isNullable⟩ :: fieldReaders rest
termination_by structural fields => fields

/-- The readers of the items of a tuple. -/
def tupleReaders : List Shape → List FieldReader
  | [] => []
  | shape :: rest => ⟨"", shape.read, none, false⟩ :: tupleReaders rest
termination_by structural shapes => shapes

end

/-- The reader that takes the data of a shape and tells its errors in words. -/
def reader (shape : Shape) (input : Json) : Except String Output :=
  match shape.read input with
  | .ok value => .ok (.json value)
  | .error e => .error e.message

end Shape
end Assay
