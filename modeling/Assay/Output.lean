import Assay.Tag

/-!
# Outputs

What a rule makes of an accepted input. Outputs are wider than JSON: they hold integers of
up to 128 bits, values that may be missing, pairs, branded values, and values that cannot be
written as JSON at all.
-/

namespace Assay

/-- The value that a rule produces. -/
inductive Output where
  | string (s : String)
  | number (x : Double)
  | integer (n : Int64)
  /-- An integer of 128 bits. -/
  | wide (n : Int)
  | boolean (b : Bool)
  | object (members : List (String × Json))
  | array (items : List Output)
  | absent
  | present (value : Output)
  | pair (first second : Output)
  /-- A value read by shape and written back. -/
  | json (value : Json)
  | branded (tag : Tag) (value : Output)
  /-- A value of the caller that has no written form, for a reason that is told in its words. -/
  | unwritable (report reason : String)
deriving Inhabited

/-- Why an output cannot be written as JSON. -/
inductive WriteError where
  | outOfRange
  | unwritable (reason : String)
deriving DecidableEq

/-- The message of a failed attempt to write an output. -/
def WriteError.message : WriteError → String
  | outOfRange => "number out of range"
  | unwritable reason => reason

namespace Output

mutual

/-- The JSON value that an output is written as. Branded values are written like the value
alone, missing values and numbers that are not finite as null. -/
def toJson : Output → Except WriteError Json
  | string s => .ok (.string s)
  | number x => .ok (.ofDouble x)
  | integer n => .ok (.ofInt64 n)
  | wide n => match Json.ofInt? n with
    | some value => .ok value
    | none => .error .outOfRange
  | boolean b => .ok (.boolean b)
  | object members => .ok (.object members)
  | array items => (itemsToJson items).map .array
  | absent => .ok .null
  | present value => value.toJson
  | pair a b => match a.toJson, b.toJson with
    | .ok a, .ok b => .ok (.array [a, b])
    | .error e, _ => .error e
    | .ok _, .error e => .error e
  | json value => .ok value
  | branded _ value => value.toJson
  | unwritable _ reason => .error (.unwritable reason)
termination_by structural output => output

/-- The JSON values of outputs in order; the first failure decides. -/
def itemsToJson : List Output → Except WriteError (List Json)
  | [] => .ok []
  | item :: rest => match item.toJson, itemsToJson rest with
    | .ok value, .ok values => .ok (value :: values)
    | .error e, _ => .error e
    | .ok _, .error e => .error e
termination_by structural items => items

end

mutual

/-- The JSON text of an output. It is the text of its JSON value, but integers of 128 bits
are written whatever their size. -/
def chars : Output → Except WriteError (List Char)
  | wide n => .ok (toString n).toList
  | array items => (itemsChars items).map fun cs => '[' :: cs
  | present value => value.chars
  | pair a b => match a.chars, b.chars with
    | .ok a, .ok b => .ok ('[' :: (a ++ ',' :: (b ++ [']'])))
    | .error e, _ => .error e
    | .ok _, .error e => .error e
  | branded _ value => value.chars
  | string s => .ok (Json.string s).chars
  | number x => .ok (Json.ofDouble x).chars
  | integer n => .ok (Json.ofInt64 n).chars
  | boolean b => .ok (Json.boolean b).chars
  | object members => .ok (Json.object members).chars
  | absent => .ok Json.null.chars
  | json value => .ok value.chars
  | unwritable _ reason => .error (.unwritable reason)
termination_by structural output => output

/-- The texts of the items of an array, with the closing bracket. -/
def itemsChars : List Output → Except WriteError (List Char)
  | [] => .ok [']']
  | [item] => item.chars.map fun cs => cs ++ [']']
  | item :: rest => match item.chars, itemsChars rest with
    | .ok cs, .ok more => .ok (cs ++ ',' :: more)
    | .error e, _ => .error e
    | .ok _, .error e => .error e
termination_by structural items => items

end

/-- The JSON text of an output. -/
def text (output : Output) : Except WriteError String := output.chars.map String.ofList

mutual

/-- Equality of outputs: of the same kind, with the numerical equality of doubles. -/
def eqv : Output → Output → Bool
  | string a, string b => a == b
  | number a, number b => a.eqv b
  | integer a, integer b => a == b
  | wide a, wide b => a == b
  | boolean a, boolean b => a == b
  | object a, object b => Json.eqvMembers a b
  | array a, array b => eqvItems a b
  | absent, absent => true
  | present a, present b => eqv a b
  | pair a b, pair c d => eqv a c && eqv b d
  | json a, json b => a.eqv b
  | branded s a, branded t b => s == t && eqv a b
  | unwritable s a, unwritable t b => s == t && a == b
  | _, _ => false
termination_by structural a => a

/-- Equality of the items of two arrays. -/
def eqvItems : List Output → List Output → Bool
  | [], [] => true
  | a :: as, b :: bs => eqv a b && eqvItems as bs
  | _, _ => false
termination_by structural as => as

end

mutual

/-- The output without any tags. -/
def unbranded : Output → Output
  | branded _ value => value.unbranded
  | array items => array (unbrandedItems items)
  | present value => present value.unbranded
  | pair a b => pair a.unbranded b.unbranded
  | output => output
termination_by structural output => output

/-- The items of an array without any tags. -/
def unbrandedItems : List Output → List Output
  | [] => []
  | item :: rest => item.unbranded :: unbrandedItems rest
termination_by structural items => items

end

/-- The output without the tags around it. -/
def primitive : Output → Output
  | branded _ value => value.primitive
  | output => output

mutual

/-- The structure of an output. -/
def inspect : Output → String
  | string s => Inspect.inspect s
  | number x => Inspect.inspect x
  | integer n => Inspect.inspect n
  | wide n => Inspect.inspect n
  | boolean b => Inspect.inspect b
  | object members => Inspect.dictionary (Json.inspectMembers members)
  | array items => Inspect.listText (inspectItems items)
  | absent => Inspect.option none
  | present value => Inspect.option (some value.inspect)
  | pair a b => Inspect.call "" [a.inspect, b.inspect]
  | json value => Inspect.inspect value
  | branded tag value =>
    Inspect.record "Branded" [("tag", Inspect.inspect tag.name), ("value", value.inspect)]
  | unwritable report _ => report
termination_by structural output => output

/-- The structures of the items of an array. -/
def inspectItems : List Output → List String
  | [] => []
  | item :: rest => item.inspect :: inspectItems rest
termination_by structural items => items

end

instance : BEq Output := ⟨eqv⟩

instance : Inspect Output := ⟨inspect⟩

mutual

/-- A JSON value as an output: null is a missing value, a whole number of 64 bits with sign
an integer, any other number a double. -/
def ofJson : Json → Output
  | .null => absent
  | .boolean b => boolean b
  | .number (.whole n fits) =>
    if fitsInt64 n then integer (Int64.ofInt n) else number (Number.whole n fits).toDouble
  | .number (.real x _) => number x
  | .string s => string s
  | .array items => array (ofItems items)
  | .object members => object members
termination_by structural value => value

/-- The items of an array as outputs. -/
def ofItems : List Json → List Output
  | [] => []
  | item :: rest => ofJson item :: ofItems rest
termination_by structural items => items

end

end Output
end Assay
