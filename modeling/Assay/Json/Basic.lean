import Assay.Number.Double
import Assay.Number.Rounding
import Assay.Number.Literal

/-!
# JSON values

The untyped input of every rule. A number is a whole number of 64 bits, with or without
sign, or a finite double; the two are kept apart, so `1` and `1.0` are different values.
The members of an object stand in ascending order of their keys, each key once.
-/

namespace Assay

/-- The whole numbers that a JSON number holds exactly: those of a signed or an unsigned
64-bit word. -/
def fitsWord (n : Int) : Bool := -9223372036854775808 ≤ n && n < 18446744073709551616

/-- A JSON number. -/
inductive Number where
  | whole (n : Int) (fits : fitsWord n = true)
  | real (x : Double) (finite : x.isFinite = true)
deriving DecidableEq

/-- A JSON value. -/
inductive Json where
  | null
  | boolean (value : Bool)
  | number (value : Number)
  | string (value : String)
  | array (items : List Json)
  | object (members : List (String × Json))
deriving Inhabited

/-- The kinds of JSON values. -/
inductive Kind where
  | null
  | boolean
  | number
  | string
  | array
  | object
deriving DecidableEq

namespace Kind

/-- The word for a kind in messages. -/
def name : Kind → String
  | null => "null"
  | boolean => "boolean"
  | number => "number"
  | string => "string"
  | array => "array"
  | object => "object"

end Kind

namespace Number

/-- The number as a double, rounded if it is a large whole number. -/
def toDouble : Number → Double
  | whole n _ => Double.ofInt n
  | real x _ => x

/-- Equality of numbers: whole numbers and doubles are never equal, and the two zeros of
doubles are. -/
def eqv : Number → Number → Bool
  | whole m _, whole n _ => m == n
  | real x _, real y _ => x.eqv y
  | _, _ => false

end Number

namespace Json

def kind : Json → Kind
  | null => .null
  | boolean _ => .boolean
  | number _ => .number
  | string _ => .string
  | array _ => .array
  | object _ => .object

def isNull : Json → Bool
  | null => true
  | _ => false

/-- A whole number as a JSON value, if it fits. -/
def ofInt? (n : Int) : Option Json :=
  if fits : fitsWord n = true then some (number (.whole n fits)) else none

theorem fitsWord_toInt (n : Int64) : fitsWord n.toInt = true := by
  have low := n.le_toInt
  have high := n.toInt_lt
  simp only [fitsWord, Bool.and_eq_true, decide_eq_true_eq]
  omega

/-- A signed 64-bit integer as a JSON value. -/
def ofInt64 (n : Int64) : Json := number (.whole n.toInt (fitsWord_toInt n))

/-- A double as a JSON value; there is no number for infinity and NaN, so they become null. -/
def ofDouble (x : Double) : Json :=
  if finite : x.isFinite = true then number (.real x finite) else null

/-- Put a member among members in ascending order of keys; a member of the same key is
replaced. -/
def insert (key : String) (value : Json) : List (String × Json) → List (String × Json)
  | [] => [(key, value)]
  | (k, v) :: rest =>
    if key < k then (key, value) :: (k, v) :: rest
    else if key = k then (key, value) :: rest
    else (k, v) :: insert key value rest

/-- The members that a list of pairs declares, a later pair replacing an earlier one. -/
def ofPairs (pairs : List (String × Json)) : List (String × Json) :=
  pairs.foldl (fun members (key, value) => insert key value members) []

/-- An object from a list of pairs. -/
def mkObject (pairs : List (String × Json)) : Json := object (ofPairs pairs)

mutual

/-- Equality of values, with the equality of numbers at the leaves. -/
def eqv : Json → Json → Bool
  | null, null => true
  | boolean a, boolean b => a == b
  | number a, number b => a.eqv b
  | string a, string b => a == b
  | array a, array b => eqvItems a b
  | object a, object b => eqvMembers a b
  | _, _ => false

/-- Equality of the items of two arrays. -/
def eqvItems : List Json → List Json → Bool
  | [], [] => true
  | a :: as, b :: bs => eqv a b && eqvItems as bs
  | _, _ => false

/-- Equality of the members of two objects. -/
def eqvMembers : List (String × Json) → List (String × Json) → Bool
  | [], [] => true
  | (k, a) :: as, (l, b) :: bs => k == l && eqv a b && eqvMembers as bs
  | _, _ => false

end

end Json
end Assay
