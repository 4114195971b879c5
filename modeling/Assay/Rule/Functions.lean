import Assay.Rule.Basic
import Assay.Number.Literal

/-!
# Named conditions and functions

Conditions for `Rule.ensure`, functions for `Rule.transform` and a rule of its own kind, each
known by name. They look at an output without the tags around it. A condition holds of every
output that it is not about, and a function leaves such an output as it is.
-/

namespace Assay

/-- A condition on outputs. -/
inductive Predicate where
  | always
  | never
  | even
  | ascii
  | startsWithHash
  | distinct
  | twoMembers
  | present
deriving DecidableEq

namespace Predicate

/-- Whether no two of the outputs are equal. -/
def allDistinct : List Output → Bool
  | [] => true
  | a :: rest => rest.all (fun b => !a.eqv b) && allDistinct rest

/-- Whether the condition holds of an output. -/
def holds (p : Predicate) (output : Output) : Bool :=
  match p, output.primitive with
  | always, _ => true
  | never, _ => false
  | even, .integer n => n % 2 == 0
  | ascii, .string s => s.toList.all fun c => c.toNat < 0x80
  | startsWithHash, .string s => ['#'].isPrefixOf s.toList
  | distinct, .array items => allDistinct items
  | twoMembers, .object members => members.length == 2
  | present, .absent => false
  | _, _ => true

end Predicate

/-- A function on outputs. -/
inductive Mapper where
  | byteLength
  | negate
  | double
  | square
  | cube
  | invert
  | first
  | keys
  | wrap
  | absent
  | unwritable (report reason : String)
deriving DecidableEq

namespace Mapper

/-- An integer as one of 128 bits with sign, wrapping around. -/
def wrap128 (n : Int) : Int := n.bmod (1 <<< 128)

/-- The output after the function. -/
def apply (f : Mapper) (output : Output) : Output :=
  match f, output.primitive with
  | byteLength, .string s => .integer (Int64.ofNat s.utf8ByteSize)
  | negate, .integer n => .integer (-n)
  | negate, .number x => .number x.neg
  | negate, .boolean b => .boolean (!b)
  | double, .integer n => .integer (n * 2)
  | double, .number x => .number x.twice
  | double, .string s => .string (s ++ s)
  | square, .integer n => .wide (wrap128 (n.toInt * n.toInt))
  | cube, .integer n => .wide (wrap128 (n.toInt * n.toInt * n.toInt))
  | invert, .number x => .number x.inverse
  | first, .array [] => .absent
  | first, .array (item :: _) => .present item
  | keys, .object members => .array (members.map fun (key, _) => .string key)
  | wrap, _ => .array [output]
  | absent, _ => .absent
  | unwritable report reason, _ => .unwritable report reason
  | _, _ => output

/-- Twice a positive integer; every other output is refused with an error. -/
def doublePositive (error : ε) (output : Output) : Validation ε Output :=
  match output.primitive with
  | .integer n => if 0 < n then .success (.integer (n * 2)) else .failure error
  | _ => .failure error

end Mapper

namespace Rule

/-- The rule for hexadecimal integers of 64 bits: digits with an optional sign. The
description is the given one. -/
def hexadecimal (description report : String) : Rule :=
  custom
    { description, report
      parse := fun input =>
        let read := match input with
          | .string s => readInt64? 16 s
          | _ => none
        match read with
        | some n => .success (.integer n)
        | none => .failure (.single (.custom "Expected a hex string")) }

end Rule
end Assay
