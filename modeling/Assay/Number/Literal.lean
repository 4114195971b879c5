import Assay.Number.Rounding

/-!
# Number literals

Reading doubles and 64-bit integers that are written on their own: bounds, hexadecimal
identifiers, values given as text.
-/

namespace Assay

/-- The leading decimal digits of a text and what follows them. -/
def spanDigits (cs : List Char) : List Char × List Char := cs.span Char.isDigit

/-- The number that a list of decimal digits writes. -/
def digitsValue (cs : List Char) : Nat :=
  cs.foldl (fun n c => 10 * n + (c.toNat - '0'.toNat)) 0

/-- A sign in front of a text, and the rest. -/
def spanSign : List Char → Bool × List Char
  | '-' :: cs => (true, cs)
  | '+' :: cs => (false, cs)
  | cs => (false, cs)

/-- The exponent part `e±ddd` of a literal and what follows it; `none` when there is no
digit after the mark. A literal without a mark has the exponent zero. -/
def spanExponent : List Char → Option (Int × List Char)
  | c :: cs =>
    if c = 'e' ∨ c = 'E' then
      let (negative, cs) := spanSign cs
      match spanDigits cs with
      | ([], _) => none
      | (digits, rest) =>
        let n : Int := digitsValue digits
        some (if negative then -n else n, rest)
    else some (0, c :: cs)
  | [] => some (0, [])

namespace Double

/-- Read an unsigned decimal number with an optional point and an optional exponent. -/
def ofDecimalText? (negative : Bool) (cs : List Char) : Option Double :=
  let (whole, rest) := spanDigits cs
  let (places, rest) := match rest with
    | '.' :: rest => spanDigits rest
    | rest => ([], rest)
  if whole.isEmpty && places.isEmpty then none
  else match spanExponent rest with
    | some (exponent, []) =>
      some (ofDecimal negative (digitsValue (whole ++ places)) (exponent - places.length))
    | _ => none

/-- Read a double: a decimal number, or one of the words `inf`, `infinity` and `nan` in any
case, with an optional sign. -/
def ofText? (text : String) : Option Double :=
  let (negative, cs) := spanSign text.toList
  let word := String.ofList (cs.map Char.toLower)
  if word = "inf" ∨ word = "infinity" then some (infinity negative)
  else if word = "nan" then some { nan with negative }
  else ofDecimalText? negative cs

end Double

/-- The value of a digit in a number system with up to sixteen digits. -/
def digitValue? (radix : Nat) (c : Char) : Option Nat :=
  let value :=
    if c.isDigit then c.toNat - '0'.toNat
    else if 'a' ≤ c ∧ c ≤ 'f' then c.toNat - 'a'.toNat + 10
    else if 'A' ≤ c ∧ c ≤ 'F' then c.toNat - 'A'.toNat + 10
    else radix
  if value < radix then some value else none

/-- The integers that fit into 64 bits with a sign. -/
def fitsInt64 (n : Int) : Bool := Int64.minValue.toInt ≤ n && n ≤ Int64.maxValue.toInt

/-- Read a 64-bit integer: an optional sign and at least one digit of the radix. -/
def readInt64? (radix : Nat) (text : String) : Option Int64 :=
  let (negative, cs) := spanSign text.toList
  match cs.mapM (digitValue? radix) with
  | none | some [] => none
  | some digits =>
    let magnitude := digits.foldl (fun n d => radix * n + d) 0
    let n : Int := if negative then -magnitude else magnitude
    if fitsInt64 n then some (Int64.ofInt n) else none

end Assay
