import Assay.Number.Shortest

/-!
# Numbers as text

A `NumberStyle` fixes everything in which the texts of a number differ: which numbers have
an exponent, how it is written, and whether a whole number keeps its decimal point. Three
styles are in use: JSON text, the plain text of messages, and the text of developer
reports.
-/

namespace Assay

/-- How a double is written. -/
structure NumberStyle where
  /-- Where a number exactly between two shortest decimals goes. -/
  tie : Tie
  /-- The least and the greatest position of the decimal point at which a number is written
  without an exponent; `none` when no number has an exponent. -/
  positional : Option (Int × Int)
  /-- Whether a whole number written without exponent ends in `.0`. -/
  keepsPoint : Bool
  /-- Whether a positive exponent has a plus sign. -/
  plus : Bool

namespace NumberStyle

/-- JSON text: positional from `1e-5` up to `1e16`, an exponent with its sign beyond. -/
def wire : NumberStyle := ⟨.toEven, some (-4, 16), true, true⟩

/-- Messages: never an exponent, and no point after a whole number. -/
def plain : NumberStyle := ⟨.up, none, false, false⟩

/-- Developer reports: positional from `1e-4` up to `1e16`, an exponent without plus sign
beyond. -/
def report : NumberStyle := ⟨.up, some (-3, 16), true, false⟩

def zeros (n : Nat) : List Char := List.replicate n '0'

/-- A decimal with all its places written out. -/
def positionalText (keepsPoint : Bool) (d : Decimal) : List Char :=
  let digits := Nat.toDigits 10 d.digits
  if d.point ≤ 0 then '0' :: '.' :: (zeros (-d.point).toNat ++ digits)
  else
    let whole := d.point.toNat
    if whole < digits.length then digits.take whole ++ '.' :: digits.drop whole
    else digits ++ zeros (whole - digits.length) ++ (if keepsPoint then ['.', '0'] else [])

/-- A decimal with one digit before the point, times a power of ten. -/
def exponentText (plus : Bool) (d : Decimal) : List Char :=
  let digits := Nat.toDigits 10 d.digits
  let mantissa := match digits with
    | [] => []
    | [c] => [c]
    | c :: rest => c :: '.' :: rest
  let exponent := d.point - 1
  let sign := if exponent < 0 then ['-'] else if plus then ['+'] else []
  mantissa ++ 'e' :: (sign ++ Nat.toDigits 10 exponent.natAbs)

/-- The text of a number without its sign. -/
def magnitudeText (style : NumberStyle) (x : Double) : List Char :=
  if x.isInfinite then ['i', 'n', 'f']
  else if x.magnitude = 0 then if style.keepsPoint then ['0', '.', '0'] else ['0']
  else
    let d := x.shortest style.tie
    match style.positional with
    | none => positionalText style.keepsPoint d
    | some (least, greatest) =>
      if least ≤ d.point ∧ d.point ≤ greatest then positionalText style.keepsPoint d
      else exponentText style.plus d

/-- The text of a number. -/
def text (style : NumberStyle) (x : Double) : String :=
  if x.isNaN then "NaN"
  else String.ofList ((if x.negative then ['-'] else []) ++ style.magnitudeText x)

end NumberStyle

/-- A number with a fixed count of places, rounded from its exact value with ties to even;
NaN and infinity are words. -/
def Double.fixed (x : Double) (places : Nat) : String :=
  if x.isNaN then "NaN"
  else
    let sign := if x.negative then ['-'] else []
    if x.isInfinite then String.ofList (sign ++ ['i', 'n', 'f'])
    else
      let scaled := roundDiv (x.magnitude * pow10 places) Double.unit .toEven
      let digits := Nat.toDigits 10 scaled
      let padded := NumberStyle.zeros (places + 1 - digits.length) ++ digits
      let whole := padded.length - places
      String.ofList (sign ++ padded.take whole ++ '.' :: padded.drop whole)

end Assay
