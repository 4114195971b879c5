import Assay.Number.Double

/-!
# Rounding exact quotients

Arithmetic on doubles is done exactly on integers and rounded once. `roundDiv` rounds a
quotient to a whole number, `BinaryFormat.nearest` to a binary format, and
`Double.ofRatio`, `Double.ofInt` and `Double.ofDecimal` to a double, always to the
nearest value with ties to the even one.
-/

namespace Assay

/-- Where a quotient exactly between two whole numbers goes. -/
inductive Tie where
  | toEven
  | up
deriving DecidableEq

/-- The powers of ten. -/
def pow10 (n : Nat) : Nat := Nat.pow 10 n

/-- `num / den` rounded to the nearest whole number. -/
def roundDiv (num den : Nat) (tie : Tie) : Nat :=
  let low := num / den
  match compare (2 * (num % den)) den with
  | .lt => low
  | .gt => low + 1
  | .eq => match tie with
    | .toEven => low + low % 2
    | .up => low + 1

/-- `num / den` divided by `2 ^ scale`, as a numerator and a denominator. -/
def scaleDown (num den : Nat) (scale : Int) : Nat × Nat :=
  if scale < 0 then (num <<< (-scale).toNat, den) else (num, den <<< scale.toNat)

/-- A binary floating-point format: significands below `2 ^ digits`, times a power of two
with an exponent from `minScale` to `maxScale`. -/
structure BinaryFormat where
  digits : Nat
  minScale : Int
  maxScale : Int

namespace BinaryFormat

def single : BinaryFormat := ⟨24, -149, 104⟩

def double : BinaryFormat := ⟨53, -1074, 971⟩

/-- The significand and the exponent of the value nearest to `num / den`, or `none` when
that is beyond the largest one. -/
def nearest (format : BinaryFormat) (num den : Nat) : Option (Nat × Int) :=
  let low : Int := num.log2 - den.log2 - format.digits
  let (scaledNum, scaledDen) := scaleDown num den low
  let tight := if scaledNum / scaledDen < 1 <<< format.digits then low else low + 1
  let scale := max tight format.minScale
  let (n, d) := scaleDown num den scale
  let significand := roundDiv n d .toEven
  let (significand, scale) :=
    if significand = 1 <<< format.digits then (significand / 2, scale + 1) else (significand, scale)
  if format.maxScale < scale then none else some (significand, scale)

end BinaryFormat

namespace Double

/-- The double with the given significand below `2 ^ 53`, which is at least `2 ^ 52`
unless the exponent is the smallest one. -/
def ofSignificand (negative : Bool) (significand : Nat) (scale : Int) : Double :=
  if significand < 1 <<< 52 then ⟨negative, 0#11, BitVec.ofNat 52 significand⟩
  else ⟨negative, BitVec.ofNat 11 (scale + 1075).toNat, BitVec.ofNat 52 significand⟩

/-- The double nearest to `± num / den`, for a positive denominator. -/
def ofRatio (negative : Bool) (num den : Nat) : Double :=
  if num = 0 then zero negative
  else match BinaryFormat.double.nearest num den with
    | none => infinity negative
    | some (significand, scale) => ofSignificand negative significand scale

/-- The double nearest to an integer. -/
def ofInt (n : Int) : Double := ofRatio (decide (n < 0)) n.natAbs 1

/-- The double nearest to `± digits · 10 ^ exponent`. -/
def ofDecimal (negative : Bool) (digits : Nat) (exponent : Int) : Double :=
  -- beyond these bounds the value overflows or vanishes whatever its digits are
  if digits = 0 ∨ exponent + (digits.log2 + 1 : Nat) < -400 then zero negative
  else if 400 < exponent then infinity negative
  else if exponent < 0 then ofRatio negative digits (pow10 (-exponent).toNat)
  else ofRatio negative (digits * pow10 exponent.toNat) 1

/-- The nearest single-precision number, as a double; too large a number becomes infinity. -/
def toSingle (x : Double) : Double :=
  if !x.isFinite || x.magnitude == 0 then x
  else match BinaryFormat.single.nearest x.magnitude unit with
    | none => infinity x.negative
    | some (significand, scale) =>
      let (num, den) := scaleDown significand 1 (-scale)
      ofRatio x.negative num den

/-- The quotient, rounded once; the signs of zeros and infinities are those of the factors. -/
def div (x y : Double) : Double :=
  let negative := x.negative != y.negative
  if x.isNaN || y.isNaN then nan
  else if x.isInfinite then if y.isInfinite then nan else infinity negative
  else if y.isInfinite then zero negative
  else if y.magnitude = 0 then if x.magnitude = 0 then nan else infinity negative
  else ofRatio negative x.magnitude y.magnitude

/-- Twice the number. -/
def twice (x : Double) : Double :=
  if x.isFinite then ofRatio x.negative (2 * x.magnitude) unit else x

/-- One over the number. -/
def inverse (x : Double) : Double := (ofInt 1).div x

/-- How far a finite number is from the nearest integer, in steps of `2 ^ (-1074)`. -/
def distanceToInteger (x : Double) : Nat :=
  min (x.magnitude % unit) (unit - x.magnitude % unit)

end Double
end Assay
