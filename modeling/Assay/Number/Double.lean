/-!
# Double-precision numbers

A binary64 number is kept as its sign, biased exponent and fraction fields. Every
number that is not NaN stands at an integer distance from zero when measured in steps
of `2 ^ (-1074)`, the smallest positive double; `units` is that integer, and infinity
lies beyond all finite ones. Order, integrality and truncation are read off `units`, so
they are exact.
-/

namespace Assay

/-- A binary64 number by its three fields. -/
structure Double where
  /-- Whether the sign bit is set. -/
  negative : Bool
  /-- The biased exponent; all ones marks infinity and NaN. -/
  exponent : BitVec 11
  /-- The fraction below the leading bit. -/
  fraction : BitVec 52
deriving DecidableEq, Inhabited

namespace Double

/-- The exponent field that marks infinity and NaN. -/
def topExponent : BitVec 11 := 2047#11

def isNaN (x : Double) : Bool := x.exponent = topExponent ∧ x.fraction ≠ 0#52

def isInfinite (x : Double) : Bool := x.exponent = topExponent ∧ x.fraction = 0#52

def isFinite (x : Double) : Bool := x.exponent ≠ topExponent

/-- The quiet NaN without payload. -/
def nan : Double := ⟨false, topExponent, 1#52 <<< 51⟩

/-- Infinity of the given sign. -/
def infinity (negative : Bool) : Double := ⟨negative, topExponent, 0#52⟩

/-- Zero of the given sign. -/
def zero (negative : Bool) : Double := ⟨negative, 0#11, 0#52⟩

/-- The significand with its leading bit, which subnormal numbers lack. -/
def significand (x : Double) : Nat :=
  if x.exponent = 0#11 then x.fraction.toNat else (1 <<< 52) + x.fraction.toNat

/-- The power of two that the significand counts, above the smallest one. -/
def shift (x : Double) : Nat := x.exponent.toNat - 1

/-- How many steps of `2 ^ (-1074)` make one. -/
def unit : Nat := 1 <<< 1074

/-- The absolute value in steps of `2 ^ (-1074)`; infinity exceeds every finite one. -/
def magnitude (x : Double) : Nat := x.significand <<< x.shift

/-- The value in steps of `2 ^ (-1074)`. -/
def units (x : Double) : Int := if x.negative then -(x.magnitude : Int) else x.magnitude

/-- The order of numbers; NaN is unordered and the two zeros are equal. -/
def compare? (x y : Double) : Option Ordering :=
  if x.isNaN || y.isNaN then none else some (compare x.units y.units)

/-- `x < y` in the order of doubles: false as soon as one side is NaN. -/
def lt (x y : Double) : Bool := !x.isNaN && !y.isNaN && decide (x.units < y.units)

/-- `x ≤ y` in the order of doubles: false as soon as one side is NaN. -/
def le (x y : Double) : Bool := !x.isNaN && !y.isNaN && decide (x.units ≤ y.units)

/-- Numerical equality: the zeros agree and NaN equals nothing. -/
def eqv (x y : Double) : Bool := !x.isNaN && !y.isNaN && decide (x.units = y.units)

/-- Whether the number is finite and has no fractional part. -/
def isIntegral (x : Double) : Bool := x.isFinite && decide (x.magnitude % unit = 0)

/-- The integer part of a finite number, toward zero. -/
def truncate (x : Double) : Int := x.units.tdiv unit

/-- The number with its sign turned. -/
def neg (x : Double) : Double := { x with negative := !x.negative }

/-- The 64 bits, sign first. -/
def bits (x : Double) : BitVec 64 :=
  BitVec.ofBool x.negative ++ x.exponent ++ x.fraction

end Double
end Assay
