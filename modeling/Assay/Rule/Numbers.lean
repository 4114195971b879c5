import Assay.Diagnostics
import Assay.Validation
import Assay.Number.Style

/-!
# Number rules

A number rule reads a double or a 64-bit integer out of the input and then runs every check
on it. A bound is violated when the opposite comparison holds; a bound that is NaN is
therefore never violated.
-/

namespace Assay

/-- A type of numbers that a rule can produce. -/
class Numeric (ν : Type) where
  /-- The name of the kind in messages. -/
  kindName : String
  zero : ν
  /-- The number that an input holds, or the issue that it holds none. -/
  extract : Json → Except Issue ν
  lt : ν → ν → Bool
  le : ν → ν → Bool
  isMultipleOf : ν → ν → Bool
  isIntegral : ν → Bool
  text : ν → String

namespace Double

/-- The largest distance of a quotient to an integer at which it still counts as one. -/
def multipleTolerance : Double := ofDecimal false 1 (-9)

/-- Whether the number divided by the divisor is an integer, up to rounding errors. Nothing
is a multiple of zero, infinity or NaN. -/
def isMultipleOf (x divisor : Double) : Bool :=
  divisor.isFinite && divisor.magnitude != 0 &&
    let quotient := x.div divisor
    quotient.isFinite && quotient.distanceToInteger < multipleTolerance.magnitude

end Double

instance : Numeric Double where
  kindName := "number"
  zero := .zero false
  extract
    | .number n => .ok n.toDouble
    | input => .error (.invalidType "number" input)
  lt := Double.lt
  le := Double.le
  isMultipleOf := Double.isMultipleOf
  isIntegral := Double.isIntegral
  text := NumberStyle.plain.text

/-- The number has a fractional part. -/
def Issue.notInteger : Issue := .atRoot .notInteger "Invalid input: expected int, received number"

/-- The integer in a number, if it has no fractional part and fits into 64 bits with sign. -/
def Number.toInt64 (n : Number) : Except Issue Int64 :=
  let fitted (n : Int) : Except Issue Int64 :=
    if n < Int64.minValue.toInt then
      .error (.atRoot (.tooSmall (toString Int64.minValue.toInt) true)
        s!"Too small: expected integer to be >={Int64.minValue.toInt}")
    else if n ≤ Int64.maxValue.toInt then .ok (Int64.ofInt n)
    else
      .error (.atRoot (.tooBig (toString Int64.maxValue.toInt) true)
        s!"Too big: expected integer to be <={Int64.maxValue.toInt}")
  match n with
  | .whole n _ => fitted n
  | .real x _ => if x.isIntegral then fitted x.truncate else .error .notInteger

/-- The remainder of a division that truncates, unless the divisor is zero or the quotient does not
fit into 64 bits. -/
def Int64.remainder? (n divisor : Int64) : Option Int64 :=
  if divisor = 0 ∨ n = Int64.minValue ∧ divisor = -1 then none else some (n % divisor)

instance : Numeric Int64 where
  kindName := "integer"
  zero := 0
  extract
    | .number n => n.toInt64
    | input => .error (.invalidType "integer" input)
  lt a b := decide (a < b)
  le a b := decide (a ≤ b)
  -- by -1 the quotient may not fit, and then there is no remainder to look at
  isMultipleOf n divisor := divisor == -1 || Int64.remainder? n divisor == some 0
  isIntegral _ := true
  text n := toString n.toInt

/-- A condition on a number. -/
inductive NumberCheck (ν : Type) where
  | gt (bound : ν)
  | gte (bound : ν)
  | lt (bound : ν)
  | lte (bound : ν)
  | multipleOf (divisor : ν)
  | int
deriving DecidableEq

namespace NumberCheck

variable {ν : Type} [Numeric ν]

/-- Whether a number violates the condition. -/
def isViolated (check : NumberCheck ν) (n : ν) : Bool :=
  match check with
  | gt bound => Numeric.le n bound
  | gte bound => Numeric.lt n bound
  | lt bound => Numeric.le bound n
  | lte bound => Numeric.lt bound n
  | multipleOf divisor => !Numeric.isMultipleOf n divisor
  | int => !Numeric.isIntegral n

/-- The issue that reports a violation of the condition. -/
def violation : NumberCheck ν → Issue
  | gt bound =>
    let bound := Numeric.text bound
    .atRoot (.tooSmall bound false) s!"Too small: expected number to be >{bound}"
  | gte bound =>
    let bound := Numeric.text bound
    .atRoot (.tooSmall bound true) s!"Too small: expected number to be >={bound}"
  | lt bound =>
    let bound := Numeric.text bound
    .atRoot (.tooBig bound false) s!"Too big: expected number to be <{bound}"
  | lte bound =>
    let bound := Numeric.text bound
    .atRoot (.tooBig bound true) s!"Too big: expected number to be <={bound}"
  | multipleOf divisor =>
    let divisor := Numeric.text divisor
    .atRoot (.notMultipleOf divisor) s!"Invalid number: must be a multiple of {divisor}"
  | int => .notInteger

/-- The issue of a number with a condition, if it violates it. -/
def issue? (check : NumberCheck ν) (n : ν) : Option Issue :=
  if check.isViolated n then some check.violation else none

end NumberCheck

/-- A call that extends a number rule. -/
inductive NumberCall (ν : Type) where
  | gt (bound : ν)
  | gte (bound : ν)
  | lt (bound : ν)
  | lte (bound : ν)
  | min (bound : ν)
  | max (bound : ν)
  | positive
  | nonNegative
  | negative
  | nonPositive
  | multipleOf (divisor : ν)
  | int
deriving DecidableEq

/-- The condition that a call adds. -/
def NumberCall.check {ν : Type} [Numeric ν] : NumberCall ν → NumberCheck ν
  | gt bound => .gt bound
  | gte bound | min bound => .gte bound
  | lt bound => .lt bound
  | lte bound | max bound => .lte bound
  | positive => .gt Numeric.zero
  | nonNegative => .gte Numeric.zero
  | negative => .lt Numeric.zero
  | nonPositive => .lte Numeric.zero
  | multipleOf divisor => .multipleOf divisor
  | int => .int

/-- A rule for numbers. -/
structure NumberRule (ν : Type) where
  checks : List (NumberCheck ν)
deriving DecidableEq, Inhabited

namespace NumberRule

variable {ν : Type} [Numeric ν]

/-- The rule that accepts every number of the kind. -/
def any : NumberRule ν := ⟨[]⟩

/-- The rule extended by a call. -/
def call (rule : NumberRule ν) (c : NumberCall ν) : NumberRule ν := ⟨rule.checks ++ [c.check]⟩

/-- The rule that a chain of calls makes. -/
def ofCalls (calls : List (NumberCall ν)) : NumberRule ν := calls.foldl call any

/-- The issues of a number, in the order of the checks. -/
def issues (rule : NumberRule ν) (n : ν) : List Issue := rule.checks.filterMap (·.issue? n)

/-- Accept the number in the input, or report every check that it violates. -/
def parse (rule : NumberRule ν) (input : Json) : Validation Diagnostics ν :=
  match Numeric.extract input with
  | .error issue => .failure (.single issue)
  | .ok n =>
    match Diagnostics.ofList? (rule.issues n) with
    | some diagnostics => .failure diagnostics
    | none => .success n

end NumberRule
end Assay
