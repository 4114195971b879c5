import Assay.Inspect

/-!
# Faults

A fault is a step that its caller should not have taken: taking the value of a failure, an
element beyond the end, an assertion that does not hold. Functions that can go wrong in
this way return the fault instead of a result.
-/

namespace Assay

/-- Why a step could not be taken. Values and errors are kept as their reports. -/
inductive Fault where
  | valueOfFailure (error : String)
  | errorOfSuccess (value : String)
  | indexOutOfBounds (length index : Nat)
  | expectedSuccess (error : String)
  | expectedFailure (value : String)
  | expectedErrors (expected value : String)
  | notEqual (left right : String)
deriving DecidableEq

namespace Fault

/-- The message of a fault. -/
def message : Fault → String
  | valueOfFailure error => s!"called `Validation::unwrap()` on a `Failure` value: {error}"
  | errorOfSuccess value => s!"called `Validation::unwrap_failure()` on a `Success` value: {value}"
  | indexOutOfBounds length index =>
    s!"index out of bounds: the len is {length} but the index is {index}"
  | expectedSuccess error => s!"Expected Success, got Failure: {error}"
  | expectedFailure value => s!"Expected Failure, got Success: {value}"
  | expectedErrors expected value =>
    s!"Expected Failure with errors {expected}, got Success: {value}"
  | notEqual left right =>
    s!"assertion `left == right` failed\n  left: {left}\n right: {right}"

end Fault

namespace Validation

variable {ε α : Type}

/-- The value of a success; asking for it on a failure is a fault. -/
def valueOrFault [Inspect ε] : Validation ε α → Except Fault α
  | success a => .ok a
  | failure e => .error (.valueOfFailure (inspect e))

/-- The error of a failure; asking for it on a success is a fault. -/
def errorOrFault [Inspect α] : Validation ε α → Except Fault ε
  | success a => .error (.errorOfSuccess (inspect a))
  | failure e => .ok e

/-- The assertion that a validation succeeds. -/
def assertSuccess [Inspect ε] : Validation ε α → Except Fault Unit
  | success _ => .ok ()
  | failure e => .error (.expectedSuccess (inspect e))

/-- The assertion that a validation fails. -/
def assertFailure [Inspect α] : Validation ε α → Except Fault Unit
  | success a => .error (.expectedFailure (inspect a))
  | failure _ => .ok ()

/-- The assertion that a validation fails with the expected error. -/
def assertErrors [DecidableEq ε] [Inspect ε] [Inspect α] (expected : ε) :
    Validation ε α → Except Fault Unit
  | success a => .error (.expectedErrors (inspect expected) (inspect a))
  | failure e =>
    if e = expected then .ok () else .error (.notEqual (inspect e) (inspect expected))

end Validation

/-- The element at a position; asking beyond the end is a fault, which counts from the
second element. -/
def NonEmptyList.getOrFault (xs : NonEmptyList α) (i : Nat) : Except Fault α :=
  match xs.get? i with
  | some a => .ok a
  | none => .error (.indexOutOfBounds xs.tail.length (i - 1))

end Assay
