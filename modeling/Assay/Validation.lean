import Assay.Combine

/-!
# Validations

A validation is a value or an error. In contrast to a chain of steps that stops at the
first error, independent validations are put together by `both` and `all`, which collect
every error in order.
-/

namespace Assay

/-- The outcome of checking an input. -/
inductive Validation (ε : Type u) (α : Type v) where
  | success (value : α)
  | failure (error : ε)
deriving DecidableEq, BEq

namespace Validation

variable {ε : Type u} {α : Type v}

def isSuccess : Validation ε α → Bool
  | success _ => true
  | failure _ => false

def isFailure : Validation ε α → Bool
  | success _ => false
  | failure _ => true

/-- The value of a success. -/
def value? : Validation ε α → Option α
  | success a => some a
  | failure _ => none

/-- The error of a failure. -/
def error? : Validation ε α → Option ε
  | success _ => none
  | failure e => some e

/-- The value of a success, or what a function makes of the error. -/
def valueOrElse (f : ε → α) : Validation ε α → α
  | success a => a
  | failure e => f e

/-- The value of a success, or a replacement. -/
def valueOr (a : α) (v : Validation ε α) : α := v.valueOrElse fun _ => a

def toExcept : Validation ε α → Except ε α
  | success a => .ok a
  | failure e => .error e

def ofExcept : Except ε α → Validation ε α
  | .ok a => success a
  | .error e => failure e

/-- Change the value of a success. -/
def map (f : α → β) : Validation ε α → Validation ε β
  | success a => success (f a)
  | failure e => failure e

/-- Change the error of a failure. -/
def mapError (f : ε → δ) : Validation ε α → Validation δ α
  | success a => success a
  | failure e => failure (f e)

/-- Go on with a second step that depends on the value of the first. -/
def andThen (v : Validation ε α) (f : α → Validation ε β) : Validation ε β :=
  match v with
  | success a => f a
  | failure e => failure e

/-- Two independent validations: both values, or the errors of all that failed. -/
def both [Combine ε] (v : Validation ε α) (w : Validation ε β) : Validation ε (α × β) :=
  match v, w with
  | success a, success b => success (a, b)
  | failure d, failure e => failure (combine d e)
  | failure d, success _ => failure d
  | success _, failure e => failure e

/-- Independent validations: all values in order, or all errors merged in order. -/
def all [Combine ε] (vs : List (Validation ε α)) : Validation ε (List α) :=
  match vs.filterMap error? with
  | [] => success (vs.filterMap value?)
  | e :: es => failure (Combine.merge e es)

end Validation
end Assay
