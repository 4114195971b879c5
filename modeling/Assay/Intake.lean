import Assay.Refinement

/-!
# Intakes

An intake is a refinement in use: it takes in values one after the other and remembers the
last one that was accepted.
-/

namespace Assay

/-- A refinement in use, with the value that was accepted last. -/
structure Intake (ε : Type) where
  refinement : Refinement ε
  last : Option (Branded Output)

namespace Intake

variable {ε : Type}

/-- The intake after an outcome: an accepted value replaces the last one. -/
def after (intake : Intake ε) : Validation ε (Branded Output) → Intake ε
  | .success value => { intake with last := some value }
  | .failure _ => intake

/-- Take in an input. -/
def create (intake : Intake ε) (input : Json) : Validation ε (Branded Output) :=
  intake.refinement.create input

/-- Check the last value once more, if there is one. -/
def recreate (intake : Intake ε) : Option (Validation ε (Branded Output)) :=
  intake.last.map fun value => intake.refinement.recreate value.value

/-- Take in the value at the beginning of a JSON text; `none` if the text is no JSON. -/
def createFromText (intake : Intake ε) (text : String) :
    Option (Validation ε (Branded Output)) :=
  intake.refinement.createFromText text

/-- Take in a value without any check. -/
def trust (intake : Intake ε) (input : Json) : Validation ε (Branded Output) :=
  .success ⟨intake.refinement.tag, .ofJson input⟩

end Intake
end Assay
