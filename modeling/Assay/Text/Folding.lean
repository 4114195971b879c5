import Assay.Text.Casing
import Assay.Text.FoldTable

/-!
# Ignoring case

Two characters agree up to case when they fold to the same character.
-/

namespace Assay

/-- The code point that stands for a code point when case is ignored. -/
def foldCode (n : Nat) : Nat := CaseRow.apply n foldRows

/-- The code points that a row folds to `n`. -/
def CaseRow.sources (row : CaseRow) (n : Nat) : List Nat :=
  let m := row.first + (n - row.target)
  if row.target ≤ n ∧ row.apply? m = some n then [m] else []

/-- All code points that agree with `n` up to case. -/
def caseVariants (n : Nat) : List Nat :=
  let folded := foldCode n
  folded :: foldRows.flatMap (·.sources folded)

end Assay
