import Assay.Issue
import Assay.NonEmptyList

/-!
# Diagnostics

All issues of one rejected input, in the order in which they were found. There is always
at least one.
-/

namespace Assay

/-- The issues of a rejected input. -/
structure Diagnostics where
  issues : NonEmptyList Issue
deriving DecidableEq

namespace Diagnostics

/-- Diagnostics of a single issue. -/
def single (issue : Issue) : Diagnostics := ⟨.singleton issue⟩

/-- Diagnostics of a list of issues, unless it is empty. -/
def ofList? (issues : List Issue) : Option Diagnostics :=
  (NonEmptyList.ofList? issues).map Diagnostics.mk

/-- The issues in order. -/
def toList (d : Diagnostics) : List Issue := d.issues.toList

/-- The issue found first. -/
def first (d : Diagnostics) : Issue := d.issues.head

def length (d : Diagnostics) : Nat := d.issues.length

/-- The messages in order. -/
def messages (d : Diagnostics) : List String := d.toList.map Issue.message

/-- The diagnostics as seen from one step further out. -/
def under (segment : PathSegment) (d : Diagnostics) : Diagnostics :=
  ⟨d.issues.map (Issue.under segment)⟩

/-- The issues of both, those of the first in front. -/
def append (d e : Diagnostics) : Diagnostics := ⟨d.issues.append e.issues⟩

/-- The lines that report an issue: its message and, unless it is at the root, its place. -/
def issueLines (issue : Issue) : List String :=
  s!"✖ {issue.message}" ::
    (if issue.path.isEmpty then [] else [s!"  → at {issue.path.text}"])

/-- A report of all issues for people. -/
def pretty (d : Diagnostics) : String :=
  "\n".intercalate (d.toList.flatMap issueLines)

@[simp] theorem toList_single (issue : Issue) : (single issue).toList = [issue] := rfl

@[simp] theorem toList_under (segment : PathSegment) (d : Diagnostics) :
    (d.under segment).toList = d.toList.map (Issue.under segment) := rfl

@[simp] theorem toList_append (d e : Diagnostics) :
    (d.append e).toList = d.toList ++ e.toList := rfl

/-- Diagnostics are determined by their issues. -/
theorem toList_inj {d e : Diagnostics} : d.toList = e.toList ↔ d = e := by
  cases d; cases e; simp [toList, NonEmptyList.toList_inj]

theorem append_assoc (d e f : Diagnostics) : (d.append e).append f = d.append (e.append f) := by
  simp [← toList_inj]

instance : Combine Diagnostics := ⟨append, append_assoc⟩

@[simp] theorem toList_combine (d e : Diagnostics) :
    (combine d e).toList = d.toList ++ e.toList := rfl

end Diagnostics
end Assay
