import Assay.Diagnostics
import Assay.Validation
import Assay.Pattern.Reader
import Assay.Pattern.Matcher
import Assay.Pattern.Formats
import Assay.Text.Casing
import Assay.Text.Blank

/-!
# String rules

A string rule first brings a string into its canonical form by its transforms, in the order
in which they were added, and then runs every check on that form. Each violated check is
one issue.
-/

namespace Assay

/-- A step on the way to the canonical form of a string. -/
inductive StringTransform where
  | trim
  | lowercase
  | uppercase
deriving DecidableEq

/-- A string without the blanks at both ends. One that would not be shorter is kept as it is. -/
def trimString (s : String) : String :=
  let trimmed := String.ofList (trim s.toList)
  if trimmed.utf8ByteSize = s.utf8ByteSize then s else trimmed

/-- Nothing is taken away from a string that stays as long as it is. -/
theorem ofList_trim_of_utf8ByteSize {s : String}
    (h : (String.ofList (trim s.toList)).utf8ByteSize = s.utf8ByteSize) :
    String.ofList (trim s.toList) = s := by
  obtain ⟨front, behind, htext⟩ := exists_trim s.toList
  have hs : String.ofList front ++ String.ofList (trim s.toList) ++ String.ofList behind = s := by
    rw [← String.ofList_append, ← String.ofList_append, htext, String.ofList_toList]
  have hsize := congrArg String.utf8ByteSize hs
  rw [String.utf8ByteSize_append, String.utf8ByteSize_append, h] at hsize
  have hfront : String.ofList front = "" := String.utf8ByteSize_eq_zero_iff.1 (by omega)
  have hbehind : String.ofList behind = "" := String.utf8ByteSize_eq_zero_iff.1 (by omega)
  rwa [hfront, hbehind, String.empty_append, String.append_empty] at hs

/-- So the blanks at both ends are gone also when the string is kept. -/
theorem trimString_eq (s : String) : trimString s = String.ofList (trim s.toList) := by
  simp only [trimString]
  split
  · next h => exact (ofList_trim_of_utf8ByteSize h).symm
  · rfl

/-- The string after a step. -/
def StringTransform.apply : StringTransform → String → String
  | trim, s => trimString s
  | lowercase, s => String.ofList (toLower s.toList)
  | uppercase, s => String.ofList (toUpper s.toList)

/-- Whether a list of characters occurs in another one without gaps. -/
def occursIn (needle : List Char) : List Char → Bool
  | [] => needle.isEmpty
  | c :: rest => needle.isPrefixOf (c :: rest) || occursIn needle rest

/-- A condition on the canonical form of a string. Lengths count characters. -/
inductive StringCheck where
  | nonEmpty
  | minLength (least : Nat)
  | maxLength (greatest : Nat)
  | length (exact : Nat)
  | email
  | uuid
  | startsWith (start : String)
  | endsWith (finish : String)
  | includes (needle : String)
  | pattern (regex : Regex)
deriving DecidableEq

namespace StringCheck

/-- Whether a string meets the condition. -/
def holds (check : StringCheck) (s : String) : Bool :=
  match check with
  | nonEmpty => s.length != 0
  | minLength least => least ≤ s.length
  | maxLength greatest => s.length ≤ greatest
  | length exact => s.length = exact
  | email => Pattern.email.found s.toList
  | uuid => Pattern.uuid.found s.toList
  | startsWith start => start.toList.isPrefixOf s.toList
  | endsWith finish => finish.toList.isSuffixOf s.toList
  | includes needle => occursIn needle.toList s.toList
  | pattern regex => regex.pattern.found s.toList

/-- The string is shorter than a bound that it may reach. -/
def tooShort (least : Nat) (message : String) : Issue :=
  .atRoot (.tooSmall (toString least) true) message

/-- The string is longer than a bound that it may reach. -/
def tooLong (greatest : Nat) (message : String) : Issue :=
  .atRoot (.tooBig (toString greatest) true) message

/-- The string does not have the format. -/
def wrongFormat (format : StringFormat) (message : String) : Issue :=
  .atRoot (.invalidFormat format) message

/-- The issue that reports a violation of the condition by a string. -/
def violation (check : StringCheck) (s : String) : Issue :=
  match check with
  | nonEmpty => tooShort 1 "String must not be empty"
  | minLength least =>
    tooShort least s!"Too small: expected string to have >={least} characters"
  | maxLength greatest =>
    tooLong greatest s!"Too big: expected string to have <={greatest} characters"
  | length exact =>
    if s.length < exact then
      tooShort exact s!"Too small: expected string to have exactly {exact} characters"
    else tooLong exact s!"Too big: expected string to have exactly {exact} characters"
  | email => wrongFormat .email "Invalid email address"
  | uuid => wrongFormat .uuid "Invalid UUID"
  | startsWith start =>
    wrongFormat .startsWith s!"Invalid string: must start with {quote start}"
  | endsWith finish => wrongFormat .endsWith s!"Invalid string: must end with {quote finish}"
  | includes needle => wrongFormat .includes s!"Invalid string: must include {quote needle}"
  | pattern regex =>
    wrongFormat .regex s!"Invalid string: must match pattern /{regex.source}/"

/-- The issue of a string with a condition, if it violates it. -/
def issue? (check : StringCheck) (s : String) : Option Issue :=
  if check.holds s then none else some (check.violation s)

end StringCheck

/-- A call that extends a string rule. -/
inductive StringCall where
  | transform (transform : StringTransform)
  | check (check : StringCheck)
deriving DecidableEq

/-- A rule for strings. -/
structure StringRule where
  transforms : List StringTransform
  checks : List StringCheck
deriving DecidableEq, Inhabited

namespace StringRule

/-- The rule that accepts every string. -/
def any : StringRule := ⟨[], []⟩

/-- The rule extended by a call. -/
def call (rule : StringRule) : StringCall → StringRule
  | .transform transform => { rule with transforms := rule.transforms ++ [transform] }
  | .check check => { rule with checks := rule.checks ++ [check] }

/-- The rule that a chain of calls makes. -/
def ofCalls (calls : List StringCall) : StringRule := calls.foldl call any

/-- The canonical form of a string. -/
def canonical (rule : StringRule) (s : String) : String :=
  rule.transforms.foldl (fun s transform => transform.apply s) s

/-- The issues of a string in canonical form, in the order of the checks. -/
def issues (rule : StringRule) (s : String) : List Issue := rule.checks.filterMap (·.issue? s)

/-- Accept a string in its canonical form, or report every check that it violates. -/
def parse (rule : StringRule) : Json → Validation Diagnostics String
  | .string raw =>
    let s := rule.canonical raw
    match Diagnostics.ofList? (rule.issues s) with
    | some diagnostics => .failure diagnostics
    | none => .success s
  | input => .failure (.single (.invalidType "string" input))

end StringRule
end Assay
