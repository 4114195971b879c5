import Assay.Rule.Describe
import Assay.Json.Reader
import Assay.Located

/-!
# Refinements

A refinement is a refined type: its tag, the rule that its values satisfy, and the error
that it reports for a rejected input. Its values are made by `create` and its relatives,
which accept any input and never go wrong otherwise than by returning that error.
-/

namespace Assay

/-- The error of a refinement that does not choose one: the diagnostics, whose report is the
message. -/
structure RefinementError where
  diagnostics : Diagnostics
deriving DecidableEq

/-- The message: every violation, one after the other. -/
def RefinementError.message (e : RefinementError) : String := e.diagnostics.pretty

instance : Inspect RefinementError where
  inspect e := Inspect.record "RefinementError"
    [("message", inspect e.message), ("diagnostics", inspect e.diagnostics)]

/-- A refined type. -/
structure Refinement (ε : Type) where
  tag : Tag
  rule : Rule
  /-- The error for a rejected input, which is passed as it was given. -/
  onReject : Json → Diagnostics → ε

namespace Refinement

variable {ε : Type}

/-- The refinement of a rule that reports the diagnostics. -/
def ofRule (tag : Tag) (rule : Rule) : Refinement RefinementError :=
  ⟨tag, rule, fun _ diagnostics => ⟨diagnostics⟩⟩

/-- The rule with the tag, for use inside of other rules. -/
def brandedRule (r : Refinement ε) : Rule := .brand r.tag r.rule

/-- A value of the refined type, or the error for a rejected input. -/
def create (r : Refinement ε) (input : Json) : Validation ε (Branded Output) :=
  ((r.rule.parse input).map (Branded.mk r.tag)).mapError (r.onReject input)

/-- Whether an input is accepted. -/
def isValid (r : Refinement ε) (input : Json) : Bool := (r.rule.parse input).isSuccess

/-- A value checked once more, after it has been written as JSON; a value without written
form counts as null. -/
def recreate (r : Refinement ε) (value : Output) : Validation ε (Branded Output) :=
  r.create (value.toJson.toOption.getD .null)

/-- A value read from the beginning of a JSON text; `none` if the text is no JSON. -/
def createFromText (r : Refinement ε) (text : String) :
    Option (Validation ε (Branded Output)) :=
  (Json.readFirst? text).map fun (input, _) => r.create input

/-- How the refinement is built, under the name of its error. -/
def report (r : Refinement ε) (errorName : String) : String :=
  Inspect.record "Refinement"
    [("tag", inspect r.tag.name), ("rule", inspect r.rule.describe),
     ("error", inspect errorName)]

end Refinement

/-- Ways to report a rejection. -/
inductive Reporter where
  | diagnostics
  /-- The input and the first message. -/
  | firstMessage
  /-- The input and the number of issues. -/
  | issueCount
  /-- The codes of the issues. -/
  | codes
deriving DecidableEq

/-- The errors that reporters make. -/
inductive Rejection where
  | diagnosed (error : RefinementError)
  | text (words : String)
  | codes (names : List String)
deriving DecidableEq

namespace Rejection

/-- The error as a message. -/
def message : Rejection → String
  | .diagnosed error => error.message
  | .text words => words
  | .codes names => ",".intercalate names

/-- The error as the message of a failed attempt to read a text. -/
def readingMessage (e : Rejection) : String := (Located.ofMessage e.message).text

end Rejection

instance : Inspect Rejection where
  inspect
    | .diagnosed error => inspect error
    | .text words => inspect words
    | .codes names => Inspect.call "CodeList" [inspect names]

/-- The error that a reporter makes of a rejected input and its diagnostics. -/
def Reporter.reject (reporter : Reporter) (input : Json) (d : Diagnostics) : Rejection :=
  match reporter with
  | diagnostics => .diagnosed ⟨d⟩
  | firstMessage => .text (input.text ++ " rejected: " ++ d.first.message)
  | issueCount => .text (input.text ++ s!" ({d.length} issues)")
  | codes => .codes (d.toList.map fun issue => inspect issue.code)

end Assay
