import Assay.Json.Basic
import Assay.Text.Quoted

/-!
# Issues

An issue is one violated constraint: a code for programs, a message for people, and the
path to the place in the input at which it was found.
-/

namespace Assay

/-- One step into an input: to a member of an object or to an item of an array. -/
inductive PathSegment where
  | key (name : String)
  | index (position : Nat)
deriving DecidableEq

/-- The way from the root of an input to a place in it, outermost step first. -/
abbrev Path := List PathSegment

/-- Whether a key needs no quotes in a path: it starts with an ASCII letter, `_` or `$` and
goes on with those and digits. -/
def isIdentifier (key : List Char) : Bool :=
  match key with
  | [] => false
  | c :: rest =>
    (c.isAlpha || c = '_' || c = '$') && rest.all fun c => c.isAlphanum || c = '_' || c = '$'

/-- A step as it is written after other steps, or at the beginning of a path. -/
def PathSegment.chars (first : Bool) : PathSegment → List Char
  | .key name =>
    if isIdentifier name.toList then
      if first then name.toList else '.' :: name.toList
    else '[' :: (quoteChars name.toList ++ [']'])
  | .index position => '[' :: (Nat.toDigits 10 position ++ [']'])

/-- The characters of a path. -/
def Path.chars : Path → List Char
  | [] => []
  | segment :: rest => segment.chars true ++ rest.flatMap (PathSegment.chars false)

/-- A path as text, like `user.emails[0]`; keys that are no identifiers are quoted in
brackets. -/
def Path.text (path : Path) : String := String.ofList path.chars

/-- The formats that a string can be required to have. -/
inductive StringFormat where
  | email
  | uuid
  | startsWith
  | endsWith
  | includes
  | regex
deriving DecidableEq

namespace StringFormat

def name : StringFormat → String
  | email => "email"
  | uuid => "uuid"
  | startsWith => "starts_with"
  | endsWith => "ends_with"
  | includes => "includes"
  | regex => "regex"

end StringFormat

/-- What kind of constraint was violated. Bounds and divisors are kept as they are shown. -/
inductive IssueCode where
  | invalidType (expected : String) (received : Kind)
  | tooSmall (minimum : String) (inclusive : Bool)
  | tooBig (maximum : String) (inclusive : Bool)
  | invalidFormat (format : StringFormat)
  | notInteger
  | notMultipleOf (divisor : String)
  | unrecognizedKey (key : String)
  | custom
deriving DecidableEq

/-- A violated constraint. -/
structure Issue where
  code : IssueCode
  message : String
  path : Path
deriving DecidableEq

namespace Issue

/-- An issue at the root of the input. -/
def atRoot (code : IssueCode) (message : String) : Issue := ⟨code, message, []⟩

/-- The input is not of the expected kind. -/
def invalidType (expected : String) (input : Json) : Issue :=
  let received := input.kind
  atRoot (.invalidType expected received)
    s!"Invalid input: expected {expected}, received {received.name}"

/-- A constraint of the caller was violated. -/
def custom (message : String) : Issue := atRoot .custom message

/-- The issue as seen from one step further out. -/
def under (segment : PathSegment) (issue : Issue) : Issue :=
  { issue with path := segment :: issue.path }

/-- The message with the place, unless that is the root. -/
def text (issue : Issue) : String :=
  if issue.path.isEmpty then issue.message else s!"{issue.message} (at {issue.path.text})"

end Issue
end Assay
