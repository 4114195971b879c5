import Assay.Pattern.Brackets

/-!
# Reading patterns

The notation of patterns: literal characters, sets in brackets, groups, alternatives,
repetitions, assertions, and flags that hold to the end of the group in which they are set.
Which of several repetitions is preferred does not matter for a search, so a question mark
after a repetition has no effect.
-/

namespace Assay

/-- A pattern with the text it was read from. -/
structure Regex where
  source : String
  pattern : Pattern
deriving DecidableEq

namespace Pattern

/-- The decimal digits at the beginning of a text, each with the gap behind it, and the
rest. -/
def spanSpacedDigits (flags : PatternFlags) : (fuel : Nat) → List Char → List Char × List Char
  | fuel + 1, c :: rest =>
    if c.isDigit then
      let (digits, rest) := spanSpacedDigits flags fuel (skipGap flags rest)
      (c :: digits, rest)
    else ([], c :: rest)
  | _, cs => ([], cs)

/-- A decimal number with blanks around it. -/
def readDecimal? (flags : PatternFlags) (cs : List Char) : Option (Nat × List Char) :=
  match spanSpacedDigits flags cs.length (trimStart cs) with
  | ([], _) => none
  | (digits, rest) => some (digitsValue digits, trimStart rest)

/-- The bounds of a counted repetition after its opening brace. -/
def readCount? (flags : PatternFlags) (cs : List Char) :
    Option (Nat × Option Nat × List Char) :=
  match readDecimal? flags (skipGap flags cs) with
  | some (low, '\x7d' :: rest) => some (low, some low, rest)
  | some (low, ',' :: rest) =>
    match skipGap flags rest with
    | '\x7d' :: rest => some (low, none, rest)
    | rest =>
      match readDecimal? flags rest with
      | some (high, '\x7d' :: rest) => if low ≤ high then some (low, some high, rest) else none
      | _ => none
  | _ => none

/-- The rest without the mark of an unpreferred repetition. -/
def skipLazy : List Char → List Char
  | '?' :: rest => rest
  | rest => rest

/-- A pattern with the repetitions that follow it. -/
def readRepeats? (flags : PatternFlags) (p : Pattern) :
    (fuel : Nat) → List Char → Option (Pattern × List Char)
  | 0, cs => some (p, cs)
  | fuel + 1, cs =>
    match skipGap flags cs with
    | '*' :: rest => readRepeats? flags (star p) fuel (skipLazy rest)
    | '+' :: rest => readRepeats? flags (plus p) fuel (skipLazy rest)
    | '?' :: rest => readRepeats? flags (option p) fuel (skipLazy rest)
    | '\x7b' :: rest =>
      match readCount? flags rest with
      | some (low, high, rest) =>
        readRepeats? flags (counted p low high) fuel (skipLazy (skipGap flags rest))
      | none => none
    | cs => some (p, cs)

/-- A pattern that consists of one character, one set or one assertion. -/
def readAtom? (flags : PatternFlags) : List Char → Option (Pattern × List Char)
  | '.' :: rest => some (chars (if flags.dotAll then .all else .withinLine flags.returns), rest)
  | '^' :: rest =>
    some (assert (if flags.multiLine then .lineStart flags.returns else .textStart), rest)
  | '$' :: rest =>
    some (assert (if flags.multiLine then .lineEnd flags.returns else .textEnd), rest)
  | '[' :: rest =>
    (readSet? flags (2 * rest.length + 2) rest).map fun (set, rest) => (chars set, rest)
  | '\\' :: rest =>
    match readClass? flags rest, readAssertion? flags rest with
    | some (set, rest), _ => some (chars set, rest)
    | none, some (assertion, rest) => some (assert assertion, rest)
    | none, none => (readEscape? flags rest).map fun (c, rest) => (chars (flags.single c), rest)
  | '*' :: _ | '+' :: _ | '?' :: _ | '\x7b' :: _ => none
  | c :: rest => some (chars (flags.single c), rest)
  | [] => none

/-- What stands behind an opening parenthesis. -/
inductive GroupStart where
  /-- A group that is read with the flags. -/
  | group (flags : PatternFlags)
  /-- Flags for the rest of the group around them. -/
  | flags (flags : PatternFlags)

/-- The rest behind the name of a group and the bracket that ends it. The signs of an
assertion about what lies behind begin no name. -/
def skipName? (cs : List Char) : Option (List Char) :=
  match cs.span (· != '>') with
  | (first :: _, '>' :: rest) => if first = '=' || first = '!' then none else some rest
  | _ => none

/-- The beginning of a group, after its opening parenthesis. -/
def readGroupStart? (flags : PatternFlags) : List Char → Option (GroupStart × List Char)
  | '?' :: 'P' :: '<' :: rest | '?' :: '<' :: rest =>
    (skipName? rest).map fun rest => (.group flags, rest)
  | '?' :: rest =>
    match readFlags? true flags rest with
    | some (inner, ':' :: rest) => some (.group inner, rest)
    | some (inner, ')' :: rest) => some (.flags inner, rest)
    | _ => none
  | rest => some (.group flags, rest)

/-- The alternatives up to the end of the group, of which the first begins with a pattern
that has been read. -/
def readBranches? (flags : PatternFlags) (current : Pattern) :
    (fuel : Nat) → List Char → Option (Pattern × List Char)
  | 0, _ => none
  | fuel + 1, cs =>
    let repeated (p : Pattern) (rest : List Char) :=
      match readRepeats? flags p rest.length rest with
      | some (p, rest) => readBranches? flags (seq current p) fuel rest
      | none => none
    match skipGap flags cs with
    | [] => some (current, [])
    | ')' :: rest => some (current, ')' :: rest)
    | '|' :: rest =>
      (readBranches? flags empty fuel rest).map fun (p, rest) => (alt current p, rest)
    | '(' :: rest =>
      match readGroupStart? flags (skipGap flags rest) with
      | some (.group inner, rest) =>
        match readBranches? inner empty fuel rest with
        | some (p, ')' :: rest) => repeated p rest
        | _ => none
      | some (.flags inner, rest) => readBranches? inner current fuel rest
      | none => none
    | cs =>
      match readAtom? flags cs with
      | some (p, rest) => repeated p rest
      | none => none

end Pattern

/-- Read a pattern; `none` when the notation is wrong. -/
def Regex.ofSource? (source : String) : Option Regex :=
  match Pattern.readBranches? .none .empty (source.length + 1) source.toList with
  | some (pattern, []) => some ⟨source, pattern⟩
  | _ => none

end Assay
