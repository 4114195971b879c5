import Assay.Pattern.Basic
import Assay.Property.Named
import Assay.Number.Literal

/-!
# Flags and escapes of patterns

The parts of the notation that patterns and sets in brackets have in common: the flags that
change how the rest of a group is read, the gaps that a pattern may be laid out with, and
what stands behind a backslash. Gaps may stand within an escape too, but not between the
backslash and the character after it.
-/

namespace Assay

/-- The flags that change how the rest of a group is read. -/
structure PatternFlags where
  ignoreCase : Bool
  multiLine : Bool
  dotAll : Bool
  /-- Whether blanks and comments between the parts of the notation mean nothing. -/
  spaced : Bool
  /-- Whether carriage returns end lines too. -/
  returns : Bool
  repertoire : Repertoire

namespace PatternFlags

/-- No flag. -/
def none : PatternFlags := ⟨false, false, false, false, false, .unicode⟩

/-- A set as the flags read it. -/
def set (flags : PatternFlags) (set : CharSet) : CharSet :=
  if flags.ignoreCase then .anyCase flags.repertoire set else set

/-- A set or its complement. When case is ignored, the complement excludes every form of a
character. -/
def signedSet (flags : PatternFlags) (negated : Bool) (set : CharSet) : CharSet :=
  if negated then .compl (flags.set set) else flags.set set

/-- The set of one character as the flags read it. -/
def single (flags : PatternFlags) (c : Char) : CharSet :=
  if flags.ignoreCase then .variants flags.repertoire c else .single c

end PatternFlags

namespace Pattern

/-- A text without the blanks and comments at its beginning. -/
def skipBlanks (comment : Bool) : List Char → List Char
  | [] => []
  | c :: rest =>
    if comment then skipBlanks (c != '\n') rest
    else if c = '#' then skipBlanks true rest
    else if isBlank c then skipBlanks false rest
    else c :: rest

/-- A text without the gap at its beginning. -/
def skipGap (flags : PatternFlags) (cs : List Char) : List Char :=
  if flags.spaced then skipBlanks false cs else cs

/-- A number of characters, with gaps before them. -/
def takeSpaced? (flags : PatternFlags) : (count : Nat) → List Char →
    Option (List Char × List Char)
  | 0, cs => some ([], cs)
  | count + 1, cs =>
    match skipGap flags cs with
    | c :: rest => (takeSpaced? flags count rest).map fun (taken, rest) => (c :: taken, rest)
    | [] => none

/-- The characters before a closing brace, without the gaps between them. -/
def takeBraced? (flags : PatternFlags) : (fuel : Nat) → List Char →
    Option (List Char × List Char)
  | 0, _ => none
  | fuel + 1, cs =>
    match skipGap flags cs with
    | '\x7d' :: rest => some ([], rest)
    | c :: rest => (takeBraced? flags fuel rest).map fun (taken, rest) => (c :: taken, rest)
    | [] => none

/-- What stands in braces, after the opening one. -/
def readBraced? (flags : PatternFlags) (cs : List Char) : Option (List Char × List Char) :=
  takeBraced? flags cs.length cs

/-- Flags as they are set by letters, those after a hyphen being cleared, up to the character
that ends them. -/
def readFlags? (value : Bool) (flags : PatternFlags) :
    List Char → Option (PatternFlags × List Char)
  | 'i' :: rest => readFlags? value { flags with ignoreCase := value } rest
  | 'm' :: rest => readFlags? value { flags with multiLine := value } rest
  | 's' :: rest => readFlags? value { flags with dotAll := value } rest
  | 'x' :: rest => readFlags? value { flags with spaced := value } rest
  | 'R' :: rest => readFlags? value { flags with returns := value } rest
  | 'u' :: rest =>
    readFlags? value { flags with repertoire := if value then .unicode else .ascii } rest
  | 'U' :: rest => readFlags? value flags rest
  | '-' :: rest => if value then readFlags? false flags rest else none
  | ':' :: rest => some (flags, ':' :: rest)
  | ')' :: rest => some (flags, ')' :: rest)
  | _ => none

/-- The character with a hexadecimal code. -/
def hexChar? (digits : List Char) : Option Char := do
  let values ← digits.mapM (digitValue? 16)
  let code := values.foldl (fun n d => 16 * n + d) 0
  if !digits.isEmpty && code.isValidChar then some (Char.ofNat code) else none

/-- The character of an escape that is written with hexadecimal digits: in braces, or with a
fixed number of digits. -/
def readCode? (flags : PatternFlags) (count : Nat) (cs : List Char) :
    Option (Char × List Char) :=
  let digits := match skipGap flags cs with
    | '\x7b' :: rest => readBraced? flags rest
    | cs => takeSpaced? flags count cs
  match digits with
  | some (digits, rest) => (hexChar? digits).map fun c => (c, rest)
  | none => none

/-- Whether a backslash before the character only takes away its meaning. -/
def isEscapable (c : Char) : Bool :=
  c.toNat < 0x80 && !c.isAlphanum && c != '<' && c != '>'

/-- The characters with a property, which is named by one letter or in braces. -/
def readProperty? (flags : PatternFlags) (negated : Bool) (cs : List Char) :
    Option (CharSet × List Char) :=
  let name := match skipGap flags cs with
    | '\x7b' :: rest => readBraced? flags rest
    | cs => takeSpaced? flags 1 cs
  match name with
  | some (name, rest) =>
    (CharSet.ofProperty? name).map fun set => (flags.signedSet negated set, rest)
  | none => none

/-- The class that an escape stands for. -/
def readClass? (flags : PatternFlags) : List Char → Option (CharSet × List Char)
  | 'd' :: rest => some (.digit flags.repertoire, rest)
  | 'D' :: rest => some (.compl (.digit flags.repertoire), rest)
  | 'w' :: rest => some (.word flags.repertoire, rest)
  | 'W' :: rest => some (.compl (.word flags.repertoire), rest)
  | 's' :: rest => some (.blank flags.repertoire, rest)
  | 'S' :: rest => some (.compl (.blank flags.repertoire), rest)
  | 'p' :: rest => readProperty? flags false rest
  | 'P' :: rest => readProperty? flags true rest
  | _ => none

/-- The single character that an escape stands for. -/
def readEscape? (flags : PatternFlags) : List Char → Option (Char × List Char)
  | 'n' :: rest => some ('\n', rest)
  | 't' :: rest => some ('\t', rest)
  | 'r' :: rest => some ('\r', rest)
  | 'f' :: rest => some ('\x0c', rest)
  | 'v' :: rest => some ('\x0b', rest)
  | 'a' :: rest => some ('\x07', rest)
  | 'x' :: rest => readCode? flags 2 rest
  | 'u' :: rest => readCode? flags 4 rest
  | 'U' :: rest => readCode? flags 8 rest
  | c :: rest => if isEscapable c then some (c, rest) else none
  | [] => none

/-- How a position lies to a word, as it is named in braces. -/
def readEdge? (flags : PatternFlags) : List Char → Option (WordEdge × List Char)
  | '\x7b' :: rest =>
    match readBraced? flags rest with
    | some (name, rest) =>
      match String.ofList name with
      | "start" => some (.first, rest)
      | "end" => some (.last, rest)
      | "start-half" => some (.noneBefore, rest)
      | "end-half" => some (.noneAfter, rest)
      | _ => none
    | none => none
  | _ => none

/-- The assertion that an escape stands for. Braces that name no edge of a word are left: a
count may stand in them. -/
def readAssertion? (flags : PatternFlags) : List Char → Option (Assertion × List Char)
  | 'b' :: rest =>
    let (edge, rest) := (readEdge? flags rest).getD (.boundary, rest)
    some (.word edge flags.repertoire, rest)
  | 'B' :: rest => some (.word .noBoundary flags.repertoire, rest)
  | '<' :: rest => some (.word .first flags.repertoire, rest)
  | '>' :: rest => some (.word .last flags.repertoire, rest)
  | 'A' :: rest => some (.textStart, rest)
  | 'z' :: rest => some (.textEnd, rest)
  | _ => none

end Pattern
end Assay
