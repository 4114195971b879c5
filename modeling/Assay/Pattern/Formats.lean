import Assay.Pattern.Basic

/-!
# Named formats

The patterns of the two formats that a rule knows by name, each with the text that it is written
as. Both are anchored at the two ends of the text.
-/

namespace Assay.Pattern

/-- Letters and digits of ASCII. -/
def asciiAlphanumeric : List (Char × Char) := [('A', 'Z'), ('a', 'z'), ('0', '9')]

/-- A character of the part before the `@`. -/
def mailboxChar : Pattern :=
  chars (.ofRanges (asciiAlphanumeric ++ [('_', '_'), ('\x27', '\x27'), ('+', '+'), ('-', '-')]))

/-- A label of a domain: letters, digits and inner hyphens. -/
def domainLabel : Pattern :=
  let outer := chars (.ofRanges asciiAlphanumeric)
  let inner := chars (.ofRanges (asciiAlphanumeric ++ [('-', '-')]))
  seq outer (option (seq (star inner) outer))

/-- An address: words joined by dots, an `@`, and at least two labels joined by dots, the
last one of two or more letters. -/
def email : Pattern :=
  seqs [assert .textStart, plus mailboxChar, star (seq (char '.') (plus mailboxChar)), char '@',
    plus (seq domainLabel (char '.')),
    counted (chars (.ofRanges [('A', 'Z'), ('a', 'z')])) 2 none, assert .textEnd]

/-- The pattern of an address in the notation of patterns. -/
def emailSource : String :=
  "^[A-Za-z0-9_\x27+\\-]+(?:\\.[A-Za-z0-9_\x27+\\-]+)*@" ++
    "(?:[A-Za-z0-9](?:[A-Za-z0-9\\-]*[A-Za-z0-9])?\\.)+[A-Za-z]\x7b2,\x7d$"

/-- A hexadecimal digit of either case. -/
def hexadecimal : Pattern := chars (.ofRanges [('0', '9'), ('a', 'f'), ('A', 'F')])

/-- A universally unique identifier: groups of 8, 4, 4, 4 and 12 hexadecimal digits, with
hyphens between them. -/
def uuid : Pattern :=
  seqs [assert .textStart, hexadecimal.times 8, char '-', hexadecimal.times 4, char '-',
    hexadecimal.times 4, char '-', hexadecimal.times 4, char '-', hexadecimal.times 12,
    assert .textEnd]

/-- The pattern of an identifier in the notation of patterns. -/
def uuidSource : String :=
  "^[0-9a-fA-F]\x7b8\x7d-[0-9a-fA-F]\x7b4\x7d-[0-9a-fA-F]\x7b4\x7d-" ++
    "[0-9a-fA-F]\x7b4\x7d-[0-9a-fA-F]\x7b12\x7d$"

end Assay.Pattern
