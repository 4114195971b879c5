import Assay.Text.Repertoire
import Assay.Text.Blank

/-!
# Sets of characters

The sets that a pattern names, built from ranges by the operations of sets. The members are
given by `contains`; every operation is read off it.
-/

namespace Assay

/-- A set of characters. -/
inductive CharSet where
  | empty
  /-- The characters between two code points, both included. -/
  | range (low high : Nat)
  /-- The characters of ranges in ascending order. -/
  | listed (ranges : List (Nat × Nat))
  | union (a b : CharSet)
  | inter (a b : CharSet)
  | diff (a b : CharSet)
  | symmDiff (a b : CharSet)
  | compl (a : CharSet)
  /-- The characters that agree up to case with one of the set. -/
  | anyCase (repertoire : Repertoire) (a : CharSet)
deriving DecidableEq, Inhabited

namespace CharSet

/-- Whether the set contains the character with a code point. -/
def containsCode : CharSet → Nat → Bool
  | empty, _ => false
  | range low high, n => low ≤ n && n ≤ high
  | listed ranges, n => inRanges n ranges
  | union a b, n => a.containsCode n || b.containsCode n
  | inter a b, n => a.containsCode n && b.containsCode n
  | diff a b, n => a.containsCode n && !b.containsCode n
  | symmDiff a b, n => a.containsCode n != b.containsCode n
  | compl a, n => !a.containsCode n
  | anyCase repertoire a, n => (repertoire.caseVariants n).any fun m => a.containsCode m

/-- Whether the set contains a character. -/
def contains (set : CharSet) (c : Char) : Bool := set.containsCode c.toNat

/-- The set of one character. -/
def single (c : Char) : CharSet := range c.toNat c.toNat

/-- The characters that agree with one up to case. -/
def variants (repertoire : Repertoire) (c : Char) : CharSet :=
  (repertoire.caseVariants c.toNat).foldr (fun n set => union (range n n) set) empty

/-- The characters of ranges, each given by its ends. -/
def ofRanges (ranges : List (Char × Char)) : CharSet :=
  ranges.foldr (fun (low, high) set => union (range low.toNat high.toNat) set) empty

/-- All members of several sets. -/
def unions (sets : List CharSet) : CharSet := sets.foldr union empty

/-- All characters. -/
def all : CharSet := compl empty

/-- All characters but the line feed, and but the carriage return where that ends a line
too. -/
def withinLine (returns : Bool) : CharSet :=
  compl (if returns then union (single '\n') (single '\r') else single '\n')

/-- The classes of ASCII characters that have a name. -/
def ascii? : String → Option CharSet
  | "alnum" => some (ofRanges [('0', '9'), ('A', 'Z'), ('a', 'z')])
  | "alpha" => some (ofRanges [('A', 'Z'), ('a', 'z')])
  | "ascii" => some (ofRanges [('\x00', '\x7f')])
  | "blank" => some (ofRanges [('\t', '\t'), (' ', ' ')])
  | "cntrl" => some (ofRanges [('\x00', '\x1f'), ('\x7f', '\x7f')])
  | "digit" => some (ofRanges [('0', '9')])
  | "graph" => some (ofRanges [('!', '~')])
  | "lower" => some (ofRanges [('a', 'z')])
  | "print" => some (ofRanges [(' ', '~')])
  | "punct" => some (ofRanges [('!', '/'), (':', '@'), ('[', '\x60'), ('\x7b', '~')])
  | "space" => some (ofRanges [('\t', '\r'), (' ', ' ')])
  | "upper" => some (ofRanges [('A', 'Z')])
  | "word" => some (ofRanges [('0', '9'), ('A', 'Z'), ('_', '_'), ('a', 'z')])
  | "xdigit" => some (ofRanges [('0', '9'), ('A', 'F'), ('a', 'f')])
  | _ => none

/-- The decimal digits. -/
def digit : Repertoire → CharSet
  | .unicode => listed digitRanges
  | .ascii => ofRanges [('0', '9')]

/-- The characters of words. -/
def word : Repertoire → CharSet
  | .unicode => listed wordRanges
  | .ascii => ofRanges [('0', '9'), ('A', 'Z'), ('_', '_'), ('a', 'z')]

/-- The blanks. -/
def blank : Repertoire → CharSet
  | .unicode => listed blankRanges
  | .ascii => ofRanges [('\t', '\r'), (' ', ' ')]

end CharSet
end Assay
