import Assay.Pattern.CharSet

/-!
# Patterns

Regular expressions over characters, with assertions about a position: the ends of the
text, the ends of a line and the boundaries of words.
-/

namespace Assay

/-- How a position lies to the words of a text. -/
inductive WordEdge where
  /-- Just one of the two neighbours belongs to a word. -/
  | boundary
  | noBoundary
  | first
  | last
  /-- The character before does not belong to a word. -/
  | noneBefore
  /-- The character after does not belong to a word. -/
  | noneAfter
deriving DecidableEq

/-- A condition on a position in a text. -/
inductive Assertion where
  | textStart
  | textEnd
  /-- Lines are ended by line feeds, and where carriage returns end them too, a carriage
  return and the line feed after it are one end. -/
  | lineStart (returns : Bool)
  | lineEnd (returns : Bool)
  | word (edge : WordEdge) (repertoire : Repertoire)
deriving DecidableEq

/-- A regular expression. -/
inductive Pattern where
  | empty
  | chars (set : CharSet)
  | assert (assertion : Assertion)
  | seq (first second : Pattern)
  | alt (first second : Pattern)
  /-- A fixed number of times. -/
  | times (body : Pattern) (count : Nat)
  /-- Any number of times that is not greater. -/
  | upTo (body : Pattern) (count : Nat)
  /-- Any number of times. -/
  | star (body : Pattern)
deriving DecidableEq, Inhabited

namespace Pattern

/-- One character. -/
def char (c : Char) : Pattern := chars (.single c)

/-- One after the other. -/
def seqs (ps : List Pattern) : Pattern := ps.foldr seq empty

/-- At least once. -/
def plus (p : Pattern) : Pattern := seq p (star p)

/-- At most once. -/
def option (p : Pattern) : Pattern := upTo p 1

/-- At least `low` times, and at most `high` times if that is given. -/
def counted (p : Pattern) (low : Nat) (high : Option Nat) : Pattern :=
  match high with
  | none => seq (p.times low) (star p)
  | some high => seq (p.times low) (p.upTo (high - low))

end Pattern
end Assay
