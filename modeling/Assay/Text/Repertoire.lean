import Assay.Text.Word
import Assay.Text.Folding

/-!
# Repertoires

The classes of characters, the boundaries of words and the two cases of a letter are those of
all scripts, or those of ASCII alone, by which a character beyond ASCII belongs to no word and
has no other case.
-/

namespace Assay

/-- The characters that are told apart by class and case. -/
inductive Repertoire where
  | unicode
  | ascii
deriving DecidableEq, Inhabited

namespace Repertoire

/-- Whether a character belongs to a word. -/
def isWordChar : Repertoire → Char → Bool
  | unicode, c => Assay.isWordChar c
  | ascii, c => c.isAlphanum || c = '_'

/-- The code points that agree with `n` up to the case of the letters of ASCII. -/
def asciiVariants (n : Nat) : List Nat :=
  if (Char.ofNat n).isUpper then [n, n + 0x20]
  else if (Char.ofNat n).isLower then [n, n - 0x20]
  else [n]

/-- The code points that agree with `n` up to case. -/
def caseVariants : Repertoire → Nat → List Nat
  | unicode, n => Assay.caseVariants n
  | ascii, n => asciiVariants n

end Repertoire
end Assay
