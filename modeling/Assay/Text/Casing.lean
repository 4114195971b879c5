import Assay.Text.Ranges
import Assay.Text.CaseTable

/-!
# Upper and lower case

The full case mappings of a text. A character may become several. The capital sigma has two
lower case forms: the final one stands at the end of a word, that is, after a letter and not
before one, where characters that carry no case of their own are passed over.
-/

namespace Assay

/-- The form of a code point in a row, if the row covers it. -/
def CaseRow.apply? (row : CaseRow) (n : Nat) : Option Nat :=
  if row.first ≤ n ∧ n ≤ row.last ∧ (n - row.first) % row.step = 0 then
    some (row.target + (n - row.first))
  else none

/-- The form of a code point in the first row that covers it, or the code point itself. -/
def CaseRow.apply (n : Nat) : List CaseRow → Nat
  | [] => n
  | row :: rest =>
    if n < row.first then n
    else match row.apply? n with
      | some m => m
      | none => CaseRow.apply n rest

/-- The form of a character according to a table of rows and a table of longer forms. -/
def caseForm (rows : List CaseRow) (long : List (Nat × List Nat)) (c : Char) : List Char :=
  match long.lookup c.toNat with
  | some form => form.map Char.ofNat
  | none => [Char.ofNat (CaseRow.apply c.toNat rows)]

/-- The lower case form of a character on its own. -/
def lowerChar (c : Char) : List Char := caseForm lowerRows lowerLong c

/-- The upper case form of a character. -/
def upperChar (c : Char) : List Char := caseForm upperRows upperLong c

def isCased (c : Char) : Bool := inRanges c.toNat casedRanges

def isCaseIgnorable (c : Char) : Bool := inRanges c.toNat caseIgnorableRanges

/-- Whether the nearest character that counts has a case. -/
def meetsCased (cs : List Char) : Bool :=
  match cs.dropWhile isCaseIgnorable with
  | c :: _ => isCased c
  | [] => false

/-- The lower case form of a capital sigma between the characters before it, nearest first,
and those after it. -/
def lowerSigma (before after : List Char) : Char :=
  if meetsCased before && !meetsCased after then 'ς' else 'σ'

/-- The lower case form of a text that follows other characters, nearest first. -/
def lowerAfter (before : List Char) : List Char → List Char
  | [] => []
  | c :: rest =>
    (if c = 'Σ' then [lowerSigma before rest] else lowerChar c) ++ lowerAfter (c :: before) rest

/-- A text in lower case. -/
def toLower (cs : List Char) : List Char := lowerAfter [] cs

/-- A text in upper case. -/
def toUpper (cs : List Char) : List Char := cs.flatMap upperChar

end Assay
