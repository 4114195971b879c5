import Assay.Number.Literal

/-!
# Messages with a place

The error of reading a text tells the line and the column that it is about, when they are
known. A message that already ends in such a place keeps it as its own: it is written in
plain numbers, and left out when the line is zero, since lines are counted from one.
-/

namespace Assay

/-- A message with the place in a text that it is about; the line zero stands for none. -/
structure Located where
  message : String
  line : Nat
  column : Nat
deriving DecidableEq

/-- What stands before and behind the last occurrence of a mark. -/
def splitLast? (mark : List Char) : List Char → Option (List Char × List Char)
  | [] => none
  | c :: rest =>
    match splitLast? mark rest with
    | some (before, behind) => some (c :: before, behind)
    | none =>
      if mark.isPrefixOf (c :: rest) then some ([], (c :: rest).drop mark.length) else none

/-- A number in decimal digits that fits into a 64-bit word, at the beginning of a text. -/
def readWord? (cs : List Char) : Option (Nat × List Char) :=
  match spanDigits cs with
  | ([], _) => none
  | (digits, rest) =>
    if digitsValue digits < 18446744073709551616 then some (digitsValue digits, rest) else none

namespace Located

/-- The words in front of a line number. -/
def lineMark : List Char := " at line ".toList

/-- The words between a line number and a column number. -/
def columnMark : List Char := " column ".toList

/-- The line and the column that a text consists of. -/
def readPlace? (cs : List Char) : Option (Nat × Nat) :=
  match readWord? cs with
  | none => none
  | some (line, rest) =>
    if columnMark.isPrefixOf rest then
      match readWord? (rest.drop columnMark.length) with
      | some (column, []) => some (line, column)
      | _ => none
    else none

/-- A message, with the place that it ends in. -/
def ofMessage (message : String) : Located :=
  let placed : Option Located := do
    let (before, behind) ← splitLast? lineMark message.toList
    let (line, column) ← readPlace? behind
    return ⟨String.ofList before, line, column⟩
  placed.getD ⟨message, 0, 0⟩

/-- The message with its place, if there is one. -/
def text (e : Located) : String :=
  if e.line = 0 then e.message else s!"{e.message} at line {e.line} column {e.column}"

end Located
end Assay
