import Assay.Text.Ranges
import Assay.Text.HiddenTable

/-!
# Quoted text

A text between double quotes, in which the quote, the backslash and every character without
a visible shape of its own are escaped. It is how keys and strings appear in messages, in
paths and in developer reports.
-/

namespace Assay

/-- Whether a character is shown as it is: it is printable and does not combine with the
character before it. -/
def isShown (c : Char) : Bool :=
  !inRanges c.toNat combiningRanges && !inRanges c.toNat hiddenRanges

/-- A character inside quotes. -/
def quoteChar (c : Char) : List Char :=
  match c with
  | '"' => ['\\', '"']
  | '\\' => ['\\', '\\']
  | '\n' => ['\\', 'n']
  | '\r' => ['\\', 'r']
  | '\t' => ['\\', 't']
  | '\x00' => ['\\', '0']
  | c =>
    if isShown c then [c]
    else '\\' :: 'u' :: '\x7b' :: (Nat.toDigits 16 c.toNat ++ ['\x7d'])

/-- A text between quotes. -/
def quoteChars (cs : List Char) : List Char := '"' :: (cs.flatMap quoteChar ++ ['"'])

/-- A string between quotes. -/
def quote (s : String) : String := String.ofList (quoteChars s.toList)

end Assay
