import Assay.Json.Basic
import Assay.Number.Style

/-!
# JSON text

The text of a value: no blanks, members in the order in which the object holds them, and
only those characters escaped that have to be.
-/

namespace Assay

/-- A digit below sixteen, in lower case. -/
def hexDigit (n : Nat) : Char := Nat.digitChar n

namespace Json

/-- A character inside a quoted JSON string. -/
def escapeChar (c : Char) : List Char :=
  match c with
  | '"' => ['\\', '"']
  | '\\' => ['\\', '\\']
  | '\n' => ['\\', 'n']
  | '\r' => ['\\', 'r']
  | '\t' => ['\\', 't']
  | '\x08' => ['\\', 'b']
  | '\x0c' => ['\\', 'f']
  | c =>
    if c.toNat < 0x20 then
      ['\\', 'u', '0', '0', hexDigit (c.toNat / 16), hexDigit (c.toNat % 16)]
    else [c]

/-- A string as a quoted JSON string. -/
def quoteChars (s : String) : List Char := '"' :: (s.toList.flatMap escapeChar ++ ['"'])

/-- A number: digits alone for a whole number, always a point or an exponent for a double. -/
def numberText : Number → String
  | .whole n _ => toString n
  | .real x _ => NumberStyle.wire.text x

mutual

/-- The characters of a value's text. -/
def chars : Json → List Char
  | null => "null".toList
  | boolean true => "true".toList
  | boolean false => "false".toList
  | number n => (numberText n).toList
  | string s => quoteChars s
  | array items => '[' :: itemsChars items
  | object members => '\x7b' :: membersChars members

/-- The items of an array, separated by commas, with the closing bracket. -/
def itemsChars : List Json → List Char
  | [] => [']']
  | [item] => chars item ++ [']']
  | item :: rest => chars item ++ ',' :: itemsChars rest

/-- The members of an object, separated by commas, with the closing brace. -/
def membersChars : List (String × Json) → List Char
  | [] => ['\x7d']
  | [(key, value)] => quoteChars key ++ ':' :: (chars value ++ ['\x7d'])
  | (key, value) :: rest => quoteChars key ++ ':' :: (chars value ++ ',' :: membersChars rest)

end

/-- The text of a value. -/
def text (value : Json) : String := String.ofList value.chars

end Json
end Assay
