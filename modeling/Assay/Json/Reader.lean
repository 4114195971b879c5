import Assay.Json.Basic

/-!
# Reading JSON

`Json.readFirst?` reads the value at the beginning of a text and `Json.read?` a whole
document. Blanks are the four of the standard, leading zeros and raw control characters
are refused, and so are escapes that leave half of a surrogate pair. A number without
point and exponent is whole as long as it fits; a number too large for a double is
refused. Arrays and objects nest only to a given depth.
-/

namespace Assay.Json

/-- How many arrays and objects may lie inside one another in a document. -/
def depthLimit : Nat := 127

def isBlank (c : Char) : Bool := c = ' ' || c = '\n' || c = '\t' || c = '\r'

def skipBlanks (cs : List Char) : List Char := cs.dropWhile isBlank

/-- The number written by four hexadecimal digits. -/
def hexQuad? (a b c d : Char) : Option Nat := do
  let a ← digitValue? 16 a
  let b ← digitValue? 16 b
  let c ← digitValue? 16 c
  let d ← digitValue? 16 d
  return ((a * 16 + b) * 16 + c) * 16 + d

/-- What a one-letter escape stands for. -/
def shortEscape? : Char → Option Char
  | '"' => some '"'
  | '\\' => some '\\'
  | '/' => some '/'
  | 'b' => some '\x08'
  | 'f' => some '\x0c'
  | 'n' => some '\n'
  | 'r' => some '\r'
  | 't' => some '\t'
  | _ => none

/-- The characters up to the closing quote, and the rest after it. -/
def readString? : List Char → Option (List Char × List Char)
  | [] => none
  | '"' :: rest => some ([], rest)
  | '\\' :: 'u' :: a :: b :: c :: d :: rest =>
    match hexQuad? a b c d with
    | none => none
    | some high =>
      if 0xDC00 ≤ high ∧ high < 0xE000 then none
      else if 0xD800 ≤ high ∧ high < 0xDC00 then
        match rest with
        | '\\' :: 'u' :: e :: f :: g :: h :: rest =>
          match hexQuad? e f g h with
          | none => none
          | some low =>
            if 0xDC00 ≤ low ∧ low < 0xE000 then
              let code := 0x10000 + (high - 0xD800) * 0x400 + (low - 0xDC00)
              (readString? rest).map fun (cs, rest) => (Char.ofNat code :: cs, rest)
            else none
        | _ => none
      else (readString? rest).map fun (cs, rest) => (Char.ofNat high :: cs, rest)
  | '\\' :: c :: rest =>
    match shortEscape? c with
    | none => none
    | some c => (readString? rest).map fun (cs, rest) => (c :: cs, rest)
  | c :: rest =>
    if c.toNat < 0x20 then none
    else (readString? rest).map fun (cs, rest) => (c :: cs, rest)

/-- The digits after a decimal point and what follows; no digit at all is refused. -/
def readPlaces? : List Char → Option (List Char × List Char)
  | '.' :: rest =>
    match spanDigits rest with
    | ([], _) => none
    | (places, rest) => some (places, rest)
  | rest => some ([], rest)

/-- The number with the given digits; a double unless it is a whole number that fits. -/
def mkNumber? (negative : Bool) (whole places : List Char) (marked : Bool) (exponent : Int) :
    Option Json :=
  let magnitude := digitsValue whole
  let n : Int := if negative then -magnitude else magnitude
  let real := ofDouble (Double.ofDecimal negative (digitsValue (whole ++ places))
    (exponent - places.length))
  let value := if marked || (negative && magnitude == 0) then real else (ofInt? n).getD real
  if value.isNull then none else some value

/-- The number at the beginning of a text. -/
def readNumber? (cs : List Char) : Option (Json × List Char) :=
  let (negative, cs) := match cs with
    | '-' :: cs => (true, cs)
    | cs => (false, cs)
  let (whole, rest) := spanDigits cs
  match whole with
  | [] => none
  | '0' :: _ :: _ => none
  | whole => do
    let marked := match rest with
      | c :: _ => c = '.' || c = 'e' || c = 'E'
      | [] => false
    let (places, rest) ← readPlaces? rest
    let (exponent, rest) ← spanExponent rest
    let value ← mkNumber? negative whole places marked exponent
    return (value, rest)

mutual

/-- The value at the beginning of a text, after blanks. -/
def readValue? (depth : Nat) : (fuel : Nat) → List Char → Option (Json × List Char)
  | 0, _ => none
  | fuel + 1, cs =>
    match skipBlanks cs with
    | 'n' :: 'u' :: 'l' :: 'l' :: rest => some (null, rest)
    | 't' :: 'r' :: 'u' :: 'e' :: rest => some (boolean true, rest)
    | 'f' :: 'a' :: 'l' :: 's' :: 'e' :: rest => some (boolean false, rest)
    | '"' :: rest => (readString? rest).map fun (cs, rest) => (string (String.ofList cs), rest)
    | '[' :: rest =>
      if depth = 0 then none
      else match skipBlanks rest with
        | ']' :: rest => some (array [], rest)
        | rest =>
          (readItems? (depth - 1) fuel rest).map fun (items, rest) => (array items, rest)
    | '\x7b' :: rest =>
      if depth = 0 then none
      else match skipBlanks rest with
        | '\x7d' :: rest => some (object [], rest)
        | rest =>
          (readMembers? (depth - 1) fuel rest).map fun (pairs, rest) => (mkObject pairs, rest)
    | cs => readNumber? cs

/-- The remaining items of an array, of which there is at least one. -/
def readItems? (depth : Nat) : (fuel : Nat) → List Char → Option (List Json × List Char)
  | 0, _ => none
  | fuel + 1, cs =>
    match readValue? depth fuel cs with
    | none => none
    | some (item, rest) =>
      match skipBlanks rest with
      | ']' :: rest => some ([item], rest)
      | ',' :: rest =>
        (readItems? depth fuel rest).map fun (items, rest) => (item :: items, rest)
      | _ => none

/-- The remaining members of an object, of which there is at least one. -/
def readMembers? (depth : Nat) :
    (fuel : Nat) → List Char → Option (List (String × Json) × List Char)
  | 0, _ => none
  | fuel + 1, cs =>
    match skipBlanks cs with
    | '"' :: rest =>
      match readString? rest with
      | none => none
      | some (key, rest) =>
        match skipBlanks rest with
        | ':' :: rest =>
          match readValue? depth fuel rest with
          | none => none
          | some (value, rest) =>
            match skipBlanks rest with
            | '\x7d' :: rest => some ([(String.ofList key, value)], rest)
            | ',' :: rest =>
              (readMembers? depth fuel rest).map fun (pairs, rest) =>
                ((String.ofList key, value) :: pairs, rest)
            | _ => none
        | _ => none
    | _ => none

end

/-- The value at the beginning of a text; what follows it is not looked at. -/
def readFirst? (text : String) (depth : Nat := depthLimit) : Option (Json × List Char) :=
  -- every second step consumes a character
  readValue? depth (2 * text.length + 2) text.toList

/-- The value of a document, around which only blanks may stand. -/
def read? (text : String) (depth : Nat := depthLimit) : Option Json :=
  match readFirst? text depth with
  | some (value, rest) => if (skipBlanks rest).isEmpty then some value else none
  | none => none

end Assay.Json
