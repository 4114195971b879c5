/-!
# Runs

A property with one value for each code point is written as lines of runs, which cover the
code points in ascending order from the first one on. A run is a value, which is a capital
letter and the small letters after it, and the number of its code points in decimal digits;
where no digits follow there is one. A set of values selects ranges of code points.
-/

namespace Assay

/-- Code points in a row that have one value. -/
structure Run where
  value : String
  count : Nat
deriving DecidableEq

namespace Run

/-- A run by the letters of its value, the last one first, and its written count. -/
def ofParts (letters : List Char) (count : Nat) : Run :=
  ⟨String.ofList letters.reverse, max count 1⟩

/-- The runs of a line, of which the first has been read in part. -/
def scan (letters : List Char) (count : Nat) : List Char → List Run
  | [] => [ofParts letters count]
  | c :: rest =>
    if c.isUpper then ofParts letters count :: scan [c] 0 rest
    else if c.isDigit then scan letters (10 * count + (c.toNat - '0'.toNat)) rest
    else scan (c :: letters) count rest

/-- The runs that a line writes. -/
def ofLine (line : String) : List Run :=
  match line.toList with
  | c :: rest => scan [c] 0 rest
  | [] => []

/-- The runs that some lines write. -/
def ofLines (lines : List String) : List Run := lines.flatMap ofLine

/-- A range before others, joined with the first of them if that follows at once. -/
def joinRange (low high : Nat) : List (Nat × Nat) → List (Nat × Nat)
  | (next, last) :: rest =>
    if next = high + 1 then (low, last) :: rest else (low, high) :: (next, last) :: rest
  | [] => [(low, high)]

/-- The ranges of the code points whose value satisfies a condition, where the first run
begins at `start`. -/
def rangesWhere (p : String → Bool) (start : Nat) : List Run → List (Nat × Nat)
  | [] => []
  | run :: rest =>
    let others := rangesWhere p (start + run.count) rest
    if p run.value then joinRange start (start + run.count - 1) others else others

end Run
end Assay
