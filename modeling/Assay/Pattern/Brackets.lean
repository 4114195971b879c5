import Assay.Pattern.Escape

/-!
# Sets in brackets

The notation of sets of characters: members, ranges, classes, sets inside of sets, and the
operations `&&`, `--` and `~~`, which bind all alike and from the left. A bracket that
closes at once and hyphens at the beginning are members. When case is ignored, each operand
and each set in brackets is closed under case before it is used, so a complement excludes
every form of a character.
-/

namespace Assay.Pattern

/-- One character of a set. -/
def readMember? (flags : PatternFlags) : List Char → Option (Char × List Char)
  | '\\' :: rest => readEscape? flags rest
  | c :: rest => some (c, rest)
  | [] => none

/-- A class, or one character of a set. -/
def readClassOrMember? (flags : PatternFlags) (cs : List Char) :
    Option ((CharSet ⊕ Char) × List Char) :=
  let member := (readMember? flags cs).map fun (c, rest) => (.inr c, rest)
  match cs with
  | '\\' :: rest =>
    match readClass? flags rest with
    | some (set, rest) => some (.inl set, rest)
    | none => member
  | _ => member

/-- The character behind a hyphen that decides whether it makes a range. Blanks and the sign
of a comment are passed over, but not the text of the comment; if nothing else follows, it is
the one next to the hyphen. -/
def deciding? (flags : PatternFlags) (cs : List Char) : Option Char :=
  let behind := match trimStart cs with
    | '#' :: rest => trimStart rest
    | rest => rest
  if flags.spaced then behind.head? <|> cs.head? else cs.head?

/-- A class, a character or a range. A hyphen makes no range when a bracket or another hyphen
decides on it. -/
def readRange? (flags : PatternFlags) (cs : List Char) : Option (CharSet × List Char) :=
  match readClassOrMember? flags cs with
  | none => none
  | some (low, rest) =>
    let alone := match low with
      | .inl set => set
      | .inr c => .single c
    match skipGap flags rest with
    | '-' :: rest =>
      if deciding? flags rest = some ']' || deciding? flags rest = some '-' then
        some (alone, '-' :: rest)
      else
        match low, readMember? flags (skipGap flags rest) with
        | .inr low, some (high, rest) =>
          if low ≤ high then some (.range low.toNat high.toNat, rest) else none
        | _, _ => none
    | rest => some (alone, rest)

/-- A class of ASCII characters by its name between colons, after its opening bracket. -/
def readNamed? (flags : PatternFlags) : List Char → Option (CharSet × List Char)
  | ':' :: rest =>
    let (negated, rest) := match rest with
      | '^' :: rest => (true, rest)
      | rest => (false, rest)
    match rest.span (· != ':') with
    | (name, ':' :: ']' :: rest) =>
      (CharSet.ascii? (String.ofList name)).map fun set => (flags.signedSet negated set, rest)
    | _ => none
  | _ => none

/-- A text without the hyphens at its beginning and the gaps behind them. -/
def skipHyphens (flags : PatternFlags) : (fuel : Nat) → List Char → List Char
  | fuel + 1, '-' :: rest => skipHyphens flags fuel (skipGap flags rest)
  | _, cs => cs

/-- The members at the beginning of a set that would mean something else later on. -/
def readLeading (flags : PatternFlags) : List Char → CharSet × List Char
  | '-' :: rest => (.single '-', skipHyphens flags (rest.length + 1) ('-' :: rest))
  | ']' :: rest => (.single ']', rest)
  | rest => (.empty, rest)

mutual

/-- The set behind an opening bracket. -/
def readSet? (flags : PatternFlags) : (fuel : Nat) → List Char → Option (CharSet × List Char)
  | 0, _ => none
  | fuel + 1, cs =>
    let (negated, cs) := match skipGap flags cs with
      | '^' :: rest => (true, skipGap flags rest)
      | cs => (false, cs)
    let (leading, cs) := readLeading flags cs
    (readParts? flags fuel id leading cs).map fun (set, rest) =>
      (flags.signedSet negated set, rest)

/-- The rest of a set up to its closing bracket. The members that follow join those of `set`;
what they amount to is passed to `finish`, which knows the operand on the left. -/
def readParts? (flags : PatternFlags) : (fuel : Nat) → (finish : CharSet → CharSet) →
    (set : CharSet) → List Char → Option (CharSet × List Char)
  | 0, _, _, _ => none
  | fuel + 1, finish, set, cs =>
    let operation (op : CharSet → CharSet → CharSet) (rest : List Char) :=
      let left := flags.set (finish set)
      readParts? flags fuel (fun right => op left (flags.set right)) .empty rest
    let part : Option (CharSet × List Char) → Option (CharSet × List Char)
      | some (part, rest) => readParts? flags fuel finish (.union set part) rest
      | none => none
    match skipGap flags cs with
    | ']' :: rest => some (finish set, rest)
    | '&' :: '&' :: rest => operation .inter rest
    | '-' :: '-' :: rest => operation .diff rest
    | '~' :: '~' :: rest => operation .symmDiff rest
    | '[' :: rest => part (readNamed? flags rest <|> readSet? flags fuel rest)
    | cs => part (readRange? flags cs)

end

end Assay.Pattern
