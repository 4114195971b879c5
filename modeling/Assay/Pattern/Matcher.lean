import Assay.Pattern.Basic

/-!
# Searching for a pattern

A set of positions in a text is a natural number, whose bit `i` says whether position `i`
is in the set. `Sweep.ends` takes the set of positions where a match may begin to the set of
those where it may end. All ways to match are followed at once, so the time grows with the
text and the pattern but never exponentially.
-/

namespace Assay

/-- A pattern laid over a text: each set of characters and each assertion has become the set
of positions where it holds. -/
inductive Sweep where
  | stay (positions : Nat)
  | step (positions : Nat)
  | seq (first second : Sweep)
  | alt (first second : Sweep)
  | times (body : Sweep) (count : Nat)
  | upTo (body : Sweep) (count : Nat)
  | star (body : Sweep)

/-- The positions at which a list of truth values is true. -/
def positionsOf (holds : List Bool) : Nat :=
  holds.foldr (fun b n => 2 * n + b.toNat) 0

/-- All positions of a text of the given length, its end included. -/
def allPositions (length : Nat) : Nat := (1 <<< (length + 1)) - 1

/-- The positions of one set that are not in the other. -/
def withoutPositions (a b : Nat) : Nat := a ^^^ (a &&& b)

/-- The positions of a text that lie to its words as an edge says, by the positions of the
characters of words. -/
def WordEdge.positions (length after : Nat) (edge : WordEdge) : Nat :=
  let everywhere := allPositions length
  let before := after <<< 1
  match edge with
  | boundary => before ^^^ after
  | noBoundary => everywhere ^^^ before ^^^ after
  | first => withoutPositions after before
  | last => withoutPositions before after
  | noneBefore => withoutPositions everywhere before
  | noneAfter => withoutPositions everywhere after

/-- The positions of a text at which an assertion holds. -/
def Assertion.positions (text : List Char) (assertion : Assertion) : Nat :=
  let feeds := positionsOf (text.map (· == '\n'))
  let returns := positionsOf (text.map (· == '\r'))
  match assertion with
  | textStart => 1
  | textEnd => 1 <<< text.length
  | lineStart false => 1 ||| (feeds <<< 1)
  | lineStart true => 1 ||| (feeds <<< 1) ||| withoutPositions (returns <<< 1) feeds
  | lineEnd false => (1 <<< text.length) ||| feeds
  | lineEnd true => (1 <<< text.length) ||| returns ||| withoutPositions feeds (returns <<< 1)
  | word edge repertoire =>
    edge.positions text.length (positionsOf (text.map repertoire.isWordChar))

/-- A pattern laid over a text. -/
def Pattern.over (text : List Char) : Pattern → Sweep
  | empty => .stay (allPositions text.length)
  | chars set => .step (positionsOf (text.map set.contains))
  | assert assertion => .stay (assertion.positions text)
  | seq p q => .seq (p.over text) (q.over text)
  | alt p q => .alt (p.over text) (q.over text)
  | times p count => .times (p.over text) count
  | upTo p count => .upTo (p.over text) count
  | star p => .star (p.over text)

/-- What is reached from a set by taking a step any number of times, up to `fuel`. -/
def reach (step : Nat → Nat) : (fuel : Nat) → (positions : Nat) → Nat
  | 0, positions => positions
  | fuel + 1, positions =>
    let more := positions ||| step positions
    if more = positions then positions else reach step fuel more

/-- What is reached from a set by taking a step a given number of times. Once a step leads
back to the same set, all later ones do. -/
def repeatStep (step : Nat → Nat) : (count : Nat) → (positions : Nat) → Nat
  | 0, positions => positions
  | count + 1, positions =>
    let next := step positions
    if next = positions then positions else repeatStep step count next

theorem repeat_of_fixed {step : Nat → Nat} {positions : Nat} (h : step positions = positions)
    (count : Nat) : Nat.repeat step count positions = positions := by
  induction count with
  | zero => rfl
  | succ count ih => rw [Nat.repeat, ih, h]

theorem repeat_step (step : Nat → Nat) (count positions : Nat) :
    Nat.repeat step count (step positions) = step (Nat.repeat step count positions) := by
  induction count with
  | zero => rfl
  | succ count ih => rw [Nat.repeat, ih, Nat.repeat]

/-- Stopping early changes nothing. -/
theorem repeatStep_eq_repeat (step : Nat → Nat) (count positions : Nat) :
    repeatStep step count positions = Nat.repeat step count positions := by
  induction count generalizing positions with
  | zero => rfl
  | succ count ih =>
    rw [repeatStep]
    split
    · next h => exact (repeat_of_fixed h _).symm
    · rw [ih, repeat_step, Nat.repeat]

/-- The positions where a match that begins in one of the given positions may end. Each
round of a repetition before the last one adds a position, so there are not more rounds than
positions. -/
def Sweep.ends (length : Nat) : Sweep → Nat → Nat
  | stay positions, starts => starts &&& positions
  | step positions, starts => (starts &&& positions) <<< 1
  | seq p q, starts => q.ends length (p.ends length starts)
  | alt p q, starts => p.ends length starts ||| q.ends length starts
  | times p count, starts => repeatStep (p.ends length) count starts
  | upTo p count, starts => reach (p.ends length) count starts
  | star p, starts => reach (p.ends length) (length + 1) starts

/-- Whether a part of the text matches the pattern. -/
def Pattern.found (p : Pattern) (text : List Char) : Bool :=
  (p.over text).ends text.length (allPositions text.length) != 0

end Assay
