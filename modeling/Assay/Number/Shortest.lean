import Assay.Number.Rounding

/-!
# Shortest decimals

`Double.shortest` chooses, among the decimals that read back as a given double, one with
the fewest digits, and of those the one nearest to the number. It tries the grids of one,
two, up to seventeen digits; on each it looks at the two neighbours of the number, one of
which reads back as soon as any point of the grid does.
-/

namespace Assay

/-- A positive decimal `0.digits · 10 ^ point`, whose digits do not end in zero. -/
structure Decimal where
  digits : Nat
  point : Int
deriving DecidableEq

namespace Decimal

/-- The decimal `digits · 10 ^ scale`, with the zeros at the end of the digits dropped. -/
def trimmed : (fuel : Nat) → (digits : Nat) → (scale : Int) → Decimal
  | 0, digits, scale => ⟨digits, scale + (Nat.toDigits 10 digits).length⟩
  | fuel + 1, digits, scale =>
    if digits % 10 = 0 then trimmed fuel (digits / 10) (scale + 1)
    else ⟨digits, scale + (Nat.toDigits 10 digits).length⟩

end Decimal

/-- A number with the interval of those that round to it, all over one denominator. -/
structure RoundingInterval where
  low : Nat
  value : Nat
  high : Nat
  den : Nat
  /-- Whether the two ends round to the number as well. -/
  closed : Bool

namespace RoundingInterval

/-- The interval that rounds to a finite double other than zero. The gap below a power of
two is half of the gap above it; the ends belong to it when the significand is even. -/
def ofDouble (x : Double) : RoundingInterval :=
  let m := x.significand
  let below := if m = 1 <<< 52 ∧ 1 < x.exponent.toNat then 1 else 2
  let scale : Int := (x.shift : Int) - 1076
  let up := scale.toNat
  ⟨(4 * m - below) <<< up, (4 * m) <<< up, (4 * m + 2) <<< up, 1 <<< (-scale).toNat,
    m % 2 = 0⟩

/-- Whether the decimal `n · 10 ^ scale` lies in the interval. -/
def contains (i : RoundingInterval) (n : Nat) (scale : Int) : Bool :=
  let p := n * pow10 scale.toNat * i.den
  let q := pow10 (-scale).toNat
  if i.closed then i.low * q ≤ p && p ≤ i.high * q else i.low * q < p && p < i.high * q

/-- The point `k` with `10 ^ (k - 1) ≤ value < 10 ^ k`, at most `fuel` above the guess. -/
def pointFrom (i : RoundingInterval) : (fuel : Nat) → (guess : Int) → Int
  | 0, k => k
  | fuel + 1, k =>
    if pow10 k.toNat * i.den ≤ i.value * pow10 (-k).toNat then i.pointFrom fuel (k + 1) else k

/-- The position of the first digit. The guess comes from the binary logarithm; it is never
too high and at most two too low. -/
def point (i : RoundingInterval) : Int :=
  let log : Int := (i.value.log2 : Int) - i.den.log2 - 1
  i.pointFrom 4 ((log * 30103).fdiv 100000)

/-- The better of the two neighbours on the grid of multiples of `10 ^ scale`, if one of
them lies in the interval. -/
def onGrid (i : RoundingInterval) (tie : Tie) (scale : Int) : Option Nat :=
  let num := i.value * pow10 (-scale).toNat
  let den := i.den * pow10 scale.toNat
  let low := num / den
  match i.contains low scale, i.contains (low + 1) scale with
  | true, true => some (roundDiv num den tie)
  | true, false => some low
  | false, true => some (low + 1)
  | false, false => none

/-- The first grid with a hit, from `count` digits on. -/
def search (i : RoundingInterval) (tie : Tie) (point : Int) :
    (fuel : Nat) → (count : Nat) → Nat × Int
  | 0, count => (roundDiv (i.value * pow10 ((count : Int) - point).toNat)
      (i.den * pow10 (point - count).toNat) tie, point - count)
  | fuel + 1, count =>
    match i.onGrid tie (point - count) with
    | some n => (n, point - count)
    | none => i.search tie point fuel (count + 1)

end RoundingInterval

/-- The shortest decimal that reads back as the finite number `x` other than zero, without
its sign; of two equally near ones the tie decides. -/
def Double.shortest (x : Double) (tie : Tie) : Decimal :=
  let i := RoundingInterval.ofDouble x
  let (n, scale) := i.search tie i.point 17 1
  Decimal.trimmed 18 n scale

end Assay
