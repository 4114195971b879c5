import Assay.Tag
import Assay.Number.Literal

/-!
# Primitive values

The primitive types under branded values: how they are shown, cut, written and compared.
Branded values are ordered and shown by their primitives alone.
-/

namespace Assay

/-- A primitive type of branded values. -/
class Primitive (α : Type) extends Inspect α where
  /-- The text for people. -/
  text : α → String
  /-- The text with three characters, or with three places. -/
  clipped : α → String
  toJson : α → Json
  /-- The order; some values of some types are unordered. -/
  compare? : α → α → Option Ordering

instance : Primitive String where
  text s := s
  clipped s := String.ofList (s.toList.take 3)
  toJson := .string
  compare? a b := some (compare a b)

instance : Primitive Bool where
  text b := if b then "true" else "false"
  clipped b := if b then "tru" else "fal"
  toJson := .boolean
  compare? a b := some (compare a b)

instance : Primitive Int64 where
  text n := toString n.toInt
  clipped n := toString n.toInt
  toJson := .ofInt64
  compare? a b := some (compare a b)

instance : Inspect UInt16 := ⟨fun n => toString n.toNat⟩

instance : Primitive UInt16 where
  text n := toString n.toNat
  clipped n := toString n.toNat
  toJson n := .ofInt64 (Int64.ofNat n.toNat)
  compare? a b := some (compare a b)

instance : Primitive Double where
  text := NumberStyle.plain.text
  clipped x := x.fixed 3
  toJson := .ofDouble
  compare? := Double.compare?

/-- A text filled up on its left to the given width. -/
def padLeft (width : Nat) (fill : Char) (s : String) : String :=
  String.ofList (List.replicate (width - s.length) fill ++ s.toList)

namespace Branded

variable {α : Type} [Primitive α]

/-- The text for people, which does not show the tag. -/
def text (b : Branded α) : String := Primitive.text b.value

/-- The clipped text, filled up with asterisks to eight characters. -/
def padded (b : Branded α) : String := padLeft 8 '*' (Primitive.clipped b.value)

/-- The JSON value, which does not hold the tag. -/
def toJson (b : Branded α) : Json := Primitive.toJson b.value

/-- The order of the primitives. -/
def compare? (a b : Branded α) : Option Ordering := Primitive.compare? a.value b.value

end Branded

/-- Where a key stands among distinct values in ascending order: at the position of the value
that equals it, or else in front of the greater ones. -/
inductive Place where
  | found (index : Nat)
  | insert (index : Nat)
deriving DecidableEq

namespace Sorted

variable {α : Type} [Ord α]

/-- The values in ascending order, equal ones in their given order. -/
def ascending (values : List α) : List α := values.mergeSort fun a b => (compare a b).isLE

/-- The values in descending order, equal ones in their given order. -/
def descending (values : List α) : List α := values.mergeSort fun a b => (compare a b).isGE

/-- Values in ascending order, each of them once. -/
def distinct : List α → List α
  | [] => []
  | [a] => [a]
  | a :: b :: rest => if compare a b == .eq then distinct (b :: rest) else a :: distinct (b :: rest)

/-- The place of a key among the values. -/
def place (values : List α) (key : α) : Place :=
  let below := (distinct (ascending values)).filter fun a => compare a key == .lt
  if values.any fun a => compare a key == .eq then .found below.length
  else .insert below.length

/-- The key, or the nearest of the two bounds if it lies outside of them. -/
def clamp (key least greatest : α) : α :=
  if compare key least == .lt then least
  else if compare key greatest == .gt then greatest
  else key

end Sorted
end Assay
