import Assay.Combine

/-!
# Non-empty lists

A list with at least one element, kept as its head and its tail. `toList` is the view
through which every operation is described. The elements can also be had as an array, at a
position, or one after the other along a walk.
-/

namespace Assay

/-- A list with at least one element. -/
structure NonEmptyList (α : Type u) where
  head : α
  tail : List α
deriving DecidableEq

namespace NonEmptyList

/-- The list of one element. -/
def singleton (a : α) : NonEmptyList α := ⟨a, []⟩

/-- A list as a non-empty one, unless it is empty. -/
def ofList? : List α → Option (NonEmptyList α)
  | [] => none
  | a :: as => some ⟨a, as⟩

/-- An array as a non-empty list, unless it is empty: the first element is taken out of it. -/
def ofArray? (as : Array α) : Option (NonEmptyList α) :=
  if h : 0 < as.size then some ⟨as[0], (as.eraseIdx 0).toList⟩ else none

/-- All elements in order. -/
def toList (xs : NonEmptyList α) : List α := xs.head :: xs.tail

def length (xs : NonEmptyList α) : Nat := xs.tail.length + 1

/-- All elements in an array with room for them: the head is put in, and then the tail. -/
def toArray (xs : NonEmptyList α) : Array α :=
  (Array.emptyWithCapacity xs.length).push xs.head ++ xs.tail

/-- The list with one more element at its end. -/
def push (xs : NonEmptyList α) (a : α) : NonEmptyList α := ⟨xs.head, xs.tail ++ [a]⟩

def map (f : α → β) (xs : NonEmptyList α) : NonEmptyList β := ⟨f xs.head, xs.tail.map f⟩

/-- The list with each element passed to `f`, which may do more than give a value: the head comes
first, and the others in order. -/
def mapM [Monad m] (f : α → m β) (xs : NonEmptyList α) : m (NonEmptyList β) := do
  let head ← f xs.head
  let tail ← xs.tail.mapM f
  return ⟨head, tail⟩

/-- The list with each element passed to `f` along with its position. -/
def mapIdx (f : Nat → α → β) (xs : NonEmptyList α) : NonEmptyList β :=
  ⟨f 0 xs.head, xs.tail.mapIdx fun i a => f (i + 1) a⟩

/-- The elements of the first list and then those of the second. -/
def append (xs ys : NonEmptyList α) : NonEmptyList α := ⟨xs.head, xs.tail ++ ys.toList⟩

/-- The element at a position counted from zero, if there is one. -/
def get? (xs : NonEmptyList α) (i : Nat) : Option α :=
  match i with
  | 0 => some xs.head
  | i + 1 => xs.tail[i]?

/-- A walk over a non-empty list: the head until it is passed, and the elements behind it that
are still to come. -/
structure Walk (α : Type u) where
  head? : Option α
  rest : List α

namespace Walk

/-- The next element and the walk from there on, unless all have been passed. -/
def next? : Walk α → Option (α × Walk α)
  | ⟨some a, rest⟩ => some (a, ⟨none, rest⟩)
  | ⟨none, a :: rest⟩ => some (a, ⟨none, rest⟩)
  | ⟨none, []⟩ => none

/-- The elements that are still to come. -/
def ahead (w : Walk α) : List α := w.head?.toList ++ w.rest

/-- A step passes the first of the elements ahead. -/
theorem ahead_of_next? {w w' : Walk α} {a : α} (h : w.next? = some (a, w')) :
    w.ahead = a :: w'.ahead := by
  obtain ⟨_ | b, _ | ⟨c, rest⟩⟩ := w <;> cases h <;> rfl

/-- The elements that are met when a walk is followed to its end. -/
def collect (w : Walk α) : List α :=
  match _step : w.next? with
  | none => []
  | some (a, w') => a :: w'.collect
termination_by w.ahead.length
decreasing_by simp [ahead_of_next? _step]

end Walk

/-- The walk over all elements. -/
def walk (xs : NonEmptyList α) : Walk α := ⟨some xs.head, xs.tail⟩

@[simp] theorem toList_singleton (a : α) : (singleton a).toList = [a] := rfl

@[simp] theorem toList_push (xs : NonEmptyList α) (a : α) :
    (xs.push a).toList = xs.toList ++ [a] := rfl

@[simp] theorem toList_map (f : α → β) (xs : NonEmptyList α) :
    (xs.map f).toList = xs.toList.map f := rfl

theorem toList_mapM [Monad m] [LawfulMonad m] (f : α → m β) (xs : NonEmptyList α) :
    toList <$> xs.mapM f = xs.toList.mapM f := by
  simp [mapM, toList]

@[simp] theorem toList_mapIdx (f : Nat → α → β) (xs : NonEmptyList α) :
    (xs.mapIdx f).toList = xs.toList.mapIdx f := by
  simp [mapIdx, toList]

@[simp] theorem toList_append (xs ys : NonEmptyList α) :
    (xs.append ys).toList = xs.toList ++ ys.toList := rfl

@[simp] theorem toList_toArray (xs : NonEmptyList α) : xs.toArray.toList = xs.toList := by
  simp [toArray, toList]

theorem ofList?_eq_none {as : List α} : ofList? as = none ↔ as = [] := by
  cases as <;> simp [ofList?]

theorem ofList?_eq_some {as : List α} {xs : NonEmptyList α} :
    ofList? as = some xs ↔ xs.toList = as := by
  obtain ⟨head, tail⟩ := xs
  cases as <;> simp [ofList?, toList, eq_comm]

/-- An array is taken for a non-empty list as the list of its elements is. -/
theorem ofArray?_eq (as : Array α) : ofArray? as = ofList? as.toList := by
  obtain ⟨items⟩ := as
  cases items <;> simp [ofArray?, ofList?]

/-- A non-empty list is determined by its elements. -/
theorem toList_inj {xs ys : NonEmptyList α} : xs.toList = ys.toList ↔ xs = ys := by
  cases xs; cases ys; simp [toList]

theorem append_assoc (xs ys zs : NonEmptyList α) :
    (xs.append ys).append zs = xs.append (ys.append zs) := by
  simp [← toList_inj]

instance : Combine (NonEmptyList α) := ⟨append, append_assoc⟩

@[simp] theorem toList_combine (xs ys : NonEmptyList α) :
    (combine xs ys).toList = xs.toList ++ ys.toList := rfl

end NonEmptyList
end Assay
