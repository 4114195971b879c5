import Assay.Fault
import Mathlib.Tactic

/-!
# Views of non-empty lists

A non-empty list is kept as its head and its tail, and everything about it that can be seen from
outside is one list of elements, in whatever way it was made and is looked at.

* `NonEmptyList.Walk.collect_eq_ahead`: a walk meets the elements that are ahead of it;
* `NonEmptyList.getOrFault_of_lt`, `NonEmptyList.getOrFault_of_le`: the elements at positions, and
  the fault beyond the last one;
* `NonEmptyList.Shows`, `NonEmptyList.shows_iff`: all views show the same elements;
* `NonEmptyList.Recipe`, `NonEmptyList.Recipe.make_eq_some`: what a sequence of operations makes.
-/

namespace Assay
namespace NonEmptyList

universe u v

variable {α : Type u} {β : Type v}

/-! ### Walks -/

namespace Walk

/-- A walk ends only where nothing is ahead. -/
theorem ahead_of_end {w : Walk α} (h : w.next? = none) : w.ahead = [] := by
  obtain ⟨_ | b, _ | ⟨c, rest⟩⟩ := w <;> cases h
  rfl

theorem collect_of_end {w : Walk α} (h : w.next? = none) : w.collect = [] := by
  rw [collect]
  split
  case h_1 => rfl
  case h_2 hstep => rw [h] at hstep; cases hstep

theorem collect_of_next? {w w' : Walk α} {a : α} (h : w.next? = some (a, w')) :
    w.collect = a :: w'.collect := by
  rw [collect]
  split
  case h_1 hend => rw [h] at hend; cases hend
  case h_2 hstep => rw [h] at hstep; cases hstep; rfl

/-- A walk meets the elements that are ahead of it, in order. -/
theorem collect_eq_ahead (w : Walk α) : w.collect = w.ahead := by
  induction w using collect.induct with
  | case1 w hend => rw [collect_of_end hend, ahead_of_end hend]
  | case2 w a w' hstep ih => rw [collect_of_next? hstep, ahead_of_next? hstep, ih]

end Walk

/-! ### Arrays and positions -/

theorem ofArray?_eq_some {as : Array α} {xs : NonEmptyList α} :
    ofArray? as = some xs ↔ xs.toArray = as := by
  rw [ofArray?_eq, ofList?_eq_some, ← toList_toArray, Array.toList_inj]

theorem ofArray?_eq_none {as : Array α} : ofArray? as = none ↔ as = #[] := by
  rw [ofArray?_eq, ofList?_eq_none, Array.toList_eq_nil_iff]

/-- Positions count from the head, and those in the tail are one less there. -/
theorem get?_eq (xs : NonEmptyList α) (i : Nat) : xs.get? i = xs.toList[i]? := by
  cases i <;> simp [get?, toList]

theorem getOrFault_of_lt (xs : NonEmptyList α) {i : Nat} (h : i < xs.toList.length) :
    xs.getOrFault i = .ok xs.toList[i] := by
  rw [getOrFault, get?_eq, List.getElem?_eq_getElem h]

theorem getOrFault_of_le (xs : NonEmptyList α) {i : Nat} (h : xs.toList.length ≤ i) :
    xs.getOrFault i = .error (.indexOutOfBounds xs.tail.length (i - 1)) := by
  rw [getOrFault, get?_eq, List.getElem?_eq_none h]

/-! ### Views -/

/-- All views of a non-empty list show the same elements. -/
structure Shows (xs : NonEmptyList α) (as : List α) : Prop where
  parts : xs.head :: xs.tail = as
  array : xs.toArray.toList = as
  walk : xs.walk.collect = as
  length : xs.length = as.length
  inside (i : Nat) (h : i < as.length) : xs.getOrFault i = .ok as[i]
  outside (i : Nat) (h : as.length ≤ i) :
    xs.getOrFault i = .error (.indexOutOfBounds (as.length - 1) (i - 1))

theorem shows_toList (xs : NonEmptyList α) : xs.Shows xs.toList where
  parts := rfl
  array := toList_toArray xs
  walk := Walk.collect_eq_ahead xs.walk
  length := rfl
  inside _ h := getOrFault_of_lt xs h
  outside _ h := getOrFault_of_le xs h

/-- The views of a non-empty list show its elements and no other list. -/
theorem shows_iff {xs : NonEmptyList α} {as : List α} : xs.Shows as ↔ xs.toList = as :=
  ⟨Shows.parts, fun h => h ▸ xs.shows_toList⟩

/-! ### Operations -/

theorem Shows.push {xs : NonEmptyList α} {as : List α} (h : xs.Shows as) (a : α) :
    (xs.push a).Shows (as ++ [a]) := by
  rw [shows_iff, toList_push, shows_iff.1 h]

theorem Shows.map {xs : NonEmptyList α} {as : List α} (h : xs.Shows as) (f : α → β) :
    (xs.map f).Shows (as.map f) := by
  rw [shows_iff, toList_map, shows_iff.1 h]

theorem Shows.mapIdx {xs : NonEmptyList α} {as : List α} (h : xs.Shows as) (f : Nat → α → β) :
    (xs.mapIdx f).Shows (as.mapIdx f) := by
  rw [shows_iff, toList_mapIdx, shows_iff.1 h]

/-- A function with a state is called on the elements in order. -/
theorem Shows.mapM {σ : Type v} {xs : NonEmptyList α} {as : List α} (h : xs.Shows as)
    (f : α → StateM σ β) (state : σ) :
    ((xs.mapM f).run state).1.Shows ((as.mapM f).run state).1 := by
  rw [shows_iff, ← shows_iff.1 h, ← toList_mapM]
  rfl

theorem Shows.append {xs ys : NonEmptyList α} {as bs : List α} (hxs : xs.Shows as)
    (hys : ys.Shows bs) : (combine xs ys).Shows (as ++ bs) := by
  rw [shows_iff, toList_combine, shows_iff.1 hxs, shows_iff.1 hys]

/-- A way to make a non-empty list by operations, one after the other. -/
inductive Recipe : Type u → Type (u + 1) where
  | new {α : Type u} (head : α) (tail : List α) : Recipe α
  | singleton {α : Type u} (a : α) : Recipe α
  | ofArray {α : Type u} (as : Array α) : Recipe α
  | push {α : Type u} (recipe : Recipe α) (a : α) : Recipe α
  | map {α β : Type u} (f : α → β) (recipe : Recipe α) : Recipe β
  | mapM {σ α β : Type u} (f : α → StateM σ β) (state : σ) (recipe : Recipe α) : Recipe β
  | append {α : Type u} (first second : Recipe α) : Recipe α

namespace Recipe

/-- The list that is made, unless an empty array is met on the way. -/
def make {α : Type u} : Recipe α → Option (NonEmptyList α)
  | new head tail => some ⟨head, tail⟩
  | singleton a => some (.singleton a)
  | ofArray as => ofArray? as
  | push recipe a => recipe.make.map (·.push a)
  | map f recipe => recipe.make.map (·.map f)
  | mapM f state recipe => recipe.make.map fun xs => ((xs.mapM f).run state).1
  | append first second => do return combine (← first.make) (← second.make)

/-- The elements that a recipe puts together. -/
def elements {α : Type u} : Recipe α → List α
  | new head tail => head :: tail
  | singleton a => [a]
  | ofArray as => as.toList
  | push recipe a => recipe.elements ++ [a]
  | map f recipe => recipe.elements.map f
  | mapM f state recipe => ((recipe.elements.mapM f).run state).1
  | append first second => first.elements ++ second.elements

/-- Whether every array that a recipe begins with has an element. -/
def Fed {α : Type u} : Recipe α → Prop
  | new _ _ => True
  | singleton _ => True
  | ofArray as => as ≠ #[]
  | push recipe _ => recipe.Fed
  | map _ recipe => recipe.Fed
  | mapM _ _ recipe => recipe.Fed
  | append first second => first.Fed ∧ second.Fed

/-- A recipe with an element in every array makes a list that shows what was put together. -/
theorem make_of_fed {r : Recipe α} (h : r.Fed) :
    ∃ xs, r.make = some xs ∧ xs.Shows r.elements := by
  -- one operation keeps what is shown, so a whole recipe does
  induction r with
  | new head tail => exact ⟨⟨head, tail⟩, rfl, shows_toList _⟩
  | singleton a => exact ⟨.singleton a, rfl, shows_toList _⟩
  | ofArray as =>
    obtain ⟨xs, hxs⟩ := Option.ne_none_iff_exists'.1 (mt ofArray?_eq_none.1 h)
    refine ⟨xs, hxs, shows_iff.2 ?_⟩
    rw [← toList_toArray, ofArray?_eq_some.1 hxs]
    rfl
  | push recipe a ih =>
    obtain ⟨xs, hmake, hshows⟩ := ih h
    exact ⟨xs.push a, by rw [make, hmake, Option.map_some], hshows.push a⟩
  | map f recipe ih =>
    obtain ⟨xs, hmake, hshows⟩ := ih h
    exact ⟨xs.map f, by rw [make, hmake, Option.map_some], hshows.map f⟩
  | mapM f state recipe ih =>
    obtain ⟨xs, hmake, hshows⟩ := ih h
    exact ⟨_, by rw [make, hmake, Option.map_some], hshows.mapM f state⟩
  | append first second ihfirst ihsecond =>
    obtain ⟨xs, hxs, hfirst⟩ := ihfirst h.1
    obtain ⟨ys, hys, hsecond⟩ := ihsecond h.2
    exact ⟨Combine.combine xs ys, by rw [make, hxs, hys]; rfl, hfirst.append hsecond⟩

/-- A recipe that meets an empty array makes nothing. -/
theorem make_of_not_fed {r : Recipe α} (h : ¬ r.Fed) : r.make = none := by
  induction r with
  | new head tail => exact absurd trivial h
  | singleton a => exact absurd trivial h
  | ofArray as => exact ofArray?_eq_none.2 (not_not.1 h)
  | push recipe a ih => rw [make, ih h, Option.map_none]
  | map f recipe ih => rw [make, ih h, Option.map_none]
  | mapM f state recipe ih => rw [make, ih h, Option.map_none]
  | append first second ihfirst ihsecond =>
    by_cases hfirst : first.Fed
    · obtain ⟨xs, hxs, -⟩ := make_of_fed hfirst
      rw [make, hxs, ihsecond fun hsecond => h ⟨hfirst, hsecond⟩]
      rfl
    · rw [make, ihfirst hfirst]
      rfl

theorem make_eq_none {r : Recipe α} : r.make = none ↔ ¬ r.Fed := by
  refine ⟨fun hmake hfed => ?_, make_of_not_fed⟩
  obtain ⟨xs, hxs, -⟩ := make_of_fed hfed
  cases hmake.symm.trans hxs

theorem make_eq_some {r : Recipe α} {xs : NonEmptyList α} :
    r.make = some xs ↔ r.Fed ∧ xs.Shows r.elements := by
  constructor
  · intro hmake
    have hfed : r.Fed := by
      by_contra hnot
      cases hmake.symm.trans (make_of_not_fed hnot)
    obtain ⟨ys, hys, hshows⟩ := make_of_fed hfed
    obtain rfl : xs = ys := Option.some.inj (hmake.symm.trans hys)
    exact ⟨hfed, hshows⟩
  · rintro ⟨hfed, hshows⟩
    obtain ⟨ys, hys, hother⟩ := make_of_fed hfed
    rw [hys, ← toList_inj.1 ((shows_iff.1 hshows).trans (shows_iff.1 hother).symm)]

end Recipe

/-- **A non-empty list is one list in all views.** Operations make a non-empty list exactly when
every array that is taken for one has an element, and all views then show the elements that the
operations put together: the head and the tail, the array, the walk, the length, the positions below
the length, and the fault at every other position. An array is taken for a non-empty list exactly
when it is not empty, and then it is the array of that list. Whatever a non-empty list shows, one
more element is shown at its end, a function is applied to each element shown, be it told the
position or have a state that is handed on in order, and two lists together show the one and then
the other. -/
theorem views_agree {σ : Type v} (r : Recipe α) :
    (∀ xs, r.make = some xs ↔ r.Fed ∧ xs.Shows r.elements) ∧
      (r.make = none ↔ ¬ r.Fed) ∧
      (∀ as : Array α, ofArray? as = none ↔ as = #[]) ∧
      (∀ (as : Array α) xs, ofArray? as = some xs ↔ xs.toArray = as) ∧
      ∀ (xs : NonEmptyList α) as, xs.Shows as →
        (∀ a, (xs.push a).Shows (as ++ [a])) ∧
        (∀ f : α → β, (xs.map f).Shows (as.map f)) ∧
        (∀ f : Nat → α → β, (xs.mapIdx f).Shows (as.mapIdx f)) ∧
        (∀ (f : α → StateM σ β) state,
          ((xs.mapM f).run state).1.Shows ((as.mapM f).run state).1) ∧
        ∀ ys bs, ys.Shows bs → (combine xs ys).Shows (as ++ bs) := by
  refine ⟨fun xs => Recipe.make_eq_some, Recipe.make_eq_none, fun as => ofArray?_eq_none,
    fun as xs => ofArray?_eq_some, fun xs as h => ?_⟩
  exact ⟨h.push, h.map, h.mapIdx, h.mapM, fun ys bs hys => h.append hys⟩

/-- The lengths of three words, and behind them a number twice, the second time doubled. -/
def measured : Recipe Nat :=
  .append (.map String.length (.push (.ofArray #["ab", "c"]) "def"))
    (.mapM (fun n => modifyGet fun times => (times * n, times + 1)) 1 (.new 5 [5]))

/-- All views show the five numbers, and the first position behind them is a fault. -/
theorem views_measured :
    measured.Fed ∧ measured.make = some ⟨2, [1, 3, 5, 10]⟩ ∧
      Shows ⟨2, [1, 3, 5, 10]⟩ [2, 1, 3, 5, 10] ∧ Shows ⟨2, [1, 3, 5, 10, 4]⟩ [2, 1, 3, 5, 10, 4] ∧
      getOrFault ⟨2, [1, 3, 5, 10]⟩ 5 = .error (.indexOutOfBounds 4 4) := by
  obtain ⟨hmake, -, -, -, hshown⟩ := views_agree (β := Nat) (σ := Nat) measured
  have hmade : measured.make = some ⟨2, [1, 3, 5, 10]⟩ := by decide +kernel
  obtain ⟨hfed, hshows⟩ := (hmake _).1 hmade
  have helements : measured.elements = [2, 1, 3, 5, 10] := by decide +kernel
  rw [helements] at hshows
  exact ⟨hfed, hmade, hshows, (hshown _ _ hshows).1 4, hshows.outside 5 (by decide)⟩

end NonEmptyList
end Assay
