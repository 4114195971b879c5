import Assay.Proofs.Outcomes

/-!
# Grouping

Independent validations can be put together one after the other, all at once, or two by two along
any tree. The merging of errors is associative, so the grouping decides nothing but the nesting of
the values.

* `Tally`: one pass over a list of validations, which collects values and errors side by side;
* `Tally.ofList_eq`, `Tally.outcome_ofList`: what the pass has met, and what `all` makes of it;
* `Validation.all_append`: a list in two parts;
* `Grouping.map_flatten_together`: validations along a tree are those in a list;
* `Grouping.grouping_outcome`: both outcomes along a tree.
-/

namespace Assay

/-! ### Merging errors -/

namespace Combine

variable {ε : Type u} [Combine ε]

instance : Std.Associative (combine : ε → ε → ε) := ⟨combine_assoc⟩

/-- Errors are merged in the same way from the right and from the left. -/
theorem merge_eq_foldl (e : ε) (rest : List ε) : merge e rest = rest.foldl combine e := by
  induction rest generalizing e with
  | nil => rfl
  | cons d rest ih => rw [merge, ih, List.foldl_cons, List.foldl_assoc]

theorem fromLeft?_concat (es : List ε) (e : ε) :
    fromLeft? (es ++ [e]) = some ((fromLeft? es).elim e (combine · e)) := by
  cases es with
  | nil => rfl
  | cons d rest => simp [fromLeft?]

theorem fromLeft?_eq_none {es : List ε} : fromLeft? es = none ↔ es = [] := by
  cases es <;> simp [fromLeft?]

end Combine

/-! ### One pass over a list -/

/-- What a pass over some validations has met: their values, and their errors merged. -/
structure Tally (ε : Type u) (α : Type v) where
  values : List α
  error? : Option ε

namespace Tally

variable {ε : Type u} {α : Type v} [Combine ε]

/-- The tally after one more validation. -/
def add (t : Tally ε α) : Validation ε α → Tally ε α
  | .success a => { t with values := t.values ++ [a] }
  | .failure e => { t with error? := some (t.error?.elim e (combine · e)) }

/-- The tally of a list. -/
def ofList (vs : List (Validation ε α)) : Tally ε α := vs.foldl add ⟨[], none⟩

/-- The merged error if there is one, and else the values. -/
def outcome (t : Tally ε α) : Validation ε (List α) :=
  match t.error? with
  | some e => .failure e
  | none => .success t.values

theorem ofList_concat (vs : List (Validation ε α)) (v : Validation ε α) :
    ofList (vs ++ [v]) = (ofList vs).add v := by
  rw [ofList, List.foldl_append]
  rfl

/-- A pass collects the values of all successes in order, and merges the errors of all failures
from left to right. -/
theorem ofList_eq (vs : List (Validation ε α)) :
    ofList vs = ⟨vs.filterMap Validation.value?,
      Combine.fromLeft? (vs.filterMap Validation.error?)⟩ := by
  induction vs using List.reverseRecOn with
  | nil => rfl
  | append_singleton vs v ih =>
    rw [ofList_concat, ih, List.filterMap_append, List.filterMap_append]
    cases v with
    | success a =>
      have herror : [Validation.success a].filterMap Validation.error? = ([] : List ε) := rfl
      rw [herror, List.append_nil]
      rfl
    | failure e =>
      have hvalue : [Validation.failure e].filterMap Validation.value? = ([] : List α) := rfl
      have herror : [Validation.failure e].filterMap (@Validation.error? ε α) = [e] := rfl
      rw [hvalue, List.append_nil, herror, Combine.fromLeft?_concat]
      rfl

/-- All validations at once have the outcome of one pass. -/
theorem outcome_ofList (vs : List (Validation ε α)) : (ofList vs).outcome = Validation.all vs := by
  rw [ofList_eq, Validation.all]
  cases vs.filterMap Validation.error? with
  | nil => rfl
  | cons e es => exact congrArg Validation.failure (Combine.merge_eq_foldl e es).symm

end Tally

/-! ### Lists in parts -/

namespace Validation

variable {ε : Type u} {α : Type v}

theorem filterMap_error?_eq_nil {vs : List (Validation ε α)} :
    vs.filterMap error? = [] ↔ ∀ v ∈ vs, v.isFailure = false := by
  rw [List.filterMap_eq_nil_iff]
  refine forall₂_congr fun v _ => ?_
  cases v <;> simp [error?, isFailure]

variable [Combine ε]

/-- All validations at once fail with the errors merged from left to right. -/
theorem all_eq_failure {vs : List (Validation ε α)} {e : ε} :
    all vs = failure e ↔ Combine.fromLeft? (vs.filterMap error?) = some e := by
  rw [← Tally.outcome_ofList, Tally.ofList_eq]
  cases h : Combine.fromLeft? (vs.filterMap error?) <;> simp [Tally.outcome]

/-- The validations of a list in two parts are those of the parts, put together. -/
theorem all_append (vs ws : List (Validation ε α)) :
    all (vs ++ ws) = ((all vs).both (all ws)).map fun p => p.1 ++ p.2 := by
  induction vs with
  | nil => cases h : all ws <;> simp [h, both, map]
  | cons v vs ih =>
    rw [List.cons_append, all_cons, ih, all_cons]
    cases v <;> cases all vs <;> cases all ws <;> simp [both, map, combine_assoc]

end Validation

/-! ### Trees -/

/-- The elements of a list, put together two by two. -/
inductive Grouping (β : Type u) where
  | one (element : β)
  | two (first second : Grouping β)

namespace Grouping

variable {ε : Type u} {α : Type v} {β : Type w}

/-- The elements from left to right. -/
def leaves : Grouping β → List β
  | one element => [element]
  | two first second => first.leaves ++ second.leaves

/-- A value for each element, nested in pairs as the elements are grouped. -/
def Nested (α : Type v) : Grouping β → Type v
  | one _ => α
  | two first second => first.Nested α × second.Nested α

/-- The nested values from left to right. -/
def flatten : (g : Grouping β) → g.Nested α → List α
  | one _, a => [a]
  | two first second, (as, bs) => first.flatten as ++ second.flatten bs

/-- Validations put together as they are grouped. -/
def together [Combine ε] : (g : Grouping (Validation ε α)) → Validation ε (g.Nested α)
  | one v => v
  | two first second => first.together.both second.together

variable [Combine ε]

/-- But for the nesting of the values, the grouping does not matter. -/
theorem map_flatten_together (g : Grouping (Validation ε α)) :
    g.together.map g.flatten = Validation.all g.leaves := by
  induction g with
  | one v => cases v <;> rfl
  | two first second ihfirst ihsecond =>
    rw [leaves, Validation.all_append, ← ihfirst, ← ihsecond, together]
    cases first.together <;> cases second.together <;> rfl

theorem together_eq_failure {g : Grouping (Validation ε α)} {e : ε} :
    g.together = .failure e ↔ Validation.all g.leaves = .failure e := by
  rw [← map_flatten_together]
  cases g.together <;> simp [Validation.map]

/-- **Accumulation is independent of grouping.** Validations that are put together along a tree fail
exactly when one of them fails, with all errors merged from left to right, which is also the failure
of all of them at once. When none fails, all at once have their values in order, and the tree has
the same values nested. A list in two parts has the outcome of its parts put together, with the
values of both one after the other. -/
theorem grouping_outcome (g : Grouping (Validation ε α)) :
    ((∃ e, g.together = .failure e) ↔ ∃ v ∈ g.leaves, v.isFailure = true) ∧
    (∀ e, g.together = .failure e ↔
      Combine.fromLeft? (g.leaves.filterMap Validation.error?) = some e) ∧
    (∀ e, g.together = .failure e ↔ Validation.all g.leaves = .failure e) ∧
    (∀ values, g.leaves = values.map Validation.success →
      Validation.all g.leaves = .success values ∧
        ∃ nested, g.together = .success nested ∧ g.flatten nested = values) ∧
    ∀ vs ws : List (Validation ε α), Validation.all (vs ++ ws) =
      ((Validation.all vs).both (Validation.all ws)).map fun p => p.1 ++ p.2 := by
  refine ⟨?_, fun e => ?_, fun e => together_eq_failure, fun values h => ?_,
    Validation.all_append⟩
  · simp only [together_eq_failure, Validation.all_eq_failure]
    rw [← Option.isSome_iff_exists, Option.isSome_iff_ne_none, Ne, Combine.fromLeft?_eq_none,
      Validation.filterMap_error?_eq_nil]
    simp
  · rw [together_eq_failure, Validation.all_eq_failure]
  · have hall := Validation.all_eq_success.2 h
    refine ⟨hall, ?_⟩
    rw [← map_flatten_together] at hall
    exact Validation.map_eq_success.1 hall

/-- Four validations in two pairs, of which three fail. -/
def failingPairs : Grouping (Validation (List String) Nat) :=
  .two (.two (.one (.failure ["short"])) (.one (.success 1)))
    (.two (.one (.failure ["dull"])) (.one (.failure ["late"])))

/-- Three validations that do not fail, the last two of them in a pair. -/
def passingPair : Grouping (Validation (List String) Nat) :=
  .two (.one (.success 2)) (.two (.one (.success 3)) (.one (.success 5)))

/-- The errors of both pairs are merged into one list, and the other tree has its values nested. -/
theorem grouping_outcome_pairs :
    failingPairs.together = .failure ["short", "dull", "late"] ∧
      Validation.all failingPairs.leaves = .failure ["short", "dull", "late"] ∧
      passingPair.leaves = [2, 3, 5].map Validation.success ∧
      Validation.all passingPair.leaves = .success [2, 3, 5] ∧
      ∃ nested : Nat × Nat × Nat, passingPair.together = .success nested ∧
        passingPair.flatten nested = [2, 3, 5] := by
  obtain ⟨-, hmerged, hall, -⟩ := grouping_outcome failingPairs
  have hfail : failingPairs.together = .failure ["short", "dull", "late"] :=
    (hmerged _).2 rfl
  obtain ⟨-, -, -, hvalues, -⟩ := grouping_outcome passingPair
  have hleaves : passingPair.leaves = [2, 3, 5].map Validation.success := rfl
  obtain ⟨hsuccess, hnested⟩ := hvalues _ hleaves
  exact ⟨hfail, (hall _).1 hfail, hleaves, hsuccess, hnested⟩

end Grouping
end Assay
