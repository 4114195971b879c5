import Assay.Rule.Basic
import Mathlib.Tactic

/-!
# Outcomes of parsing

A validation with diagnostics is described from two sides: by its list of issues, which is
empty exactly for a success, and by the values with which it succeeds.

* `issues_both`, `issues_all`: independent validations put their issues one after the other;
* `both_eq_success`, `all_eq_success`: they succeed exactly when all of them do;
* `all_cons`: a list of validations is the first one and the others, put together.
-/

namespace Assay
namespace Validation

variable {ε : Type u} {α : Type v}

/-! ### Steps one after the other -/

theorem andThen_assoc (v : Validation ε α) (f : α → Validation ε β) (g : β → Validation ε γ) :
    (v.andThen f).andThen g = v.andThen fun a => (f a).andThen g := by
  cases v <;> rfl

theorem map_eq_andThen (v : Validation ε α) (f : α → β) :
    v.map f = v.andThen fun a => success (f a) := by
  cases v <;> rfl

/-! ### Successes and failures -/

theorem map_eq_success {v : Validation ε α} {f : α → β} {b : β} :
    v.map f = success b ↔ ∃ a, v = success a ∧ f a = b := by
  cases v <;> simp [map]

theorem mapError_eq_success {v : Validation ε α} {f : ε → δ} {a : α} :
    v.mapError f = success a ↔ v = success a := by
  cases v <;> simp [mapError]

theorem andThen_eq_success {v : Validation ε α} {f : α → Validation ε β} {b : β} :
    v.andThen f = success b ↔ ∃ a, v = success a ∧ f a = success b := by
  cases v <;> simp [andThen]

theorem andThen_eq_failure {v : Validation ε α} {f : α → Validation ε β} {e : ε} :
    v.andThen f = failure e ↔ v = failure e ∨ ∃ a, v = success a ∧ f a = failure e := by
  cases v <;> simp [andThen]

theorem both_eq_success [Combine ε] {v : Validation ε α} {w : Validation ε β} {p : α × β} :
    v.both w = success p ↔ v = success p.1 ∧ w = success p.2 := by
  obtain ⟨a, b⟩ := p
  cases v <;> cases w <;> simp [both]

@[simp] theorem all_nil [Combine ε] : all ([] : List (Validation ε α)) = success [] := rfl

/-- The errors of a list come behind the error of a validation in front of it. -/
theorem all_cons [Combine ε] (v : Validation ε α) (vs : List (Validation ε α)) :
    all (v :: vs) = (v.both (all vs)).map fun (a, as) => a :: as := by
  unfold all
  cases v with
  | success a =>
    rw [show (success a :: vs).filterMap error? = vs.filterMap error? from rfl]
    cases hs : vs.filterMap error? <;> rfl
  | failure e =>
    rw [show (failure e :: vs).filterMap error? = e :: vs.filterMap error? from rfl]
    cases hs : vs.filterMap error? <;> rfl

theorem all_eq_success [Combine ε] {vs : List (Validation ε α)} {as : List α} :
    all vs = success as ↔ vs = as.map success := by
  induction vs generalizing as with
  | nil => cases as <;> simp
  | cons v vs ih =>
    rw [all_cons, map_eq_success]
    constructor
    · rintro ⟨⟨a, rest⟩, h, rfl⟩
      obtain ⟨rfl, hrest⟩ := both_eq_success.1 h
      rw [ih.1 hrest, List.map_cons]
    · intro h
      cases as with
      | nil => cases h
      | cons a rest =>
        obtain ⟨rfl, hrest⟩ := List.cons.inj h
        exact ⟨(a, rest), both_eq_success.2 ⟨rfl, ih.2 hrest⟩, rfl⟩

/-! ### Issues -/

/-- The issues of an outcome, in order. -/
def issues : Validation Diagnostics α → List Issue
  | success _ => []
  | failure d => d.toList

@[simp] theorem issues_success (a : α) : (success a : Validation Diagnostics α).issues = [] := rfl

@[simp] theorem issues_failure (d : Diagnostics) :
    (failure d : Validation Diagnostics α).issues = d.toList := rfl

/-- Diagnostics are never empty, so a list of issues without members means a success. -/
theorem issues_eq_nil {v : Validation Diagnostics α} : v.issues = [] ↔ v.isSuccess = true := by
  cases v with
  | success a => simp [isSuccess]
  | failure d => simp [isSuccess, Diagnostics.toList, NonEmptyList.toList]

/-- A failure is told by its issues. -/
theorem eq_failure_iff {v : Validation Diagnostics α} {d : Diagnostics} :
    v = failure d ↔ v.issues = d.toList := by
  cases v with
  | success a => simp [Diagnostics.toList, NonEmptyList.toList]
  | failure e => simp [Diagnostics.toList_inj]

@[simp] theorem issues_map (f : α → β) (v : Validation Diagnostics α) :
    (v.map f).issues = v.issues := by
  cases v <;> rfl

@[simp] theorem issues_under (segment : PathSegment) (v : Validation Diagnostics α) :
    (v.mapError (·.under segment)).issues = v.issues.map (Issue.under segment) := by
  cases v <;> rfl

@[simp] theorem issues_both (v : Validation Diagnostics α) (w : Validation Diagnostics β) :
    (v.both w).issues = v.issues ++ w.issues := by
  cases v <;> cases w <;> simp [both]

/-- An issue of two steps is one of the first step, or one of the second if the first succeeds. -/
theorem mem_issues_andThen {v : Validation Diagnostics α} {f : α → Validation Diagnostics β}
    {issue : Issue} :
    issue ∈ (v.andThen f).issues ↔
      issue ∈ v.issues ∨ ∃ a, v = success a ∧ issue ∈ (f a).issues := by
  cases v <;> simp [andThen]

@[simp] theorem issues_all (vs : List (Validation Diagnostics α)) :
    (all vs).issues = vs.flatMap issues := by
  induction vs with
  | nil => rfl
  | cons v vs ih => rw [all_cons, issues_map, issues_both, ih, List.flatMap_cons]

end Validation

/-- The diagnostics of a list of issues hold this list. -/
theorem Diagnostics.toList_of_ofList? {issues : List Issue} {d : Diagnostics}
    (h : ofList? issues = some d) : d.toList = issues := by
  obtain ⟨xs, hxs, rfl⟩ := Option.map_eq_some_iff.1 h
  exact NonEmptyList.ofList?_eq_some.1 hxs

theorem Diagnostics.ofList?_eq_none {issues : List Issue} :
    ofList? issues = none ↔ issues = [] := by
  rw [ofList?, Option.map_eq_none_iff, NonEmptyList.ofList?_eq_none]

@[simp] theorem Rule.issues_checked (issues : List Issue) : (checked issues).issues = issues := by
  unfold checked
  cases h : Diagnostics.ofList? issues with
  | some d => exact Diagnostics.toList_of_ofList? h
  | none => exact (Diagnostics.ofList?_eq_none.1 h).symm

theorem Rule.checked_eq_success {issues : List Issue} {u : Unit} :
    checked issues = .success u ↔ issues = [] := by
  unfold checked
  cases h : Diagnostics.ofList? issues with
  | some d => simp [← Diagnostics.ofList?_eq_none, h]
  | none => simp [← Diagnostics.ofList?_eq_none, h]

end Assay
