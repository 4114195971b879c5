import Assay.Proofs.Acceptance
import Assay.Proofs.Checks
import Assay.Proofs.Doubles

/-!
# Bounds of number rules

A call that sets a bound requires a comparison with it, in the order of doubles, which leaves NaN
without a place. The checks look for the opposite comparison. The two agree for every bound but
NaN: no comparison with NaN is true, so a bound that is NaN is neither met nor violated.

* `NumberCall.Requires`: what a call requires of a number;
* `NumberCall.isViolated_eq_false`: a call is not violated when its bound is NaN or met;
* `Rule.number_accepts_iff`: what a number rule accepts.
-/

namespace Assay

/-! ### Comparisons of doubles -/

namespace Double

section Order

variable {x y : Double} (hx : x.isNaN = false)

include hx

theorem compare?_eq_some {o : Ordering} :
    x.compare? y = some o ↔ y.isNaN = false ∧ compare x.units y.units = o := by
  rw [compare?, hx, Bool.false_or]
  cases y.isNaN <;> simp

theorem le_eq_false : x.le y = false ↔ y.isNaN = true ∨ x.compare? y = some .gt := by
  rw [compare?_eq_some hx, compare_gt_iff_gt, le, hx]
  cases y.isNaN <;> simp

theorem lt_eq_false : x.lt y = false ↔
    y.isNaN = true ∨ x.compare? y = some .gt ∨ x.compare? y = some .eq := by
  rw [compare?_eq_some hx, compare?_eq_some hx, compare_gt_iff_gt, compare_eq_iff_eq, lt, hx]
  cases y.isNaN <;> simp [le_iff_lt_or_eq, eq_comm]

theorem le_eq_false' : y.le x = false ↔ y.isNaN = true ∨ x.compare? y = some .lt := by
  rw [compare?_eq_some hx, compare_lt_iff_lt, le, hx]
  cases y.isNaN <;> simp

theorem lt_eq_false' : y.lt x = false ↔
    y.isNaN = true ∨ x.compare? y = some .lt ∨ x.compare? y = some .eq := by
  rw [compare?_eq_some hx, compare?_eq_some hx, compare_lt_iff_lt, compare_eq_iff_eq, lt, hx]
  cases y.isNaN <;> simp [le_iff_lt_or_eq]

end Order
end Double

namespace NumberCall

/-- What a call requires of a number, in the order of doubles. -/
def Requires (x : Double) : NumberCall Double → Prop
  | gt bound => x.compare? bound = some .gt
  | gte bound | min bound => x.compare? bound = some .gt ∨ x.compare? bound = some .eq
  | lt bound => x.compare? bound = some .lt
  | lte bound | max bound => x.compare? bound = some .lt ∨ x.compare? bound = some .eq
  | positive => x.compare? (.zero false) = some .gt
  | nonNegative => x.compare? (.zero false) = some .gt ∨ x.compare? (.zero false) = some .eq
  | negative => x.compare? (.zero false) = some .lt
  | nonPositive => x.compare? (.zero false) = some .lt ∨ x.compare? (.zero false) = some .eq
  | multipleOf divisor => x.NearMultiple divisor
  | int => (Double.unit : Int) ∣ x.units

/-- Whether a call sets a bound that is NaN. -/
def boundIsNaN : NumberCall Double → Bool
  | gt bound | gte bound | lt bound | lte bound | min bound | max bound => bound.isNaN
  | _ => false

/-- No number meets a bound that is NaN. -/
theorem not_requires {call : NumberCall Double} (h : call.boundIsNaN = true) (x : Double) :
    ¬call.Requires x := by
  have hnone : ∀ bound : Double, bound.isNaN = true → x.compare? bound = none := by
    intro bound hbound
    rw [Double.compare?, hbound, Bool.or_true, if_pos rfl]
  cases call <;> simp_all [boundIsNaN, Requires]

/-- A call is not violated when its bound is NaN or what it requires holds. -/
theorem isViolated_eq_false {call : NumberCall Double} {x : Double} (hx : x.isFinite = true) :
    call.check.isViolated x = false ↔ call.boundIsNaN = true ∨ call.Requires x := by
  have hnan := Double.isNaN_of_isFinite hx
  cases call with
  | gt bound => exact Double.le_eq_false hnan
  | gte bound => exact Double.lt_eq_false hnan
  | min bound => exact Double.lt_eq_false hnan
  | lt bound => exact Double.le_eq_false' hnan
  | lte bound => exact Double.lt_eq_false' hnan
  | max bound => exact Double.lt_eq_false' hnan
  | positive => exact Double.le_eq_false hnan
  | nonNegative => exact Double.lt_eq_false hnan
  | negative => exact Double.le_eq_false' hnan
  | nonPositive => exact Double.lt_eq_false' hnan
  | multipleOf divisor =>
    rw [check, NumberCheck.isViolated, Bool.not_eq_false', Measured.isMultipleOf_iff]
    simp [boundIsNaN, Requires, Measured.Multiple]
  | int =>
    rw [check, NumberCheck.isViolated, Bool.not_eq_false', Measured.isIntegral_iff]
    simp [boundIsNaN, Requires, Measured.Whole, hx]

end NumberCall

/-! ### Chains of calls -/

/-- A chain of calls makes one check of each call, in their order. -/
theorem NumberRule.checks_ofCalls {ν : Type} [Numeric ν] (calls : List (NumberCall ν)) :
    (ofCalls calls).checks = calls.map NumberCall.check := by
  induction calls using List.reverseRecOn with
  | nil => rfl
  | append_singleton calls c ih =>
    rw [List.map_append, ← ih]
    simp [ofCalls, call]

/-- A number has no issues when no call is violated. -/
theorem NumberRule.issues_ofCalls_eq_nil {ν : Type} [Numeric ν] {calls : List (NumberCall ν)}
    {n : ν} : (ofCalls calls).issues n = [] ↔ ∀ call ∈ calls, call.check.isViolated n = false := by
  rw [issues_eq_nil_iff, checks_ofCalls, List.forall_mem_map]

namespace Rule

/-- **What a number rule accepts.** A number is accepted exactly when every call has a bound that is
NaN or requires what holds of the number; the output is the number as a double. So the calls that
accept a number are those whose comparison is true, unless a bound is NaN and no other call refuses
the number. -/
theorem number_accepts_iff (calls : List (NumberCall Double)) (n : Number) :
    ((∃ output, (number (.ofCalls calls)).parse (.number n) = .success output) ↔
      ∀ call ∈ calls, call.boundIsNaN = true ∨ call.Requires n.toDouble) ∧
    (∀ output, (number (.ofCalls calls)).parse (.number n) = .success output →
      output = .number n.toDouble) ∧
    (((∃ output, (number (.ofCalls calls)).parse (.number n) = .success output) ↔
        ∀ call ∈ calls, call.Requires n.toDouble) ↔
      (∀ call ∈ calls, call.boundIsNaN = false) ∨
        ∃ call ∈ calls, call.boundIsNaN = false ∧ ¬call.Requires n.toDouble) := by
  have haccept : (∃ output, (number (.ofCalls calls)).parse (.number n) = .success output) ↔
      ∀ call ∈ calls, call.boundIsNaN = true ∨ call.Requires n.toDouble := by
    simp only [← NumberCall.isViolated_eq_false n.isFinite_toDouble,
      ← NumberRule.issues_ofCalls_eq_nil, parse_number_eq_success]
    constructor
    · rintro ⟨_, _, ⟨rfl⟩, -, h⟩
      exact h
    · intro h
      exact ⟨_, n, rfl, rfl, h⟩
  refine ⟨haccept, fun output h => ?_, ?_⟩
  · obtain ⟨_, ⟨rfl⟩, houtput, -⟩ := parse_number_eq_success.1 h
    exact houtput
  · rw [haccept]
    by_cases hnan : ∀ call ∈ calls, call.boundIsNaN = false
    · have hsame : (∀ call ∈ calls, call.boundIsNaN = true ∨ call.Requires n.toDouble) ↔
          ∀ call ∈ calls, call.Requires n.toDouble := by
        refine forall₂_congr fun call hcall => ?_
        rw [hnan call hcall]
        simp
      exact iff_of_true hsame (.inl hnan)
    -- the comparison with NaN fails, so the calls agree with the rule only where it refuses as well
    · have hrefused : ¬∀ call ∈ calls, call.Requires n.toDouble := by
        intro h
        obtain ⟨call, hcall, hbound⟩ : ∃ call ∈ calls, call.boundIsNaN = true := by
          simpa using hnan
        exact NumberCall.not_requires hbound _ (h call hcall)
      rw [iff_false_right hrefused, or_iff_right hnan]
      simp only [not_forall, not_or, Bool.not_eq_true, exists_prop]

/-- The number one is positive and below infinity, and a bound that is NaN does not refuse it. -/
theorem number_accepts_one :
    (number (.ofCalls [.gt .nan, .positive, .lt (.infinity false)])).parse
        (.number (.whole 1 rfl)) = .success (.number (.ofInt 1)) ∧
      ¬∀ call ∈ [NumberCall.gt .nan, .positive, .lt (.infinity false)],
        call.Requires (.ofInt 1) := by
  obtain ⟨haccept, houtput, hmeans⟩ :=
    number_accepts_iff [.gt .nan, .positive, .lt (.infinity false)] (.whole 1 rfl)
  have hcalls : ∀ call ∈ [NumberCall.gt .nan, .positive, .lt (.infinity false)],
      call.boundIsNaN = true ∨ call.Requires (.ofInt 1) := by
    have hpositive : (Double.ofInt 1).compare? (.zero false) = some .gt := by decide +kernel
    have hfinite : (Double.ofInt 1).compare? (.infinity false) = some .lt := by decide +kernel
    simp only [List.forall_mem_cons]
    exact ⟨.inl rfl, .inr hpositive, .inr hfinite, nofun⟩
  obtain ⟨output, hsuccess⟩ := haccept.2 hcalls
  obtain rfl := houtput output hsuccess
  refine ⟨hsuccess, fun hall => ?_⟩
  exact NumberCall.not_requires rfl _ (hall _ List.mem_cons_self)

/-- A bound that is NaN lets the number one pass, though no number is greater than it. -/
theorem number_nan_accepts :
    ¬((∃ output, (number (.ofCalls [.gt .nan])).parse (.number (.whole 1 rfl)) =
          .success output) ↔
        ∀ call ∈ [NumberCall.gt Double.nan], call.Requires (Number.toDouble (.whole 1 rfl))) := by
  intro h
  have hissues : (NumberRule.ofCalls [.gt Double.nan]).issues (.ofInt 1) = [] := by
    rw [NumberRule.issues_ofCalls_eq_nil]
    simp only [List.forall_mem_singleton]
    exact (NumberCall.isViolated_eq_false (Double.isFinite_ofInt rfl)).2 (.inl rfl)
  have haccept := parse_number_eq_success.2 ⟨.whole 1 rfl, rfl, rfl, hissues⟩
  exact NumberCall.not_requires rfl _ (h.1 ⟨_, haccept⟩ _ List.mem_cons_self)

end Rule
end Assay
