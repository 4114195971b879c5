import Assay.Proofs.NumberBounds

/-!
# Chains of calls on integer rules

A chain of calls on an integer rule decides by the arithmetic of all integers, though it computes
in 64 bits: the order is that of the integers, and the test for multiples takes a remainder only
where the quotient fits, and agrees with divisibility also where it takes none.

* `NumberCall.Allows`: which integers a call allows;
* `NumberCall.allows_iff`: a call is violated by the integers that it does not allow;
* `tdiv_fits_iff`: which quotients fit into 64 bits;
* `Int64.remainder?_eq_some_iff`: where a remainder is taken, and what it is;
* `Rule.integer_chain_outcome`: the outcome of a chain of calls.
-/

namespace Assay

/-! ### What a call allows -/

namespace NumberCall

/-- Whether a call allows an integer. No integer is a multiple of zero. -/
def Allows (z : Int) : NumberCall Int64 → Prop
  | gt bound => bound.toInt < z
  | gte bound | min bound => bound.toInt ≤ z
  | lt bound => z < bound.toInt
  | lte bound | max bound => z ≤ bound.toInt
  | positive => 0 < z
  | nonNegative => 0 ≤ z
  | negative => z < 0
  | nonPositive => z ≤ 0
  | multipleOf divisor => divisor.toInt ≠ 0 ∧ divisor.toInt ∣ z
  | int => True

/-- A call is violated by the integers that it does not allow. -/
theorem allows_iff {call : NumberCall Int64} {z : Int64} :
    call.Allows z.toInt ↔ call.check.isViolated z = false := by
  have hmet : call.check.isViolated z = false ↔ call.check.Met z :=
    NumberCheck.isViolated_eq_false trivial fun _ _ => trivial
  rw [hmet]
  cases call <;> exact Iff.rfl

instance (call : NumberCall Int64) (z : Int64) : Decidable (call.Allows z.toInt) :=
  decidable_of_iff _ allows_iff.symm

end NumberCall

/-! ### Remainders -/

/-- A quotient of integers of 64 bits fits into 64 bits, but for the least integer by -1. -/
theorem tdiv_fits_iff {z divisor : Int} (hlow : -2 ^ 63 ≤ z) (hhigh : z < 2 ^ 63)
    (hzero : divisor ≠ 0) :
    -2 ^ 63 ≤ z.tdiv divisor ∧ z.tdiv divisor < 2 ^ 63 ↔ ¬(z = -2 ^ 63 ∧ divisor = -1) := by
  have hsize : (z.tdiv divisor).natAbs = z.natAbs / divisor.natAbs := Int.natAbs_tdiv z divisor
  constructor
  · rintro ⟨-, hfits⟩ ⟨rfl, rfl⟩
    rw [Int.tdiv_neg, Int.tdiv_one] at hfits
    omega
  · intro h
    rcases eq_or_ne divisor.natAbs 1 with hunit | hunit
    · rcases Int.natAbs_eq_iff.1 hunit with rfl | rfl
      · rw [Nat.cast_one, Int.tdiv_one]
        exact ⟨hlow, hhigh⟩
      · rw [Nat.cast_one, Int.tdiv_neg, Int.tdiv_one]
        omega
    · -- any other divisor halves the size at least
      have hhalf : z.natAbs / divisor.natAbs ≤ z.natAbs / 2 :=
        Nat.div_le_div_left (by omega) (by decide)
      omega

namespace Int64

variable {z divisor r : Int64}

theorem exists_toInt_eq {n : Int} : (∃ q : Int64, q.toInt = n) ↔ -2 ^ 63 ≤ n ∧ n < 2 ^ 63 := by
  constructor
  · rintro ⟨q, rfl⟩
    exact ⟨q.le_toInt, q.toInt_lt⟩
  · rintro ⟨hlow, hhigh⟩
    exact ⟨Int64.ofInt n, Int64.toInt_ofInt_of_le hlow (by omega)⟩

/-- There is a remainder where the divisor is not zero and the quotient fits into 64 bits, and then
it is that of the integers. -/
theorem remainder?_eq_some_iff :
    Int64.remainder? z divisor = some r ↔
      divisor.toInt ≠ 0 ∧ (∃ q : Int64, q.toInt = z.toInt.tdiv divisor.toInt) ∧
        r.toInt = z.toInt.tmod divisor.toInt := by
  have hleast : Int64.minValue.toInt = -2 ^ 63 := rfl
  have hunit : (-1 : Int64).toInt = -1 := rfl
  rw [remainder?_eq_some, exists_toInt_eq, ← Int64.toInt_inj.ne, Int64.toInt_zero]
  refine and_congr_right fun hzero => and_congr_left' ?_
  rw [tdiv_fits_iff z.le_toInt z.toInt_lt hzero, ← Int64.toInt_inj, ← Int64.toInt_inj, hleast,
    hunit]

end Int64

/-! ### Issues of a chain -/

namespace NumberRule

variable {ν : Type} [Numeric ν]

/-- A number has one issue for each check that it violates, in their order. -/
theorem issues_eq_map (rule : NumberRule ν) (n : ν) :
    rule.issues n =
      (rule.checks.filter (·.isViolated n)).map NumberCheck.violation := by
  rw [← List.filterMap_eq_map, List.filterMap_filter]
  rfl

theorem issues_parse (rule : NumberRule ν) {input : Json} {n : ν}
    (h : Numeric.extract input = .ok n) : (rule.parse input).issues = rule.issues n := by
  rw [parse_of_extract rule h, Validation.issues_map, Rule.issues_checked]

end NumberRule

/-- An integer has one issue for each call that does not allow it, in the order of the calls. -/
theorem NumberRule.issues_ofCalls (calls : List (NumberCall Int64)) (z : Int64) :
    (ofCalls calls).issues z =
      (calls.filter fun call => ¬call.Allows z.toInt).map fun call => call.check.violation := by
  rw [issues_eq_map, checks_ofCalls, List.filter_map, List.map_map]
  congr 2
  funext call
  simp [NumberCall.allows_iff]

namespace Rule

/-- **Chains of calls on integer rules decide exact arithmetic.** An integer of 64 bits is accepted
as it is exactly when every call allows it; otherwise its issues are one for each call that does
not, in the order of the calls. A remainder is taken only where the divisor is not zero and the
quotient fits into 64 bits, and it is the remainder of the integers. -/
theorem integer_chain_outcome (calls : List (NumberCall Int64)) :
    (∀ input z, Numeric.extract input = .ok z →
      (∀ output, (integer (.ofCalls calls)).parse input = .success output ↔
        output = .integer z ∧ ∀ call ∈ calls, call.Allows z.toInt) ∧
      ∀ d, (integer (.ofCalls calls)).parse input = .failure d ↔
        d.toList = (calls.filter fun call => ¬call.Allows z.toInt).map
          fun call => call.check.violation) ∧
    ∀ z divisor r : Int64, Int64.remainder? z divisor = some r ↔
      divisor.toInt ≠ 0 ∧ (∃ q : Int64, q.toInt = z.toInt.tdiv divisor.toInt) ∧
        r.toInt = z.toInt.tmod divisor.toInt := by
  refine ⟨fun input z h => ⟨fun output => ?_, fun d => ?_⟩,
    fun _ _ _ => Int64.remainder?_eq_some_iff⟩
  · have hmet : (NumberRule.ofCalls calls).issues z = [] ↔
        ∀ call ∈ calls, call.Allows z.toInt := by
      simp only [NumberRule.issues_ofCalls_eq_nil, NumberCall.allows_iff]
    rw [parse, Validation.map_eq_success]
    constructor
    · rintro ⟨k, hk, rfl⟩
      obtain ⟨hextract, hissues⟩ := NumberRule.parse_eq_success.1 hk
      obtain rfl := Except.ok.inj (h.symm.trans hextract)
      exact ⟨rfl, hmet.1 hissues⟩
    · rintro ⟨rfl, hall⟩
      exact ⟨z, NumberRule.parse_eq_success.2 ⟨h, hmet.2 hall⟩, rfl⟩
  · rw [Validation.eq_failure_iff, parse, Validation.issues_map, NumberRule.issues_parse _ h,
      NumberRule.issues_ofCalls, eq_comm]

/-- Negative divisors and bounds for negative numbers. -/
def negativeCalls : List (NumberCall Int64) :=
  [.multipleOf (-1), .min Int64.minValue, .multipleOf (-2), .negative]

/-- A divisor that has no multiples, between calls that allow zero, and a bound above it. -/
def zeroCalls : List (NumberCall Int64) := [.nonPositive, .multipleOf 0, .multipleOf 7, .gt 5]

/-- The least integer is a multiple of -1, though the quotient does not fit, and zero is no multiple
of zero. -/
theorem integer_chain_outcome_least :
    Numeric.extract (Json.ofInt64 Int64.minValue) = .ok Int64.minValue ∧
      (integer (.ofCalls negativeCalls)).parse (Json.ofInt64 Int64.minValue) =
        .success (.integer Int64.minValue) ∧
      Numeric.extract (Json.ofInt64 0) = .ok (0 : Int64) ∧
      ∃ d, (integer (.ofCalls zeroCalls)).parse (Json.ofInt64 0) = .failure d ∧
        d.messages = ["Invalid number: must be a multiple of 0",
          "Too small: expected number to be >5"] := by
  have hleast : Numeric.extract (Json.ofInt64 Int64.minValue) = .ok Int64.minValue := by
    decide +kernel
  have hzero : Numeric.extract (Json.ofInt64 0) = .ok (0 : Int64) := by decide +kernel
  refine ⟨hleast, ?_, hzero, ⟨⟨NumberCheck.violation (.multipleOf (0 : Int64)),
    [NumberCheck.violation (.gt (5 : Int64))]⟩⟩, ?_, by decide +kernel⟩
  · exact (((integer_chain_outcome negativeCalls).1 _ _ hleast).1 _).2 ⟨rfl, by decide +kernel⟩
  · exact (((integer_chain_outcome zeroCalls).1 _ _ hzero).2 _).2 (by decide +kernel)

end Rule
end Assay
