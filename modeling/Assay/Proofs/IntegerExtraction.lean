import Assay.Proofs.Acceptance
import Assay.Proofs.Checks

/-!
# Extraction of integers

A JSON number stands for a rational number: a whole number for itself, a double for its dyadic
value. The integer rule takes exactly the integers of 64 bits out of these values, and refuses
each of the others for the one reason that applies.

* `Number.value`: the exact value of a number;
* `Number.toInt64_of_value`, `Number.toInt64_of_fraction`: extraction depends on the value alone;
* `Double.toInt64_eq`: the same outcome by comparisons of doubles and a cast that saturates, whose
  bounds are rounded to doubles;
* `Rule.integer_outcome`: the outcome of the integer rule for every input.
-/

namespace Assay

/-! ### Exact values -/

/-- The exact value of a finite double. -/
def Double.value (x : Double) : ℚ := x.units / Double.unit

/-- The exact value of a number. -/
def Number.value : Number → ℚ
  | .whole n _ => n
  | .real x _ => x.value

namespace Double

theorem value_eq_intCast {x : Double} {z : Int} : x.value = z ↔ x.units = z * unit := by
  have hunit : (unit : ℚ) ≠ 0 := Nat.cast_ne_zero.2 unit_pos.ne'
  rw [value, div_eq_iff hunit]
  exact_mod_cast Iff.rfl

/-- A finite double is integral when its value is an integer. -/
theorem isIntegral_iff_value {x : Double} (hx : x.isFinite = true) :
    x.isIntegral = true ↔ ∃ z : Int, x.value = z := by
  simp only [isIntegral_iff, hx, true_and, value_eq_intCast, dvd_iff_exists_eq_mul_left]

theorem truncate_of_value {x : Double} {z : Int} (h : x.value = z) : x.truncate = z := by
  rw [truncate, value_eq_intCast.1 h]
  exact Int.mul_tdiv_cancel z (by exact_mod_cast unit_pos.ne')

end Double

/-! ### Extraction -/

/-- The issue of a number below all integers of 64 bits. -/
def Issue.belowInt64 : Issue :=
  .atRoot (.tooSmall "-9223372036854775808" true)
    "Too small: expected integer to be >=-9223372036854775808"

/-- The issue of a number above all integers of 64 bits. -/
def Issue.aboveInt64 : Issue :=
  .atRoot (.tooBig "9223372036854775807" true)
    "Too big: expected integer to be <=9223372036854775807"

@[simp] theorem Issue.belowInt64_ne_aboveInt64 : belowInt64 ≠ aboveInt64 := by
  simp [belowInt64, aboveInt64, atRoot]

@[simp] theorem Issue.notInteger_ne_belowInt64 : notInteger ≠ belowInt64 := by
  simp [notInteger, belowInt64, atRoot]

@[simp] theorem Issue.notInteger_ne_aboveInt64 : notInteger ≠ aboveInt64 := by
  simp [notInteger, aboveInt64, atRoot]

/-- An integer in 64 bits with sign, or the bound that it exceeds. -/
def Int64.fit (z : Int) : Except Issue Int64 :=
  if z < -2 ^ 63 then .error .belowInt64
  else if z ≤ 2 ^ 63 - 1 then .ok (Int64.ofInt z)
  else .error .aboveInt64

namespace Number

/-- An integral number is extracted as its value, if that fits. -/
theorem toInt64_of_value {n : Number} {z : Int} (h : n.value = z) : n.toInt64 = Int64.fit z := by
  cases n with
  | whole m fits =>
    have hcast : (m : ℚ) = z := h
    obtain rfl : m = z := by exact_mod_cast hcast
    rfl
  | real x finite =>
    have hintegral : x.isIntegral = true := (Double.isIntegral_iff_value finite).2 ⟨z, h⟩
    rw [toInt64]
    simp only [hintegral, if_true, Double.truncate_of_value h]
    rfl

/-- A number with a fractional part is refused. -/
theorem toInt64_of_fraction {n : Number} (h : ∀ z : Int, n.value ≠ z) :
    n.toInt64 = .error .notInteger := by
  cases n with
  | whole m fits => exact absurd rfl (h m)
  | real x finite =>
    have hintegral : x.isIntegral ≠ true := fun hx =>
      (Double.isIntegral_iff_value finite).1 hx |>.elim h
    rw [toInt64]
    simp only [if_neg hintegral]

end Number

namespace Int64

theorem fit_eq_ok {z : Int} {k : Int64} : fit z = .ok k ↔ k.toInt = z := by
  have hlow : -2 ^ 63 ≤ k.toInt := k.le_toInt
  have hhigh : k.toInt < 2 ^ 63 := k.toInt_lt
  unfold fit
  constructor
  · intro h
    split_ifs at h with hbelow habove
    obtain rfl := Except.ok.inj h
    exact Int64.toInt_ofInt_of_le (by omega) (by omega)
  · rintro rfl
    rw [if_neg (by omega), if_pos (by omega), Int64.ofInt_toInt]

theorem exists_fit_eq_ok {z : Int} : (∃ k, fit z = .ok k) ↔ -2 ^ 63 ≤ z ∧ z ≤ 2 ^ 63 - 1 := by
  unfold fit
  split_ifs with hbelow habove
  · simp only [exists_false, false_iff]
    omega
  · simp only [Except.ok.injEq, exists_eq', true_iff]
    omega
  · simp only [exists_false, false_iff]
    omega

theorem fit_eq_below {z : Int} : fit z = .error .belowInt64 ↔ z < -2 ^ 63 := by
  unfold fit
  split_ifs with hbelow habove
  · simpa using hbelow
  · simpa using hbelow
  · simpa [Issue.belowInt64_ne_aboveInt64.symm] using hbelow

theorem fit_ne_notInteger (z : Int) : fit z ≠ .error .notInteger := by
  unfold fit
  split_ifs <;> simp [Issue.notInteger_ne_belowInt64.symm, Issue.notInteger_ne_aboveInt64.symm]

theorem fit_eq_above {z : Int} : fit z = .error .aboveInt64 ↔ 2 ^ 63 - 1 < z := by
  unfold fit
  split_ifs with hbelow habove
  · simp only [Except.error.injEq, Issue.belowInt64_ne_aboveInt64, false_iff]
    omega
  · simpa using habove
  · simpa using habove

end Int64

namespace Number

/-- What is extracted is what fits of the value, if that is an integer. -/
theorem toInt64_eq_iff {n : Number} {outcome : Except Issue Int64} :
    n.toInt64 = outcome ↔ (∃ z : Int, n.value = z ∧ Int64.fit z = outcome) ∨
      (∀ z : Int, n.value ≠ z) ∧ .error .notInteger = outcome := by
  by_cases h : ∃ z : Int, n.value = z
  · obtain ⟨z, hz⟩ := h
    have hvalue : ∀ w : Int, (z : ℚ) = w ↔ w = z := fun w => by rw [Int.cast_inj, eq_comm]
    rw [toInt64_of_value hz]
    simp only [hz, hvalue, exists_eq_left, ne_eq, forall_eq, false_and, or_false]
  · have hnone : ∀ z : Int, n.value ≠ z := fun z hz => h ⟨z, hz⟩
    rw [toInt64_of_fraction hnone]
    simp [hnone]

theorem toInt64_eq_ok {n : Number} {k : Int64} : n.toInt64 = .ok k ↔ n.value = k.toInt := by
  simp only [toInt64_eq_iff, Int64.fit_eq_ok, reduceCtorEq, and_false, or_false]
  constructor
  · rintro ⟨z, hz, rfl⟩
    exact hz
  · intro h
    exact ⟨_, h, rfl⟩

theorem exists_toInt64_eq_ok {n : Number} : (∃ k, n.toInt64 = .ok k) ↔
    ∃ z : Int, n.value = z ∧ -2 ^ 63 ≤ z ∧ z ≤ 2 ^ 63 - 1 := by
  simp only [toInt64_eq_iff, reduceCtorEq, and_false, or_false, ← Int64.exists_fit_eq_ok]
  rw [exists_comm]
  simp only [exists_and_left]

theorem toInt64_eq_below {n : Number} : n.toInt64 = .error .belowInt64 ↔
    ∃ z : Int, n.value = z ∧ z < -2 ^ 63 := by
  simp [toInt64_eq_iff, Int64.fit_eq_below]

theorem toInt64_eq_above {n : Number} : n.toInt64 = .error .aboveInt64 ↔
    ∃ z : Int, n.value = z ∧ 2 ^ 63 - 1 < z := by
  simp [toInt64_eq_iff, Int64.fit_eq_above]

theorem toInt64_eq_notInteger {n : Number} : n.toInt64 = .error .notInteger ↔
    ∀ z : Int, n.value ≠ z := by
  simp [toInt64_eq_iff, Int64.fit_ne_notInteger]

end Number

/-! ### Comparisons of doubles -/

namespace Double

/-- The least integer of 64 bits as a double. -/
def int64Min : Double := ofInt Int64.minValue.toInt

/-- The greatest integer of 64 bits, rounded to a double. -/
def int64Max : Double := ofInt Int64.maxValue.toInt

/-- A double cut to an integer of 64 bits: beyond the least and the greatest of them it becomes
these, and NaN becomes zero. -/
def castInt64 (x : Double) : Int64 := if x.isNaN then 0 else Int64.ofIntClamp x.truncate

/-- The integer in a double by comparisons with the bounds as doubles. -/
def compareInt64 (x : Double) : Except Issue Int64 :=
  if x.isIntegral && x.lt int64Min then .error .belowInt64
  else if x.isIntegral && x.lt int64Max then .ok x.castInt64
  else if x.isIntegral then .error .aboveInt64
  else .error .notInteger

/-- The lower bound is exact. -/
theorem units_int64Min : int64Min.units = -2 ^ 63 * unit := by decide +kernel

/-- The upper bound is rounded up, to the least integer above. -/
theorem units_int64Max : int64Max.units = 2 ^ 63 * unit := by decide +kernel

theorem lt_eq_true {x y : Double} (hx : x.isFinite = true) (hy : y.isNaN = false) :
    x.lt y = true ↔ x.units < y.units := by
  have hnan := isNaN_of_isFinite hx
  simp [lt, hnan, hy]

section Integral

variable {x : Double} {z : Int} (hx : x.isFinite = true) (h : x.value = z)

include hx h

theorem lt_int64Min : x.lt int64Min = true ↔ z < -2 ^ 63 := by
  rw [lt_eq_true hx (by decide +kernel), units_int64Min, value_eq_intCast.1 h]
  exact Int.mul_lt_mul_right (by exact_mod_cast unit_pos)

theorem lt_int64Max : x.lt int64Max = true ↔ z < 2 ^ 63 := by
  rw [lt_eq_true hx (by decide +kernel), units_int64Max, value_eq_intCast.1 h]
  exact Int.mul_lt_mul_right (by exact_mod_cast unit_pos)

/-- The cast keeps the value of a double that fits. -/
theorem toInt_castInt64 (hlow : -2 ^ 63 ≤ z) (hhigh : z ≤ 2 ^ 63 - 1) :
    x.castInt64.toInt = z := by
  have hnan := isNaN_of_isFinite hx
  rw [castInt64, hnan, truncate_of_value h, if_neg Bool.false_ne_true]
  exact Int64.toInt_ofIntClamp hlow hhigh

end Integral

/-- Comparisons of doubles and the cast make of a double what is extracted. -/
theorem toInt64_real (x : Double) (finite : x.isFinite = true) :
    (Number.real x finite).toInt64 = x.compareInt64 := by
  by_cases hintegral : x.isIntegral = true
  · obtain ⟨z, hz⟩ := (isIntegral_iff_value finite).1 hintegral
    have hfit : (Number.real x finite).toInt64 = Int64.fit z := Number.toInt64_of_value hz
    rw [hfit, compareInt64, Int64.fit]
    simp only [hintegral, Bool.true_and, lt_int64Min finite hz, lt_int64Max finite hz]
    split_ifs
    · rfl
    · congr 1
      rw [← Int64.toInt_inj, toInt_castInt64 finite hz (by omega) (by omega)]
      exact Int64.toInt_ofInt_of_le (by omega) (by omega)
    · omega
    · omega
    · rfl
  · have hfraction : (Number.real x finite).toInt64 = .error .notInteger :=
      Number.toInt64_of_fraction fun z hz =>
        hintegral ((isIntegral_iff_value finite).2 ⟨z, hz⟩)
    rw [hfraction, compareInt64]
    simp [hintegral]

end Double

/-! ### The integer rule -/

namespace Rule

theorem parse_integer_any (n : Number) :
    (integer .any).parse (.number n) = match n.toInt64 with
      | .ok k => .success (.integer k)
      | .error issue => .failure (.single issue) := by
  have hextract : (Numeric.extract (.number n) : Except Issue Int64) = n.toInt64 := rfl
  rw [parse, NumberRule.parse, hextract]
  cases n.toInt64 <;> rfl

theorem parse_integer_any_eq_success {n : Number} {output : Output} :
    (integer .any).parse (.number n) = .success output ↔
      ∃ k, n.toInt64 = .ok k ∧ output = .integer k := by
  rw [parse_integer_any]
  cases n.toInt64 <;> simp [eq_comm]

theorem parse_integer_any_eq_failure {n : Number} {issue : Issue} :
    (integer .any).parse (.number n) = .failure (.single issue) ↔ n.toInt64 = .error issue := by
  rw [parse_integer_any]
  cases n.toInt64 <;> simp [Diagnostics.single, NonEmptyList.singleton]

/-- **What the integer rule takes out of its input.** An input that is no number is refused as of
another kind. A number is accepted exactly when its value is an integer of 64 bits, and the output
is this integer; it is refused as too small or too big when its value is an integer below or above
these, and as no integer when its value has a fractional part. For a double, comparisons with the
rounded bounds and a cast give the same outcome, and what they cast is an integer of 64 bits. -/
theorem integer_outcome :
    (∀ input : Json, input.kind ≠ .number →
      (integer .any).parse input = .failure (.single (.invalidType "integer" input))) ∧
    ∀ n : Number,
      ((∃ output, (integer .any).parse (.number n) = .success output) ↔
        ∃ z : Int, n.value = z ∧ -2 ^ 63 ≤ z ∧ z ≤ 2 ^ 63 - 1) ∧
      (∀ output, (integer .any).parse (.number n) = .success output →
        ∃ k : Int64, output = .integer k ∧ n.value = k.toInt) ∧
      ((integer .any).parse (.number n) = .failure (.single .belowInt64) ↔
        ∃ z : Int, n.value = z ∧ z < -2 ^ 63) ∧
      ((integer .any).parse (.number n) = .failure (.single .aboveInt64) ↔
        ∃ z : Int, n.value = z ∧ 2 ^ 63 - 1 < z) ∧
      ((integer .any).parse (.number n) = .failure (.single .notInteger) ↔
        ∀ z : Int, n.value ≠ z) ∧
      ∀ (x : Double) (finite : x.isFinite = true), n = .real x finite →
        n.toInt64 = x.compareInt64 ∧
          (x.isIntegral = true → x.lt .int64Min = false → x.lt .int64Max = true →
            ∃ z : Int, n.value = z ∧ -2 ^ 63 ≤ z ∧ z ≤ 2 ^ 63 - 1 ∧ x.castInt64.toInt = z) := by
  refine ⟨fun input hkind => ?_, fun n => ⟨?_, fun output h => ?_, ?_, ?_, ?_, ?_⟩⟩
  · cases input with
    | number n => exact absurd rfl hkind
    | _ => rfl
  · rw [← Number.exists_toInt64_eq_ok]
    simp only [parse_integer_any_eq_success]
    rw [exists_comm]
    simp only [exists_eq_right]
  · obtain ⟨k, hk, rfl⟩ := parse_integer_any_eq_success.1 h
    exact ⟨k, rfl, Number.toInt64_eq_ok.1 hk⟩
  · rw [parse_integer_any_eq_failure, Number.toInt64_eq_below]
  · rw [parse_integer_any_eq_failure, Number.toInt64_eq_above]
  · rw [parse_integer_any_eq_failure, Number.toInt64_eq_notInteger]
  · rintro x finite rfl
    refine ⟨Double.toInt64_real x finite, fun hintegral hlow hhigh => ?_⟩
    obtain ⟨z, hz⟩ := (Double.isIntegral_iff_value finite).1 hintegral
    have hbelow : ¬z < -2 ^ 63 := fun h => by simp [(Double.lt_int64Min finite hz).2 h] at hlow
    have habove : z < 2 ^ 63 := (Double.lt_int64Max finite hz).1 hhigh
    exact ⟨z, hz, by omega, by omega,
      Double.toInt_castInt64 finite hz (by omega) (by omega)⟩

/-- The double `-2 ^ 63`, the least that is extracted. -/
def leastExtracted : Double := ⟨true, 1086#11, 0#52⟩

/-- The double `2 ^ 63 - 2 ^ 10`, the greatest that is extracted. -/
def greatestExtracted : Double := ⟨false, 1085#11, BitVec.allOnes 52⟩

/-- The next double is the rounded upper bound, and above all integers of 64 bits. -/
theorem integer_outcome_bounds :
    Json.kind (.string "7") ≠ .number ∧
      (integer .any).parse (.string "7") = .failure (.single (.invalidType "integer" (.string "7"))) ∧
      (∃ k : Int64, (integer .any).parse (.number (.real leastExtracted rfl)) =
        .success (.integer k) ∧ k.toInt = -2 ^ 63) ∧
      (greatestExtracted.isIntegral = true ∧ greatestExtracted.lt .int64Min = false ∧
        greatestExtracted.lt .int64Max = true ∧
        greatestExtracted.castInt64.toInt = 2 ^ 63 - 2 ^ 10) ∧
      (integer .any).parse (.number (.real .int64Max rfl)) = .failure (.single .aboveInt64) := by
  have hstring : Json.kind (.string "7") ≠ .number := by decide
  have hleast : (Number.real leastExtracted rfl).value = (-2 ^ 63 : Int) :=
    Double.value_eq_intCast.2 (by decide +kernel)
  have hgreatest : (Number.real greatestExtracted rfl).value = (2 ^ 63 - 2 ^ 10 : Int) :=
    Double.value_eq_intCast.2 (by decide +kernel)
  have hmax : (Number.real .int64Max rfl).value = (2 ^ 63 : Int) :=
    Double.value_eq_intCast.2 Double.units_int64Max
  have hintegral : greatestExtracted.isIntegral = true := by decide +kernel
  have hlow : greatestExtracted.lt .int64Min = false := by decide +kernel
  have hhigh : greatestExtracted.lt .int64Max = true := by decide +kernel
  obtain ⟨haccept, houtput, -⟩ := integer_outcome.2 (.real leastExtracted rfl)
  obtain ⟨-, -, -, -, -, hcast⟩ := integer_outcome.2 (.real greatestExtracted rfl)
  obtain ⟨-, -, -, habove, -⟩ := integer_outcome.2 (.real .int64Max rfl)
  obtain ⟨output, hsuccess⟩ := haccept.2 ⟨_, hleast, by norm_num, by norm_num⟩
  obtain ⟨k, rfl, hk⟩ := houtput output hsuccess
  obtain ⟨z, hz, -, -, hcastz⟩ := (hcast _ rfl rfl).2 hintegral hlow hhigh
  refine ⟨hstring, integer_outcome.1 _ hstring, ⟨k, hsuccess, ?_⟩, ⟨hintegral, hlow, hhigh, ?_⟩,
    habove.2 ⟨_, hmax, by norm_num⟩⟩
  · exact_mod_cast hk.symm.trans hleast
  · rw [hcastz]
    exact_mod_cast hz.symm.trans hgreatest

end Rule
end Assay
