import Assay.Proofs.Outcomes

/-!
# What the checks mean

The checks of a rule are Boolean tests. Here each of them is given its meaning apart from the
test: on the characters of a string, on the exact value of a number, on the length of an array.
A rule reports no issue exactly when every check is met in this sense.

* `StringRule.issues_eq_nil`, `ItemBounds.issues_eq_nil`: strings and lengths of arrays;
* `NumberRule.issues_eq_nil`: numbers, as long as neither the number nor a bound is NaN.
-/

namespace Assay

/-! ### Strings -/

theorem occursIn_iff {needle cs : List Char} : occursIn needle cs = true ↔ needle <:+: cs := by
  induction cs with
  | nil => simp [occursIn]
  | cons c rest ih => rw [occursIn, Bool.or_eq_true, List.isPrefixOf_iff_prefix, ih,
      List.infix_cons_iff]

/-- The meaning of a condition on a string, told by its characters. -/
def StringCheck.Met (s : String) : StringCheck → Prop
  | nonEmpty => s.toList ≠ []
  | minLength least => least ≤ s.toList.length
  | maxLength greatest => s.toList.length ≤ greatest
  | length exact => s.toList.length = exact
  | email => Pattern.email.found s.toList = true
  | uuid => Pattern.uuid.found s.toList = true
  | startsWith start => start.toList <+: s.toList
  | endsWith finish => finish.toList <:+ s.toList
  | includes needle => needle.toList <:+: s.toList
  | pattern regex => regex.pattern.found s.toList = true

theorem StringCheck.holds_iff {check : StringCheck} {s : String} :
    check.holds s = true ↔ check.Met s := by
  cases check with
  | includes needle => exact occursIn_iff
  | startsWith start => exact List.isPrefixOf_iff_prefix
  | endsWith finish => exact List.isSuffixOf_iff_suffix
  | _ => simp [holds, Met, ← String.length_toList]

/-- The issues of a string are about the conditions that it does not meet. -/
theorem StringRule.mem_issues {rule : StringRule} {s : String} {issue : Issue} :
    issue ∈ rule.issues s ↔ ∃ check ∈ rule.checks, ¬check.Met s ∧ issue = check.violation s := by
  rw [issues, List.mem_filterMap]
  refine exists_congr fun check => and_congr_right fun _ => ?_
  rw [StringCheck.issue?, ← StringCheck.holds_iff]
  split_ifs with h
  · simp [h]
  · simp [h, eq_comm]

/-- A string has no issues exactly when it meets every condition of the rule. -/
theorem StringRule.issues_eq_nil {rule : StringRule} {s : String} :
    rule.issues s = [] ↔ ∀ check ∈ rule.checks, check.Met s := by
  simp [issues, List.filterMap_eq_nil_iff, StringCheck.issue?, StringCheck.holds_iff]

/-! ### Lengths of arrays -/

/-- The meaning of the bounds of an array rule. -/
def ItemBounds.Met (bounds : ItemBounds) (length : Nat) : Prop :=
  (∀ least ∈ bounds.minItems, least ≤ length) ∧ ∀ greatest ∈ bounds.maxItems, length ≤ greatest

/-- The issues of a length are about the bounds that it violates. -/
theorem ItemBounds.mem_issues {bounds : ItemBounds} {length : Nat} {issue : Issue} :
    issue ∈ bounds.issues length ↔
      (∃ least, bounds.minItems = some least ∧ length < least ∧ issue = tooFew least) ∨
        ∃ greatest, bounds.maxItems = some greatest ∧ greatest < length ∧
          issue = tooMany greatest := by
  obtain ⟨least, greatest⟩ := bounds
  cases least <;> cases greatest <;> simp [issues]

theorem ItemBounds.issues_eq_nil {bounds : ItemBounds} {length : Nat} :
    bounds.issues length = [] ↔ bounds.Met length := by
  obtain ⟨least, greatest⟩ := bounds
  cases least <;> cases greatest <;> simp [issues, Met]

/-! ### Numbers -/

/-- Numbers whose order is that of exact values. NaN is the reason that some numbers may stand
outside the order. -/
class Measured (ν : Type) [Numeric ν] where
  /-- Whether the number has a place in the order. -/
  Ordered : ν → Prop
  /-- The exact value, in steps of a fixed size. -/
  value : ν → Int
  /-- The meaning of being a multiple of a divisor. -/
  Multiple : ν → ν → Prop
  /-- The meaning of having no fractional part. -/
  Whole : ν → Prop
  lt_iff {a b : ν} : Ordered a → Ordered b → (Numeric.lt a b = true ↔ value a < value b)
  le_iff {a b : ν} : Ordered a → Ordered b → (Numeric.le a b = true ↔ value a ≤ value b)
  isMultipleOf_iff {a divisor : ν} : Numeric.isMultipleOf a divisor = true ↔ Multiple a divisor
  isIntegral_iff {a : ν} : Numeric.isIntegral a = true ↔ Whole a

namespace NumberCheck

variable {ν : Type} [Numeric ν] [Measured ν]

/-- The bound of a condition, if it has one. -/
def bound? : NumberCheck ν → Option ν
  | gt bound | gte bound | lt bound | lte bound => some bound
  | multipleOf _ | int => none

/-- The meaning of a condition on a number, told by its exact value. -/
def Met (n : ν) : NumberCheck ν → Prop
  | gt bound => Measured.value bound < Measured.value n
  | gte bound => Measured.value bound ≤ Measured.value n
  | lt bound => Measured.value n < Measured.value bound
  | lte bound => Measured.value n ≤ Measured.value bound
  | multipleOf divisor => Measured.Multiple n divisor
  | int => Measured.Whole n

/-- The test of a condition looks for a violation, so its order has to be total. -/
theorem isViolated_eq_false {check : NumberCheck ν} {n : ν} (hn : Measured.Ordered n)
    (hbound : ∀ bound ∈ check.bound?, Measured.Ordered bound) :
    check.isViolated n = false ↔ check.Met n := by
  cases check with
  | gt bound => rw [isViolated, ← Bool.not_eq_true, Measured.le_iff hn (hbound _ rfl), not_le, Met]
  | gte bound => rw [isViolated, ← Bool.not_eq_true, Measured.lt_iff hn (hbound _ rfl), not_lt, Met]
  | lt bound => rw [isViolated, ← Bool.not_eq_true, Measured.le_iff (hbound _ rfl) hn, not_le, Met]
  | lte bound => rw [isViolated, ← Bool.not_eq_true, Measured.lt_iff (hbound _ rfl) hn, not_lt, Met]
  | multipleOf divisor => rw [isViolated, Bool.not_eq_false', Measured.isMultipleOf_iff, Met]
  | int => rw [isViolated, Bool.not_eq_false', Measured.isIntegral_iff, Met]

end NumberCheck

/-- The issues of a number are about the conditions that it violates. -/
theorem NumberRule.mem_issues {ν : Type} [Numeric ν] {rule : NumberRule ν} {n : ν}
    {issue : Issue} :
    issue ∈ rule.issues n ↔
      ∃ check ∈ rule.checks, check.isViolated n = true ∧ issue = check.violation := by
  rw [issues, List.mem_filterMap]
  refine exists_congr fun check => and_congr_right fun _ => ?_
  rw [NumberCheck.issue?]
  split_ifs with h
  · simp [h, eq_comm]
  · simp [h]

/-- A number has no issues exactly when it violates no condition of the rule. -/
theorem NumberRule.issues_eq_nil_iff {ν : Type} [Numeric ν] {rule : NumberRule ν} {n : ν} :
    rule.issues n = [] ↔ ∀ check ∈ rule.checks, check.isViolated n = false := by
  rw [issues, List.filterMap_eq_nil_iff]
  refine forall₂_congr fun check _ => ?_
  simp [NumberCheck.issue?]

/-- A number has no issues exactly when it meets every condition of the rule. -/
theorem NumberRule.issues_eq_nil {ν : Type} [Numeric ν] [Measured ν] {rule : NumberRule ν} {n : ν}
    (hn : Measured.Ordered n)
    (hbounds : ∀ check ∈ rule.checks, ∀ bound ∈ check.bound?, Measured.Ordered bound) :
    rule.issues n = [] ↔ ∀ check ∈ rule.checks, check.Met n := by
  rw [issues_eq_nil_iff]
  exact forall₂_congr fun check hcheck => NumberCheck.isViolated_eq_false hn (hbounds check hcheck)

/-! ### Doubles -/

namespace Double

theorem isNaN_of_isFinite {x : Double} (h : x.isFinite = true) : x.isNaN = false := by
  simp_all [isFinite, isNaN]

/-- The distance of a number to the next multiple of a unit is below a limit exactly when some
multiple is that close. -/
theorem min_mod_lt_iff {m unit limit : Nat} (hunit : 0 < unit) :
    min (m % unit) (unit - m % unit) < limit ↔
      ∃ k : Int, ((m : Int) - k * unit).natAbs < limit := by
  have hmod := Nat.mod_lt m hunit
  have hdiv : (unit : Int) * (m / unit : Nat) + (m % unit : Nat) = m := by
    exact_mod_cast Nat.div_add_mod m unit
  constructor
  · intro h
    rcases min_lt_iff.1 h with h | h
    · exact ⟨(m / unit : Nat), by rw [mul_comm]; omega⟩
    · exact ⟨(m / unit : Nat) + 1, by rw [add_mul, mul_comm]; omega⟩
  · rintro ⟨k, hk⟩
    -- the multiples below the number are at least the remainder away, those above at least
    -- what is missing to the next one
    have hsplit : (m : Int) - k * unit = unit * ((m / unit : Nat) - k) + (m % unit : Nat) := by
      rw [mul_sub, mul_comm k]
      omega
    rw [hsplit] at hk
    refine min_lt_iff.2 ?_
    rcases le_or_gt k (m / unit : Nat) with hle | hgt
    · have hprod : (0 : Int) ≤ unit * ((m / unit : Nat) - k) :=
        mul_nonneg (by omega) (by omega)
      left
      omega
    · have hprod : (unit : Int) * ((m / unit : Nat) - k) ≤ unit * (-1) :=
        mul_le_mul_of_nonneg_left (by omega) (by omega)
      right
      omega

theorem unit_pos : 0 < unit := by
  rw [unit, Nat.shiftLeft_eq]
  positivity

theorem distanceToInteger_lt {x : Double} {limit : Nat} :
    x.distanceToInteger < limit ↔ ∃ k : Int, (x.units - k * unit).natAbs < limit := by
  rw [distanceToInteger, min_mod_lt_iff unit_pos, units]
  split_ifs
  · constructor
    · rintro ⟨k, hk⟩
      exact ⟨-k, by rw [neg_mul]; omega⟩
    · rintro ⟨k, hk⟩
      exact ⟨-k, by rw [neg_mul]; omega⟩
  · rfl

theorem isIntegral_iff {x : Double} :
    x.isIntegral = true ↔ x.isFinite = true ∧ (unit : Int) ∣ x.units := by
  have hunits : (unit : Int) ∣ x.units ↔ unit ∣ x.magnitude := by
    rw [units]
    split_ifs
    · rw [Int.dvd_neg, Int.natCast_dvd_natCast]
    · rw [Int.natCast_dvd_natCast]
  rw [isIntegral, Bool.and_eq_true, decide_eq_true_eq, hunits, Nat.dvd_iff_mod_eq_zero]

/-- The meaning of being a multiple, which allows for rounding errors: the divisor is a finite
number other than zero, and the rounded quotient is nearly a whole number. -/
def NearMultiple (x divisor : Double) : Prop :=
  divisor.isFinite = true ∧ divisor.magnitude ≠ 0 ∧ (x.div divisor).isFinite = true ∧
    ∃ k : Int, ((x.div divisor).units - k * unit).natAbs < multipleTolerance.magnitude

end Double

instance : Measured Double where
  Ordered x := x.isNaN = false
  value := Double.units
  Multiple := Double.NearMultiple
  Whole x := x.isFinite = true ∧ (Double.unit : Int) ∣ x.units
  lt_iff ha hb := by simp [Numeric.lt, Double.lt, ha, hb]
  le_iff ha hb := by simp [Numeric.le, Double.le, ha, hb]
  isMultipleOf_iff := by
    intro a divisor
    simp [Numeric.isMultipleOf, Double.isMultipleOf, Double.NearMultiple,
      Double.distanceToInteger_lt, and_assoc]
  isIntegral_iff := Double.isIntegral_iff

/-! ### Integers of 64 bits -/

/-- Where there is a remainder, it is that of the integers. -/
theorem Int64.remainder?_eq_some {n divisor r : Int64} :
    Int64.remainder? n divisor = some r ↔
      divisor ≠ 0 ∧ ¬(n = Int64.minValue ∧ divisor = -1) ∧
        r.toInt = n.toInt.tmod divisor.toInt := by
  rw [remainder?, ← Int64.toInt_mod, Int64.toInt_inj]
  split_ifs with h
  · simp only [false_iff]
    rintro ⟨hzero, hfits, -⟩
    exact h.elim hzero hfits
  · rw [not_or] at h
    simp [h.1, h.2, eq_comm]

instance : Measured Int64 where
  Ordered _ := True
  value := Int64.toInt
  Multiple n divisor := divisor.toInt ≠ 0 ∧ divisor.toInt ∣ n.toInt
  Whole _ := True
  lt_iff _ _ := by simp [Numeric.lt, Int64.lt_iff_toInt_lt]
  le_iff _ _ := by simp [Numeric.le, Int64.le_iff_toInt_le]
  isMultipleOf_iff := by
    intro n divisor
    show (divisor == -1 || Int64.remainder? n divisor == some 0) = true ↔ _
    rw [Bool.or_eq_true, beq_iff_eq, beq_iff_eq, Int64.remainder?_eq_some, Int64.toInt_zero,
      eq_comm (a := 0), ← Int.dvd_iff_tmod_eq_zero, ← Int64.toInt_zero, ne_eq, ne_eq,
      Int64.toInt_inj]
    by_cases h : divisor = -1
    · subst h
      exact iff_of_true (.inl rfl) ⟨by decide, neg_dvd.2 (one_dvd _)⟩
    · simp [h]
  isIntegral_iff := by simp [Numeric.isIntegral]

end Assay
