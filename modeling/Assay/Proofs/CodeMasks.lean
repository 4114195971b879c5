import Assay.Text.Ranges
import Mathlib.Algebra.Order.Ring.GeomSum
import Mathlib.Tactic

/-!
# Sets of code points as numbers

A set of code points is written as the number whose bits are its members. What a table of ranges
or rows covers is then one number, and two tables have nothing in common when a single operation
on their numbers gives zero.

* `testBit_stepMask`: code points at equal distances;
* `testBit_unionMask`: the union of sets;
* `testBit_rangesMask`: all code points of ranges;
* `notTestBit_of_land`: sets without a common member;
* `isValidChar_of_testBit`: sets of characters.
-/

namespace Assay

/-- The first multiples of a step, as many as counted. -/
def stepMask (step count : Nat) : Nat := (2 ^ (step * count) - 1) / (2 ^ step - 1)

theorem testBit_stepMask {step count k : Nat} (hstep : 0 < step) (h : k < count) :
    (stepMask step count).testBit (step * k) = true := by
  have hbase : 2 ≤ 2 ^ step := Nat.one_lt_two_pow hstep.ne'
  have hsum : stepMask step count = ∑ i ∈ Finset.range count, (2 ^ step) ^ i := by
    rw [Nat.geomSum_eq hbase, stepMask, pow_mul]
  rw [hsum]
  clear hsum
  induction count with
  | zero => omega
  | succ count ih =>
    rw [Finset.sum_range_succ, ← pow_mul, add_comm]
    rcases Nat.lt_succ_iff_lt_or_eq.1 h with hlt | rfl
    · rw [Nat.testBit_two_pow_add_gt (Nat.mul_lt_mul_of_pos_left hlt hstep)]
      exact ih hlt
    · have hbound : ∑ i ∈ Finset.range k, (2 ^ step) ^ i < 2 ^ (step * k) := by
        rw [pow_mul]
        exact Nat.geomSum_lt hbase fun i hi => Finset.mem_range.1 hi
      rw [Nat.testBit_two_pow_add_eq, Nat.testBit_lt_two_pow hbound]
      rfl

/-- The union of sets. -/
def unionMask (masks : List Nat) : Nat := masks.foldr (· ||| ·) 0

theorem testBit_unionMask {masks : List Nat} {n : Nat} :
    (unionMask masks).testBit n = true ↔ ∃ mask ∈ masks, mask.testBit n = true := by
  induction masks with
  | nil => simp [unionMask]
  | cons mask rest ih =>
    show (mask ||| unionMask rest).testBit n = true ↔ _
    rw [Nat.testBit_or, Bool.or_eq_true, ih, List.exists_mem_cons_iff]

/-- All code points of ranges. -/
def rangesMask (ranges : List (Nat × Nat)) : Nat :=
  unionMask (ranges.map fun range => stepMask 1 (range.2 + 1 - range.1) <<< range.1)

theorem testBit_rangesMask {n low high : Nat} {ranges : List (Nat × Nat)}
    (hmem : (low, high) ∈ ranges) (hlow : low ≤ n) (hhigh : n ≤ high) :
    (rangesMask ranges).testBit n = true := by
  refine testBit_unionMask.2 ⟨_, List.mem_map_of_mem hmem, ?_⟩
  have hbit : (stepMask 1 (high + 1 - low)).testBit (1 * (n - low)) = true :=
    testBit_stepMask one_pos (by omega)
  rw [one_mul] at hbit
  rw [Nat.testBit_shiftLeft, hbit, Bool.and_true]
  exact decide_eq_true hlow

theorem testBit_of_inRanges {n : Nat} {ranges : List (Nat × Nat)} (h : inRanges n ranges = true) :
    (rangesMask ranges).testBit n = true := by
  have hrange : ∃ range ∈ ranges, range.1 ≤ n ∧ n ≤ range.2 := by
    induction ranges with
    | nil => cases h
    | cons range rest ih =>
      obtain ⟨low, high⟩ := range
      unfold inRanges at h
      split_ifs at h with hlow
      rcases Bool.or_eq_true _ _ ▸ h with hhigh | hrest
      · exact ⟨(low, high), List.mem_cons_self, not_lt.1 hlow, of_decide_eq_true hhigh⟩
      · obtain ⟨range, hmem, hn⟩ := ih hrest
        exact ⟨range, List.mem_cons_of_mem _ hmem, hn⟩
  obtain ⟨⟨low, high⟩, hmem, hlow, hhigh⟩ := hrange
  exact testBit_rangesMask hmem hlow hhigh

/-- A member of one of two sets that have no member in common is not in the other one. -/
theorem notTestBit_of_land {a b n : Nat} (h : a &&& b = 0) (ha : a.testBit n = true) :
    b.testBit n = false := by
  have hland := Nat.testBit_and a b n
  rwa [h, Nat.zero_testBit, ha, Bool.true_and, eq_comm] at hland

/-- Whether a set has code points of characters only. -/
def IsCharMask (mask : Nat) : Prop :=
  rangesMask [(0xD800, 0xDFFF)] &&& mask = 0 ∧ mask >>> 0x110000 = 0

instance (mask : Nat) : Decidable (IsCharMask mask) := inferInstanceAs (Decidable (_ ∧ _))

theorem isValidChar_of_testBit {mask n : Nat} (h : IsCharMask mask)
    (hn : mask.testBit n = true) : n.isValidChar := by
  have hlast : n < 0x110000 := by
    by_contra hbeyond
    obtain ⟨k, rfl⟩ := Nat.exists_eq_add_of_le (not_lt.1 hbeyond)
    rw [← Nat.testBit_shiftRight, h.2, Nat.zero_testBit] at hn
    cases hn
  by_cases hlow : n < 0xD800
  · exact .inl hlow
  · refine .inr ⟨not_le.1 fun hhigh => ?_, hlast⟩
    have hsurrogate := testBit_rangesMask (List.mem_singleton_self _) (not_lt.1 hlow) hhigh
    rw [notTestBit_of_land h.1 hsurrogate] at hn
    cases hn

end Assay
