import Assay.Json.Basic
import Mathlib.Tactic

/-!
# Finite doubles

Rounding gives infinity only beyond the largest double. Whole numbers of 64 bits are far below
it, so every JSON number is a finite double.

* `isFinite_ofRatio`: a quotient whose nearest double exists is finite;
* `isFinite_toDouble`: every JSON number is a finite double.
-/

namespace Assay

theorem BinaryFormat.scale_le_of_nearest {format : BinaryFormat} {num den significand : Nat}
    {scale : Int} (h : format.nearest num den = some (significand, scale)) :
    scale ≤ format.maxScale := by
  unfold nearest at h
  simp only at h
  split_ifs at h <;> simp only [Option.some.injEq, Prod.mk.injEq] at h <;> omega

/-- A quotient has a nearest value when its binary logarithm is small enough. -/
theorem BinaryFormat.nearest_isSome {format : BinaryFormat} {num den : Nat}
    (h : max ((num.log2 : Int) - den.log2 - format.digits + 1) format.minScale <
      format.maxScale) : (format.nearest num den).isSome = true := by
  unfold nearest
  simp only
  split_ifs <;> first | rfl | (exfalso; omega)

namespace Double

theorem isFinite_ofSignificand (negative : Bool) (significand : Nat) {scale : Int}
    (h : scale ≤ 971) : (ofSignificand negative significand scale).isFinite = true := by
  unfold ofSignificand isFinite topExponent
  split_ifs
  · rfl
  · simp only [ne_eq, decide_eq_true_eq, ← BitVec.toNat_inj, BitVec.toNat_ofNat]
    omega

theorem isFinite_ofRatio (negative : Bool) {num den : Nat}
    (h : (BinaryFormat.double.nearest num den).isSome = true) :
    (ofRatio negative num den).isFinite = true := by
  unfold ofRatio
  split_ifs
  · rfl
  · obtain ⟨⟨significand, scale⟩, hnearest⟩ := Option.isSome_iff_exists.1 h
    rw [hnearest]
    exact isFinite_ofSignificand _ _ (BinaryFormat.scale_le_of_nearest hnearest)

/-- A whole number of 64 bits is far from the largest double. -/
theorem isFinite_ofInt {n : Int} (h : fitsWord n = true) : (ofInt n).isFinite = true := by
  refine isFinite_ofRatio _ (BinaryFormat.nearest_isSome ?_)
  simp only [fitsWord, Bool.and_eq_true, decide_eq_true_eq] at h
  have hlog : n.natAbs.log2 < 64 + 1 := by
    by_cases h0 : n.natAbs = 0
    · rw [h0]; decide
    · exact (Nat.log2_lt h0).2 (by omega)
  simp only [BinaryFormat.double]
  omega

end Double

/-- Every JSON number is a finite double. -/
theorem Number.isFinite_toDouble (n : Number) : n.toDouble.isFinite = true := by
  cases n with
  | whole n fits => exact Double.isFinite_ofInt fits
  | real x finite => exact finite

end Assay
