import Assay.Proofs.CaseRows
import Assay.Text.Blank

/-!
# Case forms of characters

The two case tables are tied to each other, to the blanks and to the characters that have a case.
Every fact about all characters comes from a check of the rows of the tables, or of the sets of
code points in them.

* `upperChar_settled`, `lowerChar_settled`: forms have no other forms of the same case;
* `raisedChar_eq_upperChar`: but for six characters, the upper case form of a character is that of
  its lower case form;
* `eq_of_crossing`: the six characters are upper case forms of themselves only;
* `sharpS_mem_lowerChar`: which characters have a sharp s in their lower case form;
* `isBlank_of_mem_upperChar`, `isBlank_of_mem_lowerChar`: forms are blank when the character is.
-/

namespace Assay

/-! ### Code points -/

/-- The lower case form of a code point. -/
def lowerCodes (n : Nat) : List Nat := caseCodes lowerRows lowerLong n

/-- The upper case form of a code point. -/
def upperCodes (n : Nat) : List Nat := caseCodes upperRows upperLong n

theorem lower_settled : Settled lowerRows lowerLong := by decide +kernel

theorem upper_settled : Settled upperRows upperLong := by decide +kernel

theorem upper_ordered : CaseRow.ordered 0 upperRows = true := by decide +kernel

/-- No row covers a code point that has a longer upper case form. -/
theorem upperLong_uncovered : longMask upperLong &&& rowsMask upperRows = 0 := by decide +kernel

/-- The upper case form of the lower case form. -/
def raisedCodes (n : Nat) : List Nat := (lowerCodes n).flatMap upperCodes

/-- The code points of the six characters that are upper case forms of themselves, but not of
their lower case forms. -/
def crossingCodes : List Nat := [0x130, 0x3F4, 0x1E9E, 0x2126, 0x212A, 0x212B]

/-- The forms in each lower case row are taken back by the upper case table, together or one by
one, but for those of crossing characters and those that share their upper case form. -/
theorem lowerRows_raised : (lowerRows.all fun row => CaseRow.takenBack upperRows row ||
    row.codes.all fun n => CaseRow.takenBack upperRows (row.only n) || crossingCodes.contains n ||
      upperCodes (row.form n) == upperCodes n) = true := by decide +kernel

theorem lowerLong_crossing : ∀ p ∈ lowerLong, p.1 ∈ crossingCodes := by decide

/-- In the upper case table a row that covers a code point gives its only form. -/
theorem upperCodes_eq_form {row : CaseRow} {n : Nat} (hrow : row ∈ upperRows)
    (hcovers : row.covers n = true) : upperCodes n = [row.form n] := by
  have hlong : upperLong.lookup n = none := by
    refine List.lookup_eq_none_iff.2 fun p hp => bne_iff_ne.2 fun hkey => ?_
    have hnone := notTestBit_of_land upperLong_uncovered (testBit_longMask hp)
    rw [← hkey, testBit_rowsMask hrow hcovers] at hnone
    cases hnone
  rw [upperCodes, caseCodes, hlong, CaseRow.apply_eq_form upper_ordered hrow hcovers]
  rfl

/-- A form that is taken back has the same upper case form as the character. -/
theorem upperCodes_form {row : CaseRow} {n : Nat} (hback : CaseRow.takenBack upperRows row = true)
    (hcovers : row.covers n = true) : upperCodes (row.form n) = upperCodes n := by
  obtain ⟨back, hrow, hform, hself⟩ := CaseRow.takenBack_sound hback hcovers
  have hupper : upperCodes (row.form n) = [n] := by
    rw [upperCodes_eq_form hrow hform, hself]
  rw [hupper]
  exact (caseCodes_settled upper_settled (hupper ▸ List.mem_singleton_self n)).symm

/-- But for the crossing characters, the upper case form is that of the lower case form. -/
theorem raisedCodes_eq_upperCodes {n : Nat} (h : n ∉ crossingCodes) :
    raisedCodes n = upperCodes n := by
  unfold raisedCodes
  rcases caseCodes_cases lowerRows lowerLong n with
    ⟨p, hp, rfl, -⟩ | ⟨row, hrow, hcovers, hn⟩ | hn
  · exact absurd (lowerLong_crossing p hp) h
  · rw [lowerCodes, hn, List.flatMap_singleton]
    rcases Bool.or_eq_true _ _ ▸ List.all_eq_true.1 lowerRows_raised row hrow with hback | hcodes
    · exact upperCodes_form hback hcovers
    · have hcode := List.all_eq_true.1 hcodes n (CaseRow.mem_codes hcovers)
      simp only [Bool.or_eq_true, List.contains_iff_mem, h, or_false, beq_iff_eq] at hcode
      rcases hcode with hback | hequal
      · simpa using upperCodes_form hback (row.only_covers n)
      · exact hequal
  · rw [lowerCodes, hn, List.flatMap_singleton]

/-- The crossing characters are not among the upper case forms of others. -/
theorem crossing_apart :
    rangesMask (crossingCodes.map fun n => (n, n)) &&& formMask upperRows upperLong = 0 := by
  decide +kernel

theorem eq_of_crossingCodes {m n : Nat} (hm : m ∈ upperCodes n) (h : m ∈ crossingCodes) :
    m = n := by
  rcases testBit_formMask upperRows upperLong n with hself | hforms
  · rwa [upperCodes, hself, List.mem_singleton] at hm
  · have hrange : (m, m) ∈ crossingCodes.map fun n => (n, n) := List.mem_map_of_mem h
    have hnot := notTestBit_of_land crossing_apart (testBit_rangesMask hrange le_rfl le_rfl)
    rw [hforms m hm] at hnot
    cases hnot

theorem crossing_fixed : ∀ n ∈ crossingCodes, upperCodes n = [n] := by decide +kernel

/-- The only lower case row with a sharp s as a form has the capital sharp s alone. -/
theorem lowerRows_sharpS : (lowerRows.all fun row =>
    !row.inverse.covers 0xDF || row.first.beq 0x1E9E && row.last.beq 0x1E9E) = true := by
  decide +kernel

theorem sharpS_mem_lowerCodes {n : Nat} (h : 0xDF ∈ lowerCodes n) : n = 0xDF ∨ n = 0x1E9E := by
  have hlong : ∀ p ∈ lowerLong, 0xDF ∉ p.2 := by decide
  rcases caseCodes_cases lowerRows lowerLong n with
    ⟨p, hp, rfl, hn⟩ | ⟨row, hrow, hcovers, hn⟩ | hn <;> rw [lowerCodes, hn] at h
  · exact absurd h (hlong p hp)
  · have hsharp := CaseRow.inverse_covers hcovers
    rw [← List.mem_singleton.1 h] at hsharp
    have hrows := List.all_eq_true.1 lowerRows_sharpS row hrow
    simp only [hsharp, Bool.not_true, Bool.false_or, Bool.and_eq_true, Nat.beq_eq] at hrows
    obtain ⟨hfirst, hlast, -⟩ := CaseRow.covers_iff.1 hcovers
    omega
  · exact .inl (List.mem_singleton.1 h).symm

/-! ### Characters -/

theorem lower_chars : IsCharMask (formMask lowerRows lowerLong) := by decide +kernel

theorem upper_chars : IsCharMask (formMask upperRows upperLong) := by decide +kernel

theorem map_toNat_lowerChar (c : Char) : (lowerChar c).map Char.toNat = lowerCodes c.toNat :=
  map_toNat_caseForm lower_chars c

theorem map_toNat_upperChar (c : Char) : (upperChar c).map Char.toNat = upperCodes c.toNat :=
  map_toNat_caseForm upper_chars c

theorem toNat_mem_lowerCodes {c d : Char} (h : d ∈ lowerChar c) :
    d.toNat ∈ lowerCodes c.toNat := toNat_mem_caseCodes lower_chars h

theorem toNat_mem_upperCodes {c d : Char} (h : d ∈ upperChar c) :
    d.toNat ∈ upperCodes c.toNat := toNat_mem_caseCodes upper_chars h

theorem lowerChar_settled {c d : Char} (h : d ∈ lowerChar c) : lowerChar d = [d] :=
  caseForm_settled lower_chars lower_settled h

theorem upperChar_settled {c d : Char} (h : d ∈ upperChar c) : upperChar d = [d] :=
  caseForm_settled upper_chars upper_settled h

theorem lowerChar_ne_nil (c : Char) : lowerChar c ≠ [] := caseForm_ne_nil (by decide) c

theorem upperChar_ne_nil (c : Char) : upperChar c ≠ [] := caseForm_ne_nil (by decide) c

theorem lowerChar_sigma : lowerChar 'Σ' = ['σ'] := by decide +kernel

/-- The capital sigma is no lower case form. -/
theorem sigma_notMem_lowerChar (c : Char) : 'Σ' ∉ lowerChar c := by
  intro h
  have hself := lowerChar_settled h
  rw [lowerChar_sigma] at hself
  exact absurd hself (by decide)

/-- The upper case form of the lower case form of a character. -/
def raisedChar (c : Char) : List Char := (lowerChar c).flatMap upperChar

theorem map_toNat_raisedChar (c : Char) : (raisedChar c).map Char.toNat = raisedCodes c.toNat := by
  rw [raisedCodes, ← map_toNat_lowerChar, raisedChar, List.map_flatMap, List.flatMap_map]
  exact List.flatMap_congr fun d _ => map_toNat_upperChar d

/-- The six characters that are upper case forms of themselves, but not of their lower case
forms. -/
def IsCrossing (c : Char) : Prop := c.toNat ∈ crossingCodes

instance (c : Char) : Decidable (IsCrossing c) := inferInstanceAs (Decidable (_ ∈ _))

/-- The crossing characters. -/
def crossingChars : List Char := crossingCodes.map Char.ofNat

theorem IsCrossing.mem {c : Char} (h : IsCrossing c) : c ∈ crossingChars :=
  c.ofNat_toNat ▸ List.mem_map_of_mem h

theorem raisedChar_eq_upperChar {c : Char} (h : ¬IsCrossing c) : raisedChar c = upperChar c := by
  refine eq_of_map_toNat ?_
  rw [map_toNat_raisedChar, map_toNat_upperChar, raisedCodes_eq_upperCodes h]

theorem upperChar_crossing {c : Char} (h : IsCrossing c) : upperChar c = [c] := by
  refine eq_of_map_toNat ?_
  rw [map_toNat_upperChar, crossing_fixed _ h]
  rfl

theorem eq_of_crossing {c d : Char} (hd : d ∈ upperChar c) (h : IsCrossing d) : d = c :=
  Char.toNat_inj.1 (eq_of_crossingCodes (toNat_mem_upperCodes hd) h)

/-- An upper case form of a character that is not crossing is raised to itself. -/
theorem raisedChar_of_mem_upperChar {c d : Char} (h : ¬IsCrossing c) (hd : d ∈ upperChar c) :
    raisedChar d = [d] := by
  have hd' : ¬IsCrossing d := fun hcross => h (eq_of_crossing hd hcross ▸ hcross)
  rw [raisedChar_eq_upperChar hd', upperChar_settled hd]

/-- A sharp s is the lower case form of itself and of the capital sharp s. -/
theorem sharpS_mem_lowerChar {c : Char} (h : 'ß' ∈ lowerChar c) : c = 'ß' ∨ c = 'ẞ' :=
  (sharpS_mem_lowerCodes (toNat_mem_lowerCodes h)).imp
    (Char.toNat_inj (d := 'ß')).1 (Char.toNat_inj (d := 'ẞ')).1

theorem lowerChar_capitalSharpS : lowerChar 'ẞ' = ['ß'] := by decide +kernel

theorem isCrossing_capitalSharpS : IsCrossing 'ẞ' := by decide

/-! ### Blanks -/

theorem blanks_lower :
    rangesMask blankRanges &&& (rowsMask lowerRows ||| longMask lowerLong) = 0 ∧
      rangesMask blankRanges &&& formMask lowerRows lowerLong = 0 := by decide +kernel

theorem blanks_upper :
    rangesMask blankRanges &&& (rowsMask upperRows ||| longMask upperLong) = 0 ∧
      rangesMask blankRanges &&& formMask upperRows upperLong = 0 := by decide +kernel

theorem isBlank_of_mem_lowerChar {c d : Char} (h : d ∈ lowerChar c) : isBlank d = isBlank c :=
  inRanges_of_mem_caseForm lower_chars blanks_lower.1 blanks_lower.2 h

theorem isBlank_of_mem_upperChar {c d : Char} (h : d ∈ upperChar c) : isBlank d = isBlank c :=
  inRanges_of_mem_caseForm upper_chars blanks_upper.1 blanks_upper.2 h

theorem blanks_words :
    rangesMask blankRanges &&& (rangesMask casedRanges ||| rangesMask caseIgnorableRanges) = 0 := by
  decide +kernel

/-- A blank ends a word: it has no case and is not passed over. -/
theorem not_isCased_blank {c : Char} (h : isBlank c = true) :
    isCased c = false ∧ isCaseIgnorable c = false := by
  have hnot := notTestBit_of_land blanks_words (testBit_of_inRanges h)
  obtain ⟨hcased, hpassed⟩ : _ ∧ _ := by simpa only [Nat.testBit_or, Bool.or_eq_false_iff] using hnot
  constructor
  · refine Bool.eq_false_iff.2 fun hc => ?_
    rw [testBit_of_inRanges hc] at hcased
    cases hcased
  · refine Bool.eq_false_iff.2 fun hc => ?_
    rw [testBit_of_inRanges hc] at hpassed
    cases hpassed

end Assay
