import Assay.Text.Casing
import Assay.Proofs.CodeMasks

/-!
# Rows of case tables

What a case table says is read off its rows, not off every single code point: the code points that
a row covers are one set, and so are their forms. What holds of the sets holds of every character.

* `CaseRow.apply_eq_form`: in ordered rows the row that covers a code point gives its form;
* `CaseRow.form_of_takesBack`: when a row takes the forms of another one back;
* `CaseRow.takenBack_sound`: the same in a search for such a row;
* `caseCodes_cases`: where the form of a code point comes from;
* `testBit_formMask`, `caseCodes_eq_self`: which code points are forms, and which have none;
* `caseForm_settled`: in a settled table every form is its own form.
-/

namespace Assay

namespace CaseRow

variable {row : CaseRow} {rows : List CaseRow} {n m : Nat}

/-! ### Single rows -/

/-- Whether the row covers a code point. -/
def covers (row : CaseRow) (n : Nat) : Bool :=
  row.first.ble n && n.ble row.last && ((n - row.first) % row.step).beq 0

/-- The form of a code point that the row covers. -/
def form (row : CaseRow) (n : Nat) : Nat := row.target + (n - row.first)

/-- The row that takes the forms back. -/
def inverse (row : CaseRow) : CaseRow :=
  ⟨row.target, row.target + (row.last - row.first), row.step, row.first⟩

theorem covers_iff : row.covers n = true ↔
    row.first ≤ n ∧ n ≤ row.last ∧ (n - row.first) % row.step = 0 := by
  simp [covers, and_assoc]

theorem eq_some_of_covers (h : row.covers n = true) : row.apply? n = some (row.form n) := by
  unfold CaseRow.apply?
  rw [if_pos (covers_iff.1 h), form]

theorem eq_none_of_not_covers (h : row.covers n = false) : row.apply? n = none := by
  unfold CaseRow.apply?
  rw [if_neg]
  rw [← covers_iff, h]
  exact Bool.false_ne_true

/-- The forms in a row are what the inverse row covers. -/
theorem inverse_covers (h : row.covers n = true) : row.inverse.covers (row.form n) = true := by
  obtain ⟨hfirst, hlast, hstep⟩ := covers_iff.1 h
  refine covers_iff.2 ⟨Nat.le_add_right _ _, ?_, ?_⟩
  · simp only [inverse, form]
    omega
  · simpa only [inverse, form, Nat.add_sub_cancel_left] using hstep

/-- Whether a row takes the forms in another row back to what they are forms of. -/
def takesBack (back row : CaseRow) : Bool :=
  back.first.ble row.target && row.inverse.last.ble back.last &&
    ((row.target - back.first) % back.step).beq 0 &&
    (row.last.beq row.first || (row.step % back.step).beq 0) &&
      (back.target + (row.target - back.first)).beq row.first

theorem form_of_takesBack {back : CaseRow} (h : back.takesBack row = true)
    (hcovers : row.covers n = true) :
    back.covers (row.form n) = true ∧ back.form (row.form n) = n := by
  simp only [takesBack, inverse, Bool.and_eq_true, Bool.or_eq_true, Nat.ble_eq, Nat.beq_eq] at h
  obtain ⟨⟨⟨⟨hfirst, hlast⟩, hoffset⟩, hstep⟩, htarget⟩ := h
  obtain ⟨hlow, hhigh, hcode⟩ := covers_iff.1 hcovers
  refine ⟨covers_iff.2 ⟨?_, ?_, Nat.mod_eq_zero_of_dvd ?_⟩, ?_⟩
  · simp only [form]
    omega
  · simp only [form]
    omega
  · -- the distance to the first form and the distance inside the row are both multiples
    have hsplit : row.form n - back.first = (row.target - back.first) + (n - row.first) := by
      simp only [form]
      omega
    have hinside : back.step ∣ n - row.first := by
      rcases hstep with hsingle | hstep
      · exact ⟨0, by omega⟩
      · exact (Nat.dvd_of_mod_eq_zero hstep).trans (Nat.dvd_of_mod_eq_zero hcode)
    rw [hsplit]
    exact dvd_add (Nat.dvd_of_mod_eq_zero hoffset) hinside
  · simp only [form]
    omega

/-- The row for one of the code points alone. -/
def only (row : CaseRow) (n : Nat) : CaseRow := ⟨n, n, 1, row.form n⟩

theorem only_covers (row : CaseRow) (n : Nat) : (row.only n).covers n = true :=
  covers_iff.2 ⟨le_rfl, le_rfl, Nat.mod_one _⟩

@[simp] theorem only_form (row : CaseRow) (n : Nat) : (row.only n).form n = row.form n := by
  simp [only, form]

/-- The code points that the row covers, in order. -/
def codes (row : CaseRow) : List Nat :=
  (List.range ((row.last - row.first) / row.step + 1)).map fun k => row.first + k * row.step

/-- The code points that the row covers, as a set. A step of zero leaves the first one. -/
def mask (row : CaseRow) : Nat :=
  stepMask row.step ((row.last - row.first) / row.step + 1) <<< row.first ||| 2 ^ row.first

section Index

variable (h : row.covers n = true)

include h

/-- A code point that the row covers is so many steps behind the first one. -/
theorem exists_index : ∃ k < (row.last - row.first) / row.step + 1,
    n = row.first + row.step * k := by
  obtain ⟨hfirst, hlast, hstep⟩ := covers_iff.1 h
  have hdiv := Nat.div_add_mod (n - row.first) row.step
  refine ⟨(n - row.first) / row.step, ?_, by omega⟩
  exact Nat.lt_succ_of_le (Nat.div_le_div_right (by omega))

theorem mem_codes : n ∈ row.codes := by
  obtain ⟨k, hk, rfl⟩ := exists_index h
  exact List.mem_map.2 ⟨k, List.mem_range.2 hk, by rw [mul_comm]⟩

theorem testBit_mask : row.mask.testBit n = true := by
  obtain ⟨k, hk, rfl⟩ := exists_index h
  rw [mask, Nat.testBit_or, Bool.or_eq_true]
  rcases Nat.eq_zero_or_pos row.step with hstep | hstep
  · right
    rw [hstep, zero_mul, add_zero, Nat.testBit_two_pow_self]
  · left
    rw [Nat.testBit_shiftLeft, Nat.add_sub_cancel_left, testBit_stepMask hstep hk, Bool.and_true]
    exact decide_eq_true (Nat.le_add_right _ _)

end Index

/-! ### Lists of rows -/

/-- Whether rows stand in ascending order, the first one not below a bound, without overlap. -/
def ordered (low : Nat) : List CaseRow → Bool
  | [] => true
  | row :: rest => low.ble row.first && row.first.ble row.last && ordered (row.last + 1) rest

theorem low_le_of_ordered {low : Nat} (h : ordered low rows = true) (hrow : row ∈ rows) :
    low ≤ row.first := by
  induction rows generalizing low with
  | nil => cases hrow
  | cons first rest ih =>
    simp only [ordered, Bool.and_eq_true, Nat.ble_eq] at h
    rcases List.mem_cons.1 hrow with rfl | hrow
    · exact h.1.1
    · have := ih h.2 hrow
      omega

/-- A form comes from a row that covers the code point, or it is the code point itself. -/
theorem apply_cases (n : Nat) (rows : List CaseRow) :
    (∃ row ∈ rows, row.covers n = true ∧ CaseRow.apply n rows = row.form n) ∨
      CaseRow.apply n rows = n := by
  induction rows with
  | nil => exact .inr rfl
  | cons row rest ih =>
    unfold CaseRow.apply
    split_ifs with hlow
    · exact .inr rfl
    · by_cases hcovers : row.covers n = true
      · rw [eq_some_of_covers hcovers]
        exact .inl ⟨row, List.mem_cons_self, hcovers, rfl⟩
      · rw [eq_none_of_not_covers (Bool.eq_false_iff.2 hcovers)]
        exact ih.imp_left fun ⟨r, hr, h⟩ => ⟨r, List.mem_cons_of_mem _ hr, h⟩

/-- In ordered rows the row that covers a code point is the one that gives its form. -/
theorem apply_eq_form {low : Nat} (h : ordered low rows = true) (hrow : row ∈ rows)
    (hcovers : row.covers n = true) : CaseRow.apply n rows = row.form n := by
  induction rows generalizing low with
  | nil => cases hrow
  | cons first rest ih =>
    obtain ⟨hrowfirst, hrowlast, -⟩ := covers_iff.1 hcovers
    simp only [ordered, Bool.and_eq_true, Nat.ble_eq] at h
    unfold CaseRow.apply
    rcases List.mem_cons.1 hrow with rfl | hrest
    · rw [if_neg (by omega), eq_some_of_covers hcovers]
    · -- the first row ends before the row that covers the code point begins
      have hbehind := low_le_of_ordered h.2 hrest
      have hfirst : first.covers n = false := by
        rw [Bool.eq_false_iff, ne_eq, covers_iff]
        omega
      rw [if_neg (by omega), eq_none_of_not_covers hfirst]
      exact ih h.2 hrest

/-- Whether the row that first reaches a row's forms takes them back. -/
def takenBack (rows : List CaseRow) (row : CaseRow) : Bool :=
  (rows.find? fun back => row.target.ble back.last).any (·.takesBack row)

theorem takenBack_sound (h : takenBack rows row = true) (hcovers : row.covers n = true) :
    ∃ back ∈ rows, back.covers (row.form n) = true ∧ back.form (row.form n) = n := by
  obtain ⟨back, hfind, htakes⟩ := (Option.any_eq_true _ _).1 h
  exact ⟨back, List.mem_of_find?_eq_some hfind, form_of_takesBack htakes hcovers⟩

end CaseRow

/-! ### Tables -/

section Table

variable {rows : List CaseRow} {long : List (Nat × List Nat)} {n m : Nat}

/-- The form of a code point according to rows and longer forms, as code points. -/
def caseCodes (rows : List CaseRow) (long : List (Nat × List Nat)) (n : Nat) : List Nat :=
  (long.lookup n).getD [CaseRow.apply n rows]

theorem caseForm_eq_map (rows : List CaseRow) (long : List (Nat × List Nat)) (c : Char) :
    caseForm rows long c = (caseCodes rows long c.toNat).map Char.ofNat := by
  unfold caseForm caseCodes
  cases long.lookup c.toNat <;> rfl

/-- A form is one of the longer forms, or the form in a row, or the code point itself. -/
theorem caseCodes_cases (rows : List CaseRow) (long : List (Nat × List Nat)) (n : Nat) :
    (∃ p ∈ long, p.1 = n ∧ caseCodes rows long n = p.2) ∨
      (∃ row ∈ rows, row.covers n = true ∧ caseCodes rows long n = [row.form n]) ∨
      caseCodes rows long n = [n] := by
  unfold caseCodes
  cases hlong : long.lookup n with
  | some form =>
    obtain ⟨before, behind, rfl, -⟩ := List.lookup_eq_some_iff.1 hlong
    exact .inl ⟨(n, form), by simp, rfl, rfl⟩
  | none =>
    rcases CaseRow.apply_cases n rows with ⟨row, hrow, hcovers, happly⟩ | hself
    · exact .inr (.inl ⟨row, hrow, hcovers, by rw [happly]; rfl⟩)
    · exact .inr (.inr (by rw [hself]; rfl))

/-- The code points in rows, as a set. -/
def rowsMask (rows : List CaseRow) : Nat := unionMask (rows.map CaseRow.mask)

/-- The code points with longer forms, as a set. -/
def longMask (long : List (Nat × List Nat)) : Nat := unionMask (long.map fun p => 2 ^ p.1)

/-- The code points of all forms of a table, as a set. -/
def formMask (rows : List CaseRow) (long : List (Nat × List Nat)) : Nat :=
  rowsMask (rows.map CaseRow.inverse) ||| unionMask (long.flatMap fun p => p.2.map (2 ^ ·))

theorem testBit_rowsMask {row : CaseRow} (hrow : row ∈ rows) (h : row.covers n = true) :
    (rowsMask rows).testBit n = true :=
  testBit_unionMask.2 ⟨_, List.mem_map_of_mem hrow, CaseRow.testBit_mask h⟩

theorem testBit_longMask {p : Nat × List Nat} (hp : p ∈ long) :
    (longMask long).testBit p.1 = true :=
  testBit_unionMask.2 ⟨_, List.mem_map_of_mem hp, Nat.testBit_two_pow_self⟩

/-- A code point outside a table has no other form. -/
theorem caseCodes_eq_self (h : (rowsMask rows ||| longMask long).testBit n = false) :
    caseCodes rows long n = [n] := by
  obtain ⟨hrows, hlong⟩ : _ ∧ _ := by simpa only [Nat.testBit_or, Bool.or_eq_false_iff] using h
  rcases caseCodes_cases rows long n with ⟨p, hp, rfl, -⟩ | ⟨row, hrow, hcovers, -⟩ | hself
  · rw [testBit_longMask hp] at hlong
    cases hlong
  · rw [testBit_rowsMask hrow hcovers] at hrows
    cases hrows
  · exact hself

/-- A code point has no other form, or its forms are in the set of all forms. -/
theorem testBit_formMask (rows : List CaseRow) (long : List (Nat × List Nat)) (n : Nat) :
    caseCodes rows long n = [n] ∨
      ∀ m ∈ caseCodes rows long n, (formMask rows long).testBit m = true := by
  simp only [formMask, Nat.testBit_or, Bool.or_eq_true]
  rcases caseCodes_cases rows long n with ⟨p, hp, rfl, hn⟩ | ⟨row, hrow, hcovers, hn⟩ | hself
  · refine .inr fun m hm => .inr (testBit_unionMask.2 ⟨2 ^ m, ?_, Nat.testBit_two_pow_self⟩)
    exact List.mem_flatMap.2 ⟨p, hp, List.mem_map_of_mem (hn ▸ hm)⟩
  · refine .inr fun m hm => .inl ?_
    obtain rfl := List.mem_singleton.1 (hn ▸ hm)
    exact testBit_rowsMask (List.mem_map_of_mem hrow) (CaseRow.inverse_covers hcovers)
  · exact .inl hself

/-- Whether the forms of a table have no other forms. -/
def Settled (rows : List CaseRow) (long : List (Nat × List Nat)) : Prop :=
  formMask rows long &&& (rowsMask rows ||| longMask long) = 0

instance (rows : List CaseRow) (long : List (Nat × List Nat)) : Decidable (Settled rows long) :=
  inferInstanceAs (Decidable (_ = _))

theorem caseCodes_settled (h : Settled rows long) (hm : m ∈ caseCodes rows long n) :
    caseCodes rows long m = [m] := by
  rcases testBit_formMask rows long n with hself | hforms
  · rw [hself, List.mem_singleton] at hm
    rw [hm, hself]
  · exact caseCodes_eq_self (notTestBit_of_land h (hforms m hm))

/-! ### Characters -/

/-- Where all forms are characters, the form of a character is that of its code point. -/
theorem map_toNat_caseForm (h : IsCharMask (formMask rows long)) (c : Char) :
    (caseForm rows long c).map Char.toNat = caseCodes rows long c.toNat := by
  rw [caseForm_eq_map, List.map_map]
  refine (List.map_congr_left fun m hm => ?_).trans (List.map_id _)
  have hvalid : m.isValidChar := by
    rcases testBit_formMask rows long c.toNat with hself | hforms
    · obtain rfl := List.mem_singleton.1 (hself ▸ hm)
      exact c.valid
    · exact isValidChar_of_testBit h (hforms m hm)
  show (Char.ofNat m).toNat = m
  rw [Char.ofNat, dif_pos hvalid]
  rfl

theorem toNat_mem_caseCodes {c d : Char} (h : IsCharMask (formMask rows long))
    (hd : d ∈ caseForm rows long c) : d.toNat ∈ caseCodes rows long c.toNat :=
  map_toNat_caseForm h c ▸ List.mem_map_of_mem hd

/-- Texts with the same code points are the same. -/
theorem eq_of_map_toNat {cs ds : List Char} (h : cs.map Char.toNat = ds.map Char.toNat) :
    cs = ds :=
  List.map_injective_iff.2 (fun _ _ => Char.toNat_inj.1) h

/-- In a settled table every character of a form is its own form. -/
theorem caseForm_settled {c d : Char} (hchars : IsCharMask (formMask rows long))
    (h : Settled rows long) (hd : d ∈ caseForm rows long c) : caseForm rows long d = [d] := by
  refine eq_of_map_toNat ?_
  rw [map_toNat_caseForm hchars, caseCodes_settled h (toNat_mem_caseCodes hchars hd)]
  rfl

theorem caseForm_ne_nil (h : (long.all fun p => !p.2.isEmpty) = true) (c : Char) :
    caseForm rows long c ≠ [] := by
  rw [caseForm_eq_map, ne_eq, List.map_eq_nil_iff]
  rcases caseCodes_cases rows long c.toNat with ⟨p, hp, -, hn⟩ | ⟨row, -, -, hn⟩ | hn
  · have hform := List.all_eq_true.1 h p hp
    rw [hn]
    rintro hnil
    simp [hnil] at hform
  · simp [hn]
  · simp [hn]

/-- The forms of a character are in ranges that the table leaves alone when the character is. -/
theorem inRanges_of_mem_caseForm {ranges : List (Nat × Nat)} {c d : Char}
    (hchars : IsCharMask (formMask rows long))
    (hkeys : rangesMask ranges &&& (rowsMask rows ||| longMask long) = 0)
    (hforms : rangesMask ranges &&& formMask rows long = 0) (hd : d ∈ caseForm rows long c) :
    inRanges d.toNat ranges = inRanges c.toNat ranges := by
  have hcode := toNat_mem_caseCodes hchars hd
  have hself (h : caseCodes rows long c.toNat = [c.toNat]) : d.toNat = c.toNat := by
    rwa [h, List.mem_singleton] at hcode
  rw [Bool.eq_iff_iff]
  constructor
  · intro hin
    rcases testBit_formMask rows long c.toNat with hnone | hall
    · rwa [← hself hnone]
    · have hnot := notTestBit_of_land hforms (testBit_of_inRanges hin)
      rw [hall _ hcode] at hnot
      cases hnot
  · intro hin
    rwa [hself (caseCodes_eq_self (notTestBit_of_land hkeys (testBit_of_inRanges hin)))]

end Table

end Assay
