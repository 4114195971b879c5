import Assay.Inspect
import Mathlib.Tactic

/-!
# Texts on one line

A report shows every issue on a line of its own and its place on the next one. What a message
quotes and the numbers in it are on one line whatever they are, so the lines of a report can be
told apart as soon as the texts of the caller are on one line.

* `OneLine`: whether a text has no line break;
* `oneLine_quote`, `NumberStyle.oneLine_text`, `Path.oneLine_text`: quoted texts, numbers and
  paths have none;
* `Diagnostics.lines_pretty`: the lines of a report are those that were put into it;
* `Diagnostics.marked_pretty`: as many of them start with the mark as there are issues.
-/

namespace Assay

/-- Whether a text has no line break. -/
def OneLine (s : String) : Prop := '\n' ∉ s.toList

instance (s : String) : Decidable (OneLine s) := inferInstanceAs (Decidable ('\n' ∉ s.toList))

@[simp] theorem oneLine_append {s t : String} : OneLine (s ++ t) ↔ OneLine s ∧ OneLine t := by
  simp [OneLine]

@[simp] theorem oneLine_toString {s : String} : OneLine (toString s) ↔ OneLine s := Iff.rfl

@[simp] theorem oneLine_ofList {cs : List Char} : OneLine (String.ofList cs) ↔ '\n' ∉ cs := by
  simp [OneLine]

theorem oneLine_between {before text after : String} (hbefore : OneLine before)
    (htext : OneLine text) (hafter : OneLine after) : OneLine (before ++ text ++ after) :=
  oneLine_append.2 ⟨oneLine_append.2 ⟨hbefore, htext⟩, hafter⟩

theorem oneLine_intercalate {separator : String} {texts : List String}
    (hseparator : OneLine separator) (htexts : ∀ s ∈ texts, OneLine s) :
    OneLine (separator.intercalate texts) := by
  induction texts with
  | nil => simp [OneLine]
  | cons s rest ih =>
    obtain ⟨hs, hrest⟩ := List.forall_mem_cons.1 htexts
    cases rest with
    | nil => simpa using hs
    | cons t rest =>
      rw [String.intercalate_cons_cons]
      exact oneLine_between hs hseparator (ih hrest)

/-! ### Digits -/

/-- A character that is no digit does not occur among the digits of a number. -/
theorem notMem_toDigits {c : Char} (hc : ∀ d : Nat, d.digitChar ≠ c) {base : Nat}
    (hbase : 1 < base) (n : Nat) : c ∉ Nat.toDigits base n := by
  induction n using Nat.strongRecOn with
  | ind n ih =>
    by_cases hn : n < base
    · rw [Nat.toDigits_of_lt_base hn, List.mem_singleton]
      exact (hc n).symm
    · have hdiv : n / base < n := Nat.div_lt_self (by omega) hbase
      rw [Nat.toDigits_of_base_le hbase (not_lt.1 hn), List.mem_append, List.mem_singleton]
      exact not_or.2 ⟨ih _ hdiv, (hc _).symm⟩

/-- The digits of a number in any base are on one line. -/
theorem newline_notMem_toDigits {base : Nat} (hbase : 1 < base) (n : Nat) :
    '\n' ∉ Nat.toDigits base n :=
  notMem_toDigits (fun _ => Nat.digitChar_ne '\n' (by decide)) hbase n

@[simp] theorem oneLine_repr_nat (n : Nat) : OneLine n.repr := by
  rw [← Nat.toString_eq_repr, Nat.toString_eq_ofList_toDigits, oneLine_ofList]
  exact newline_notMem_toDigits (by decide) n

@[simp] theorem oneLine_repr_int (n : Int) : OneLine n.repr := by
  cases n with
  | ofNat n => exact oneLine_repr_nat n
  | negSucc n => exact oneLine_append.2 ⟨by decide, oneLine_repr_nat (n + 1)⟩

/-! ### Quoted texts -/

theorem newline_notMem_quoteChar (c : Char) : '\n' ∉ quoteChar c := by
  by_cases hc : c = '\n'
  · rw [hc]
    decide
  · unfold quoteChar
    split
    -- the characters without an escape of their own
    case h_7 =>
      split_ifs
      · simpa using Ne.symm hc
      · simpa using newline_notMem_toDigits (by decide) c.toNat
    all_goals decide

theorem newline_notMem_quoteChars (cs : List Char) : '\n' ∉ quoteChars cs := by
  simp [quoteChars, newline_notMem_quoteChar]

@[simp] theorem oneLine_quote (s : String) : OneLine (quote s) := by
  simp [quote, newline_notMem_quoteChars]

/-! ### Numbers -/

namespace NumberStyle

theorem newline_notMem_positionalText (keepsPoint : Bool) (d : Decimal) :
    '\n' ∉ positionalText keepsPoint d := by
  have hdigits := newline_notMem_toDigits (by decide : 1 < 10) d.digits
  have htake : ∀ n, '\n' ∉ (Nat.toDigits 10 d.digits).take n :=
    fun n h => hdigits (List.mem_of_mem_take h)
  have hdrop : ∀ n, '\n' ∉ (Nat.toDigits 10 d.digits).drop n :=
    fun n h => hdigits (List.mem_of_mem_drop h)
  have hzeros : ∀ n, '\n' ∉ zeros n := by simp [zeros]
  unfold positionalText
  simp only
  split_ifs <;> simp [hdigits, htake, hdrop, hzeros]

theorem newline_notMem_exponentText (plus : Bool) (d : Decimal) :
    '\n' ∉ exponentText plus d := by
  have hdigits := newline_notMem_toDigits (by decide : 1 < 10) d.digits
  have hexponent := newline_notMem_toDigits (by decide : 1 < 10) (d.point - 1).natAbs
  unfold exponentText
  simp only
  split_ifs <;> split <;> simp_all

/-- A number is on one line in every style. -/
@[simp] theorem oneLine_text (style : NumberStyle) (x : Double) : OneLine (style.text x) := by
  have hmagnitude : '\n' ∉ style.magnitudeText x := by
    unfold magnitudeText
    simp only
    split_ifs
    · decide
    · decide
    · decide
    · split
      · exact newline_notMem_positionalText _ _
      · split_ifs
        · exact newline_notMem_positionalText _ _
        · exact newline_notMem_exponentText _ _
  unfold text
  split_ifs
  · decide
  · rw [oneLine_ofList]
    simp [hmagnitude]
  · rw [oneLine_ofList]
    simp [hmagnitude]

end NumberStyle

/-! ### Paths -/

theorem PathSegment.newline_notMem_chars (first : Bool) (segment : PathSegment) :
    '\n' ∉ segment.chars first := by
  cases segment with
  | index position =>
    simpa [chars] using newline_notMem_toDigits (by decide) position
  | key name =>
    -- a name that is shown without quotes has the characters of an identifier only
    have hname : isIdentifier name.toList = true → '\n' ∉ name.toList := by
      intro h hmem
      cases hcs : name.toList with
      | nil => simp [hcs] at hmem
      | cons c rest =>
        simp only [hcs, isIdentifier, Bool.and_eq_true, List.all_eq_true] at h hmem
        rcases List.mem_cons.1 hmem with rfl | hrest
        · exact absurd h.1 (by decide)
        · exact absurd (h.2 _ hrest) (by decide)
    by_cases hidentifier : isIdentifier name.toList = true
    · cases first <;> simp [chars, hidentifier, hname hidentifier]
    · simp [chars, hidentifier, newline_notMem_quoteChars]

@[simp] theorem Path.oneLine_text (path : Path) : OneLine path.text := by
  cases path with
  | nil => decide
  | cons segment rest =>
    simp [Path.text, Path.chars, PathSegment.newline_notMem_chars]

/-! ### Reports -/

/-- The lines of a text. -/
def lines (s : String) : List (List Char) := s.toList.splitOn '\n'

/-- Whether a line starts with the mark of an issue. -/
def isMarked (line : List Char) : Bool := ['✖'].isPrefixOf line

namespace Diagnostics

theorem oneLine_of_mem_issueLines {issue : Issue} (h : OneLine issue.message) {line : String}
    (hline : line ∈ issueLines issue) : OneLine line := by
  unfold issueLines at hline
  rcases List.mem_cons.1 hline with rfl | hline
  · exact oneLine_append.2 ⟨by decide, h⟩
  · split_ifs at hline
    · cases hline
    · rw [List.mem_singleton.1 hline]
      exact oneLine_append.2 ⟨by decide, Path.oneLine_text _⟩

/-- The lines of a report are those that were put into it. -/
theorem lines_pretty {d : Diagnostics} (h : ∀ issue ∈ d.toList, OneLine issue.message) :
    lines d.pretty = (d.toList.flatMap issueLines).map String.toList := by
  rw [lines, pretty, String.toList_intercalate]
  refine List.splitOn_intercalate '\n' ?_ ?_
  · simp only [List.forall_mem_map, List.mem_flatMap]
    rintro line ⟨issue, hissue, hline⟩
    exact oneLine_of_mem_issueLines (h issue hissue) hline
  · simp [toList, NonEmptyList.toList, issueLines]

theorem length_toList (d : Diagnostics) : d.toList.length = d.length := by
  simp [toList, length, NonEmptyList.length, NonEmptyList.toList]

theorem marked_issueLines (issue : Issue) :
    ((issueLines issue).map String.toList).countP isMarked = 1 := by
  have hmessage : isMarked ("✖ " ++ issue.message).toList = true := by
    simp [isMarked]
  have hplace : isMarked ("  → at " ++ issue.path.text).toList = false := by
    simp [isMarked, List.isPrefixOf]
  unfold issueLines
  split_ifs
  · exact (List.countP_cons_of_pos hmessage).trans rfl
  · exact (List.countP_cons_of_pos hmessage).trans
      (congrArg (· + 1) (List.countP_cons_of_neg (Bool.eq_false_iff.1 hplace)))

/-- A report has one marked line for each issue. -/
theorem marked_pretty {d : Diagnostics} (h : ∀ issue ∈ d.toList, OneLine issue.message) :
    (lines d.pretty).countP isMarked = d.length := by
  rw [lines_pretty h, List.map_flatMap, List.countP_flatMap]
  simp only [Function.comp_def, marked_issueLines]
  simp [length_toList]

end Diagnostics
end Assay
