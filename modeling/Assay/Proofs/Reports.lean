import Assay.Proofs.Lines

/-!
# Reading reports back

A report for people shows the message and the place of every issue, and these can be read off it
again: a line that begins with the arrow is the place of the issue in front of it, and every other
line begins an issue. A message stands behind its mark, so it is never taken for a mark or an arrow,
whatever it begins with, and a key in a place is quoted, so it never makes a line of its own.

* `Entry`, `entriesOf`: what a report shows of an issue, read line by line;
* `Diagnostics.entriesOf_pretty`: the entries of a report are those of the issues;
* `Diagnostics.shown_of_pretty_eq`: reports that look alike show the same.
-/

namespace Assay

/-- What a report shows of an issue: the message, and the place if there is a line for it. -/
structure Entry where
  message : String
  place : Option String
deriving DecidableEq

/-- What a report has to show of an issue: the place is left out at the root. -/
def Issue.entry (issue : Issue) : Entry :=
  ⟨issue.message, if issue.path = [] then none else some issue.path.text⟩

/-- Whether a line begins with the arrow. -/
def isPlace (line : List Char) : Bool := "  → at ".toList.isPrefixOf line

/-- The text behind the mark of a line. -/
def messageIn (line : List Char) : String := String.ofList (line.drop 2)

/-- The text behind the arrow of a line. -/
def placeIn (line : List Char) : String := String.ofList (line.drop 7)

/-- The entries in the lines of a report. A line with an arrow belongs to the line above it. -/
def entriesOf : List (List Char) → List Entry
  | [] => []
  | [line] => [⟨messageIn line, none⟩]
  | line :: next :: rest =>
    if isPlace next then ⟨messageIn line, some (placeIn next)⟩ :: entriesOf rest
    else ⟨messageIn line, none⟩ :: entriesOf (next :: rest)

/-! ### Lines of an entry -/

/-- Whether the first of some lines begins an entry. -/
def BeginsEntry (rest : List (List Char)) : Prop := ∀ line ∈ rest.head?, isPlace line = false

theorem entriesOf_cons {line : List Char} {rest : List (List Char)} (h : BeginsEntry rest) :
    entriesOf (line :: rest) = ⟨messageIn line, none⟩ :: entriesOf rest := by
  cases rest with
  | nil => rfl
  | cons next rest =>
    have hnext : isPlace next = false := h next rfl
    rw [entriesOf, hnext]
    rfl

namespace Diagnostics

/-- The lines of an issue as characters. -/
theorem map_toList_issueLines (issue : Issue) :
    (issueLines issue).map String.toList =
      ('✖' :: ' ' :: issue.message.toList) ::
        if issue.path = [] then [] else ["  → at ".toList ++ issue.path.text.toList] := by
  have hmessage : s!"✖ {issue.message}".toList = '✖' :: ' ' :: issue.message.toList :=
    String.toList_append
  have hplace : s!"  → at {issue.path.text}".toList =
      "  → at ".toList ++ issue.path.text.toList := String.toList_append
  rw [issueLines, List.map_cons, hmessage, apply_ite (List.map String.toList), List.map_nil,
    List.map_singleton, hplace]
  simp only [List.isEmpty_iff]

/-- A message that looks like a place is behind a mark all the same. -/
theorem isPlace_marked (cs : List Char) : isPlace ('✖' :: cs) = false := rfl

/-- The lines of an issue are its entry, whatever entries follow. -/
theorem entriesOf_issueLines_append (issue : Issue) {rest : List (List Char)}
    (h : BeginsEntry rest) :
    entriesOf ((issueLines issue).map String.toList ++ rest) = issue.entry :: entriesOf rest := by
  rw [map_toList_issueLines, Issue.entry]
  split_ifs with hpath
  · exact (entriesOf_cons h).trans (by simp [messageIn])
  · have hplace : isPlace ("  → at ".toList ++ issue.path.text.toList) = true :=
      List.isPrefixOf_iff_prefix.2 (List.prefix_append _ _)
    rw [List.cons_append, List.singleton_append, entriesOf, if_pos hplace]
    simp [messageIn, placeIn]

theorem entriesOf_flatMap (issues : List Issue) :
    entriesOf ((issues.flatMap issueLines).map String.toList) = issues.map Issue.entry := by
  induction issues with
  | nil => rfl
  | cons issue rest ih =>
    have hrest : BeginsEntry ((rest.flatMap issueLines).map String.toList) := by
      intro line hline
      cases rest with
      | nil => cases hline
      | cons next rest =>
        rw [List.flatMap_cons, List.map_append, map_toList_issueLines] at hline
        exact Option.some.inj hline ▸ isPlace_marked _
    rw [List.flatMap_cons, List.map_append, entriesOf_issueLines_append issue hrest, ih,
      List.map_cons]

/-- The entries of a report are those of the issues. -/
theorem entriesOf_pretty {d : Diagnostics} (h : ∀ issue ∈ d.toList, OneLine issue.message) :
    entriesOf (lines d.pretty) = d.toList.map Issue.entry := by
  rw [lines_pretty h, entriesOf_flatMap]

/-- Issues with the same entry have the same message and the same place. -/
theorem shown_of_entry_eq {issue other : Issue} (h : issue.entry = other.entry) :
    issue.message = other.message ∧ issue.path.text = other.path.text ∧
      (issue.path = [] ↔ other.path = []) := by
  obtain ⟨hmessage, hplace⟩ := Entry.mk.inj h
  refine ⟨hmessage, ?_⟩
  split_ifs at hplace with hissue hother hother
  · rw [hissue, hother]
    exact ⟨rfl, Iff.rfl⟩
  · exact ⟨Option.some.inj hplace, iff_of_false hissue hother⟩

/-- **A report determines what it reports.** When the messages are on one line each, reports that
are the same text are about as many issues, with the same messages and the same places in the same
order, and the lines with an arrow are those of the issues that are not at the root. -/
theorem shown_of_pretty_eq {d e : Diagnostics}
    (hd : ∀ issue ∈ d.toList, OneLine issue.message)
    (he : ∀ issue ∈ e.toList, OneLine issue.message) (h : d.pretty = e.pretty) :
    d.length = e.length ∧
      List.Forall₂ (fun issue other => issue.message = other.message ∧
        issue.path.text = other.path.text ∧ (issue.path = [] ↔ other.path = []))
        d.toList e.toList ∧
      entriesOf (lines d.pretty) = d.toList.map Issue.entry := by
  have hread := entriesOf_pretty hd
  have hentries : d.toList.map Issue.entry = e.toList.map Issue.entry := by
    rw [← hread, h, entriesOf_pretty he]
  refine ⟨?_, ?_, hread⟩
  · rw [← length_toList, ← length_toList, ← List.length_map Issue.entry, hentries,
      List.length_map]
  · rw [← List.forall₂_eq_eq_eq, List.forall₂_map_left_iff, List.forall₂_map_right_iff] at hentries
    exact hentries.imp fun _ _ => shown_of_entry_eq

/-- Two issues with messages and a key that look like lines of a report. -/
def lookalike (first second : IssueCode) : Diagnostics :=
  ⟨⟨⟨first, "✖ a", [.key "b\n  → at c", .index 0]⟩, [⟨second, "  → at d", []⟩]⟩⟩

/-- Whatever their codes are, they are read back out of their report. -/
theorem shown_lookalike :
    OneLine "✖ a" ∧ OneLine "  → at d" ∧
      (lookalike .custom .notInteger).pretty = (lookalike .notInteger .custom).pretty ∧
      entriesOf (lines (lookalike .custom .notInteger).pretty) =
        [⟨"✖ a", some "[\"b\\n  → at c\"][0]"⟩, ⟨"  → at d", none⟩] := by
  have hone : ∀ first second, ∀ issue ∈ (lookalike first second).toList,
      OneLine issue.message := by
    intro first second
    simp only [lookalike, toList, NonEmptyList.toList, List.forall_mem_cons]
    exact ⟨by decide, by decide, List.forall_mem_nil _⟩
  have hsame : (lookalike .custom .notInteger).pretty = (lookalike .notInteger .custom).pretty :=
    rfl
  obtain ⟨-, -, hread⟩ := shown_of_pretty_eq (hone _ _) (hone _ _) hsame
  exact ⟨by decide, by decide, hsame, hread.trans (by decide +kernel)⟩

end Diagnostics
end Assay
