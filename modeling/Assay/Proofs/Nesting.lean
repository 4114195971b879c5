import Assay.Diagnostics

/-!
# Nested diagnostics

What is reported about the parts of a value is merged, and seen from further out the way to the part
stands in front of every path. Neither changes the order of the issues or anything else in them, so
a report of merged diagnostics is made of the reports of its parts.

* `Diagnostics.within`: diagnostics as seen from the beginning of a way;
* `Diagnostics.toList_within`: the way is in front of every path, and nothing else has changed;
* `Diagnostics.within_combine`: what is merged may be seen from further out before or afterwards;
* `Diagnostics.pretty_combine`: the reports of the parts are separated by one line break.
-/

namespace Assay

/-- The issue as seen from the beginning of a way that leads to its root. -/
def Issue.within (way : Path) (issue : Issue) : Issue :=
  { issue with path := way ++ issue.path }

namespace Diagnostics

/-- The diagnostics as seen from the beginning of a way, whose last step is taken back first. -/
def within (way : Path) (d : Diagnostics) : Diagnostics := way.foldr under d

theorem within_cons (segment : PathSegment) (way : Path) (d : Diagnostics) :
    d.within (segment :: way) = (d.within way).under segment := rfl

/-! ### Ways -/

/-- The way is in front of every path, and nothing else has changed. -/
theorem toList_within (way : Path) (d : Diagnostics) :
    (d.within way).toList = d.toList.map (Issue.within way) := by
  induction way with
  | nil => exact (List.map_id d.toList).symm
  | cons segment way ih =>
    have hstep : Issue.within (segment :: way) = Issue.under segment ∘ Issue.within way := rfl
    rw [within_cons, toList_under, ih, List.map_map, hstep]

theorem under_combine (segment : PathSegment) (d e : Diagnostics) :
    (combine d e).under segment = combine (d.under segment) (e.under segment) := by
  rw [← toList_inj, toList_under, toList_combine, List.map_append, toList_combine, toList_under,
    toList_under]

/-- What is merged may be seen from further out before or afterwards. -/
theorem within_combine (way : Path) (d e : Diagnostics) :
    (combine d e).within way = combine (d.within way) (e.within way) := by
  induction way with
  | nil => rfl
  | cons segment way ih => rw [within_cons, ih, under_combine, within_cons, within_cons]

/-! ### Reports -/

/-- There is a line in every report, since there is an issue to begin with. -/
theorem flatMap_issueLines_ne_nil (d : Diagnostics) : d.toList.flatMap issueLines ≠ [] :=
  List.cons_ne_nil _ _

/-- The reports of the parts are separated by one line break. -/
theorem pretty_combine (d e : Diagnostics) :
    (combine d e).pretty = d.pretty ++ "\n" ++ e.pretty := by
  unfold pretty
  rw [toList_combine, List.flatMap_append]
  exact String.intercalate_append_of_ne_nil (flatMap_issueLines_ne_nil d)
    (flatMap_issueLines_ne_nil e)

/-- **Diagnostics are merged and nested by simple laws.** Merging is associative and puts issues one
after the other. A step outward, and so a whole way, may be taken before or after merging. Seen from
the beginning of a way, the issues are the same in the same order, with their codes and messages,
and the way in front of their paths. The report of merged diagnostics is the first report, a line
break, and the second report. -/
theorem merged_and_nested (a b c : Diagnostics) (segment : PathSegment) (way : Path) :
    combine (combine a b) c = combine a (combine b c) ∧
      (combine a b).toList = a.toList ++ b.toList ∧
      (combine a b).under segment = combine (a.under segment) (b.under segment) ∧
      (combine a b).within way = combine (a.within way) (b.within way) ∧
      (a.within way).toList =
        a.toList.map (fun issue => ⟨issue.code, issue.message, way ++ issue.path⟩) ∧
      (combine a b).pretty = a.pretty ++ "\n" ++ b.pretty :=
  ⟨append_assoc a b c, toList_combine a b, under_combine segment a b, within_combine way a b,
    toList_within way a, pretty_combine a b⟩

example :
    ((single (.custom "bad")).within [.key "user", .key "emails", .index 0]).pretty =
      "✖ bad\n  → at user.emails[0]" := by
  decide +kernel

end Diagnostics
end Assay
