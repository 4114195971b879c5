import Assay.Proofs.Acceptance
import Assay.Proofs.Checks

/-!
# Where issues come from

Every issue is raised by one rule of the tree for the value that this rule is applied to, or tells
that the output that the rule makes of this value cannot be written. It is then moved outward, one
step for each structural rule around it. A property of issues that the rules of the tree bring
about and that the steps outward keep holds of all issues.

* `StringRule.issue_cases`, `NumberRule.issue_cases`: what strings and numbers are rejected for;
* `Inside`: the rules of a tree, and `everywhere_iff_inside`: what holds everywhere holds of them;
* `ownIssues`: the issues that a rule raises beside those of its parts;
* `issue_induction`: from the own issues and the outputs of all rules inside to all issues.
-/

namespace Assay

/-! ### Strings and numbers -/

/-- A string rule objects to the kind of the input or to the conditions that a string violates. -/
theorem StringRule.issue_cases {rule : StringRule} {input : Json} {issue : Issue}
    (h : issue ∈ (rule.parse input).issues) :
    issue = .invalidType "string" input ∨
      ∃ raw, input = .string raw ∧
        ∃ check ∈ rule.checks, issue = check.violation (rule.canonical raw) := by
  cases input with
  | string raw =>
    rw [parse_string, Validation.issues_map, Rule.issues_checked] at h
    obtain ⟨check, hcheck, -, rfl⟩ := mem_issues.1 h
    exact .inr ⟨raw, rfl, check, hcheck, rfl⟩
  | _ => exact .inl (List.mem_singleton.1 h)

/-- A number rule objects to an input that holds no number of its kind or to the conditions that
the number violates. -/
theorem NumberRule.issue_cases {ν : Type} [Numeric ν] {rule : NumberRule ν} {input : Json}
    {issue : Issue} (h : issue ∈ (rule.parse input).issues) :
    (Numeric.extract input : Except Issue ν) = .error issue ∨
      ∃ n, (Numeric.extract input : Except Issue ν) = .ok n ∧
        ∃ check ∈ rule.checks, issue = check.violation := by
  cases hextract : (Numeric.extract input : Except Issue ν) with
  | error found =>
    simp only [parse, hextract] at h
    exact .inl (congrArg Except.error (List.mem_singleton.1 h).symm)
  | ok n =>
    rw [parse_of_extract rule hextract, Validation.issues_map, Rule.issues_checked] at h
    obtain ⟨check, hcheck, -, hissue⟩ := mem_issues.1 h
    exact .inr ⟨n, rfl, check, hcheck, hissue⟩

namespace Rule

/-! ### The rules of a tree -/

/-- Whether a rule is the given one or a rule inside it: it has every property that holds
everywhere in the given one. -/
def Inside (part rule : Rule) : Prop := ∀ p : Rule → Prop, rule.Everywhere p → p part

theorem Inside.refl (rule : Rule) : rule.Inside rule := fun _ h => h.here

/-- A property holds everywhere in a rule when it holds of every rule of the tree. -/
theorem everywhere_iff_inside {p : Rule → Prop} {rule : Rule} :
    rule.Everywhere p ↔ ∀ part, part.Inside rule → p part := by
  refine ⟨fun h part hinside => hinside p h, fun h => ?_⟩
  induction rule with
  | array item bounds ih =>
    exact ⟨h _ (.refl _), ih fun part hpart => h part fun q hq => hpart q hq.2⟩
  | object fields strict ih =>
    refine everywhere_object.2 ⟨h _ (.refl _), fun field hfield => ?_⟩
    exact ih field hfield fun part hpart =>
      h part fun q hq => hpart q ((everywhere_object.1 hq).2 field hfield)
  | ensure rule _ _ ih | transform rule _ ih | optional rule ih | brand _ rule ih
  | shared rule ih => exact ⟨h _ (.refl _), ih fun part hpart => h part fun q hq => hpart q hq.2⟩
  | _ => exact h _ (.refl _)

/-! ### Own issues -/

/-- The issues that a rule raises itself, beside those of its parts. -/
def ownIssues : Rule → Json → List Issue
  | array _ bounds, input => match input with
    | .array items => bounds.issues items.length
    | input => [.invalidType "array" input]
  | object fields strict, input => match input with
    | .object members => if strict then unrecognized fields members else []
    | input => [.invalidType "object" input]
  | ensure _ _ message, _ => [.custom message]
  | transform _ _, _ | optional _, _ | brand _ _, _ | shared _, _ => []
  | rule, input => (rule.parse input).issues

theorem ownIssues_string (rule : StringRule) (input : Json) :
    (string rule).ownIssues input = (rule.parse input).issues :=
  Validation.issues_map _ _

theorem ownIssues_number (rule : NumberRule Double) (input : Json) :
    (number rule).ownIssues input = (rule.parse input).issues :=
  Validation.issues_map _ _

theorem ownIssues_integer (rule : NumberRule Int64) (input : Json) :
    (integer rule).ownIssues input = (rule.parse input).issues :=
  Validation.issues_map _ _

/-- A typed rule raises an issue when the reader of its type refuses the input. -/
theorem mem_ownIssues_typed {name : String} {read : Json → Except String Output} {input : Json}
    {issue : Issue} :
    issue ∈ (typed name read).ownIssues input ↔
      ∃ text, read input = .error text ∧ issue = refusal name input text := by
  change issue ∈ ((typed name read).parse input).issues ↔ _
  rw [parse]
  cases hread : read input with
  | ok output => simp
  | error text => simp

theorem mem_issues_written {output : Output} {issue : Issue} :
    issue ∈ (written output).issues ↔ ∃ e, output.toJson = .error e ∧ issue = unwritable e := by
  rw [written]
  cases hwritten : output.toJson with
  | ok value => simp
  | error e => simp

/-- What the rules of a tree bring about by their own issues and by outputs that cannot be
written, and what the steps outward keep, holds of every issue. -/
theorem issue_induction {P : Json → Issue → Prop}
    (underKey : ∀ members name issue, P (Json.memberOrNull members name) issue →
      P (.object members) (issue.under (.key name)))
    (underIndex : ∀ (items : List Json) (i : Nat) item issue, items[i]? = some item →
      P item issue → P (.array items) (issue.under (.index i)))
    {rule : Rule}
    (unwritten : rule.Everywhere fun part => ∀ value output e,
      part.parse value = .success output → output.toJson = .error e → P value (unwritable e))
    (own : rule.Everywhere fun part => ∀ value, ∀ issue ∈ part.ownIssues value, P value issue)
    {input : Json} {issue : Issue} (h : issue ∈ (rule.parse input).issues) : P input issue := by
  induction rule generalizing input issue with
  | array item bounds ih =>
    cases input with
    | array items =>
      rw [issues_array] at h
      rcases List.mem_append.1 h with h | h
      · exact own.1 _ _ h
      · -- the position in the list of pairs is the index in the array
        obtain ⟨⟨x, i⟩, hx, h⟩ := List.mem_flatMap.1 h
        obtain ⟨inner, hinner, rfl⟩ := List.mem_map.1 h
        exact underIndex items i x inner (List.mem_zipIdx_iff_getElem?.1 hx)
          (ih unwritten.2 own.2 hinner)
    | _ => exact own.1 _ _ h
  | object fields strict ih =>
    obtain ⟨hown, hfields⟩ := everywhere_object.1 own
    have hunwritten := (everywhere_object.1 unwritten).2
    cases input with
    | object members =>
      rw [issues_object] at h
      rcases List.mem_append.1 h with h | h
      · obtain ⟨field, hfield, h⟩ := List.mem_flatMap.1 h
        obtain ⟨inner, hinner, rfl⟩ := List.mem_map.1 h
        refine underKey members field.1 inner ?_
        rcases Validation.mem_issues_andThen.1 hinner with hinner | ⟨output, hmade, hinner⟩
        · exact ih field hfield (hunwritten field hfield) (hfields field hfield) hinner
        · obtain ⟨e, he, rfl⟩ := mem_issues_written.1 hinner
          exact (hunwritten field hfield).here _ output e hmade he
      · exact hown _ _ h
    | _ => exact hown _ _ h
  | ensure rule holds message ih =>
    rw [parse] at h
    rcases Validation.mem_issues_andThen.1 h with h | ⟨output, -, h⟩
    · exact ih unwritten.2 own.2 h
    · split_ifs at h
      · cases h
      · exact own.1 _ _ h
  | optional rule ih =>
    by_cases hnull : input = .null
    · rw [hnull] at h
      cases h
    · rw [parse_optional_of_ne_null hnull, Validation.issues_map] at h
      exact ih unwritten.2 own.2 h
  | transform rule _ ih | brand _ rule ih =>
    rw [parse, Validation.issues_map] at h
    exact ih unwritten.2 own.2 h
  | shared rule ih => exact ih unwritten.2 own.2 h
  | _ => exact own _ _ h

end Rule
end Assay
