import Assay.Proofs.Locations
import Assay.Proofs.ShapeErrors

/-!
# Line breaks in reports

A report has one marked line for each issue as long as no message has a line break. The texts that
the caller puts into the rules are taken to have none, and what a message quotes from the input has
none either. What is left are the texts that are passed as they stand: what the reader of a type
says of the data that it refuses, and why a value of the caller cannot be written. A report is
broken by such a text, and in no other way. A reader that goes by a shape takes all of its texts
from the shape but the name of a member or of a variant that the shape does not know.

* `Rule.TextsOneLine`: whether the texts that the caller puts into a rule are on one line;
* `Rule.PassesText`: whether an issue passes a text of a reader or of a value as it stands;
* `Rule.OneLineOrText`: the invariant that the issues that a rule brings about have and that the
  steps outward keep;
* `Rule.PassesName`: whether the text that an issue passes is about a name of the input;
* `Rule.oneLine_iff_texts`: a message has a line break exactly when it passes a text that has one,
  and a report without such texts has one marked line for each issue.
-/

namespace Assay

/-! ### Messages of the simple rules -/

theorem Kind.oneLine_name (kind : Kind) : OneLine kind.name := by
  cases kind <;> decide

theorem Issue.oneLine_of_invalidType {expected : String} (h : OneLine expected) {input : Json}
    {issue : Issue} (hissue : issue ∈ [invalidType expected input]) : OneLine issue.message := by
  rw [List.mem_singleton.1 hissue]
  exact oneLine_append.2 ⟨oneLine_between (by decide) h (by decide), input.kind.oneLine_name⟩

namespace StringCheck

/-- Whether the text that a condition shows unquoted is on one line. -/
def TextsOneLine : StringCheck → Prop
  | pattern regex => OneLine regex.source
  | _ => True

theorem oneLine_violation {check : StringCheck} (h : check.TextsOneLine) (s : String) :
    OneLine (check.violation s).message := by
  cases check with
  | nonEmpty => exact (by decide : OneLine "String must not be empty")
  | email => exact (by decide : OneLine "Invalid email address")
  | uuid => exact (by decide : OneLine "Invalid UUID")
  | minLength n | maxLength n => exact oneLine_between (by decide) (oneLine_repr_nat n) (by decide)
  | length n =>
    rw [violation]
    split_ifs <;> exact oneLine_between (by decide) (oneLine_repr_nat n) (by decide)
  | startsWith text | endsWith text | includes text =>
    exact oneLine_append.2 ⟨by decide, oneLine_quote text⟩
  | pattern regex => exact oneLine_between (by decide) h (by decide)

end StringCheck

theorem StringRule.oneLine_of_mem_issues {rule : StringRule}
    (texts : ∀ check ∈ rule.checks, check.TextsOneLine) {input : Json} {issue : Issue}
    (h : issue ∈ (rule.parse input).issues) : OneLine issue.message := by
  obtain rfl | ⟨raw, rfl, check, hcheck, rfl⟩ := issue_cases h
  · exact Issue.oneLine_of_invalidType (by decide) (List.mem_singleton_self _)
  · exact StringCheck.oneLine_violation (texts check hcheck) _

theorem Issue.oneLine_notInteger : OneLine Issue.notInteger.message := by decide

theorem NumberCheck.oneLine_violation {ν : Type} [Numeric ν]
    (text : ∀ n : ν, OneLine (Numeric.text n)) (check : NumberCheck ν) :
    OneLine check.violation.message := by
  cases check with
  | int => exact Issue.oneLine_notInteger
  | gt n | gte n | lt n | lte n | multipleOf n => exact oneLine_append.2 ⟨by decide, text n⟩

theorem Double.oneLine_of_mem_issues {rule : NumberRule Double} {input : Json} {issue : Issue}
    (h : issue ∈ (rule.parse input).issues) : OneLine issue.message := by
  obtain hextract | ⟨x, -, check, -, rfl⟩ := NumberRule.issue_cases h
  · cases input with
    | number n => cases hextract
    | _ => exact Issue.oneLine_of_invalidType (by decide) h
  · exact check.oneLine_violation NumberStyle.plain.oneLine_text

theorem Number.oneLine_of_toInt64 {n : Number} {issue : Issue} (h : n.toInt64 = .error issue) :
    OneLine issue.message := by
  have hsmall : OneLine s!"Too small: expected integer to be >={Int64.minValue.toInt}" :=
    oneLine_append.2 ⟨by decide, oneLine_repr_int _⟩
  have hbig : OneLine s!"Too big: expected integer to be <={Int64.maxValue.toInt}" :=
    oneLine_append.2 ⟨by decide, oneLine_repr_int _⟩
  unfold toInt64 at h
  cases n with
  | whole n fits =>
    simp only at h
    split_ifs at h <;> obtain rfl := Except.error.inj h
    · exact hsmall
    · exact hbig
  | real x canonical =>
    simp only at h
    split_ifs at h <;> obtain rfl := Except.error.inj h
    · exact hsmall
    · exact hbig
    · exact Issue.oneLine_notInteger

theorem Int64.oneLine_of_mem_issues {rule : NumberRule Int64} {input : Json} {issue : Issue}
    (h : issue ∈ (rule.parse input).issues) : OneLine issue.message := by
  obtain hextract | ⟨n, -, check, -, rfl⟩ := NumberRule.issue_cases h
  · cases input with
    | number n => exact Number.oneLine_of_toInt64 hextract
    | _ => exact Issue.oneLine_of_invalidType (by decide) h
  · exact check.oneLine_violation fun n => oneLine_repr_int n.toInt

theorem ItemBounds.oneLine_of_mem_issues {bounds : ItemBounds} {length : Nat} {issue : Issue}
    (h : issue ∈ bounds.issues length) : OneLine issue.message := by
  obtain ⟨n, -, -, rfl⟩ | ⟨n, -, -, rfl⟩ := mem_issues.1 h
  · exact oneLine_between (by decide) (oneLine_repr_nat n) (by decide)
  · exact oneLine_between (by decide) (oneLine_repr_nat n) (by decide)

namespace Rule

theorem oneLine_of_unrecognized {fields : List (String × Rule)} {members : List (String × Json)}
    {issue : Issue} (h : issue ∈ unrecognized fields members) : OneLine issue.message := by
  obtain ⟨key, -, rfl⟩ := List.mem_map.1 h
  exact oneLine_append.2 ⟨by decide, oneLine_quote key⟩

/-! ### Texts that are passed -/

theorem oneLine_refusal {name : String} {input : Json} {text : String} :
    OneLine (refusal name input text).message ↔ OneLine text :=
  oneLine_append.trans (and_iff_right (by decide))

theorem oneLine_unwritable {e : WriteError} :
    OneLine (unwritable e).message ↔ OneLine e.message :=
  oneLine_append.trans (and_iff_right (by decide))

/-- Whether the texts that the caller puts into a rule are on one line. What the readers of types
and the values of the caller say is no part of a rule. -/
def TextsOneLine : Rule → Prop
  | string rule => ∀ check ∈ rule.checks, check.TextsOneLine
  | ensure _ _ message => OneLine message
  | custom rule => ∀ input, ∀ issue ∈ (rule.parse input).issues, OneLine issue.message
  | _ => True

/-- Whether an issue passes a text as it stands: a rule inside the rule is applied to the value at
the path of the issue, and the text is that of the reader of a type that refuses the value, or the
reason why what the rule makes of the value cannot be written. -/
inductive PassesText (rule : Rule) (input : Json) (issue : Issue) : String → Prop where
  | refused {name : String} {read : Json → Except String Output} {value : Json} {text : String}
    (inside : (typed name read).Inside rule) (place : input.locate issue.path = some value)
    (refuses : read value = .error text)
    (message : issue.message = (refusal name value text).message) : PassesText rule input issue text
  | unwritten {part : Rule} {value : Json} {output : Output} {e : WriteError}
    (inside : part.Inside rule) (place : input.locate issue.path = some value)
    (made : part.parse value = .success output) (fails : output.toJson = .error e)
    (message : issue.message = (unwritable e).message) : PassesText rule input issue e.message

namespace PassesText

variable {rule : Rule} {issue : Issue} {text : String}

theorem under_key {members : List (String × Json)} {key : String}
    (h : rule.PassesText (Json.memberOrNull members key) issue text) :
    rule.PassesText (.object members) (issue.under (.key key)) text := by
  cases h with
  | refused inside place refuses message =>
    exact .refused inside (Json.locate_key place) refuses message
  | unwritten inside place made fails message =>
    exact .unwritten inside (Json.locate_key place) made fails message

theorem under_index {items : List Json} {i : Nat} {item : Json} (hitem : items[i]? = some item)
    (h : rule.PassesText item issue text) :
    rule.PassesText (.array items) (issue.under (.index i)) text := by
  cases h with
  | refused inside place refuses message =>
    exact .refused inside (Json.locate_index hitem place) refuses message
  | unwritten inside place made fails message =>
    exact .unwritten inside (Json.locate_index hitem place) made fails message

/-- A text that an issue passes has no line break if the message has none. -/
theorem oneLine {input : Json} (h : rule.PassesText input issue text)
    (hmessage : OneLine issue.message) : OneLine text := by
  cases h with
  | refused inside place refuses message => exact oneLine_refusal.1 (message ▸ hmessage)
  | unwritten inside place made fails message => exact oneLine_unwritable.1 (message ▸ hmessage)

end PassesText

/-- Whether an issue is on one line or passes a text that is not. -/
def OneLineOrText (rule : Rule) (input : Json) (issue : Issue) : Prop :=
  OneLine issue.message ∨ ∃ text, rule.PassesText input issue text ∧ ¬OneLine text

theorem oneLineOrText_of_ownIssues {rule part : Rule} (hinside : part.Inside rule)
    (texts : part.TextsOneLine) {input : Json} {issue : Issue} (h : issue ∈ part.ownIssues input) :
    rule.OneLineOrText input issue := by
  cases part with
  | string part =>
    rw [ownIssues_string] at h
    exact .inl (StringRule.oneLine_of_mem_issues texts h)
  | number part =>
    rw [ownIssues_number] at h
    exact .inl (Double.oneLine_of_mem_issues h)
  | integer part =>
    rw [ownIssues_integer] at h
    exact .inl (Int64.oneLine_of_mem_issues h)
  | boolean =>
    cases input with
    | boolean b => cases h
    | _ => exact .inl (Issue.oneLine_of_invalidType (by decide) h)
  | array item bounds =>
    cases input with
    | array items => exact .inl (ItemBounds.oneLine_of_mem_issues h)
    | _ => exact .inl (Issue.oneLine_of_invalidType (by decide) h)
  | object fields strict =>
    cases input with
    | object members =>
      cases strict with
      | true => exact .inl (oneLine_of_unrecognized h)
      | false => cases h
    | _ => exact .inl (Issue.oneLine_of_invalidType (by decide) h)
  | typed name read =>
    obtain ⟨text, hread, rfl⟩ := mem_ownIssues_typed.1 h
    by_cases htext : OneLine text
    · exact .inl (oneLine_refusal.2 htext)
    · exact .inr ⟨text, .refused hinside rfl hread rfl, htext⟩
  | ensure inner holds message =>
    rw [List.mem_singleton.1 h]
    exact .inl texts
  | transform inner f | optional inner | brand tag inner | shared inner => cases h
  | custom inner => exact .inl (texts input issue h)

theorem oneLineOrText_of_unwritten {rule part : Rule} (hinside : part.Inside rule) {input : Json}
    {output : Output} {e : WriteError} (hmade : part.parse input = .success output)
    (hfails : output.toJson = .error e) : rule.OneLineOrText input (unwritable e) := by
  by_cases hreason : OneLine e.message
  · exact .inl (oneLine_unwritable.2 hreason)
  · exact .inr ⟨e.message, .unwritten hinside rfl hmade hfails rfl, hreason⟩

theorem oneLineOrText_of_mem_issues {rule : Rule} (texts : rule.Everywhere TextsOneLine)
    {input : Json} {issue : Issue} (h : issue ∈ (rule.parse input).issues) :
    rule.OneLineOrText input issue := by
  refine issue_induction (P := fun value issue => rule.OneLineOrText value issue) ?_ ?_ ?_ ?_ h
  · rintro members key inner (hmessage | ⟨text, hpasses, hbroken⟩)
    · exact .inl hmessage
    · exact .inr ⟨text, hpasses.under_key, hbroken⟩
  · rintro items i item inner hitem (hmessage | ⟨text, hpasses, hbroken⟩)
    · exact .inl hmessage
    · exact .inr ⟨text, hpasses.under_index hitem, hbroken⟩
  · exact everywhere_iff_inside.2 fun part hinside _ _ _ => oneLineOrText_of_unwritten hinside
  · refine everywhere_iff_inside.2 fun part hinside _ _ hissue => ?_
    exact oneLineOrText_of_ownIssues hinside (everywhere_iff_inside.1 texts part hinside) hissue

/-! ### Names that are passed -/

/-- Whether the reader of a typed rule goes by a shape, with texts on one line. -/
def ReadsShapes : Rule → Prop
  | typed _ read => ∃ shape : Shape, shape.TextsOneLine ∧ read = shape.reader
  | _ => True

/-- Whether the reasons why outputs of the rule cannot be written are on one line. -/
def ReasonsOneLine (rule : Rule) : Prop :=
  ∀ input output e, rule.parse input = .success output → output.toJson = .error e →
    OneLine e.message

/-- Whether an issue passes a name as it stands: a typed rule inside the rule read the value at
the path of the issue by a shape, and the shape does not know the name. -/
def PassesName (rule : Rule) (input : Json) (issue : Issue) (name : String) : Prop :=
  ∃ typeName shape value e, (typed typeName (Shape.reader shape)).Inside rule ∧
    input.locate issue.path = some value ∧ shape.read value = .error e ∧
    e.unknownName? = some name ∧ issue.message = (refusal typeName value e.message).message

theorem PassesName.oneLine {rule : Rule} {input : Json} {issue : Issue} {name : String}
    (h : rule.PassesName input issue name) (hmessage : OneLine issue.message) : OneLine name := by
  obtain ⟨typeName, shape, value, e, -, -, -, hname, hissue⟩ := h
  rw [hissue, oneLine_refusal] at hmessage
  exact ShapeError.oneLine_unknownName hname hmessage

/-- Where types are read by shapes and reasons are on one line, a text that breaks a message passes
a name that does. -/
theorem PassesText.exists_name {rule : Rule} (shapes : rule.Everywhere ReadsShapes)
    (reasons : rule.Everywhere ReasonsOneLine) {input : Json} {issue : Issue} {text : String}
    (h : rule.PassesText input issue text) (hbroken : ¬OneLine text) :
    ∃ name, rule.PassesName input issue name ∧ ¬OneLine name := by
  cases h with
  | @refused typeName read value text inside place refuses message =>
    obtain ⟨shape, htexts, rfl⟩ := everywhere_iff_inside.1 shapes _ inside
    obtain ⟨e, name, hread, rfl, hname, hbroken⟩ := Shape.exists_unknownName htexts refuses hbroken
    exact ⟨name, ⟨typeName, shape, value, e, inside, place, hread, hname, message⟩, hbroken⟩
  | unwritten inside place made fails message =>
    exact absurd (everywhere_iff_inside.1 reasons _ inside _ _ _ made fails) hbroken

/-- **Only passed texts break a report.** A message has a line break exactly when it passes a text
that has one. When no text that is passed has a line break, the report has one marked line for each
issue. Where types are read by shapes and the reasons of values that cannot be written are on one
line, the input breaks a message only by a name that a shape does not know. -/
theorem oneLine_iff_texts {rule : Rule} (texts : rule.Everywhere TextsOneLine) {input : Json}
    {d : Diagnostics} (h : rule.parse input = .failure d) :
    (∀ issue ∈ d.toList,
      OneLine issue.message ↔ ∀ text, rule.PassesText input issue text → OneLine text) ∧
    ((∀ issue ∈ d.toList, ∀ text, rule.PassesText input issue text → OneLine text) →
      (lines d.pretty).countP isMarked = d.length) ∧
    (rule.Everywhere ReadsShapes → rule.Everywhere ReasonsOneLine → ∀ issue ∈ d.toList,
      (OneLine issue.message ↔ ∀ name, rule.PassesName input issue name → OneLine name)) := by
  have hmessages : ∀ issue ∈ d.toList,
      OneLine issue.message ↔ ∀ text, rule.PassesText input issue text → OneLine text := by
    intro issue hissue
    have hmem : issue ∈ (rule.parse input).issues := by
      rw [h]
      exact hissue
    refine ⟨fun hmessage text hpasses => hpasses.oneLine hmessage, fun htexts => ?_⟩
    rcases oneLineOrText_of_mem_issues texts hmem with hmessage | ⟨text, hpasses, hbroken⟩
    · exact hmessage
    · exact absurd (htexts text hpasses) hbroken
  refine ⟨hmessages, fun htexts => Diagnostics.marked_pretty fun issue hissue => ?_,
    fun shapes reasons issue hissue => ?_⟩
  · exact (hmessages issue hissue).2 (htexts issue hissue)
  · refine ⟨fun hmessage name hpasses => hpasses.oneLine hmessage, fun hnames => ?_⟩
    refine (hmessages issue hissue).2 fun text hpasses => ?_
    by_contra hbroken
    obtain ⟨name, hname, hbroken⟩ := hpasses.exists_name shapes reasons hbroken
    exact hbroken (hnames name hname)

/-- The rule for one of two colors. -/
def color : Rule := typed "Color" (Shape.enumeration ["red", "green"]).reader

theorem color_readsShapes : color.ReadsShapes :=
  ⟨.enumeration ["red", "green"], (by decide : ∀ word ∈ ["red", "green"], OneLine word), rfl⟩

/-- A strict rule for a theme: a color, labels that start a new line, and a switch whose value
cannot be written. -/
def theme : Rule :=
  object
    [("color", color), ("labels", array (string ⟨[], [.startsWith "\n"]⟩) .any),
     ("switch", transform boolean fun _ => .unwritable "Switch" "is stuck")] true

/-- A theme with a color that is not known, a label on one line, a switch, and a member whose name
looks like two lines of a report. -/
def hostileTheme : Json :=
  .object
    [("a\n✖ b", .null), ("color", .string "mauve"), ("labels", .array [.string "c"]),
     ("switch", .boolean true)]

/-- The report on the hostile theme has one marked line for each of its four issues. -/
theorem marked_hostileTheme :
    ∃ d, theme.parse hostileTheme = .failure d ∧ (∀ issue ∈ d.toList, OneLine issue.message) ∧
      d.length = 4 ∧ (lines d.pretty).countP isMarked = 4 := by
  have texts : theme.Everywhere TextsOneLine := by
    refine ⟨trivial, trivial, ⟨trivial, fun check hcheck => ?_⟩, ⟨trivial, trivial⟩, trivial⟩
    rw [List.mem_singleton.1 hcheck]
    trivial
  obtain ⟨d, hd⟩ : ∃ d, theme.parse hostileTheme = .failure d := ⟨_, rfl⟩
  have hissues : d.toList = (theme.parse hostileTheme).issues := by rw [hd, Validation.issues]
  have hmessages : ∀ issue ∈ d.toList, OneLine issue.message := by
    rw [hissues]
    decide +kernel
  have hlength : d.length = 4 := by
    rw [← d.length_toList, hissues]
    rfl
  obtain ⟨htexts, hmarked, -⟩ := oneLine_iff_texts texts hd
  refine ⟨d, hd, hmessages, hlength, (hmarked fun issue hissue => ?_).trans hlength⟩
  exact (htexts issue hissue).1 (hmessages issue hissue)

/-- A text that is no color and looks like two lines of a report. -/
def forgedColor : Json := .string "a\n✖ b"

/-- The report on the forged color has two marked lines for its only issue. -/
theorem marked_forgedColor :
    color.Everywhere TextsOneLine ∧ color.Everywhere ReadsShapes ∧
      ∃ issue, color.parse forgedColor = .failure (.single issue) ∧
        ¬OneLine issue.message ∧ (lines (Diagnostics.single issue).pretty).countP isMarked = 2 := by
  refine ⟨trivial, color_readsShapes, _, rfl, ?_, ?_⟩
  · decide +kernel
  · decide +kernel

end Rule
end Assay
