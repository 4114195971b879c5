import Assay.Proofs.IssueSources

/-!
# Locations of issues

The path of an issue leads to a place in the input, and the code of the issue fits the value
there. Paths are made from the inside out, one step for each structural rule that an issue
passes, while the input is taken apart from the outside in; so the invariant is about one rule
and one value at a time, and each step of a structural rule moves both ends at once.

* `Json.locate`: the value at a path;
* `IssueCode.Fits`: the values that a code can be about;
* `Issue.Located.under_key`, `Issue.Located.under_index`: the two steps outward;
* `located_of_ownIssues`: the issues that a rule raises itself are located;
* `located_of_rejected`: every issue of a rejected input is located.
-/

namespace Assay

/-! ### Places -/

namespace Json

/-- The member or the item that a step leads to. -/
def step? : Json → PathSegment → Option Json
  | .object members, .key name => members.lookup name
  | .array items, .index i => items[i]?
  | _, _ => none

/-- The value at a path. Only the last step may name a member that its object lacks, which
counts as null. -/
def locate : Json → Path → Option Json
  | value, [] => some value
  | .object members, [.key name] => some (memberOrNull members name)
  | value, segment :: rest => (value.step? segment).bind (·.locate rest)

theorem locate_null {segment : PathSegment} {rest : Path} :
    locate .null (segment :: rest) = none := by
  cases segment <;> cases rest <;> rfl

theorem locate_key {members : List (String × Json)} {name : String} {path : Path} {value : Json}
    (h : (memberOrNull members name).locate path = some value) :
    (object members).locate (.key name :: path) = some value := by
  cases path with
  | nil => exact h
  | cons segment rest =>
    rw [memberOrNull] at h
    cases hmember : members.lookup name with
    | none =>
      rw [hmember, Option.getD_none, locate_null] at h
      cases h
    | some member =>
      rw [hmember] at h
      rw [locate, step?, hmember]
      · exact h
      · simp

theorem locate_index {items : List Json} {i : Nat} {item value : Json} {path : Path}
    (hitem : items[i]? = some item) (h : item.locate path = some value) :
    (array items).locate (.index i :: path) = some value := by
  rw [locate, step?, hitem]
  · exact h
  · simp

end Json

/-- Whether a code can be about a value. -/
def IssueCode.Fits : IssueCode → Json → Prop
  | invalidType _ received, value => received = value.kind
  | tooSmall _ _, value | tooBig _ _, value =>
    value.kind = .number ∨ value.kind = .string ∨ value.kind = .array
  | invalidFormat _, value => value.kind = .string
  | notInteger, value | notMultipleOf _, value => value.kind = .number
  | unrecognizedKey key, value => ∃ members, value = .object members ∧ key ∈ members.map Prod.fst
  | custom, _ => True

namespace Issue

/-- Whether the path of the issue leads to a value of the input that its code fits. -/
def Located (input : Json) (issue : Issue) : Prop :=
  ∃ value, input.locate issue.path = some value ∧ issue.code.Fits value

theorem located_atRoot {input : Json} {code : IssueCode} (message : String)
    (h : code.Fits input) : (atRoot code message).Located input :=
  ⟨input, rfl, h⟩

theorem located_custom (input : Json) (message : String) : (custom message).Located input :=
  located_atRoot message trivial

theorem located_of_invalidType {expected : String} {input : Json} {issue : Issue}
    (h : issue ∈ [invalidType expected input]) : issue.Located input := by
  rw [List.mem_singleton.1 h]
  exact located_atRoot _ rfl

/-- An issue of a member is an issue of its object, one step further out. -/
theorem Located.under_key {members : List (String × Json)} {name : String} {issue : Issue}
    (h : issue.Located (Json.memberOrNull members name)) :
    (issue.under (.key name)).Located (.object members) := by
  obtain ⟨value, hvalue, hfits⟩ := h
  exact ⟨value, Json.locate_key hvalue, hfits⟩

/-- An issue of an item is an issue of its array, one step further out. -/
theorem Located.under_index {items : List Json} {i : Nat} {item : Json} {issue : Issue}
    (hitem : items[i]? = some item) (h : issue.Located item) :
    (issue.under (.index i)).Located (.array items) := by
  obtain ⟨value, hvalue, hfits⟩ := h
  exact ⟨value, Json.locate_index hitem hvalue, hfits⟩

end Issue

/-! ### Strings and numbers -/

theorem StringCheck.located_violation (check : StringCheck) (s raw : String) :
    (check.violation s).Located (.string raw) := by
  cases check with
  | length exact =>
    rw [violation]
    split_ifs <;> exact Issue.located_atRoot _ (.inr (.inl rfl))
  | nonEmpty | minLength least | maxLength greatest =>
    exact Issue.located_atRoot _ (.inr (.inl rfl))
  | _ => exact Issue.located_atRoot _ rfl

theorem NumberCheck.located_violation {ν : Type} [Numeric ν] (check : NumberCheck ν) (n : Number) :
    check.violation.Located (.number n) := by
  cases check with
  | multipleOf divisor => exact Issue.located_atRoot _ rfl
  | int => exact Issue.located_atRoot _ rfl
  | _ => exact Issue.located_atRoot _ (.inl rfl)

theorem StringRule.located {rule : StringRule} {input : Json} {issue : Issue}
    (h : issue ∈ (rule.parse input).issues) : issue.Located input := by
  obtain rfl | ⟨raw, rfl, check, -, rfl⟩ := issue_cases h
  · exact Issue.located_atRoot _ rfl
  · exact check.located_violation _ raw

/-- A number that a rule refuses, as it is or for a check, is the place of the issue. -/
theorem NumberRule.located {ν : Type} [Numeric ν] {rule : NumberRule ν} {n : Number}
    (refused : ∀ found, (Numeric.extract (.number n) : Except Issue ν) = .error found →
      found.Located (.number n))
    {issue : Issue} (h : issue ∈ (rule.parse (.number n)).issues) : issue.Located (.number n) := by
  obtain hextract | ⟨k, -, check, -, rfl⟩ := issue_cases h
  · exact refused issue hextract
  · exact check.located_violation n

theorem Double.located_of_parse {rule : NumberRule Double} {input : Json} {issue : Issue}
    (h : issue ∈ (rule.parse input).issues) : issue.Located input := by
  cases input with
  | number n => exact NumberRule.located (fun found hextract => by cases hextract) h
  | _ => exact Issue.located_of_invalidType h

/-- A number that is no integer of 64 bits is refused for its size or its fractional part. -/
theorem Number.located_of_toInt64 {n : Number} {issue : Issue} (h : n.toInt64 = .error issue) :
    issue.Located (.number n) := by
  unfold toInt64 at h
  cases n <;> simp only at h <;> split_ifs at h <;> cases h <;>
    first | exact Issue.located_atRoot _ (.inl rfl) | exact Issue.located_atRoot _ rfl

theorem Int64.located_of_parse {rule : NumberRule Int64} {input : Json} {issue : Issue}
    (h : issue ∈ (rule.parse input).issues) : issue.Located input := by
  cases input with
  | number n => exact NumberRule.located (fun _ => Number.located_of_toInt64) h
  | _ => exact Issue.located_of_invalidType h

theorem ItemBounds.located {bounds : ItemBounds} {items : List Json} {issue : Issue}
    (h : issue ∈ bounds.issues items.length) : issue.Located (.array items) := by
  obtain ⟨_, -, -, rfl⟩ | ⟨_, -, -, rfl⟩ := mem_issues.1 h
  · exact Issue.located_atRoot _ (.inr (.inr rfl))
  · exact Issue.located_atRoot _ (.inr (.inr rfl))

namespace Rule

/-! ### All rules -/

/-- Whether the functions of the caller that find issues locate them. The rules that are not
the caller's own need no such promise. -/
def LocatesIssues : Rule → Prop
  | custom rule => ∀ input, ∀ issue ∈ (rule.parse input).issues, issue.Located input
  | _ => True

theorem located_of_unrecognized {fields : List (String × Rule)} {members : List (String × Json)}
    {issue : Issue} (h : issue ∈ unrecognized fields members) :
    issue.Located (.object members) := by
  obtain ⟨key, hkey, rfl⟩ := List.mem_map.1 h
  exact Issue.located_atRoot _ ⟨members, rfl, (List.mem_filter.1 hkey).1⟩

/-- The issues that a rule raises itself are located in the value that it is applied to. -/
theorem located_of_ownIssues {rule : Rule} (locates : rule.LocatesIssues) {input : Json}
    {issue : Issue} (h : issue ∈ rule.ownIssues input) : issue.Located input := by
  cases rule with
  | string rule => exact StringRule.located (ownIssues_string rule input ▸ h)
  | number rule => exact Double.located_of_parse (ownIssues_number rule input ▸ h)
  | integer rule => exact Int64.located_of_parse (ownIssues_integer rule input ▸ h)
  | boolean =>
    cases input with
    | boolean b => cases h
    | _ => exact Issue.located_of_invalidType h
  | array item bounds =>
    cases input with
    | array items => exact ItemBounds.located h
    | _ => exact Issue.located_of_invalidType h
  | object fields strict =>
    cases input with
    | object members =>
      cases strict with
      | true => exact located_of_unrecognized h
      | false => cases h
    | _ => exact Issue.located_of_invalidType h
  | typed name read =>
    obtain ⟨text, -, rfl⟩ := mem_ownIssues_typed.1 h
    exact Issue.located_atRoot _ rfl
  | ensure rule holds message =>
    rw [List.mem_singleton.1 h]
    exact Issue.located_custom input message
  | transform rule f | optional rule | brand tag rule | shared rule => cases h
  | custom rule => exact locates input issue h

/-- The issues of every rule are located, whether it stands alone or inside another one. -/
theorem located_of_mem_issues {rule : Rule} (locates : rule.Everywhere LocatesIssues)
    {input : Json} {issue : Issue} (h : issue ∈ (rule.parse input).issues) :
    issue.Located input := by
  refine issue_induction (P := fun value issue => issue.Located value)
    (fun _ _ _ => Issue.Located.under_key) (fun _ _ _ _ => Issue.Located.under_index) ?_ ?_ h
  · exact locates.imp fun _ _ value _ _ _ _ => Issue.located_custom value _
  · exact locates.imp fun _ hpart _ _ => located_of_ownIssues hpart

/-- **Every reported location is real.** The path of each issue of a rejected input leads to a
value of the input, and the code of the issue fits this value. -/
theorem located_of_rejected {rule : Rule} (locates : rule.Everywhere LocatesIssues) {input : Json}
    {d : Diagnostics} (h : rule.parse input = .failure d) :
    ∀ issue ∈ d.toList, ∃ value, input.locate issue.path = some value ∧
      issue.code.Fits value := by
  intro issue hissue
  refine located_of_mem_issues locates ?_
  rw [h]
  exact hissue

/-- A strict rule for a room: its owner has a name, and it has at least three tables, each with
an even number of seats. -/
def room : Rule :=
  object
    [("owner", object [("name", string ⟨[], [.nonEmpty]⟩)] false),
     ("tables", array (integer ⟨[.multipleOf 2]⟩) ⟨some 3, none⟩)] true

/-- A room without the name of its owner, with too few tables, an odd number of seats and a
member that is not declared. -/
def oddRoom : Json :=
  .object
    [("colour", .null), ("owner", .object []),
     ("tables", .array [.number (.whole 4 rfl), .number (.whole 9 rfl)])]

/-- The issues of the room, one of them at a member that is missing, lie in the room. -/
theorem located_oddRoom :
    ∃ d, room.parse oddRoom = .failure d ∧
      d.toList.map Issue.path =
        [[.key "owner", .key "name"], [.key "tables"], [.key "tables", .index 1], []] ∧
      ∀ issue ∈ d.toList, ∃ value, oddRoom.locate issue.path = some value ∧
        issue.code.Fits value := by
  have locates : room.Everywhere LocatesIssues := by
    simp [room, Everywhere, EverywhereFields, LocatesIssues]
  exact ⟨_, rfl, rfl, located_of_rejected locates rfl⟩

end Rule
end Assay
