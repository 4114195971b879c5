import Assay.Proofs.ObjectOutcome

/-!
# Required fields

A member that is absent from an object counts as null. A field is required when its rule asks for
one kind of value under all its conditions, functions and tags: such a rule refuses null before any
of these is run. So an object that is accepted has every required member, which is also in the
output, and a required member that is missing is reported by one issue at its name.

* `demanded?`: the kind that a rule asks for;
* `parse_null_of_demanded`: it refuses null, whatever is put around it;
* `required_field`: both outcomes of an object rule with a required field.
-/

namespace Assay

namespace Rule

/-- The kind of value that a rule asks for under its conditions, functions and tags, as it is named
in messages. A rule that may accept null asks for none. -/
def demanded? : Rule → Option String
  | string _ => some "string"
  | number _ => some "number"
  | integer _ => some "integer"
  | boolean => some "boolean"
  | array _ _ => some "array"
  | object _ _ => some "object"
  | ensure rule _ _ => rule.demanded?
  | transform rule _ => rule.demanded?
  | brand _ rule => rule.demanded?
  | shared rule => rule.demanded?
  | optional _ => none
  | typed _ _ => none
  | custom _ => none
termination_by structural rule => rule

section Demanded

variable {rule : Rule} {kind name : String} {members : List (String × Json)}

/-- A rule that asks for a kind refuses null with one issue. No condition and no function around it
is run. -/
theorem parse_null_of_demanded (h : rule.demanded? = some kind) :
    rule.parse .null = .failure (.single (.invalidType kind .null)) := by
  induction rule with
  | ensure rule holds message ih => rw [parse, ih h]; rfl
  | transform rule f ih => rw [parse, ih h]; rfl
  | brand tag rule ih => rw [parse, ih h]; rfl
  | shared rule ih => exact ih h
  | optional rule ih => cases h
  | typed name read => cases h
  | custom rule => cases h
  | _ => cases h; rfl

/-- A member that such a rule accepts is there, and it is not null. -/
theorem exists_given_of_demanded (h : rule.demanded? = some kind) {value : Json}
    (accepted : rule.fieldValue (Json.memberOrNull members name) = .success value) :
    ∃ given, members.lookup name = some given ∧ given ≠ .null := by
  have hnull : Json.memberOrNull members name ≠ .null := by
    intro hnull
    rw [hnull, fieldValue, parse_null_of_demanded h] at accepted
    cases accepted
  rw [Ne, Json.memberOrNull_eq_null, not_or] at hnull
  obtain ⟨given, hgiven⟩ := Option.ne_none_iff_exists'.1 hnull.1
  refine ⟨given, hgiven, ?_⟩
  rintro rfl
  exact hnull.2 hgiven

/-- The one issue of a required field that is missing. -/
theorem fieldIssues_of_missing (h : rule.demanded? = some kind)
    (missing : Json.memberOrNull members name = .null) :
    fieldIssues members (name, rule) =
      [⟨.invalidType kind .null, s!"Invalid input: expected {kind}, received null",
        [.key name]⟩] := by
  rw [fieldIssues, missing, parse_null_of_demanded h]
  -- the word for null is put together with the words in front of it
  simp only [Issue.invalidType, Issue.atRoot, Json.kind, Kind.name, String.append_assoc]
  rfl

/-- **Required fields are required.** Let a field be declared with a rule that asks for a kind,
among any other declarations. An object that is accepted has a member of this name other than null,
and so has the output. An object in which the member is absent or null is refused, and of all
issues the declaration makes exactly one: null is not of the kind. -/
theorem required_field (name : String) (demanded : rule.demanded? = some kind)
    (before behind : List (String × Rule)) (strict : Bool) (members : List (String × Json)) :
    (∀ output, (object (before ++ (name, rule) :: behind) strict).parse (.object members) =
        .success output →
      (∃ given, members.lookup name = some given ∧ given ≠ .null) ∧
      ∃ made value, output = .object made ∧ made.lookup name = some value) ∧
    (members.lookup name = none ∨ members.lookup name = some .null →
      ∃ d, (object (before ++ (name, rule) :: behind) strict).parse (.object members) =
          .failure d ∧
        d.toList = before.flatMap (fieldIssues members) ++
          ⟨.invalidType kind .null, s!"Invalid input: expected {kind}, received null",
            [.key name]⟩ ::
          (behind.flatMap (fieldIssues members) ++
            if strict then unrecognized (before ++ (name, rule) :: behind) members else [])) := by
  constructor
  · intro output h
    obtain ⟨_, ⟨rfl⟩, rfl, haccept, -⟩ := parse_object_eq_success.1 h
    have hdeclared : (name, rule) ∈ before ++ (name, rule) :: behind := by simp
    obtain ⟨value, hvalue⟩ := haccept _ hdeclared
    obtain ⟨given, hgiven, hnull⟩ := exists_given_of_demanded demanded hvalue
    -- the member is given, so it is kept even if a function has made null of it
    have hmember : outputMember? members (name, rule) = some (name, value) := by
      rw [outputMember?_of_fieldValue hvalue, hgiven]
      rfl
    obtain ⟨found, hfound⟩ :=
      Json.exists_lookup_ofPairs (List.mem_filterMap.2 ⟨_, hdeclared, hmember⟩)
    exact ⟨⟨given, hgiven, hnull⟩, _, found, rfl, hfound⟩
  · intro h
    have missing : Json.memberOrNull members name = .null := Json.memberOrNull_eq_null.2 h
    have hissues := issues_declarations (before ++ (name, rule) :: behind) strict members
    rw [List.flatMap_append, List.flatMap_cons, fieldIssues_of_missing demanded missing,
      List.append_assoc, List.singleton_append, List.cons_append] at hissues
    cases hparse : (object (before ++ (name, rule) :: behind) strict).parse (.object members) with
    | success output =>
      rw [hparse] at hissues
      simp at hissues
    | failure d =>
      rw [hparse] at hissues
      exact ⟨d, rfl, hissues⟩

end Demanded

/-- A pin of four plain characters, of which nothing is kept but that it was given. -/
def pin : Rule :=
  brand ⟨"Pin"⟩ (transform (shared (ensure (string ⟨[.trim], [.length 4]⟩) Predicate.ascii.holds
    "Pin must be plain")) Mapper.absent.apply)

/-- A name of up to three characters. -/
def briefName : String × Rule := ("name", string ⟨[], [.maxLength 3]⟩)

/-- A given pin is in the output, though null is all that the function has left of it. A pin that is
null is reported once, between a name that is too long and a member that is not declared, although a
second declaration lets the pin be missing. -/
theorem required_field_pin :
    pin.demanded? = some "string" ∧
      (object [briefName, ("pin", pin)] true).parse
          (.object [("name", .string "ada"), ("pin", .string " 2718 ")]) =
        .success (.object [("name", .string "ada"), ("pin", .null)]) ∧
      (∃ value, [("name", Json.string "ada"), ("pin", .null)].lookup "pin" = some value) ∧
      ∃ d, (object [briefName, ("pin", pin), ("pin", optional boolean)] true).parse
          (.object [("name", .string "lovelace"), ("pin", .null), ("zip", .boolean true)]) =
            .failure d ∧
        d.toList =
          [⟨.tooBig "3" true, "Too big: expected string to have <=3 characters", [.key "name"]⟩,
           ⟨.invalidType "string" .null, "Invalid input: expected string, received null",
             [.key "pin"]⟩,
           ⟨.unrecognizedKey "zip", "Unrecognized key: \"zip\"", []⟩] := by
  have demanded : pin.demanded? = some "string" := rfl
  have haccept : (object [briefName, ("pin", pin)] true).parse
      (.object [("name", .string "ada"), ("pin", .string " 2718 ")]) =
        .success (.object [("name", .string "ada"), ("pin", .null)]) := rfl
  obtain ⟨-, _, value, ⟨rfl⟩, hvalue⟩ :=
    (required_field "pin" demanded [briefName] [] true _).1 _ haccept
  obtain ⟨d, hrefuse, hissues⟩ :=
    (required_field "pin" demanded [briefName] [("pin", optional boolean)] true
      [("name", .string "lovelace"), ("pin", .null), ("zip", .boolean true)]).2 (.inr rfl)
  exact ⟨demanded, haccept, ⟨value, hvalue⟩, d, hrefuse, hissues.trans rfl⟩

end Rule
end Assay
