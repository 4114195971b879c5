import Assay.Proofs.RuleTree
import Assay.Rule.Functions

/-!
# Undeclared members

A rule that is not strict ignores the members of an object that no field declares, at every
depth. The input without these members is parsed to the same outcome, so nothing that sits
between the object rules, be it a condition, a function or the writing of an output, can see
them.

* `Rule.strip`: the input without the members that are ignored;
* `Rule.OnlyDeclared`: whether an input has no such members;
* `parseFields_strip`: the fields of an object find what they found before;
* `parse_strip`: the stripped input has none of these members and the same outcome.
-/

namespace Assay

/-! ### Keeping and changing members -/

namespace Json

theorem lookup_filter_key (p : String → Bool) (members : List (String × α)) (key : String) :
    (members.filter fun member => p member.1).lookup key =
      if p key then members.lookup key else none := by
  induction members with
  | nil => simp
  | cons member rest ih =>
    obtain ⟨name, a⟩ := member
    rw [lookup_cons_eq_ite]
    by_cases hname : p name
    · rw [List.filter_cons_of_pos (by simpa using hname), lookup_cons_eq_ite, ih]
      by_cases hkey : key = name
      · simp [hkey, hname]
      · simp [hkey]
    · rw [List.filter_cons_of_neg (by simpa using hname), ih]
      by_cases hkey : key = name
      · simp [hkey, hname]
      · simp [hkey]

theorem lookup_map_value (f : String → α → β) (members : List (String × α)) (key : String) :
    (members.map fun member => (member.1, f member.1 member.2)).lookup key =
      (members.lookup key).map (f key) := by
  induction members with
  | nil => rfl
  | cons member rest ih =>
    rw [List.map_cons, lookup_cons_eq_ite, lookup_cons_eq_ite, ih]
    by_cases hkey : key = member.1
    · simp [hkey]
    · simp [hkey]

end Json

namespace Rule

/-! ### Stripping -/

mutual

/-- The input without the members that the rule ignores: at every object to which an object rule
is applied, those that no field declares. A strict rule reports such members, so they stay. -/
def strip : Rule → Json → Json
  | array item _, input => match input with
    | .array items => .array (items.map item.strip)
    | input => input
  | object fields strict, input => match input with
    | .object members =>
      let kept := members.filter fun member =>
        strict || (fields.map Prod.fst).contains member.1
      .object (kept.map fun member => (member.1, stripMember fields member.1 member.2))
    | input => input
  | ensure rule _ _, input => rule.strip input
  | transform rule _, input => rule.strip input
  | optional rule, input => rule.strip input
  | brand _ rule, input => rule.strip input
  | shared rule, input => rule.strip input
  | _, input => input
termination_by structural rule => rule

/-- The value of a member as the field of its name strips it. -/
def stripMember : List (String × Rule) → String → Json → Json
  | [], _, value => value
  | (name, rule) :: rest, key, value =>
    if key = name then rule.strip value else stripMember rest key value
termination_by structural fields => fields

end

mutual

/-- Whether the input has no members that the rule ignores. -/
def OnlyDeclared : Rule → Json → Prop
  | array item _, input => match input with
    | .array items => ∀ x ∈ items, item.OnlyDeclared x
    | _ => True
  | object fields strict, input => match input with
    | .object members =>
      (strict = false → ∀ member ∈ members, member.1 ∈ fields.map Prod.fst) ∧
        FieldsOnlyDeclared fields members
    | _ => True
  | ensure rule _ _, input => rule.OnlyDeclared input
  | transform rule _, input => rule.OnlyDeclared input
  | optional rule, input => rule.OnlyDeclared input
  | brand _ rule, input => rule.OnlyDeclared input
  | shared rule, input => rule.OnlyDeclared input
  | _, _ => True
termination_by structural rule => rule

/-- Whether the members of all fields have no members that their rules ignore. -/
def FieldsOnlyDeclared : List (String × Rule) → List (String × Json) → Prop
  | [], _ => True
  | (name, rule) :: rest, members =>
    rule.OnlyDeclared (Json.memberOrNull members name) ∧ FieldsOnlyDeclared rest members
termination_by structural fields => fields

end

theorem fieldsOnlyDeclared_iff {fields : List (String × Rule)} {members : List (String × Json)} :
    FieldsOnlyDeclared fields members ↔
      ∀ field ∈ fields, field.2.OnlyDeclared (Json.memberOrNull members field.1) := by
  induction fields with
  | nil => simp [FieldsOnlyDeclared]
  | cons field rest ih => simp [FieldsOnlyDeclared, ih]

/-- Stripping takes members out of objects and leaves the kind of every value. -/
theorem kind_strip (rule : Rule) (input : Json) : (rule.strip input).kind = input.kind := by
  induction rule with
  | array item bounds ih => cases input <;> rfl
  | object fields strict ih => cases input <;> rfl
  | ensure rule _ _ ih | transform rule _ ih | optional rule ih | brand _ rule ih
  | shared rule ih => exact ih
  | _ => rfl

@[simp] theorem strip_null (rule : Rule) : rule.strip .null = .null := by
  have h := rule.kind_strip .null
  cases hs : rule.strip .null <;> simp_all [Json.kind]

/-! ### Fields -/

section Fields

variable {fields : List (String × Rule)} {strict : Bool} {members : List (String × Json)}

/-- The members of an object that is stripped. -/
def stripMembers (fields : List (String × Rule)) (strict : Bool)
    (members : List (String × Json)) : List (String × Json) :=
  (members.filter fun member => strict || (fields.map Prod.fst).contains member.1).map
    fun member => (member.1, stripMember fields member.1 member.2)

theorem strip_object :
    (object fields strict).strip (.object members) =
      .object (stripMembers fields strict members) := rfl

theorem stripMember_of_mem (distinct : (fields.map Prod.fst).Nodup) {field : String × Rule}
    (hfield : field ∈ fields) (value : Json) :
    stripMember fields field.1 value = field.2.strip value := by
  induction fields with
  | nil => cases hfield
  | cons first rest ih =>
    obtain ⟨hfirst, hrest⟩ := List.nodup_cons.1 distinct
    rcases List.mem_cons.1 hfield with rfl | hmem
    · exact if_pos rfl
    · have hne : field.1 ≠ first.1 := fun h => hfirst (h ▸ List.mem_map_of_mem hmem)
      rw [stripMember, if_neg hne]
      exact ih hrest hmem

/-- A declared member is still there, stripped by the rule of its field. -/
theorem lookup_stripMembers (distinct : (fields.map Prod.fst).Nodup) {field : String × Rule}
    (hfield : field ∈ fields) :
    (stripMembers fields strict members).lookup field.1 =
      (members.lookup field.1).map field.2.strip := by
  have hdeclared : (fields.map Prod.fst).contains field.1 = true := by
    simpa using ⟨field.2, hfield⟩
  rw [stripMembers, Json.lookup_map_value,
    Json.lookup_filter_key fun key => strict || (fields.map Prod.fst).contains key,
    if_pos (by rw [hdeclared, Bool.or_true])]
  congr 1
  funext value
  exact stripMember_of_mem distinct hfield value

theorem memberOrNull_stripMembers (distinct : (fields.map Prod.fst).Nodup)
    {field : String × Rule} (hfield : field ∈ fields) :
    Json.memberOrNull (stripMembers fields strict members) field.1 =
      field.2.strip (Json.memberOrNull members field.1) := by
  rw [Json.memberOrNull, lookup_stripMembers distinct hfield, Json.memberOrNull]
  cases members.lookup field.1 <;> simp

/-- Whether a field contributes a member depends on the input only through the presence of the
member. -/
theorem fieldMember_map (name : String) (given : Option Json) (f : Json → Json) :
    fieldMember name (given.map f) = fieldMember name given := by
  funext value
  simp [fieldMember]

/-- The fields of an object find in the stripped members what they found before. -/
theorem parseFields_strip (distinct : (fields.map Prod.fst).Nodup)
    (ih : ∀ field ∈ fields, ∀ input, field.2.parse (field.2.strip input) = field.2.parse input) :
    parseFields fields (stripMembers fields strict members) = parseFields fields members := by
  rw [parseFields_eq_map, parseFields_eq_map]
  refine List.map_congr_left fun field hfield => ?_
  rw [memberOrNull_stripMembers distinct hfield, lookup_stripMembers distinct hfield,
    fieldMember_map, fieldValue, ih field hfield, ← fieldValue]

/-- A strict rule reports the same members, since none of them was taken out. -/
theorem unrecognized_stripMembers :
    unrecognized fields (stripMembers fields true members) = unrecognized fields members := by
  simp [unrecognized, stripMembers, Function.comp_def]

theorem onlyDeclared_stripMembers :
    ∀ member ∈ stripMembers fields false members, member.1 ∈ fields.map Prod.fst := by
  intro member hmember
  obtain ⟨given, hgiven, rfl⟩ := List.mem_map.1 hmember
  simpa using (List.mem_filter.1 hgiven).2

end Fields

/-! ### All rules -/

/-- What is stripped is not seen by any rule. -/
theorem parse_strip_eq {rule : Rule} (distinct : rule.Everywhere NamesDistinct) (input : Json) :
    rule.parse (rule.strip input) = rule.parse input := by
  induction rule generalizing input with
  | array item bounds ih =>
    cases input with
    | array items =>
      have hitems : ∀ x, item.parse (item.strip x) = item.parse x := ih distinct.2
      simp [strip, parse, List.mapIdx_eq_zipIdx_map, List.zipIdx_map, hitems, Function.comp_def]
    | _ => rfl
  | object fields strict ih =>
    obtain ⟨hnames, hfields⟩ := everywhere_object.1 distinct
    cases input with
    | object members =>
      rw [strip_object, parse, parse,
        parseFields_strip hnames fun field hfield => ih field hfield (hfields field hfield)]
      cases strict with
      | true => simp only [unrecognized_stripMembers]
      | false => rfl
    | _ => rfl
  | ensure rule holds message ih => rw [strip, parse, parse, ih distinct.2]
  | transform rule f ih => rw [strip, parse, parse, ih distinct.2]
  | optional rule ih =>
    rw [strip]
    by_cases hnull : input = .null
    · rw [hnull, strip_null]
    · -- null must not appear, since the optional rule treats it apart
      have hstrip : rule.strip input ≠ .null := by
        intro h
        have hkind := rule.kind_strip input
        rw [h] at hkind
        cases input <;> simp_all [Json.kind]
      rw [parse_optional_of_ne_null hstrip, parse_optional_of_ne_null hnull, ih distinct.2]
  | brand tag rule ih => rw [strip, parse, parse, ih distinct.2]
  | shared rule ih => rw [strip, parse, parse, ih distinct.2]
  | _ => rfl

/-- What is left after stripping is declared. -/
theorem onlyDeclared_strip {rule : Rule} (distinct : rule.Everywhere NamesDistinct)
    (input : Json) : rule.OnlyDeclared (rule.strip input) := by
  induction rule generalizing input with
  | array item bounds ih =>
    cases input with
    | array items =>
      intro x hx
      obtain ⟨given, -, rfl⟩ := List.mem_map.1 hx
      exact ih distinct.2 given
    | _ => trivial
  | object fields strict ih =>
    obtain ⟨hnames, hfields⟩ := everywhere_object.1 distinct
    cases input with
    | object members =>
      rw [strip_object]
      refine ⟨?_, fieldsOnlyDeclared_iff.2 fun field hfield => ?_⟩
      · rintro rfl
        exact onlyDeclared_stripMembers
      · rw [memberOrNull_stripMembers hnames hfield]
        exact ih field hfield (hfields field hfield) _
    | _ => trivial
  | ensure rule _ _ ih | transform rule _ ih | optional rule ih | brand _ rule ih
  | shared rule ih => exact ih distinct.2 input
  | _ => trivial

/-- **Undeclared members cannot influence the outcome.** The input without the members that the
rule ignores has none of them left and is parsed to the same outcome; so two inputs that differ
in such members only are parsed alike. -/
theorem parse_strip {rule : Rule} (distinct : rule.Everywhere NamesDistinct) (input : Json) :
    rule.OnlyDeclared (rule.strip input) ∧ rule.parse (rule.strip input) = rule.parse input ∧
      ∀ other, rule.strip other = rule.strip input → rule.parse other = rule.parse input := by
  refine ⟨onlyDeclared_strip distinct input, parse_strip_eq distinct input, fun other h => ?_⟩
  rw [← parse_strip_eq distinct other, h, parse_strip_eq distinct input]

/-- A rule for a dinner: the host has a name, and there are at most two guests, known by their
name and seat alone. -/
def dinner : Rule :=
  object
    [("host", shared (object [("name", string ⟨[.trim], [.nonEmpty]⟩)] false)),
     ("guests", array (optional (ensure
       (object [("name", string .any), ("seat", integer ⟨[.gt 0]⟩)] false)
       Predicate.twoMembers.holds "Name and seat only")) ⟨none, some 2⟩)] false

/-- A dinner with members that are not declared at the root, of the host and of a guest. -/
def givenDinner : Json :=
  .object
    [("date", .null),
     ("guests", .array [.null, .object
       [("name", .string "eve"), ("seat", .number (.whole 3 rfl)), ("vip", .boolean true)]]),
     ("host", .object [("age", .number (.whole 40 rfl)), ("name", .string " ada ")])]

/-- The same dinner without these members. -/
def strippedDinner : Json :=
  .object
    [("guests", .array [.null, .object
       [("name", .string "eve"), ("seat", .number (.whole 3 rfl))]]),
     ("host", .object [("name", .string " ada ")])]

/-- The condition that counts the members of a guest does not count the undeclared one. -/
theorem parse_strippedDinner :
    dinner.Everywhere NamesDistinct ∧ dinner.strip givenDinner = strippedDinner ∧
      dinner.OnlyDeclared strippedDinner ∧
      dinner.parse strippedDinner = dinner.parse givenDinner ∧
      (dinner.parse givenDinner).isSuccess = true := by
  have distinct : dinner.Everywhere NamesDistinct := by
    simp [dinner, Everywhere, EverywhereFields, NamesDistinct]
  have stripped : dinner.strip givenDinner = strippedDinner := rfl
  obtain ⟨hdeclared, hparse, -⟩ := parse_strip distinct givenDinner
  rw [stripped] at hdeclared hparse
  exact ⟨distinct, stripped, hdeclared, hparse, rfl⟩

end Rule
end Assay
