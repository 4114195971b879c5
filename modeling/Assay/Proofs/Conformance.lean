import Assay.Proofs.Acceptance
import Assay.Proofs.Checks
import Assay.Proofs.Doubles
import Assay.Rule.Functions

/-!
# Conformance of outputs

An accepted output satisfies what its rule declares, at every depth. The declaration is read
without the parser: `Conforms` runs through the rule and says of the output that is there what
the checks, bounds, fields and conditions at this place mean. The members of an object have been
written as JSON, so a member conforms when it is the JSON value of a conforming output.

* `Rebuilt`: what holds of the members of an output beside the conformance of each of them;
* `Conforms`: conformance, with one clause for each kind of rule;
* `conforms_of_accepted`: outputs of accepted inputs conform.
-/

namespace Assay

namespace Rule

/-- Whether the rule accepts null and writes what it makes of it as null. -/
def AcceptsNull (rule : Rule) : Prop :=
  ∃ output, rule.parse .null = .success output ∧ output.toJson = .ok .null

/-- The members of an output beside the members of the input that it was made of. -/
structure Rebuilt (fields : List (String × Rule)) (strict : Bool)
    (given members : List (String × Json)) : Prop where
  sorted : members.Pairwise fun a b => a.1 < b.1
  declared : ∀ member ∈ members, member.1 ∈ fields.map Prod.fst
  /-- Under a strict rule the input has no other members either. -/
  strict : strict = true → ∀ member ∈ given, member.1 ∈ fields.map Prod.fst
  missing : ∀ field ∈ fields, members.lookup field.1 = none →
    given.lookup field.1 = none ∧ field.2.AcceptsNull

mutual

/-- Whether an output satisfies everything that the rule declares. The input tells the number of
items, the members that are missing, and what the functions of the caller were given. -/
def Conforms : Rule → Json → Output → Prop
  | string rule, _, output => ∃ s, output = .string s ∧ ∀ check ∈ rule.checks, check.Met s
  | number rule, _, output => ∃ x, output = .number x ∧ ∀ check ∈ rule.checks, check.Met x
  | integer rule, _, output => ∃ n, output = .integer n ∧ ∀ check ∈ rule.checks, check.Met n
  | boolean, _, output => ∃ b, output = .boolean b
  | array item bounds, input, output => ∃ items outputs, input = .array items ∧
      output = .array outputs ∧ bounds.Met outputs.length ∧
      List.Forall₂ item.Conforms items outputs
  | object fields strict, input, output => ∃ given members, input = .object given ∧
      output = .object members ∧ Rebuilt fields strict given members ∧
      FieldsConform fields given members
  | typed _ read, input, output => read input = .ok output
  | ensure rule holds _, input, output => rule.Conforms input output ∧ holds output = true
  | transform rule f, input, output => ∃ inner, output = f inner ∧ rule.Conforms input inner
  | optional rule, input, output => input = .null ∧ output = .absent ∨
      ∃ inner, output = .present inner ∧ rule.Conforms input inner
  | brand tag rule, input, output =>
      ∃ inner, output = .branded tag inner ∧ rule.Conforms input inner
  | shared rule, input, output => rule.Conforms input output
  | custom rule, input, output => rule.parse input = .success output
termination_by structural rule => rule

/-- Whether every member that is there conforms to the rule of its field. -/
def FieldsConform : List (String × Rule) → List (String × Json) → List (String × Json) → Prop
  | [], _, _ => True
  | (name, rule) :: rest, given, members =>
    (∀ value, members.lookup name = some value → ∃ output, output.toJson = .ok value ∧
      rule.Conforms (Json.memberOrNull given name) output) ∧ FieldsConform rest given members
termination_by structural fields => fields

end

theorem fieldsConform_iff {fields : List (String × Rule)} {given members : List (String × Json)} :
    FieldsConform fields given members ↔
      ∀ field ∈ fields, ∀ value, members.lookup field.1 = some value →
        ∃ output, output.toJson = .ok value ∧
          field.2.Conforms (Json.memberOrNull given field.1) output := by
  induction fields with
  | nil => simp [FieldsConform]
  | cons field rest ih => simp [FieldsConform, ih]

/-- Whether the constraints of the rule are what they seem: no bound of a number is NaN, and the
names of fields are distinct. -/
def WellPosed : Rule → Prop
  | number rule => ∀ check ∈ rule.checks, ∀ bound ∈ check.bound?, bound.isNaN = false
  | object fields _ => (fields.map Prod.fst).Nodup
  | _ => True

/-! ### Objects -/

/-- The output of an accepted object is rebuilt from its fields. -/
theorem rebuilt_of_accepted {fields : List (String × Rule)} {strict : Bool}
    {given : List (String × Json)} (distinct : (fields.map Prod.fst).Nodup)
    (accept : FieldsAccept fields given)
    (others : strict = true → unrecognized fields given = []) :
    Rebuilt fields strict given (Json.ofPairs (fields.filterMap (outputMember? given))) where
  sorted := Json.sorted_ofPairs _
  declared := unrecognized_eq_nil.1 unrecognized_output
  strict hstrict := unrecognized_eq_nil.1 (others hstrict)
  missing field hfield hmissing := by
    obtain ⟨value, hvalue⟩ := accept field hfield
    rw [lookup_output distinct hfield hvalue, Option.map_eq_none_iff,
      fieldMember_eq_none] at hmissing
    obtain ⟨hgiven, rfl⟩ := hmissing
    rw [Json.memberOrNull, hgiven] at hvalue
    obtain ⟨output, hparse, hwritten⟩ := fieldValue_eq_success.1 hvalue
    exact ⟨hgiven, output, hparse, hwritten⟩

/-- A member of the output of an accepted object is what its field makes of the input. -/
theorem parse_of_lookup_output {fields : List (String × Rule)} {given : List (String × Json)}
    (distinct : (fields.map Prod.fst).Nodup) (accept : FieldsAccept fields given)
    {field : String × Rule} (hfield : field ∈ fields) {value : Json}
    (h : (Json.ofPairs (fields.filterMap (outputMember? given))).lookup field.1 = some value) :
    ∃ output, field.2.parse (Json.memberOrNull given field.1) = .success output ∧
      output.toJson = .ok value := by
  obtain ⟨made, hmade⟩ := accept field hfield
  rw [lookup_output distinct hfield hmade, Option.map_eq_some_iff] at h
  obtain ⟨member, hmember, rfl⟩ := h
  rw [fieldMember_eq_some hmember]
  exact fieldValue_eq_success.1 hmade

/-! ### All rules -/

/-- **Accepted outputs conform.** What a rule makes of an accepted input satisfies, at every
depth, everything that the rule declares. -/
theorem conforms_of_accepted {rule : Rule} (posed : rule.Everywhere WellPosed) {input : Json}
    {output : Output} (h : rule.parse input = .success output) : rule.Conforms input output := by
  induction rule generalizing input output with
  | string rule =>
    obtain ⟨raw, -, rfl, hissues⟩ := parse_string_eq_success.1 h
    exact ⟨_, rfl, StringRule.issues_eq_nil.1 hissues⟩
  | number rule =>
    obtain ⟨n, -, rfl, hissues⟩ := parse_number_eq_success.1 h
    have hn := Double.isNaN_of_isFinite n.isFinite_toDouble
    exact ⟨_, rfl, (NumberRule.issues_eq_nil hn posed.here).1 hissues⟩
  | integer rule =>
    obtain ⟨_, k, -, -, rfl, hissues⟩ := parse_integer_eq_success.1 h
    exact ⟨k, rfl, (NumberRule.issues_eq_nil trivial fun _ _ _ _ => trivial).1 hissues⟩
  | boolean =>
    obtain ⟨b, -, rfl⟩ := parse_boolean_eq_success.1 h
    exact ⟨b, rfl⟩
  | array item bounds ih =>
    obtain ⟨items, outputs, rfl, rfl, hlength, hall⟩ := parse_array_eq_success.1 h
    refine ⟨items, outputs, rfl, rfl, ?_, hall.imp fun _ _ hx => ih posed.2 hx⟩
    rw [← hall.length_eq]
    exact ItemBounds.issues_eq_nil.1 hlength
  | object fields strict ih =>
    obtain ⟨distinct, hfields⟩ := everywhere_object.1 posed
    obtain ⟨given, rfl, rfl, haccept, hothers⟩ := parse_object_eq_success.1 h
    refine ⟨given, _, rfl, rfl, rebuilt_of_accepted distinct haccept hothers, ?_⟩
    refine fieldsConform_iff.2 fun field hfield value hvalue => ?_
    obtain ⟨output, hparse, hwritten⟩ := parse_of_lookup_output distinct haccept hfield hvalue
    exact ⟨output, hwritten, ih field hfield (hfields field hfield) hparse⟩
  | typed name read => exact parse_typed_eq_success.1 h
  | ensure rule holds message ih =>
    obtain ⟨hrule, hholds⟩ := parse_ensure_eq_success.1 h
    exact ⟨ih posed.2 hrule, hholds⟩
  | transform rule f ih =>
    obtain ⟨inner, hinner, rfl⟩ := parse_transform_eq_success.1 h
    exact ⟨inner, rfl, ih posed.2 hinner⟩
  | optional rule ih =>
    obtain ⟨hnull, rfl⟩ | ⟨-, inner, hinner, rfl⟩ := parse_optional_eq_success.1 h
    · exact .inl ⟨hnull, rfl⟩
    · exact .inr ⟨inner, rfl, ih posed.2 hinner⟩
  | brand tag rule ih =>
    obtain ⟨inner, hinner, rfl⟩ := parse_brand_eq_success.1 h
    exact ⟨inner, rfl, ih posed.2 hinner⟩
  | shared rule ih => exact ih posed.2 h
  | custom rule => exact h

/-- A rule for a parcel: a code, a note that may be missing, and one to three different weights
of at most thirty. -/
def parcel : Rule :=
  object
    [("code", brand ⟨"Code"⟩ (string ⟨[.trim], [.startsWith "AB", .maxLength 6]⟩)),
     ("note", optional (string .any)),
     ("weights", ensure (array (number ⟨[.gt (.zero false), .lte (.ofInt 30)]⟩) ⟨some 1, some 3⟩)
       Predicate.distinct.holds "Weights must differ")] false

/-- A parcel as it is given: its code has blanks around it, the note is missing, and there is a
member that the rule does not declare. -/
def givenParcel : Json :=
  .object
    [("code", .string " AB-1 "), ("sender", .null),
     ("weights", .array [.number (.whole 2 rfl), .number (.whole 30 rfl)])]

/-- The same parcel as the rule makes it. -/
def madeParcel : List (String × Json) :=
  [("code", .string "AB-1"),
   ("weights", .array [.number (.real (.ofInt 2) (Double.isFinite_ofInt rfl)),
     .number (.real (.ofInt 30) (Double.isFinite_ofInt rfl))])]

/-- The parcel that is made conforms to its rule. -/
theorem conforms_parcel :
    parcel.Everywhere WellPosed ∧ parcel.parse givenParcel = .success (.object madeParcel) ∧
      parcel.Conforms givenParcel (.object madeParcel) := by
  have posed : parcel.Everywhere WellPosed := by
    have hweight : ∀ check ∈ [NumberCheck.gt (Double.zero false), .lte (.ofInt 30)],
        ∀ bound ∈ check.bound?, bound.isNaN = false := by
      simp only [List.forall_mem_cons, NumberCheck.bound?, Option.mem_some_iff, forall_eq']
      exact ⟨rfl, Double.isNaN_of_isFinite (Double.isFinite_ofInt rfl), nofun⟩
    have hnames : ["code", "note", "weights"].Nodup := by decide
    exact ⟨hnames, ⟨trivial, trivial⟩, ⟨trivial, trivial⟩, ⟨trivial, trivial, hweight⟩, trivial⟩
  have haccept : parcel.parse givenParcel = .success (.object madeParcel) := rfl
  exact ⟨posed, haccept, conforms_of_accepted posed haccept⟩

end Rule
end Assay
