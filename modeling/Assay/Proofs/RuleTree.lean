import Assay.Proofs.Members
import Assay.Proofs.Outcomes

/-!
# Rule trees

Rules contain rules: the item of an array rule, the fields of an object rule, the rule under a
wrapper. Properties of all rules are proved by induction on this structure, and assumptions
on a rule are made of it and of all rules inside.

* `treeInduction`: what passes from the parts of a rule to the rule holds of every rule;
* `Everywhere p`: `p` holds of the rule and of every rule inside;
* `issues_array`, `issues_object`: the issues of the two structural rules, part by part.
-/

namespace Assay

namespace Rule

/-! ### Induction -/

/-- What holds of the simple rules and passes from the parts of a rule to the rule holds of
every rule. -/
@[elab_as_elim, induction_eliminator]
theorem treeInduction {motive : Rule → Prop}
    (string : ∀ rule, motive (.string rule))
    (number : ∀ rule, motive (.number rule))
    (integer : ∀ rule, motive (.integer rule))
    (boolean : motive .boolean)
    (array : ∀ item bounds, motive item → motive (.array item bounds))
    (object : ∀ fields strict, (∀ field ∈ fields, motive field.2) → motive (.object fields strict))
    (typed : ∀ name read, motive (.typed name read))
    (ensure : ∀ rule holds message, motive rule → motive (.ensure rule holds message))
    (transform : ∀ rule f, motive rule → motive (.transform rule f))
    (optional : ∀ rule, motive rule → motive (.optional rule))
    (brand : ∀ tag rule, motive rule → motive (.brand tag rule))
    (shared : ∀ rule, motive rule → motive (.shared rule))
    (custom : ∀ rule, motive (.custom rule))
    (rule : Rule) : motive rule := by
  refine @Rule.rec motive (fun fields => ∀ field ∈ fields, motive field.2)
    (fun field => motive field.2) string number integer boolean array object typed ensure
    transform optional brand shared custom ?_ ?_ ?_ rule
  · intro field h
    cases h
  · intro field fields hfield hfields other hother
    rcases List.mem_cons.1 hother with rfl | h
    · exact hfield
    · exact hfields other h
  · intro name rule h
    exact h

mutual

/-- Whether a property holds of the rule and of every rule inside it. -/
def Everywhere (p : Rule → Prop) : Rule → Prop
  | array item bounds => p (array item bounds) ∧ item.Everywhere p
  | object fields strict => p (object fields strict) ∧ EverywhereFields p fields
  | ensure rule holds message => p (ensure rule holds message) ∧ rule.Everywhere p
  | transform rule f => p (transform rule f) ∧ rule.Everywhere p
  | optional rule => p (optional rule) ∧ rule.Everywhere p
  | brand tag rule => p (brand tag rule) ∧ rule.Everywhere p
  | shared rule => p (shared rule) ∧ rule.Everywhere p
  | rule => p rule
termination_by structural rule => rule

/-- Whether a property holds everywhere in the rules of some fields. -/
def EverywhereFields (p : Rule → Prop) : List (String × Rule) → Prop
  | [] => True
  | (_, rule) :: rest => rule.Everywhere p ∧ EverywhereFields p rest
termination_by structural fields => fields

end

theorem everywhereFields_iff {p : Rule → Prop} {fields : List (String × Rule)} :
    EverywhereFields p fields ↔ ∀ field ∈ fields, field.2.Everywhere p := by
  induction fields with
  | nil => simp [EverywhereFields]
  | cons field rest ih => simp [EverywhereFields, ih]

theorem everywhere_object {p : Rule → Prop} {fields : List (String × Rule)} {strict : Bool} :
    (object fields strict).Everywhere p ↔
      p (object fields strict) ∧ ∀ field ∈ fields, field.2.Everywhere p := by
  rw [Everywhere, everywhereFields_iff]

/-- A property that holds everywhere in a rule holds of the rule. -/
theorem Everywhere.here {p : Rule → Prop} {rule : Rule} (h : rule.Everywhere p) : p rule := by
  cases rule <;> first | exact h | exact h.1

theorem Everywhere.imp {p q : Rule → Prop} (hpq : ∀ rule, p rule → q rule) {rule : Rule}
    (h : rule.Everywhere p) : rule.Everywhere q := by
  induction rule with
  | array item bounds ih => exact ⟨hpq _ h.1, ih h.2⟩
  | object fields strict ih =>
    obtain ⟨hhere, hfields⟩ := everywhere_object.1 h
    refine everywhere_object.2 ⟨hpq _ hhere, fun field hfield => ?_⟩
    exact ih field hfield (hfields field hfield)
  | ensure rule _ _ ih | transform rule _ ih | optional rule ih | brand _ rule ih
  | shared rule ih => exact ⟨hpq _ h.1, ih h.2⟩
  | _ => exact hpq _ h

/-- The names of the fields of an object rule are distinct; other rules have no names. -/
def NamesDistinct : Rule → Prop
  | object fields _ => (fields.map Prod.fst).Nodup
  | _ => True

/-! ### Wrappers and fields -/

attribute [local simp] parse parseFields

/-- An input other than null is left to the rule under the optional one. -/
theorem parse_optional_of_ne_null {rule : Rule} {input : Json} (h : input ≠ .null) :
    (optional rule).parse input = (rule.parse input).map .present := by
  cases input <;> first | rfl | exact absurd rfl h

/-- What a field contributes to the output, as JSON. -/
def fieldValue (rule : Rule) (input : Json) : Validation Diagnostics Json :=
  (rule.parse input).andThen written

theorem fieldValue_eq_success {rule : Rule} {input value : Json} :
    rule.fieldValue input = .success value ↔
      ∃ output, rule.parse input = .success output ∧ output.toJson = .ok value := by
  rw [fieldValue, Validation.andThen_eq_success]
  refine exists_congr fun output => and_congr_right fun _ => ?_
  unfold written
  cases output.toJson <;> simp

/-- A field whose output can be written reports the issues of its rule. -/
theorem issues_fieldValue {rule : Rule} {input : Json}
    (h : ∀ output, rule.parse input = .success output → ∃ value, output.toJson = .ok value) :
    (rule.fieldValue input).issues = (rule.parse input).issues := by
  unfold fieldValue
  cases hp : rule.parse input with
  | failure d => rfl
  | success output =>
    obtain ⟨value, hv⟩ := h output hp
    simp [Validation.andThen, written, hv]

/-- The fields of an object are parsed one by one, each at its own member. -/
theorem parseFields_eq_map (fields : List (String × Rule)) (members : List (String × Json)) :
    parseFields fields members = fields.map fun field =>
      ((field.2.fieldValue (Json.memberOrNull members field.1)).map
        (fieldMember field.1 (members.lookup field.1))).mapError (·.under (.key field.1)) := by
  induction fields with
  | nil => rfl
  | cons field rest ih =>
    obtain ⟨name, rule⟩ := field
    rw [parseFields, ih]
    rfl

/-! ### The structural rules -/

/-- The issues of an array: those of its length, then those of its items in order. -/
theorem issues_array (item : Rule) (bounds : ItemBounds) (items : List Json) :
    ((array item bounds).parse (.array items)).issues = bounds.issues items.length ++
      items.zipIdx.flatMap fun x => (item.parse x.1).issues.map (Issue.under (.index x.2)) := by
  simp [List.mapIdx_eq_zipIdx_map, List.flatMap_map]

/-- The issues of an object: those of its fields in the order of their declaration, then the
members that are not declared. -/
theorem issues_object (fields : List (String × Rule)) (strict : Bool)
    (members : List (String × Json)) :
    ((object fields strict).parse (.object members)).issues =
      (fields.flatMap fun field =>
        (field.2.fieldValue (Json.memberOrNull members field.1)).issues.map
          (Issue.under (.key field.1))) ++
      (if strict then unrecognized fields members else []) := by
  simp [parseFields_eq_map, List.flatMap_map]

end Rule
end Assay
