import Assay.Proofs.RuleTree

/-!
# Acceptance

For every kind of rule one equivalence says which inputs it accepts and with what output. Proofs
about accepted inputs use these and never unfold `Rule.parse`.
-/

namespace Assay

/-! ### Strings and numbers -/

/-- A string is accepted as its canonical form unless this form violates a check. -/
theorem StringRule.parse_string (rule : StringRule) (raw : String) :
    rule.parse (.string raw) =
      (Rule.checked (rule.issues (rule.canonical raw))).map fun _ => rule.canonical raw := by
  unfold parse Rule.checked
  cases h : Diagnostics.ofList? (rule.issues (rule.canonical raw)) <;> simp [h, Validation.map]

/-- A number is accepted unless it violates a check. -/
theorem NumberRule.parse_of_extract {ν : Type} [Numeric ν] (rule : NumberRule ν) {input : Json}
    {n : ν} (h : Numeric.extract input = .ok n) :
    rule.parse input = (Rule.checked (rule.issues n)).map fun _ => n := by
  unfold parse Rule.checked
  simp only [h]
  cases hn : Diagnostics.ofList? (rule.issues n) <;> rfl

theorem StringRule.parse_eq_success {rule : StringRule} {input : Json} {s : String} :
    rule.parse input = .success s ↔
      ∃ raw, input = .string raw ∧ s = rule.canonical raw ∧ rule.issues s = [] := by
  cases input with
  | string raw =>
    rw [parse_string, Validation.map_eq_success]
    constructor
    · rintro ⟨u, h, rfl⟩
      exact ⟨raw, rfl, rfl, Rule.checked_eq_success.1 h⟩
    · rintro ⟨_, ⟨rfl⟩, rfl, h⟩
      exact ⟨(), Rule.checked_eq_success.2 h, rfl⟩
  | _ => simp [parse]

theorem NumberRule.parse_eq_success {ν : Type} [Numeric ν] {rule : NumberRule ν} {input : Json}
    {n : ν} :
    rule.parse input = .success n ↔ Numeric.extract input = .ok n ∧ rule.issues n = [] := by
  cases h : (Numeric.extract input : Except Issue ν) with
  | error issue => simp [parse, h]
  | ok m =>
    rw [parse_of_extract rule h, Validation.map_eq_success]
    constructor
    · rintro ⟨u, hm, rfl⟩
      exact ⟨rfl, Rule.checked_eq_success.1 hm⟩
    · rintro ⟨hm, hn⟩
      obtain rfl := Except.ok.inj hm
      exact ⟨(), Rule.checked_eq_success.2 hn, rfl⟩

namespace Rule

theorem parse_string_eq_success {rule : StringRule} {input : Json} {output : Output} :
    (string rule).parse input = .success output ↔
      ∃ raw, input = .string raw ∧ output = .string (rule.canonical raw) ∧
        rule.issues (rule.canonical raw) = [] := by
  rw [parse, Validation.map_eq_success]
  constructor
  · rintro ⟨s, h, rfl⟩
    obtain ⟨raw, rfl, rfl, hissues⟩ := StringRule.parse_eq_success.1 h
    exact ⟨raw, rfl, rfl, hissues⟩
  · rintro ⟨raw, rfl, rfl, hissues⟩
    exact ⟨_, StringRule.parse_eq_success.2 ⟨raw, rfl, rfl, hissues⟩, rfl⟩

theorem parse_number_eq_success {rule : NumberRule Double} {input : Json} {output : Output} :
    (number rule).parse input = .success output ↔
      ∃ n, input = .number n ∧ output = .number n.toDouble ∧ rule.issues n.toDouble = [] := by
  rw [parse, Validation.map_eq_success]
  constructor
  · rintro ⟨x, h, rfl⟩
    obtain ⟨hx, hissues⟩ := NumberRule.parse_eq_success.1 h
    cases input with
    | number n =>
      cases hx
      exact ⟨n, rfl, rfl, hissues⟩
    | _ => cases hx
  · rintro ⟨n, rfl, rfl, hissues⟩
    exact ⟨_, NumberRule.parse_eq_success.2 ⟨rfl, hissues⟩, rfl⟩

theorem parse_integer_eq_success {rule : NumberRule Int64} {input : Json} {output : Output} :
    (integer rule).parse input = .success output ↔
      ∃ n k, input = .number n ∧ n.toInt64 = .ok k ∧ output = .integer k ∧
        rule.issues k = [] := by
  rw [parse, Validation.map_eq_success]
  constructor
  · rintro ⟨k, h, rfl⟩
    obtain ⟨hk, hissues⟩ := NumberRule.parse_eq_success.1 h
    cases input with
    | number n => exact ⟨n, k, rfl, hk, rfl, hissues⟩
    | _ => cases hk
  · rintro ⟨n, k, rfl, hk, rfl, hissues⟩
    exact ⟨k, NumberRule.parse_eq_success.2 ⟨hk, hissues⟩, rfl⟩

theorem parse_boolean_eq_success {input : Json} {output : Output} :
    boolean.parse input = .success output ↔ ∃ b, input = .boolean b ∧ output = .boolean b := by
  cases input <;> simp [parse, eq_comm]

theorem parse_typed_eq_success {name : String} {read : Json → Except String Output} {input : Json}
    {output : Output} :
    (typed name read).parse input = .success output ↔ read input = .ok output := by
  unfold parse
  cases read input <;> simp

/-! ### Wrappers -/

theorem parse_ensure_eq_success {rule : Rule} {holds : Output → Bool} {message : String}
    {input : Json} {output : Output} :
    (ensure rule holds message).parse input = .success output ↔
      rule.parse input = .success output ∧ holds output = true := by
  rw [parse, Validation.andThen_eq_success]
  constructor
  · rintro ⟨inner, h, hinner⟩
    split_ifs at hinner with hholds
    cases hinner
    exact ⟨h, hholds⟩
  · rintro ⟨h, hholds⟩
    exact ⟨output, h, if_pos hholds⟩

theorem parse_transform_eq_success {rule : Rule} {f : Output → Output} {input : Json}
    {output : Output} :
    (transform rule f).parse input = .success output ↔
      ∃ inner, rule.parse input = .success inner ∧ f inner = output := by
  rw [parse, Validation.map_eq_success]

theorem parse_optional_eq_success {rule : Rule} {input : Json} {output : Output} :
    (optional rule).parse input = .success output ↔
      input = .null ∧ output = .absent ∨
        input ≠ .null ∧ ∃ inner, rule.parse input = .success inner ∧ output = .present inner := by
  cases input <;> simp [parse, Validation.map_eq_success, eq_comm]

theorem parse_brand_eq_success {tag : Tag} {rule : Rule} {input : Json} {output : Output} :
    (brand tag rule).parse input = .success output ↔
      ∃ inner, rule.parse input = .success inner ∧ output = .branded tag inner := by
  simp [parse, Validation.map_eq_success, eq_comm]

/-! ### Arrays and objects -/

theorem exists_forall₂_iff {R : α → β → Prop} {xs : List α} :
    (∃ ys, List.Forall₂ R xs ys) ↔ ∀ x ∈ xs, ∃ y, R x y := by
  induction xs with
  | nil => simp
  | cons x rest ih =>
    rw [List.forall_mem_cons, ← ih]
    constructor
    · rintro ⟨_, h⟩
      cases h with
      | cons hx hrest => exact ⟨⟨_, hx⟩, _, hrest⟩
    · rintro ⟨⟨y, hx⟩, ys, hrest⟩
      exact ⟨y :: ys, .cons hx hrest⟩

/-- The items are accepted one by one. -/
theorem all_items_eq_success {item : Rule} {items : List Json} {outputs : List Output} :
    (Validation.all (items.mapIdx fun i x => (item.parse x).mapError (·.under (.index i)))) =
        .success outputs ↔
      List.Forall₂ (fun x output => item.parse x = .success output) items outputs := by
  rw [Validation.all_eq_success, List.mapIdx_eq_zipIdx_map, ← List.forall₂_eq_eq_eq,
    List.forall₂_map_left_iff, List.forall₂_map_right_iff]
  simp only [Validation.mapError_eq_success]
  rw [← List.forall₂_map_left_iff (R := fun x output => item.parse x = .success output)
    (f := Prod.fst), List.zipIdx_map_fst]

/-- An array is accepted when its length fits and every item is accepted. -/
theorem parse_array_eq_success {item : Rule} {bounds : ItemBounds} {input : Json}
    {output : Output} :
    (array item bounds).parse input = .success output ↔
      ∃ items outputs, input = .array items ∧ output = .array outputs ∧
        bounds.issues items.length = [] ∧
        List.Forall₂ (fun x output => item.parse x = .success output) items outputs := by
  cases input with
  | array items =>
    rw [parse, Validation.map_eq_success]
    constructor
    · rintro ⟨⟨u, outputs⟩, h, rfl⟩
      obtain ⟨hlength, hall⟩ := Validation.both_eq_success.1 h
      exact ⟨items, outputs, rfl, rfl, checked_eq_success.1 hlength,
        all_items_eq_success.1 hall⟩
    · rintro ⟨_, outputs, ⟨rfl⟩, rfl, hlength, hall⟩
      exact ⟨((), outputs), Validation.both_eq_success.2
        ⟨checked_eq_success.2 hlength, all_items_eq_success.2 hall⟩, rfl⟩
  | _ => simp [parse]

/-- A field adds no member when it is absent and its value null. -/
theorem fieldMember_eq_none {name : String} {given : Option Json} {value : Json} :
    fieldMember name given value = none ↔ given = none ∧ value = .null := by
  cases given <;> cases value <;> simp [fieldMember, Json.isNull]

theorem fieldMember_eq_some {name : String} {given : Option Json} {value : Json}
    {member : String × Json} (h : fieldMember name given value = some member) :
    member = (name, value) := by
  unfold fieldMember at h
  split_ifs at h
  exact (Option.some.inj h).symm

/-- The member that an accepted field adds to the output, if it adds one. -/
def outputMember? (members : List (String × Json)) (field : String × Rule) :
    Option (String × Json) :=
  (field.2.fieldValue (Json.memberOrNull members field.1)).value?.bind
    (fieldMember field.1 (members.lookup field.1))

theorem outputMember?_of_fieldValue {members : List (String × Json)} {field : String × Rule}
    {value : Json}
    (h : field.2.fieldValue (Json.memberOrNull members field.1) = .success value) :
    outputMember? members field = fieldMember field.1 (members.lookup field.1) value := by
  rw [outputMember?, h]
  rfl

/-- A field adds nothing but a member of its own name. -/
theorem name_of_outputMember? {members : List (String × Json)} {field : String × Rule}
    {member : String × Json} (h : outputMember? members field = some member) :
    member.1 = field.1 := by
  obtain ⟨value, -, hmember⟩ := Option.bind_eq_some_iff.1 h
  rw [fieldMember_eq_some hmember]

/-- Whether the value of every field is accepted and can be written. -/
def FieldsAccept (fields : List (String × Rule)) (members : List (String × Json)) : Prop :=
  ∀ field ∈ fields, ∃ value,
    field.2.fieldValue (Json.memberOrNull members field.1) = .success value

theorem parseFields_eq_success {fields : List (String × Rule)} {members : List (String × Json)}
    {found : List (Option (String × Json))} :
    parseFields fields members = found.map .success ↔
      FieldsAccept fields members ∧ found = fields.map (outputMember? members) := by
  rw [parseFields_eq_map]
  induction fields generalizing found with
  | nil => cases found <;> simp [FieldsAccept]
  | cons field rest ih =>
    cases found with
    | nil => simp
    | cons member found =>
      simp only [List.map_cons, List.cons.injEq, ih, Validation.mapError_eq_success,
        Validation.map_eq_success, FieldsAccept, List.forall_mem_cons]
      constructor
      · rintro ⟨⟨value, hvalue, rfl⟩, hrest, rfl⟩
        exact ⟨⟨⟨value, hvalue⟩, hrest⟩, (outputMember?_of_fieldValue hvalue).symm, rfl⟩
      · rintro ⟨⟨⟨value, hvalue⟩, hrest⟩, rfl, rfl⟩
        exact ⟨⟨value, hvalue, (outputMember?_of_fieldValue hvalue).symm⟩, hrest, rfl⟩

/-- What the output holds under the name of an accepted field. -/
theorem lookup_output {fields : List (String × Rule)} {members : List (String × Json)}
    (distinct : (fields.map Prod.fst).Nodup) {field : String × Rule} (hfield : field ∈ fields)
    {value : Json}
    (h : field.2.fieldValue (Json.memberOrNull members field.1) = .success value) :
    (Json.ofPairs (fields.filterMap (outputMember? members))).lookup field.1 =
      (fieldMember field.1 (members.lookup field.1) value).map Prod.snd := by
  rw [← outputMember?_of_fieldValue h]
  exact Json.lookup_ofPairs_filterMap distinct (fun _ _ => name_of_outputMember?) hfield

/-- Every member is declared exactly when none is reported. -/
theorem unrecognized_eq_nil {fields : List (String × Rule)} {members : List (String × Json)} :
    unrecognized fields members = [] ↔ ∀ member ∈ members, member.1 ∈ fields.map Prod.fst := by
  unfold unrecognized
  rw [List.map_eq_nil_iff, List.filter_eq_nil_iff]
  simp

/-- Every member of an output is declared. -/
theorem unrecognized_output {fields : List (String × Rule)} {members : List (String × Json)} :
    unrecognized fields (Json.ofPairs (fields.filterMap (outputMember? members))) = [] := by
  refine unrecognized_eq_nil.2 fun member hmember => ?_
  obtain ⟨field, hfield, h⟩ := List.mem_filterMap.1 (Json.mem_of_mem_ofPairs hmember)
  rw [name_of_outputMember? h]
  exact List.mem_map_of_mem hfield

/-- An object is accepted when every field is accepted and, under a strict rule, every member
is declared. The output holds the members that the fields add. -/
theorem parse_object_eq_success {fields : List (String × Rule)} {strict : Bool} {input : Json}
    {output : Output} :
    (object fields strict).parse input = .success output ↔
      ∃ members, input = .object members ∧
        output = .object (Json.ofPairs (fields.filterMap (outputMember? members))) ∧
        FieldsAccept fields members ∧ (strict = true → unrecognized fields members = []) := by
  cases input with
  | object members =>
    have hstrict : (if strict then unrecognized fields members else []) = [] ↔
        (strict = true → unrecognized fields members = []) := by
      cases strict <;> simp
    have hmembers :
        Output.object (Json.ofPairs ((fields.map (outputMember? members)).filterMap id)) =
        .object (Json.ofPairs (fields.filterMap (outputMember? members))) := by
      rw [List.filterMap_map]
      rfl
    rw [parse, Validation.map_eq_success]
    constructor
    · rintro ⟨⟨found, u⟩, h, rfl⟩
      obtain ⟨hall, hothers⟩ := Validation.both_eq_success.1 h
      obtain ⟨haccept, rfl⟩ := parseFields_eq_success.1 (Validation.all_eq_success.1 hall)
      exact ⟨members, rfl, hmembers, haccept,
        hstrict.1 (checked_eq_success.1 hothers)⟩
    · rintro ⟨_, ⟨rfl⟩, rfl, haccept, hothers⟩
      have hall := Validation.all_eq_success.2 (parseFields_eq_success.2 ⟨haccept, rfl⟩)
      exact ⟨(_, ()), Validation.both_eq_success.2
        ⟨hall, checked_eq_success.2 (hstrict.2 hothers)⟩, hmembers⟩
  | _ => simp [parse]

end Rule
end Assay
