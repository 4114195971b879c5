import Assay.Proofs.Acceptance
import Assay.Rule.Functions

/-!
# Outcomes of object rules

The outcome of an object rule is told declaration by declaration, also when a name is declared
more than once: which issues each declaration reports, which member the output has under each
name, and what being strict adds.

* `fieldIssues`, `Yields`: the two outcomes of a single declaration;
* `Kept`, `LastKept`: which declarations make members of the output;
* `lookup_made`: under every name the output has what the last kept declaration makes;
* `parse_strict_eq`: a strict rule checks the other members and does nothing else of its own;
* `object_outcome`: the whole outcome.
-/

namespace Assay

/-- Among the pairs that some elements contribute, the last one with a key comes from the last
element that contributes a pair with this key. -/
theorem lookup_reverse_filterMap_eq_some {pair? : α → Option (String × β)} {xs : List α}
    {key : String} {b : β} :
    (xs.filterMap pair?).reverse.lookup key = some b ↔
      ∃ before x behind, xs = before ++ x :: behind ∧ pair? x = some (key, b) ∧
        ∀ y ∈ behind, ∀ other, pair? y ≠ some (key, other) := by
  rw [List.lookup_eq_some_iff]
  constructor
  · rintro ⟨front, back, hsplit, hfront⟩
    rw [← List.filterMap_reverse] at hsplit
    obtain ⟨first, rest, hxs, rfl, hrest⟩ := List.filterMap_eq_append_iff.1 hsplit
    obtain ⟨skipped, x, before, rfl, hskipped, hx, -⟩ := List.filterMap_eq_cons_iff.1 hrest
    refine ⟨before.reverse, x, (first ++ skipped).reverse, ?_, hx, fun y hy other hother => ?_⟩
    · rw [← List.reverse_reverse xs, hxs]
      simp
    · rcases List.mem_append.1 (List.mem_reverse.1 hy) with hy | hy
      · have hne := hfront _ (List.mem_filterMap.2 ⟨y, hy, hother⟩)
        simp at hne
      · rw [hskipped y hy] at hother
        cases hother
  · rintro ⟨before, x, behind, rfl, hx, hbehind⟩
    refine ⟨(behind.filterMap pair?).reverse, (before.filterMap pair?).reverse, ?_, ?_⟩
    · simp [List.filterMap_append, hx]
    · intro pair hpair
      obtain ⟨y, hy, hpair⟩ := List.mem_filterMap.1 (List.mem_reverse.1 hpair)
      refine bne_iff_ne.2 fun hkey => hbehind y hy pair.2 ?_
      rw [hpair, hkey]

theorem Validation.both_success (v : Validation Diagnostics α) (b : β) :
    v.both (.success b) = v.map fun a => (a, b) := by
  cases v <;> rfl

namespace Rule

variable {fields : List (String × Rule)} {members : List (String × Json)}

/-! ### Declarations -/

/-- The issues of a declaration, at its name: those of its rule or, when the rule accepts, the one
that its output cannot be written. -/
def fieldIssues (members : List (String × Json)) (field : String × Rule) : List Issue :=
  let found := match field.2.parse (Json.memberOrNull members field.1) with
    | .failure d => d.toList
    | .success output => match output.toJson with
      | .ok _ => []
      | .error e => [.custom s!"Unrepresentable value: {e.message}"]
  found.map (Issue.under (.key field.1))

/-- Whether a declaration accepts its member, or null if that is absent, and its output is written
as the given value. -/
def Yields (members : List (String × Json)) (field : String × Rule) (value : Json) : Prop :=
  ∃ output, field.2.parse (Json.memberOrNull members field.1) = .success output ∧
    output.toJson = .ok value

/-- Whether a declaration makes a member of the output with the given value: the member is in the
input, or the value is not null. -/
def Kept (members : List (String × Json)) (field : String × Rule) (value : Json) : Prop :=
  Yields members field value ∧ (field.1 ∈ members.map Prod.fst ∨ value ≠ .null)

/-- Whether the last declaration of a name that is kept is kept with the given value. -/
def LastKept (fields : List (String × Rule)) (members : List (String × Json)) (name : String)
    (value : Json) : Prop :=
  ∃ before field behind, fields = before ++ field :: behind ∧ field.1 = name ∧
    Kept members field value ∧
    ∀ later ∈ behind, later.1 = name → ∀ other, ¬Kept members later other

theorem issues_fieldValue_under (members : List (String × Json)) (field : String × Rule) :
    (field.2.fieldValue (Json.memberOrNull members field.1)).issues.map
      (Issue.under (.key field.1)) = fieldIssues members field := by
  unfold fieldIssues fieldValue
  cases field.2.parse (Json.memberOrNull members field.1) with
  | failure d => rfl
  | success output =>
    dsimp only [Validation.andThen, written]
    cases output.toJson with
    | ok value => rfl
    | error e => rfl

/-- The issues of an object, declaration by declaration. -/
theorem issues_declarations (fields : List (String × Rule)) (strict : Bool)
    (members : List (String × Json)) :
    ((object fields strict).parse (.object members)).issues =
      fields.flatMap (fieldIssues members) ++
        if strict then unrecognized fields members else [] := by
  rw [issues_object]
  simp only [issues_fieldValue_under]

theorem fieldsAccept_iff :
    FieldsAccept fields members ↔ ∀ field ∈ fields, ∃ value, Yields members field value := by
  simp only [FieldsAccept, Yields, fieldValue_eq_success]

theorem value?_fieldValue {field : String × Rule} {value : Json} :
    (field.2.fieldValue (Json.memberOrNull members field.1)).value? = some value ↔
      Yields members field value := by
  rw [Yields, ← fieldValue_eq_success]
  cases field.2.fieldValue (Json.memberOrNull members field.1) <;> simp [Validation.value?]

/-- What a declaration adds to the output is what it is kept with. -/
theorem outputMember?_eq_some {field : String × Rule} {name : String} {value : Json} :
    outputMember? members field = some (name, value) ↔
      field.1 = name ∧ Kept members field value := by
  have hnull : (!value.isNull) = true ↔ value ≠ .null := by
    cases value <;> simp [Json.isNull]
  rw [outputMember?, Option.bind_eq_some_iff]
  constructor
  · rintro ⟨made, hmade, hmember⟩
    obtain ⟨rfl, rfl⟩ := Prod.mk.inj (fieldMember_eq_some hmember)
    refine ⟨rfl, value?_fieldValue.1 hmade, ?_⟩
    rw [fieldMember, Option.ite_none_right_eq_some, Bool.or_eq_true, Json.isSome_lookup,
      hnull] at hmember
    exact hmember.1
  · rintro ⟨rfl, hyields, hkept⟩
    refine ⟨value, value?_fieldValue.2 hyields, ?_⟩
    rw [fieldMember, if_pos]
    rwa [Bool.or_eq_true, Json.isSome_lookup, hnull]

/-- Under every name the output has what the last kept declaration of this name makes. -/
theorem lookup_made {name : String} {value : Json} :
    (Json.ofPairs (fields.filterMap (outputMember? members))).lookup name = some value ↔
      LastKept fields members name value := by
  rw [Json.lookup_ofPairs, lookup_reverse_filterMap_eq_some]
  simp only [ne_eq, outputMember?_eq_some, not_and, LastKept]
  constructor
  · rintro ⟨before, field, behind, hfields, ⟨hname, hkept⟩, hlater⟩
    exact ⟨before, field, behind, hfields, hname, hkept,
      fun later hmem hlatername other => hlater later hmem other hlatername⟩
  · rintro ⟨before, field, behind, hfields, hname, hkept, hlater⟩
    exact ⟨before, field, behind, hfields, ⟨hname, hkept⟩,
      fun later hmem other hlatername => hlater later hmem hlatername other⟩

/-! ### Members that are not declared -/

/-- The keys of an object that no field declares. -/
def undeclared (fields : List (String × Rule)) (members : List (String × Json)) : List String :=
  (members.map Prod.fst).filter fun key => !(fields.map Prod.fst).contains key

theorem unrecognized_eq_map : unrecognized fields members =
    (undeclared fields members).map unrecognizedKey := rfl

theorem mem_undeclared {key : String} : key ∈ undeclared fields members ↔
    key ∈ members.map Prod.fst ∧ key ∉ fields.map Prod.fst := by
  simp [undeclared]

/-- A strict rule checks the members that are not declared, and does nothing else of its own. -/
theorem parse_strict_eq (fields : List (String × Rule)) (members : List (String × Json)) :
    (object fields true).parse (.object members) =
      (((object fields false).parse (.object members)).both
        (checked (unrecognized fields members))).map Prod.fst := by
  have hnone : checked [] = .success () := rfl
  simp only [parse, if_true, Bool.false_eq_true, if_false, hnone, Validation.both_success]
  cases Validation.all (parseFields fields members) <;>
    cases checked (unrecognized fields members) <;> rfl

/-! ### The whole outcome -/

/-- An object is accepted when every declaration yields a value and, under a strict rule, every
key is declared. -/
theorem exists_parse_object_eq_success {strict : Bool} :
    (∃ output, (object fields strict).parse (.object members) = .success output) ↔
      (∀ field ∈ fields, ∃ value, Yields members field value) ∧
        (strict = true → ∀ key ∈ members.map Prod.fst, key ∈ fields.map Prod.fst) := by
  simp only [parse_object_eq_success, fieldsAccept_iff, unrecognized_eq_nil]
  constructor
  · rintro ⟨_, _, ⟨rfl⟩, -, haccept, hdeclared⟩
    exact ⟨haccept, fun hstrict => List.forall_mem_map.2 (hdeclared hstrict)⟩
  · rintro ⟨haccept, hdeclared⟩
    exact ⟨_, members, rfl, rfl, haccept, fun hstrict => List.forall_mem_map.1 (hdeclared hstrict)⟩

/-- **The outcome of an object rule.** An input that is no object is refused by one issue. An
object is accepted when every declaration yields a value and, under a strict rule, every key is
declared; the output then has under each name what the last kept declaration of this name makes,
and nothing else. The issues of an object that is refused are those of the declarations in their
order and then, under a strict rule, one for every undeclared key in ascending order. Being strict
adds the check of these keys and changes nothing else. -/
theorem object_outcome (fields : List (String × Rule)) (strict : Bool) :
    (∀ input : Json, input.kind ≠ .object →
      (object fields strict).parse input = .failure (.single (.invalidType "object" input))) ∧
    ∀ members : List (String × Json), (members.map Prod.fst).Pairwise (· < ·) →
      ((∃ output, (object fields strict).parse (.object members) = .success output) ↔
        (∀ field ∈ fields, ∃ value, Yields members field value) ∧
          (strict = true → ∀ key ∈ members.map Prod.fst, key ∈ fields.map Prod.fst)) ∧
      (∀ output, (object fields strict).parse (.object members) = .success output →
        ∃ made, output = .object made ∧ (made.map Prod.fst).Pairwise (· < ·) ∧
          ∀ name value, made.lookup name = some value ↔ LastKept fields members name value) ∧
      (∀ d, (object fields strict).parse (.object members) = .failure d →
        d.toList = fields.flatMap (fieldIssues members) ++
          if strict then (undeclared fields members).map unrecognizedKey else []) ∧
      ((undeclared fields members).Pairwise (· < ·) ∧ ∀ key, key ∈ undeclared fields members ↔
        key ∈ members.map Prod.fst ∧ key ∉ fields.map Prod.fst) ∧
      (object fields true).parse (.object members) =
        (((object fields false).parse (.object members)).both
          (checked ((undeclared fields members).map unrecognizedKey))).map Prod.fst := by
  refine ⟨fun input hkind => ?_, fun members sorted => ⟨exists_parse_object_eq_success, ?_, ?_,
    ⟨sorted.filter _, fun key => mem_undeclared⟩, parse_strict_eq fields members⟩⟩
  · cases input with
    | object members => exact absurd rfl hkind
    | _ => rfl
  · intro output h
    obtain ⟨_, ⟨rfl⟩, rfl, -, -⟩ := parse_object_eq_success.1 h
    exact ⟨_, rfl, List.pairwise_map.2 (Json.sorted_ofPairs _), fun name value => lookup_made⟩
  · intro d h
    rw [← Validation.issues_failure (α := Output), ← h, issues_object]
    simp only [issues_fieldValue_under, unrecognized_eq_map]

/-- A size that is cubed, and a nickname that is declared twice: as a text in an array, and as a
short text that may be missing. -/
def cubeFields : List (String × Rule) :=
  [("size", transform (integer ⟨[.gt 0]⟩) Mapper.cube.apply),
   ("nick", transform (optional (string .any)) Mapper.wrap.apply),
   ("nick", optional (string ⟨[], [.maxLength 3]⟩))]

/-- A cube without a nickname. -/
def unnamedCube : List (String × Json) := [("size", .number (.whole 5 rfl))]

/-- A cube that is too large to be written, with a long nickname and two other members. -/
def hugeCube : List (String × Json) :=
  [("area", .null), ("nick", .string "Block"), ("size", .number (.whole 4294967296 rfl)),
   ("weight", .boolean true)]

/-- Without a nickname the second declaration is not kept and the first one makes the member. The
huge cube is refused for its written form, for its nickname, and for the two other members. -/
theorem object_outcome_cubes :
    (unnamedCube.map Prod.fst).Pairwise (· < ·) ∧ (hugeCube.map Prod.fst).Pairwise (· < ·) ∧
      LastKept cubeFields unnamedCube "nick" (.array [.null]) ∧
      LastKept cubeFields unnamedCube "size" (.number (.whole 125 rfl)) ∧
      ∃ d, (object cubeFields true).parse (.object hugeCube) = .failure d ∧
        d.toList =
          [⟨.custom, "Unrepresentable value: number out of range", [.key "size"]⟩,
           ⟨.tooBig "3" true, "Too big: expected string to have <=3 characters", [.key "nick"]⟩,
           ⟨.unrecognizedKey "area", "Unrecognized key: \"area\"", []⟩,
           ⟨.unrecognizedKey "weight", "Unrecognized key: \"weight\"", []⟩] := by
  have hunnamed : (unnamedCube.map Prod.fst).Pairwise (· < ·) := by decide
  have hhuge : (hugeCube.map Prod.fst).Pairwise (· < ·) := by decide
  have hsuccess : (object cubeFields true).parse (.object unnamedCube) =
      .success (.object [("nick", .array [.null]), ("size", .number (.whole 125 rfl))]) := rfl
  obtain ⟨-, houtput, -⟩ := (object_outcome cubeFields true).2 unnamedCube hunnamed
  obtain ⟨_, ⟨rfl⟩, -, hmade⟩ := houtput _ hsuccess
  obtain ⟨-, -, hfailure, -⟩ := (object_outcome cubeFields true).2 hugeCube hhuge
  cases h : (object cubeFields true).parse (.object hugeCube) with
  | success output => cases h
  | failure d =>
    refine ⟨hunnamed, hhuge, (hmade _ _).1 rfl, (hmade _ _).1 rfl, d, rfl, ?_⟩
    rw [hfailure d h]
    rfl

end Rule
end Assay
