import Assay.Proofs.Doubles
import Assay.Proofs.WrittenForm
import Assay.Refinement
import Mathlib.Data.List.DropRight

/-!
# Revalidation

An accepted value is written as JSON and parsed once more by the same rule: the second parse
accepts and makes the same output. Each kind of rule brings its input into a form of its own, so
the point is that the written form of every output is taken back by the same rule in the same
way.

* `Rule.Revalidates`: the rules of which this holds, node by node;
* `outputMember?_again`: a field of an accepted object adds the same member again;
* `parse_toJson`: the second parse;
* `accepted_again`: the statement for a rule and the refinements over it.
-/

namespace Assay

/-- A 64-bit integer is extracted from the number that it is written as. -/
theorem Number.toInt64_toInt (k : Int64) :
    (Number.whole k.toInt (Json.fitsWord_toInt k)).toInt64 = .ok k := by
  have low := k.le_toInt
  have high := k.toInt_lt
  have hmin := Int64.toInt_minValue
  have hmax := Int64.toInt_maxValue
  unfold toInt64
  simp only
  rw [if_neg (by omega), if_pos (by omega), Int64.ofInt_toInt]

/-- A trimmed text has no blanks to trim. -/
theorem trim_trim (cs : List Char) : trim (trim cs) = trim cs := by
  have hstart : trimStart (trim cs) = trim cs := by
    -- what is left at the end of the trimming begins where the start of the text was cut
    refine List.dropWhile_eq_self_iff.2 fun hpos => ?_
    obtain ⟨rest, hrest⟩ : trim cs <+: trimStart cs := List.rdropWhile_prefix isBlank _
    have hne : 0 < (trimStart cs).length := by
      rw [← hrest, List.length_append]
      omega
    have hfirst : (trimStart cs)[0] = (trim cs)[0] := by
      simp only [← hrest, List.getElem_append_left hpos]
    rw [← hfirst]
    exact List.dropWhile_eq_self_iff.1 (List.dropWhile_idempotent isBlank cs) hne
  show trimEnd (trimStart (trim cs)) = trim cs
  rw [hstart]
  exact List.rdropWhile_idempotent isBlank (trimStart cs)

/-- A rule whose only transform is trimming finds nothing more to trim in its own output. -/
theorem StringTransform.trim_trim {checks : List StringCheck} (s : String) :
    StringRule.canonical ⟨[trim], checks⟩ (StringRule.canonical ⟨[trim], checks⟩ s) =
      StringRule.canonical ⟨[trim], checks⟩ s := by
  simp only [StringRule.canonical, List.foldl_cons, List.foldl_nil, apply, trimString_eq,
    String.toList_ofList, Assay.trim_trim]

namespace Rule

/-- Whether parsing the written output of the rule can be expected to change nothing: the
transforms of a string rule change nothing when they are run again, the names of fields are
distinct, and no function or type of the caller makes the output. -/
def Revalidates : Rule → Prop
  | string rule => ∀ s, rule.canonical (rule.canonical s) = rule.canonical s
  | object fields _ => (fields.map Prod.fst).Nodup
  | typed _ _ | transform _ _ | custom _ => False
  | _ => True

theorem Revalidates.unmapped {rule : Rule} (h : rule.Revalidates) : rule.Unmapped := by
  cases rule with
  | typed name read => exact h.elim
  | _ => trivial

/-! ### Objects -/

/-- A field of an accepted object is accepted in the output as well, and adds the same member
again. -/
theorem outputMember?_again {fields : List (String × Rule)} {members : List (String × Json)}
    (distinct : (fields.map Prod.fst).Nodup) {field : String × Rule} (hfield : field ∈ fields)
    (again : ∀ input value, field.2.fieldValue input = .success value →
      field.2.fieldValue value = .success value)
    {value : Json}
    (h : field.2.fieldValue (Json.memberOrNull members field.1) = .success value) :
    let output := Json.ofPairs (fields.filterMap (outputMember? members))
    field.2.fieldValue (Json.memberOrNull output field.1) = .success value ∧
      outputMember? output field = outputMember? members field := by
  intro output
  have hlookup : output.lookup field.1 = _ := lookup_output distinct hfield h
  rw [outputMember?_of_fieldValue h]
  cases hmember : fieldMember field.1 (members.lookup field.1) value with
  | some member =>
    -- the member is in the output, so the second parse sees the value itself
    obtain rfl := fieldMember_eq_some hmember
    rw [hmember] at hlookup
    have hvalue : field.2.fieldValue (Json.memberOrNull output field.1) = .success value := by
      rw [Json.memberOrNull, hlookup]
      exact again _ _ h
    refine ⟨hvalue, ?_⟩
    rw [outputMember?_of_fieldValue hvalue, hlookup]
    rfl
  | none =>
    -- the member was absent and its value null, and both parses see the absent member
    obtain ⟨hgiven, rfl⟩ := fieldMember_eq_none.1 hmember
    rw [hmember] at hlookup
    have hvalue : field.2.fieldValue (Json.memberOrNull output field.1) = .success .null := by
      rw [← h, Json.memberOrNull, Json.memberOrNull, hlookup, hgiven]
      rfl
    refine ⟨hvalue, ?_⟩
    rw [outputMember?_of_fieldValue hvalue, hlookup]
    rfl

theorem parse_object_again {fields : List (String × Rule)} {strict : Bool} {input : Json}
    {output : Output} (distinct : (fields.map Prod.fst).Nodup)
    (again : ∀ field ∈ fields, ∀ input value, field.2.fieldValue input = .success value →
      field.2.fieldValue value = .success value)
    (h : (object fields strict).parse input = .success output) :
    ∃ members, output = .object members ∧
      (object fields strict).parse (.object members) = .success output := by
  obtain ⟨given, rfl, rfl, haccept, -⟩ := parse_object_eq_success.1 h
  refine ⟨_, rfl, parse_object_eq_success.2 ⟨_, rfl, ?_, ?_, fun _ => unrecognized_output⟩⟩
  · congr 2
    refine List.filterMap_congr fun field hfield => ?_
    obtain ⟨value, hvalue⟩ := haccept field hfield
    exact (outputMember?_again distinct hfield (again field hfield) hvalue).2.symm
  · intro field hfield
    obtain ⟨value, hvalue⟩ := haccept field hfield
    exact ⟨value, (outputMember?_again distinct hfield (again field hfield) hvalue).1⟩

/-! ### All rules -/

/-- Items that are accepted again one by one are accepted again together. -/
theorem items_again {item : Rule} {items values : List Json} {outputs : List Output}
    (again : ∀ x output value, item.parse x = .success output → output.toJson = .ok value →
      item.parse value = .success output)
    (hall : List.Forall₂ (fun x output => item.parse x = .success output) items outputs)
    (hvalues : List.Forall₂ (fun output value => output.toJson = .ok value) outputs values) :
    List.Forall₂ (fun value output => item.parse value = .success output) values outputs := by
  induction hall generalizing values with
  | nil => cases hvalues; exact .nil
  | cons hx _ ih =>
    cases hvalues with
    | cons hvalue hrest => exact .cons (again _ _ _ hx hvalue) (ih hrest)

/-- The second parse accepts the written output and makes it again; the written output is null
only for an input that is null. -/
theorem parse_toJson {rule : Rule} (revalidates : rule.Everywhere Revalidates) {input value : Json}
    {output : Output} (h : rule.parse input = .success output)
    (written : output.toJson = .ok value) :
    rule.parse value = .success output ∧ (value = .null → input = .null) := by
  induction rule generalizing input output value with
  | string rule =>
    obtain ⟨raw, rfl, rfl, hissues⟩ := parse_string_eq_success.1 h
    cases written
    refine ⟨parse_string_eq_success.2 ⟨_, rfl, ?_, ?_⟩, nofun⟩
    · rw [revalidates.here raw]
    · rwa [revalidates.here raw]
  | number rule =>
    obtain ⟨n, rfl, rfl, hissues⟩ := parse_number_eq_success.1 h
    have hfinite := n.isFinite_toDouble
    cases written
    rw [Json.ofDouble, dif_pos hfinite]
    exact ⟨parse_number_eq_success.2 ⟨.real n.toDouble hfinite, rfl, rfl, hissues⟩, nofun⟩
  | integer rule =>
    obtain ⟨n, k, rfl, -, rfl, hissues⟩ := parse_integer_eq_success.1 h
    cases written
    exact ⟨parse_integer_eq_success.2 ⟨_, k, rfl, Number.toInt64_toInt k, rfl, hissues⟩, nofun⟩
  | boolean =>
    obtain ⟨b, rfl, rfl⟩ := parse_boolean_eq_success.1 h
    cases written
    exact ⟨rfl, nofun⟩
  | array item bounds ih =>
    obtain ⟨items, outputs, rfl, rfl, hlength, hall⟩ := parse_array_eq_success.1 h
    obtain ⟨values, rfl, hvalues⟩ := Output.array_toJson_eq_ok.1 written
    refine ⟨parse_array_eq_success.2 ⟨values, outputs, rfl, rfl, ?_, ?_⟩, nofun⟩
    · rwa [← hvalues.length_eq, ← hall.length_eq]
    · exact items_again (fun _ _ _ hx hvalue => (ih revalidates.2 hx hvalue).1) hall hvalues
  | object fields strict ih =>
    obtain ⟨hdistinct, hfields⟩ := everywhere_object.1 revalidates
    have again : ∀ field ∈ fields, ∀ input value, field.2.fieldValue input = .success value →
        field.2.fieldValue value = .success value := by
      intro field hfield input value hvalue
      obtain ⟨inner, hinner, hwritten⟩ := fieldValue_eq_success.1 hvalue
      exact fieldValue_eq_success.2
        ⟨inner, (ih field hfield (hfields field hfield) hinner hwritten).1, hwritten⟩
    obtain ⟨members, rfl, hagain⟩ := parse_object_again hdistinct again h
    cases written
    exact ⟨hagain, nofun⟩
  | typed name read => exact revalidates.elim
  | ensure rule holds message ih =>
    obtain ⟨hrule, hholds⟩ := parse_ensure_eq_success.1 h
    obtain ⟨hagain, hnull⟩ := ih revalidates.2 hrule written
    exact ⟨parse_ensure_eq_success.2 ⟨hagain, hholds⟩, hnull⟩
  | transform rule f ih => exact revalidates.1.elim
  | optional rule ih =>
    obtain ⟨rfl, rfl⟩ | ⟨hinput, inner, hinner, rfl⟩ := parse_optional_eq_success.1 h
    · cases written
      exact ⟨h, fun _ => rfl⟩
    · obtain ⟨hagain, hnull⟩ := ih revalidates.2 hinner written
      exact ⟨parse_optional_eq_success.2
        (.inr ⟨fun hvalue => hinput (hnull hvalue), inner, hagain, rfl⟩), hnull⟩
  | brand tag rule ih =>
    obtain ⟨inner, hinner, rfl⟩ := parse_brand_eq_success.1 h
    obtain ⟨hagain, hnull⟩ := ih revalidates.2 hinner written
    exact ⟨parse_brand_eq_success.2 ⟨inner, hagain, rfl⟩, hnull⟩
  | shared rule ih => exact ih revalidates.2 h written
  | custom rule => exact revalidates.elim

/-- **An accepted value is accepted again, unchanged.** Its JSON value is parsed by the same rule
to the same output. A refinement over the rule makes it again out of that value, out of the
value itself, and out of its JSON text if the text is read back as the value. -/
theorem accepted_again {rule : Rule} (revalidates : rule.Everywhere Revalidates) {input : Json}
    {output : Output} (h : rule.parse input = .success output) :
    ∃ value, output.toJson = .ok value ∧ rule.parse value = .success output ∧
      output.text = .ok value.text ∧
      ∀ (ε : Type) (r : Refinement ε), r.rule = rule →
        r.create value = .success ⟨r.tag, output⟩ ∧ r.recreate output = .success ⟨r.tag, output⟩ ∧
          ∀ rest, Json.readFirst? value.text = some (value, rest) →
            r.createFromText value.text = some (.success ⟨r.tag, output⟩) := by
  obtain ⟨value, hvalue⟩ := exists_toJson (revalidates.imp fun _ => Revalidates.unmapped) h
  have hagain := (parse_toJson revalidates h hvalue).1
  refine ⟨value, hvalue, hagain, Output.text_of_toJson hvalue, fun ε r hr => ?_⟩
  have hcreate : r.create value = .success ⟨r.tag, output⟩ := by
    rw [Refinement.create, hr, hagain]
    rfl
  refine ⟨hcreate, ?_, fun rest hread => ?_⟩
  · rw [Refinement.recreate, hvalue]
    exact hcreate
  · rw [Refinement.createFromText, hread]
    exact congrArg some hcreate

/-- A strict rule for a person: a name without blanks around it, an age that may be missing, and
up to three scores. -/
def person : Rule :=
  object
    [("age", optional (number ⟨[.gte (.zero false)]⟩)),
     ("name", ensure (string ⟨[.trim], [.nonEmpty]⟩) (fun _ => true) ""),
     ("nick", optional (string .any)),
     ("scores", array (brand ⟨"Score"⟩ (integer .any)) ⟨none, some 3⟩)] true

/-- The double seven. -/
def seven : Double := .ofInt 7

/-- A person as it is given: the age is a whole number, the name has blanks around it, the
nickname is missing, and the only score is written as a double. -/
def givenPerson : Json :=
  .object
    [("age", .number (.whole 7 rfl)), ("name", .string " ada "),
     ("scores", .array [.number (.real seven (Double.isFinite_ofInt rfl))])]

/-- The same person as the rule makes it. -/
def madePerson : List (String × Json) :=
  [("age", .number (.real seven (Double.isFinite_ofInt rfl))), ("name", .string "ada"),
   ("scores", .array [.number (.whole 7 rfl)])]

/-- The person made is made again out of its JSON value and out of its JSON text. -/
theorem accepted_again_person :
    person.Everywhere Revalidates ∧ person.parse givenPerson = .success (.object madePerson) ∧
      person.parse (.object madePerson) = .success (.object madePerson) ∧
      (Refinement.ofRule ⟨"Person"⟩ person).createFromText
          "\x7b\"age\":7.0,\"name\":\"ada\",\"scores\":[7]\x7d" =
        some (.success ⟨⟨"Person"⟩, .object madePerson⟩) := by
  have revalidates : person.Everywhere Revalidates := by
    simp only [person, Everywhere, EverywhereFields, Revalidates, true_and, and_true]
    exact ⟨by decide, StringTransform.trim_trim, fun _ => rfl⟩
  have haccept : person.parse givenPerson = .success (.object madePerson) := rfl
  obtain ⟨value, hvalue, hagain, -, hrefine⟩ := accepted_again revalidates haccept
  obtain rfl : .object madePerson = value := Except.ok.inj hvalue
  have htext : (Json.object madePerson).text =
      "\x7b\"age\":7.0,\"name\":\"ada\",\"scores\":[7]\x7d" := by decide +kernel
  have hread : Json.readFirst? "\x7b\"age\":7.0,\"name\":\"ada\",\"scores\":[7]\x7d" =
      some (.object madePerson, []) := by cbv
  obtain ⟨-, -, hfrom⟩ := hrefine _ (.ofRule ⟨"Person"⟩ person) rfl
  rw [htext] at hfrom
  exact ⟨revalidates, haccept, hagain, hfrom [] hread⟩

end Rule
end Assay
