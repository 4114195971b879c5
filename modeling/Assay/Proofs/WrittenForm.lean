import Assay.Json.Writer
import Assay.Proofs.Acceptance

/-!
# Written forms of outputs

An output has a JSON value, unless it holds something that cannot be written, and a JSON text.

* `chars_of_toJson`: the text of an output is the text of its JSON value;
* `exists_toJson`: what a rule without mappers and custom rules makes can be written, when the
  readers of its types make values that can be written.
-/

namespace Assay
namespace Output

/-- What holds of the simple outputs and passes from the parts of an output to the output
holds of every output. -/
@[elab_as_elim, induction_eliminator]
theorem treeInduction {motive : Output → Prop}
    (string : ∀ s, motive (.string s))
    (number : ∀ x, motive (.number x))
    (integer : ∀ n, motive (.integer n))
    (wide : ∀ n, motive (.wide n))
    (boolean : ∀ b, motive (.boolean b))
    (object : ∀ members, motive (.object members))
    (array : ∀ items, (∀ item ∈ items, motive item) → motive (.array items))
    (absent : motive .absent)
    (present : ∀ value, motive value → motive (.present value))
    (pair : ∀ first second, motive first → motive second → motive (.pair first second))
    (json : ∀ value, motive (.json value))
    (branded : ∀ tag value, motive value → motive (.branded tag value))
    (unwritable : ∀ report reason, motive (.unwritable report reason))
    (output : Output) : motive output := by
  refine @Output.rec motive (fun items => ∀ item ∈ items, motive item) string number integer
    wide boolean object array absent present pair json branded unwritable ?_ ?_ output
  · intro item h
    cases h
  · intro item items hitem hitems other hother
    rcases List.mem_cons.1 hother with rfl | h
    · exact hitem
    · exact hitems other h

/-! ### Lists of outputs -/

theorem itemsToJson_eq_ok {items : List Output} {values : List Json} :
    itemsToJson items = .ok values ↔
      List.Forall₂ (fun item value => item.toJson = .ok value) items values := by
  induction items generalizing values with
  | nil => cases values <;> simp [itemsToJson]
  | cons item rest ih =>
    unfold itemsToJson
    cases hitem : item.toJson with
    | error e => cases values <;> simp [hitem]
    | ok value =>
      cases hrest : itemsToJson rest with
      | error e => cases values <;> simp [hitem, ← ih, hrest]
      | ok written => cases values <;> simp [hitem, ← ih, hrest]

theorem array_toJson_eq_ok {items : List Output} {value : Json} :
    (array items).toJson = .ok value ↔ ∃ values, value = .array values ∧
      List.Forall₂ (fun item value => item.toJson = .ok value) items values := by
  simp only [toJson, ← itemsToJson_eq_ok]
  cases itemsToJson items <;> simp [Except.map, eq_comm]

/-! ### Text -/

theorem itemsChars_of_itemsToJson {items : List Output} {values : List Json}
    (hitems : ∀ item ∈ items, ∀ value, item.toJson = .ok value → item.chars = .ok value.chars)
    (h : List.Forall₂ (fun item value => item.toJson = .ok value) items values) :
    itemsChars items = .ok (Json.itemsChars values) := by
  induction h with
  | nil => rfl
  | @cons item value rest values hvalue hrest ih =>
    obtain ⟨hitem, hothers⟩ := List.forall_mem_cons.1 hitems
    have hchars := hitem value hvalue
    cases hrest with
    | nil => simp [itemsChars, Json.itemsChars, hchars, Except.map]
    | cons hnext hmore => simp [itemsChars, Json.itemsChars, hchars, ih hothers]

/-- The text of an output is the text of its JSON value. -/
theorem chars_of_toJson {output : Output} {value : Json} (h : output.toJson = .ok value) :
    output.chars = .ok value.chars := by
  induction output generalizing value with
  | wide n =>
    unfold toJson Json.ofInt? at h
    split_ifs at h with hn
    cases h
    rfl
  | array items ih =>
    obtain ⟨values, rfl, hvalues⟩ := array_toJson_eq_ok.1 h
    simp [chars, Json.chars, itemsChars_of_itemsToJson (fun item hitem _ => ih item hitem) hvalues,
      Except.map]
  | present value ih => exact ih h
  | branded tag value ih => exact ih h
  | pair first second ihfirst ihsecond =>
    unfold toJson at h
    cases h1 : first.toJson with
    | error e => simp [h1] at h
    | ok a =>
      cases h2 : second.toJson with
      | error e => simp [h1, h2] at h
      | ok b =>
        simp only [h1, h2, Except.ok.injEq] at h
        subst h
        simp [chars, Json.chars, Json.itemsChars, ihfirst h1, ihsecond h2]
  | unwritable report reason => cases h
  | _ => cases h; rfl

theorem text_of_toJson {output : Output} {value : Json} (h : output.toJson = .ok value) :
    output.text = .ok value.text := by
  rw [text, chars_of_toJson h]
  rfl

end Output

namespace Rule

/-- Whether the outputs of the rule are its own: it is neither passed through a function of the
caller nor made by one, and a reader makes values that can be written. -/
def Unmapped : Rule → Prop
  | typed _ read => ∀ input output, read input = .ok output → ∃ value, output.toJson = .ok value
  | transform _ _ | custom _ => False
  | _ => True

/-- What a rule without mappers and custom rules makes can be written. -/
theorem exists_toJson {rule : Rule} (unmapped : rule.Everywhere Unmapped) {input : Json}
    {output : Output} (h : rule.parse input = .success output) :
    ∃ value, output.toJson = .ok value := by
  induction rule generalizing input output with
  | string rule =>
    obtain ⟨_, -, rfl, -⟩ := parse_string_eq_success.1 h
    exact ⟨_, rfl⟩
  | number rule =>
    obtain ⟨_, -, rfl, -⟩ := parse_number_eq_success.1 h
    exact ⟨_, rfl⟩
  | integer rule =>
    obtain ⟨_, _, -, -, rfl, -⟩ := parse_integer_eq_success.1 h
    exact ⟨_, rfl⟩
  | boolean =>
    obtain ⟨_, -, rfl⟩ := parse_boolean_eq_success.1 h
    exact ⟨_, rfl⟩
  | array item bounds ih =>
    obtain ⟨items, outputs, -, rfl, -, hall⟩ := parse_array_eq_success.1 h
    have hwritten : ∀ output ∈ outputs, ∃ value, output.toJson = .ok value := by
      clear h
      induction hall with
      | nil => simp
      | cons houtput _ ihall =>
        exact List.forall_mem_cons.2 ⟨ih unmapped.2 houtput, ihall⟩
    obtain ⟨values, hvalues⟩ := exists_forall₂_iff.2 hwritten
    exact ⟨.array values, Output.array_toJson_eq_ok.2 ⟨values, rfl, hvalues⟩⟩
  | object fields strict ih =>
    obtain ⟨members, -, rfl, -⟩ := parse_object_eq_success.1 h
    exact ⟨_, rfl⟩
  | typed name read => exact unmapped input output (parse_typed_eq_success.1 h)
  | ensure rule holds message ih => exact ih unmapped.2 (parse_ensure_eq_success.1 h).1
  | transform rule f ih => exact unmapped.1.elim
  | optional rule ih =>
    obtain ⟨-, rfl⟩ | ⟨-, inner, hinner, rfl⟩ := parse_optional_eq_success.1 h
    · exact ⟨.null, rfl⟩
    · obtain ⟨value, hvalue⟩ := ih unmapped.2 hinner
      exact ⟨value, hvalue⟩
  | brand tag rule ih =>
    obtain ⟨inner, hinner, rfl⟩ := parse_brand_eq_success.1 h
    obtain ⟨value, hvalue⟩ := ih unmapped.2 hinner
    exact ⟨value, hvalue⟩
  | shared rule ih => exact ih unmapped.2 h
  | custom rule => exact unmapped.elim

end Rule
end Assay
