import Assay.Proofs.Checks
import Assay.Proofs.WrittenForm

/-!
# Diagnostics are compositional

A path descends at once into a rule and into an input: through a declared field to the member
of that name, through an array rule to an item, and past every wrapper. The issues that the
whole rule reports beneath such a path are those that the rule declared there reports for the
value there. Nothing around the place adds, drops, moves or hides one of them.

* `Issue.beneath?`: an issue as seen from a place further inside;
* `Rule.at?`: the rule declared at a path, and the value that it is applied to;
* `issues_child`: the statement for one step;
* `issues_at`: the statement for a whole path.
-/

namespace Assay

/-! ### Issues beneath a place -/

namespace Issue

/-- The issue as seen from a place that it lies beneath; an issue elsewhere has no such view. -/
def beneath? (path : Path) (issue : Issue) : Option Issue :=
  (issue.path.dropPrefix? path).map fun rest => { issue with path := rest }

@[simp] theorem beneath?_nil (issue : Issue) : issue.beneath? [] = some issue := by
  simp [beneath?]

theorem beneath?_cons (segment : PathSegment) (path : Path) (issue : Issue) :
    issue.beneath? (segment :: path) = (issue.beneath? [segment]).bind (beneath? path) := by
  obtain ⟨code, message, steps⟩ := issue
  cases steps with
  | nil => rfl
  | cons first rest =>
    by_cases h : first = segment <;> simp [beneath?, List.dropPrefix?, h]

theorem beneath?_under (inner outer : PathSegment) (issue : Issue) :
    (issue.under inner).beneath? [outer] = if inner = outer then some issue else none := by
  by_cases h : inner = outer <;> simp [beneath?, under, List.dropPrefix?, h]

theorem filterMap_beneath?_under (inner outer : PathSegment) (issues : List Issue) :
    (issues.map (under inner)).filterMap (beneath? [outer]) =
      if inner = outer then issues else [] := by
  rw [List.filterMap_map]
  by_cases h : inner = outer <;> simp [beneath?_under, h]

/-- Issues at the root lie beneath no step. -/
theorem filterMap_beneath?_root {issues : List Issue} (h : ∀ issue ∈ issues, issue.path = [])
    (segment : PathSegment) : issues.filterMap (beneath? [segment]) = [] := by
  refine List.filterMap_eq_nil_iff.2 fun issue hissue => ?_
  simp [beneath?, h issue hissue, List.dropPrefix?]

end Issue

theorem ItemBounds.path_of_mem_issues {bounds : ItemBounds} {length : Nat} {issue : Issue}
    (h : issue ∈ bounds.issues length) : issue.path = [] := by
  obtain ⟨_, -, -, rfl⟩ | ⟨_, -, -, rfl⟩ := mem_issues.1 h
  · rfl
  · rfl

namespace Rule

theorem path_of_mem_unrecognized {fields : List (String × Rule)} {members : List (String × Json)}
    {issue : Issue} (h : issue ∈ unrecognized fields members) : issue.path = [] := by
  obtain ⟨key, -, rfl⟩ := List.mem_map.1 h
  rfl

/-! ### Descending into a rule and an input -/

/-- The rule and the value one step further inside; wrappers are passed. -/
def child? : Rule → Json → PathSegment → Option (Rule × Json)
  | array item _, .array items, .index i => items[i]?.map fun x => (item, x)
  | object fields _, .object members, .key name =>
    (fields.lookup name).map fun rule => (rule, Json.memberOrNull members name)
  | ensure rule _ _, input, segment => rule.child? input segment
  | transform rule _, input, segment => rule.child? input segment
  | optional rule, input, segment => rule.child? input segment
  | brand _ rule, input, segment => rule.child? input segment
  | shared rule, input, segment => rule.child? input segment
  | _, _, _ => none
termination_by structural rule => rule

/-- The rule declared at a path, with its wrappers, and the value there. -/
def at? : Rule → Json → Path → Option (Rule × Json)
  | rule, input, [] => some (rule, input)
  | rule, input, segment :: rest =>
    (rule.child? input segment).bind fun (part, value) => part.at? value rest

/-- Whether every output of a field that the input reaches has a written form. -/
def FieldsWritten (rule : Rule) (input : Json) : Prop :=
  ∀ path name part value, rule.at? input (path ++ [.key name]) = some (part, value) →
    ∀ output, part.parse value = .success output → ∃ written, output.toJson = .ok written

/-- Null has no inside, whatever the rule. -/
theorem child?_null (rule : Rule) (segment : PathSegment) : rule.child? .null segment = none := by
  induction rule with
  | ensure rule _ _ ih | transform rule _ ih | optional rule ih | brand _ rule ih
  | shared rule ih => exact ih
  | _ => rfl

theorem child?_array_eq_some {item part : Rule} {bounds : ItemBounds} {input value : Json}
    {segment : PathSegment} :
    (array item bounds).child? input segment = some (part, value) ↔
      ∃ items i, input = .array items ∧ segment = .index i ∧ items[i]? = some value ∧
        item = part := by
  cases input <;> cases segment <;> simp [child?]

theorem child?_object_eq_some {fields : List (String × Rule)} {strict : Bool} {part : Rule}
    {input value : Json} {segment : PathSegment} :
    (object fields strict).child? input segment = some (part, value) ↔
      ∃ members name, input = .object members ∧ segment = .key name ∧
        fields.lookup name = some part ∧ Json.memberOrNull members name = value := by
  cases input <;> cases segment <;> simp [child?]

theorem Everywhere.child {p : Rule → Prop} {rule part : Rule} {input value : Json}
    {segment : PathSegment} (h : rule.Everywhere p)
    (declared : rule.child? input segment = some (part, value)) : part.Everywhere p := by
  induction rule with
  | array item bounds ih =>
    obtain ⟨items, i, -, -, -, rfl⟩ := child?_array_eq_some.1 declared
    exact h.2
  | object fields strict ih =>
    obtain ⟨members, name, -, -, hname, -⟩ := child?_object_eq_some.1 declared
    exact (everywhere_object.1 h).2 _ (Json.mem_of_lookup_eq_some hname)
  | ensure rule _ _ ih | transform rule _ ih | optional rule ih | brand _ rule ih
  | shared rule ih => exact ih h.2 declared
  | _ => cases declared

/-! ### One step -/

/-- Of blocks with distinct keys, the one with a given key. -/
theorem flatMap_ite_key {l : List α} [DecidableEq κ] (key : α → κ) (g : α → List β)
    (distinct : (l.map key).Nodup) {a : α} (ha : a ∈ l) :
    (l.flatMap fun x => if key x = key a then g x else []) = g a := by
  induction l with
  | nil => cases ha
  | cons x l ih =>
    obtain ⟨hx, hl⟩ := List.nodup_cons.1 distinct
    rw [List.flatMap_cons]
    rcases List.mem_cons.1 ha with rfl | ha
    · have hrest : ∀ y ∈ l, (if key y = key a then g y else []) = [] := by
        intro y hy
        refine if_neg fun h => hx ?_
        rw [← h]
        exact List.mem_map_of_mem hy
      rw [if_pos rfl, List.flatMap_eq_nil_iff.2 hrest, List.append_nil]
    · have hne : key x ≠ key a := fun h => hx (h ▸ List.mem_map_of_mem ha)
      rw [if_neg hne, List.nil_append, ih hl ha]

/-- The issues of an item are those of the array beneath its index. -/
theorem issues_item {item : Rule} {bounds : ItemBounds} {items : List Json} {i : Nat}
    {value : Json} (h : items[i]? = some value) :
    ((array item bounds).parse (.array items)).issues.filterMap (Issue.beneath? [.index i]) =
      (item.parse value).issues := by
  rw [issues_array, List.filterMap_append, List.filterMap_flatMap,
    Issue.filterMap_beneath?_root fun _ => ItemBounds.path_of_mem_issues, List.nil_append]
  simp only [Issue.filterMap_beneath?_under, PathSegment.index.injEq]
  have hmem : (value, i) ∈ items.zipIdx := List.mk_mem_zipIdx_iff_getElem?.2 h
  exact flatMap_ite_key Prod.snd (fun x => (item.parse x.1).issues)
    (by rw [List.zipIdx_map_snd]; exact List.nodup_range') hmem

/-- The issues of a field are those of the object beneath its name. -/
theorem issues_field {fields : List (String × Rule)} {strict : Bool}
    {members : List (String × Json)} {name : String} {part : Rule}
    (distinct : (fields.map Prod.fst).Nodup) (h : fields.lookup name = some part)
    (written : ∀ output, part.parse (Json.memberOrNull members name) = .success output →
      ∃ value, output.toJson = .ok value) :
    ((object fields strict).parse (.object members)).issues.filterMap
        (Issue.beneath? [.key name]) =
      (part.parse (Json.memberOrNull members name)).issues := by
  have hothers : ∀ issue ∈ (if strict then unrecognized fields members else []),
      issue.path = [] := by
    intro issue hissue
    split_ifs at hissue
    · exact path_of_mem_unrecognized hissue
    · cases hissue
  rw [issues_object, List.filterMap_append, List.filterMap_flatMap,
    Issue.filterMap_beneath?_root hothers, List.append_nil, ← issues_fieldValue written]
  simp only [Issue.filterMap_beneath?_under, PathSegment.key.injEq]
  exact flatMap_ite_key Prod.fst
    (fun field => (field.2.fieldValue (Json.memberOrNull members field.1)).issues)
    distinct (Json.mem_of_lookup_eq_some h)

/-- The issues beneath one step are those of the rule declared there. -/
theorem issues_child {rule part : Rule} {input value : Json} {segment : PathSegment}
    (distinct : rule.Everywhere NamesDistinct)
    (declared : rule.child? input segment = some (part, value))
    (written : ∀ name, segment = .key name → ∀ output, part.parse value = .success output →
      ∃ value, output.toJson = .ok value) :
    (rule.parse input).issues.filterMap (Issue.beneath? [segment]) =
      (part.parse value).issues := by
  induction rule with
  | array item bounds ih =>
    obtain ⟨items, i, rfl, rfl, hi, rfl⟩ := child?_array_eq_some.1 declared
    exact issues_item hi
  | object fields strict ih =>
    obtain ⟨members, name, rfl, rfl, hname, rfl⟩ := child?_object_eq_some.1 declared
    exact issues_field distinct.here hname (written name rfl)
  | ensure rule holds message ih =>
    have hrule := ih distinct.2 declared
    -- the condition only speaks when the rule under it is silent, and then at the root
    cases h : rule.parse input with
    | failure d =>
      rw [h] at hrule
      simpa [parse, h, Validation.andThen] using hrule
    | success output =>
      rw [h] at hrule
      rw [← hrule]
      by_cases hholds : holds output = true
      · simp [parse, h, Validation.andThen, hholds]
      · simp [parse, h, Validation.andThen, hholds, Issue.beneath?, Issue.custom, Issue.atRoot,
          List.dropPrefix?]
  | transform rule f ih => simpa [parse] using ih distinct.2 declared
  | optional rule ih =>
    cases input with
    | null => simp [child?, child?_null] at declared
    | _ => simpa [parse] using ih distinct.2 declared
  | brand tag rule ih => simpa [parse] using ih distinct.2 declared
  | shared rule ih => exact ih distinct.2 declared
  | _ => cases declared

/-! ### A whole path -/

theorem FieldsWritten.child {rule part : Rule} {input value : Json} {segment : PathSegment}
    (written : rule.FieldsWritten input)
    (declared : rule.child? input segment = some (part, value)) : part.FieldsWritten value := by
  intro path name part' value' hat
  refine written (segment :: path) name part' value' ?_
  simpa [at?, declared] using hat

theorem Everywhere.at {p : Rule → Prop} {rule part : Rule} {input value : Json} {path : Path}
    (h : rule.Everywhere p) (declared : rule.at? input path = some (part, value)) :
    part.Everywhere p := by
  induction path generalizing rule input with
  | nil =>
    obtain ⟨rfl, -⟩ : rule = part ∧ input = value := by simpa [at?] using declared
    exact h
  | cons segment rest ih =>
    obtain ⟨⟨inner, x⟩, hchild, hrest⟩ := Option.bind_eq_some_iff.1 declared
    exact ih (h.child hchild) hrest

/-- Without mappers and custom rules every output can be written. -/
theorem FieldsWritten.of_unmapped {rule : Rule} (unmapped : rule.Everywhere Unmapped)
    (input : Json) : rule.FieldsWritten input := fun _ _ _ _ declared _ accepted =>
  exists_toJson (unmapped.at declared) accepted

/-- **Diagnostics are compositional.** The issues that a rule reports beneath a path, seen from
there, are those of the rule declared at the path for the value there, in the same order, and
there are none exactly when that rule accepts the value. -/
theorem issues_at {rule part : Rule} {input value : Json} {path : Path}
    (distinct : rule.Everywhere NamesDistinct) (written : rule.FieldsWritten input)
    (declared : rule.at? input path = some (part, value)) :
    (rule.parse input).issues.filterMap (Issue.beneath? path) = (part.parse value).issues ∧
      ((rule.parse input).issues.filterMap (Issue.beneath? path) = [] ↔
        (part.parse value).isSuccess = true) := by
  suffices h : (rule.parse input).issues.filterMap (Issue.beneath? path) =
      (part.parse value).issues by
    rw [h]
    exact ⟨rfl, Validation.issues_eq_nil⟩
  induction path generalizing rule input with
  | nil =>
    obtain ⟨rfl, rfl⟩ : rule = part ∧ input = value := by simpa [at?] using declared
    simp
  | cons segment rest ih =>
    obtain ⟨⟨inner, x⟩, hchild, hrest⟩ := Option.bind_eq_some_iff.1 declared
    have hstep := issues_child distinct hchild fun name hname => by
      subst hname
      exact written [] name inner x (by simp [at?, hchild])
    have hinner := ih (distinct.child hchild) (written.child hchild) hrest
    rw [← hinner, ← hstep, List.filterMap_filterMap]
    exact List.filterMap_congr fun issue _ => Issue.beneath?_cons segment rest issue

/-- A strict rule for a name and a short list of contacts, under a condition that always
fails. -/
def contactBook : Rule :=
  ensure (object
    [("name", string ⟨[], [.nonEmpty]⟩),
     ("contacts", array (optional (object [("mail", string ⟨[], [.minLength 3]⟩)] true))
       ⟨none, some 1⟩)] true)
    (fun _ => false) "refused"

/-- Contacts without a name, one contact too many, and members that are not declared. -/
def strayContacts : Json :=
  .object
    [("contacts", .array [.null, .object [("extra", .null), ("mail", .string "x")]]),
     ("other", .boolean true)]

/-- The mail address that is too short is reported at its place, whatever is wrong around it. -/
theorem issues_at_mail :
    contactBook.Everywhere NamesDistinct ∧ contactBook.FieldsWritten strayContacts ∧
      contactBook.at? strayContacts [.key "contacts", .index 1, .key "mail"] =
        some (string ⟨[], [.minLength 3]⟩, .string "x") ∧
      (contactBook.parse strayContacts).issues.filterMap
          (Issue.beneath? [.key "contacts", .index 1, .key "mail"]) =
        [(StringCheck.minLength 3).violation "x"] := by
  have distinct : contactBook.Everywhere NamesDistinct := by
    simp [contactBook, Everywhere, EverywhereFields, NamesDistinct]
  have written : contactBook.FieldsWritten strayContacts :=
    .of_unmapped (by simp [contactBook, Everywhere, EverywhereFields, Unmapped]) _
  have declared : contactBook.at? strayContacts [.key "contacts", .index 1, .key "mail"] =
      some (string ⟨[], [.minLength 3]⟩, .string "x") := rfl
  exact ⟨distinct, written, declared, (issues_at distinct written declared).1.trans rfl⟩

end Rule
end Assay
