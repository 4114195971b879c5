import Assay.Proofs.WrittenForm
import Assay.Rule.Functions
import Assay.Refinement

/-!
# Tags can be left out

A tag adds no check and no data, and a shared rule behaves as the rule itself. So any of these
nodes can be left out of a rule tree: the rule that is left accepts the same inputs, makes the
same outputs but for the tags, which are written in the same way, and reports the same
diagnostics. The functions of the caller in the tree see outputs with fewer tags then; they have
to agree with the old ones on what the two rules make of one input.

* `Output.toJson_unbranded`, `Output.text_unbranded`: tags are not written;
* `Rule.AgreeOn`: agreement of two functions on the outputs of two rules;
* `Rule.Erases`: the rule that is left when some tags and shared nodes are left out;
* `Erases.map_unbranded`: its outcomes are the same but for the tags;
* `parse_erased`: the statement for the rule and all refinements over it.
-/

namespace Assay

/-! ### Changing the value of an outcome -/

namespace Validation

variable {ε : Type u} {α : Type v}

theorem map_map (v : Validation ε α) (f : α → β) (g : β → γ) :
    (v.map f).map g = v.map fun a => g (f a) := by
  cases v <;> rfl

theorem map_mapError (v : Validation ε α) (f : ε → δ) (g : α → β) :
    (v.mapError f).map g = (v.map g).mapError f := by
  cases v <;> rfl

theorem andThen_map (v : Validation ε α) (f : α → β) (g : β → Validation ε γ) :
    (v.map f).andThen g = v.andThen fun a => g (f a) := by
  cases v <;> rfl

theorem map_all [Combine ε] (f : α → β) (vs : List (Validation ε α)) :
    (all vs).map (List.map f) = all (vs.map (map f)) := by
  induction vs with
  | nil => rfl
  | cons v vs ih =>
    rw [all_cons, List.map_cons, all_cons, ← ih]
    cases v <;> cases all vs <;> rfl

@[simp] theorem isSuccess_map (v : Validation ε α) (f : α → β) :
    (v.map f).isSuccess = v.isSuccess := by
  cases v <;> rfl

/-- Outcomes that are the same after a change of their values are both failures or both
successes. -/
theorem map_eq_map {v : Validation ε α} {w : Validation ε β} {f : α → γ} {g : β → γ}
    (h : v.map f = w.map g) :
    (∃ e, v = failure e ∧ w = failure e) ∨
      ∃ a b, v = success a ∧ w = success b ∧ f a = g b := by
  cases v <;> cases w <;> simp_all [map]

end Validation

/-! ### Outputs without tags -/

namespace Output

theorem unbrandedItems_eq_map (items : List Output) :
    unbrandedItems items = items.map unbranded := by
  induction items with
  | nil => rfl
  | cons item rest ih => rw [unbrandedItems, ih, List.map_cons]

theorem itemsToJson_map {f : Output → Output} {items : List Output}
    (h : ∀ item ∈ items, (f item).toJson = item.toJson) :
    itemsToJson (items.map f) = itemsToJson items := by
  induction items with
  | nil => rfl
  | cons item rest ih =>
    obtain ⟨hitem, hrest⟩ := List.forall_mem_cons.1 h
    rw [List.map_cons, itemsToJson, itemsToJson, hitem, ih hrest]

theorem itemsChars_map {f : Output → Output} {items : List Output}
    (h : ∀ item ∈ items, (f item).chars = item.chars) :
    itemsChars (items.map f) = itemsChars items := by
  induction items with
  | nil => rfl
  | cons item rest ih =>
    obtain ⟨hitem, hrest⟩ := List.forall_mem_cons.1 h
    cases rest with
    | nil => simp [itemsChars, hitem]
    | cons next more =>
      have ih := ih hrest
      simp only [List.map_cons] at ih ⊢
      conv_lhs => rw [itemsChars.eq_def]
      conv_rhs => rw [itemsChars.eq_def]
      simp only [hitem, ih]

/-- Tags are not written into the JSON value. -/
theorem toJson_unbranded (output : Output) : output.unbranded.toJson = output.toJson := by
  induction output with
  | array items ih =>
    rw [unbranded, unbrandedItems_eq_map, toJson, toJson, itemsToJson_map ih]
  | present value ih => exact ih
  | pair first second ihfirst ihsecond =>
    rw [unbranded, toJson, toJson, ihfirst, ihsecond]
  | branded tag value ih => exact ih
  | _ => rfl

/-- Tags are not written into the JSON text. -/
theorem text_unbranded (output : Output) : output.unbranded.text = output.text := by
  suffices h : output.unbranded.chars = output.chars by rw [text, text, h]
  induction output with
  | array items ih =>
    rw [unbranded, unbrandedItems_eq_map, chars, chars, itemsChars_map ih]
  | present value ih => exact ih
  | pair first second ihfirst ihsecond =>
    rw [unbranded, chars, chars, ihfirst, ihsecond]
  | branded tag value ih => exact ih
  | _ => rfl

end Output

namespace Rule

/-! ### Leaving tags out -/

/-- Whether two functions agree on what two rules make of one input, when the two outputs are
the same but for their tags. -/
def AgreeOn (rule bare : Rule) (f g : Output → α) : Prop :=
  ∀ input output plain, rule.parse input = .success output → bare.parse input = .success plain →
    output.unbranded = plain.unbranded → f output = g plain

/-- A function that does not look at tags agrees with itself. -/
theorem AgreeOn.of_blind {rule bare : Rule} {f : Output → α}
    (blind : ∀ output, f output = f output.unbranded) : rule.AgreeOn bare f f := by
  intro _ output plain _ _ h
  rw [blind output, h, ← blind plain]

/-- Whether the second rule is the first one with some tags and shared nodes left out. The
functions of the caller may be others, as long as they agree on the outputs. -/
inductive Erases : Rule → Rule → Prop where
  | same (rule : Rule) : Erases rule rule
  | array {item bare : Rule} (bounds : ItemBounds) (h : Erases item bare) :
    Erases (array item bounds) (array bare bounds)
  /-- The fields are given with both rules of each name. -/
  | object (fields : List (String × Rule × Rule)) (strict : Bool)
    (h : ∀ field ∈ fields, Erases field.2.1 field.2.2) :
    Erases (object (fields.map fun field => (field.1, field.2.1)) strict)
      (object (fields.map fun field => (field.1, field.2.2)) strict)
  | ensure {rule bare : Rule} {holds bareHolds : Output → Bool} (message : String)
    (h : Erases rule bare) (agree : rule.AgreeOn bare holds bareHolds) :
    Erases (ensure rule holds message) (ensure bare bareHolds message)
  | transform {rule bare : Rule} {f g : Output → Output} (h : Erases rule bare)
    (agree : rule.AgreeOn bare (fun output => (f output).unbranded)
      (fun output => (g output).unbranded)) :
    Erases (transform rule f) (transform bare g)
  | optional {rule bare : Rule} (h : Erases rule bare) : Erases (optional rule) (optional bare)
  | brand {rule bare : Rule} (tag : Tag) (h : Erases rule bare) :
    Erases (brand tag rule) (brand tag bare)
  | shared {rule bare : Rule} (h : Erases rule bare) : Erases (shared rule) (shared bare)
  | dropBrand {rule bare : Rule} (tag : Tag) (h : Erases rule bare) : Erases (brand tag rule) bare
  | dropShared {rule bare : Rule} (h : Erases rule bare) : Erases (shared rule) bare

/-- Outputs that are the same but for their tags make the same field. -/
theorem fieldValue_congr {rule bare : Rule} {input : Json}
    (h : (rule.parse input).map Output.unbranded = (bare.parse input).map Output.unbranded) :
    rule.fieldValue input = bare.fieldValue input := by
  have hwritten : written = fun output => written output.unbranded := by
    funext output
    rw [written, written, Output.toJson_unbranded]
  rw [fieldValue, fieldValue, hwritten, ← Validation.andThen_map, h, Validation.andThen_map]

/-- The fields of an object make the same members when their rules do. -/
theorem parseFields_erased {fields : List (String × Rule × Rule)}
    (h : ∀ field ∈ fields, ∀ input, (field.2.1.parse input).map Output.unbranded =
      (field.2.2.parse input).map Output.unbranded) (members : List (String × Json)) :
    parseFields (fields.map fun field => (field.1, field.2.1)) members =
      parseFields (fields.map fun field => (field.1, field.2.2)) members := by
  rw [parseFields_eq_map, parseFields_eq_map, List.map_map, List.map_map]
  refine List.map_congr_left fun field hfield => ?_
  simp only [Function.comp_apply, fieldValue_congr (h field hfield _)]

/-- The tags of the items are the tags of the array. -/
theorem map_unbranded_array (item : Rule) (bounds : ItemBounds) (items : List Json) :
    ((array item bounds).parse (.array items)).map Output.unbranded =
      ((checked (bounds.issues items.length)).both (Validation.all (items.mapIdx fun i x =>
        ((item.parse x).map Output.unbranded).mapError (·.under (.index i))))).map
          fun (_, outputs) => .array outputs := by
  have helements : (items.mapIdx fun i x =>
        ((item.parse x).map Output.unbranded).mapError (·.under (.index i))) =
      (items.mapIdx fun i x => (item.parse x).mapError (·.under (.index i))).map
        (Validation.map Output.unbranded) := by
    simp [List.mapIdx_eq_zipIdx_map, Validation.map_mapError, Function.comp_def]
  rw [parse, helements, ← Validation.map_all]
  cases checked (bounds.issues items.length) <;>
    cases Validation.all (items.mapIdx fun i x =>
      (item.parse x).mapError (·.under (.index i))) <;>
    simp [Validation.both, Validation.map, Output.unbranded, Output.unbrandedItems_eq_map]

/-- The outcomes of a rule and of the rule without some tags are the same but for the tags. -/
theorem Erases.map_unbranded {rule bare : Rule} (h : rule.Erases bare) (input : Json) :
    (rule.parse input).map Output.unbranded = (bare.parse input).map Output.unbranded := by
  induction h generalizing input with
  | same rule => rfl
  | array bounds h ih =>
    cases input with
    | array items => simp only [map_unbranded_array, ih]
    | _ => rfl
  | object fields strict h ih =>
    cases input with
    | object members =>
      rw [parse, parse, parseFields_erased ih]
      simp [unrecognized, Function.comp_def]
    | _ => rfl
  | @ensure rule bare holds bareHolds message h agree ih =>
    rw [parse, parse]
    -- the conditions are only known to agree on what the two rules make of the same input
    obtain ⟨d, hrule, hbare⟩ | ⟨output, plain, hrule, hbare, hsame⟩ :=
      Validation.map_eq_map (ih input)
    · rw [hrule, hbare]
      rfl
    · rw [hrule, hbare]
      simp only [Validation.andThen, agree input output plain hrule hbare hsame]
      split_ifs
      · simp only [Validation.map, hsame]
      · rfl
  | @transform rule bare f g h agree ih =>
    rw [parse, parse]
    obtain ⟨d, hrule, hbare⟩ | ⟨output, plain, hrule, hbare, hsame⟩ :=
      Validation.map_eq_map (ih input)
    · rw [hrule, hbare]
      rfl
    · rw [hrule, hbare]
      simp only [Validation.map, agree input output plain hrule hbare hsame]
  | optional h ih =>
    by_cases hnull : input = .null
    · rw [hnull]
      rfl
    · rw [parse_optional_of_ne_null hnull, parse_optional_of_ne_null hnull, Validation.map_map,
        Validation.map_map]
      simp only [Output.unbranded]
      rw [← Validation.map_map, ih, Validation.map_map]
  | brand tag h ih =>
    rw [parse, parse, Validation.map_map, Validation.map_map]
    exact ih input
  | shared h ih => exact ih input
  | dropBrand tag h ih =>
    rw [parse, Validation.map_map]
    exact ih input
  | dropShared h ih => exact ih input

/-- **Tags are transparent.** A rule and the rule that is left when some tags and shared nodes are
left out accept the same inputs, with outputs that are the same but for the tags and are written
in the same way, and report the same diagnostics. So every refinement over the rule accepts what
the other rule accepts, makes the same value of it, and makes its error of the input as it was
given and of the diagnostics of the other rule, whose report is the message of the error that is
not chosen. -/
theorem parse_erased {rule bare : Rule} (h : rule.Erases bare) (input : Json) :
    (rule.parse input).map Output.unbranded = (bare.parse input).map Output.unbranded ∧
      (rule.parse input).map Output.toJson = (bare.parse input).map Output.toJson ∧
      (rule.parse input).map Output.text = (bare.parse input).map Output.text ∧
      (∀ (ε : Type) (r : Refinement ε), r.rule = rule →
        (r.create input).map (fun made => made.value.unbranded) =
            ((bare.parse input).map Output.unbranded).mapError (r.onReject input) ∧
          r.isValid input = (bare.parse input).isSuccess) ∧
      ∀ tag, ((Refinement.ofRule tag rule).create input).error?.map RefinementError.message =
        (bare.parse input).error?.map Diagnostics.pretty := by
  have hsame := h.map_unbranded input
  have hcongr : ∀ (α : Type) (f : Output → α), (∀ output, f output.unbranded = f output) →
      (rule.parse input).map f = (bare.parse input).map f := by
    intro α f hf
    have := congrArg (Validation.map f) hsame
    simpa only [Validation.map_map, hf] using this
  refine ⟨hsame, hcongr _ _ Output.toJson_unbranded, hcongr _ _ Output.text_unbranded, ?_, ?_⟩
  · rintro ε r rfl
    constructor
    · rw [Refinement.create, Validation.map_mapError, Validation.map_map, hsame]
    · rw [Refinement.isValid, ← Validation.isSuccess_map _ Output.unbranded, hsame,
        Validation.isSuccess_map]
  · intro tag
    obtain ⟨d, hrule, hbare⟩ | ⟨_, _, hrule, hbare, -⟩ := Validation.map_eq_map hsame
    · simp [Refinement.create, Refinement.ofRule, hrule, hbare, Validation.map,
        Validation.mapError, Validation.error?, RefinementError.message]
    · simp [Refinement.create, Refinement.ofRule, hrule, hbare, Validation.map,
        Validation.mapError, Validation.error?]

/-- A rule for an account with tags at the root, under a condition, in a field and around the
items of an array that is passed through a function. -/
def account : Rule :=
  brand ⟨"Account"⟩ (object
    [("mail", brand ⟨"Email"⟩ (ensure (shared (brand ⟨"Text"⟩ (string ⟨[.trim], [.email]⟩)))
       Predicate.ascii.holds "ASCII only")),
     ("ids", transform (array (optional (brand ⟨"Id"⟩ (integer .any))) ⟨none, some 2⟩)
       Mapper.wrap.apply)] true)

/-- The same rule with the tag of its mail address alone. -/
def bareAccount : Rule :=
  object
    [("mail", brand ⟨"Email"⟩ (ensure (string ⟨[.trim], [.email]⟩) Predicate.ascii.holds
       "ASCII only")),
     ("ids", transform (array (optional (integer .any)) ⟨none, some 2⟩) Mapper.wrap.apply)] true

theorem account_erases : account.Erases bareAccount := by
  have ascii : ∀ output, Predicate.ascii.holds output =
      Predicate.ascii.holds output.unbranded := by
    intro output
    induction output with
    | branded tag value ih => exact ih
    | _ => rfl
  refine .dropBrand _ (.object
    [("mail", brand ⟨"Email"⟩ (ensure (shared (brand ⟨"Text"⟩ (string ⟨[.trim], [.email]⟩)))
        Predicate.ascii.holds "ASCII only"),
      brand ⟨"Email"⟩ (ensure (string ⟨[.trim], [.email]⟩) Predicate.ascii.holds "ASCII only")),
     ("ids", transform (array (optional (brand ⟨"Id"⟩ (integer .any))) ⟨none, some 2⟩)
        Mapper.wrap.apply,
      transform (array (optional (integer .any)) ⟨none, some 2⟩) Mapper.wrap.apply)] true ?_)
  simp only [List.forall_mem_cons, List.not_mem_nil, false_imp_iff, implies_true, and_true]
  refine ⟨.brand _ (.ensure _ (.dropShared (.dropBrand _ (.same _))) (.of_blind ascii)), ?_⟩
  refine .transform (.array _ (.optional (.dropBrand _ (.same _)))) fun _ _ _ _ _ h => ?_
  simp [Mapper.apply, Output.unbranded, Output.unbrandedItems, h]

/-- An account whose mail address has blanks around it. -/
def givenAccount : Json :=
  .object [("ids", .array [.null, .number (.whole 12 rfl)]), ("mail", .string " a@dev.com ")]

/-- The rule without tags makes of the account what is under the tag of the whole. -/
theorem parse_bareAccount :
    account.Erases bareAccount ∧
      account.parse givenAccount = .success (.branded ⟨"Account"⟩ (.object
        [("ids", .array [.array [.null, .number (.whole 12 rfl)]]),
         ("mail", .string "a@dev.com")])) ∧
      (bareAccount.parse givenAccount).map Output.unbranded = .success (.object
        [("ids", .array [.array [.null, .number (.whole 12 rfl)]]),
         ("mail", .string "a@dev.com")]) := by
  have haccept : account.parse givenAccount = .success (.branded ⟨"Account"⟩ (.object
      [("ids", .array [.array [.null, .number (.whole 12 rfl)]]),
       ("mail", .string "a@dev.com")])) := by
    rfl
  refine ⟨account_erases, haccept, ?_⟩
  rw [← (parse_erased account_erases givenAccount).1, haccept]
  rfl

end Rule
end Assay
