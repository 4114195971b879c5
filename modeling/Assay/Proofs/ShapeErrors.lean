import Assay.Rule.Shapes
import Assay.Proofs.Lines

/-!
# Errors of shapes

An error of a shape tells what was expected in texts of the shape and what was found in words of
its own. Data is quoted there, with one exception: the name of a member or of a variant that the
shape does not know is passed as it stands.

* `ShapeError.Plain`: whether the texts of the shape in an error are on one line;
* `ShapeError.oneLine_message`: such an error is on one line unless it passes a name that is not;
* `Shape.treeInduction`: induction on shapes;
* `Shape.plainErrors_read`: a shape with texts on one line has plain errors only;
* `Shape.exists_unknownName`: a text of its reader breaks at the name of an input, or nowhere.
-/

namespace Assay

theorem Found.oneLine_text (found : Found) : OneLine found.text := by
  cases found with
  | boolean b => cases b <;> decide
  | integer n => exact oneLine_between (by decide) (oneLine_repr_int n) (by decide)
  | double x => exact oneLine_between (by decide) (NumberStyle.wire.oneLine_text x) (by decide)
  | string s => exact oneLine_append.2 ⟨by decide, oneLine_quote s⟩
  | _ => decide

namespace ShapeError

/-! ### Messages -/

/-- The name that an error passes as it stands: the member or the variant that is not known. -/
def unknownName? : ShapeError → Option String
  | unknownField name _ | unknownVariant name _ => some name
  | _ => none

/-- Whether the texts in an error that belong to the shape are on one line. -/
def Plain : ShapeError → Prop
  | invalidType _ expected | invalidValue _ expected | invalidLength _ expected =>
    OneLine expected
  | missingField name => OneLine name
  | unknownField _ known | unknownVariant _ known => ∀ name ∈ known, OneLine name

theorem oneLine_choice {nothing : String} {names : List String} (hnothing : OneLine nothing)
    (hnames : ∀ name ∈ names, OneLine name) : OneLine (choice nothing names) := by
  have hwords : OneLine "expected `" ∧ OneLine "`" ∧ OneLine "` or `" := by decide
  unfold choice
  split
  · exact hnothing
  · simpa [hwords] using hnames
  · simpa [hwords] using hnames
  · refine oneLine_append.2 ⟨by decide, oneLine_intercalate (by decide) ?_⟩
    simpa [hwords] using hnames

/-- The message of a plain error is on one line when the name that it passes is. -/
theorem oneLine_message {e : ShapeError} (h : e.Plain)
    (hunknown : ∀ name, e.unknownName? = some name → OneLine name) : OneLine e.message := by
  -- `change` writes the message out, which its equations do only slowly
  cases e with
  | unknownField name known =>
    have hwords : OneLine "unknown field `" ∧ OneLine "`, " := by decide
    have hknown : OneLine (choice "there are no fields" known) := oneLine_choice (by decide) h
    change OneLine ("unknown field `" ++ name ++ "`, " ++ choice "there are no fields" known)
    simp [hwords, hunknown name rfl, hknown]
  | unknownVariant name known =>
    have hwords : OneLine "unknown variant `" ∧ OneLine "`, " := by decide
    have hknown : OneLine (choice "there are no variants" known) := oneLine_choice (by decide) h
    change OneLine ("unknown variant `" ++ name ++ "`, " ++ choice "there are no variants" known)
    simp [hwords, hunknown name rfl, hknown]
  | invalidType found expected =>
    have hwords : OneLine "invalid type: " ∧ OneLine ", expected " := by decide
    have hexpected : OneLine expected := h
    change OneLine s!"invalid type: {found.text}, expected {expected}"
    simp [hwords, found.oneLine_text, hexpected]
  | invalidValue found expected =>
    have hwords : OneLine "invalid value: " ∧ OneLine ", expected " := by decide
    have hexpected : OneLine expected := h
    change OneLine s!"invalid value: {found.text}, expected {expected}"
    simp [hwords, found.oneLine_text, hexpected]
  | invalidLength length expected =>
    have hwords : OneLine "invalid length " ∧ OneLine ", expected " := by decide
    have hexpected : OneLine expected := h
    change OneLine s!"invalid length {length}, expected {expected}"
    simp [hwords, hexpected]
  | missingField name =>
    exact oneLine_between (by decide) (h : OneLine name) (by decide)

/-- The name that an error passes is on one line when the message is. -/
theorem oneLine_unknownName {e : ShapeError} {name : String} (h : e.unknownName? = some name)
    (hmessage : OneLine e.message) : OneLine name := by
  cases e with
  | unknownField unknown known =>
    obtain rfl := Option.some.inj h
    change OneLine ("unknown field `" ++ unknown ++ "`, " ++
      choice "there are no fields" known) at hmessage
    simp only [oneLine_append] at hmessage
    exact hmessage.1.1.2
  | unknownVariant unknown known =>
    obtain rfl := Option.some.inj h
    change OneLine ("unknown variant `" ++ unknown ++ "`, " ++
      choice "there are no variants" known) at hmessage
    simp only [oneLine_append] at hmessage
    exact hmessage.1.1.2
  | _ => cases h

end ShapeError

/-! ### Plain steps -/

/-- Whether every error of a step is plain. -/
def PlainErrors {α : Type} (step : Except ShapeError α) : Prop :=
  ∀ e, step = .error e → e.Plain

namespace PlainErrors

variable {α β : Type}

@[simp] theorem ok (a : α) : PlainErrors (.ok a) := nofun

@[simp] theorem error_iff {e : ShapeError} :
    PlainErrors (.error e : Except ShapeError α) ↔ e.Plain := by
  simp [PlainErrors]

theorem mismatch {expected : String} (h : OneLine expected) (input : Json) :
    PlainErrors (.error (.invalidType (.ofJson input) expected) : Except ShapeError α) :=
  error_iff.2 h

theorem bind {step : Except ShapeError α} {next : α → Except ShapeError β}
    (hstep : PlainErrors step) (hnext : ∀ a, PlainErrors (next a)) :
    PlainErrors (step >>= next) := by
  cases step with
  | ok a => exact hnext a
  | error e => exact error_iff.2 (error_iff.1 hstep)

theorem map {step : Except ShapeError α} (f : α → β) (hstep : PlainErrors step) :
    PlainErrors (step.map f) := by
  cases step with
  | ok a => exact ok (f a)
  | error e => exact error_iff.2 (error_iff.1 hstep)

theorem mapM {step : α → Except ShapeError β} {items : List α}
    (hstep : ∀ item ∈ items, PlainErrors (step item)) : PlainErrors (items.mapM step) := by
  induction items with
  | nil => exact ok []
  | cons item rest ih =>
    obtain ⟨hitem, hrest⟩ := List.forall_mem_cons.1 hstep
    rw [List.mapM_cons]
    exact hitem.bind fun value => (ih hrest).bind fun values => ok (value :: values)

end PlainErrors

namespace Shape

/-! ### Readers -/

/-- Whether the name of a field and the errors of its reader are plain. -/
def FieldReader.Plain (field : FieldReader) : Prop :=
  OneLine field.name ∧ ∀ input, PlainErrors (field.read input)

theorem plainErrors_readPositions {expected : String} (hexpected : OneLine expected)
    {fields : List FieldReader} (hfields : ∀ field ∈ fields, field.Plain) (position : Nat)
    (items : List Json) : PlainErrors (readPositions expected position fields items) := by
  induction fields generalizing position items with
  | nil => exact .ok _
  | cons field fields ih =>
    obtain ⟨hfield, hfields⟩ := List.forall_mem_cons.1 hfields
    cases items with
    | nil =>
      rw [readPositions]
      split
      · exact PlainErrors.error_iff.2 hexpected
      · exact (ih hfields _ _).bind fun _ => .ok _
    | cons item items =>
      exact (hfield.2 item).bind fun _ => (ih hfields _ _).bind fun _ => .ok _

theorem plainErrors_readArray {expected : String} (hexpected : OneLine expected)
    {fields : List FieldReader} (hfields : ∀ field ∈ fields, field.Plain) (items : List Json) :
    PlainErrors (readArray expected fields items) := by
  refine (plainErrors_readPositions hexpected hfields 0 items).bind fun (pairs, rest) => ?_
  cases rest with
  | nil => exact .ok pairs
  | cons item rest =>
    exact PlainErrors.error_iff.2 (by decide : OneLine "fewer elements in array")

theorem plainErrors_readMembers {fields : List FieldReader} (closed : Bool)
    (hfields : ∀ field ∈ fields, field.Plain) (members : List (String × Json)) :
    PlainErrors (readMembers fields closed members) := by
  induction members with
  | nil => exact .ok []
  | cons member rest ih =>
    rw [readMembers]
    split
    case h_1 field hfind =>
      exact ((hfields field (List.mem_of_find?_eq_some hfind)).2 member.2).bind fun _ =>
        ih.bind fun _ => .ok _
    case h_2 =>
      split_ifs
      · exact PlainErrors.error_iff.2 (List.forall_mem_map.2 fun field h => (hfields field h).1)
      · exact ih

theorem plainErrors_fillIn {fields : List FieldReader} (hfields : ∀ field ∈ fields, field.Plain)
    (pairs : List (String × Json)) : PlainErrors (fillIn fields pairs) := by
  refine PlainErrors.mapM fun field hfield => ?_
  split
  · exact .ok _
  · exact .ok _
  · split_ifs
    · exact .ok _
    · exact PlainErrors.error_iff.2 (hfields field hfield).1

theorem plainErrors_readInteger {name : String} (hname : OneLine name) (least greatest : Int)
    (input : Json) : PlainErrors (readInteger name least greatest input) := by
  unfold readInteger
  split
  · split_ifs
    · exact .ok _
    · exact PlainErrors.error_iff.2 hname
  · exact PlainErrors.error_iff.2 hname

theorem plainErrors_readVariant {variants : List String}
    (hvariants : ∀ word ∈ variants, OneLine word) (word : String) (data : Option Json) :
    PlainErrors (readVariant variants word data) := by
  unfold readVariant
  split_ifs
  · split
    · exact .ok _
    · exact .ok _
    · exact PlainErrors.error_iff.2 (by decide : OneLine "unit")
  · exact PlainErrors.error_iff.2 hvariants

/-! ### Shapes -/

/-- What holds of the simple shapes and passes from the parts of a shape to the shape holds of
every shape. -/
@[elab_as_elim, induction_eliminator]
theorem treeInduction {motive : Shape → Prop}
    (boolean : motive .boolean) (character : motive .character) (string : motive .string)
    (integer : ∀ name least greatest, motive (.integer name least greatest))
    (double : motive .double)
    (list : ∀ item, motive item → motive (.list item))
    (nullable : ∀ shape, motive shape → motive (.nullable shape))
    (tuple : ∀ items, (∀ item ∈ items, motive item) → motive (.tuple items))
    (dictionary : ∀ value, motive value → motive (.dictionary value))
    (record : ∀ name fields closed, (∀ field ∈ fields, motive field.2.1) →
      motive (.record name fields closed))
    (enumeration : ∀ variants, motive (.enumeration variants))
    (shape : Shape) : motive shape := by
  -- a field of a record is a pair of its name with a pair, so the recursor has a motive for each
  refine @Shape.rec motive (fun items => ∀ item ∈ items, motive item)
    (fun fields => ∀ field ∈ fields, motive field.2.1) (fun field => motive field.2.1)
    (fun field => motive field.1) boolean character string integer double list nullable tuple
    dictionary record enumeration ?_ ?_ ?_ ?_ ?_ ?_ shape
  · exact List.forall_mem_nil _
  · exact fun item rest hitem hrest => List.forall_mem_cons.2 ⟨hitem, hrest⟩
  · exact List.forall_mem_nil _
  · exact fun field rest hfield hrest => List.forall_mem_cons.2 ⟨hfield, hrest⟩
  · exact fun name field hfield => hfield
  · exact fun shape default hshape => hshape

mutual

/-- Whether all texts in a shape are on one line. -/
def TextsOneLine : Shape → Prop
  | integer name _ _ => OneLine name
  | list item => item.TextsOneLine
  | nullable shape => shape.TextsOneLine
  | tuple items => ItemsOneLine items
  | dictionary value => value.TextsOneLine
  | record name fields _ => OneLine name ∧ FieldsOneLine fields
  | enumeration variants => ∀ word ∈ variants, OneLine word
  | _ => True
termination_by structural shape => shape

/-- Whether all texts in the shapes of a tuple are on one line. -/
def ItemsOneLine : List Shape → Prop
  | [] => True
  | item :: rest => item.TextsOneLine ∧ ItemsOneLine rest
termination_by structural items => items

/-- Whether the names of some fields and all texts in their shapes are on one line. -/
def FieldsOneLine : List (String × Shape × Option Json) → Prop
  | [] => True
  | (name, shape, _) :: rest => OneLine name ∧ shape.TextsOneLine ∧ FieldsOneLine rest
termination_by structural fields => fields

end

theorem plain_tupleReaders {items : List Shape}
    (hitems : ∀ item ∈ items, item.TextsOneLine → ∀ input, PlainErrors (item.read input))
    (h : ItemsOneLine items) : ∀ field ∈ tupleReaders items, field.Plain := by
  induction items with
  | nil => exact List.forall_mem_nil _
  | cons item rest ih =>
    obtain ⟨hitem, hrest⟩ := List.forall_mem_cons.1 hitems
    exact List.forall_mem_cons.2 ⟨⟨(by decide : OneLine ""), hitem h.1⟩, ih hrest h.2⟩

theorem plain_fieldReaders {fields : List (String × Shape × Option Json)}
    (hfields : ∀ field ∈ fields,
      field.2.1.TextsOneLine → ∀ input, PlainErrors (field.2.1.read input))
    (h : FieldsOneLine fields) : ∀ field ∈ fieldReaders fields, field.Plain := by
  induction fields with
  | nil => exact List.forall_mem_nil _
  | cons field rest ih =>
    obtain ⟨hfield, hrest⟩ := List.forall_mem_cons.1 hfields
    exact List.forall_mem_cons.2 ⟨⟨h.1, hfield h.2.1⟩, ih hrest h.2.2⟩

/-- **Plain errors.** When the texts in a shape are on one line, so are those that its errors
take from it. -/
theorem plainErrors_read {shape : Shape} (h : shape.TextsOneLine) (input : Json) :
    PlainErrors (shape.read input) := by
  induction shape generalizing input with
  | boolean =>
    cases input with
    | boolean b => exact .ok _
    | _ => exact .mismatch (by decide) _
  | character =>
    cases input with
    | string s =>
      rw [read]
      split_ifs
      · exact .ok _
      · exact PlainErrors.error_iff.2 (by decide : OneLine "a character")
    | _ => exact .mismatch (by decide) _
  | string =>
    cases input with
    | string s => exact .ok _
    | _ => exact .mismatch (by decide) _
  | integer name least greatest => exact plainErrors_readInteger h least greatest input
  | double =>
    cases input with
    | number n => exact .ok _
    | _ => exact .mismatch (by decide) _
  | list item ih =>
    cases input with
    | array items => exact (PlainErrors.mapM fun item _ => ih h item).map _
    | _ => exact .mismatch (by decide) _
  | nullable shape ih =>
    cases input with
    | null => exact .ok _
    | _ => exact ih h _
  | tuple items ih =>
    have hexpected : OneLine s!"a tuple of size {items.length}" :=
      oneLine_append.2 ⟨by decide, oneLine_repr_nat _⟩
    cases input with
    | array values =>
      exact (plainErrors_readArray hexpected (plain_tupleReaders ih h) values).map _
    | _ => exact .mismatch hexpected _
  | dictionary value ih =>
    cases input with
    | object members =>
      exact (PlainErrors.mapM fun member _ => (ih h member.2).map _).map _
    | _ => exact .mismatch (by decide) _
  | record name fields closed ih =>
    have hreaders := plain_fieldReaders ih h.2
    have hexpected : OneLine s!"struct {name}" := oneLine_append.2 ⟨by decide, h.1⟩
    cases input with
    | array items =>
      have helements :
          OneLine (if (fieldReaders fields).length = 1 then "element" else "elements") := by
        split_ifs <;> decide
      refine (plainErrors_readArray ?_ hreaders items).map _
      exact oneLine_between (oneLine_between hexpected (by decide) (oneLine_repr_nat _))
        (by decide) helements
    | object members =>
      exact ((plainErrors_readMembers closed hreaders members).bind
        fun pairs => plainErrors_fillIn hreaders pairs).map _
    | _ => exact .mismatch hexpected _
  | enumeration variants =>
    cases input with
    | string word => exact plainErrors_readVariant h word none
    | object members =>
      have hexpected : OneLine "map with a single key" := by decide
      match members with
      | [(word, data)] => exact plainErrors_readVariant h word (some data)
      | [] | _ :: _ :: _ => exact PlainErrors.error_iff.2 hexpected
    | _ => exact .mismatch (by decide) _

/-! ### The texts of a reader -/

theorem reader_eq_error {shape : Shape} {input : Json} {text : String} :
    shape.reader input = .error text ↔ ∃ e, shape.read input = .error e ∧ e.message = text := by
  rw [reader]
  cases shape.read input <;> simp

/-- **Only unknown names break a text.** When the texts in a shape are on one line, a line break in
a text of its reader is one in a name that the shape does not know. -/
theorem exists_unknownName {shape : Shape} (h : shape.TextsOneLine) {input : Json} {text : String}
    (hread : shape.reader input = .error text) (hbroken : ¬OneLine text) :
    ∃ e name, shape.read input = .error e ∧ e.message = text ∧ e.unknownName? = some name ∧
      ¬OneLine name := by
  obtain ⟨e, he, rfl⟩ := reader_eq_error.1 hread
  by_contra hnone
  push Not at hnone
  exact hbroken (ShapeError.oneLine_message (plainErrors_read h input e he)
    fun name hname => hnone e name he rfl hname)

end Shape
end Assay
