import Assay.Proofs.Addresses
import Assay.Proofs.CaseMapping

/-!
# Universally unique identifiers

What the uuid check accepts, told by splitting a text at the hyphens: five pieces of hexadecimal
digits, each of a fixed length. Upper and lower case leave hyphens alone and turn these digits into
one another, so an identifier may be written either way.

* `piecesInduction`: a text piece by piece;
* `mem_groups`: words made of counted letters with a mark between them;
* `IsUuid.length_eq`, `IsUuid.map`: identifiers have one length, and keep their form when digits are
  exchanged for digits;
* `uuid_passes_iff`: the check passes exactly for identifiers.
-/

namespace Assay

/-! ### Texts piece by piece -/

section Pieces

variable {mark : Char} {word : List Char}

/-- A text without a mark is its only piece. -/
theorem splitOn_of_notMem (h : mark ∉ word) : word.splitOn mark = [word] := by
  have hpieces : ([mark].intercalate [word]).splitOn mark = [word] :=
    List.splitOn_intercalate mark (by simpa using h) (by simp)
  rwa [List.intercalate_singleton] at hpieces

/-- The first piece of a text ends at the first mark. -/
theorem splitOn_append_cons (h : mark ∉ word) (rest : List Char) :
    (word ++ mark :: rest).splitOn mark = word :: rest.splitOn mark := by
  have hsplit : (word ++ mark :: rest).splitOn mark = word.splitOn mark ++ rest.splitOn mark :=
    List.splitOnP_append_cons word rest (beq_self_eq_true mark)
  rw [hsplit, splitOn_of_notMem h, List.singleton_append]

/-- What holds of texts without a mark, and stays true when a piece and a mark are put in front,
holds of all texts. -/
theorem piecesInduction (mark : Char) {motive : List Char → Prop}
    (last : ∀ piece, mark ∉ piece → motive piece)
    (front : ∀ piece rest, mark ∉ piece → motive rest → motive (piece ++ mark :: rest))
    (word : List Char) : motive word := by
  induction hn : word.length using Nat.strong_induction_on generalizing word with
  | h n ih =>
    by_cases h : mark ∈ word
    · obtain ⟨piece, rest, rfl, hpiece⟩ := List.eq_append_cons_of_mem h
      refine front piece rest hpiece (ih rest.length ?_ rest rfl)
      rw [← hn, List.length_append, List.length_cons]
      omega
    · exact last word h

/-- A text has as many marks as pieces, less one. -/
theorem length_add_one (mark : Char) (word : List Char) :
    word.length + 1 = ((word.splitOn mark).map fun piece => piece.length + 1).sum := by
  induction word using piecesInduction mark with
  | last piece h => rw [splitOn_of_notMem h, List.map_singleton, List.sum_singleton]
  | front piece rest h ih =>
    rw [splitOn_append_cons h, List.map_cons, List.sum_cons, ← ih, List.length_append,
      List.length_cons]
    omega

/-- When the mark stays what it is and no other character becomes one, the pieces of a text are
changed as the text is. -/
theorem splitOn_map {f : Char → Char} (hmark : f mark = mark)
    (hother : ∀ c ∈ word, f c = mark → c = mark) :
    (word.map f).splitOn mark = (word.splitOn mark).map (List.map f) := by
  have hnone : ∀ {piece : List Char}, mark ∉ piece → (∀ c ∈ piece, f c = mark → c = mark) →
      mark ∉ piece.map f := by
    intro piece hpiece hc hmem
    obtain ⟨c, hcmem, hf⟩ := List.mem_map.1 hmem
    exact hpiece (hc c hcmem hf ▸ hcmem)
  induction word using piecesInduction mark with
  | last piece h => rw [splitOn_of_notMem h, splitOn_of_notMem (hnone h hother), List.map_singleton]
  | front piece rest h ih =>
    obtain ⟨hpiece, hrest⟩ := List.forall_mem_append.1 hother
    rw [List.map_append, List.map_cons, hmark, splitOn_append_cons h,
      splitOn_append_cons (hnone h hpiece), List.map_cons,
      ih fun c hc => hrest c (List.mem_cons_of_mem _ hc)]

/-- Words of two languages with a mark between them. -/
theorem mem_marked {A B : Language Char} :
    word ∈ A * ((Pattern.char mark).language * B) ↔
      ∃ front ∈ A, ∃ rest ∈ B, front ++ mark :: rest = word := by
  simp [Language.mem_mul, Pattern.mem_char]

/-- Counted letters with a mark between them are the texts whose pieces have these letters and these
lengths. -/
theorem mem_groups {p : Char → Bool} (hmark : p mark = false) {count : Nat} {counts : List Nat} :
    word ∈ lettersOf p ^ count *
        (counts.map fun count => (Pattern.char mark).language * lettersOf p ^ count).prod ↔
      (word.splitOn mark).map List.length = count :: counts ∧
        ∀ piece ∈ word.splitOn mark, ∀ c ∈ piece, p c = true := by
  have hnone : ∀ {piece : List Char}, (∀ c ∈ piece, p c = true) → mark ∉ piece := by
    intro piece hall hmem
    rw [hall mark hmem] at hmark
    cases hmark
  induction counts generalizing count word with
  | nil =>
    rw [List.map_nil, List.prod_nil, mul_one, mem_lettersOf_pow]
    constructor
    · rintro ⟨hlength, hall⟩
      simpa [splitOn_of_notMem (hnone hall)] using ⟨hlength, hall⟩
    · rintro ⟨hlengths, hall⟩
      cases word using piecesInduction mark with
      | last _ h => simpa [splitOn_of_notMem h] using And.intro hlengths hall
      | front piece rest h =>
        rw [splitOn_append_cons h, List.map_cons, List.cons.injEq, List.map_eq_nil_iff] at hlengths
        exact absurd hlengths.2 (List.splitOn_ne_nil mark rest)
  | cons next counts ih =>
    rw [List.map_cons, List.prod_cons, mul_assoc, mem_marked]
    constructor
    · rintro ⟨piece, hpiece, rest, hrest, rfl⟩
      obtain ⟨hlength, hall⟩ := mem_lettersOf_pow.1 hpiece
      obtain ⟨hlengths, halls⟩ := ih.1 hrest
      rw [splitOn_append_cons (hnone hall), List.map_cons, hlength, hlengths]
      exact ⟨rfl, List.forall_mem_cons.2 ⟨hall, halls⟩⟩
    · rintro ⟨hlengths, hall⟩
      cases word using piecesInduction mark with
      | last _ h => simp [splitOn_of_notMem h] at hlengths
      | front piece rest h =>
        rw [splitOn_append_cons h] at hlengths hall
        obtain ⟨hlength, hlengths⟩ := List.cons.inj hlengths
        obtain ⟨hall, halls⟩ := List.forall_mem_cons.1 hall
        exact ⟨piece, mem_lettersOf_pow.2 ⟨hlength, hall⟩, rest, ih.2 ⟨hlengths, halls⟩, rfl⟩

end Pieces

/-! ### Hexadecimal digits -/

/-- A hexadecimal digit of ASCII, in either case. -/
def isHexDigit (c : Char) : Bool :=
  '0' ≤ c && c ≤ '9' || 'a' ≤ c && c ≤ 'f' || 'A' ≤ c && c ≤ 'F'

theorem toNat_lt_of_isHexDigit {c : Char} (h : isHexDigit c = true) : c.toNat < 128 := by
  have hle : ∀ d : Char, c ≤ d → c.toNat ≤ d.toNat := fun d hd => hd
  simp only [isHexDigit, Bool.or_eq_true, Bool.and_eq_true, decide_eq_true_eq] at h
  rcases h with (⟨-, h⟩ | ⟨-, h⟩) | ⟨-, h⟩ <;> exact (hle _ h).trans_lt (by decide)

/-- The case forms of hexadecimal digits are such digits, and those of the hyphen are itself. -/
theorem caseForms_hexDigit {c : Char} (h : isHexDigit c = true ∨ c = '-') :
    lowerChar c = [c.toLower] ∧ upperChar c = [c.toUpper] ∧
      isHexDigit c.toLower = isHexDigit c ∧ isHexDigit c.toUpper = isHexDigit c := by
  have hcheck : ∀ n < 128, isHexDigit (Char.ofNat n) = true ∨ Char.ofNat n = '-' →
      lowerChar (Char.ofNat n) = [(Char.ofNat n).toLower] ∧
        upperChar (Char.ofNat n) = [(Char.ofNat n).toUpper] ∧
        isHexDigit (Char.ofNat n).toLower = isHexDigit (Char.ofNat n) ∧
        isHexDigit (Char.ofNat n).toUpper = isHexDigit (Char.ofNat n) := by decide +kernel
  have hcode : c.toNat < 128 := by
    rcases h with h | rfl
    · exact toNat_lt_of_isHexDigit h
    · decide
  have hforms := hcheck c.toNat hcode
  rw [c.ofNat_toNat] at hforms
  exact hforms h

theorem Pattern.language_hexadecimal : hexadecimal.language = lettersOf isHexDigit := by
  refine congrArg lettersOf (funext fun c => ?_)
  rw [Bool.eq_iff_iff, CharSet.contains_ofRanges]
  simp [isHexDigit, or_assoc]

/-! ### Identifiers -/

/-- An identifier: between its hyphens there are groups of 8, 4, 4, 4 and 12 hexadecimal digits. -/
def IsUuid (text : List Char) : Prop :=
  (text.splitOn '-').map List.length = [8, 4, 4, 4, 12] ∧
    ∀ group ∈ text.splitOn '-', ∀ c ∈ group, isHexDigit c = true

/-- The pattern of the check is found in identifiers. -/
theorem Pattern.uuid_found_iff {text : List Char} : uuid.found text = true ↔ IsUuid text := by
  have hplain : ∀ p ∈ [hexadecimal.times 8, char '-', hexadecimal.times 4, char '-',
      hexadecimal.times 4, char '-', hexadecimal.times 4, char '-', hexadecimal.times 12],
      p.isPlain = true := by decide
  refine (found_anchored hplain).trans ?_
  rw [IsUuid, ← mem_groups (by decide)]
  simp only [List.map_cons, List.map_nil, List.prod_cons, List.prod_nil, mul_one, mul_assoc,
    language, language_hexadecimal]

namespace IsUuid

variable {text : List Char}

theorem length_eq (h : IsUuid text) : text.length = 36 := by
  have hlength := length_add_one '-' text
  rw [← Function.comp_def (· + 1) List.length, ← List.map_map, h.1] at hlength
  exact Nat.succ_injective hlength

/-- The characters of an identifier. -/
theorem isHexDigit_or_hyphen (h : IsUuid text) {c : Char} (hc : c ∈ text) :
    isHexDigit c = true ∨ c = '-' := by
  refine or_iff_not_imp_right.2 fun hyphen => ?_
  obtain ⟨group, hgroup, hc⟩ := mem_piece_of_mem hc hyphen
  exact h.2 group hgroup c hc

/-- An identifier stays one when its digits are exchanged for digits. -/
theorem map (h : IsUuid text) {f : Char → Char} (hyphen : f '-' = '-')
    (hdigits : ∀ c, isHexDigit c = true → isHexDigit (f c) = true) : IsUuid (text.map f) := by
  have hother : ∀ c ∈ text, f c = '-' → c = '-' := by
    intro c hc hf
    refine (h.isHexDigit_or_hyphen hc).resolve_left fun hdigit => ?_
    have hnot := hdigits c hdigit
    rw [hf] at hnot
    exact absurd hnot (by decide)
  rw [IsUuid, splitOn_map hyphen hother, List.map_map, List.forall_mem_map]
  constructor
  · rw [← h.1]
    exact List.map_congr_left fun group _ => List.length_map f
  · exact fun group hgroup => List.forall_mem_map.2 fun c hc => hdigits c (h.2 group hgroup c hc)

protected theorem toLower (h : IsUuid text) : IsUuid (toLower text) := by
  have hsigma : 'Σ' ∉ text := fun hc => absurd (h.isHexDigit_or_hyphen hc) (by decide)
  have hforms := lowerAfter_append_of_notMem hsigma [] []
  have hmap : Assay.toLower text = text.map Char.toLower := by
    rw [List.append_nil, lowerAfter, List.append_nil] at hforms
    rw [Assay.toLower, hforms, List.map_eq_flatMap]
    exact List.flatMap_congr fun c hc => (caseForms_hexDigit (h.isHexDigit_or_hyphen hc)).1
  rw [hmap]
  refine h.map rfl fun c hc => ?_
  rwa [(caseForms_hexDigit (.inl hc)).2.2.1]

protected theorem toUpper (h : IsUuid text) : IsUuid (toUpper text) := by
  have hmap : Assay.toUpper text = text.map Char.toUpper := by
    rw [Assay.toUpper, List.map_eq_flatMap]
    exact List.flatMap_congr fun c hc => (caseForms_hexDigit (h.isHexDigit_or_hyphen hc)).2.1
  rw [hmap]
  refine h.map rfl fun c hc => ?_
  rwa [(caseForms_hexDigit (.inl hc)).2.2.2]

end IsUuid

theorem uuid_issue?_eq_none {s : String} :
    StringCheck.uuid.issue? s = none ↔ IsUuid s.toList := by
  rw [← Pattern.uuid_found_iff, StringCheck.issue?, StringCheck.holds]
  split_ifs with h <;> simp [h]

/-- **What the uuid check accepts.** A string passes the check exactly when it is an identifier. It
has 36 characters then, and passes the check in upper and in lower case as well. -/
theorem uuid_passes_iff (s : String) :
    (StringCheck.uuid.issue? s = none ↔ IsUuid s.toList) ∧
      (StringCheck.uuid.issue? s = none → s.length = 36 ∧
        StringCheck.uuid.issue? (StringTransform.lowercase.apply s) = none ∧
        StringCheck.uuid.issue? (StringTransform.uppercase.apply s) = none) := by
  simp only [uuid_issue?_eq_none, StringTransform.apply, String.toList_ofList, true_and,
    ← String.length_toList]
  exact fun h => ⟨h.length_eq, h.toLower, h.toUpper⟩

/-- An identifier in mixed case is accepted in upper and in lower case as well. -/
theorem uuid_passes_mixed :
    IsUuid "67e55044-10B1-426f-9247-BB680e5fe0C8".toList ∧
      StringCheck.uuid.issue? (StringTransform.lowercase.apply
        "67e55044-10B1-426f-9247-BB680e5fe0C8") = none ∧
      StringCheck.uuid.issue? (StringTransform.uppercase.apply
        "67e55044-10B1-426f-9247-BB680e5fe0C8") = none := by
  have hpasses : StringCheck.uuid.issue? "67e55044-10B1-426f-9247-BB680e5fe0C8" = none := by
    decide +kernel
  obtain ⟨hiff, hforms⟩ := uuid_passes_iff "67e55044-10B1-426f-9247-BB680e5fe0C8"
  exact ⟨hiff.1 hpasses, (hforms hpasses).2⟩

end Assay
