import Assay.Proofs.CaseMapping
import Assay.Proofs.Revalidation

/-!
# Canonical forms of strings

However long a chain of transforms is, it comes down to one trimming, if there is any, and up to
three case mappings, whichever way they are mixed.

* `CaseSteps.ofTransforms`: the case mappings that count, found by one pass over the chain;
* `StringRule.toList_canonical`: the canonical form by them;
* `StringRule.canonical_canonical_iff`: when the canonical form is its own canonical form;
* `StringRule.canonical_canonical_canonical`: a second pass is always the last one that counts;
* `StringRule.accepted_again_iff`: when an accepted value is accepted again and stays as it is.
-/

namespace Assay

/-- The characters of a string after a step. -/
def StringTransform.mapChars : StringTransform → List Char → List Char
  | trim => Assay.trim
  | lowercase => toLower
  | uppercase => toUpper

theorem StringTransform.toList_apply (t : StringTransform) (s : String) :
    (t.apply s).toList = t.mapChars s.toList := by
  cases t with
  | trim => rw [apply, trimString_eq, String.toList_ofList, mapChars]
  | lowercase => exact String.toList_ofList
  | uppercase => exact String.toList_ofList

/-- The case mappings that a chain of transforms comes down to, the first one first. -/
inductive CaseSteps where
  | none
  | low
  | up
  | upLow
  | lowUp
  | lowUpLow
deriving DecidableEq

namespace CaseSteps

/-- A text after the mappings. -/
def apply : CaseSteps → List Char → List Char
  | none, cs => cs
  | low, cs => toLower cs
  | up, cs => toUpper cs
  | upLow, cs => toLower (toUpper cs)
  | lowUp, cs => toUpper (toLower cs)
  | lowUpLow, cs => toLower (toUpper (toLower cs))

/-- The mappings with one more transform at the end. -/
def push : CaseSteps → StringTransform → CaseSteps
  | steps, .trim => steps
  | none, .lowercase => low
  | low, .lowercase => low
  | up, .lowercase => upLow
  | upLow, .lowercase => upLow
  | lowUp, .lowercase => lowUpLow
  | lowUpLow, .lowercase => lowUpLow
  | none, .uppercase => up
  | low, .uppercase => lowUp
  | up, .uppercase => up
  | upLow, .uppercase => lowUp
  | lowUp, .uppercase => lowUp
  | lowUpLow, .uppercase => lowUp

/-- The mappings that a chain of transforms comes down to. -/
def ofTransforms (ts : List StringTransform) : CaseSteps := ts.foldl push none

theorem ofTransforms_concat (ts : List StringTransform) (t : StringTransform) :
    ofTransforms (ts ++ [t]) = (ofTransforms ts).push t := by
  rw [ofTransforms, List.foldl_append]
  rfl

theorem apply_trim (steps : CaseSteps) (cs : List Char) :
    steps.apply (trim cs) = trim (steps.apply cs) := by
  cases steps <;> simp only [apply, trim_toLower, trim_toUpper]

/-- One more case mapping is absorbed by the last three. -/
theorem apply_push (steps : CaseSteps) {t : StringTransform} (h : t ≠ .trim) (cs : List Char) :
    (steps.push t).apply cs = t.mapChars (steps.apply cs) := by
  cases t with
  | trim => exact absurd rfl h
  | lowercase =>
    cases steps <;> simp only [push, apply, StringTransform.mapChars, toLower_toLower]
  | uppercase =>
    cases steps <;>
      simp only [push, apply, StringTransform.mapChars, toLower_toLower, toUpper_toUpper,
        toUpper_toLower_toUpper]

/-- The mappings change nothing in their own result, unless they are upper and then lower case and
the text has a capital sharp s. -/
theorem apply_apply_iff (steps : CaseSteps) (cs : List Char) :
    steps.apply (steps.apply cs) = steps.apply cs ↔ ¬(steps = upLow ∧ 'ẞ' ∈ cs) := by
  cases steps with
  | upLow =>
    simp only [apply, true_and, toUpper_toLower_toUpper]
    exact toLower_toUpper_toLower_iff
  | none | low | up | lowUp | lowUpLow =>
    simp [apply, toLower_toLower, toUpper_toUpper, toUpper_toLower_toUpper]

end CaseSteps

/-! ### Trimming -/

/-- The text that the case mappings of a chain see: without blanks around it if there is a trimming
anywhere in the chain. -/
def trimmedBy (ts : List StringTransform) (cs : List Char) : List Char :=
  if .trim ∈ ts then trim cs else cs

theorem trimmedBy_concat (ts : List StringTransform) {t : StringTransform} (h : t ≠ .trim)
    (cs : List Char) : trimmedBy (ts ++ [t]) cs = trimmedBy ts cs := by
  simp [trimmedBy, h.symm]

theorem trim_trimmedBy (ts : List StringTransform) (cs : List Char) :
    trim (trimmedBy ts cs) = trimmedBy (ts ++ [.trim]) cs := by
  have hmem : StringTransform.trim ∈ ts ++ [.trim] := List.mem_append_right _ (.head _)
  rw [trimmedBy, trimmedBy, if_pos hmem]
  split_ifs
  · exact trim_trim cs
  · rfl

theorem trimmedBy_trimmedBy (ts : List StringTransform) (cs : List Char) :
    trimmedBy ts (trimmedBy ts cs) = trimmedBy ts cs := by
  unfold trimmedBy
  split_ifs
  · exact trim_trim cs
  · rfl

theorem trimmedBy_apply (ts : List StringTransform) (steps : CaseSteps) (cs : List Char) :
    trimmedBy ts (steps.apply cs) = steps.apply (trimmedBy ts cs) := by
  unfold trimmedBy
  split_ifs
  · exact (steps.apply_trim cs).symm
  · rfl

theorem mem_trimmedBy_iff (ts : List StringTransform) {c : Char} (h : isBlank c = false)
    (cs : List Char) : c ∈ trimmedBy ts cs ↔ c ∈ cs := by
  unfold trimmedBy
  split_ifs
  · exact mem_trim_iff h cs
  · rfl

/-! ### Chains of transforms -/

/-- A chain of transforms that maps to upper case and to lower case, and not to upper case after
lower case. -/
def RaisesThenLowers (ts : List StringTransform) : Prop :=
  .uppercase ∈ ts ∧ .lowercase ∈ ts ∧ ts.Pairwise fun t u => ¬(t = .lowercase ∧ u = .uppercase)

instance (ts : List StringTransform) : Decidable (RaisesThenLowers ts) :=
  inferInstanceAs (Decidable (_ ∧ _ ∧ _))

namespace CaseSteps

/-- What a chain comes down to tells whether a transform is in the chain, if it does so after each
further transform. -/
theorem mem_iff_of_push {t : StringTransform} {P : CaseSteps → Prop} (hnone : ¬P none)
    (hpush : ∀ steps u, P (steps.push u) ↔ P steps ∨ t = u) (ts : List StringTransform) :
    t ∈ ts ↔ P (ofTransforms ts) := by
  induction ts using List.reverseRecOn with
  | nil => exact iff_of_false List.not_mem_nil hnone
  | append_singleton ts u ih =>
    rw [ofTransforms_concat, hpush, List.mem_append, List.mem_singleton, ih]

theorem uppercase_mem_iff (ts : List StringTransform) :
    .uppercase ∈ ts ↔ ofTransforms ts ≠ none ∧ ofTransforms ts ≠ low := by
  refine mem_iff_of_push (P := fun steps => steps ≠ none ∧ steps ≠ low) (by decide) ?_ ts
  intro steps u
  cases steps <;> cases u <;> decide

theorem lowercase_mem_iff (ts : List StringTransform) :
    .lowercase ∈ ts ↔ ofTransforms ts ≠ none ∧ ofTransforms ts ≠ up := by
  refine mem_iff_of_push (P := fun steps => steps ≠ none ∧ steps ≠ up) (by decide) ?_ ts
  intro steps u
  cases steps <;> cases u <;> decide

/-- Upper case comes after lower case in the chains that come down to lower and then upper case, with
or without lower case behind that. -/
theorem pairwise_iff (ts : List StringTransform) :
    (ts.Pairwise fun t u => ¬(t = .lowercase ∧ u = .uppercase)) ↔
      ofTransforms ts ≠ lowUp ∧ ofTransforms ts ≠ lowUpLow := by
  induction ts using List.reverseRecOn with
  | nil => simp [ofTransforms]
  | append_singleton ts t ih =>
    have hlast : (∀ a ∈ ts, ¬(a = .lowercase ∧ t = .uppercase)) ↔
        ¬(.lowercase ∈ ts ∧ t = .uppercase) :=
      ⟨fun h hmem => h _ hmem.1 ⟨rfl, hmem.2⟩, fun h a ha hboth => h ⟨hboth.1 ▸ ha, hboth.2⟩⟩
    rw [ofTransforms_concat, List.pairwise_append, ih]
    simp only [List.pairwise_singleton, List.mem_singleton, forall_eq, true_and, hlast,
      lowercase_mem_iff]
    cases t <;> cases ofTransforms ts <;> decide

theorem ofTransforms_eq_upLow_iff (ts : List StringTransform) :
    ofTransforms ts = upLow ↔ RaisesThenLowers ts := by
  rw [RaisesThenLowers, uppercase_mem_iff, lowercase_mem_iff, pairwise_iff]
  cases ofTransforms ts <;> decide

end CaseSteps

namespace StringRule

/-- A canonical form is the text, trimmed if there is any trimming, after the case mappings that
the chain comes down to. -/
theorem toList_canonical (rule : StringRule) (s : String) :
    (rule.canonical s).toList =
      (CaseSteps.ofTransforms rule.transforms).apply (trimmedBy rule.transforms s.toList) := by
  obtain ⟨ts, checks⟩ := rule
  unfold canonical
  -- the mappings grow at the end of the chain, so the last transform is taken off
  induction ts using List.reverseRecOn with
  | nil => rfl
  | append_singleton ts t ih =>
    rw [List.foldl_append, List.foldl_cons, List.foldl_nil, t.toList_apply, ih,
      CaseSteps.ofTransforms_concat]
    by_cases ht : t = .trim
    · subst ht
      rw [← trim_trimmedBy]
      exact (CaseSteps.apply_trim _ _).symm
    · rw [trimmedBy_concat ts ht, CaseSteps.apply_push _ ht]

/-- A canonical form is its own canonical form, unless the rule maps to upper case and then to lower
case and the string has a capital sharp s. -/
theorem canonical_canonical_iff (rule : StringRule) (s : String) :
    rule.canonical (rule.canonical s) = rule.canonical s ↔
      ¬(RaisesThenLowers rule.transforms ∧ 'ẞ' ∈ s.toList) := by
  rw [← String.toList_inj, toList_canonical, toList_canonical, trimmedBy_apply,
    trimmedBy_trimmedBy, CaseSteps.apply_apply_iff, CaseSteps.ofTransforms_eq_upLow_iff,
    mem_trimmedBy_iff _ (by decide)]

/-- The canonical form of a canonical form is the last one. -/
theorem canonical_canonical_canonical (rule : StringRule) (s : String) :
    rule.canonical (rule.canonical (rule.canonical s)) = rule.canonical (rule.canonical s) := by
  refine (rule.canonical_canonical_iff _).2 fun ⟨hchain, hmem⟩ => ?_
  rw [toList_canonical, (CaseSteps.ofTransforms_eq_upLow_iff _).2 hchain] at hmem
  have hself : lowerChar 'ẞ' = ['ẞ'] := lowerChar_of_mem_lowerAfter hmem
  rw [lowerChar_capitalSharpS] at hself
  exact absurd hself (by decide)

/-- **When an accepted value is accepted again, unchanged.** The canonical form of a string is its
own canonical form, and a value that a rule has accepted is accepted again as itself, exactly when
the rule does not map to upper case and then to lower case or the string has no capital sharp s. -/
theorem accepted_again_iff (rule : StringRule) :
    (∀ s, rule.canonical (rule.canonical s) = rule.canonical s ↔
      ¬(RaisesThenLowers rule.transforms ∧ 'ẞ' ∈ s.toList)) ∧
    ∀ input v, rule.parse input = .success v → ∃ s, input = .string s ∧
      (rule.parse (.string v) = .success v ↔
        ¬(RaisesThenLowers rule.transforms ∧ 'ẞ' ∈ s.toList)) := by
  refine ⟨rule.canonical_canonical_iff, fun input v h => ?_⟩
  obtain ⟨s, rfl, rfl, hissues⟩ := parse_eq_success.1 h
  refine ⟨s, rfl, ?_⟩
  rw [← rule.canonical_canonical_iff s, parse_eq_success]
  constructor
  · rintro ⟨raw, hraw, hagain, -⟩
    obtain rfl := Json.string.inj hraw
    exact hagain.symm
  · intro hagain
    exact ⟨_, rfl, hagain.symm, hagain.symm ▸ hissues⟩

/-- A rule for street names, in lower case whichever way they are given. -/
def street : StringRule := ⟨[.lowercase, .uppercase, .trim, .lowercase], [.nonEmpty]⟩

/-- A street name with a capital sharp s and a final sigma is accepted again as it is. -/
theorem accepted_again_street :
    street.parse (.string " GROẞE ΟΔΟΣ ") = .success "grosse οδος" ∧
      street.parse (.string "grosse οδος") = .success "grosse οδος" := by
  have haccept : street.parse (.string " GROẞE ΟΔΟΣ ") = .success "grosse οδος" := by
    decide +kernel
  obtain ⟨s, -, hagain⟩ := (accepted_again_iff street).2 _ _ haccept
  exact ⟨haccept, hagain.2 fun h => absurd h.1 (by decide)⟩

/-- A rule for single letters that maps them to upper case and then to lower case. -/
def letter : StringRule := ⟨[.uppercase, .lowercase], [.maxLength 1]⟩

/-- The letter that a capital sharp s is mapped to is mapped to two letters itself, and refused. -/
theorem refused_again_letter :
    letter.parse (.string "ẞ") = .success "ß" ∧
      letter.canonical "ẞ" = "ß" ∧ letter.canonical "ß" = "ss" ∧
      letter.parse (.string "ß") = .failure
        (.single (StringCheck.tooLong 1 "Too big: expected string to have <=1 characters")) := by
  decide +kernel

end StringRule
end Assay
