import Assay.Proofs.Canonicalization

/-!
# Trimming first

Wherever a chain of transforms trims, and however often, it could as well trim once at the
beginning. Case mappings turn blanks into blanks and no other character into one, and a capital
sigma in front of a blank stands at the end of its word as it does when the blank is gone.

* `CaseSteps.ofTransforms_trimmedFirst`, `trimmedBy_trimmedFirst`: a chain and its form with the
  trimming in front come down to the same mappings of the same text;
* `StringRule.canonical_trimmedFirst`: they make the same canonical form.
-/

namespace Assay

/-- The chain with a single trimming in front of its case mappings, if it trims at all. -/
def trimmedFirst (ts : List StringTransform) : List StringTransform :=
  (if .trim ∈ ts then [.trim] else []) ++ ts.filter (· ≠ .trim)

theorem trim_mem_trimmedFirst (ts : List StringTransform) :
    .trim ∈ trimmedFirst ts ↔ .trim ∈ ts := by
  unfold trimmedFirst
  split_ifs with h <;> simp [h]

theorem trimmedBy_trimmedFirst (ts : List StringTransform) (cs : List Char) :
    trimmedBy (trimmedFirst ts) cs = trimmedBy ts cs :=
  if_congr (trim_mem_trimmedFirst ts) rfl rfl

namespace CaseSteps

/-- Trimming is no case mapping. -/
theorem push_trim (steps : CaseSteps) : steps.push .trim = steps := by cases steps <;> rfl

theorem ofTransforms_trimmedFirst (ts : List StringTransform) :
    ofTransforms (trimmedFirst ts) = ofTransforms ts := by
  have hfront : (if StringTransform.trim ∈ ts then [.trim] else []).foldl push none = none := by
    split_ifs <;> rfl
  rw [ofTransforms, trimmedFirst, List.foldl_append, hfront, List.foldl_filter, ofTransforms]
  congr 1
  funext steps t
  cases t with
  | trim => exact (steps.push_trim).symm
  | lowercase => rfl
  | uppercase => rfl

end CaseSteps

namespace StringRule

/-- **Trimming commutes with the case mappings.** The canonical form of a string is what comes out
when all trimmings are left out and, if there was one, the string is trimmed once before the case
mappings; so it makes no difference whether lower case or trimming comes first. This is how a
capital sigma gets the same form whether the blanks behind it are there or not. A string that is
kept because trimming does not make it shorter is trimmed already. -/
theorem canonical_trimmedFirst (rule : StringRule) (s : String) :
    rule.canonical s = canonical { rule with transforms := trimmedFirst rule.transforms } s ∧
      canonical { rule with transforms := [.lowercase, .trim] } s =
        canonical { rule with transforms := [.trim, .lowercase] } s ∧
      trimString s = String.ofList (trim s.toList) := by
  have hfirst (rule : StringRule) :
      rule.canonical s = canonical { rule with transforms := trimmedFirst rule.transforms } s := by
    rw [← String.toList_inj, toList_canonical, toList_canonical,
      CaseSteps.ofTransforms_trimmedFirst, trimmedBy_trimmedFirst]
  exact ⟨hfirst rule, hfirst { rule with transforms := [.lowercase, .trim] }, trimString_eq s⟩

/-- The last sigma of a word is a final one, with a blank behind it or without. -/
example : canonical ⟨[.lowercase, .trim], []⟩ " ΟΔΟΣ " = "οδος" ∧
    canonical ⟨[.trim, .lowercase], []⟩ " ΟΔΟΣ " = "οδος" := by
  decide +kernel

end StringRule
end Assay
