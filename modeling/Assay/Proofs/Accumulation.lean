import Assay.Proofs.Acceptance
import Assay.Proofs.Erasure

/-!
# Collecting refined values

The members of an object can be checked one by one, each by a refinement of its own, and put
together by hand. The object rule with the same refinements as fields reports the same issues in
the same order, and makes an object of the values that were collected.

* `Refinement.collect`: the values of several keys, put together;
* `Refinement.asObject`: the object rule with these keys as fields;
* `issues_collect`, `issues_asObject`: both report the issues of the rules, key by key;
* `asObject_of_collect`: what the object rule makes of the values;
* `collect_agrees`: both outcomes side by side.
-/

namespace Assay

namespace Refinement

section Parts

variable {parts : List (String × Refinement RefinementError)} {members : List (String × Json)}

/-- The values of several keys, each made by its own refinement, or all errors with their keys.
A key that is absent counts as null. -/
def collect (parts : List (String × Refinement RefinementError))
    (members : List (String × Json)) : Validation Diagnostics (List (Branded Output)) :=
  .all (parts.map fun part =>
    (part.2.create (Json.memberOrNull members part.1)).mapError fun e =>
      e.diagnostics.under (.key part.1))

/-- The rule for objects with these keys, which ignores all others. -/
def asObject (parts : List (String × Refinement RefinementError)) : Rule :=
  .object (parts.map fun part => (part.1, part.2.brandedRule)) false

/-- Whether the error of every part is the one that reports the diagnostics. -/
def ReportsDiagnostics (parts : List (String × Refinement RefinementError)) : Prop :=
  ∀ part ∈ parts, part.2 = ofRule part.2.tag part.2.rule

/-- Whether every value that the parts make of the members can be written. -/
def PartsWritten (parts : List (String × Refinement RefinementError))
    (members : List (String × Json)) : Prop :=
  ∀ part ∈ parts, ∀ output,
    part.2.rule.parse (Json.memberOrNull members part.1) = .success output →
      ∃ value, output.toJson = .ok value

theorem create_mapError {r : Refinement RefinementError} (h : r = ofRule r.tag r.rule)
    (input : Json) (segment : PathSegment) :
    (r.create input).mapError (fun e => e.diagnostics.under segment) =
      ((r.rule.parse input).map (Branded.mk r.tag)).mapError (·.under segment) := by
  rw [h]
  unfold create ofRule
  cases r.rule.parse input <;> rfl

theorem fieldValue_brandedRule (r : Refinement ε) (input : Json) :
    r.brandedRule.fieldValue input = r.rule.fieldValue input :=
  Rule.fieldValue_congr ((Rule.Erases.dropBrand r.tag (.same r.rule)).map_unbranded input)

/-! ### Failures -/

theorem issues_collect (plain : ReportsDiagnostics parts) :
    (collect parts members).issues = parts.flatMap fun part =>
      (part.2.rule.parse (Json.memberOrNull members part.1)).issues.map
        (Issue.under (.key part.1)) := by
  rw [collect, Validation.issues_all, List.flatMap_map]
  refine List.flatMap_congr fun part hpart => ?_
  rw [create_mapError (plain part hpart), Validation.issues_under, Validation.issues_map]

theorem issues_asObject (written : PartsWritten parts members) :
    ((asObject parts).parse (.object members)).issues = parts.flatMap fun part =>
      (part.2.rule.parse (Json.memberOrNull members part.1)).issues.map
        (Issue.under (.key part.1)) := by
  rw [asObject, Rule.issues_object, List.flatMap_map, if_neg Bool.false_ne_true,
    List.append_nil]
  refine List.flatMap_congr fun part hpart => ?_
  rw [fieldValue_brandedRule, Rule.issues_fieldValue (written part hpart)]

/-! ### Successes -/

/-- Collecting succeeds when every part accepts the value under its key. -/
theorem collect_eq_success (plain : ReportsDiagnostics parts) {values : List (Branded Output)} :
    collect parts members = .success values ↔
      List.Forall₂ (fun part value => ∃ output,
        part.2.rule.parse (Json.memberOrNull members part.1) = .success output ∧
          value = ⟨part.2.tag, output⟩) parts values := by
  have hparts : (parts.map fun part =>
      (part.2.create (Json.memberOrNull members part.1)).mapError fun e =>
        e.diagnostics.under (.key part.1)) =
      parts.map fun part =>
        ((part.2.rule.parse (Json.memberOrNull members part.1)).map
          (Branded.mk part.2.tag)).mapError (·.under (.key part.1)) :=
    List.map_congr_left fun part hpart => create_mapError (plain part hpart) _ _
  rw [collect, hparts, Validation.all_eq_success, ← List.forall₂_eq_eq_eq,
    List.forall₂_map_left_iff, List.forall₂_map_right_iff]
  simp only [Validation.mapError_eq_success, Validation.map_eq_success, eq_comm]

theorem map_snd_fieldMember (name : String) (given : Option Json) (value : Json) :
    (Rule.fieldMember name given value).map Prod.snd =
      if given.isNone && value.isNull then none else some value := by
  cases given <;> cases value <;> rfl

/-- What the object rule makes of an object whose members are accepted one by one holds their
written forms, and leaves out those that are null under a key that was absent. -/
theorem asObject_of_collect (distinct : (parts.map Prod.fst).Nodup)
    (plain : ReportsDiagnostics parts) (written : PartsWritten parts members)
    {values : List (Branded Output)} (h : collect parts members = .success values) :
    ∃ made, (asObject parts).parse (.object members) = .success (.object made) ∧
      (made.Pairwise fun a b => a.1 < b.1) ∧
      (∀ member ∈ made, member.1 ∈ parts.map Prod.fst) ∧
      List.Forall₂ (fun part value => ∃ json, value.value.toJson = .ok json ∧
        made.lookup part.1 =
          if (members.lookup part.1).isNone && json.isNull then none else some json)
        parts values := by
  have hissues : ((asObject parts).parse (.object members)).issues = [] := by
    rw [issues_asObject written, ← issues_collect plain, h]
    rfl
  cases hparse : (asObject parts).parse (.object members) with
  | failure d =>
    rw [hparse] at hissues
    cases hissues
  | success output =>
    obtain ⟨_, ⟨rfl⟩, rfl, -, -⟩ := Rule.parse_object_eq_success.1 hparse
    have hdistinct : ((parts.map fun part => (part.1, part.2.brandedRule)).map Prod.fst).Nodup := by
      rwa [List.map_map]
    refine ⟨_, rfl, Json.sorted_ofPairs _, ?_, ?_⟩
    · intro member hmember
      have hdeclared := Rule.unrecognized_eq_nil.1 Rule.unrecognized_output member hmember
      rwa [List.map_map] at hdeclared
    · have hall := (List.forall₂_and_left parts values).2
        ⟨fun part hpart => hpart, (collect_eq_success plain).1 h⟩
      refine hall.imp ?_
      rintro part value ⟨hpart, output, houtput, rfl⟩
      obtain ⟨json, hjson⟩ := written part hpart output houtput
      have hvalue : part.2.brandedRule.fieldValue (Json.memberOrNull members part.1) =
          .success json := by
        rw [fieldValue_brandedRule]
        exact Rule.fieldValue_eq_success.2 ⟨output, houtput, hjson⟩
      refine ⟨json, hjson, ?_⟩
      rw [← map_snd_fieldMember part.1]
      exact Rule.lookup_output hdistinct (List.mem_map_of_mem hpart) hvalue

/-- **Collecting by hand agrees with the object rule.** For distinct keys, refinements that
report their diagnostics and values that can be written, one fails exactly when the other does,
with the same diagnostics. When both succeed, the object holds the written form of the value of
each key, except for those that are null under a key that was absent, and nothing else. -/
theorem collect_agrees (distinct : (parts.map Prod.fst).Nodup)
    (plain : ReportsDiagnostics parts) (written : PartsWritten parts members) :
    (∀ d, (asObject parts).parse (.object members) = .failure d ↔
      collect parts members = .failure d) ∧
    ∀ values, collect parts members = .success values →
      ∃ made, (asObject parts).parse (.object members) = .success (.object made) ∧
        (made.Pairwise fun a b => a.1 < b.1) ∧
        (∀ member ∈ made, member.1 ∈ parts.map Prod.fst) ∧
        List.Forall₂ (fun part value => ∃ json, value.value.toJson = .ok json ∧
          made.lookup part.1 =
            if (members.lookup part.1).isNone && json.isNull then none else some json)
          parts values := by
  refine ⟨fun d => ?_, fun values h => asObject_of_collect distinct plain written h⟩
  rw [Validation.eq_failure_iff, Validation.eq_failure_iff, issues_asObject written,
    issues_collect plain]

/-- The parts of a sign-up: a mail address, an age, and a nickname that may be missing. -/
def signUp : List (String × Refinement RefinementError) :=
  [("mail", .ofRule ⟨"Email"⟩ (.string ⟨[.trim], [.email]⟩)),
   ("age", .ofRule ⟨"Age"⟩ (.integer ⟨[.gte 18, .lte 150]⟩)),
   ("nick", .ofRule ⟨"Username"⟩ (.optional (.string .any)))]

/-- A sign-up without a nickname. -/
def givenSignUp : List (String × Json) :=
  [("age", .number (.whole 36 rfl)), ("mail", .string " ada@dev.com "), ("referrer", .null)]

/-- The values of the sign-up are the members that the object rule makes of it, but for the
nickname. -/
theorem collect_signUp :
    (signUp.map Prod.fst).Nodup ∧ ReportsDiagnostics signUp ∧ PartsWritten signUp givenSignUp ∧
      collect signUp givenSignUp = .success
        [⟨⟨"Email"⟩, .string "ada@dev.com"⟩, ⟨⟨"Age"⟩, .integer 36⟩, ⟨⟨"Username"⟩, .absent⟩] ∧
      ∃ made, (asObject signUp).parse (.object givenSignUp) = .success (.object made) ∧
        made.lookup "mail" = some (.string "ada@dev.com") ∧
        made.lookup "age" = some (.number (.whole 36 rfl)) ∧ made.lookup "nick" = none := by
  have distinct : (signUp.map Prod.fst).Nodup := by decide
  have plain : ReportsDiagnostics signUp := by simp [signUp, ReportsDiagnostics, ofRule]
  have written : PartsWritten signUp givenSignUp := by
    intro part hpart output houtput
    refine Rule.exists_toJson ?_ houtput
    revert part
    simp [signUp, ofRule, Rule.Everywhere, Rule.Unmapped]
  have hcollect : collect signUp givenSignUp = .success
      [⟨⟨"Email"⟩, .string "ada@dev.com"⟩, ⟨⟨"Age"⟩, .integer 36⟩,
       ⟨⟨"Username"⟩, .absent⟩] := by
    rfl
  obtain ⟨made, hparse, -, -, hmade⟩ := (collect_agrees distinct plain written).2 _ hcollect
  simp only [signUp, List.forall₂_cons] at hmade
  obtain ⟨⟨_, ⟨rfl⟩, hmail⟩, ⟨_, ⟨rfl⟩, hage⟩, ⟨_, ⟨rfl⟩, hnick⟩, -⟩ := hmade
  exact ⟨distinct, plain, written, hcollect, made, hparse, hmail, hage, hnick⟩

end Parts
end Refinement
end Assay
