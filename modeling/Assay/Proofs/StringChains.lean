import Assay.Proofs.Acceptance
import Assay.Proofs.Checks

/-!
# Chains of calls on string rules

A chain of calls mixes transforms and checks in any way. What counts is the order of the transforms
among themselves and the order of the checks among themselves: all transforms are run before the
first check, wherever they stand.

* `StringCall.transforms`, `StringCall.checks`: the two parts of a chain;
* `ofCalls_eq`: the rule that a chain makes, by these parts;
* `issues_eq_map`: one issue for each condition that is not met;
* `parse_of_more_checks`, `failure_of_more_checks`: what more checks at the end change;
* `chain_outcome`: the whole outcome of a chain.
-/

namespace Assay

/-! ### The parts of a chain -/

namespace StringCall

/-- The transform that a call adds, if it adds one. -/
def transform? : StringCall → Option StringTransform
  | transform t => some t
  | check _ => none

/-- The check that a call adds, if it adds one. -/
def check? : StringCall → Option StringCheck
  | transform _ => none
  | check c => some c

/-- The transforms of a chain in the order of the calls. -/
def transforms (calls : List StringCall) : List StringTransform := calls.filterMap transform?

/-- The checks of a chain in the order of the calls. -/
def checks (calls : List StringCall) : List StringCheck := calls.filterMap check?

/-- A chain with more checks at its end has the same transforms. -/
theorem transforms_append_checks (calls : List StringCall) (more : List StringCheck) :
    transforms (calls ++ more.map check) = transforms calls := by
  simp [transforms, transform?, List.filterMap_map, Function.comp_def]

theorem checks_append_checks (calls : List StringCall) (more : List StringCheck) :
    checks (calls ++ more.map check) = checks calls ++ more := by
  simp [checks, check?, List.filterMap_map, Function.comp_def]

end StringCall

namespace StringCheck

variable {check : StringCheck} {s : String}

instance : Decidable (check.Met s) := decidable_of_iff _ holds_iff

theorem issue?_of_met (h : check.Met s) : check.issue? s = none := if_pos (holds_iff.2 h)

theorem issue?_of_not_met (h : ¬check.Met s) : check.issue? s = some (check.violation s) :=
  if_neg fun hholds => h (holds_iff.1 hholds)

end StringCheck

namespace StringRule

theorem ofCalls_concat (calls : List StringCall) (c : StringCall) :
    ofCalls (calls ++ [c]) = (ofCalls calls).call c := by
  simp [ofCalls]

/-- A chain makes the rule of its transforms and its checks. -/
theorem ofCalls_eq (calls : List StringCall) :
    ofCalls calls = ⟨StringCall.transforms calls, StringCall.checks calls⟩ := by
  induction calls using List.reverseRecOn with
  | nil => rfl
  | append_singleton calls c ih =>
    rw [ofCalls_concat, ih]
    cases c <;> simp [call, StringCall.transforms, StringCall.checks, StringCall.transform?,
      StringCall.check?]

/-! ### Issues -/

/-- A string has one issue for each condition that it does not meet, in their order. -/
theorem issues_eq_map (rule : StringRule) (s : String) :
    rule.issues s =
      (rule.checks.filter fun check => ¬check.Met s).map fun check => check.violation s := by
  rw [← List.filterMap_eq_map, List.filterMap_filter]
  refine List.filterMap_congr fun check _ => ?_
  by_cases h : check.Met s
  · simp [StringCheck.issue?_of_met h, h]
  · simp [StringCheck.issue?_of_not_met h, h]

theorem issues_parse_string (rule : StringRule) (raw : String) :
    (rule.parse (.string raw)).issues = rule.issues (rule.canonical raw) := by
  rw [parse_string, Validation.issues_map, Rule.issues_checked]

theorem issues_append (ts : List StringTransform) (cs more : List StringCheck) (s : String) :
    issues ⟨ts, cs ++ more⟩ s = issues ⟨ts, cs⟩ s ++ issues ⟨ts, more⟩ s :=
  List.filterMap_append

/-! ### More checks -/

section MoreChecks

variable {ts : List StringTransform} {cs more : List StringCheck} {input : Json}

/-- With fewer checks an accepted input is accepted as the same value. -/
theorem parse_of_more_checks {v : String} (h : parse ⟨ts, cs ++ more⟩ input = .success v) :
    parse ⟨ts, cs⟩ input = .success v := by
  obtain ⟨raw, rfl, hcanonical, hissues⟩ := parse_eq_success.1 h
  rw [issues_append, List.append_eq_nil_iff] at hissues
  exact parse_eq_success.2 ⟨raw, rfl, hcanonical, hissues.1⟩

/-- With more checks a refused input is refused, and their issues come behind those that there
were. -/
theorem failure_of_more_checks {d : Diagnostics} (h : parse ⟨ts, cs⟩ input = .failure d)
    (more : List StringCheck) :
    ∃ e, parse ⟨ts, cs ++ more⟩ input = .failure e ∧ d.toList <+: e.toList := by
  have hprefix : (parse ⟨ts, cs⟩ input).issues <+: (parse ⟨ts, cs ++ more⟩ input).issues := by
    cases input with
    | string raw =>
      rw [issues_parse_string, issues_parse_string, issues_append]
      exact List.prefix_append _ _
    | _ => exact List.prefix_rfl
  cases hmore : parse ⟨ts, cs ++ more⟩ input with
  | success v =>
    rw [parse_of_more_checks hmore] at h
    cases h
  | failure e =>
    rw [h, hmore] at hprefix
    exact ⟨e, rfl, hprefix⟩

end MoreChecks

/-! ### The whole outcome -/

/-- **Chains of calls have a normal form.** The outcome of a chain depends on its transforms in
their order and on its checks in their order, and on nothing else. A string is brought into its
canonical form by all transforms, and it is accepted in this form when the form meets every check.
Otherwise its issues are one for each check that the form does not meet, in the order of the calls.
More checks at the end accept no other input, change no output, and only add issues behind the
others. -/
theorem chain_outcome (calls : List StringCall) :
    (∀ others, StringCall.transforms others = StringCall.transforms calls →
      StringCall.checks others = StringCall.checks calls →
      ∀ input, (ofCalls others).parse input = (ofCalls calls).parse input) ∧
    (∀ input : Json, input.kind ≠ .string →
      (ofCalls calls).parse input = .failure (.single (.invalidType "string" input))) ∧
    (∀ raw form, form = (StringCall.transforms calls).foldl (fun s t => t.apply s) raw →
      (∀ v, (ofCalls calls).parse (.string raw) = .success v ↔
        v = form ∧ ∀ check ∈ StringCall.checks calls, check.Met form) ∧
      ∀ d, (ofCalls calls).parse (.string raw) = .failure d ↔
        d.toList = ((StringCall.checks calls).filter fun check => ¬check.Met form).map
          fun check => check.violation form) ∧
    ∀ (more : List StringCheck) (input : Json),
      (∀ v, (ofCalls (calls ++ more.map .check)).parse input = .success v →
        (ofCalls calls).parse input = .success v) ∧
      ∀ d, (ofCalls calls).parse input = .failure d →
        ∃ e, (ofCalls (calls ++ more.map .check)).parse input = .failure e ∧
          d.toList <+: e.toList := by
  refine ⟨fun others htransforms hchecks input => ?_, fun input hkind => ?_, ?_, ?_⟩
  · rw [ofCalls_eq, ofCalls_eq, htransforms, hchecks]
  · cases input with
    | string raw => exact absurd rfl hkind
    | _ => rfl
  · rintro raw form rfl
    rw [ofCalls_eq]
    constructor
    · intro v
      rw [parse_eq_success]
      constructor
      · rintro ⟨_, ⟨rfl⟩, rfl, hissues⟩
        exact ⟨rfl, issues_eq_nil.1 hissues⟩
      · rintro ⟨rfl, hmet⟩
        exact ⟨raw, rfl, rfl, issues_eq_nil.2 hmet⟩
    · intro d
      rw [Validation.eq_failure_iff, issues_parse_string, issues_eq_map, eq_comm]
      rfl
  · intro more input
    rw [ofCalls_eq, ofCalls_eq, StringCall.transforms_append_checks,
      StringCall.checks_append_checks]
    exact ⟨fun v => parse_of_more_checks, fun d hd => failure_of_more_checks hd more⟩

/-- A chain for short codes in capital letters, with the checks in between the transforms. -/
def codeCalls : List StringCall :=
  [.check (.maxLength 3), .transform .trim, .check (.startsWith "SS"), .transform .uppercase,
    .check (.endsWith "A")]

/-- The same calls with all transforms in front. -/
def sortedCodeCalls : List StringCall :=
  [.transform .trim, .transform .uppercase, .check (.maxLength 3), .check (.startsWith "SS"),
    .check (.endsWith "A")]

/-- A code of four characters is accepted, since without blanks and in capital letters it has three,
and a code of four letters is refused, since in capital letters it has five. -/
theorem chain_outcome_codes :
    StringCall.transforms sortedCodeCalls = StringCall.transforms codeCalls ∧
      StringCall.checks sortedCodeCalls = StringCall.checks codeCalls ∧
      (ofCalls sortedCodeCalls).parse (.string " ßa ") = .success "SSA" ∧
      (ofCalls codeCalls).parse (.string "ßtra") = .failure
        (.single (StringCheck.tooLong 3 "Too big: expected string to have <=3 characters")) ∧
      (ofCalls codeCalls).parse .null = .failure (.single (.invalidType "string" .null)) ∧
      ∃ e, (ofCalls (codeCalls ++ [.check (.includes "-")])).parse (.string "ßtra") = .failure e ∧
        [StringCheck.tooLong 3 "Too big: expected string to have <=3 characters"] <+: e.toList := by
  obtain ⟨hsame, hother, hstring, hmore⟩ := chain_outcome codeCalls
  have htransforms : StringCall.transforms sortedCodeCalls = StringCall.transforms codeCalls := rfl
  have hchecks : StringCall.checks sortedCodeCalls = StringCall.checks codeCalls := rfl
  have haccept : (ofCalls codeCalls).parse (.string " ßa ") = .success "SSA" :=
    ((hstring " ßa " "SSA" (by decide +kernel)).1 _).2 ⟨rfl, by decide +kernel⟩
  have hrefuse : (ofCalls codeCalls).parse (.string "ßtra") = .failure
      (.single (StringCheck.tooLong 3 "Too big: expected string to have <=3 characters")) :=
    ((hstring "ßtra" "SSTRA" (by decide +kernel)).2 _).2 (by decide +kernel)
  exact ⟨htransforms, hchecks, (hsame _ htransforms hchecks _).trans haccept, hrefuse,
    hother .null (by decide), (hmore [.includes "-"] _).2 _ hrefuse⟩

end StringRule
end Assay
