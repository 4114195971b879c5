import Assay.Proofs.Acceptance
import Assay.Rule.Functions

/-!
# Chains of wrappers

A condition, a function, the acceptance of null and a tag are put around a rule one after the
other, the innermost first. Null is caught by the outermost optional rule, and nothing inside it
is looked at. Any other input goes to the rule in the middle, whose diagnostics pass through all
wrappers; its output goes through them in order, up to the first condition that fails.

* `Wrapper.Passes`, `Wrapper.FirstFailure`: the conditions of a chain, by their place in it;
* `Rule.parse_around`, `Rule.parse_wrapped`: one wrapper, and a chain, as steps behind a rule;
* `Rule.wrapped_outcome`: the outcome of a chain around any rule.
-/

namespace Assay

/-- What is put around a rule. -/
inductive Wrapper where
  | ensure (holds : Output → Bool) (message : String)
  | transform (f : Output → Output)
  | optional
  | brand (tag : Tag)

namespace Wrapper

/-- The rule with the wrapper around it. -/
def around (rule : Rule) : Wrapper → Rule
  | ensure holds message => .ensure rule holds message
  | transform f => .transform rule f
  | optional => .optional rule
  | brand tag => .brand tag rule

/-- What the wrapper makes of an output, if it lets it pass. -/
def output (start : Output) : Wrapper → Output
  | ensure _ _ => start
  | transform f => f start
  | optional => .present start
  | brand tag => .branded tag start

/-- What a chain of wrappers makes of an output, if they all let it pass. -/
def outputs (start : Output) (wrappers : List Wrapper) : Output := wrappers.foldl output start

/-- Each condition in a chain holds of what the wrappers before it make of the output. -/
def Passes (wrappers : List Wrapper) (start : Output) : Prop :=
  ∀ before holds message behind, wrappers = before ++ ensure holds message :: behind →
    holds (outputs start before) = true

/-- The first condition in a chain that fails has the message. -/
def FirstFailure (wrappers : List Wrapper) (start : Output) (message : String) : Prop :=
  ∃ before holds behind, wrappers = before ++ ensure holds message :: behind ∧
    Passes before start ∧ holds (outputs start before) = false

/-- The outcome of running a chain on an output: the composed output if all conditions hold on the
way, and else the one issue of the first that fails. -/
structure Decides (wrappers : List Wrapper) (start : Output)
    (outcome : Validation Diagnostics Output) : Prop where
  success_iff : ∀ output, outcome = .success output ↔
    Passes wrappers start ∧ output = outputs start wrappers
  failure_iff : ∀ d, outcome = .failure d ↔
    ∃ message, FirstFailure wrappers start message ∧ d = .single (.custom message)

/-! ### The run of a chain -/

/-- Whether the wrapper lets an output pass. -/
def lets (start : Output) : Wrapper → Bool
  | ensure holds _ => holds start
  | _ => true

/-- One wrapper as a step behind a rule. -/
def step (start : Output) : Wrapper → Validation Diagnostics Output
  | ensure holds message =>
    if holds start then .success start else .failure (.single (.custom message))
  | w => .success (w.output start)

/-- A chain of wrappers as steps behind a rule. -/
def run : List Wrapper → Output → Validation Diagnostics Output
  | [], start => .success start
  | w :: rest, start => (w.step start).andThen (run rest)

variable {w : Wrapper} {wrappers : List Wrapper} {start : Output}

theorem step_eq_success {o : Output} :
    w.step start = .success o ↔ w.lets start = true ∧ o = w.output start := by
  cases w with
  | ensure holds message =>
    simp only [step, lets, output]
    split_ifs with h
    · simp [h, eq_comm]
    · simp [h]
  | _ =>
    simp only [step, lets, true_and, Validation.success.injEq]
    exact eq_comm

theorem step_eq_failure {d : Diagnostics} : w.step start = .failure d ↔
    ∃ holds message, w = ensure holds message ∧ holds start = false ∧
      d = .single (.custom message) := by
  cases w with
  | ensure holds message =>
    simp only [step, ensure.injEq]
    constructor
    · intro h
      split_ifs at h with hholds
      cases h
      exact ⟨holds, message, ⟨rfl, rfl⟩, by simpa using hholds, rfl⟩
    · rintro ⟨_, _, ⟨rfl, rfl⟩, hholds, rfl⟩
      simp [hholds]
  | _ => simp [step]

@[simp] theorem passes_nil : Passes [] start := by
  simp [Passes]

theorem passes_cons : Passes (w :: wrappers) start ↔
    w.lets start = true ∧ Passes wrappers (w.output start) := by
  constructor
  · intro h
    constructor
    · cases w with
      | ensure holds message => exact h [] holds message wrappers rfl
      | _ => rfl
    · rintro before holds message behind rfl
      exact h (w :: before) holds message behind rfl
  · rintro ⟨hw, hrest⟩ before holds message behind h
    -- with nothing before it, the condition is the first wrapper itself
    cases before with
    | nil =>
      obtain ⟨rfl, rfl⟩ := List.cons.inj h
      exact hw
    | cons v before =>
      obtain ⟨rfl, rfl⟩ := List.cons.inj h
      exact hrest before holds message behind rfl

theorem firstFailure_cons {message : String} : FirstFailure (w :: wrappers) start message ↔
    (∃ holds, w = ensure holds message ∧ holds start = false) ∨
      w.lets start = true ∧ FirstFailure wrappers (w.output start) message := by
  constructor
  · rintro ⟨before, holds, behind, h, hpasses, hholds⟩
    cases before with
    | nil =>
      obtain ⟨rfl, rfl⟩ := List.cons.inj h
      exact .inl ⟨holds, rfl, hholds⟩
    | cons v before =>
      obtain ⟨rfl, rfl⟩ := List.cons.inj h
      obtain ⟨hw, hrest⟩ := passes_cons.1 hpasses
      exact .inr ⟨hw, before, holds, behind, rfl, hrest, hholds⟩
  · rintro (⟨holds, rfl, hholds⟩ | ⟨hw, before, holds, behind, rfl, hpasses, hholds⟩)
    · exact ⟨[], holds, wrappers, rfl, passes_nil, hholds⟩
    · exact ⟨w :: before, holds, behind, rfl, passes_cons.2 ⟨hw, hpasses⟩, hholds⟩

theorem run_eq_success {o : Output} : run wrappers start = .success o ↔
    Passes wrappers start ∧ o = outputs start wrappers := by
  induction wrappers generalizing start with
  | nil =>
    rw [run, Validation.success.injEq, and_iff_right passes_nil, eq_comm]
    rfl
  | cons w rest ih =>
    rw [run, Validation.andThen_eq_success, passes_cons]
    constructor
    · rintro ⟨a, hstep, hrest⟩
      obtain ⟨hw, rfl⟩ := step_eq_success.1 hstep
      obtain ⟨hpasses, rfl⟩ := ih.1 hrest
      exact ⟨⟨hw, hpasses⟩, rfl⟩
    · rintro ⟨⟨hw, hpasses⟩, rfl⟩
      exact ⟨_, step_eq_success.2 ⟨hw, rfl⟩, ih.2 ⟨hpasses, rfl⟩⟩

theorem run_eq_failure {d : Diagnostics} : run wrappers start = .failure d ↔
    ∃ message, FirstFailure wrappers start message ∧ d = .single (.custom message) := by
  induction wrappers generalizing start with
  | nil => simp [run, FirstFailure]
  | cons w rest ih =>
    rw [run, Validation.andThen_eq_failure]
    simp only [firstFailure_cons]
    constructor
    · rintro (hstep | ⟨a, hstep, hrest⟩)
      · obtain ⟨holds, message, rfl, hholds, rfl⟩ := step_eq_failure.1 hstep
        exact ⟨message, .inl ⟨holds, rfl, hholds⟩, rfl⟩
      · obtain ⟨hw, rfl⟩ := step_eq_success.1 hstep
        obtain ⟨message, hfirst, rfl⟩ := ih.1 hrest
        exact ⟨message, .inr ⟨hw, hfirst⟩, rfl⟩
    · rintro ⟨message, ⟨holds, rfl, hholds⟩ | ⟨hw, hfirst⟩, rfl⟩
      · exact .inl (step_eq_failure.2 ⟨holds, message, rfl, hholds, rfl⟩)
      · exact .inr ⟨_, step_eq_success.2 ⟨hw, rfl⟩, ih.2 ⟨message, hfirst, rfl⟩⟩

/-- The conditions of a chain decide its run. -/
theorem decides_run (wrappers : List Wrapper) (start : Output) :
    Decides wrappers start (run wrappers start) :=
  ⟨fun _ => run_eq_success, fun _ => run_eq_failure⟩

end Wrapper

/-! ### Chains around a rule -/

namespace Rule

/-- A rule with a chain of wrappers around it, the innermost first. -/
def wrapped (rule : Rule) (wrappers : List Wrapper) : Rule := wrappers.foldl Wrapper.around rule

/-- A wrapper is a step behind the rule inside, unless it catches null. -/
theorem parse_around {rule : Rule} {w : Wrapper} {input : Json}
    (h : input = .null → w ≠ .optional) :
    (w.around rule).parse input = (rule.parse input).andThen fun o => w.step o := by
  cases w with
  | ensure holds message => rfl
  | optional =>
    rw [Wrapper.around, parse_optional_of_ne_null fun hnull => h hnull rfl]
    exact Validation.map_eq_andThen _ _
  | transform f => exact Validation.map_eq_andThen _ _
  | brand tag => exact Validation.map_eq_andThen _ _

/-- A chain is run behind the rule in the middle, unless it catches null. -/
theorem parse_wrapped {rule : Rule} {wrappers : List Wrapper} {input : Json}
    (h : input = .null → .optional ∉ wrappers) :
    (rule.wrapped wrappers).parse input = (rule.parse input).andThen (Wrapper.run wrappers) := by
  induction wrappers generalizing rule with
  | nil => cases hrule : rule.parse input <;> simp [wrapped, hrule, Validation.andThen, Wrapper.run]
  | cons w rest ih =>
    have hw : input = .null → w ≠ .optional := by
      rintro hnull rfl
      exact h hnull List.mem_cons_self
    have hrest : input = .null → .optional ∉ rest := by
      intro hnull hmem
      exact h hnull (List.mem_cons_of_mem w hmem)
    have hcons : rule.wrapped (w :: rest) = (w.around rule).wrapped rest := rfl
    rw [hcons, ih hrest, parse_around hw, Validation.andThen_assoc]
    rfl

/-- Null is caught by the outermost optional rule of a chain. -/
theorem parse_wrapped_null (rule : Rule) {inner outer : List Wrapper} (h : .optional ∉ outer) :
    (rule.wrapped (inner ++ .optional :: outer)).parse .null = Wrapper.run outer .absent := by
  have hsplit : rule.wrapped (inner ++ .optional :: outer) =
      (optional (rule.wrapped inner)).wrapped outer := List.foldl_append
  rw [hsplit, parse_wrapped fun _ => h]
  rfl

/-- The diagnostics of a chain are those of the rule in the middle, or the issue of one condition
whose own rule accepts the input. -/
theorem failure_of_wrapped {rule : Rule} {wrappers : List Wrapper} {input : Json} {d : Diagnostics}
    (h : (rule.wrapped wrappers).parse input = .failure d) :
    rule.parse input = .failure d ∨
      ∃ before holds message behind output, wrappers = before ++ .ensure holds message :: behind ∧
        (rule.wrapped before).parse input = .success output ∧ holds output = false ∧
        d = .single (.custom message) := by
  -- the outermost wrapper is the last; if it is optional, it has not seen null
  induction wrappers using List.reverseRecOn with
  | nil => exact .inl h
  | append_singleton wrappers w ih =>
    have hlast : rule.wrapped (wrappers ++ [w]) = w.around (rule.wrapped wrappers) :=
      List.foldl_append
    have hcatch : input = .null → w ≠ .optional := by
      rintro rfl rfl
      rw [hlast] at h
      cases h
    rw [hlast, parse_around hcatch, Validation.andThen_eq_failure] at h
    obtain hinside | ⟨output, haccept, hstep⟩ := h
    · obtain hrule | ⟨before, holds, message, behind, output, rfl, hrest⟩ := ih hinside
      · exact .inl hrule
      · exact .inr ⟨before, holds, message, behind ++ [w], output, by simp, hrest⟩
    · obtain ⟨holds, message, rfl, hholds, rfl⟩ := Wrapper.step_eq_failure.1 hstep
      exact .inr ⟨wrappers, holds, message, [], output, rfl, haccept, hholds, rfl⟩

/-- **Chains of wrappers.** Null is caught by the outermost optional rule, and only the wrappers
outside it are run, on the absent value. Otherwise the diagnostics of the rule in the middle stay as
they are, and its output goes through the wrappers in order until a condition fails. So the issue
of a condition never stands beside an issue of the rule that it is about. -/
theorem wrapped_outcome (rule : Rule) (wrappers : List Wrapper) (input : Json) :
    (∀ inner outer, input = .null → wrappers = inner ++ .optional :: outer → .optional ∉ outer →
      Wrapper.Decides outer .absent ((rule.wrapped wrappers).parse input)) ∧
    ((input = .null → .optional ∉ wrappers) →
      (∀ d, rule.parse input = .failure d → (rule.wrapped wrappers).parse input = .failure d) ∧
      ∀ start, rule.parse input = .success start →
        Wrapper.Decides wrappers start ((rule.wrapped wrappers).parse input)) ∧
    ∀ d, (rule.wrapped wrappers).parse input = .failure d →
      rule.parse input = .failure d ∨
        ∃ before holds message behind output, wrappers = before ++ .ensure holds message :: behind ∧
          (rule.wrapped before).parse input = .success output ∧ holds output = false ∧
          d = .single (.custom message) := by
  refine ⟨?_, fun huncaught => ⟨?_, ?_⟩, fun d => failure_of_wrapped⟩
  · rintro inner outer rfl rfl houter
    rw [parse_wrapped_null rule houter]
    exact Wrapper.decides_run outer .absent
  · intro d hrule
    rw [parse_wrapped huncaught, hrule]
    rfl
  · intro start hrule
    rw [parse_wrapped huncaught, hrule]
    exact Wrapper.decides_run wrappers start

/-- Wrappers for a hash tag that may be null in between, but has to be given in the end. -/
def hashTag : List Wrapper :=
  [.ensure Predicate.startsWithHash.holds "must start with #", .optional,
    .ensure Predicate.present.holds "must be given", .transform Mapper.wrap.apply,
    .brand ⟨"HashTag"⟩]

/-- Null, a string with and without a hash, and no string at all are given for a hash tag. The
string without a hash is refused by a condition whose own rule accepts it. -/
theorem wrapped_hashTag :
    ((string .any).wrapped hashTag).parse .null = .failure (.single (.custom "must be given")) ∧
      ((string .any).wrapped hashTag).parse (.string "#lean") =
        .success (.branded ⟨"HashTag"⟩ (.array [.present (.string "#lean")])) ∧
      ((string .any).wrapped hashTag).parse (.boolean true) =
        .failure (.single (.invalidType "string" (.boolean true))) ∧
      ((string .any).wrapped hashTag).parse (.string "lean") =
        .failure (.single (.custom "must start with #")) ∧
      ∃ before holds message behind output, hashTag = before ++ .ensure holds message :: behind ∧
        ((string .any).wrapped before).parse (.string "lean") = .success output ∧
        holds output = false := by
  have hlean : (string .any).parse (.string "lean") = .success (.string "lean") := rfl
  have hrefused : ((string .any).wrapped hashTag).parse (.string "lean") =
      .failure (.single (.custom "must start with #")) := by
    have hdecides := ((wrapped_outcome (string .any) hashTag (.string "lean")).2.1 nofun).2 _ hlean
    have hfirst : Wrapper.FirstFailure hashTag (.string "lean") "must start with #" :=
      ⟨[], _, _, rfl, Wrapper.passes_nil, rfl⟩
    exact (hdecides.failure_iff _).2 ⟨_, hfirst, rfl⟩
  refine ⟨?_, ?_, ?_, hrefused, ?_⟩
  · have hdecides := (wrapped_outcome (string .any) hashTag .null).1 (hashTag.take 1)
      (hashTag.drop 2) rfl rfl (by simp [hashTag])
    have hfirst : Wrapper.FirstFailure (hashTag.drop 2) .absent "must be given" :=
      ⟨[], _, _, rfl, Wrapper.passes_nil, rfl⟩
    exact (hdecides.failure_iff _).2 ⟨_, hfirst, rfl⟩
  · have hdecides := ((wrapped_outcome (string .any) hashTag (.string "#lean")).2.1 nofun).2 _ rfl
    have hpasses : Wrapper.Passes hashTag (.string "#lean") := by
      simp only [hashTag, Wrapper.passes_cons, Wrapper.passes_nil, and_true]
      exact ⟨rfl, rfl, rfl, rfl, rfl⟩
    exact (hdecides.success_iff _).2 ⟨hpasses, rfl⟩
  · exact ((wrapped_outcome (string .any) hashTag (.boolean true)).2.1 nofun).1 _ rfl
  · obtain hrule | ⟨before, holds, message, behind, output, hplace, haccept, hholds, -⟩ :=
      (wrapped_outcome (string .any) hashTag (.string "lean")).2.2 _ hrefused
    · rw [hlean] at hrule
      cases hrule
    · exact ⟨before, holds, message, behind, output, hplace, haccept, hholds⟩

end Rule
end Assay
