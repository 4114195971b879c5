import Assay.Proofs.PatternLanguage
import Assay.Rule.Strings

/-!
# Formats and their texts

The two formats that a rule knows by name are patterns that are written down as trees. Reading the
text of a format gives a tree of another form: what follows one another is grouped from the left,
and so are the ranges of a set. A pattern is straightened by writing what it consists of as one
list; a search does not tell the difference, and straightened the two trees are the same.

* `Pattern.straightened`: the pattern with its parts in one list, and so inside of its parts;
* `Pattern.ends_straightened`: from any positions the search comes to the same ones;
* `StringCheck.email_of_source`, `StringCheck.uuid_of_source`: the check for a format is the check
  for the pattern that is read from its text.
-/

namespace Assay

/-! ### Straightening -/

/-- The sets that a union is made of. -/
def CharSet.parts : CharSet → List CharSet
  | empty => []
  | union a b => a.parts ++ b.parts
  | set => [set]

theorem CharSet.containsCode_unions_append (sets others : List CharSet) (n : Nat) :
    (unions (sets ++ others)).containsCode n =
      ((unions sets).containsCode n || (unions others).containsCode n) := by
  induction sets with
  | nil => rfl
  | cons set rest ih =>
    show (set.containsCode n || (unions (rest ++ others)).containsCode n) =
      (set.containsCode n || (unions rest).containsCode n || (unions others).containsCode n)
    rw [ih, Bool.or_assoc]

theorem CharSet.containsCode_parts (set : CharSet) (n : Nat) :
    (unions set.parts).containsCode n = set.containsCode n := by
  induction set with
  | empty => rfl
  | union a b iha ihb => rw [parts, containsCode_unions_append, iha, ihb, containsCode]
  | _ => exact Bool.or_false _

namespace Pattern

/-- The patterns that follow one another in a pattern, each with its own parts in one list. -/
def parts : Pattern → List Pattern
  | empty => []
  | chars set => [chars (.unions set.parts)]
  | assert assertion => [assert assertion]
  | seq p q => p.parts ++ q.parts
  | alt p q => [alt (seqs p.parts) (seqs q.parts)]
  | times p count => [times (seqs p.parts) count]
  | upTo _ 0 => []
  | upTo p (count + 1) => [upTo (seqs p.parts) (count + 1)]
  | star p => [star (seqs p.parts)]

/-- The pattern as one list of parts. -/
def straightened (p : Pattern) : Pattern := seqs p.parts

end Pattern

/-! ### Sets of positions -/

section Positions

variable {text : List Char} {f g : Nat → Nat} {starts : Nat}

theorem Within.and (h : Within text starts) (positions : Nat) :
    Within text (starts &&& positions) := by
  intro i hi
  rw [Nat.testBit_and, Bool.and_eq_true] at hi
  exact h i hi.1

theorem Within.or {others : Nat} (h : Within text starts) (hothers : Within text others) :
    Within text (starts ||| others) := by
  intro i hi
  rw [Nat.testBit_or, Bool.or_eq_true] at hi
  exact hi.elim (h i) (hothers i)

/-- All positions of a set in a text are among all positions of the text. -/
theorem Within.and_allPositions (h : Within text starts) :
    starts &&& allPositions text.length = starts := by
  refine Nat.eq_of_testBit_eq fun i => ?_
  rw [Nat.testBit_and, Bool.and_eq_left_iff_imp, testBit_allPositions]
  exact h i

theorem within_repeatStep (hf : ∀ starts, Within text starts → Within text (f starts))
    (count : Nat) (h : Within text starts) : Within text (repeatStep f count starts) := by
  rw [repeatStep_eq_repeat]
  induction count with
  | zero => exact h
  | succ count ih => exact hf _ ih

theorem within_reach (hf : ∀ starts, Within text starts → Within text (f starts)) (fuel : Nat)
    (h : Within text starts) : Within text (reach f fuel starts) := by
  induction fuel generalizing starts with
  | zero => exact h
  | succ fuel ih =>
    rw [Follows.reach_succ]
    exact ih (h.or (hf starts h))

/-- Repeating steps that agree within a text comes to the same positions. -/
theorem repeatStep_congr (hf : ∀ starts, Within text starts → Within text (f starts))
    (hfg : ∀ starts, Within text starts → g starts = f starts) (count : Nat)
    (h : Within text starts) : repeatStep g count starts = repeatStep f count starts := by
  rw [repeatStep_eq_repeat, repeatStep_eq_repeat]
  induction count with
  | zero => rfl
  | succ count ih =>
    have hwithin : Within text (Nat.repeat f count starts) := by
      rw [← repeatStep_eq_repeat]
      exact within_repeatStep hf count h
    rw [Nat.repeat, Nat.repeat, ih, hfg _ hwithin]

theorem reach_congr (hf : ∀ starts, Within text starts → Within text (f starts))
    (hfg : ∀ starts, Within text starts → g starts = f starts) (fuel : Nat)
    (h : Within text starts) : reach g fuel starts = reach f fuel starts := by
  induction fuel generalizing starts with
  | zero => rfl
  | succ fuel ih =>
    rw [Follows.reach_succ, Follows.reach_succ, hfg starts h, ih (h.or (hf starts h))]

end Positions

/-! ### The search -/

namespace Pattern

variable {text : List Char} {starts : Nat}

/-- A search does not leave the text. -/
theorem within_ends (p : Pattern) (h : Within text starts) :
    Within text ((p.over text).ends text.length starts) := by
  induction p generalizing starts with
  | empty => exact h.and _
  | chars set => exact (Follows.lettersOf set.contains).within h
  | assert assertion => exact h.and _
  | seq p q ihp ihq => exact ihq (ihp h)
  | alt p q ihp ihq => exact (ihp h).or (ihq h)
  | times p count ih => exact within_repeatStep (fun _ => ih) count h
  | upTo p count ih => exact within_reach (fun _ => ih) count h
  | star p ih => exact within_reach (fun _ => ih) (text.length + 1) h

/-- One list of patterns and then another are searched for one after the other. -/
theorem ends_seqs_append (ps qs : List Pattern) (h : Within text starts) :
    ((seqs (ps ++ qs)).over text).ends text.length starts =
      ((seqs qs).over text).ends text.length
        (((seqs ps).over text).ends text.length starts) := by
  induction ps generalizing starts with
  | nil =>
    show _ = ((seqs qs).over text).ends text.length (starts &&& allPositions text.length)
    rw [h.and_allPositions]
    rfl
  | cons p rest ih => exact ih (p.within_ends h)

/-- A list of one pattern is searched for as the pattern is. -/
theorem ends_seqs_singleton (p : Pattern) (h : Within text starts) :
    ((seqs [p]).over text).ends text.length starts = (p.over text).ends text.length starts :=
  (p.within_ends h).and_allPositions

/-- **Straightening changes nothing.** From any set of positions, the search for the straightened
pattern comes to the same positions. -/
theorem ends_straightened (p : Pattern) (h : Within text starts) :
    (p.straightened.over text).ends text.length starts =
      (p.over text).ends text.length starts := by
  induction p generalizing starts with
  | empty => rfl
  | chars set =>
    have hcontains : (CharSet.unions set.parts).contains = set.contains :=
      funext fun c => set.containsCode_parts c.toNat
    refine (ends_seqs_singleton _ h).trans ?_
    rw [Pattern.over, Pattern.over, hcontains]
  | assert assertion => exact ends_seqs_singleton _ h
  | seq p q ihp ihq =>
    refine (ends_seqs_append _ _ h).trans ?_
    show (q.straightened.over text).ends _ ((p.straightened.over text).ends _ starts) = _
    rw [ihp h, ihq (p.within_ends h)]
    rfl
  | alt p q ihp ihq =>
    refine (ends_seqs_singleton _ h).trans ?_
    show (p.straightened.over text).ends _ starts ||| (q.straightened.over text).ends _ starts = _
    rw [ihp h, ihq h]
    rfl
  | times p count ih =>
    refine (ends_seqs_singleton _ h).trans ?_
    exact repeatStep_congr (fun _ => p.within_ends) (fun _ => ih) count h
  | upTo p count ih =>
    cases count with
    | zero => exact h.and_allPositions
    | succ count =>
      refine (ends_seqs_singleton _ h).trans ?_
      exact reach_congr (fun _ => p.within_ends) (fun _ => ih) (count + 1) h
  | star p ih =>
    refine (ends_seqs_singleton _ h).trans ?_
    exact reach_congr (fun _ => p.within_ends) (fun _ => ih) (text.length + 1) h

/-- A pattern that is read from a text and is another one when both are straightened is found in
the same texts. -/
theorem exists_found_eq (source : String) (p : Pattern)
    (h : (Regex.ofSource? source).map (fun regex => regex.pattern.straightened) =
      some p.straightened) :
    ∃ regex, Regex.ofSource? source = some regex ∧
      ∀ text, regex.pattern.found text = p.found text := by
  obtain ⟨regex, hregex, hsame⟩ := Option.map_eq_some_iff.1 h
  refine ⟨regex, hregex, fun text => ?_⟩
  have hall : Within text (allPositions text.length) := fun i => testBit_allPositions.1
  rw [found, found, ← ends_straightened _ hall, ← ends_straightened p hall, hsame]

end Pattern

/-! ### The two formats -/

namespace StringCheck

/-- **The email check is the check for its text.** The text of the format can be read, and the
strings that pass the check are those in which the pattern is found that is read from it. -/
theorem email_of_source : ∃ regex, Regex.ofSource? Pattern.emailSource = some regex ∧
    ∀ s, (pattern regex).holds s = email.holds s := by
  obtain ⟨regex, hregex, hfound⟩ :=
    Pattern.exists_found_eq Pattern.emailSource .email (by decide +kernel)
  exact ⟨regex, hregex, fun s => hfound s.toList⟩

/-- **The uuid check is the check for its text.** The same for identifiers. -/
theorem uuid_of_source : ∃ regex, Regex.ofSource? Pattern.uuidSource = some regex ∧
    ∀ s, (pattern regex).holds s = uuid.holds s := by
  obtain ⟨regex, hregex, hfound⟩ :=
    Pattern.exists_found_eq Pattern.uuidSource .uuid (by decide +kernel)
  exact ⟨regex, hregex, fun s => hfound s.toList⟩

end StringCheck
end Assay
