import Assay.Pattern.Matcher
import Mathlib.Computability.Language
import Mathlib.Tactic

/-!
# Patterns as languages

A pattern without assertions stands for a language, the set of the words that it matches. The
search with sets of positions follows the words of this language through the text: from a set of
positions it comes to just those to which a word leads.

* `Pattern.language`: the language of a pattern;
* `Leads`: a word of a language leads from one position of a text to another;
* `follows_ends`: the search comes to where the words lead, also through repetitions, which it
  ends after as many rounds as there are positions;
* `found_iff_infix`: a pattern is found where one of its words occurs;
* `found_anchored`: a pattern between the two ends of the text is found when the text is a word.
-/

open Computability

namespace Assay

/-! ### Words of letters -/

/-- The words of one letter that passes a test. -/
def lettersOf (p : Char → Bool) : Language Char := {word | ∃ c, p c = true ∧ word = [c]}

theorem mem_lettersOf {p : Char → Bool} {word : List Char} :
    word ∈ lettersOf p ↔ ∃ c, p c = true ∧ word = [c] := Iff.rfl

/-- Repeated letters are the words of this length whose letters all pass the test. -/
theorem mem_lettersOf_pow {p : Char → Bool} {count : Nat} {word : List Char} :
    word ∈ lettersOf p ^ count ↔ word.length = count ∧ ∀ c ∈ word, p c = true := by
  induction count generalizing word with
  | zero => simp +contextual [List.length_eq_zero_iff]
  | succ count ih =>
    rw [pow_succ', Language.mem_mul]
    constructor
    · rintro ⟨_, ⟨c, hc, rfl⟩, rest, hrest, rfl⟩
      obtain ⟨hlength, hall⟩ := ih.1 hrest
      exact ⟨by simp [hlength], by simpa using ⟨hc, hall⟩⟩
    · rintro ⟨hlength, hall⟩
      obtain ⟨c, rest, rfl⟩ := List.exists_cons_of_length_eq_add_one hlength
      obtain ⟨hc, hrest⟩ := List.forall_mem_cons.1 hall
      exact ⟨[c], ⟨c, hc, rfl⟩, rest, ih.2 ⟨by simpa using hlength, hrest⟩, rfl⟩

theorem mem_lettersOf_kstar {p : Char → Bool} {word : List Char} :
    word ∈ (lettersOf p)∗ ↔ ∀ c ∈ word, p c = true := by
  simp [Language.kstar_eq_iSup_pow, Language.mem_iSup, mem_lettersOf_pow]

/-- A number of letters and then any more of them are a word that is at least so long. -/
theorem mem_lettersOf_atLeast {p : Char → Bool} {low : Nat} {word : List Char} :
    word ∈ lettersOf p ^ low * (lettersOf p)∗ ↔ low ≤ word.length ∧ ∀ c ∈ word, p c = true := by
  simp only [Language.mem_mul, mem_lettersOf_pow, mem_lettersOf_kstar]
  constructor
  · rintro ⟨front, ⟨rfl, hfront⟩, behind, hbehind, rfl⟩
    exact ⟨by simp, List.forall_mem_append.2 ⟨hfront, hbehind⟩⟩
  · rintro ⟨hlow, hall⟩
    refine ⟨word.take low, ⟨List.length_take_of_le hlow, ?_⟩, word.drop low, ?_,
      List.take_append_drop low word⟩
    · exact fun c hc => hall c (List.mem_of_mem_take hc)
    · exact fun c hc => hall c (List.mem_of_mem_drop hc)

/-! ### The language of a pattern -/

namespace Pattern

/-- Whether a pattern has no assertions, so that it looks at nothing but what it matches. -/
def isPlain : Pattern → Bool
  | empty | chars _ => true
  | assert _ => false
  | seq p q | alt p q => p.isPlain && q.isPlain
  | times p _ | upTo p _ | star p => p.isPlain

/-- The words that a pattern without assertions matches. -/
def language : Pattern → Language Char
  | empty => 1
  | chars set => lettersOf set.contains
  | assert _ => 0
  | seq p q => p.language * q.language
  | alt p q => p.language + q.language
  | times p count => p.language ^ count
  | upTo p count => (1 + p.language) ^ count
  | star p => p.language∗

@[simp] theorem language_plus (p : Pattern) :
    (plus p).language = p.language * p.language∗ := rfl

@[simp] theorem language_option (p : Pattern) : (option p).language = 1 + p.language :=
  pow_one _

@[simp] theorem language_counted_none (p : Pattern) (low : Nat) :
    (counted p low none).language = p.language ^ low * p.language∗ := rfl

end Pattern

/-! ### Words that lead through a text -/

section Words

variable {text : List Char} {A B : Language Char} {i j k : Nat}

/-- Whether a word of a language leads from one position of a text to another. -/
def Leads (text : List Char) (words : Language Char) (i j : Nat) : Prop :=
  ∃ word ∈ words, word <+: text.drop i ∧ i + word.length = j

theorem Leads.mono (h : ∀ word ∈ A, word ∈ B) (hlead : Leads text A i j) : Leads text B i j := by
  obtain ⟨word, hword, hspan⟩ := hlead
  exact ⟨word, h word hword, hspan⟩

/-- A word does not lead out of the text. -/
theorem Leads.le_length (h : Leads text A i j) (hi : i ≤ text.length) : j ≤ text.length := by
  obtain ⟨word, -, hprefix, rfl⟩ := h
  have hlength := hprefix.length_le
  rw [List.length_drop] at hlength
  omega

@[simp] theorem leads_one : Leads text 1 i j ↔ i = j := by
  simp [Leads]

@[simp] theorem leads_add : Leads text (A + B) i j ↔ Leads text A i j ∨ Leads text B i j := by
  simp only [Leads, Language.mem_add, or_and_right, exists_or]

/-- A word in two parts leads past the position between them. -/
theorem leads_mul : Leads text (A * B) i k ↔ ∃ j, Leads text A i j ∧ Leads text B j k := by
  constructor
  · rintro ⟨_, ⟨u, hu, v, hv, rfl⟩, ⟨rest, hrest⟩, rfl⟩
    have hdrop : text.drop (i + u.length) = v ++ rest := by
      rw [← List.drop_drop, ← hrest]
      simp
    exact ⟨_, ⟨u, hu, ⟨v ++ rest, by rw [← hrest]; simp⟩, rfl⟩,
      v, hv, ⟨rest, hdrop.symm⟩, by simp [Nat.add_assoc]⟩
  · rintro ⟨_, ⟨u, hu, ⟨rest, hrest⟩, rfl⟩, v, hv, ⟨end_, hend⟩, rfl⟩
    have hdrop : text.drop (i + u.length) = rest := by
      rw [← List.drop_drop, ← hrest]
      simp
    refine ⟨u ++ v, Language.append_mem_mul hu hv, ⟨end_, ?_⟩, by simp [Nat.add_assoc]⟩
    rw [← hrest, ← hdrop, ← hend, List.append_assoc]

theorem leads_lettersOf {p : Char → Bool} :
    Leads text (lettersOf p) i j ↔ (∃ c, text[i]? = some c ∧ p c = true) ∧ i + 1 = j := by
  constructor
  · rintro ⟨_, ⟨c, hc, rfl⟩, ⟨rest, hrest⟩, rfl⟩
    refine ⟨⟨c, ?_, hc⟩, rfl⟩
    rw [← List.head?_drop, ← hrest]
    rfl
  · rintro ⟨⟨c, hchar, hc⟩, rfl⟩
    refine ⟨[c], ⟨c, hc, rfl⟩, ⟨(text.drop i).tail, ?_⟩, rfl⟩
    rw [List.singleton_append, List.cons_head?_tail]
    rw [List.head?_drop, hchar]
    rfl

/-- A repetition through a text needs no more rounds than the text has characters, since rounds
that match nothing can be left out. -/
theorem leads_kstar : Leads text A∗ i j ↔ Leads text ((1 + A) ^ (text.length + 1)) i j := by
  constructor
  · rintro ⟨_, hword, hprefix, rfl⟩
    obtain ⟨words, rfl, hwords⟩ := Language.mem_kstar_iff_exists_nonempty.1 hword
    -- no round is empty, so each of them takes a character of the text
    have hrounds : words.length ≤ words.flatten.length := by
      have hmap : (words.map List.length).length = words.length := List.length_map _
      rw [List.length_flatten, ← hmap]
      refine List.length_le_sum_of_one_le _ fun n hn => ?_
      obtain ⟨y, hy, rfl⟩ := List.mem_map.1 hn
      exact List.length_pos_iff.2 (hwords y hy).2
    have hlength := hprefix.length_le
    rw [List.length_drop] at hlength
    have hpow : words.flatten ∈ A ^ words.length :=
      Language.mem_pow.2 ⟨words, rfl, rfl, fun y hy => (hwords y hy).1⟩
    have hle : A ^ words.length ≤ (1 + A) ^ (text.length + 1) :=
      (pow_le_pow_left' le_add_self _).trans (pow_le_pow_right' le_self_add (by omega))
    exact ⟨_, hle hpow, hprefix, rfl⟩
  · have hle : (1 + A) ^ (text.length + 1) ≤ A∗ :=
      calc (1 + A) ^ (text.length + 1)
          ≤ A∗ ^ (text.length + 1) := pow_le_pow_left' (add_le one_le_kstar le_kstar) _
        _ ≤ A∗∗ := pow_le_kstar
        _ = A∗ := kstar_idem A
    exact Leads.mono fun word hword => hle hword

/-- The text is a word exactly when a word leads from its beginning to its end. -/
theorem leads_whole : Leads text A 0 text.length ↔ text ∈ A := by
  constructor
  · rintro ⟨word, hword, hprefix, hlength⟩
    rw [List.drop_zero] at hprefix
    rwa [← hprefix.eq_of_length (by omega)]
  · intro h
    exact ⟨text, h, List.prefix_rfl, by omega⟩

end Words

/-! ### The search -/

section Search

variable {text : List Char}

theorem testBit_positionsOf {holds : List Bool} {i : Nat} :
    (positionsOf holds).testBit i = true ↔ holds[i]? = some true := by
  induction holds generalizing i with
  | nil => simp [positionsOf]
  | cons b rest ih =>
    have hcons : positionsOf (b :: rest) = 2 * positionsOf rest + b.toNat := rfl
    cases i with
    | zero => cases b <;> simp [hcons, Nat.testBit_zero]
    | succ i =>
      have hhalf : (2 * positionsOf rest + b.toNat) / 2 = positionsOf rest := by
        cases b <;> simp; omega
      rw [hcons, Nat.testBit_succ, hhalf, ih, List.getElem?_cons_succ]

theorem testBit_allPositions {length i : Nat} :
    (allPositions length).testBit i = true ↔ i ≤ length := by
  rw [allPositions, Nat.one_shiftLeft, Nat.testBit_two_pow_sub_one, decide_eq_true_eq,
    Nat.lt_succ_iff]

/-- Whether all positions of a set are positions of the text. -/
def Within (text : List Char) (positions : Nat) : Prop :=
  ∀ i, positions.testBit i = true → i ≤ text.length

/-- Whether a step takes a set of positions to those to which a word of the language leads. -/
def Follows (text : List Char) (step : Nat → Nat) (words : Language Char) : Prop :=
  ∀ starts, Within text starts → ∀ j,
    (step starts).testBit j = true ↔ ∃ i, starts.testBit i = true ∧ Leads text words i j

namespace Follows

variable {f g : Nat → Nat} {A B : Language Char}

theorem within (h : Follows text f A) {starts : Nat} (hstarts : Within text starts) :
    Within text (f starts) := by
  intro j hj
  obtain ⟨i, hi, hlead⟩ := (h starts hstarts j).1 hj
  exact hlead.le_length (hstarts i hi)

protected theorem one : Follows text (fun starts => starts) 1 := by
  intro starts _ j
  simp

protected theorem add (hf : Follows text f A) (hg : Follows text g B) :
    Follows text (fun starts => f starts ||| g starts) (A + B) := by
  intro starts hstarts j
  simp only [Nat.testBit_or, Bool.or_eq_true, hf starts hstarts, hg starts hstarts, leads_add,
    and_or_left, exists_or]

protected theorem mul (hf : Follows text f A) (hg : Follows text g B) :
    Follows text (fun starts => g (f starts)) (A * B) := by
  intro starts hstarts k
  rw [hg (f starts) (hf.within hstarts)]
  simp only [hf starts hstarts, leads_mul]
  constructor
  · rintro ⟨j, ⟨i, hi, hfirst⟩, hsecond⟩
    exact ⟨i, hi, j, hfirst, hsecond⟩
  · rintro ⟨i, hi, j, hfirst, hsecond⟩
    exact ⟨j, ⟨i, hi, hfirst⟩, hsecond⟩

protected theorem pow (hf : Follows text f A) (count : Nat) :
    Follows text (repeatStep f count) (A ^ count) := by
  rw [funext (repeatStep_eq_repeat f count)]
  induction count with
  | zero => exact Follows.one
  | succ count ih =>
    rw [pow_succ]
    exact ih.mul hf

/-- Also when a repetition stops early, it has made all rounds. -/
theorem reach_succ (f : Nat → Nat) (fuel starts : Nat) :
    reach f (fuel + 1) starts = reach f fuel (starts ||| f starts) := by
  rw [reach]
  by_cases hstable : starts ||| f starts = starts
  · rw [if_pos hstable, hstable]
    cases fuel with
    | zero => rfl
    | succ fuel => rw [reach, if_pos hstable]
  · rw [if_neg hstable]

protected theorem reach (hf : Follows text f A) (fuel : Nat) :
    Follows text (reach f fuel) ((1 + A) ^ fuel) := by
  induction fuel with
  | zero => exact Follows.one
  | succ fuel ih =>
    rw [pow_succ', funext (reach_succ f fuel)]
    exact (Follows.one.add hf).mul ih

protected theorem kstar (hf : Follows text f A) :
    Follows text (reach f (text.length + 1)) A∗ := by
  intro starts hstarts j
  simp only [hf.reach _ starts hstarts, leads_kstar]

/-- A step over the letters that pass a test. -/
protected theorem lettersOf (p : Char → Bool) :
    Follows text (fun starts => (starts &&& positionsOf (text.map p)) <<< 1) (lettersOf p) := by
  intro starts _ j
  simp only [Nat.testBit_shiftLeft, Nat.testBit_and, Bool.and_eq_true, decide_eq_true_eq,
    testBit_positionsOf, List.getElem?_map, Option.map_eq_some_iff, leads_lettersOf]
  constructor
  · rintro ⟨hj, hstart, hletter⟩
    exact ⟨j - 1, hstart, hletter, by omega⟩
  · rintro ⟨i, hstart, hletter, rfl⟩
    exact ⟨by omega, hstart, hletter⟩

end Follows

namespace Pattern

/-- The search comes from a set of positions to where the words of the pattern lead. -/
theorem follows_ends {p : Pattern} (plain : p.isPlain = true) :
    Follows text ((p.over text).ends text.length) p.language := by
  induction p with
  | empty =>
    intro starts hstarts j
    show (starts &&& allPositions text.length).testBit j = true ↔ _
    rw [Nat.testBit_and, Bool.and_eq_true, testBit_allPositions,
      and_iff_left_of_imp (hstarts j)]
    exact Follows.one starts hstarts j
  | chars set => exact Follows.lettersOf set.contains
  | assert assertion => cases plain
  | seq p q ihp ihq =>
    obtain ⟨hp, hq⟩ := Bool.and_eq_true_iff.1 plain
    exact (ihp hp).mul (ihq hq)
  | alt p q ihp ihq =>
    obtain ⟨hp, hq⟩ := Bool.and_eq_true_iff.1 plain
    exact (ihp hp).add (ihq hq)
  | times p count ih => exact (ih plain).pow count
  | upTo p count ih => exact (ih plain).reach count
  | star p ih => exact (ih plain).kstar

theorem found_iff_exists {p : Pattern} :
    p.found text = true ↔ ∃ j, ((p.over text).ends text.length
      (allPositions text.length)).testBit j = true := by
  rw [found, bne_iff_ne]
  constructor
  · exact Nat.exists_testBit_of_ne_zero
  · rintro ⟨j, hj⟩ hzero
    simp [hzero] at hj

/-- **A pattern is found where one of its words occurs.** -/
theorem found_iff_infix {p : Pattern} (plain : p.isPlain = true) :
    p.found text = true ↔ ∃ word ∈ p.language, word <:+: text := by
  rw [found_iff_exists]
  simp only [follows_ends plain _ (fun i => testBit_allPositions.1), testBit_allPositions]
  constructor
  · rintro ⟨j, i, -, word, hword, hprefix, -⟩
    exact ⟨word, hword, hprefix.isInfix.trans (List.drop_suffix i text).isInfix⟩
  · rintro ⟨word, hword, before, behind, rfl⟩
    refine ⟨_, before.length, by simp, word, hword, ?_, rfl⟩
    simp

/-- A search that has to come to the end of the text ends there, if the words lead there. -/
theorem testBit_ends_toEnd {ps : List Pattern} (plain : ∀ p ∈ ps, p.isPlain = true)
    {starts : Nat} (hstarts : Within text starts) {j : Nat} :
    (((seqs (ps ++ [assert .textEnd])).over text).ends text.length starts).testBit j = true ↔
      j = text.length ∧
        ∃ i, starts.testBit i = true ∧ Leads text (ps.map language).prod i text.length := by
  induction ps generalizing starts with
  | nil =>
    show (starts &&& 1 <<< text.length &&& allPositions text.length).testBit j = true ↔ _
    simp only [Nat.testBit_and, Bool.and_eq_true, testBit_allPositions, Nat.one_shiftLeft,
      Nat.testBit_two_pow, decide_eq_true_eq, List.map_nil, List.prod_nil, leads_one,
      exists_eq_right]
    constructor
    · rintro ⟨⟨hj, rfl⟩, -⟩
      exact ⟨rfl, hj⟩
    · rintro ⟨rfl, hj⟩
      exact ⟨⟨hj, rfl⟩, le_rfl⟩
  | cons p rest ih =>
    obtain ⟨hp, hrest⟩ := List.forall_mem_cons.1 plain
    have hfollows : Follows text ((p.over text).ends text.length) p.language := follows_ends hp
    show (((seqs (rest ++ [assert .textEnd])).over text).ends text.length
      ((p.over text).ends text.length starts)).testBit j = true ↔ _
    rw [ih hrest (hfollows.within hstarts), List.map_cons, List.prod_cons]
    simp only [hfollows starts hstarts, leads_mul]
    refine and_congr_right fun _ => ?_
    constructor
    · rintro ⟨i, ⟨start, hstart, hfirst⟩, hsecond⟩
      exact ⟨start, hstart, i, hfirst, hsecond⟩
    · rintro ⟨start, hstart, i, hfirst, hsecond⟩
      exact ⟨i, ⟨start, hstart, hfirst⟩, hsecond⟩

/-- **Between the two ends of the text a pattern is found when the text is one of its words.** -/
theorem found_anchored {ps : List Pattern} (plain : ∀ p ∈ ps, p.isPlain = true) :
    (seqs (assert .textStart :: (ps ++ [assert .textEnd]))).found text = true ↔
      text ∈ (ps.map language).prod := by
  -- of all positions, the assertion in front leaves the first one
  have hstart : ∀ i, (allPositions text.length &&& 1).testBit i = true ↔ i = 0 := by
    intro i
    rw [Nat.testBit_and, Bool.and_eq_true, testBit_allPositions,
      Nat.testBit_one_eq_true_iff_self_eq_zero]
    omega
  have hwithin : Within text (allPositions text.length &&& 1) := by
    intro i hi
    have hzero := (hstart i).1 hi
    omega
  rw [found_iff_exists]
  show (∃ j, (((seqs (ps ++ [assert .textEnd])).over text).ends text.length
    (allPositions text.length &&& 1)).testBit j = true) ↔ _
  simp only [testBit_ends_toEnd plain hwithin, hstart, exists_eq_left, leads_whole]

end Pattern
end Search
end Assay
