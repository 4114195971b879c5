import Assay.Pattern.Formats
import Assay.Proofs.PatternLanguage
import Assay.Rule.Strings

/-!
# Addresses

What the email check accepts, told by splitting a text at the `@` and at the dots. The pattern of
the check is read as a language; pieces that are joined by a mark make a word exactly when
splitting the word at the mark gives these pieces.

* `mem_joined`, `mem_terminated`: words made of pieces with a mark between or behind them;
* `mem_mailboxWord`, `mem_domainLabel`, `mem_topLabel`: the pieces of an address;
* `email_passes_iff`: the check passes exactly for addresses.
-/

open Computability

namespace Assay

/-! ### Pieces and marks -/

section Pieces

variable {A : Language Char} {mark : Char} {word : List Char}

theorem intercalate_cons (mark : Char) (first : List Char) (rest : List (List Char)) :
    [mark].intercalate (first :: rest) = first ++ rest.flatMap (mark :: ·) := by
  induction rest generalizing first with
  | nil => simp
  | cons second rest ih => simp [List.intercalate_cons_cons, ih]

theorem intercalate_concat (mark : Char) (front : List (List Char)) (last : List Char) :
    [mark].intercalate (front ++ [last]) = front.flatMap (· ++ [mark]) ++ last := by
  induction front with
  | nil => simp
  | cons first front ih =>
    rw [List.cons_append, List.intercalate_cons_of_ne_nil (by simp), ih]
    simp

/-- The characters of a text are the mark and those of its pieces. -/
theorem mem_piece_of_mem {c : Char} (hc : c ∈ word) (hmark : c ≠ mark) :
    ∃ piece ∈ word.splitOn mark, c ∈ piece := by
  have hjoined : [mark].intercalate (word.splitOn mark) = word := List.intercalate_splitOn mark
  rw [← hjoined] at hc
  obtain ⟨first, rest, hpieces⟩ := List.exists_cons_of_ne_nil (List.splitOn_ne_nil mark word)
  rw [hpieces, intercalate_cons, List.mem_append, List.mem_flatMap] at hc
  rw [hpieces]
  rcases hc with hc | ⟨piece, hpiece, hc⟩
  · exact ⟨first, List.mem_cons_self, hc⟩
  · exact ⟨piece, List.mem_cons_of_mem _ hpiece, List.mem_of_ne_of_mem hmark hc⟩

/-- Repeated words that are all made by a function are made of a list. -/
theorem mem_kstar_of_forall {B : Language Char} {f : List Char → List Char}
    (hB : ∀ word, word ∈ B ↔ ∃ a ∈ A, f a = word) :
    word ∈ B∗ ↔ ∃ pieces : List (List Char), (∀ a ∈ pieces, a ∈ A) ∧ word = pieces.flatMap f := by
  constructor
  · rintro ⟨words, rfl, hwords⟩
    induction words with
    | nil => exact ⟨[], by simp, rfl⟩
    | cons w rest ih =>
      obtain ⟨hw, hrest⟩ := List.forall_mem_cons.1 hwords
      obtain ⟨a, ha, rfl⟩ := (hB w).1 hw
      obtain ⟨pieces, hpieces, hflatten⟩ := ih hrest
      exact ⟨a :: pieces, List.forall_mem_cons.2 ⟨ha, hpieces⟩, by simp [hflatten]⟩
  · rintro ⟨pieces, hpieces, rfl⟩
    refine ⟨pieces.map f, List.flatMap_def, fun w hw => ?_⟩
    obtain ⟨a, ha, rfl⟩ := List.mem_map.1 hw
    exact (hB _).2 ⟨a, hpieces a ha, rfl⟩

theorem mem_plus_of_forall {B : Language Char} {f : List Char → List Char}
    (hB : ∀ word, word ∈ B ↔ ∃ a ∈ A, f a = word) :
    word ∈ B * B∗ ↔ ∃ pieces : List (List Char),
      pieces ≠ [] ∧ (∀ a ∈ pieces, a ∈ A) ∧ word = pieces.flatMap f := by
  rw [Language.mem_mul]
  constructor
  · rintro ⟨_, hmade, _, hrest, rfl⟩
    obtain ⟨first, hfirst, rfl⟩ := (hB _).1 hmade
    obtain ⟨pieces, hpieces, rfl⟩ := (mem_kstar_of_forall hB).1 hrest
    exact ⟨first :: pieces, by simp, List.forall_mem_cons.2 ⟨hfirst, hpieces⟩, by simp⟩
  · rintro ⟨pieces, hne, hall, rfl⟩
    obtain ⟨first, rest, rfl⟩ := List.exists_cons_of_ne_nil hne
    obtain ⟨hfirst, hrest⟩ := List.forall_mem_cons.1 hall
    exact ⟨_, (hB _).2 ⟨first, hfirst, rfl⟩, _, (mem_kstar_of_forall hB).2 ⟨rest, hrest, rfl⟩,
      by simp⟩

/-- Words with a mark between them are the texts whose pieces are such words. -/
theorem mem_joined {B : Language Char} (hB : ∀ word, word ∈ B ↔ ∃ a ∈ A, mark :: a = word)
    (hmark : ∀ a ∈ A, mark ∉ a) :
    word ∈ A * B∗ ↔ ∀ piece ∈ word.splitOn mark, piece ∈ A := by
  rw [Language.mem_mul]
  constructor
  · rintro ⟨first, hfirst, rest, hrest, rfl⟩
    obtain ⟨pieces, hpieces, rfl⟩ := (mem_kstar_of_forall hB).1 hrest
    have hall : ∀ a ∈ first :: pieces, a ∈ A := List.forall_mem_cons.2 ⟨hfirst, hpieces⟩
    rw [← intercalate_cons, List.splitOn_intercalate mark (fun a ha => hmark a (hall a ha))
      (by simp)]
    exact hall
  · intro hall
    obtain ⟨first, rest, hpieces⟩ := List.exists_cons_of_ne_nil (List.splitOn_ne_nil mark word)
    rw [hpieces, List.forall_mem_cons] at hall
    refine ⟨first, hall.1, _, (mem_kstar_of_forall hB).2 ⟨rest, hall.2, rfl⟩, ?_⟩
    rw [← intercalate_cons, ← hpieces, List.intercalate_splitOn]

/-- Words with a mark behind each of them, and then a last word, are the texts whose pieces are
such words and the last one. -/
theorem mem_terminated {B C : Language Char}
    (hB : ∀ word, word ∈ B ↔ ∃ a ∈ A, a ++ [mark] = word) (hmark : ∀ a ∈ A, mark ∉ a)
    (hmarkLast : ∀ c ∈ C, mark ∉ c) :
    word ∈ B * B∗ * C ↔ ∃ front last, word.splitOn mark = front ++ [last] ∧ front ≠ [] ∧
      (∀ a ∈ front, a ∈ A) ∧ last ∈ C := by
  rw [Language.mem_mul]
  constructor
  · rintro ⟨_, hfront, last, hlast, rfl⟩
    obtain ⟨front, hne, hall, rfl⟩ := (mem_plus_of_forall hB).1 hfront
    refine ⟨front, last, ?_, hne, hall, hlast⟩
    rw [← intercalate_concat]
    refine List.splitOn_intercalate mark (fun a ha => ?_) (by simp)
    rcases List.mem_append.1 ha with ha | ha
    · exact hmark a (hall a ha)
    · rw [List.mem_singleton.1 ha]
      exact hmarkLast last hlast
  · rintro ⟨front, last, hpieces, hne, hall, hlast⟩
    refine ⟨_, (mem_plus_of_forall hB).2 ⟨front, hne, hall, rfl⟩, last, hlast, ?_⟩
    rw [← intercalate_concat, ← hpieces, List.intercalate_splitOn]

end Pieces

/-! ### Classes of characters -/

namespace CharSet

theorem contains_ofRanges {ranges : List (Char × Char)} {c : Char} :
    (ofRanges ranges).contains c = true ↔ ∃ range ∈ ranges, range.1 ≤ c ∧ c ≤ range.2 := by
  induction ranges with
  | nil => simp [ofRanges, contains, containsCode]
  | cons range rest ih =>
    show (range.1.toNat ≤ c.toNat && c.toNat ≤ range.2.toNat || (ofRanges rest).contains c) = true ↔
      _
    rw [Bool.or_eq_true, ih, List.exists_mem_cons_iff, Bool.and_eq_true, decide_eq_true_eq,
      decide_eq_true_eq]
    rfl

/-- A range that begins and ends with a character has no other one. -/
theorem between_self {c d : Char} : d ≤ c ∧ c ≤ d ↔ c = d := by
  constructor
  · rintro ⟨hlow, hhigh⟩
    exact Char.le_antisymm hhigh hlow
  · rintro rfl
    exact ⟨Char.le_refl c, Char.le_refl c⟩

theorem contains_ofRanges_append {ranges others : List (Char × Char)} {c : Char} :
    (ofRanges (ranges ++ others)).contains c =
      ((ofRanges ranges).contains c || (ofRanges others).contains c) := by
  rw [Bool.eq_iff_iff]
  simp [contains_ofRanges, or_and_right, exists_or]

theorem contains_asciiLetters {c : Char} :
    (ofRanges [('A', 'Z'), ('a', 'z')]).contains c = c.isAlpha := by
  have halpha : c.isAlpha = (c.isUpper || c.isLower) := rfl
  have hupper : c.isUpper = true ↔ 'A' ≤ c ∧ c ≤ 'Z' := decide_eq_true_iff
  have hlower : c.isLower = true ↔ 'a' ≤ c ∧ c ≤ 'z' :=
    Bool.and_eq_true_iff.trans (and_congr decide_eq_true_iff decide_eq_true_iff)
  rw [Bool.eq_iff_iff, contains_ofRanges, halpha, Bool.or_eq_true, hupper, hlower]
  simp

end CharSet

namespace Pattern

theorem contains_asciiAlphanumeric {c : Char} :
    (CharSet.ofRanges asciiAlphanumeric).contains c = c.isAlphanum := by
  have hsplit : asciiAlphanumeric = [('A', 'Z'), ('a', 'z')] ++ [('0', '9')] := rfl
  have halphanum : c.isAlphanum = (c.isAlpha || c.isDigit) := rfl
  have hdigit : c.isDigit = true ↔ '0' ≤ c ∧ c ≤ '9' :=
    Bool.and_eq_true_iff.trans (and_congr decide_eq_true_iff decide_eq_true_iff)
  rw [hsplit, CharSet.contains_ofRanges_append, CharSet.contains_asciiLetters, halphanum,
    Bool.eq_iff_iff, Bool.or_eq_true, Bool.or_eq_true, CharSet.contains_ofRanges, hdigit]
  simp

end Pattern

/-! ### The pieces of an address -/

/-- A character of the part of an address in front of the `@`, apart from dots. Letters and digits
are those of ASCII here and below. -/
def isMailboxChar (c : Char) : Bool :=
  c.isAlphanum || c == '_' || c == '\x27' || c == '+' || c == '-'

/-- A word of the part of an address in front of the `@`. -/
def IsMailboxWord (word : List Char) : Prop :=
  word ≠ [] ∧ ∀ c ∈ word, isMailboxChar c = true

/-- A label of a domain: letters, digits and hyphens, but no hyphen at its ends. -/
def IsLabel (label : List Char) : Prop :=
  label ≠ [] ∧ (∀ c ∈ label, c.isAlphanum = true ∨ c = '-') ∧ label.head? ≠ some '-' ∧
    label.getLast? ≠ some '-'

/-- The last label of a domain: at least two letters. -/
def IsTopLabel (label : List Char) : Prop := 2 ≤ label.length ∧ ∀ c ∈ label, c.isAlpha = true

/-- The part of an address in front of the `@`: words with dots between them. -/
def IsMailbox (mailbox : List Char) : Prop := ∀ word ∈ mailbox.splitOn '.', IsMailboxWord word

/-- The part of an address behind the `@`: at least two labels with dots between them. -/
def IsDomain (domain : List Char) : Prop :=
  ∃ labels top, domain.splitOn '.' = labels ++ [top] ∧ labels ≠ [] ∧
    (∀ label ∈ labels, IsLabel label) ∧ IsTopLabel top

/-- An address has exactly one `@`, a mailbox in front of it and a domain behind it. -/
def IsAddress (text : List Char) : Prop :=
  ∃ mailbox domain, text = mailbox ++ '@' :: domain ∧ '@' ∉ mailbox ∧ '@' ∉ domain ∧
    IsMailbox mailbox ∧ IsDomain domain

theorem notMem_mailbox {mailbox : List Char} (h : IsMailbox mailbox) : '@' ∉ mailbox := by
  intro hmem
  obtain ⟨word, hword, hmem⟩ := mem_piece_of_mem hmem (by decide : '@' ≠ '.')
  exact absurd ((h word hword).2 _ hmem) (by decide)

theorem notMem_domain {domain : List Char} (h : IsDomain domain) : '@' ∉ domain := by
  intro hmem
  obtain ⟨labels, top, hpieces, -, hlabels, htop⟩ := h
  obtain ⟨label, hlabel, hmem⟩ := mem_piece_of_mem hmem (by decide : '@' ≠ '.')
  rw [hpieces, List.mem_append, List.mem_singleton] at hlabel
  rcases hlabel with hlabel | rfl
  · exact absurd ((hlabels label hlabel).2.1 _ hmem) (by decide)
  · exact absurd (htop.2 _ hmem) (by decide)

namespace Pattern

theorem mem_char {c : Char} {word : List Char} : word ∈ (char c).language ↔ word = [c] := by
  have hcontains : ∀ d, (CharSet.single c).contains d = true ↔ d = c := by
    intro d
    rw [CharSet.single, CharSet.contains, CharSet.containsCode, Bool.and_eq_true,
      decide_eq_true_eq, decide_eq_true_eq, ← Char.toNat_inj]
    omega
  show word ∈ lettersOf (CharSet.single c).contains ↔ _
  simp [mem_lettersOf, hcontains]

theorem language_mailboxChar : mailboxChar.language = lettersOf isMailboxChar := by
  refine congrArg lettersOf (funext fun c => ?_)
  rw [CharSet.contains_ofRanges_append, contains_asciiAlphanumeric, isMailboxChar,
    Bool.eq_iff_iff]
  simp [CharSet.contains_ofRanges, CharSet.between_self, or_assoc]

theorem mem_mailboxWord {word : List Char} :
    word ∈ (plus mailboxChar).language ↔ IsMailboxWord word := by
  have hone : word ∈ lettersOf isMailboxChar ^ 1 * (lettersOf isMailboxChar)∗ ↔
      1 ≤ word.length ∧ ∀ c ∈ word, isMailboxChar c = true := mem_lettersOf_atLeast
  rw [pow_one, Nat.one_le_iff_ne_zero, ← Nat.pos_iff_ne_zero, List.length_pos_iff] at hone
  rwa [language_plus, language_mailboxChar]

theorem language_outer :
    (chars (.ofRanges asciiAlphanumeric)).language = lettersOf Char.isAlphanum :=
  congrArg lettersOf (funext fun _ => contains_asciiAlphanumeric)

theorem language_inner : (chars (.ofRanges (asciiAlphanumeric ++ [('-', '-')]))).language =
    lettersOf fun c => c.isAlphanum || c == '-' := by
  refine congrArg lettersOf (funext fun c => ?_)
  rw [CharSet.contains_ofRanges_append, contains_asciiAlphanumeric, Bool.eq_iff_iff]
  simp [CharSet.contains_ofRanges, CharSet.between_self]

/-- A label is one letter or digit, or two with inner characters between them. -/
theorem mem_domainLabel {label : List Char} : label ∈ domainLabel.language ↔ IsLabel label := by
  have hlanguage : domainLabel.language = lettersOf Char.isAlphanum *
      (1 + (lettersOf fun c => c.isAlphanum || c == '-')∗ * lettersOf Char.isAlphanum) := by
    rw [← language_inner, ← language_outer]
    exact congrArg _ (language_option _)
  have hyphen : ∀ c : Char, c.isAlphanum = true → c ≠ '-' := by
    rintro c hc rfl
    cases hc
  simp only [hlanguage, Language.mem_mul, Language.mem_add, Language.mem_one,
    mem_lettersOf_kstar, Bool.or_eq_true, beq_iff_eq]
  constructor
  · rintro ⟨_, ⟨c, hc, rfl⟩, _, rfl | ⟨inner, hinner, _, ⟨d, hd, rfl⟩, rfl⟩, rfl⟩
    · exact ⟨by simp, by simp [hc], by simpa using hyphen c hc, by simpa using hyphen c hc⟩
    · refine ⟨by simp, ?_, by simpa using hyphen c hc, ?_⟩
      · rw [← List.append_assoc, List.forall_mem_append, List.forall_mem_append]
        exact ⟨⟨by simp [hc], hinner⟩, by simp [hd]⟩
      · simpa [List.getLast?_cons] using hyphen d hd
  · rintro ⟨hne, hall, hhead, hlast⟩
    -- only the characters between the first and the last can be hyphens
    obtain ⟨c, rest, rfl⟩ := List.exists_cons_of_ne_nil hne
    obtain ⟨hc, hrest⟩ := List.forall_mem_cons.1 hall
    refine ⟨[c], ⟨c, hc.resolve_right fun h => hhead (by rw [h]; rfl), rfl⟩, rest, ?_, rfl⟩
    rcases List.eq_nil_or_concat' rest with rfl | ⟨inner, d, rfl⟩
    · exact .inl rfl
    · obtain ⟨hinner, hd⟩ := List.forall_mem_append.1 hrest
      refine .inr ⟨inner, hinner, [d], ⟨d, ?_, rfl⟩, rfl⟩
      exact (hd d (List.mem_singleton_self d)).resolve_right fun h =>
        hlast (by simp [h, List.getLast?_cons])

theorem mem_topLabel {label : List Char} :
    label ∈ (counted (chars (.ofRanges [('A', 'Z'), ('a', 'z')])) 2 none).language ↔
      IsTopLabel label := by
  have hletters : (CharSet.ofRanges [('A', 'Z'), ('a', 'z')]).contains = Char.isAlpha :=
    funext fun c => CharSet.contains_asciiLetters
  rw [language_counted_none, language, hletters, mem_lettersOf_atLeast]
  rfl

theorem mem_mailbox {mailbox : List Char} :
    mailbox ∈ (plus mailboxChar).language *
        (star (seq (char '.') (plus mailboxChar))).language ↔ IsMailbox mailbox := by
  have hdot : ∀ word, word ∈ (seq (char '.') (plus mailboxChar)).language ↔
      ∃ a ∈ (plus mailboxChar).language, '.' :: a = word := by
    intro word
    rw [language, Language.mem_mul]
    simp [mem_char]
  rw [language, mem_joined hdot]
  · simp only [mem_mailboxWord]
    rfl
  · intro word hword hmem
    exact absurd ((mem_mailboxWord.1 hword).2 _ hmem) (by decide)

theorem mem_domain {domain : List Char} :
    domain ∈ (plus (seq domainLabel (char '.'))).language *
        (counted (chars (.ofRanges [('A', 'Z'), ('a', 'z')])) 2 none).language ↔
      IsDomain domain := by
  have hdot : ∀ word, word ∈ (seq domainLabel (char '.')).language ↔
      ∃ a ∈ domainLabel.language, a ++ ['.'] = word := by
    intro word
    rw [language, Language.mem_mul]
    simp [mem_char]
  rw [language_plus, mem_terminated hdot]
  · simp only [mem_domainLabel, mem_topLabel]
    rfl
  · intro label hlabel hmem
    exact absurd ((mem_domainLabel.1 hlabel).2.1 _ hmem) (by decide)
  · intro top htop hmem
    exact absurd ((mem_topLabel.1 htop).2 _ hmem) (by decide)

/-- The pattern of an address is one of words: a mailbox, an `@` and a domain. -/
theorem email_found_iff_mem {text : List Char} : email.found text = true ↔
    text ∈ (plus mailboxChar).language * (star (seq (char '.') (plus mailboxChar))).language *
      (char '@').language * ((plus (seq domainLabel (char '.'))).language *
        (counted (chars (.ofRanges [('A', 'Z'), ('a', 'z')])) 2 none).language) := by
  have hplain : ∀ p ∈ [plus mailboxChar, star (seq (char '.') (plus mailboxChar)), char '@',
      plus (seq domainLabel (char '.')),
      counted (chars (.ofRanges [('A', 'Z'), ('a', 'z')])) 2 none], p.isPlain = true := by
    decide
  refine (found_anchored hplain).trans ?_
  simp only [List.map_cons, List.map_nil, List.prod_cons, List.prod_nil, mul_one, mul_assoc]

end Pattern

/-- **What the email check accepts.** A string passes the check exactly when it is an address. -/
theorem email_passes_iff (s : String) :
    StringCheck.email.issue? s = none ↔ IsAddress s.toList := by
  have hpasses : StringCheck.email.issue? s = none ↔ Pattern.email.found s.toList = true := by
    rw [StringCheck.issue?, StringCheck.holds]
    split_ifs with h <;> simp [h]
  rw [hpasses, Pattern.email_found_iff_mem, Language.mem_mul]
  constructor
  · rintro ⟨_, hfront, domain, hdomain, htext⟩
    obtain ⟨mailbox, hmailbox, _, hat, rfl⟩ := Language.mem_mul.1 hfront
    rw [Pattern.mem_char.1 hat, List.append_assoc] at htext
    have hmailbox := Pattern.mem_mailbox.1 hmailbox
    have hdomain := Pattern.mem_domain.1 hdomain
    exact ⟨mailbox, domain, htext.symm, notMem_mailbox hmailbox, notMem_domain hdomain, hmailbox,
      hdomain⟩
  · rintro ⟨mailbox, domain, htext, -, -, hmailbox, hdomain⟩
    refine ⟨_, Language.append_mem_mul (Pattern.mem_mailbox.2 hmailbox) (Pattern.mem_char.2 rfl),
      domain, Pattern.mem_domain.2 hdomain, ?_⟩
    rw [htext, List.append_assoc]
    rfl

end Assay
