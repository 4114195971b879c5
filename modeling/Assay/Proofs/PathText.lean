import Assay.Proofs.Lines

/-!
# Reading paths back

The text of a path determines the path. A step begins with `.` or `[` or, at the beginning, with
a letter; it ends where the next one begins or at its own bracket. What stands between quotes is
never mistaken for the end of the quotes, because a quote inside is written with a backslash in
front of it, so keys that look like paths stay keys.

* `span_append_inj`: texts of one sort of characters are told apart from what follows them;
* `toDigits_inj`: a number is determined by its digits;
* `quoteChar_append_inj`: a character inside quotes is determined by the text that starts with it;
* `PathSegment.chars_append_inj`: so is a step;
* `Path.text_injective`: so is a path.
-/

namespace Assay

/-! ### Texts and what follows them -/

/-- Whether no character of a sort stands at the beginning of a text. -/
def StartsOutside (p : Char → Bool) (cs : List Char) : Prop := ∀ c ∈ cs.head?, p c = false

/-- Two texts of one sort of characters are equal when they stand at the beginning of the same
text and a character of another sort, or nothing, follows. -/
theorem span_append_inj {p : Char → Bool} {a b r s : List Char} (ha : ∀ c ∈ a, p c = true)
    (hb : ∀ c ∈ b, p c = true) (hr : StartsOutside p r) (hs : StartsOutside p s)
    (h : a ++ r = b ++ s) : a = b ∧ r = s := by
  have hnil : ∀ {t : List Char}, StartsOutside p t → t.takeWhile p = [] := by
    intro t ht
    cases t with
    | nil => rfl
    | cons c t => exact List.takeWhile_cons_of_neg (by simp [ht c rfl])
  have htake := congrArg (List.takeWhile p) h
  rw [List.takeWhile_append_of_pos ha, List.takeWhile_append_of_pos hb, hnil hr, hnil hs,
    List.append_nil, List.append_nil] at htake
  subst htake
  exact ⟨rfl, List.append_cancel_left h⟩

/-- Two texts without a mark are equal when they stand before the first mark of the same text. -/
theorem until_append_inj {mark : Char} {a b r s : List Char} (ha : mark ∉ a) (hb : mark ∉ b)
    (h : a ++ mark :: r = b ++ mark :: s) : a = b ∧ r = s := by
  have hne : ∀ {t : List Char}, mark ∉ t → ∀ c ∈ t, (c != mark) = true := by
    intro t ht c hc
    exact bne_iff_ne.2 fun hcm => ht (hcm ▸ hc)
  obtain ⟨hab, hrs⟩ := span_append_inj (p := (· != mark)) (hne ha) (hne hb) (by simp [StartsOutside])
    (by simp [StartsOutside]) h
  exact ⟨hab, (List.cons.inj hrs).2⟩

/-! ### Digits -/

/-- A number is determined by its digits. -/
theorem toDigits_inj {base m n : Nat} (hbase : 1 < base) (hdigits : base ≤ 16)
    (h : Nat.toDigits base m = Nat.toDigits base n) : m = n := by
  have hchar : ∀ a < 16, ∀ b < 16, Nat.digitChar a = Nat.digitChar b → a = b := by decide
  induction m using Nat.strongRecOn generalizing n with
  | ind m ih =>
    rcases lt_or_ge m base with hm | hm <;> rcases lt_or_ge n base with hn | hn
    · rw [Nat.toDigits_of_lt_base hm, Nat.toDigits_of_lt_base hn, List.singleton_inj] at h
      exact hchar m (by omega) n (by omega) h
    · -- one digit is not two digits
      rw [Nat.toDigits_of_lt_base hm, Nat.toDigits_of_base_le hbase hn] at h
      have hnil := (List.append_eq_singleton_iff.1 h.symm).resolve_right (by simp)
      exact absurd hnil.1 Nat.toDigits_ne_nil
    · rw [Nat.toDigits_of_base_le hbase hm, Nat.toDigits_of_lt_base hn] at h
      have hnil := (List.append_eq_singleton_iff.1 h).resolve_right (by simp)
      exact absurd hnil.1 Nat.toDigits_ne_nil
    · rw [Nat.toDigits_of_base_le hbase hm, Nat.toDigits_of_base_le hbase hn] at h
      obtain ⟨hdiv, hmod⟩ := List.append_inj' h rfl
      have hquotient : m / base = n / base := ih _ (Nat.div_lt_self (by omega) hbase) hdiv
      have hremainder : m % base = n % base := by
        have := Nat.mod_lt m (by omega : base > 0)
        have := Nat.mod_lt n (by omega : base > 0)
        exact hchar _ (by omega) _ (by omega) (List.singleton_inj.1 hmod)
      rw [← Nat.div_add_mod m base, ← Nat.div_add_mod n base, hquotient, hremainder]

/-! ### Quoted texts -/

/-- The characters whose escape is a single letter behind the backslash. -/
def shortEscapes : List (Char × Char) :=
  [('"', '"'), ('\\', '\\'), ('\n', 'n'), ('\r', 'r'), ('\t', 't'), ('\x00', '0')]

/-- A character inside quotes is itself, and then neither a quote nor a backslash, or a backslash
and a letter, or a backslash and its code point in braces. -/
theorem quoteChar_cases (c : Char) :
    quoteChar c = [c] ∧ c ≠ '"' ∧ c ≠ '\\' ∨
      (∃ letter, (c, letter) ∈ shortEscapes ∧ quoteChar c = ['\\', letter]) ∨
      quoteChar c = '\\' :: 'u' :: '\x7b' :: (Nat.toDigits 16 c.toNat ++ ['\x7d']) := by
  unfold quoteChar
  split
  case h_7 hquote hbackslash _ _ _ _ =>
    split_ifs
    · exact .inl ⟨rfl, hquote, hbackslash⟩
    · exact .inr (.inr rfl)
  all_goals exact .inr (.inl ⟨_, by decide, rfl⟩)

/-- A character inside quotes is determined by any text that starts with it. -/
theorem quoteChar_append_inj {c d : Char} {r s : List Char}
    (h : quoteChar c ++ r = quoteChar d ++ s) : c = d ∧ r = s := by
  have hletters : ∀ p ∈ shortEscapes, ∀ q ∈ shortEscapes, p.2 = q.2 → p.1 = q.1 := by decide
  have hlong : ∀ p ∈ shortEscapes, p.2 ≠ 'u' := by decide
  have hbrace : ∀ n, '\x7d' ∉ Nat.toDigits 16 n :=
    notMem_toDigits (fun d => Nat.digitChar_ne '\x7d' (by decide)) (by decide)
  rcases quoteChar_cases c with ⟨hc, -, hcne⟩ | ⟨letter, hcmem, hc⟩ | hc <;>
    rcases quoteChar_cases d with ⟨hd, -, hdne⟩ | ⟨letter', hdmem, hd⟩ | hd <;>
    rw [hc, hd] at h
  · exact List.cons.inj h
  · exact absurd (List.cons.inj h).1 hcne
  · exact absurd (List.cons.inj h).1 hcne
  · exact absurd (List.cons.inj h).1.symm hdne
  · obtain ⟨hletter, hrest⟩ := List.cons.inj (List.cons.inj h).2
    exact ⟨hletters _ hcmem _ hdmem hletter, hrest⟩
  · exact absurd (List.cons.inj (List.cons.inj h).2).1 (hlong _ hcmem)
  · exact absurd (List.cons.inj h).1.symm hdne
  · exact absurd (List.cons.inj (List.cons.inj h).2).1.symm (hlong _ hdmem)
  · simp only [List.cons_append, List.append_assoc, List.nil_append, List.cons.injEq,
      true_and] at h
    obtain ⟨hdigits, hrest⟩ := until_append_inj (hbrace _) (hbrace _) h
    exact ⟨Char.toNat_inj.1 (toDigits_inj (by decide) (by decide) hdigits), hrest⟩

/-- No character inside quotes looks like the end of the quotes. -/
theorem quoteChar_eq_cons (c : Char) :
    ∃ first behind, quoteChar c = first :: behind ∧ first ≠ '"' := by
  rcases quoteChar_cases c with ⟨hc, hne, -⟩ | ⟨letter, -, hc⟩ | hc
  · exact ⟨c, [], hc, hne⟩
  · exact ⟨'\\', _, hc, by decide⟩
  · exact ⟨'\\', _, hc, by decide⟩

/-- A quoted text is determined by any text that starts with it. -/
theorem quoteChars_append_inj {a b r s : List Char}
    (h : quoteChars a ++ r = quoteChars b ++ s) : a = b ∧ r = s := by
  simp only [quoteChars, List.cons_append, List.append_assoc, List.nil_append,
    List.cons.injEq, true_and] at h
  have hends : ∀ {c : Char} {more rest other : List Char},
      '"' :: rest ≠ (c :: more).flatMap quoteChar ++ other := by
    intro c more rest other hquote
    obtain ⟨first, behind, hchar, hne⟩ := quoteChar_eq_cons c
    rw [List.flatMap_cons, hchar] at hquote
    exact hne (List.cons.inj hquote).1.symm
  induction a generalizing b with
  | nil =>
    cases b with
    | nil => exact ⟨rfl, (List.cons.inj h).2⟩
    | cons d b => exact absurd h hends
  | cons c a ih =>
    cases b with
    | nil => exact absurd h.symm hends
    | cons d b =>
      rw [List.flatMap_cons, List.flatMap_cons, List.append_assoc, List.append_assoc] at h
      obtain ⟨rfl, hrest⟩ := quoteChar_append_inj h
      obtain ⟨rfl, rfl⟩ := ih hrest
      exact ⟨rfl, rfl⟩

/-! ### Steps -/

/-- The characters of identifiers. -/
def isIdentifierChar (c : Char) : Bool := c.isAlphanum || c = '_' || c = '$'

theorem isIdentifierChar_of_mem {cs : List Char} (h : isIdentifier cs = true) :
    ∀ c ∈ cs, isIdentifierChar c = true := by
  intro c hc
  cases cs with
  | nil => cases hc
  | cons first rest =>
    simp only [isIdentifier, Bool.and_eq_true, List.all_eq_true] at h
    rcases List.mem_cons.1 hc with rfl | hc
    · simp only [isIdentifierChar, Char.isAlphanum, Bool.or_eq_true, decide_eq_true_eq] at h ⊢
      tauto
    · exact h.2 c hc

/-- What can follow a step: nothing, or the beginning of another step. -/
def EndsStep (cs : List Char) : Prop := ∀ c ∈ cs.head?, c = '.' ∨ c = '['

theorem EndsStep.startsOutside {cs : List Char} (h : EndsStep cs) :
    StartsOutside isIdentifierChar cs := by
  intro c hc
  rcases h c hc with rfl | rfl <;> decide

namespace PathSegment

variable {first : Bool} {r s : List Char}

/-- The text of a key that needs no quotes. -/
theorem chars_identifier {name : String} (h : isIdentifier name.toList = true) (first : Bool) :
    (key name).chars first = if first then name.toList else '.' :: name.toList := by
  rw [chars, if_pos h]

/-- The text of a key that needs quotes, and what follows it. -/
theorem chars_quoted_append {name : String} (h : ¬isIdentifier name.toList = true) (first : Bool)
    (r : List Char) :
    (key name).chars first ++ r = '[' :: (quoteChars name.toList ++ ']' :: r) := by
  rw [chars, if_neg h, List.cons_append, List.append_assoc, List.singleton_append]

/-- The text of a position, and what follows it. -/
theorem chars_index_append (position : Nat) (first : Bool) (r : List Char) :
    (index position).chars first ++ r = '[' :: (Nat.toDigits 10 position ++ ']' :: r) := by
  rw [chars, List.cons_append, List.append_assoc, List.singleton_append]

/-- Behind other steps a step begins with a mark of its own. -/
theorem chars_false_append (segment : PathSegment) (r : List Char) :
    ∃ mark rest, segment.chars false ++ r = mark :: rest ∧ (mark = '.' ∨ mark = '[') := by
  cases segment with
  | index position => exact ⟨_, _, rfl, .inr rfl⟩
  | key name =>
    by_cases h : isIdentifier name.toList = true
    · exact ⟨_, _, congrArg (· ++ r) (chars_identifier h false), .inl rfl⟩
    · exact ⟨_, _, chars_quoted_append h false r, .inr rfl⟩

/-- An identifier does not look like a step in brackets. -/
theorem identifier_append_ne {name : List Char} (h : isIdentifier name = true) :
    (if first then name else '.' :: name) ++ r ≠ '[' :: s := by
  intro heq
  cases first with
  | false => exact absurd (List.cons.inj heq).1 (by decide)
  | true =>
    cases name with
    | nil => exact absurd h (by decide)
    | cons c rest =>
      have hc := isIdentifierChar_of_mem h c List.mem_cons_self
      rw [(List.cons.inj heq).1] at hc
      exact absurd hc (by decide)

/-- A quoted key does not look like a position. -/
theorem quoted_append_ne {name : List Char} {position : Nat} :
    quoteChars name ++ r ≠ Nat.toDigits 10 position ++ s := by
  intro h
  have hquote : '"' ∉ Nat.toDigits 10 position :=
    notMem_toDigits (fun d => Nat.digitChar_ne '"' (by decide)) (by decide) position
  cases hdigits : Nat.toDigits 10 position with
  | nil => exact Nat.toDigits_ne_nil hdigits
  | cons c rest =>
    rw [hdigits] at h hquote
    exact hquote ((List.cons.inj h).1 ▸ List.mem_cons_self)

/-- A key without quotes is determined by the text that starts with it. -/
theorem identifier_append_inj {a b : List Char} (ha : isIdentifier a = true)
    (hb : isIdentifier b = true) (hr : EndsStep r) (hs : EndsStep s)
    (h : (if first then a else '.' :: a) ++ r = (if first then b else '.' :: b) ++ s) :
    a = b ∧ r = s := by
  have hspan : a ++ r = b ++ s → a = b ∧ r = s :=
    span_append_inj (isIdentifierChar_of_mem ha) (isIdentifierChar_of_mem hb) hr.startsOutside
      hs.startsOutside
  cases first with
  | true => exact hspan h
  | false => exact hspan (List.cons.inj h).2

/-- A step is determined by the text that starts with it and goes on with other steps. -/
theorem chars_append_inj {a b : PathSegment} (hr : EndsStep r) (hs : EndsStep s)
    (h : a.chars first ++ r = b.chars first ++ s) : a = b ∧ r = s := by
  cases a with
  | index m =>
    rw [chars_index_append] at h
    cases b with
    | index n =>
      have hbracket : ∀ n, ']' ∉ Nat.toDigits 10 n :=
        notMem_toDigits (fun d => Nat.digitChar_ne ']' (by decide)) (by decide)
      rw [chars_index_append] at h
      obtain ⟨hdigits, rfl⟩ := until_append_inj (hbracket m) (hbracket n) (List.cons.inj h).2
      exact ⟨congrArg index (toDigits_inj (by decide) (by decide) hdigits), rfl⟩
    | key name =>
      by_cases hname : isIdentifier name.toList = true
      · rw [chars_identifier hname] at h
        exact absurd h.symm (identifier_append_ne hname)
      · rw [chars_quoted_append hname] at h
        exact absurd (List.cons.inj h).2.symm quoted_append_ne
  | key name =>
    by_cases hname : isIdentifier name.toList = true
    · rw [chars_identifier hname] at h
      cases b with
      | index n => exact absurd h (identifier_append_ne hname)
      | key other =>
        by_cases hother : isIdentifier other.toList = true
        · rw [chars_identifier hother] at h
          obtain ⟨hnames, rfl⟩ := identifier_append_inj hname hother hr hs h
          exact ⟨congrArg key (String.toList_inj.1 hnames), rfl⟩
        · rw [chars_quoted_append hother] at h
          exact absurd h (identifier_append_ne hname)
    · rw [chars_quoted_append hname] at h
      cases b with
      | index n =>
        rw [chars_index_append] at h
        exact absurd (List.cons.inj h).2 quoted_append_ne
      | key other =>
        by_cases hother : isIdentifier other.toList = true
        · rw [chars_identifier hother] at h
          exact absurd h.symm (identifier_append_ne hother)
        · rw [chars_quoted_append hother] at h
          obtain ⟨hnames, hrest⟩ := quoteChars_append_inj (List.cons.inj h).2
          exact ⟨congrArg key (String.toList_inj.1 hnames), (List.cons.inj hrest).2⟩

/-- The first step of a path is never empty. -/
theorem chars_true_ne_nil (segment : PathSegment) : segment.chars true ≠ [] := by
  cases segment with
  | index position => exact List.cons_ne_nil _ _
  | key name =>
    by_cases h : isIdentifier name.toList = true
    · rw [chars_identifier h]
      intro hnil
      rw [if_pos rfl] at hnil
      rw [hnil] at h
      cases h
    · rw [← List.append_nil ((key name).chars true), chars_quoted_append h]
      exact List.cons_ne_nil _ _

end PathSegment

/-! ### Paths -/

/-- What follows the first step of a path. -/
theorem endsStep_flatMap (path : Path) : EndsStep (path.flatMap (PathSegment.chars false)) := by
  intro c hc
  cases path with
  | nil => cases hc
  | cons segment rest =>
    obtain ⟨mark, behind, hchars, hmark⟩ := segment.chars_false_append _
    rw [List.flatMap_cons, hchars] at hc
    exact Option.some.inj hc ▸ hmark

/-- The steps behind the first one are determined by their text. -/
theorem flatMap_chars_inj {p q : Path}
    (h : p.flatMap (PathSegment.chars false) = q.flatMap (PathSegment.chars false)) : p = q := by
  have hempty : ∀ (segment : PathSegment) (rest : Path),
      [] ≠ (segment :: rest).flatMap (PathSegment.chars false) := by
    intro segment rest hnil
    obtain ⟨mark, behind, hchars, -⟩ := segment.chars_false_append _
    rw [List.flatMap_cons, hchars] at hnil
    cases hnil
  induction p generalizing q with
  | nil =>
    cases q with
    | nil => rfl
    | cons b q => exact absurd h (hempty b q)
  | cons a p ih =>
    cases q with
    | nil => exact absurd h.symm (hempty a p)
    | cons b q =>
      rw [List.flatMap_cons, List.flatMap_cons] at h
      obtain ⟨rfl, hrest⟩ :=
        PathSegment.chars_append_inj (endsStep_flatMap p) (endsStep_flatMap q) h
      rw [ih hrest]

/-- **Paths are read back.** Two paths with the same text are the same path, whatever their keys
and positions are. -/
theorem Path.text_injective : Function.Injective Path.text := by
  intro p q h
  have hchars : p.chars = q.chars := String.ofList_inj.1 h
  cases p with
  | nil =>
    cases q with
    | nil => rfl
    | cons b q => exact absurd (List.append_eq_nil_iff.1 hchars.symm).1 b.chars_true_ne_nil
  | cons a p =>
    cases q with
    | nil => exact absurd (List.append_eq_nil_iff.1 hchars).1 a.chars_true_ne_nil
    | cons b q =>
      obtain ⟨rfl, hrest⟩ :=
        PathSegment.chars_append_inj (endsStep_flatMap p) (endsStep_flatMap q) hchars
      rw [flatMap_chars_inj hrest]

/-- A key with a dot in it is not taken for two keys. -/
example : Path.text [.key "a.b"] = "[\"a.b\"]" ∧ Path.text [.key "a", .key "b"] = "a.b" := by
  decide +kernel

end Assay
