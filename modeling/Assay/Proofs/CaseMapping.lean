import Assay.Proofs.CaseForms
import Mathlib.Data.List.DropRight

/-!
# Case mapping of texts

How lower case, upper case and trimming of a text go together. Upper case is taken character by
character. Lower case is not, since a capital sigma is looked at in its context; of the characters
before it and after it only matters whether they meet a letter.

* `toUpper_toUpper`, `toLower_toLower`: each mapping is settled after one pass;
* `toUpper_toLower_toUpper`: upper case before the other two passes makes no difference;
* `toLower_toUpper_toLower_iff`: lower case before the other two passes makes a difference in
  texts with a capital sharp s, and only there;
* `trim_toUpper`, `trim_toLower`: trimming commutes with both mappings.
-/

namespace Assay

variable {c d : Char} {cs rest before behind : List Char}

/-! ### The context of a sigma -/

theorem meetsCased_cons (c : Char) (cs : List Char) :
    meetsCased (c :: cs) = if isCaseIgnorable c then meetsCased cs else isCased c := by
  unfold meetsCased
  rw [List.dropWhile_cons]
  by_cases h : isCaseIgnorable c = true
  · rw [if_pos h, if_pos h]
  · rw [if_neg h, if_neg h]

/-- What stands further away matters only by whether it meets a letter. -/
theorem meetsCased_append_congr (cs : List Char) (h : meetsCased before = meetsCased behind) :
    meetsCased (cs ++ before) = meetsCased (cs ++ behind) := by
  induction cs with
  | nil => exact h
  | cons c cs ih => simp only [List.cons_append, meetsCased_cons, ih]

/-- A text that meets a letter hides what stands further away. -/
theorem meetsCased_append (h : meetsCased cs = true) (rest : List Char) :
    meetsCased (cs ++ rest) = true := by
  induction cs with
  | nil => cases h
  | cons c cs ih =>
    rw [meetsCased_cons] at h
    rw [List.cons_append, meetsCased_cons]
    split_ifs at h ⊢ with hpassed
    · exact ih h
    · exact h

/-- The characters before a text matter only by whether they meet a letter. -/
theorem lowerAfter_congr (h : meetsCased before = meetsCased behind) (cs : List Char) :
    lowerAfter before cs = lowerAfter behind cs := by
  induction cs generalizing before behind with
  | nil => rfl
  | cons c cs ih =>
    have hnext : meetsCased (c :: before) = meetsCased (c :: behind) :=
      meetsCased_append_congr [c] h
    rw [lowerAfter, lowerAfter, ih hnext, lowerSigma, lowerSigma, h]

/-- A text ends in the lower case form of its end. -/
theorem exists_lowerAfter_append (before cs rest : List Char) :
    ∃ front, lowerAfter before (cs ++ rest) =
      front ++ lowerAfter (cs.reverse ++ before) rest := by
  induction cs generalizing before with
  | nil => exact ⟨[], rfl⟩
  | cons c cs ih =>
    obtain ⟨front, hfront⟩ := ih (c :: before)
    rw [List.reverse_cons, ← List.append_cons, List.cons_append, lowerAfter, hfront]
    exact ⟨_, (List.append_assoc _ _ _).symm⟩

/-- Before characters that meet no letter a text has the lower case form that it has alone. -/
theorem lowerAfter_append (h : meetsCased rest = false) (before cs : List Char) :
    lowerAfter before (cs ++ rest) =
      lowerAfter before cs ++ lowerAfter (cs.reverse ++ before) rest := by
  induction cs generalizing before with
  | nil => rfl
  | cons c cs ih =>
    have hnone : meetsCased rest = meetsCased [] := h
    have hafter : meetsCased (cs ++ rest) = meetsCased cs := by
      rw [meetsCased_append_congr cs hnone, List.append_nil]
    rw [List.reverse_cons, ← List.append_cons, List.cons_append, lowerAfter, lowerAfter, ih,
      List.append_assoc, lowerSigma, lowerSigma, hafter]

/-- Without a capital sigma the lower case form of a text is that of its characters. -/
theorem lowerAfter_append_of_notMem (h : 'Σ' ∉ cs) (before rest : List Char) :
    lowerAfter before (cs ++ rest) =
      cs.flatMap lowerChar ++ lowerAfter (cs.reverse ++ before) rest := by
  induction cs generalizing before with
  | nil => rfl
  | cons c cs ih =>
    obtain ⟨hc, hcs⟩ := not_or.1 (List.mem_cons.not.1 h)
    rw [List.reverse_cons, ← List.append_cons, List.cons_append, lowerAfter,
      if_neg (Ne.symm hc), ih hcs, List.flatMap_cons, List.append_assoc]

/-! ### Characters of a text in lower case -/

theorem mem_lowerAfter (h : d ∈ lowerAfter before cs) :
    d = 'ς' ∨ d = 'σ' ∨ ∃ c ∈ cs, d ∈ lowerChar c := by
  induction cs generalizing before with
  | nil => cases h
  | cons c cs ih =>
    rw [lowerAfter, List.mem_append] at h
    rcases h with hform | hrest
    · split_ifs at hform with hc
      · rw [List.mem_singleton, lowerSigma] at hform
        split_ifs at hform
        · exact .inl hform
        · exact .inr (.inl hform)
      · exact .inr (.inr ⟨c, List.mem_cons_self, hform⟩)
    · refine (ih hrest).imp_right (.imp_right ?_)
      rintro ⟨e, he, hd⟩
      exact ⟨e, List.mem_cons_of_mem _ he, hd⟩

theorem mem_lowerAfter_of_mem (hc : c ∈ cs) (hsigma : c ≠ 'Σ') (hd : d ∈ lowerChar c) :
    d ∈ lowerAfter before cs := by
  induction cs generalizing before with
  | nil => cases hc
  | cons e cs ih =>
    rw [lowerAfter, List.mem_append]
    rcases List.mem_cons.1 hc with rfl | hc
    · rw [if_neg hsigma]
      exact .inl hd
    · exact .inr (ih hc)

/-- Characters in lower case stay as they are. -/
theorem lowerAfter_eq_self (h : ∀ c ∈ cs, lowerChar c = [c]) (before : List Char) :
    lowerAfter before cs = cs := by
  induction cs generalizing before with
  | nil => rfl
  | cons c cs ih =>
    have hself := h c List.mem_cons_self
    have hsigma : c ≠ 'Σ' := by
      rintro rfl
      exact sigma_notMem_lowerChar 'Σ' (hself ▸ List.mem_singleton_self _)
    rw [lowerAfter, if_neg hsigma, hself, ih fun e he => h e (List.mem_cons_of_mem _ he)]
    rfl

theorem lowerChar_of_mem_lowerAfter (h : d ∈ lowerAfter before cs) : lowerChar d = [d] := by
  rcases mem_lowerAfter h with rfl | rfl | ⟨c, -, hd⟩
  · decide +kernel
  · decide +kernel
  · exact lowerChar_settled hd

/-! ### Repeated mappings -/

theorem toLower_toLower (cs : List Char) : toLower (toLower cs) = toLower cs :=
  lowerAfter_eq_self (fun _ h => lowerChar_of_mem_lowerAfter h) []

theorem toUpper_toUpper (cs : List Char) : toUpper (toUpper cs) = toUpper cs := by
  rw [toUpper, toUpper, List.flatMap_assoc]
  refine List.flatMap_congr fun c _ => ?_
  have hself : ∀ d ∈ upperChar c, upperChar d = [d] := fun d hd => upperChar_settled hd
  rw [List.flatMap_congr hself, List.flatMap_singleton']

/-- Both lower case forms of a capital sigma have it as their upper case form. -/
theorem upperChar_lowerSigma (before behind : List Char) :
    upperChar (lowerSigma before behind) = ['Σ'] := by
  unfold lowerSigma
  split <;> decide +kernel

/-- The upper case form of a text in lower case is taken character by character. -/
theorem toUpper_lowerAfter (before cs : List Char) :
    toUpper (lowerAfter before cs) = cs.flatMap raisedChar := by
  induction cs generalizing before with
  | nil => rfl
  | cons c cs ih =>
    rw [lowerAfter, List.flatMap_cons, toUpper, List.flatMap_append, ← toUpper, ← toUpper, ih]
    congr 1
    split_ifs with hc
    · subst hc
      rw [raisedChar, lowerChar_sigma, toUpper, List.flatMap_singleton, List.flatMap_singleton,
        upperChar_lowerSigma]
      decide +kernel
    · rfl

/-- Upper case before lower and upper case makes no difference. -/
theorem toUpper_toLower_toUpper (cs : List Char) :
    toUpper (toLower (toUpper cs)) = toUpper (toLower cs) := by
  rw [toLower, toUpper_lowerAfter, toLower, toUpper_lowerAfter, toUpper, List.flatMap_assoc]
  refine List.flatMap_congr fun c _ => ?_
  by_cases hc : IsCrossing c
  · rw [upperChar_crossing hc, List.flatMap_singleton]
  · have hself : ∀ d ∈ upperChar c, raisedChar d = [d] :=
      fun d hd => raisedChar_of_mem_upperChar hc hd
    rw [List.flatMap_congr hself, List.flatMap_singleton', raisedChar_eq_upperChar hc]

/-! ### Lower case around upper case -/

/-- A text without a capital sigma that meets a letter from both sides. -/
structure Solid (cs : List Char) : Prop where
  noSigma : 'Σ' ∉ cs
  meetsForwards : meetsCased cs = true
  meetsBackwards : meetsCased cs.reverse = true

instance (cs : List Char) : Decidable (Solid cs) :=
  decidable_of_iff ('Σ' ∉ cs ∧ meetsCased cs = true ∧ meetsCased cs.reverse = true)
    ⟨fun h => ⟨h.1, h.2.1, h.2.2⟩, fun h => ⟨h.1, h.2, h.3⟩⟩

/-- Texts that differ in solid parts only, which have the same lower case form. -/
inductive LowersAlike : List Char → List Char → Prop
  | nil : LowersAlike [] []
  | cons (c : Char) {xs ys : List Char} : LowersAlike xs ys → LowersAlike (c :: xs) (c :: ys)
  | part {x y xs ys : List Char} (hx : Solid x) (hy : Solid y)
      (hform : x.flatMap lowerChar = y.flatMap lowerChar) :
      LowersAlike xs ys → LowersAlike (x ++ xs) (y ++ ys)

theorem LowersAlike.append_left {xs ys : List Char} (h : LowersAlike xs ys) (cs : List Char) :
    LowersAlike (cs ++ xs) (cs ++ ys) := by
  induction cs with
  | nil => exact h
  | cons c cs ih => exact ih.cons c

theorem LowersAlike.meetsCased_eq {xs ys : List Char} (h : LowersAlike xs ys) :
    meetsCased xs = meetsCased ys := by
  induction h with
  | nil => rfl
  | cons c _ ih => exact meetsCased_append_congr [c] ih
  | part hx hy _ _ _ =>
    rw [meetsCased_append hx.meetsForwards, meetsCased_append hy.meetsForwards]

/-- Alike texts in alike contexts have the same lower case form. -/
theorem LowersAlike.lowerAfter_eq {xs ys : List Char} (h : LowersAlike xs ys)
    (hbefore : meetsCased before = meetsCased behind) :
    lowerAfter before xs = lowerAfter behind ys := by
  induction h generalizing before behind with
  | nil => rfl
  | cons c hrest ih =>
    have hnext : meetsCased (c :: before) = meetsCased (c :: behind) :=
      meetsCased_append_congr [c] hbefore
    rw [lowerAfter, lowerAfter, ih hnext, lowerSigma, lowerSigma, hbefore, hrest.meetsCased_eq]
  | part hx hy hform _ ih =>
    rw [lowerAfter_append_of_notMem hx.noSigma, lowerAfter_append_of_notMem hy.noSigma, hform]
    rw [ih]
    rw [meetsCased_append hx.meetsBackwards, meetsCased_append hy.meetsBackwards]

/-- But for the capital sharp s, a crossing character and what it is raised to lower alike. -/
theorem solid_of_crossing (h : IsCrossing c) : c = 'ẞ' ∨
    Solid (raisedChar c) ∧ Solid [c] ∧
      (raisedChar c).flatMap lowerChar = [c].flatMap lowerChar := by
  have hcheck : (crossingChars.all fun c => decide (c = 'ẞ' ∨ Solid (raisedChar c) ∧ Solid [c] ∧
      (raisedChar c).flatMap lowerChar = [c].flatMap lowerChar)) = true := by decide +kernel
  exact of_decide_eq_true (List.all_eq_true.1 hcheck c h.mem)

theorem lowersAlike_toUpper (h : 'ẞ' ∉ cs) : LowersAlike (cs.flatMap raisedChar) (toUpper cs) := by
  induction cs with
  | nil => exact .nil
  | cons c cs ih =>
    obtain ⟨hc, hcs⟩ := not_or.1 (List.mem_cons.not.1 h)
    rw [List.flatMap_cons, toUpper, List.flatMap_cons]
    by_cases hcross : IsCrossing c
    · rw [upperChar_crossing hcross]
      obtain ⟨hraised, hself, hform⟩ := (solid_of_crossing hcross).resolve_left (Ne.symm hc)
      exact .part hraised hself hform (ih hcs)
    · rw [raisedChar_eq_upperChar hcross]
      exact (ih hcs).append_left _

/-- A sharp s is not what upper and then lower case make of a text in lower case. -/
theorem sharpS_notMem (cs : List Char) : 'ß' ∉ toLower (toUpper (toLower cs)) := by
  rw [toLower, toLower, toUpper_lowerAfter]
  intro h
  have hform : ∃ d ∈ cs.flatMap raisedChar, 'ß' ∈ lowerChar d :=
    ((mem_lowerAfter h).resolve_left (by decide)).resolve_left (by decide)
  obtain ⟨d, hd, hsharp⟩ := hform
  obtain ⟨c, -, hraised⟩ := List.mem_flatMap.1 hd
  obtain ⟨e, he, hupper⟩ := List.mem_flatMap.1 hraised
  rcases sharpS_mem_lowerChar hsharp with rfl | rfl
  · -- in upper case the sharp s is two letters
    exact absurd (upperChar_settled hupper) (by decide +kernel)
  · -- the capital sharp s comes from itself only, and that is no lower case form
    obtain rfl := eq_of_crossing hupper isCrossing_capitalSharpS
    have hself := lowerChar_settled he
    rw [lowerChar_capitalSharpS] at hself
    exact absurd hself (by decide)

/-- Lower case before upper and lower case makes a difference in texts with a capital sharp s, and
only there. -/
theorem toLower_toUpper_toLower_iff :
    toLower (toUpper (toLower cs)) = toLower (toUpper cs) ↔ 'ẞ' ∉ cs := by
  constructor
  · intro h hmem
    have hupper : 'ẞ' ∈ toUpper cs := by
      refine List.mem_flatMap.2 ⟨'ẞ', hmem, ?_⟩
      rw [upperChar_crossing isCrossing_capitalSharpS]
      exact List.mem_singleton_self _
    have hsharp : 'ß' ∈ toLower (toUpper cs) :=
      mem_lowerAfter_of_mem hupper (by decide) (by rw [lowerChar_capitalSharpS]; decide)
    exact sharpS_notMem cs (h ▸ hsharp)
  · intro h
    have halike := lowersAlike_toUpper h
    rw [← toUpper_lowerAfter []] at halike
    exact halike.lowerAfter_eq rfl

/-! ### Blanks around a text -/

/-- The lower case form of a character in its context. -/
def formAt (before : List Char) (c : Char) (behind : List Char) : List Char :=
  if c = 'Σ' then [lowerSigma before behind] else lowerChar c

theorem lowerAfter_cons (before : List Char) (c : Char) (cs : List Char) :
    lowerAfter before (c :: cs) = formAt before c cs ++ lowerAfter (c :: before) cs := rfl

theorem formAt_ne_nil (before : List Char) (c : Char) (behind : List Char) :
    formAt before c behind ≠ [] := by
  unfold formAt
  split
  · exact List.cons_ne_nil _ _
  · exact lowerChar_ne_nil c

theorem isBlank_of_mem_formAt (h : d ∈ formAt before c behind) : isBlank d = isBlank c := by
  unfold formAt at h
  split_ifs at h with hc
  · rw [List.mem_singleton, lowerSigma] at h
    subst hc
    split_ifs at h <;> subst h <;> decide
  · exact isBlank_of_mem_lowerChar h

/-- A blank meets no letter, wherever the next one is. -/
theorem meetsCased_blank (h : isBlank c = true) (cs : List Char) :
    meetsCased (c :: cs) = false := by
  obtain ⟨hcased, hpassed⟩ := not_isCased_blank h
  rw [meetsCased_cons, hpassed, hcased]
  rfl

/-- A form that a character may take without a change of what is blank. -/
structure KeepsBlank (c : Char) (form : List Char) : Prop where
  ne_nil : form ≠ []
  isBlank_eq : ∀ d ∈ form, isBlank d = isBlank c

theorem keepsBlank_self (c : Char) : KeepsBlank c [c] :=
  ⟨List.cons_ne_nil _ _, fun _ hd => List.mem_singleton.1 hd ▸ rfl⟩

theorem keepsBlank_upperChar (c : Char) : KeepsBlank c (upperChar c) :=
  ⟨upperChar_ne_nil c, fun _ => isBlank_of_mem_upperChar⟩

theorem keepsBlank_formAt (before : List Char) (c : Char) (behind : List Char) :
    KeepsBlank c (formAt before c behind) :=
  ⟨formAt_ne_nil before c behind, fun _ => isBlank_of_mem_formAt⟩

theorem KeepsBlank.trimStart_append {form : List Char} (h : KeepsBlank c form)
    (rest : List Char) :
    trimStart (form ++ rest) = if isBlank c then trimStart rest else form ++ rest := by
  split_ifs with hc
  · exact List.dropWhile_append_of_pos fun d hd => (h.isBlank_eq d hd).trans hc
  · obtain ⟨d, form, rfl⟩ := List.exists_cons_of_ne_nil h.ne_nil
    refine List.dropWhile_cons_of_neg ?_
    rwa [h.isBlank_eq d List.mem_cons_self]

theorem KeepsBlank.trimEnd_append {form : List Char} (h : KeepsBlank c form)
    (front : List Char) :
    trimEnd (front ++ form) = if isBlank c then trimEnd front else front ++ form := by
  have hreverse : KeepsBlank c form.reverse :=
    ⟨List.reverse_eq_nil_iff.not.2 h.ne_nil,
      fun d hd => h.isBlank_eq d (List.mem_reverse.1 hd)⟩
  have hstart := hreverse.trimStart_append front.reverse
  rw [← List.reverse_append] at hstart
  show (trimStart (front ++ form).reverse).reverse = _
  rw [hstart, apply_ite List.reverse, List.reverse_reverse]
  rfl

theorem trimStart_cons (c : Char) (cs : List Char) :
    trimStart (c :: cs) = if isBlank c then trimStart cs else c :: cs :=
  (keepsBlank_self c).trimStart_append cs

theorem trimEnd_concat (cs : List Char) (c : Char) :
    trimEnd (cs ++ [c]) = if isBlank c then trimEnd cs else cs ++ [c] :=
  (keepsBlank_self c).trimEnd_append cs

theorem trim_toUpper (cs : List Char) : trim (toUpper cs) = toUpper (trim cs) := by
  have hstart (cs : List Char) : trimStart (toUpper cs) = toUpper (trimStart cs) := by
    induction cs with
    | nil => rfl
    | cons c cs ih =>
      have hcons : toUpper (c :: cs) = upperChar c ++ toUpper cs := List.flatMap_cons
      rw [hcons, (keepsBlank_upperChar c).trimStart_append, trimStart_cons, ih, ← hcons]
      exact (apply_ite toUpper _ _ _).symm
  have hend (cs : List Char) : trimEnd (toUpper cs) = toUpper (trimEnd cs) := by
    induction cs using List.reverseRecOn with
    | nil => rfl
    | append_singleton cs c ih =>
      have hconcat : toUpper (cs ++ [c]) = toUpper cs ++ upperChar c := by
        rw [toUpper, List.flatMap_append, List.flatMap_singleton]
        rfl
      rw [hconcat, (keepsBlank_upperChar c).trimEnd_append, trimEnd_concat, ih, ← hconcat]
      exact (apply_ite toUpper _ _ _).symm
  rw [trim, hstart, hend, trim]

theorem trimStart_lowerAfter (h : meetsCased before = false) (cs : List Char) :
    trimStart (lowerAfter before cs) = lowerAfter before (trimStart cs) := by
  induction cs generalizing before with
  | nil => rfl
  | cons c cs ih =>
    rw [lowerAfter_cons, (keepsBlank_formAt before c cs).trimStart_append, trimStart_cons]
    split_ifs with hc
    · have hblank := meetsCased_blank hc before
      rw [ih hblank]
      exact lowerAfter_congr (hblank.trans h.symm) _
    · rfl

theorem trimEnd_lowerAfter (before cs : List Char) :
    trimEnd (lowerAfter before cs) = lowerAfter before (trimEnd cs) := by
  induction cs using List.reverseRecOn with
  | nil => rfl
  | append_singleton cs c ih =>
    rw [trimEnd_concat]
    split_ifs with hc
    · -- a sigma before the blank stands at the end of a word as it does without the blank
      rw [lowerAfter_append (meetsCased_blank hc []), lowerAfter_cons, lowerAfter,
        List.append_nil, (keepsBlank_formAt _ c []).trimEnd_append, if_pos hc, ih]
    · obtain ⟨front, hfront⟩ := exists_lowerAfter_append before cs [c]
      rw [hfront, lowerAfter_cons, lowerAfter, List.append_nil,
        (keepsBlank_formAt _ c []).trimEnd_append, if_neg hc]

theorem trim_toLower (cs : List Char) : trim (toLower cs) = toLower (trim cs) := by
  rw [trim, toLower, trimStart_lowerAfter rfl, trimEnd_lowerAfter, toLower, trim]

/-- Trimming takes blanks away only. -/
theorem mem_trim_iff (h : isBlank c = false) (cs : List Char) : c ∈ trim cs ↔ c ∈ cs := by
  have hstart (cs : List Char) : c ∈ trimStart cs ↔ c ∈ cs := by
    refine ⟨fun hc => (List.dropWhile_sublist _).subset hc, fun hc => ?_⟩
    rw [← List.takeWhile_append_dropWhile (p := isBlank) (l := cs), List.mem_append] at hc
    refine hc.resolve_left fun htake => ?_
    rw [List.mem_takeWhile_imp htake] at h
    cases h
  rw [trim, ← hstart cs, trimEnd, List.mem_reverse]
  exact (hstart _).trans List.mem_reverse

end Assay
