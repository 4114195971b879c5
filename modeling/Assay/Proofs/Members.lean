import Assay.Json.Basic
import Mathlib.Tactic
import Mathlib.Data.String.Basic

/-!
# Members of objects

The members of an object are kept in ascending order of their keys. What an object built by
`ofPairs` holds is told by looking up keys: of several pairs with one key the last counts.

* `lookup_insert`, `lookup_ofPairs`: what is found under a key;
* `sorted_ofPairs`: the keys are in strictly ascending order;
* `lookup_ofPairs_filterMap`: when distinct names contribute at most one member each, every
  name finds its own member;
* `ofPairs_perm`: pairs with distinct keys make the same object in any order.
-/

namespace Assay
namespace Json

/-- The value of a member; a member that is absent counts as null. -/
def memberOrNull (members : List (String × Json)) (name : String) : Json :=
  (members.lookup name).getD .null

theorem mem_of_lookup_eq_some {pairs : List (String × α)} {name : String} {a : α}
    (h : pairs.lookup name = some a) : (name, a) ∈ pairs := by
  obtain ⟨before, behind, rfl, -⟩ := List.lookup_eq_some_iff.1 h
  simp

theorem isSome_lookup {pairs : List (String × α)} {name : String} :
    (pairs.lookup name).isSome = true ↔ name ∈ pairs.map Prod.fst := by
  constructor
  · intro h
    obtain ⟨value, hvalue⟩ := Option.isSome_iff_exists.1 h
    exact List.mem_map_of_mem (mem_of_lookup_eq_some hvalue)
  · rintro h
    obtain ⟨member, hmember, rfl⟩ := List.mem_map.1 h
    rw [Option.isSome_iff_ne_none]
    intro hnone
    simpa using List.lookup_eq_none_iff.1 hnone member hmember

theorem memberOrNull_eq_null {members : List (String × Json)} {name : String} :
    memberOrNull members name = .null ↔
      members.lookup name = none ∨ members.lookup name = some .null := by
  unfold memberOrNull
  cases members.lookup name <;> simp

/-- Among pairs with distinct keys, each pair is found under its key. -/
theorem lookup_eq_some_of_mem {pairs : List (String × α)} (distinct : (pairs.map Prod.fst).Nodup)
    {name : String} {a : α} (h : (name, a) ∈ pairs) : pairs.lookup name = some a := by
  obtain ⟨before, behind, rfl⟩ := List.append_of_mem h
  refine List.lookup_eq_some_iff.2 ⟨before, behind, rfl, fun pair hpair => ?_⟩
  rw [List.map_append, List.map_cons, List.nodup_append] at distinct
  have hne := distinct.2.2 _ (List.mem_map_of_mem hpair) name (by simp)
  simpa using Ne.symm hne

theorem lookup_cons_eq_ite (key : String) (a : α) (pairs : List (String × α)) (k : String) :
    ((key, a) :: pairs).lookup k = if k = key then some a else pairs.lookup k := by
  by_cases h : k = key
  · simp [h]
  · simp [List.lookup_cons, beq_eq_false_iff_ne.2 h, h]

/-! ### Inserting a member -/

theorem lookup_insert (key : String) (value : Json) (members : List (String × Json))
    (k : String) :
    (insert key value members).lookup k = if k = key then some value else members.lookup k := by
  induction members with
  | nil => exact lookup_cons_eq_ite key value [] k
  | cons member rest ih =>
    obtain ⟨l, v⟩ := member
    unfold insert
    by_cases h1 : key < l
    · rw [if_pos h1, lookup_cons_eq_ite]
    · rw [if_neg h1]
      by_cases h2 : key = l
      · rw [if_pos h2, lookup_cons_eq_ite, lookup_cons_eq_ite, ← h2]
        by_cases hk : k = key <;> simp [hk]
      · rw [if_neg h2, lookup_cons_eq_ite, lookup_cons_eq_ite, ih]
        by_cases hk : k = key
        · rw [if_pos hk, if_pos hk, if_neg (hk ▸ h2)]
        · rw [if_neg hk, if_neg hk]

theorem mem_insert {key : String} {value : Json} {members : List (String × Json)}
    {member : String × Json} (h : member ∈ insert key value members) :
    member = (key, value) ∨ member ∈ members := by
  induction members with
  | nil => exact Or.inl (List.mem_singleton.1 h)
  | cons first rest ih =>
    unfold insert at h
    split_ifs at h with h1 h2
    · exact List.mem_cons.1 h
    · rcases List.mem_cons.1 h with h | h
      · exact Or.inl h
      · exact Or.inr (List.mem_cons_of_mem _ h)
    · rcases List.mem_cons.1 h with h | h
      · exact Or.inr (h ▸ List.mem_cons_self)
      · exact (ih h).imp_right (List.mem_cons_of_mem _)

theorem sorted_insert {key : String} {value : Json} {members : List (String × Json)}
    (sorted : members.Pairwise fun a b => a.1 < b.1) :
    (insert key value members).Pairwise fun a b => a.1 < b.1 := by
  induction members with
  | nil => exact List.pairwise_singleton _ _
  | cons first rest ih =>
    obtain ⟨hfirst, hrest⟩ := List.pairwise_cons.1 sorted
    unfold insert
    split_ifs with h1 h2
    · refine List.pairwise_cons.2 ⟨fun member hmember => ?_, sorted⟩
      rcases List.mem_cons.1 hmember with rfl | hmember
      · exact h1
      · exact lt_trans h1 (hfirst member hmember)
    · subst h2
      exact List.pairwise_cons.2 ⟨hfirst, hrest⟩
    · refine List.pairwise_cons.2 ⟨fun member hmember => ?_, ih hrest⟩
      rcases mem_insert hmember with rfl | hmember
      · exact lt_of_le_of_ne (not_lt.1 h1) (Ne.symm h2)
      · exact hfirst member hmember

/-! ### Objects from pairs -/

theorem lookup_foldl_insert (pairs members : List (String × Json)) (k : String) :
    (pairs.foldl (fun members (key, value) => insert key value members) members).lookup k =
      (pairs.reverse ++ members).lookup k := by
  induction pairs generalizing members with
  | nil => rfl
  | cons pair rest ih =>
    obtain ⟨key, value⟩ := pair
    rw [List.foldl_cons, ih, List.lookup_append, lookup_insert, List.reverse_cons,
      List.append_assoc, List.singleton_append, List.lookup_append, lookup_cons_eq_ite]

/-- Of several pairs with one key the last counts. -/
theorem lookup_ofPairs (pairs : List (String × Json)) (k : String) :
    (ofPairs pairs).lookup k = pairs.reverse.lookup k := by
  rw [ofPairs, lookup_foldl_insert, List.append_nil]

theorem sorted_ofPairs (pairs : List (String × Json)) :
    (ofPairs pairs).Pairwise fun a b => a.1 < b.1 := by
  suffices h : ∀ members : List (String × Json), (members.Pairwise fun a b => a.1 < b.1) →
      (pairs.foldl (fun members (key, value) => insert key value members) members).Pairwise
        fun a b => a.1 < b.1 from h [] List.Pairwise.nil
  intro members sorted
  induction pairs generalizing members with
  | nil => exact sorted
  | cons pair rest ih => exact ih _ (sorted_insert sorted)

/-- The keys of an object are distinct. -/
theorem nodup_ofPairs (pairs : List (String × Json)) : ((ofPairs pairs).map Prod.fst).Nodup :=
  List.pairwise_map.2 ((sorted_ofPairs pairs).imp ne_of_lt)

/-- Under the key of each of its pairs an object holds a member. -/
theorem exists_lookup_ofPairs {pairs : List (String × Json)} {key : String} {value : Json}
    (h : (key, value) ∈ pairs) : ∃ found, (ofPairs pairs).lookup key = some found := by
  rw [lookup_ofPairs, ← Option.isSome_iff_exists, isSome_lookup]
  exact List.mem_map_of_mem (List.mem_reverse.2 h)

/-- An object holds nothing but the given pairs. -/
theorem mem_of_mem_ofPairs {pairs : List (String × Json)} {member : String × Json}
    (h : member ∈ ofPairs pairs) : member ∈ pairs := by
  have hlookup := lookup_eq_some_of_mem (nodup_ofPairs pairs) h
  rw [lookup_ofPairs] at hlookup
  exact List.mem_reverse.1 (mem_of_lookup_eq_some hlookup)

/-- When distinct names contribute at most one member each, under the name itself, every name
finds its own member. -/
theorem lookup_ofPairs_filterMap {fields : List (String × α)}
    {member? : String × α → Option (String × Json)}
    (distinct : (fields.map Prod.fst).Nodup)
    (named : ∀ field member, member? field = some member → member.1 = field.1)
    {field : String × α} (hfield : field ∈ fields) :
    (ofPairs (fields.filterMap member?)).lookup field.1 = (member? field).map Prod.snd := by
  have hkey : ∀ other ∈ fields, ∀ member, member? other = some member →
      member.1 = field.1 → other = field := fun other hother member h hname =>
    List.inj_on_of_nodup_map distinct hother hfield ((named other member h).symm.trans hname)
  cases h : (ofPairs (fields.filterMap member?)).lookup field.1 with
  | some value =>
    obtain ⟨other, hother, hmember⟩ :=
      List.mem_filterMap.1 (mem_of_mem_ofPairs (mem_of_lookup_eq_some h))
    rw [← hkey other hother _ hmember rfl, hmember]
    rfl
  | none =>
    cases hmember : member? field with
    | none => rfl
    | some member =>
      rw [lookup_ofPairs, List.lookup_eq_none_iff] at h
      have hne := h member (List.mem_reverse.2 (List.mem_filterMap.2 ⟨field, hfield, hmember⟩))
      simp [named field member hmember] at hne

/-! ### The order of the pairs -/

theorem mem_iff_lookup {pairs : List (String × α)} (distinct : (pairs.map Prod.fst).Nodup)
    {name : String} {a : α} : (name, a) ∈ pairs ↔ pairs.lookup name = some a :=
  ⟨lookup_eq_some_of_mem distinct, mem_of_lookup_eq_some⟩

/-- Members in ascending order of keys are determined by what is found under each key. -/
theorem eq_of_lookup_eq {members others : List (String × Json)}
    (sorted : members.Pairwise fun a b => a.1 < b.1)
    (sorted' : others.Pairwise fun a b => a.1 < b.1)
    (h : ∀ key, members.lookup key = others.lookup key) : members = others := by
  have hkeys : (members.map Prod.fst).Nodup := List.pairwise_map.2 (sorted.imp ne_of_lt)
  have hkeys' : (others.map Prod.fst).Nodup := List.pairwise_map.2 (sorted'.imp ne_of_lt)
  have hperm : members.Perm others := by
    refine (List.perm_ext_iff_of_nodup hkeys.of_map hkeys'.of_map).2 fun ⟨key, value⟩ => ?_
    rw [mem_iff_lookup hkeys, mem_iff_lookup hkeys', h]
  exact hperm.eq_of_pairwise (fun a b _ _ hab hba => absurd hba (lt_asymm hab)) sorted sorted'

/-- Pairs with distinct keys are all found in the object that they make. -/
theorem lookup_ofPairs_eq_some {pairs : List (String × Json)}
    (distinct : (pairs.map Prod.fst).Nodup) {key : String} {value : Json} :
    (ofPairs pairs).lookup key = some value ↔ (key, value) ∈ pairs := by
  have hreverse : (pairs.reverse.map Prod.fst).Nodup := by
    rwa [List.map_reverse, List.nodup_reverse]
  rw [lookup_ofPairs, ← mem_iff_lookup hreverse, List.mem_reverse]

/-- The order of pairs with distinct keys does not matter. -/
theorem ofPairs_perm {pairs others : List (String × Json)}
    (distinct : (pairs.map Prod.fst).Nodup) (perm : pairs.Perm others) :
    ofPairs pairs = ofPairs others := by
  have distinct' : (others.map Prod.fst).Nodup := (perm.map Prod.fst).nodup_iff.1 distinct
  refine eq_of_lookup_eq (sorted_ofPairs _) (sorted_ofPairs _) fun key => Option.ext fun value => ?_
  rw [lookup_ofPairs_eq_some distinct, lookup_ofPairs_eq_some distinct', perm.mem_iff]

end Json
end Assay
