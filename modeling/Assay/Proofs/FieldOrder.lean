import Assay.Proofs.ObjectOutcome

/-!
# The order of fields

An object rule checks its fields in the order of their declaration. When the names are distinct,
this order can only be seen in the order of the issues: the rule accepts the same objects and makes
the same outputs in any order, and the issues of each field stay together as they are, in front of
those about members that are not declared.

* `made_perm`, `undeclared_perm`: what does not depend on the order;
* `parse_object_perm`: accepted objects;
* `order_outcome`: both outcomes of two rules with the same fields.
-/

namespace Assay
namespace Rule

variable {fields others : List (String × Rule)} {members : List (String × Json)}

/-- Fields with distinct names make members with distinct keys. -/
theorem nodup_outputMembers (distinct : (fields.map Prod.fst).Nodup) :
    ((fields.filterMap (outputMember? members)).map Prod.fst).Nodup := by
  refine List.pairwise_map.2 (List.pairwise_filterMap.2 ?_)
  refine (List.pairwise_map.1 distinct).imp ?_
  intro field other hne member hmember member' hmember'
  rwa [name_of_outputMember? hmember, name_of_outputMember? hmember']

/-- Fields with distinct names make the same members in any order. -/
theorem made_perm (distinct : (fields.map Prod.fst).Nodup) (perm : fields.Perm others) :
    Json.ofPairs (fields.filterMap (outputMember? members)) =
      Json.ofPairs (others.filterMap (outputMember? members)) :=
  Json.ofPairs_perm (nodup_outputMembers distinct) (perm.filterMap _)

theorem undeclared_perm (perm : fields.Perm others) :
    undeclared fields members = undeclared others members := by
  refine List.filter_congr fun key _ => ?_
  rw [(perm.map Prod.fst).contains_eq]

theorem parse_object_perm (distinct : (fields.map Prod.fst).Nodup) (perm : fields.Perm others)
    {strict : Bool} {output : Output}
    (h : (object fields strict).parse (.object members) = .success output) :
    (object others strict).parse (.object members) = .success output := by
  obtain ⟨_, ⟨rfl⟩, rfl, haccept, hdeclared⟩ := parse_object_eq_success.1 h
  rw [unrecognized_eq_map, undeclared_perm perm] at hdeclared
  exact parse_object_eq_success.2 ⟨members, rfl, by rw [made_perm distinct perm],
    fun field hfield => haccept field (perm.mem_iff.2 hfield), hdeclared⟩

/-- **The order of fields does not matter.** Take two object rules with the same fields of distinct
names in different orders. They accept the same inputs and make the same outputs. When they refuse
an object, the issues of one are those of the other in a different order: the issues of each field
stay together in their own order, and those about members that are not declared come last, as they
are. -/
theorem order_outcome (distinct : (fields.map Prod.fst).Nodup) (perm : fields.Perm others)
    (strict : Bool) :
    (∀ input : Json, input.kind ≠ .object →
      (object others strict).parse input = (object fields strict).parse input) ∧
    ∀ members : List (String × Json),
      (∀ output, (object others strict).parse (.object members) = .success output ↔
        (object fields strict).parse (.object members) = .success output) ∧
      ∀ d, (object fields strict).parse (.object members) = .failure d →
        ∃ e, (object others strict).parse (.object members) = .failure e ∧
          e.toList.Perm d.toList ∧
          d.toList = fields.flatMap (fieldIssues members) ++
            (if strict then (undeclared fields members).map unrecognizedKey else []) ∧
          e.toList = others.flatMap (fieldIssues members) ++
            (if strict then (undeclared fields members).map unrecognizedKey else []) := by
  have distinct' : (others.map Prod.fst).Nodup := (perm.map Prod.fst).nodup_iff.1 distinct
  refine ⟨fun input hkind => ?_, fun members => ⟨fun output => ?_, fun d hd => ?_⟩⟩
  · cases input with
    | object members => exact absurd rfl hkind
    | _ => rfl
  · exact ⟨parse_object_perm distinct' perm.symm, parse_object_perm distinct perm⟩
  · cases he : (object others strict).parse (.object members) with
    | success output =>
      rw [parse_object_perm distinct' perm.symm he] at hd
      cases hd
    | failure e =>
      have hfields := issues_declarations fields strict members
      have hothers := issues_declarations others strict members
      rw [hd, Validation.issues_failure, unrecognized_eq_map] at hfields
      rw [he, Validation.issues_failure, unrecognized_eq_map, ← undeclared_perm perm] at hothers
      refine ⟨e, rfl, ?_, hfields, hothers⟩
      rw [hfields, hothers]
      exact (perm.symm.flatMap_right _).append_right _

/-- A title, a short list of tags and a size that may be missing. -/
def memo : List (String × Rule) :=
  [("title", string ⟨[.trim], [.minLength 2, .startsWith "A"]⟩),
   ("tags", array (string .any) ⟨none, some 1⟩),
   ("size", optional (integer .any))]

/-- A memo without a size. -/
def newMemo : List (String × Json) :=
  [("tags", .array [.string "new"]), ("title", .string " Aims ")]

/-- A memo with a blank title, a tag too many, null for a tag, and a member that is not declared. -/
def badMemo : List (String × Json) :=
  [("draft", .null), ("tags", .array [.null, .string "b"]), ("title", .string " ")]

/-- With the title declared last, the new memo is accepted as before, and the two issues of the bad
title are reported behind those of the tags, but still in front of the one of the other member. -/
theorem order_outcome_memo :
    (memo.map Prod.fst).Nodup ∧ memo.Perm (memo.rotate 1) ∧
      (object (memo.rotate 1) true).parse (.object newMemo) =
        .success (.object [("tags", .array [.string "new"]), ("title", .string "Aims")]) ∧
      ∃ d e, (object memo true).parse (.object badMemo) = .failure d ∧
        (object (memo.rotate 1) true).parse (.object badMemo) = .failure e ∧
        e.toList.Perm d.toList ∧
        d.toList.map (fun issue => (issue.path, issue.code)) =
          [([.key "title"], .tooSmall "2" true), ([.key "title"], .invalidFormat .startsWith),
           ([.key "tags"], .tooBig "1" true),
           ([.key "tags", .index 0], .invalidType "string" .null),
           ([], .unrecognizedKey "draft")] ∧
        e.toList.map (fun issue => (issue.path, issue.code)) =
          [([.key "tags"], .tooBig "1" true),
           ([.key "tags", .index 0], .invalidType "string" .null),
           ([.key "title"], .tooSmall "2" true), ([.key "title"], .invalidFormat .startsWith),
           ([], .unrecognizedKey "draft")] := by
  have distinct : (memo.map Prod.fst).Nodup := by decide
  have perm : memo.Perm (memo.rotate 1) := (List.rotate_perm memo 1).symm
  obtain ⟨-, horder⟩ := order_outcome distinct perm true
  have haccept := ((horder newMemo).1 _).2 rfl
  cases h : (object memo true).parse (.object badMemo) with
  | success output => cases h
  | failure d =>
    obtain ⟨e, he, hperm, hfirst, hturned⟩ := (horder badMemo).2 d h
    refine ⟨distinct, perm, haccept, d, e, rfl, he, hperm, ?_, ?_⟩
    · rw [hfirst]
      rfl
    · rw [hturned]
      rfl

/-- When a name is declared twice, the order decides which declaration makes the member. -/
example :
    (object [("on", boolean), ("on", transform boolean Mapper.negate.apply)] false).parse
        (.object [("on", .boolean true)]) = .success (.object [("on", .boolean false)]) ∧
      (object [("on", transform boolean Mapper.negate.apply), ("on", boolean)] false).parse
        (.object [("on", .boolean true)]) = .success (.object [("on", .boolean true)]) :=
  ⟨rfl, rfl⟩

end Rule
end Assay
