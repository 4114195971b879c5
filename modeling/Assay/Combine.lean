/-!
# Combining errors

Errors of independent checks are merged by an associative operation, so that it does not
matter how they are grouped.
-/

namespace Assay

/-- A type whose values can be merged in order. -/
class Combine (α : Type u) where
  /-- Merge two values, the first one in front. -/
  combine : α → α → α
  combine_assoc : ∀ a b c, combine (combine a b) c = combine a (combine b c)

export Combine (combine combine_assoc)

instance : Combine (List α) := ⟨List.append, List.append_assoc⟩

instance : Combine String := ⟨String.append, fun _ _ _ => String.append_assoc⟩

@[simp] theorem combine_list (a b : List α) : combine a b = a ++ b := rfl

@[simp] theorem combine_string (a b : String) : combine a b = a ++ b := rfl

/-- A value merged with all that follow it, in order. -/
def Combine.merge [Combine α] (a : α) : List α → α
  | [] => a
  | b :: rest => combine a (merge b rest)

/-- The values merged pair by pair from the left; no value at all has no merged form. -/
def Combine.fromLeft? [Combine α] : List α → Option α
  | [] => none
  | a :: rest => some (rest.foldl combine a)

/-- The values merged pair by pair from the right; no value at all has no merged form. -/
def Combine.fromRight? [Combine α] : List α → Option α
  | [] => none
  | a :: rest => some (merge a rest)

end Assay
