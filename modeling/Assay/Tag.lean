import Assay.Inspect

/-!
# Tags and branded values

A tag names a refined type. A branded value is a value together with the tag of the
refinement it has passed; it is compared, shown and written like the value alone.
-/

namespace Assay

/-- The name of a refined type. -/
structure Tag where
  name : String
deriving DecidableEq, Inhabited

/-- A value that carries a tag. -/
structure Branded (α : Type u) where
  tag : Tag
  value : α
deriving DecidableEq

instance [Inspect α] : Inspect (Branded α) where
  inspect b := Inspect.record "Branded" [("tag", inspect b.tag.name), ("value", inspect b.value)]

end Assay
