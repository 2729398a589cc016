namespace CatalogSync

namespace Batch

-- Consecutive slices of `more + 1` items. Only the last one may be shorter.
def slices {α : Type} (more : Nat) : List α → List (List α)
  | [] => []
  | item :: items => (item :: items.take more) :: slices more (items.drop more)
termination_by items => items.length
decreasing_by simp only [List.length_drop, List.length_cons]; omega

def plan {α : Type} (size : Int) (items : List α) : List (List α) :=
  if size ≤ 0 then [items] else slices (size.toNat - 1) items

end Batch

end CatalogSync
