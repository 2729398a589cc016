namespace CatalogSync.Text

-- Every `stride`-th code point from `first` to `last` is mapped, the first one to `image`.
structure CaseRun where
  first : Nat
  last : Nat
  stride : Nat
  image : Nat
deriving DecidableEq, Repr

def CaseRun.map? (run : CaseRun) (code : Nat) : Option Nat :=
  if run.first ≤ code ∧ code ≤ run.last ∧ (code - run.first) % run.stride = 0 then
    some (run.image + (code - run.first))
  else none

def mapCase (runs : List CaseRun) (c : Char) : Char :=
  ((runs.findSome? (·.map? c.toNat)).map Char.ofNat).getD c

end CatalogSync.Text
