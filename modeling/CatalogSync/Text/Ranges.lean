namespace CatalogSync.Text

-- Inclusive ranges of code points, in ascending order.
abbrev Ranges := List (Nat × Nat)

def Ranges.holds (ranges : Ranges) (code : Nat) : Bool :=
  ranges.any fun range => range.1 ≤ code && code ≤ range.2

end CatalogSync.Text
