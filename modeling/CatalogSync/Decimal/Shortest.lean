import CatalogSync.Decimal.Binary64

namespace CatalogSync.Binary64

def leadingPower (num den : Nat) : Int :=
  if den ≤ num then (Nat.toDigits 10 (num / den)).length - 1
  else
    let size := (Nat.toDigits 10 (den / num)).length
    if num * Nat.pow 10 (size - 1) = den then -(size - 1 : Nat) else -size

def tenths (num den : Nat) (power : Int) : Nat × Nat :=
  if power < 0 then (num * Nat.pow 10 power.natAbs, den) else (num, den * Nat.pow 10 power.natAbs)

-- The point of the grid of `10 ^ power` next to the quotient that reads back as the number, the
-- nearer one if both neighbours do.
def onGrid? (significand : Nat) (exponent : Int) (power : Int) : Option Nat :=
  let (num, den) := quotient significand exponent
  let (n, d) := tenths num den power
  let below := n / d
  let readsBack := fun point =>
    decide (ofDecimal false point power = .finite false significand exponent)
  match readsBack below, readsBack (below + 1) with
  | true, true => some (if 2 * (n % d) ≤ d then below else below + 1)
  | true, false => some below
  | false, true => some (below + 1)
  | false, false => none

-- The fewest digits that read back as a positive number, without zeros at the end, and the power of
-- ten of the first digit. Of 17 digits there is always a hit.
def shortest (significand : Nat) (exponent : Int) : List Char × Int :=
  let (num, den) := quotient significand exponent
  let leading := leadingPower num den
  let hit := (List.range 17).findSome? fun (more : Nat) =>
    (onGrid? significand exponent (leading - more)).map (·, leading - (more : Int))
  let (point, power) := hit.getD (significand, 0)
  let digits := Nat.toDigits 10 point
  ((digits.reverse.dropWhile (· == '0')).reverse, power + digits.length - 1)

end CatalogSync.Binary64
