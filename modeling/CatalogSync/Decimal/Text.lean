import CatalogSync.Decimal.Shortest
import CatalogSync.Numeral

namespace CatalogSync.Binary64

-- The powers of the first digit for which the number is written without an exponent.
def isPositional (leading : Int) : Bool := -4 ≤ leading && leading < 16

def positional (digits : List Char) (leading : Int) : List Char :=
  if leading < 0 then '0' :: '.' :: List.replicate (leading.natAbs - 1) '0' ++ digits
  else
    let whole := leading.toNat + 1
    let after := digits.drop whole
    digits.take whole ++ List.replicate (whole - digits.length) '0' ++
      '.' :: (if after.isEmpty then ['0'] else after)

-- Digits with an exponent of at least two digits and a sign. The point is left out after a single
-- digit.
def scientific (digits : List Char) (leading : Int) : List Char :=
  let sign := if leading < 0 then '-' else '+'
  digits.take 1 ++ (if digits.length ≤ 1 then [] else '.' :: digits.drop 1) ++
    'e' :: sign :: Numeral.padded 2 leading.natAbs

def text : Binary64 → List Char
  | finite negative significand exponent =>
    let sign := if negative then ['-'] else []
    if significand = 0 then sign ++ ['0', '.', '0']
    else
      let (digits, leading) := shortest significand exponent
      sign ++ if isPositional leading then positional digits leading else scientific digits leading
  | infinite negative => (if negative then ['-'] else []) ++ ['i', 'n', 'f']
  | undefined => ['n', 'a', 'n']

end CatalogSync.Binary64
