import CatalogSync.Text.Blank
import CatalogSync.Text.Digit
import CatalogSync.Text.Split

namespace CatalogSync.Numeral

open CatalogSync.Text

-- A numeral with more digits than this is neither read nor written.
def digitLimit : Nat := 4300

-- The white space that may surround a numeral. The four information separators are not part of it.
def isPadding (c : Char) : Bool := isBlank c && !(0x1c ≤ c.toNat && c.toNat ≤ 0x1f)

-- The values of the digits. A single underscore may stand between two of them.
def digits? : List Char → Option (List Nat)
  | [] => none
  | [c] => (digitValue? c).map ([·])
  | c :: '_' :: rest => do return (← digitValue? c) :: (← digits? rest)
  | c :: rest => do return (← digitValue? c) :: (← digits? rest)

def ofDigits (digits : List Nat) : Nat := digits.foldl (10 * · + ·) 0

def magnitude? (cs : List Char) : Option Nat := do
  let digits ← digits? cs
  if digits.length ≤ digitLimit then some (ofDigits digits) else none

def signedBy (magnitude? : List Char → Option Nat) : List Char → Option Int
  | '-' :: cs => (magnitude? cs).map fun n => -(n : Int)
  | '+' :: cs => (magnitude? cs).map Int.ofNat
  | cs => (magnitude? cs).map Int.ofNat

def read? (s : String) : Option Int := signedBy magnitude? (trimWhere isPadding s.toList)

def isTooLong (n : Int) : Bool := Nat.pow 10 digitLimit ≤ n.natAbs

-- Decimal digits, with zeros after the sign up to the given width. The sign counts.
def padded (width : Nat) (n : Int) : List Char :=
  let sign := if n < 0 then ['-'] else []
  let digits := Nat.toDigits 10 n.natAbs
  sign ++ List.replicate (width - (sign.length + digits.length)) '0' ++ digits

end CatalogSync.Numeral
