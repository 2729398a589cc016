import CatalogSync.Text.Digit
import CatalogSync.Text.Split

namespace CatalogSync.Uri

open CatalogSync.Text

def isGroup (cs : List Char) : Bool := 1 ≤ cs.length && cs.length ≤ 4 && cs.all isHexDigit

-- A number from 0 to 255 in decimal digits, without leading zeros.
def isOctet (cs : List Char) : Bool :=
  1 ≤ cs.length && cs.length ≤ 3 && cs.all isAsciiDigit && (cs == ['0'] || cs.head? != some '0')
    && cs.foldl (fun n c => 10 * n + (c.toNat - '0'.toNat)) 0 ≤ 255

def isDottedQuad (cs : List Char) : Bool :=
  let octets := pieces '.' cs
  octets.length == 4 && octets.all isOctet

-- The groups of an address. Four octets at the end stand for two groups, which are written here as
-- two zero groups.
def groups? (cs : List Char) : Option (List (List Char)) :=
  let groups := pieces ':' cs
  let final := groups.getLast?.getD []
  if final.contains '.' then
    if isDottedQuad final then some (groups.dropLast ++ [['0'], ['0']]) else none
  else some groups

-- The number of groups on one side of the two colons. No group at all shows as one empty piece,
-- since the piece is cut at the colon.
def sideCount? : List (List Char) → Option Nat
  | [] => none
  | [[]] => some 0
  | groups => if groups.all isGroup then some groups.length else none

-- Whether the groups around the empty piece at `i` leave out at least one group.
def isShortenedAt (groups : List (List Char)) (i : Nat) : Bool :=
  match groups[i]?, sideCount? (groups.take i), sideCount? (groups.drop (i + 1)) with
  | some [], some left, some right => left + right ≤ 7
  | _, _, _ => false

def isIPv6 (cs : List Char) : Bool :=
  match groups? cs with
  | none => false
  | some groups =>
    (groups.length == 8 && groups.all isGroup)
      || (List.range groups.length).any (isShortenedAt groups)

def isZonedIPv6 (cs : List Char) : Bool :=
  match cutAt (· = '%') cs with
  | (address, none) => isIPv6 address
  | (address, some zone) => isIPv6 address && !zone.isEmpty && !zone.contains '%'

def isVersioned (cs : List Char) : Bool :=
  match cutAt (· = '.') cs with
  | (version, some address) => !version.isEmpty && version.all isHexDigit && !address.isEmpty
  | (_, none) => false

def isBracketedAddress : List Char → Bool
  | 'v' :: cs => isVersioned cs
  | cs => isZonedIPv6 cs

end CatalogSync.Uri
