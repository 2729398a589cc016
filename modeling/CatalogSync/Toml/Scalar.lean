import CatalogSync.Datum.Basic
import CatalogSync.Toml.Text

namespace CatalogSync.Toml

open CatalogSync.Text

def basedNumber? : List Char → Option (Nat × List Char)
  | '0' :: mark :: cs =>
    let read := fun isDigit base =>
      match digitRun isDigit cs with
      | ([], _) => none
      | (digits, rest) => some (digits.foldl (fun n d => base * n + hexValue [d]) 0, rest)
    if mark = 'x' then read isHexDigit 16
    else if mark = 'o' then read isOctalDigit 8
    else if mark = 'b' then read isBinaryDigit 2
    else none
  | _ => none

def decimalValue (digits : List Char) : Nat :=
  digits.foldl (fun n c => 10 * n + (c.toNat - '0'.toNat)) 0

def cutSign : List Char → Bool × List Char
  | '-' :: cs => (true, cs)
  | '+' :: cs => (false, cs)
  | cs => (false, cs)

-- The digits before the point: a zero, or digits that do not start with one.
def wholePart : List Char → List Char × List Char
  | '0' :: cs => (['0'], cs)
  | cs => digitRun isAsciiDigit cs

def fractionPart? : List Char → Option (List Char × List Char)
  | '.' :: cs =>
    match digitRun isAsciiDigit cs with
    | ([], _) => none
    | found => some found
  | _ => none

def powerPart? : List Char → Option (Int × List Char)
  | c :: cs =>
    if c = 'e' ∨ c = 'E' then
      let (negative, cs) := cutSign cs
      match digitRun isAsciiDigit cs with
      | ([], _) => none
      | (digits, rest) =>
        some (if negative then -(decimalValue digits : Int) else decimalValue digits, rest)
    else none
  | [] => none

-- A decimal number. It is a whole one unless it has a fraction or a power of ten.
def decimalNumber? (cs : List Char) : Option (Except Problem Datum × List Char) :=
  let (negative, cs) := cutSign cs
  match wholePart cs with
  | ([], _) => none
  | (digits, cs) =>
    let fraction := fractionPart? cs
    let (fractionDigits, cs) := fraction.getD ([], cs)
    let power := powerPart? cs
    let (exponent, cs) := power.getD (0, cs)
    if fraction.isNone && power.isNone then
      if digits.length > Numeral.digitLimit then some (.error .longNumeral, cs)
      else
        let n : Int := decimalValue digits
        some (.ok (.integer (if negative then -n else n)), cs)
    else
      let significand := decimalValue (digits ++ fractionDigits)
      some (.ok (.float (.ofDecimal negative significand (exponent - fractionDigits.length))), cs)

def twoDigits? (least greatest : Nat) : List Char → Option (Nat × List Char)
  | a :: b :: cs =>
    let n := decimalValue [a, b]
    if isAsciiDigit a && isAsciiDigit b && least ≤ n && n ≤ greatest then some (n, cs) else none
  | _ => none

def after? (c : Char) : List Char → Option (List Char)
  | d :: cs => if d = c then some cs else none
  | [] => none

-- A date with a month and a day that some date has.
def date? (cs : List Char) : Option (Date × List Char) := do
  let (century, cs) ← twoDigits? 0 99 cs
  let (year, cs) ← twoDigits? 0 99 cs
  let (month, cs) ← twoDigits? 1 12 (← after? '-' cs)
  let (day, cs) ← twoDigits? 1 31 (← after? '-' cs)
  return (⟨100 * century + year, month, day⟩, cs)

-- The microseconds in the digits after a point. Further digits do not count.
def microseconds (digits : List Char) : Nat :=
  let counted := digits.take 6
  decimalValue counted * Nat.pow 10 (6 - counted.length)

def time? (cs : List Char) : Option (TimeOfDay × List Char) := do
  let (hour, cs) ← twoDigits? 0 23 cs
  let (minute, cs) ← twoDigits? 0 59 (← after? ':' cs)
  let (second, cs) ← twoDigits? 0 59 (← after? ':' cs)
  match cs with
  | '.' :: rest =>
    let digits := rest.takeWhile isAsciiDigit
    if digits.isEmpty then return (⟨hour, minute, second, 0⟩, cs)
    return (⟨hour, minute, second, microseconds digits⟩, rest.drop digits.length)
  | _ => return (⟨hour, minute, second, 0⟩, cs)

def offset (cs : List Char) : Option Int × List Char :=
  match cs with
  | [] => (none, [])
  | c :: rest =>
    if c = 'Z' ∨ c = 'z' then (some 0, rest)
    else if c = '+' ∨ c = '-' then
      let found := do
        let (hour, rest) ← twoDigits? 0 23 rest
        let (minute, rest) ← twoDigits? 0 59 (← after? ':' rest)
        let minutes : Int := (60 * hour + minute : Nat)
        some (some (if c = '-' then -minutes else minutes), rest)
      found.getD (none, cs)
    else (none, cs)

-- A date, and a time behind it if one is given. The date must exist.
def moment? (cs : List Char) : Option (Option Datum × List Char) := do
  let (date, cs) ← date? cs
  let dated := fun datum => if date.isValid then some datum else none
  let timed := match cs with
    | c :: rest => if c = 'T' ∨ c = 't' ∨ c = ' ' then time? rest else none
    | [] => none
  match timed with
  | none => return (dated (.date date), cs)
  | some (time, cs) =>
    let (offset, cs) := offset cs
    return (dated (.moment ⟨date, time, offset⟩), cs)

def specialNumber? (cs : List Char) : Option (Datum × List Char) :=
  let (negative, unsigned) := cutSign cs
  if "inf".toList.isPrefixOf unsigned then some (.float (.infinite negative), unsigned.drop 3)
  else if "nan".toList.isPrefixOf unsigned then some (.float .undefined, unsigned.drop 3)
  else none

def scalar : Reader Datum := do
  let cs ← get
  match moment? cs with
  | some (none, _) => fail "Invalid date or datetime"
  | some (some datum, rest) => set rest; return datum
  | none =>
  match time? cs with
  | some (time, rest) => set rest; return .time time
  | none =>
  match basedNumber? cs with
  | some (n, rest) => set rest; return .integer n
  | none =>
  match decimalNumber? cs with
  | some (.error problem, _) => throw problem
  | some (.ok datum, rest) => set rest; return datum
  | none =>
  match specialNumber? cs with
  | some (datum, rest) => set rest; return datum
  | none => fail "Invalid value"

end CatalogSync.Toml
