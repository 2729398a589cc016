import CatalogSync.Numeral

namespace CatalogSync

structure Date where
  year : Nat
  month : Nat
  day : Nat
deriving DecidableEq, Repr

structure TimeOfDay where
  hour : Nat
  minute : Nat
  second : Nat
  microsecond : Nat
deriving DecidableEq, Repr

-- A moment. Without an offset it is a local one; the offset counts minutes east of universal time.
structure Moment where
  date : Date
  time : TimeOfDay
  offset : Option Int
deriving DecidableEq, Repr

namespace Date

-- Every fourth year has a leap day, but of the full centuries only every fourth.
def isLeapYear (year : Nat) : Bool := year % 4 == 0 && (year % 100 != 0 || year % 400 == 0)

def daysIn (year month : Nat) : Nat :=
  if month = 2 then if isLeapYear year then 29 else 28
  else if month ∈ [4, 6, 9, 11] then 30 else 31

-- Whether the date exists, in a year from 1 on.
def isValid (date : Date) : Bool :=
  1 ≤ date.year && 1 ≤ date.month && date.month ≤ 12 && 1 ≤ date.day
    && date.day ≤ daysIn date.year date.month

def text (date : Date) : List Char :=
  Numeral.padded 4 date.year ++ '-' :: Numeral.padded 2 date.month ++
    '-' :: Numeral.padded 2 date.day

end Date

def TimeOfDay.text (time : TimeOfDay) : List Char :=
  Numeral.padded 2 time.hour ++ ':' :: Numeral.padded 2 time.minute ++
    ':' :: Numeral.padded 2 time.second ++
    if time.microsecond = 0 then [] else '.' :: Numeral.padded 6 time.microsecond

def offsetText (minutes : Int) : List Char :=
  (if minutes < 0 then '-' else '+') :: Numeral.padded 2 (minutes.natAbs / 60 : Nat) ++
    ':' :: Numeral.padded 2 (minutes.natAbs % 60 : Nat)

def Moment.text (moment : Moment) : List Char :=
  moment.date.text ++ ' ' :: moment.time.text ++ (moment.offset.map offsetText).getD []

end CatalogSync
