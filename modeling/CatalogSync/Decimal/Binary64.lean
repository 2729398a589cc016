namespace CatalogSync

-- A double precision number. The finite ones are `± significand · 2 ^ exponent`.
inductive Binary64 where
  | finite (negative : Bool) (significand : Nat) (exponent : Int)
  | infinite (negative : Bool)
  | undefined
deriving DecidableEq, Repr

namespace Binary64

def leastExponent : Int := -1074

def greatestExponent : Int := 971

-- The nearest whole number to a quotient; a half goes to the even neighbour.
def nearest (num den : Nat) : Nat :=
  let quotient := num / den
  let twice := 2 * (num % den)
  if twice < den ∨ (twice = den ∧ quotient % 2 = 0) then quotient else quotient + 1

def scaled (num den : Nat) (exponent : Int) : Nat × Nat :=
  if exponent < 0 then (num <<< exponent.natAbs, den) else (num, den <<< exponent.natAbs)

def leastFull : Nat := 1 <<< 52

-- The exponent for which a positive quotient has 53 significant bits.
def exponentOf (num den : Nat) : Int :=
  let guess := (Nat.log2 num : Int) - Nat.log2 den - 52
  let (n, d) := scaled num den guess
  if n / d < leastFull then guess - 1 else guess

-- The number nearest to `± num / den`, for a positive `den`.
def ofQuotient (negative : Bool) (num den : Nat) : Binary64 :=
  if num = 0 then .finite negative 0 leastExponent
  else
    let exponent := max leastExponent (exponentOf num den)
    let (n, d) := scaled num den exponent
    let significand := nearest n d
    let (significand, exponent) :=
      if significand = 2 * leastFull then (leastFull, exponent + 1) else (significand, exponent)
    if greatestExponent < exponent then .infinite negative
    else .finite negative significand exponent

def ofDecimal (negative : Bool) (digits : Nat) (power : Int) : Binary64 :=
  -- Beyond these powers the result is known, however large the power is.
  let size : Int := (Nat.toDigits 10 digits).length
  if digits = 0 ∨ size + power < -400 then .finite negative 0 leastExponent
  else if 400 < size + power then .infinite negative
  else if power < 0 then ofQuotient negative digits (Nat.pow 10 power.natAbs)
  else ofQuotient negative (digits * Nat.pow 10 power.natAbs) 1

def quotient (significand : Nat) (exponent : Int) : Nat × Nat :=
  if exponent < 0 then (significand, 1 <<< exponent.natAbs)
  else (significand <<< exponent.natAbs, 1)

def truncate? : Binary64 → Option Int
  | finite negative significand exponent =>
    let (n, d) := quotient significand exponent
    some (if negative then -(n / d : Nat) else (n / d : Nat))
  | _ => none

def scale : Binary64 → Nat → Binary64
  | finite negative significand exponent, factor =>
    let (n, d) := quotient significand exponent
    ofQuotient negative (n * factor) d
  | x, _ => x

def isZero : Binary64 → Bool
  | finite _ significand _ => significand == 0
  | _ => false

end Binary64

end CatalogSync
