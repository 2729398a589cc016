import CatalogSync.Datum.Basic
import CatalogSync.Toml.Scalar

namespace CatalogSync.Json

open CatalogSync.Text (hexValue isHexDigit)
open CatalogSync.Toml (decimalValue fractionPart? powerPart?)

def isFiller (c : Char) : Bool := c == ' ' || c == '\t' || c == '\n' || c == '\r'

def skipFiller (cs : List Char) : List Char := cs.dropWhile isFiller

-- A code unit of four hexadecimal digits.
def codeUnit? (cs : List Char) : Option (Nat × List Char) :=
  let digits := cs.take 4
  if digits.length = 4 ∧ digits.all isHexDigit then some (hexValue digits, cs.drop 4) else none

-- A character by its code unit, or by the two halves that it is split into.
def codedChar? (cs : List Char) : Option (Char × List Char) := do
  let (unit, rest) ← codeUnit? cs
  if 0xd800 ≤ unit ∧ unit < 0xdc00 then
    match rest with
    | '\\' :: 'u' :: after =>
      let (low, after) ← codeUnit? after
      if 0xdc00 ≤ low ∧ low < 0xe000 then
        return (Char.ofNat (0x10000 + (unit - 0xd800) * 0x400 + (low - 0xdc00)), after)
      return ('\ufffd', rest)
    | _ => return ('\ufffd', rest)
  return (Char.ofNat unit, rest)

def simpleEscape? : Char → Option Char
  | '/' => some '/'
  | c => Toml.simpleEscape? c

-- The characters of a text up to its closing quote.
def textChars? : Nat → List Char → Option (List Char × List Char)
  | 0, _ => none
  | rounds + 1, cs =>
    match cs with
    | [] => none
    | '"' :: rest => some ([], rest)
    | '\\' :: 'u' :: rest => do
      let (c, rest) ← codedChar? rest
      let (text, rest) ← textChars? rounds rest
      return (c :: text, rest)
    | '\\' :: c :: rest => do
      let c ← simpleEscape? c
      let (text, rest) ← textChars? rounds rest
      return (c :: text, rest)
    | c :: rest => do
      if c.toNat < 0x20 then none
      let (text, rest) ← textChars? rounds rest
      return (c :: text, rest)

def text? (cs : List Char) : Option (String × List Char) :=
  (textChars? (cs.length + 1) cs).map fun (text, rest) => (.ofList text, rest)

def number? (cs : List Char) : Option (Datum × List Char) :=
  let (negative, unsigned) := match cs with
    | '-' :: rest => (true, rest)
    | cs => (false, cs)
  let digits := match unsigned with
    | '0' :: _ => ['0']
    | _ => unsigned.takeWhile Text.isAsciiDigit
  if digits.isEmpty then none
  else
    let rest := unsigned.drop digits.length
    let fraction := fractionPart? rest
    let (fractionDigits, rest) := fraction.getD ([], rest)
    let power := powerPart? rest
    let (exponent, rest) := power.getD (0, rest)
    if fraction.isNone && power.isNone then
      let n : Int := decimalValue digits
      some (.integer (if negative then -n else n), rest)
    else
      let significand := decimalValue (digits ++ fractionDigits)
      some (.float (.ofDecimal negative significand (exponent - fractionDigits.length)), rest)

def words : List (String × Datum) :=
  [("null", .null), ("true", .boolean true), ("false", .boolean false), ("NaN", .float .undefined),
    ("Infinity", .float (.infinite false)), ("-Infinity", .float (.infinite true))]

def scalar? (cs : List Char) : Option (Datum × List Char) :=
  match words.find? fun word => word.1.toList.isPrefixOf cs with
  | some (word, value) => some (value, cs.drop word.length)
  | none => number? cs

def putMember (name : String) (value : Datum) : List (String × Datum) → List (String × Datum)
  | [] => [(name, value)]
  | (n, v) :: rest => if n = name then (n, value) :: rest else (n, v) :: putMember name value rest

mutual

-- A value, nested at most `depth` times.
def value? : Nat → List Char → Option (Datum × List Char)
  | 0, _ => none
  | depth + 1, cs =>
    match skipFiller cs with
    | '"' :: rest => (text? rest).map fun (s, rest) => (.text s, rest)
    | '[' :: rest =>
      match skipFiller rest with
      | ']' :: rest => some (.list [], rest)
      | rest => (items? depth rest).map fun (items, rest) => (.list items, rest)
    | '\x7b' :: rest =>
      match skipFiller rest with
      | '\x7d' :: rest => some (.table [], rest)
      | rest => (members? depth [] rest).map fun (entries, rest) => (.table entries, rest)
    | cs => scalar? cs

def items? : Nat → List Char → Option (List Datum × List Char)
  | 0, _ => none
  | depth + 1, cs => do
    let (item, rest) ← value? depth cs
    match skipFiller rest with
    | ']' :: rest => return ([item], rest)
    | ',' :: rest =>
      let (items, rest) ← items? depth rest
      return (item :: items, rest)
    | _ => none

def members? : Nat → List (String × Datum) → List Char → Option (List (String × Datum) × List Char)
  | 0, _, _ => none
  | depth + 1, found, cs =>
    match skipFiller cs with
    | '"' :: rest => do
      let (name, rest) ← text? rest
      match skipFiller rest with
      | ':' :: rest =>
        let (value, rest) ← value? depth rest
        let found := putMember name value found
        match skipFiller rest with
        | '\x7d' :: rest => return (found, rest)
        | ',' :: rest => members? depth found rest
        | _ => none
      | _ => none
    | _ => none

end

-- Reads a text that holds one value and nothing else.
def read? (text : String) : Option Datum := do
  let (value, rest) ← value? (text.length + 1) text.toList
  if (skipFiller rest).isEmpty then some value else none

end CatalogSync.Json
