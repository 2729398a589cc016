import CatalogSync.Toml.Reader
import CatalogSync.Text.Digit

namespace CatalogSync.Toml

open CatalogSync.Text

def codePoint (width : Nat) : Reader (List Char) := do
  let digits := (← get).take width
  if digits.length ≠ width ∨ !digits.all isHexDigit then fail "Invalid hex value"
  skip width
  let code := hexValue digits
  if code.isValidChar then return [Char.ofNat code]
  else fail "Escaped character is not a Unicode scalar value"

def simpleEscape? : Char → Option Char
  | 'b' => some '\x08'
  | 't' => some '\t'
  | 'n' => some '\n'
  | 'f' => some '\x0c'
  | 'r' => some '\r'
  | '"' => some '"'
  | '\\' => some '\\'
  | _ => none

-- The rest of an escape, after its backslash. In a text of several lines a backslash at the end of
-- a line takes the white space up to the next text off.
def escape (lines : Bool) : Reader (List Char) := do
  match ← peek with
  | some 'u' => skip 1; codePoint 4
  | some 'U' => skip 1; codePoint 8
  | none => fail "Unescaped '\\' in a string"
  | some c =>
    if lines && isSpaceOrNewline c then
      skipWhile isSpace
      match ← peek with
      | none => return []
      | some '\n' => skipWhile isSpaceOrNewline; return []
      | some _ => fail "Unescaped '\\' in a string"
    else
      skip 1
      match simpleEscape? c with
      | some replacement => return [replacement]
      | none => fail "Unescaped '\\' in a string"

-- The characters up to the closing quotes, which are taken off. Every round takes at least one
-- character.
def quotedChars (lines : Bool) : Nat → Reader (List Char)
  | 0 => fail "Unterminated string"
  | rounds + 1 => do
    match ← peek with
    | none => fail "Unterminated string"
    | some '"' =>
      if ← accept (if lines then "\"\"\"" else "\"") then return []
      skip 1
      return '"' :: (← quotedChars lines rounds)
    | some '\\' =>
      skip 1
      let replacement ← escape lines
      return replacement ++ (← quotedChars lines rounds)
    | some c =>
      if (if lines then isLineControl c else isControl c) then
        fail ("Illegal character " ++ quoted (.singleton c))
      skip 1
      return c :: (← quotedChars lines rounds)

def before? (text : List Char) : List Char → Option (List Char)
  | [] => if text.isEmpty then some [] else none
  | c :: cs =>
    if text.isPrefixOf (c :: cs) then some [] else (before? text cs).map (c :: ·)

def literalChars (closing : String) (isIllegal : Char → Bool) : Reader (List Char) := do
  match before? closing.toList (← get) with
  | none =>
    set ([] : List Char)
    fail ("Expected " ++ quoted closing)
  | some cs =>
    skipLegal cs.length isIllegal
    skip closing.length
    return cs

-- Up to two more quotes belong to a text of several lines that they close.
def moreQuotes (quote : String) : Reader (List Char) := do
  if ← accept quote then
    if ← accept quote then return quote.toList ++ quote.toList
    return quote.toList
  return []

def quotedLine : Reader String := do
  skip 1
  return .ofList (← quotedChars false ((← get).length + 1))

def literalLine : Reader String := do
  skip 1
  return .ofList (← literalChars "'" isControl)

-- A text of several lines between three quotes. A line end right behind them does not count.
def quotedLines : Reader String := do
  skip 3
  let _ ← accept "\n"
  let cs ← quotedChars true ((← get).length + 1)
  return .ofList (cs ++ (← moreQuotes "\""))

def literalLines : Reader String := do
  skip 3
  let _ ← accept "\n"
  let cs ← literalChars "'''" isLineControl
  return .ofList (cs ++ (← moreQuotes "'"))

def isBareKeyChar (c : Char) : Bool :=
  ('a' ≤ c && c ≤ 'z') || ('A' ≤ c && c ≤ 'Z') || isAsciiDigit c || c == '-' || c == '_'

def keyPart : Reader String := do
  match ← peek with
  | some '\'' => literalLine
  | some '"' => quotedLine
  | some c =>
    if isBareKeyChar c then
      let cs := (← get).takeWhile isBareKeyChar
      skip cs.length
      return .ofList cs
    else fail "Invalid initial character for a key part"
  | none => fail "Invalid initial character for a key part"

-- The parts of a key between dots. Every round takes at least a dot.
def keyParts : Nat → Reader (List String)
  | 0 => return []
  | rounds + 1 => do
    let part ← keyPart
    skipWhile isSpace
    if ← accept "." then
      skipWhile isSpace
      return part :: (← keyParts rounds)
    return [part]

def key : Reader (List String) := do keyParts ((← get).length + 1)

end CatalogSync.Toml
