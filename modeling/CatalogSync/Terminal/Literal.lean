import CatalogSync.Numeral
import CatalogSync.Text.Word

namespace CatalogSync.Terminal.Literal

open CatalogSync.Text

-- What matters of a literal for the place where it stands.
inductive Kind where
  | real
  | imaginary
  | signed
  | text
  | bytes
  | constant
  -- A value that can change: a set, a dictionary, or a tuple that holds one.
  | container
deriving DecidableEq, Repr

-- Takes characters off the front of a text, or gives up.
abbrev Scan := StateT (List Char) Option

-- Takes off a character of a set, if one comes next.
def accept (p : Char → Bool) : Scan Bool := do
  match ← get with
  | c :: cs => if p c then set cs; return true else return false
  | [] => return false

def require (holds : Bool) : Scan Unit := if holds then pure () else failure

def expect (c : Char) : Scan Unit := do require (← accept (· = c))

-- Skips what may stand between two parts of a literal: spaces, lines that a backslash continues
-- and, inside of brackets, line ends and comments.
def gapFrom (inside : Bool) : List Char → List Char
  | '\\' :: '\n' :: c :: cs => gapFrom inside (c :: cs)
  | c :: cs =>
    if c = ' ' ∨ c = '\t' ∨ c = '\x0c' then gapFrom inside cs
    else if inside && c == '\n' then gapFrom inside cs
    else if inside && c == '#' then comment cs
    else c :: cs
  | [] => []
where
  comment : List Char → List Char
    | '\n' :: cs => gapFrom inside cs
    | _ :: cs => comment cs
    | [] => []

def gap (inside : Bool) : Scan Unit := modify (gapFrom inside)

def based (isDigit : Char → Bool) (cs : List Char) : Option (Kind × List Char) :=
  match digitRun isDigit (if cs.head? = some '_' then cs.drop 1 else cs) with
  | ([], _) => none
  | (_, rest) => some (.real, rest)

-- What follows a letter for a power of ten: a sign or not, and digits.
def power? (cs : List Char) : Option (List Char) :=
  let unsigned := if cs.head? = some '+' ∨ cs.head? = some '-' then cs.drop 1 else cs
  match digitRun isAsciiDigit unsigned with
  | ([], _) => none
  | (_, rest) => some rest

-- A decimal number. A whole one may not have zeros in front unless it is zero.
def decimal (cs : List Char) : Option (Kind × List Char) := do
  let (whole, cs) := digitRun isAsciiDigit cs
  let (fraction, afterFraction) := match cs with
    | '.' :: rest => let (digits, rest) := digitRun isAsciiDigit rest; (some digits, rest)
    | cs => (none, cs)
  if whole.isEmpty && fraction.all List.isEmpty then none
  let hasPower := afterFraction.head?.any fun c => c = 'e' ∨ c = 'E'
  let cs ← if hasPower then power? (afterFraction.drop 1) else some afterFraction
  if cs.head?.any fun c => c = 'j' ∨ c = 'J' then return (.imaginary, cs.drop 1)
  let isZero := whole.all (· = '0')
  let isWritable := isZero || (whole.head? != some '0' && whole.length ≤ Numeral.digitLimit)
  if fraction.isSome || hasPower || isWritable then some (.real, cs) else none

def number (cs : List Char) : Option (Kind × List Char) := do
  let (kind, rest) ← match cs with
    | '0' :: mark :: digits =>
      if mark = 'x' ∨ mark = 'X' then based isHexDigit digits
      else if mark = 'o' ∨ mark = 'O' then based isOctalDigit digits
      else if mark = 'b' ∨ mark = 'B' then based isBinaryDigit digits
      else decimal cs
    | _ => decimal cs
  if rest.head?.any isWordChar then none else some (kind, rest)

def lineText (quote : Char) : List Char → Option (List Char × List Char)
  | '\\' :: c :: cs => (lineText quote cs).map fun (body, rest) => ('\\' :: c :: body, rest)
  | c :: cs =>
    if c = quote then some ([], cs)
    else if c = '\n' ∨ c = '\\' then none
    else (lineText quote cs).map fun (body, rest) => (c :: body, rest)
  | [] => none

def longText (quote : Char) : List Char → Option (List Char × List Char)
  | '\\' :: c :: cs => (longText quote cs).map fun (body, rest) => ('\\' :: c :: body, rest)
  | c :: cs =>
    if [quote, quote, quote].isPrefixOf (c :: cs) then some ([], cs.drop 2)
    else (longText quote cs).map fun (body, rest) => (c :: body, rest)
  | [] => none

-- Whether the backslashes of a text all start an escape. In bytes only those by two digits are
-- looked at.
def escapesAreSound (isBytes : Bool) : List Char → Bool
  | [] => true
  | c :: cs =>
    if c ≠ '\\' then escapesAreSound isBytes cs
    else
      match cs with
      | [] => false
      | mark :: rest =>
        let width := if mark = 'x' then 2 else if isBytes then 0 else
          if mark = 'u' then 4 else if mark = 'U' then 8 else 0
        let digits := rest.take width
        digits.length == width && digits.all isHexDigit && hexValue digits < 0x110000 &&
          (isBytes || mark != 'N') && escapesAreSound isBytes rest

def quotedText (letters : String) (cs : List Char) : Option (Kind × List Char) := do
  let quote ← cs.head?
  let (body, rest) ← if [quote, quote, quote].isPrefixOf cs then longText quote (cs.drop 3)
    else lineText quote (cs.drop 1)
  let isBytes := 'b' ∈ letters.toList
  let isRaw := 'r' ∈ letters.toList
  let isSound := (!isBytes || body.all fun c => c.toNat < 0x80) &&
    (isRaw || escapesAreSound isBytes body)
  if isSound then some (if isBytes then .bytes else .text, rest) else none

def textPrefixes : List String := ["", "u", "r", "b", "br", "rb"]

def isQuote (c : Char) : Bool := c == '"' || c == '\''

def text? (cs : List Char) : Option (Option (Kind × List Char)) :=
  let word := cs.takeWhile isWordChar
  let rest := cs.drop word.length
  let letters := String.ofList (word.map Char.toLower)
  if rest.head?.any isQuote ∧ letters ∈ textPrefixes then (quotedText letters rest).map some
  else some none

-- Texts or bytes next to each other, at most so many. They must all be of one kind.
def texts (inside : Bool) : Nat → Kind → Scan Unit
  | 0, _ => pure ()
  | rounds + 1, kind => do
    match ← liftM (text? (gapFrom inside (← get))) with
    | none => pure ()
    | some (next, rest) =>
      require (next = kind)
      set rest
      texts inside rounds kind

def Kind.whole (parts : List Kind) : Kind :=
  if .container ∈ parts then .container else .constant

def isSign (c : Char) : Bool := c == '+' || c == '-'

def named (inside : Bool) : Scan Kind := do
  let word := (← get).takeWhile isWordChar
  modify (·.drop word.length)
  if ["None", "True", "False"].contains (.ofList word) then return .constant
  require (word = "set".toList)
  gap inside
  expect '('
  gap true
  expect ')'
  return .container

-- Brackets may be nested this many times.
def levelLimit : Nat := 200

mutual

def atom (level : Nat) : Nat → Scan Kind
  | 0 => failure
  | rounds + 1 => do
    let cs ← get
    match ← liftM (text? cs), cs with
    | some (kind, rest), _ =>
      set rest
      texts (level ≠ 0) rest.length kind
      return kind
    | none, '.' :: '.' :: '.' :: rest =>
      set rest
      return .constant
    | none, '(' :: rest =>
      require (level < levelLimit)
      set rest
      gap true
      if ← accept (· = ')') then return .constant
      match ← parts (level + 1) rounds with
      | ([kind], false) => return kind
      | (kinds, _) => return Kind.whole kinds
    | none, '\x7b' :: rest =>
      require (level < levelLimit)
      set rest
      gap true
      unless ← accept (· = '\x7d') do members (level + 1) none rounds
      return .container
    | none, _ =>
      match number cs with
      | some (kind, rest) =>
        set rest
        return kind
      | none => named (level ≠ 0)

-- A literal, inside of so many brackets: with a sign before it or not, or a real number and an
-- imaginary one with a sign between them.
def literal (level : Nat) : Nat → Scan Kind
  | 0 => failure
  | rounds + 1 => do
    let isSigned ← accept isSign
    gap (level ≠ 0)
    let first ← atom level rounds
    let first ← match isSigned, first with
      | false, kind => pure kind
      | true, .real => pure .signed
      | true, .imaginary => pure .constant
      | true, _ => failure
    gap (level ≠ 0)
    unless ← accept isSign do return first
    require (first = .real ∨ first = .signed)
    gap (level ≠ 0)
    require ((← atom level rounds) = .imaginary)
    return .constant

-- Literals between commas up to a closing parenthesis, and whether there is a comma at all.
def parts (level : Nat) : Nat → Scan (List Kind × Bool)
  | 0 => failure
  | rounds + 1 => do
    let kind ← literal level rounds
    gap true
    if ← accept (· = ')') then return ([kind], false)
    expect ','
    gap true
    if ← accept (· = ')') then return ([kind], true)
    let (kinds, _) ← parts level rounds
    return (kind :: kinds, true)

-- Members between commas up to a closing brace, none of which may be a container. They all have a
-- value behind a colon, or none of them has.
def members (level : Nat) (haveValues : Option Bool) : Nat → Scan Unit
  | 0 => failure
  | rounds + 1 => do
    require ((← literal level rounds) ≠ .container)
    gap true
    let hasValue ← accept (· = ':')
    require (haveValues.all (· = hasValue))
    if hasValue then
      gap true
      let _ ← literal level rounds
      gap true
    if ← accept (· = '\x7d') then return
    expect ','
    gap true
    unless ← accept (· = '\x7d') do members level (some hasValue) rounds

end

def whole : Nat → Scan Unit
  | 0 => failure
  | rounds + 1 => do
    let _ ← literal 0 (3 * (← get).length + 3)
    gap false
    let goesOn ← accept (· = ',')
    gap false
    unless (gapFrom true (← get)).isEmpty do
      require goesOn
      whole rounds

def unifyLineEnds : List Char → List Char
  | '\r' :: '\n' :: cs => '\n' :: unifyLineEnds cs
  | c :: cs => (if c = '\r' then '\n' else c) :: unifyLineEnds cs
  | [] => []

def isLiteral (text : List Char) : Bool :=
  !text.contains '\x00' &&
    ((whole (text.length + 1)).run (gapFrom false (unifyLineEnds text))).isSome

def isCall (text : List Char) : Bool :=
  let rest := text.dropWhile fun c => isWordChar c || c == '.'
  let isPlain := rest.head? == some '(' && rest.getLast? == some ')' && !rest.contains '\n'
  rest.isEmpty || isLiteral (if isPlain then rest else text)

end CatalogSync.Terminal.Literal
