import CatalogSync.Text.Quoted

namespace CatalogSync.Toml

open CatalogSync.Text

inductive Problem where
  -- What is missing or wrong, and how many characters are left from there on.
  | malformed (what : String) (remaining : Nat)
  | longNumeral
  | tooDeep
deriving DecidableEq, Repr

-- Takes characters off the front.
abbrev Reader := StateT (List Char) (Except Problem)

def fail {α : Type} (what : String) : Reader α := do throw (.malformed what (← get).length)

def peek : Reader (Option Char) := do return (← get).head?

def skip (count : Nat) : Reader Unit := modify (·.drop count)

def skipWhile (p : Char → Bool) : Reader Unit := modify (·.dropWhile p)

def startsWith (text : String) : Reader Bool := do return text.toList.isPrefixOf (← get)

-- Takes a text off if it comes next, and tells whether it did.
def accept (text : String) : Reader Bool := do
  let found ← startsWith text
  if found then skip text.length
  return found

def expect (text what : String) : Reader Unit := do
  unless ← accept text do fail what

def isSpace (c : Char) : Bool := c == ' ' || c == '\t'

def isSpaceOrNewline (c : Char) : Bool := isSpace c || c == '\n'

-- Control characters may not stand in a text or comment, tabs excepted.
def isControl (c : Char) : Bool := (c.toNat < 0x20 && c != '\t') || c.toNat == 0x7f

-- Control characters may not stand in a text of several lines, tabs and line ends excepted.
def isLineControl (c : Char) : Bool := isControl c && c != '\n'

def skipLegal (count : Nat) (isIllegal : Char → Bool) : Reader Unit := do
  let cs := (← get).take count
  match cs.find? isIllegal with
  | none => skip count
  | some c =>
    skipWhile (!isIllegal ·)
    fail ("Found invalid character " ++ quoted (.singleton c))

def skipComment : Reader Unit := do
  if ← accept "#" then skipLegal ((← get).takeWhile (· != '\n')).length isControl

-- Takes white space, line ends and comments off, at most `rounds` times.
def skipFiller : Nat → Reader Unit
  | 0 => pure ()
  | rounds + 1 => do
    let before := (← get).length
    skipWhile isSpaceOrNewline
    skipComment
    if (← get).length < before then skipFiller rounds

def skipAllFiller : Reader Unit := do skipFiller (← get).length

end CatalogSync.Toml
