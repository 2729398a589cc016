import CatalogSync.Datum.Literal
import CatalogSync.Toml.Scalar
import CatalogSync.Toml.Tree

namespace CatalogSync.Toml

open CatalogSync.Text

abbrev pathText (path : List String) : String := Datum.tupleLiteral path

def memberMessage (path : List String) : Obstacle → String
  | .frozen | .taken true => "Cannot mutate immutable namespace " ++ pathText path
  | .taken false => "Duplicate inline table key " ++ quoted (path.getLast?.getD "")
  | _ => "Cannot overwrite a value"

def assignmentMessage (path : List String) : Obstacle → String
  | .defined earlier => "Cannot redefine namespace " ++ pathText earlier
  | .frozen => "Cannot mutate immutable namespace " ++ pathText path.dropLast
  | _ => "Cannot overwrite a value"

def sectionMessage (path : List String) : Obstacle → String
  | .defined _ | .frozen => "Cannot declare " ++ pathText path ++ " twice"
  | _ => "Cannot overwrite a value"

def listSectionMessage (path : List String) : Obstacle → String
  | .frozen => "Cannot mutate immutable namespace " ++ pathText path
  | _ => "Cannot overwrite a value"

-- Changes a tree, or gives up at this place.
def changed {α : Type} (message : Obstacle → String) : Except Obstacle α → Reader α
  | .ok a => pure a
  | .error obstacle => fail (message obstacle)

-- Lists and inline tables are nested until their levels add up to this.
def levelLimit : Nat := 986

def listLevels : Nat := 2
def tableLevels : Nat := 3

mutual

-- A value at a level. Every second round takes at least one character.
def value (level : Nat) : Nat → Reader Datum
  | 0 => fail "Invalid value"
  | rounds + 1 => do
    if level > levelLimit then throw .tooDeep
    if ← startsWith "\"\"\"" then return .text (← quotedLines)
    if ← startsWith "\"" then return .text (← quotedLine)
    if ← startsWith "'''" then return .text (← literalLines)
    if ← startsWith "'" then return .text (← literalLine)
    if ← accept "true" then return .boolean true
    if ← accept "false" then return .boolean false
    if ← accept "[" then
      skipAllFiller
      return .list (← items (level + listLevels) rounds)
    if ← accept "\x7b" then
      skipWhile isSpace
      if ← accept "\x7d" then return .table []
      return .table (entryData (← members (level + tableLevels) rounds []))
    scalar

def items (level : Nat) : Nat → Reader (List Datum)
  | 0 => fail "Unclosed array"
  | rounds + 1 => do
    if ← accept "]" then return []
    let item ← value level rounds
    skipAllFiller
    if ← accept "]" then return [item]
    expect "," "Unclosed array"
    skipAllFiller
    return item :: (← items level rounds)

def members (level : Nat) : Nat → Entries → Reader Entries
  | 0, _ => fail "Unclosed inline table"
  | rounds + 1, entries => do
    let path ← key
    expect "=" "Expected '=' after a key in a key/value pair"
    skipWhile isSpace
    let datum ← value level rounds
    let entries ← changed (memberMessage path) (entries.addValue 0 datum path)
    skipWhile isSpace
    if ← accept "\x7d" then return entries
    expect "," "Unclosed inline table"
    skipWhile isSpace
    members level rounds entries

end

-- A document as far as it has been read: its entries, the table that the current section adds to,
-- and the number of the section.
structure Draft where
  entries : Entries := []
  header : List String := []
  ordinal : Nat := 0

def assignment (draft : Draft) : Reader Draft := do
  let path ← key
  expect "=" "Expected '=' after a key in a key/value pair"
  skipWhile isSpace
  let datum ← value 0 (2 * (← get).length + 2)
  let entries ← changed (assignmentMessage (draft.header ++ path))
    (draft.entries.changeAt (Entries.addValue draft.ordinal datum path) draft.header)
  return { draft with entries }

-- The header of a section, between brackets or, for one more table of a list, between two pairs of
-- them.
def header (draft : Draft) : Reader Draft := do
  let isList ← accept "[["
  unless isList do skip 1
  skipWhile isSpace
  let path ← key
  let ordinal := draft.ordinal + 1
  let open_ := fun entries =>
    let last := path.getLast?.getD ""
    if isList then Entries.appendTable last entries else Entries.defineTable ordinal last entries
  let message := if isList then listSectionMessage path else sectionMessage path
  let entries ← changed message (draft.entries.changeAt open_ path.dropLast)
  if isList then expect "]]" "Expected ']]' at the end of an array declaration"
  else expect "]" "Expected ']' at the end of a table declaration"
  return ⟨entries, path, ordinal⟩

def statement (draft : Draft) : Reader Draft := do
  skipWhile isSpace
  let draft ← match ← peek with
    | none | some '\n' | some '#' => pure draft
    | some '[' => header draft
    | some c =>
      if isBareKeyChar c ∨ c = '"' ∨ c = '\'' then assignment draft
      else fail "Invalid statement"
  skipWhile isSpace
  skipComment
  return draft

-- The lines of a document. Every round takes at least a line end.
def statements : Nat → Draft → Reader Draft
  | 0, draft => return draft
  | rounds + 1, draft => do
    let draft ← statement draft
    match ← peek with
    | none => return draft
    | some '\n' => skip 1; statements rounds draft
    | some _ => fail "Expected newline or end of document after a statement"

def unifyLineEnds : List Char → List Char
  | '\r' :: '\n' :: cs => '\n' :: unifyLineEnds cs
  | c :: cs => c :: unifyLineEnds cs
  | [] => []

def read (text : List Char) : Except Problem (List (String × Datum)) := do
  let source := unifyLineEnds text
  let (draft, _) ← (statements (source.length + 1) {}).run source
  return entryData draft.entries

def placeName (source : List Char) (remaining : Nat) : String :=
  if remaining = 0 then "end of document"
  else
    let before := source.take (source.length - remaining)
    let column := (before.reverse.takeWhile (· != '\n')).length + 1
    "line " ++ toString (before.count '\n' + 1) ++ ", column " ++ toString column

def Problem.message (text : List Char) : Problem → String
  | .malformed what remaining => what ++ " (at " ++ placeName (unifyLineEnds text) remaining ++ ")"
  | .longNumeral => "Exceeds the limit (4300 digits) for integer string conversion"
  | .tooDeep => "nested too deep"

end CatalogSync.Toml
