import CatalogSync.Terminal.Color

namespace CatalogSync.Terminal

open CatalogSync.Text

inductive Look where
  | bold
  | dim
  | italic
  | underline
  | blink
  | blink2
  | reverse
  | conceal
  | strike
  | underline2
  | frame
  | encircle
  | overline
deriving DecidableEq, Repr

namespace Look

def all : List Look :=
  [bold, dim, italic, underline, blink, blink2, reverse, conceal, strike, underline2, frame,
    encircle, overline]

def name : Look → String
  | bold => "bold"
  | dim => "dim"
  | italic => "italic"
  | underline => "underline"
  | blink => "blink"
  | blink2 => "blink2"
  | reverse => "reverse"
  | conceal => "conceal"
  | strike => "strike"
  | underline2 => "underline2"
  | frame => "frame"
  | encircle => "encircle"
  | overline => "overline"

def shortNames : List (String × Look) :=
  [("b", bold), ("d", dim), ("i", italic), ("u", underline), ("r", reverse), ("c", conceal),
    ("s", strike), ("uu", underline2), ("o", overline)]

def ofWord? (word : String) : Option Look :=
  (all.find? fun look => look.name == word).or (shortNames.lookup word)

end Look

-- A style. Of the looks in its list the first entry for a look counts.
structure Style where
  looks : List (Look × Bool) := []
  color : Option String := none
  background : Option String := none
  link : Option String := none
deriving DecidableEq, Repr

namespace Style

-- The style with what some words say on top of it, if all of them say something.
def refine? (style : Style) : List String → Except Failure (Option Style)
  | [] => .ok (some style)
  | word :: words =>
    match lower word, words with
    | "on", color :: rest => do
      match ← colorName? color with
      | some name => refine? { style with background := some name } rest
      | none => return none
    | "not", word :: rest =>
      match Look.ofWord? word with
      | some look => refine? { style with looks := (look, false) :: style.looks } rest
      | none => .ok none
    | "link", target :: rest => refine? { style with link := some target } rest
    | "on", [] | "not", [] | "link", [] => .ok none
    | word, words =>
      match Look.ofWord? word with
      | some look => refine? { style with looks := (look, true) :: style.looks } words
      | none => do
        match ← colorName? word with
        | some name => refine? { style with color := some name } words
        | none => return none
termination_by words => words.length

def wordsFrom (word : List Char) : List Char → List String
  | [] => if word.isEmpty then [] else [.ofList word.reverse]
  | c :: cs =>
    if !isBlank c then wordsFrom (c :: word) cs
    else if word.isEmpty then wordsFrom [] cs
    else .ofList word.reverse :: wordsFrom [] cs

def ofText? (text : String) : Except Failure (Option Style) :=
  if trim text = "none" then .ok (some {}) else refine? {} (wordsFrom [] text.toList)

def lookWords (style : Style) : List String :=
  Look.all.flatMap fun look =>
    match style.looks.lookup look with
    | none => []
    | some true => [look.name]
    | some false => ["not", look.name]

def words (style : Style) : List String :=
  style.lookWords ++ style.color.toList ++
    (style.background.map fun color => ["on", color]).getD [] ++
    (style.link.map fun target => ["link", target]).getD []

def text (style : Style) : String :=
  match style.words with
  | [] => "none"
  | words => " ".intercalate words

-- The normal form of a text that may describe a style. If it does not, only its case and the white
-- space around it are dropped.
def normalText (text : String) : Except Failure String := do
  match ← ofText? text with
  | some style => return style.text
  | none => return lower (trim text)

end Style

end CatalogSync.Terminal
