import CatalogSync.Terminal.Emoji
import CatalogSync.Terminal.Literal
import CatalogSync.Terminal.Style

namespace CatalogSync.Terminal

open CatalogSync.Text

inductive Piece where
  | plain (text : List Char)
  | tag (text : List Char)
deriving DecidableEq, Repr

def startsTag (c : Char) : Bool := ('a' ≤ c && c ≤ 'z') || c == '#' || c == '/' || c == '@'

-- The tag behind an opening bracket, and what follows its closing bracket.
def tag? : List Char → Option (List Char × List Char)
  | [] => none
  | c :: cs =>
    let body := cs.takeWhile fun c => c != ']' && c != '['
    match cs.drop body.length with
    | ']' :: rest => if startsTag c then some (c :: body, rest) else none
    | _ => none

-- The pieces of a text, where `passed` holds what has been passed since the last tag, the nearest
-- character first. Every round takes at least one character.
def piecesFrom : Nat → List Char → List Char → List Piece
  | 0, passed, _ => [.plain passed.reverse]
  | rounds + 1, passed, cs =>
    let slashes := cs.takeWhile (· == '\\')
    match cs.drop slashes.length with
    | [] => [.plain (passed.reverse ++ slashes)]
    | '[' :: rest =>
      match tag? rest with
      | some (text, rest) =>
        let isEscaped := slashes.length % 2 = 1
        let piece := if isEscaped then .plain ('[' :: text ++ [']']) else .tag text
        .plain passed.reverse :: .plain (slashes.take (slashes.length / 2)) :: piece ::
          piecesFrom rounds [] rest
      | none => piecesFrom rounds ('[' :: slashes.drop 1 ++ passed) rest
    | c :: rest => piecesFrom rounds (c :: slashes ++ passed) rest

-- An open tag: its name, as the normal form of a style, and what follows an equals sign.
structure OpenTag where
  name : String
  parameters : Option String
deriving DecidableEq, Repr

namespace OpenTag

def isAction (tag : OpenTag) : Bool := tag.name.toList.head? = some '@'

def styleText (tag : OpenTag) : String :=
  tag.name ++ (tag.parameters.map fun parameters => " " ++ parameters).getD ""

-- Whether the tag may be closed: what an action is called with must be readable.
def isSound (tag : OpenTag) : Bool :=
  !tag.isAction || tag.parameters.all fun parameters => Literal.isCall (trim parameters).toList

end OpenTag

-- A text while its markup is read: its open tags, the last one first, and the styles of the tags
-- that have been closed.
structure Rendering where
  opened : List OpenTag := []
  styles : List String := []

def badMarkup {α : Type} (message : String) : Except Failure α :=
  .error ⟨.reported .markup message, []⟩

namespace Rendering

def close (rendering : Rendering) (tag : OpenTag) : Except Failure Rendering :=
  if tag.isSound then
    .ok { opened := rendering.opened.erase tag, styles := tag.styleText :: rendering.styles }
  else badMarkup ("error parsing " ++ quoted (tag.parameters.getD ""))

def apply (rendering : Rendering) (text : String) : Except Failure Rendering := do
  let (name, parameters) := cutAt (· = '=') text.toList
  match name with
  | '/' :: name =>
    let name := trim (.ofList name)
    let matching ← if name = "" then pure rendering.opened.head? else do
      let style ← Style.normalText name
      pure (rendering.opened.find? (·.name == style))
    match matching with
    | some tag => rendering.close tag
    | none => badMarkup ("closing tag '" ++ text ++ "' doesn't match any open tag")
  | name =>
    let tag := ⟨← Style.normalText (.ofList name), parameters.map .ofList⟩
    return { rendering with opened := tag :: rendering.opened }

def allStyles (rendering : Rendering) : List String :=
  rendering.opened.map OpenTag.styleText ++ rendering.styles

end Rendering

-- Control characters that are never shown.
def isHidden (c : Char) : Bool := c.toNat = 7 || c.toNat = 8 || (11 ≤ c.toNat && c.toNat ≤ 13)

def renderPieces (rendering : Rendering) : List Piece → Except Failure (List Char × List String)
  | [] => .ok ([], rendering.allStyles)
  | .plain text :: rest => do
    let (shown, styles) ← renderPieces rendering rest
    return ((withEmoji text).filter (!isHidden ·) ++ shown, styles)
  | .tag text :: rest => do renderPieces (← rendering.apply (.ofList text)) rest

-- The text without its markup. The styles in it are looked at last; a description of no style does
-- no harm, but a colour must not have a component that is no number.
def render (text : String) : Except Failure (List Char) := do
  let (shown, styles) ← renderPieces {} (piecesFrom (text.length + 1) [] text.toList)
  styles.forM fun style => do let _ ← Style.ofText? style
  return shown

end CatalogSync.Terminal
