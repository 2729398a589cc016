import CatalogSync.Terminal.EmojiTable
import CatalogSync.Text.Blank
import CatalogSync.Text.Lowercase

namespace CatalogSync.Terminal

open CatalogSync.Text

def emoji? (name : List Char) : Option (List Char) :=
  (emojiTable.lookup (lower (.ofList name))).map String.toList

-- The end of a code, if one comes next: the selector of the form that is asked for, and what
-- follows.
def codeEnd? (cs : List Char) : Option (List Char × List Char) :=
  if "-emoji:".toList.isPrefixOf cs then some (['\ufe0f'], cs.drop 7)
  else if "-text:".toList.isPrefixOf cs then some (['\ufe0e'], cs.drop 6)
  else if cs.head? = some ':' then some ([], cs.drop 1)
  else none

def code? : List Char → Option (List Char × List Char × List Char)
  | [] => none
  | c :: cs =>
    match codeEnd? (c :: cs) with
    | some (selector, rest) => some ([], selector, rest)
    | none =>
      if isBlank c then none else (code? cs).map fun (name, found) => (c :: name, found)

-- Puts emoji in the places of their codes. Every round takes at least one character.
def withEmojiFrom : Nat → List Char → List Char
  | 0, cs => cs
  | _ + 1, [] => []
  | rounds + 1, c :: cs =>
    match if c = ':' then code? cs else none with
    | none => c :: withEmojiFrom rounds cs
    | some (name, selector, rest) =>
      let shown := match emoji? name with
        | some emoji => emoji ++ selector
        | none => c :: cs.take (cs.length - rest.length)
      shown ++ withEmojiFrom rounds rest

def withEmoji (text : List Char) : List Char := withEmojiFrom text.length text

end CatalogSync.Terminal
