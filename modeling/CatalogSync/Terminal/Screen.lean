import CatalogSync.Command.Basic
import CatalogSync.Terminal.CellWidth
import CatalogSync.Terminal.Markup

namespace CatalogSync.Terminal

open CatalogSync.Text

inductive Line where
  | text (text : String)
  | row (cells : List String)
deriving DecidableEq, Repr

def tabWidth : Nat := 8

-- The text up to a tab, with a space for the tab and more of them up to the next tab stop. The text
-- starts at a tab stop.
def fillUp (text : List Char) : List Char :=
  let spaced := text ++ [' ']
  spaced ++ List.replicate ((tabWidth - cells spaced % tabWidth) % tabWidth) ' '

def expandTabs (line : List Char) : List Char :=
  let parts := pieces '\t' line
  (parts.dropLast.map fillUp).flatten ++ parts.getLast?.getD []

def textLines (text : List Char) : List String :=
  (pieces '\n' text).map fun line => .ofList (trimWhere isBlank (expandTabs line))

-- The printed lines of a row of a table: as many as its highest cell has.
def rowOf (cells : List String) : Except Failure (List Line) := do
  let columns ← cells.mapM fun cell => do return textLines (← render cell)
  let height := columns.foldl (fun height lines => max height lines.length) 0
  return (List.range height).map fun i => .row (columns.map fun lines => lines[i]?.getD "")

-- The printed lines of a text, or of a table: its title, the names of its columns and its rows.
def linesOf : Command.Output → Except Failure (List Line)
  | .text text => do return (textLines (← render text)).map .text
  | .table title header rows => do
    let lines ← rows.mapM rowOf
    return .text title :: .row header :: lines.flatten

def console : Command.Console where
  obstacle? output :=
    match linesOf output with
    | .ok _ => none
    | .error failure => some failure

def screen (printed : List Command.Output) : List Line :=
  printed.flatMap fun output => (linesOf output).toOption.getD []

end CatalogSync.Terminal
