import CatalogSync.Command.Line
import CatalogSync.Json.Reader
import CatalogSync.Program.Arguments
import CatalogSync.Schema.Description
import CatalogSync.Terminal.Screen

namespace CatalogSync.Program

open CatalogSync.Command

-- The paths that an argument may name: itself, what follows an equals sign, and what follows a dash
-- and a letter.
def pathsIn (argument : String) : List String :=
  let cs := argument.toList
  [argument, .ofList (cs.drop 2), .ofList ((cs.dropWhile (· ≠ '=')).drop 1)]

def helpText : String :=
  "usage: [--config FILE] [--log-level LEVEL] [--verbose] COMMAND\n" ++
  "  config show\n" ++
  "  partitions extractors\n" ++
  "  partitions preview [--base-path PATH] [--extractor NAME] [--default-fs URI]\n" ++
  "    [--partition-field NAME]... [--batch-size N] PATH...\n" ++
  "  schema show [--support-timestamp | --no-support-timestamp] [--partition-field NAME]... FILE"

def lineText : Terminal.Line → String
  | .text text => text
  | .row cells => " | ".intercalate cells

inductive Stored where
  | missing
  | folder
  | content (bytes : ByteArray)
  | unreadable (reason : String)

def look (path : String) : IO Stored := do
  try return .content (← IO.FS.readBinFile path)
  catch
    | .noFileOrDirectory .. => return .missing
    | .inappropriateType .. => return .folder
    | error => return .unreadable (toString error)

-- The settings file that is stored at a path.
def Stored.source (path : String) : Stored → Source
  | missing => .missing
  | folder => .unreadable ("[Errno 21] Is a directory: " ++ Text.quoted path)
  | content bytes => .ofBytes bytes
  | unreadable reason => .unreadable reason

def Stored.isFile : Stored → Bool
  | missing | folder => false
  | _ => true

-- The data file that is stored at a path.
def Stored.dataFile : Stored → DataFile
  | missing => .unreadable "no such file"
  | folder => .unreadable "a folder"
  | unreadable reason => .unreadable reason
  | content bytes =>
    match ((String.fromUTF8? bytes).bind Json.read?).bind Schema.ofDatum? with
    | some schema => .schema schema
    | none => .unreadable "not a description of a schema"

-- The value that is paired with a key.
def pairedWith {α : Type} (entries : List (String × α)) (missing : α) (key : String) : α :=
  (entries.lookup key).getD missing

end CatalogSync.Program

open CatalogSync CatalogSync.Command CatalogSync.Program in
def main (args : List String) : IO UInt32 := do
  let given := args.flatMap pathsIn
  let paths := (Settings.standardFiles ++ given ++ given.map Settings.normalPath).eraseDups
  let stored ← paths.mapM fun path => return (path, ← look path)
  let names := Setting.all.map (Setting.variable Environment.standardPrefix)
  let values ← names.mapM fun name => return (name, ← IO.getEnv name)
  let found := pairedWith stored .missing
  let world : World := {
    environment := pairedWith values none
    files := fun path => (found path).source path
    dataFile := fun path => (found path).dataFile
    registry := .initial [] }
  let reader := reader (fun path => (found (Settings.normalPath path)).isFile)
    fun path => found (Settings.normalPath path) matches .folder
  let outcome := run Terminal.console (runLine reader world args)
  (Terminal.screen outcome.printed).forM fun line => IO.println (lineText line)
  if outcome.showsHelp then IO.println helpText
  match outcome.failure with
  | none => pure ()
  | some failure => IO.eprintln failure.message
  return outcome.code.toUInt32
