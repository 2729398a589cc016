import CatalogSync.Settings.Environment
import CatalogSync.Toml.Document

namespace CatalogSync

open CatalogSync.Text

-- What stands at the path of a file of settings. Whether something stands there is always answered:
-- a path that may not even be looked at is none of these.
inductive Source where
  | missing
  -- A file that cannot be opened, or that holds no document.
  | unreadable (reason : String)
  -- A file that cannot even be taken for a text of a document.
  | broken (problem : ValueProblem)
  | document (entries : Mapping)
deriving Inhabited

abbrev Files := String → Source

namespace Source

def ofBytes (bytes : ByteArray) : Source :=
  match String.fromUTF8? bytes with
  | none => .broken .encoding
  | some text =>
    match Toml.read text.toList with
    | .ok entries => .document entries
    | .error .longNumeral => .broken .longNumeral
    | .error .tooDeep => .broken .tooDeep
    | .error problem => .unreadable (problem.message text.toList)

end Source

namespace Settings

def pathParts (path : String) : List String :=
  (split '/' path).filter fun part => part ≠ "" ∧ part ≠ "."

-- How many slashes lead a path: two stay two, and more are one.
def leadingSlashes (path : String) : String :=
  match (path.toList.takeWhile (· = '/')).length with
  | 0 => ""
  | 2 => "//"
  | _ => "/"

def normalPath (path : String) : String :=
  let text := leadingSlashes path ++ "/".intercalate (pathParts path)
  if text = "" then "." else text

def fileName (path : String) : String := (pathParts path).getLast?.getD ""

def projectFile : String := "pyproject.toml"

def standardFiles : List String := ["metasync.toml", projectFile]

-- The part of a document that holds the settings. Nothing is there if it is null.
def settingsPart (name : String) (entries : Mapping) : Except Failure Datum :=
  if fileName name = projectFile then
    match entries.lookup "tool" with
    | none => .ok .null
    | some (.table tools) => .ok ((tools.lookup "metasync").getD .null)
    | some _ => .error (.value .notTable)
  else
    match entries.lookup "sync" with
    | some (.table part) => .ok (.table part)
    | _ => .ok (.table entries)

def filePart (files : Files) (name : String) : Except Failure Datum :=
  match files name with
  | .missing => .ok .null
  | .unreadable reason => .error (.config (.fileUnreadable name reason))
  | .broken problem => .error (.value problem)
  | .document entries => settingsPart name entries

def ofFiles (files : Files) : List String → Except Failure Settings
  | [] => .ok {}
  | name :: names => do
    let part ← filePart files name
    if part.isEmpty then ofFiles files names else applySection {} part

-- The settings of an explicit file, which must be there, or of the standard ones.
def ofPath (files : Files) : Option String → Except Failure Settings
  | none => ofFiles files standardFiles
  | some path =>
    match files (normalPath path) with
    | .missing => .error (.config (.fileMissing (normalPath path)))
    | _ => ofFiles files [normalPath path]

def load (files : Files) (environment : Environment) (path : Option String) :
    Except Failure Settings := do
  let settings ← ofPath files path
  settings.applyEnvironment environment Environment.standardPrefix

end Settings

end CatalogSync
