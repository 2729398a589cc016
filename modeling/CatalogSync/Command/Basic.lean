import CatalogSync.Extractor.Registry
import CatalogSync.Schema.Columns
import CatalogSync.Settings.Source

namespace CatalogSync.Command

-- A data file, by what reading its schema gives.
inductive DataFile where
  | unreadable (reason : String)
  | schema (schema : StorageSchema)

structure World where
  environment : Environment
  files : Files
  dataFile : String → DataFile
  registry : Registry

-- What a command gives the console to print. The console may read markup in any of the texts.
inductive Output where
  | text (text : String)
  | table (title : String) (header : List String) (rows : List (List String))
deriving DecidableEq, Repr

namespace Output

def heading (title : String) : Output := .text ("[title]" ++ title ++ "[/]")

def remark (text : String) : Output := .text ("[title]›[/] " ++ text)

def complaint (text : String) : Output := .text ("[err]✗[/] " ++ text)

def entry (name value : String) : Output := .text ("[meta]" ++ name ++ "[/]: " ++ value)

end Output

-- A console, by why it does not print something.
structure Console where
  obstacle? : Output → Option Failure

-- Why a command ends before it is done.
inductive Stop where
  | exit (code : Nat)
  | help (code : Nat)
  | failure (failure : Failure)
deriving Repr

abbrev Printer := ReaderT Console (ExceptT Stop (StateM (List Output)))

structure Outcome where
  code : Nat
  printed : List Output
  showsHelp : Bool := false
  failure : Option Failure := none

def print (output : Output) : Printer Unit := do
  match (← read).obstacle? output with
  | none => modify (· ++ [output])
  | some failure => throw (.failure failure)

def die {α : Type} (text : String) (code : Nat) : Printer α := do
  print (.complaint text)
  throw (.exit code)

-- Ends for arguments that make no sense.
def refuse {α : Type} : Printer α := throw (.exit 2)

-- The value of a result whose failures, if they are of a kind, are printed.
def orDie {α : Type} (isHandled : Failure → Bool) (code : Nat) (result : Except Failure α) :
    Printer α :=
  match result with
  | .ok a => pure a
  | .error failure =>
    if isHandled failure then die failure.message code else throw (.failure failure)

-- Carries a command out behind what is printed already.
def perform {α : Type} (console : Console) (command : Printer α) (printed : List Output) :
    Except Stop α × List Output :=
  Id.run ((ExceptT.run (command.run console)).run printed)

def outcome : Except Stop Unit × List Output → Outcome
  | (.ok (), printed) => { code := 0, printed }
  | (.error (.exit code), printed) => { code, printed }
  | (.error (.help code), printed) => { code, printed, showsHelp := true }
  | (.error (.failure failure), printed) => { code := 1, printed, failure := some failure }

def run (console : Console) (command : Printer Unit) : Outcome :=
  outcome (perform console command [])

end CatalogSync.Command
