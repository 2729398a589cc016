import CatalogSync.Settings.Basic

namespace CatalogSync.Command

structure GlobalOptions where
  config : Option String := none
  logLevel : String := "WARNING"
  isVerbose : Bool := false
deriving DecidableEq, Repr

-- The arguments of a preview. Options that are not given leave the settings as they are.
structure PreviewRequest where
  paths : List String
  basePath : Option String := none
  extractor : Option String := none
  fileSystem : Option String := none
  fields : List String := []
  batchSize : Option Int := none
deriving DecidableEq, Repr

structure SchemaRequest where
  file : String
  supportTimestamp : Option Bool := none
  fields : List String := []
deriving DecidableEq, Repr

inductive Request where
  | showSchema (request : SchemaRequest)
  | preview (request : PreviewRequest)
  | extractors
  | showSettings
deriving DecidableEq, Repr

-- What arguments are read as.
inductive Reading (α : Type) where
  | request (request : α)
  | help (code : Nat)
  | refused
deriving DecidableEq, Repr

-- Reads the options for all commands, and what the arguments behind them ask for.
abbrev Reader := List String → Reading (GlobalOptions × Reading Request)

def withFields (fields : List String) (settings : Settings) : Settings :=
  if fields.isEmpty then settings else { settings with partitionFields := fields }

def PreviewRequest.settings (request : PreviewRequest) (loaded : Settings) : Settings :=
  { withFields request.fields loaded with
    basePath := request.basePath.getD loaded.basePath
    partitionExtractor := request.extractor.getD loaded.partitionExtractor
    defaultFileSystem := request.fileSystem.or loaded.defaultFileSystem
    batchSize := request.batchSize.getD loaded.batchSize }

def SchemaRequest.settings (request : SchemaRequest) (loaded : Settings) : Settings :=
  { withFields request.fields loaded with
    supportTimestamp := request.supportTimestamp.getD loaded.supportTimestamp }

end CatalogSync.Command
