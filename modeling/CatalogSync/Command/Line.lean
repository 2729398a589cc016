import CatalogSync.Command.Basic
import CatalogSync.Command.Preview
import CatalogSync.Command.Request
import CatalogSync.Text.Uppercase

namespace CatalogSync.Command

def logLevels : List String :=
  ["CRITICAL", "FATAL", "ERROR", "WARNING", "WARN", "INFO", "DEBUG", "NOTSET"]

def isOwnFailure (failure : Failure) : Bool := failure.isOwn

def isConfigFailure (failure : Failure) : Bool :=
  match failure.problem with
  | .config _ => true
  | _ => false

def isSchemaFailure (failure : Failure) : Bool :=
  match failure.problem with
  | .schema _ => true
  | _ => false

-- A value without quotes around a text, if it can be written.
def written (value : Datum) : Printer String :=
  if value.isWritable then return value.plain else throw (.failure (.value .longNumeral))

-- The values of a partition in one text, with the names of their keys if these are known.
def valuesText (keys : Option (List String)) (values : List String) : String :=
  ", ".intercalate (match keys with
    | some keys => keys.zipWith (fun key value => key ++ "=" ++ value) values
    | none => values)

def partitionsTable (keys : Option (List String)) (specs : List PartitionSpec) : Output :=
  .table "Partitions" ["Partition", "Values", "Location"]
    (specs.map fun spec => [spec.path, valuesText keys spec.values, spec.location])

def showPreview (settings : Settings) (found : Preview) : Printer Unit := do
  print (.heading "Partitions")
  print (.remark ("Base path: " ++ settings.basePath ++ " | Extractor: " ++
    settings.partitionExtractor))
  print (partitionsTable (Preview.keys settings) found.specs)
  let size ← written (settings.value .batchSize)
  print (.remark ("Partitions: " ++ toString found.specs.length ++ " | Add batches: " ++
    toString found.batches ++ " (batch size " ++ size ++ ")"))

def preview (world : World) (loaded : Settings) (request : PreviewRequest) : Printer Unit := do
  let settings := request.settings loaded
  if settings.basePath = "" then
    die "Missing base path. Provide --base-path or set base_path in the config." 2
  let found ← orDie isOwnFailure 1 (Preview.make world.registry settings request.paths)
  showPreview settings found

def extractors (world : World) : Printer Unit := do
  let names ← orDie isOwnFailure 1 world.registry.available.result
  print (.table "Partition value extractors" ["Name"] (names.map ([·])))

def fieldsText (settings : Settings) : String :=
  let text := ", ".intercalate settings.partitionFields
  if text = "" then "-" else text

def printSetting (settings : Settings) (setting : Setting) : Printer Unit := do
  let value ← match setting with
    | .partitionFields => pure (fieldsText settings)
    | setting => written (settings.value setting)
  print (.entry setting.key value)

def showSettings (file : Option String) (settings : Settings) : Printer Unit := do
  print (.heading "Configuration")
  match file with
  | some file => print (.remark ("Config file: " ++ file))
  | none => pure ()
  Setting.all.forM (printSetting settings)

def columnsTable (title : String) (columns : List Column) : Output :=
  .table title ["Name", "Type", "Comment"]
    (columns.map fun column => [column.name, column.type, column.comment])

def readSchema (world : World) (path : String) : Printer StorageSchema :=
  match world.dataFile path with
  | .unreadable reason =>
    die ("Cannot read Parquet schema from " ++ path ++ ": " ++ reason) 1
  | .schema schema => return schema

def showSchema (world : World) (loaded : Settings) (request : SchemaRequest) : Printer Unit := do
  let settings := request.settings loaded
  let schema ← readSchema world (Settings.normalPath request.file)
  let types ← orDie isSchemaFailure 1 (Schema.columnTypes settings.supportTimestamp schema)
  let comments ← orDie (fun _ => false) 1 (Schema.comments schema)
  let columns := Schema.columns types comments
  print (.heading "Schema")
  print (.remark ("File: " ++ Settings.fileName request.file ++ " | Columns: " ++
    toString columns.length))
  print (columnsTable "Columns" columns)
  unless settings.partitionFields.isEmpty do
    print (columnsTable "Partition keys" (settings.partitionFields.map fun key =>
      { name := key, type := Text.lower (Schema.keyType types key) }))

-- Whether the log level that is asked for is known. Being verbose sets it aside.
def GlobalOptions.knowsLevel (options : GlobalOptions) : Bool :=
  options.isVerbose || logLevels.contains (Text.upper options.logLevel)

def carryOut (world : World) (file : Option String) (settings : Settings) :
    Request → Printer Unit
  | .showSchema request => showSchema world settings request
  | .preview request => preview world settings request
  | .extractors => extractors world
  | .showSettings => showSettings file settings

-- What is asked for, unless there is no answer but help or a refusal.
def asked {α : Type} : Reading α → Printer α
  | .request request => pure request
  | .help code => throw (.help code)
  | .refused => refuse

-- The settings are loaded before the arguments behind the options for all commands are looked at.
def runLine (reader : Reader) (world : World) (args : List String) : Printer Unit := do
  let (options, reading) ← asked (reader args)
  unless options.knowsLevel do refuse
  let file := options.config.map Settings.normalPath
  let settings ← orDie isConfigFailure 2 (Settings.load world.files world.environment file)
  carryOut world file settings (← asked reading)

end CatalogSync.Command
