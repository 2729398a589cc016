import CatalogSync.Batch
import CatalogSync.Extractor.Registry
import CatalogSync.Partition.Spec
import CatalogSync.Schema.Columns
import CatalogSync.Settings.Basic
import CatalogSync.Sync.OperationKind
import CatalogSync.Sync.Session
import CatalogSync.Text.Uppercase

namespace CatalogSync

structure Executor (σ : Type) where
  settings : Settings
  extractor : Extractor
  fileSystem : Option FileSystem
  client : Option (Client σ)
  translator : Translator
  -- What looking up the name of the user gives, who owns new tables if the settings name no owner.
  user : Except Failure String

structure SyncResult where
  operation : OperationKind
  table : String
  requested : Nat
  applied : Nat
  batches : Nat := 0
  skipped : Bool := false
deriving DecidableEq, Repr

def SyncResult.nothing (operation : OperationKind) (table : String) : SyncResult :=
  { operation, table, requested := 0, applied := 0, skipped := true }

structure TableRequest where
  name : String
  schema : StorageSchema
  inputFormat : String
  outputFormat : String
  serialization : String
  serializationProperties : List (String × String) := []
  tableProperties : List (String × String) := []
  createTime : Int := 0

-- A new comment for a column: a text, or a sequence whose last part is the text.
inductive CommentUpdate where
  | comment (text : String)
  | parts (parts : List (Option String))
  | other
deriving DecidableEq, Repr

-- The comment that an update asks for. A missing last part is an empty comment.
def CommentUpdate.text : CommentUpdate → Except Failure String
  | comment text => .ok text
  | parts all =>
    match all.getLast? with
    | none => .error (.value .emptyUpdate)
    | some part => .ok (part.getD "")
  | other => .error (.value .notUpdate)

def applyComment (updates : Dictionary String CommentUpdate) (column : Column) :
    Except Failure Column :=
  match updates.get? column.name with
  | none => .ok column
  | some update => update.text.map column.withComment

namespace Executor

variable {σ : Type}

-- The extractor that settings name, and the file system that they name if none is given.
def create (registry : Registry) (settings : Settings) (client : Option (Client σ))
    (extractor : Option Extractor) (fileSystem : Option FileSystem)
    (translator : Option Translator) (user : Except Failure String) :
    Registry.Answer (Executor σ) :=
  let answer : Registry.Answer Extractor := match extractor with
    | some extractor => ⟨.ok extractor, registry, []⟩
    | none => registry.create settings.partitionExtractor
  { answer with
    result := do
      let extractor ← answer.result
      let fileSystem ← match fileSystem, settings.defaultFileSystem with
        | some fileSystem, _ => .ok (some fileSystem)
        | none, none | none, some "" => .ok none
        | none, some uri => (FileSystem.ofUri uri).map some
      let translator := translator.getD .arrow
      return { settings, extractor, fileSystem, client, translator, user } }

variable (executor : Executor σ)

def wrappedAs {α : Type} (database : String) (table : Option String) (kind : OperationKind)
    (action : Action σ α) : Action σ α :=
  action.orElse fun failure => do
    if failure.isOwn then throw failure
    Action.log (.operationFailed (targetName database table) kind.name failure)
    throw (failure.leadingTo (.operation { database, table, operation := kind.name }))

def wrapped {α : Type} (table : Option String) (kind : OperationKind) (action : Action σ α) :
    Action σ α := wrappedAs executor.settings.databaseName table kind action

def call (call : Call) : Action σ call.Reply := Action.call executor.client call

def databaseDescription : String := "automatically created by metasync"

def createDatabase (name : String) : Action σ Unit := do
  let target := if name = "" then executor.settings.databaseName else name
  wrappedAs target none .createDatabase
    (executor.call (.createDatabase { name, description := some databaseDescription }))
  Action.log (.databaseCreated name)

-- The types of the columns that a schema gives a table, and the columns.
def translate (schema : StorageSchema) : Except Failure (Properties × List Column) :=
  executor.translator.translate executor.settings.supportTimestamp schema

def tableColumns (schema : StorageSchema) : Except Failure (List Column) :=
  executor.translator.tableColumns executor.settings.supportTimestamp schema

-- The partition keys of a new table: the configured fields, with the types that the data files give
-- them in lower case.
def partitionKeys (types : Properties) : Except Failure (List Column) :=
  executor.settings.partitionFields.mapM fun key => do
    return { name := key, type := Text.lower (← executor.translator.keyType types key) }

def owner : Except Failure String :=
  match executor.settings.owner with
  | none | some "" => executor.user
  | some owner => .ok owner

def tableLayout (request : TableRequest) (columns : List Column) : Layout where
  columns := columns
  location := some executor.settings.basePath
  inputFormat := some request.inputFormat
  outputFormat := some request.outputFormat
  serialization := {
    library := some request.serialization
    parameters :=
      (Dictionary.ofList request.serializationProperties).insert "serialization.format" "1" }

def newTable (request : TableRequest) : Except Failure Table := do
  let (types, columns) ← executor.translate request.schema
  let partitionKeys ← executor.partitionKeys types
  let owner ← executor.owner
  let isExternal := executor.settings.externalTables
  let kindProperties := if isExternal then [("EXTERNAL", "TRUE")] else []
  return {
    database := executor.settings.databaseName
    name := request.name
    layout := executor.tableLayout request columns
    partitionKeys
    owner := some owner
    createTime := request.createTime
    parameters := (Dictionary.ofList kindProperties).insertAll request.tableProperties
    kind := if isExternal then .external else .managed }

def createTable (request : TableRequest) : Action σ Table := do
  let table ← executor.wrapped request.name .createTable do
    let table ← Action.ofExcept (executor.newTable request)
    executor.call (.createTable table)
    return table
  Action.log (.tableCreated executor.settings.databaseName request.name)
  return table

def getTable (name : String) : Action σ Table :=
  executor.call (.getTable executor.settings.databaseName name)

-- Replaces the columns of a table. If there are partition fields, the change is passed on to the
-- partitions.
def updateTable (name : String) (schema : StorageSchema) : Action σ Unit :=
  executor.wrapped name .updateTable do
    let columns ← Action.ofExcept (executor.tableColumns schema)
    let table ← executor.getTable name
    let isPartitioned := !executor.settings.partitionFields.isEmpty
    if isPartitioned then Action.log (.cascading name)
    executor.call (.alterTable executor.settings.databaseName name (table.withColumns columns)
      (some (if isPartitioned then cascadeRequest else ∅)))

-- The names of a table's partition keys and columns with their types in upper case.
def tableSchema (table : Table) : Properties :=
  .ofList ((table.partitionKeys ++ table.layout.columns).map fun column =>
    (column.name, Text.upper column.type))

-- Reads the schema of a table, which takes the given time.
def getSchema (name : String) (milliseconds : Int) : Action σ Properties := do
  let table ← executor.wrapped name .getSchema (executor.getTable name)
  Action.log (.schemaRead milliseconds)
  return tableSchema table

def specs (table : Table) (paths : List String) : Except Failure (List PartitionSpec) :=
  paths.mapM fun path =>
    PartitionSpec.make path executor.extractor executor.settings.basePath executor.fileSystem
      (some (table.partitionKeys.map Column.name))

-- The entry of a partition: the layout of its table at its own location.
def partition (table : String) (layout : Layout) (spec : PartitionSpec) : Partition where
  values := spec.values
  database := executor.settings.databaseName
  table := table
  layout := layout.withLocation spec.location

def addBatch (table : String) (index count applied : Nat) (batch : List Partition) :
    Action σ Unit := do
  let database := executor.settings.databaseName
  (executor.call (.addPartitions batch true false)).orElse fun failure => do
    Action.log (.batchFailed database table index count failure)
    throw (failure.leadingTo
      (.batch {
        database, table, operation := OperationKind.addPartitions.name, index, count, applied }))
  Action.log (.batchAdded batch.length)

-- Sends batches of partitions one after the other, from the `index`-th on, and gives the number of
-- partitions sent in all.
def addBatches (table : String) (count : Nat) :
    (index applied : Nat) → List (List Partition) → Action σ Nat
  | _, applied, [] => return applied
  | index, applied, batch :: batches => do
    executor.addBatch table index count applied batch
    addBatches table count (index + 1) (applied + batch.length) batches

-- Adds partitions in batches. All paths are looked at before the first batch is sent.
def addPartitions (table : String) (paths : List String) : Action σ SyncResult := do
  if paths.isEmpty then
    Action.log (.nothingTo "add" table)
    return .nothing .addPartitions table
  Action.log (.adding paths.length table)
  let entry ← executor.wrapped table .addPartitions (executor.getTable table)
  let specs ← Action.ofExcept (executor.specs entry paths)
  let batches := Batch.plan executor.settings.batchSize specs
  let applied ← executor.addBatches table batches.length 0 0
    (batches.map (·.map (executor.partition table entry.layout)))
  return {
    operation := .addPartitions, table, requested := paths.length, applied
    batches := batches.length }

def updatePartitions (table : String) (paths : List String) : Action σ SyncResult := do
  if paths.isEmpty then
    Action.log (.nothingTo "change" table)
    return .nothing .updatePartitions table
  Action.log (.changing paths.length table)
  let entry ← executor.wrapped table .updatePartitions (executor.getTable table)
  let specs ← Action.ofExcept (executor.specs entry paths)
  let partitions := specs.map (executor.partition table entry.layout)
  executor.wrapped table .updatePartitions
    (executor.call (.alterPartitions executor.settings.databaseName table partitions none))
  return {
    operation := .updatePartitions, table, requested := paths.length
    applied := partitions.length, batches := 1 }

-- Drops the entry of one partition and keeps its files. The values are checked against the keys if
-- they are known.
def dropPartition (client : Option (Client σ)) (database table path : String)
    (extractor : Extractor) (keys : Option (List String)) : Action σ Unit := do
  let values ← Action.ofExcept (extractor.extract path keys)
  Action.log (.partitionChosen path values database table)
  Action.call client (.dropPartition database table values false)

def dropEach (table : String) : List String → Action σ Unit
  | [] => return
  | path :: paths => do
    let fields := executor.settings.partitionFields
    dropPartition executor.client executor.settings.databaseName table path executor.extractor
      (if fields.isEmpty then none else some fields)
    Action.log (.partitionDropped path table)
    dropEach table paths

-- Drops partitions. The first one that cannot be dropped ends the operation.
def dropPartitions (table : String) (paths : List String) : Action σ SyncResult := do
  if paths.isEmpty then
    Action.log (.nothingTo "drop" table)
    return .nothing .dropPartitions table
  Action.log (.dropping paths.length table)
  executor.wrapped table .dropPartitions (executor.dropEach table paths)
  return {
    operation := .dropPartitions, table, requested := paths.length, applied := paths.length }

def updateComments (name : String) (updates : Dictionary String CommentUpdate) :
    Action σ Unit :=
  executor.wrapped name .updateComments do
    let table ← executor.getTable name
    let columns ← Action.ofExcept (table.layout.columns.mapM (applyComment updates))
    executor.call (.alterTable executor.settings.databaseName name (table.withColumns columns)
      (some ∅))

-- Ends the session. A session without a client or one that is over is left as it is.
def close : Action σ Unit := do
  let session ← get
  if session.isClosed || executor.client.isNone then return
  set { session with isClosed := true }
  executor.wrapped none .close (executor.call .close)

end Executor

end CatalogSync
