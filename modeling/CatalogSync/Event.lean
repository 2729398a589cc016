import CatalogSync.Failure

namespace CatalogSync

inductive Event.Level where
  | debug
  | info
  | error
deriving DecidableEq, Repr

inductive Event where
  | pluginRegistered (name : String)
  | partitionChosen (path : String) (values : List String) (database table : String)
  | databaseCreated (name : String)
  | tableCreated (database table : String)
  | cascading (table : String)
  | schemaRead (milliseconds : Int)
  | nothingTo (verb table : String)
  | adding (count : Nat) (table : String)
  | changing (count : Nat) (table : String)
  | dropping (count : Nat) (table : String)
  | batchAdded (count : Nat)
  | partitionDropped (path table : String)
  | operationFailed (target operation : String) (failure : Failure)
  | batchFailed (database table : String) (index count : Nat) (failure : Failure)
deriving Repr

namespace Event

def level : Event → Level
  | pluginRegistered _ | partitionChosen .. => .debug
  | operationFailed .. | batchFailed .. => .error
  | _ => .info

def Level.name : Level → String
  | debug => "DEBUG"
  | info => "INFO"
  | error => "ERROR"

-- The text of an event, with failures described by `describe`.
def text (describe : Failure → String) : Event → String
  | pluginRegistered name => "Registered partition value extractor plugin " ++ name
  | partitionChosen path values database table =>
    "Dropping partition " ++ path ++ " " ++ Datum.tupleLiteral values ++ " on " ++ database ++
      "." ++ table
  | databaseCreated name => "Created database " ++ name
  | tableCreated database table => "Created table " ++ database ++ "." ++ table
  | cascading table => "Partitioned table " ++ table ++ ", altering with cascade"
  | schemaRead milliseconds =>
    "Time taken to get_table_schema: " ++ toString milliseconds ++ " ms."
  | nothingTo verb table => "No partitions to " ++ verb ++ " for " ++ table ++ "."
  | adding count table => "Adding partitions " ++ toString count ++ " to table " ++ table ++ "."
  | changing count table => "Changing partitions " ++ toString count ++ " on " ++ table ++ "."
  | dropping count table => "Dropping partitions " ++ toString count ++ " on " ++ table ++ "."
  | batchAdded count => "Add a batch partitions done: " ++ toString count ++ "."
  | partitionDropped path table => "Drop partition " ++ path ++ " on " ++ table ++ "."
  | operationFailed target operation failure =>
    target ++ " " ++ operation ++ " failed: " ++ describe failure
  | batchFailed database table index count failure =>
    database ++ "." ++ table ++ " add partition batch " ++ toString (index + 1) ++ "/" ++
      toString count ++ " failed: " ++ describe failure

end Event

end CatalogSync
