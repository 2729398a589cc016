import CatalogSync.Sync.Executor

namespace CatalogSync

inductive Operation where
  | createDatabase (name : String)
  | createTable (request : TableRequest)
  | updateTable (name : String) (schema : StorageSchema)
  | getSchema (name : String) (milliseconds : Int)
  | addPartitions (table : String) (paths : List String)
  | updatePartitions (table : String) (paths : List String)
  | dropPartitions (table : String) (paths : List String)
  | updateComments (name : String) (updates : Dictionary String CommentUpdate)
  | close

namespace Operation

def kind : Operation → OperationKind
  | createDatabase _ => .createDatabase
  | createTable _ => .createTable
  | updateTable _ _ => .updateTable
  | getSchema _ _ => .getSchema
  | addPartitions _ _ => .addPartitions
  | updatePartitions _ _ => .updatePartitions
  | dropPartitions _ _ => .dropPartitions
  | updateComments _ _ => .updateComments
  | close => .close

def table? : Operation → Option String
  | createTable request => some request.name
  | updateTable table _ | getSchema table _ | addPartitions table _ | updatePartitions table _
  | dropPartitions table _ | updateComments table _ => some table
  | createDatabase _ | close => none

variable {σ : Type}

-- Carries out an operation. What it gives back is left out.
def perform (executor : Executor σ) : Operation → Action σ Unit
  | createDatabase name => executor.createDatabase name
  | createTable request => discard (executor.createTable request)
  | updateTable name schema => executor.updateTable name schema
  | getSchema name milliseconds => discard (executor.getSchema name milliseconds)
  | addPartitions table paths => discard (executor.addPartitions table paths)
  | updatePartitions table paths => discard (executor.updatePartitions table paths)
  | dropPartitions table paths => discard (executor.dropPartitions table paths)
  | updateComments name updates => executor.updateComments name updates
  | close => executor.close

-- The session after a run of operations, each of which may fail.
def run (executor : Executor σ) : List Operation → Session σ → Session σ
  | [], session => session
  | operation :: operations, session =>
    run executor operations ((operation.perform executor).perform session).2

end Operation

end CatalogSync
