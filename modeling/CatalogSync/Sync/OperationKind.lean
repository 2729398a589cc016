namespace CatalogSync

inductive OperationKind where
  | createDatabase
  | createTable
  | updateTable
  | getSchema
  | addPartitions
  | updatePartitions
  | dropPartitions
  | updateComments
  | close
deriving DecidableEq, Repr

def OperationKind.name : OperationKind → String
  | createDatabase => "create database"
  | createTable => "create table"
  | updateTable => "update table"
  | getSchema => "get table schema"
  | addPartitions => "add partition"
  | updatePartitions => "update partition"
  | dropPartitions => "drop partition"
  | updateComments => "update table comments"
  | close => "close"

end CatalogSync
