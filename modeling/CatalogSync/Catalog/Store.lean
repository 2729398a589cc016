import CatalogSync.Catalog.Client

namespace CatalogSync

structure TableKey where
  database : String
  table : String
deriving DecidableEq, Repr

-- A partition is known by its table and its values.
structure PartitionKey where
  table : TableKey
  values : List String
deriving DecidableEq, Repr

def Partition.key (partition : Partition) : PartitionKey :=
  ⟨⟨partition.database, partition.table⟩, partition.values⟩

structure Store where
  databases : Dictionary String Database
  tables : Dictionary TableKey Table
  partitions : Dictionary PartitionKey Partition
deriving DecidableEq, Repr

namespace Store

def empty : Store := ⟨∅, ∅, ∅⟩

-- The store with a partition in it, unless one with the same values is there.
def addPartition (partitions : Dictionary PartitionKey Partition) (partition : Partition) :
    Dictionary PartitionKey Partition :=
  if partitions.contains partition.key then partitions
  else partitions.insert partition.key partition

-- The partitions with new columns in every one of a table.
def cascade (key : TableKey) (columns : List Column)
    (partitions : Dictionary PartitionKey Partition) : Dictionary PartitionKey Partition :=
  partitions.map fun k partition =>
    if k.table = key then { partition with layout := partition.layout.withColumns columns }
    else partition

-- The first of some partitions that is not stored for a table.
def missing? (partitions : Dictionary PartitionKey Partition) (key : TableKey)
    (wanted : List Partition) : Option Partition :=
  wanted.find? fun partition => !partitions.contains ⟨key, partition.values⟩

def replaceAll (key : TableKey) (partitions : Dictionary PartitionKey Partition)
    (replacements : List Partition) : Dictionary PartitionKey Partition :=
  replacements.foldl (fun all partition => all.insert ⟨key, partition.values⟩ partition) partitions

def refuse {α : Type} (store : Store) (problem : CatalogProblem) : Except Failure α × Store :=
  (.error ⟨.catalog problem, []⟩, store)

def answer (store : Store) : (call : Call) → Except Failure call.Reply × Store
  | .createDatabase database =>
    if store.databases.contains database.name then store.refuse (.databaseExists database.name)
    else (.ok (), { store with databases := store.databases.insert database.name database })
  | .createTable table =>
    let key : TableKey := ⟨table.database, table.name⟩
    if store.tables.contains key then store.refuse (.tableExists table.database table.name)
    else (.ok (), { store with tables := store.tables.insert key table })
  | .getTable database name =>
    match store.tables.get? ⟨database, name⟩ with
    | none => store.refuse (.tableMissing database name)
    | some table => (.ok table, store)
  | .alterTable database name table request =>
    let key : TableKey := ⟨database, name⟩
    if store.tables.contains key then
      let partitions :=
        if request.any isCascading then cascade key table.layout.columns store.partitions
        else store.partitions
      (.ok (), { store with tables := store.tables.insert key table, partitions })
    else store.refuse (.tableMissing database name)
  | .addPartitions partitions ifNotExists _ =>
    match partitions.find? fun partition => store.partitions.contains partition.key with
    | some partition =>
      if ifNotExists then
        (.ok (), { store with partitions := partitions.foldl addPartition store.partitions })
      else store.refuse (.partitionExists partition.values)
    | none => (.ok (), { store with partitions := partitions.foldl addPartition store.partitions })
  | .alterPartitions database table partitions _ =>
    let key : TableKey := ⟨database, table⟩
    match missing? store.partitions key partitions with
    | some partition => store.refuse (.partitionMissing partition.values)
    | none => (.ok (), { store with partitions := replaceAll key store.partitions partitions })
  | .dropPartition database table values _ =>
    let key : PartitionKey := ⟨⟨database, table⟩, values⟩
    if store.partitions.contains key then
      (.ok (), { store with partitions := store.partitions.erase key })
    else store.refuse (.partitionMissing values)
  | .close => (.ok (), store)

def client : Client Store where
  answer call store := store.answer call

end Store

end CatalogSync
