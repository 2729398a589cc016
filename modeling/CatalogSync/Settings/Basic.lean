namespace CatalogSync

-- The settings. A batch size of zero or less sends all partitions at once; without an owner the
-- tables belong to the current user.
structure Settings where
  databaseName : String := "default"
  basePath : String := ""
  partitionFields : List String := []
  partitionExtractor : String := "multi_part_keys"
  batchSize : Int := 1000
  externalTables : Bool := true
  supportTimestamp : Bool := false
  defaultFileSystem : Option String := none
  owner : Option String := none
deriving DecidableEq, Repr, Inhabited

inductive Setting where
  | databaseName
  | basePath
  | partitionFields
  | partitionExtractor
  | batchSize
  | externalTables
  | supportTimestamp
  | defaultFileSystem
  | owner
deriving DecidableEq, Repr

namespace Setting

def all : List Setting :=
  [databaseName, basePath, partitionFields, partitionExtractor, batchSize, externalTables,
    supportTimestamp, defaultFileSystem, owner]

def key : Setting → String
  | databaseName => "database_name"
  | basePath => "base_path"
  | partitionFields => "partition_fields"
  | partitionExtractor => "partition_extractor"
  | batchSize => "batch_sync_partition_num"
  | externalTables => "create_external_table"
  | supportTimestamp => "support_timestamp"
  | defaultFileSystem => "default_fs"
  | owner => "owner"

def ofKey? (key : String) : Option Setting := all.find? fun setting => setting.key == key

end Setting

end CatalogSync
