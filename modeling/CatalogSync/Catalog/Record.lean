import CatalogSync.Dictionary

namespace CatalogSync

abbrev Properties := Dictionary String String

structure Column where
  name : String
  type : String
  comment : String := ""
deriving DecidableEq, Repr, Inhabited

-- How rows are read from and written to data files.
structure Serialization where
  name : Option String := none
  library : Option String := none
  parameters : Properties := ∅
deriving DecidableEq, Repr, Inhabited

structure Layout where
  columns : List Column := []
  location : Option String := none
  inputFormat : Option String := none
  outputFormat : Option String := none
  serialization : Serialization := {}
deriving DecidableEq, Repr, Inhabited

-- Whether the catalog owns the data of a table.
inductive TableKind where
  | managed
  | external
deriving DecidableEq, Repr, Inhabited

structure Table where
  database : String
  name : String
  layout : Layout
  partitionKeys : List Column := []
  owner : Option String := none
  createTime : Int := 0
  parameters : Properties := ∅
  kind : TableKind := .managed
deriving DecidableEq, Repr, Inhabited

structure Partition where
  values : List String
  database : String
  table : String
  layout : Layout
  createTime : Int := 0
  lastAccessTime : Int := 0
  parameters : Option Properties := none
deriving DecidableEq, Repr, Inhabited

structure Database where
  name : String
  description : Option String := none
  location : Option String := none
  parameters : Option Properties := none
deriving DecidableEq, Repr, Inhabited

namespace Column

def withComment (column : Column) (comment : String) : Column := { column with comment }

end Column

namespace Layout

def withLocation (layout : Layout) (location : String) : Layout :=
  { layout with location := some location }

def withColumns (layout : Layout) (columns : List Column) : Layout := { layout with columns }

-- Whether two layouts are the same, in whatever order their parameters were set.
def agrees (a b : Layout) : Bool :=
  decide ({ a with serialization := { a.serialization with parameters := ∅ } } =
    { b with serialization := { b.serialization with parameters := ∅ } }) &&
    a.serialization.parameters.agrees b.serialization.parameters

end Layout

namespace Table

def withColumns (table : Table) (columns : List Column) : Table :=
  { table with layout := table.layout.withColumns columns }

def fullName (table : Table) : String := table.database ++ "." ++ table.name

end Table

def TableKind.name : TableKind → String
  | managed => "MANAGED_TABLE"
  | external => "EXTERNAL_TABLE"

-- The request to pass a change of columns on to the partitions of the table.
def cascadeRequest : Properties := Dictionary.ofList [("CASCADE", "true")]

-- Whether the properties of a change ask for it to be passed on.
def isCascading (properties : Properties) : Bool :=
  decide (properties.get? "CASCADE" = some "true")

end CatalogSync
