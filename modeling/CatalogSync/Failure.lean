import CatalogSync.Datum.Literal
import CatalogSync.Schema.StorageType
import CatalogSync.Uri.Basic

namespace CatalogSync

open CatalogSync.Text

inductive ConfigProblem where
  | unknownKeys (keys : List String)
  | notText (key : String) (value : Datum)
  | notInteger (key : String) (value : Datum)
  | notSwitch (key : String) (value : Datum)
  | notFieldList (key : String) (value : Datum)
  | fileMissing (name : String)
  | fileUnreadable (name reason : String)
  | filesystemForm (text : String)
  | noNamenode (path : String)
  | unknownExtractor (name : String)
  | pluginNotLoaded (name source : String)
  | extractorNotMade (name : String)
  | notAnExtractor (name : String)
deriving Repr

inductive SchemaProblem where
  | unsupported (type : StorageType)
  | column (name : String) (type : StorageType)
deriving Repr

inductive ValuesProblem where
  | segment (text : String)
  | form (path shape : String)
  | count (path : String) (values keys : List String)
deriving DecidableEq, Repr

-- An operation on the catalog that did not succeed. Without a text of its own it is described by
-- its target and name.
structure FailedOperation where
  database : String
  table : Option String
  operation : String
  text : Option String := none
deriving DecidableEq, Repr

-- A batch of partitions that could not be added. The batches before it stay applied.
structure FailedBatch where
  database : String
  table : String
  operation : String
  index : Int
  count : Int
  applied : Int
deriving DecidableEq, Repr

inductive CatalogProblem where
  | databaseExists (name : String)
  | tableExists (database table : String)
  | tableMissing (database table : String)
  | partitionExists (values : List String)
  | partitionMissing (values : List String)
deriving DecidableEq, Repr

-- The class of an error that others report in their own words: a catalog client, a plugin, a
-- translator, the system or the console.
inductive ReportKind where
  | alreadyExists
  | noSuchObject
  | connection
  | runtime
  | value
  | loading
  | lookup
  | general
  | config
  | values
  | markup
deriving DecidableEq, Repr

inductive ValueProblem where
  | numeral (text : String)
  | notNumeric
  | undefinedNumber
  | infiniteNumber
  -- A whole number with more digits than are read or written.
  | longNumeral
  | tooDeep
  | encoding
  -- A value without entries where a table is expected.
  | notTable
  -- A value that is not even a set of keys where a table is expected.
  | notKeys
  | emptyUpdate
  -- An update of a comment that is neither a text nor a sequence.
  | notUpdate
deriving DecidableEq, Repr

inductive Problem where
  | config (problem : ConfigProblem)
  | schema (problem : SchemaProblem)
  | values (problem : ValuesProblem)
  | operation (problem : FailedOperation)
  | batch (problem : FailedBatch)
  | catalog (problem : CatalogProblem)
  | uri (problem : UriProblem)
  | value (problem : ValueProblem)
  | reported (kind : ReportKind) (message : String)
  | registered (name : String)
  | noClient
deriving Repr

-- What went wrong, and the chain of what led to it, the nearest first.
structure Failure where
  problem : Problem
  causes : List Problem := []
deriving Repr

def ConfigProblem.message : ConfigProblem → String
  | unknownKeys keys => "Unknown config key(s): " ++ ", ".intercalate keys
  | notText key value => "Invalid string for " ++ key ++ ": " ++ value.literal
  | notInteger key value => "Invalid integer for " ++ key ++ ": " ++ value.literal
  | notSwitch key value => "Invalid boolean for " ++ key ++ ": " ++ value.literal
  | notFieldList key value => "Invalid field list for " ++ key ++ ": " ++ value.literal
  | fileMissing name => "Config file not found: " ++ name
  | fileUnreadable name reason => "Cannot read config file " ++ name ++ ": " ++ reason
  | filesystemForm text =>
    "Default filesystem must be of the form scheme://[host[:port]], got " ++ quoted text
  | noNamenode path =>
    "Cannot qualify " ++ quoted path ++ ": the base path has no namenode and no hdfs " ++
      "default filesystem is configured (default_fs)"
  | unknownExtractor name => "Unknown partition value extractor: " ++ name
  | pluginNotLoaded name source =>
    "Failed to load partition value extractor plugin " ++ name ++ " (" ++ source ++ ")"
  | extractorNotMade name => "Failed to initialize partition value extractor " ++ name
  | notAnExtractor name =>
    "Partition value extractor " ++ name ++ " does not implement PartitionValueExtractor"

def SchemaProblem.message : SchemaProblem → String
  | unsupported type => "Unsupported storage type: " ++ type.name
  | column name type => "Column " ++ name ++ ": Unsupported storage type: " ++ type.name

def ValuesProblem.message : ValuesProblem → String
  | segment text => "Partition field (" ++ text ++ ") not in expected format key=value"
  | form path shape => "Partition path " ++ path ++ " is not in the form " ++ shape
  | count path values keys =>
    "Partition path " ++ quoted path ++ " yields " ++ toString values.length ++ " value(s) " ++
      Datum.listLiteral values ++ " but the table has " ++ toString keys.length ++
      " partition key(s) " ++ Datum.listLiteral keys

-- The name of a target: a database, or a table with its database. An empty table name counts as
-- none.
def targetName (database : String) (table : Option String) : String :=
  match table with
  | none | some "" => database
  | some table => database ++ "." ++ table

def FailedOperation.message (failed : FailedOperation) : String :=
  match failed.text with
  | none | some "" =>
    targetName failed.database failed.table ++ " " ++ failed.operation ++ " failed"
  | some text => text

def FailedBatch.message (failed : FailedBatch) : String :=
  failed.database ++ "." ++ failed.table ++ " " ++ failed.operation ++ " failed at batch " ++
    toString (failed.index + 1) ++ "/" ++ toString failed.count ++ " (" ++
    toString failed.applied ++ " partition(s) already applied)"

def CatalogProblem.message : CatalogProblem → String
  | databaseExists name => "Database " ++ name ++ " already exists"
  | tableExists database table => "Table " ++ database ++ "." ++ table ++ " already exists"
  | tableMissing database table => database ++ "." ++ table ++ " table not found"
  | partitionExists values => "Partition " ++ Datum.listLiteral values ++ " already exists"
  | partitionMissing values => "Partition " ++ Datum.listLiteral values ++ " not found"

def ValueProblem.message : ValueProblem → String
  | numeral text => "not a numeral: " ++ quoted text
  | notNumeric => "not a number"
  | undefinedNumber => "cannot convert float NaN to integer"
  | infiniteNumber => "cannot convert float infinity to integer"
  | longNumeral => "Exceeds the limit (4300 digits) for integer string conversion"
  | tooDeep => "nested too deep"
  | encoding => "invalid UTF-8"
  | notTable => "not a table"
  | notKeys => "not a set of keys"
  | emptyUpdate => "empty comment update"
  | notUpdate => "not a comment update"

def Problem.message : Problem → String
  | config problem => problem.message
  | schema problem => problem.message
  | values problem => problem.message
  | operation failed => failed.message
  | batch failed => failed.message
  | catalog problem => problem.message
  | uri problem => problem.message
  | value problem => problem.message
  | reported _ message => message
  | registered name => "Partition value extractor already registered: " ++ name
  | noClient => "no catalog client"

-- Whether the problem is one of the library's own errors.
def Problem.isOwn : Problem → Bool
  | config _ | schema _ | values _ | operation _ | batch _ => true
  | reported .general _ | reported .config _ | reported .values _ => true
  | _ => false

namespace Failure

def message (failure : Failure) : String := failure.problem.message

def isOwn (failure : Failure) : Bool := failure.problem.isOwn

def cause? (failure : Failure) : Option Failure :=
  match failure.causes with
  | [] => none
  | problem :: causes => some ⟨problem, causes⟩

def leadingTo (failure : Failure) (problem : Problem) : Failure :=
  ⟨problem, failure.problem :: failure.causes⟩

def config (problem : ConfigProblem) : Failure := ⟨.config problem, []⟩

def schema (problem : SchemaProblem) : Failure := ⟨.schema problem, []⟩

def values (problem : ValuesProblem) : Failure := ⟨.values problem, []⟩

def uri (problem : UriProblem) : Failure := ⟨.uri problem, []⟩

def value (problem : ValueProblem) : Failure := ⟨.value problem, []⟩

end Failure

end CatalogSync
