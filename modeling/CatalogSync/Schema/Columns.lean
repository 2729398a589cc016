import CatalogSync.Catalog.Record
import CatalogSync.Failure
import CatalogSync.Schema.HiveType

namespace CatalogSync

-- A field of a data file. The comment is kept in the file as bytes.
structure StorageField where
  name : String
  type : StorageType
  comment : Option ByteArray := none

abbrev StorageSchema := List StorageField

namespace Schema

def addColumns (timestamps : Bool) (found : Properties) :
    StorageSchema → Except Failure Properties
  | [] => .ok found
  | field :: fields =>
    match HiveType.ofStorage timestamps field.type with
    | .ok type => addColumns timestamps (found.insert field.name type.text) fields
    | .error type =>
      .error ((Failure.schema (.unsupported type)).leadingTo (.schema (.column field.name type)))

def columnTypes (timestamps : Bool) (schema : StorageSchema) : Except Failure Properties :=
  addColumns timestamps ∅ schema

-- Adds the comments of some fields to those found so far. An empty comment is none.
def addComments (found : Properties) : StorageSchema → Except Failure Properties
  | [] => .ok found
  | field :: fields =>
    match field.comment with
    | none => addComments found fields
    | some bytes =>
      if bytes.isEmpty then addComments found fields
      else
        match String.fromUTF8? bytes with
        | none => .error (.value .encoding)
        | some comment => addComments (found.insert field.name comment) fields

def comments (schema : StorageSchema) : Except Failure Properties := addComments ∅ schema

def columns (types comments : Properties) : List Column :=
  types.entries.map fun (name, type) => ⟨name, type, (comments.get? name).getD ""⟩

-- The type of a partition key. The data files need not hold the key, and then it is a text.
def keyType (types : Properties) (key : String) : String := (types.get? key).getD "string"

end Schema

-- What turns the schema of data files into the columns and the keys of a table.
structure Translator where
  columnTypes : (timestamps : Bool) → StorageSchema → Except Failure Properties
  comments : StorageSchema → Except Failure Properties
  columns : (types comments : Properties) → Except Failure (List Column)
  keyType : (types : Properties) → (key : String) → Except Failure String

namespace Translator

-- The translator that is used if no other one is given.
def arrow : Translator where
  columnTypes := Schema.columnTypes
  comments := Schema.comments
  columns types comments := .ok (Schema.columns types comments)
  keyType types key := .ok (Schema.keyType types key)

variable (translator : Translator) (timestamps : Bool) (schema : StorageSchema)

-- The types of the columns, in which the keys are looked up, and the columns.
def translate : Except Failure (Properties × List Column) := do
  let types ← translator.columnTypes timestamps schema
  let comments ← translator.comments schema
  return (types, ← translator.columns types comments)

def tableColumns : Except Failure (List Column) :=
  (translator.translate timestamps schema).map Prod.snd

end Translator

end CatalogSync
