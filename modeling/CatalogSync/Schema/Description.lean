import CatalogSync.Datum.Basic
import CatalogSync.Schema.Columns
import CatalogSync.Toml.Text

namespace CatalogSync

def StorageType.words : List (String × StorageType) :=
  [("null", .null), ("bool", .boolean),
    ("int8", .signed .w8), ("int16", .signed .w16), ("int32", .signed .w32),
    ("int64", .signed .w64), ("uint8", .unsigned .w8), ("uint16", .unsigned .w16),
    ("uint32", .unsigned .w32), ("uint64", .unsigned .w64),
    ("float16", .halfFloat), ("float32", .float), ("float64", .double),
    ("string", .text .offsets), ("large_string", .text .largeOffsets),
    ("string_view", .text .view), ("binary", .binary .offsets),
    ("large_binary", .binary .largeOffsets), ("binary_view", .binary .view),
    ("date32", .date32), ("date64", .date64), ("month_day_nano_interval", .monthDayNano),
    ("uuid", .extension "arrow.uuid"), ("bool8", .extension "arrow.bool8")]

def TimeUnit.ofSymbol? (symbol : String) : Option TimeUnit :=
  [second, millisecond, microsecond, nanosecond].find? fun unit => unit.symbol == symbol

namespace Datum

def textOf? (entries : List (String × Datum)) (key : String) : Option String :=
  match entries.lookup key with
  | some (.text s) => some s
  | _ => none

def integerOf? (entries : List (String × Datum)) (key : String) : Option Int :=
  match entries.lookup key with
  | some (.integer n) => some n
  | _ => none

def unitOf? (entries : List (String × Datum)) : Option TimeUnit :=
  (textOf? entries "unit").bind TimeUnit.ofSymbol?

end Datum

namespace StorageType

open Datum

def simpleOf? (entries : List (String × Datum)) : String → Option StorageType
  | "timestamp" => do return .timestamp (← unitOf? entries) (textOf? entries "tz")
  | "time" => (unitOf? entries).map .time
  | "duration" => (unitOf? entries).map .duration
  | "fixed_binary" => (integerOf? entries "n").map fun n => .fixedBinary n.toNat
  | "decimal" => do
    let bits := (integerOf? entries "bits").getD 128
    return .decimal bits.toNat (← integerOf? entries "p").toNat (← integerOf? entries "s")
  | _ => none

def listLayoutOf? (entries : List (String × Datum)) : String → Option ListLayout
  | "list" => some .offsets
  | "large_list" => some .largeOffsets
  | "list_view" => some .view
  | "large_list_view" => some .largeView
  | "fixed_list" => (integerOf? entries "n").map fun n => .fixed n.toNat
  | _ => none

mutual

-- The type that is described, nested at most `depth` times.
def ofDatum? : Nat → Datum → Option StorageType
  | 0, _ => none
  | _ + 1, .text word => words.lookup word
  | depth + 1, .table entries => do
    let part := fun key => (entries.lookup key).bind (ofDatum? depth)
    let kind ← textOf? entries "k"
    match kind with
    | "map" => return .map {} (← part "key") (← part "value")
    | "struct" => return .struct (← membersOf? depth ((entries.lookup "fields").getD .null))
    | "dictionary" =>
      return .dictionary false ((part "index").getD (.signed .w32)) (← part "value")
    | "run_end_encoded" => return .runEndEncoded (← part "run_ends") (← part "value")
    | "union" =>
      let members ← membersOf? depth ((entries.lookup "fields").getD .null)
      return .union (textOf? entries "mode" == some "dense")
        (members.mapIdx fun code (label, type) => ((label, code), type))
    | kind =>
      match listLayoutOf? entries kind with
      | some layout => return .list layout { name := "item" } (← part "item")
      | none => simpleOf? entries kind
  | _ + 1, _ => none

-- Members that are described as pairs of a name and a type.
def membersOf? : Nat → Datum → Option (List (Label × StorageType))
  | 0, _ => none
  | depth + 1, .list items => items.mapM fun
    | .list [.text name, type] => do return ({ name }, ← ofDatum? depth type)
    | _ => none
  | _ + 1, _ => none

end

end StorageType

def bytesOfHex : List Char → List UInt8
  | a :: b :: rest => (Text.hexValue [a, b]).toUInt8 :: bytesOfHex rest
  | _ => []

-- Bytes that are described as a text, or as a table with hexadecimal digits under `hex`.
def Datum.bytes? : Datum → Option ByteArray
  | .text s => some s.toUTF8
  | .table [("hex", .text digits)] => some ⟨(bytesOfHex digits.toList).toArray⟩
  | _ => none

-- No description of a type nests deeper than this.
def descriptionDepth : Nat := 10000

def StorageField.ofDatum? : Datum → Option StorageField
  | .table entries => do
    let name ← Datum.textOf? entries "name"
    let type ← StorageType.ofDatum? descriptionDepth (← entries.lookup "type")
    return { name, type, comment := (entries.lookup "comment").bind Datum.bytes? }
  | _ => none

def Schema.ofDatum? : Datum → Option StorageSchema
  | .list fields => fields.mapM StorageField.ofDatum?
  | _ => none

end CatalogSync
