import CatalogSync.Schema.StorageType

namespace CatalogSync

inductive HiveType where
  | string
  | boolean
  | tinyint
  | smallint
  | int
  | bigint
  | float
  | double
  | decimal (precision : Nat) (scale : Int)
  | date
  | timestamp
  | binary
  | array (item : HiveType)
  | map (key value : HiveType)
  | struct (members : List (String × HiveType))
deriving Repr, Inhabited

namespace HiveType

mutual

def text : HiveType → String
  | string => "string"
  | boolean => "boolean"
  | tinyint => "tinyint"
  | smallint => "smallint"
  | int => "int"
  | bigint => "bigint"
  | float => "float"
  | double => "double"
  | decimal precision scale => "decimal(" ++ toString precision ++ "," ++ toString scale ++ ")"
  | date => "date"
  | timestamp => "timestamp"
  | binary => "binary"
  | array item => "array<" ++ item.text ++ ">"
  | map key value => "map<" ++ key.text ++ "," ++ value.text ++ ">"
  | struct members => "struct<" ++ ",".intercalate (memberTexts members) ++ ">"

def memberTexts : List (String × HiveType) → List String
  | [] => []
  | (name, type) :: members => (name ++ ":" ++ type.text) :: memberTexts members

end

-- The type of a whole number. Numbers without sign take the next wider type.
def ofSigned : IntegerWidth → HiveType
  | .w8 => tinyint
  | .w16 => smallint
  | .w32 => int
  | .w64 => bigint

def ofUnsigned : IntegerWidth → HiveType
  | .w8 | .w16 => int
  | .w32 | .w64 => bigint

mutual

-- The catalog's type for a type of a data file, or else the type without a counterpart. A timestamp
-- is a number unless timestamps are supported.
def ofStorage (timestamps : Bool) : StorageType → Except StorageType HiveType
  | .null => .ok string
  | .text .offsets | .text .largeOffsets => .ok string
  | .boolean => .ok boolean
  | .signed width => .ok (ofSigned width)
  | .unsigned width => .ok (ofUnsigned width)
  | .halfFloat | .float => .ok float
  | .double => .ok double
  | .decimal _ precision scale => .ok (decimal precision scale)
  | .date32 | .date64 => .ok date
  | .timestamp _ _ => .ok (if timestamps then timestamp else bigint)
  | .time _ => .ok bigint
  | .binary .offsets | .binary .largeOffsets => .ok binary
  | .fixedBinary _ => .ok binary
  | .dictionary _ _ value => ofStorage timestamps value
  | .map _ key value => do return map (← ofStorage timestamps key) (← ofStorage timestamps value)
  | .list .offsets _ item | .list .largeOffsets _ item | .list (.fixed _) _ item =>
    do return array (← ofStorage timestamps item)
  | .struct members => do return struct (← ofMembers timestamps members)
  | type => .error type

def ofMembers (timestamps : Bool) :
    List (Label × StorageType) → Except StorageType (List (String × HiveType))
  | [] => .ok []
  | (label, type) :: members =>
    do return (label.name, ← ofStorage timestamps type) :: (← ofMembers timestamps members)

end

end HiveType

end CatalogSync
