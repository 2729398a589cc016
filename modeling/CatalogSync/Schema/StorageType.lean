namespace CatalogSync

inductive TimeUnit where
  | second
  | millisecond
  | microsecond
  | nanosecond
deriving DecidableEq, Repr

def TimeUnit.symbol : TimeUnit → String
  | second => "s"
  | millisecond => "ms"
  | microsecond => "us"
  | nanosecond => "ns"

inductive IntegerWidth where
  | w8
  | w16
  | w32
  | w64
deriving DecidableEq, Repr

def IntegerWidth.digits : IntegerWidth → String
  | w8 => "8"
  | w16 => "16"
  | w32 => "32"
  | w64 => "64"

inductive ListLayout where
  | offsets
  | largeOffsets
  | fixed (size : Nat)
  | view
  | largeView
deriving DecidableEq, Repr

inductive BytesLayout where
  | offsets
  | largeOffsets
  | view
deriving DecidableEq, Repr

-- A child of a nested type, apart from its type: its name, and whether its values may be missing.
structure Label where
  name : String
  isNullable : Bool := true
deriving DecidableEq, Repr

-- How a map names its children, and whether its keys are sorted.
structure MapForm where
  key : String := "key"
  value : String := "value"
  entries : String := "entries"
  isSorted : Bool := false
deriving DecidableEq, Repr

-- The Arrow types, in which data files record the types of their columns.
inductive StorageType where
  | null
  | boolean
  | signed (width : IntegerWidth)
  | unsigned (width : IntegerWidth)
  | halfFloat
  | float
  | double
  | text (layout : BytesLayout)
  | binary (layout : BytesLayout)
  | fixedBinary (size : Nat)
  | date32
  | date64
  | time (unit : TimeUnit)
  | timestamp (unit : TimeUnit) (zone : Option String)
  | duration (unit : TimeUnit)
  | monthDayNano
  | decimal (bits precision : Nat) (scale : Int)
  | extension (name : String)
  | list (layout : ListLayout) (label : Label) (item : StorageType)
  | map (form : MapForm) (key value : StorageType)
  | struct (members : List (Label × StorageType))
  | dictionary (isOrdered : Bool) (index value : StorageType)
  | runEndEncoded (runEnds value : StorageType)
  -- The members of a union have codes.
  | union (isDense : Bool) (members : List ((Label × Nat) × StorageType))
deriving Repr, Inhabited

namespace StorageType

def listName : ListLayout → String
  | .offsets => "list"
  | .largeOffsets => "large_list"
  | .fixed _ => "fixed_size_list"
  | .view => "list_view"
  | .largeView => "large_list_view"

def bytesName (base : String) : BytesLayout → String
  | .offsets => base
  | .largeOffsets => "large_" ++ base
  | .view => base ++ "_view"

-- Times of day in seconds and milliseconds take 32 bits.
def timeName : TimeUnit → String
  | .second => "time32[s]"
  | .millisecond => "time32[ms]"
  | .microsecond => "time64[us]"
  | .nanosecond => "time64[ns]"

def childText (label : Label) (type : String) : String :=
  label.name ++ ": " ++ type ++ if label.isNullable then "" else " not null"

-- The remark on a child of a map that does not have its usual name.
def unusualName (usual name : String) : String := if name = usual then "" else " ('" ++ name ++ "')"

mutual

def name : StorageType → String
  | null => "null"
  | boolean => "bool"
  | signed width => "int" ++ width.digits
  | unsigned width => "uint" ++ width.digits
  | halfFloat => "halffloat"
  | float => "float"
  | double => "double"
  | text layout => bytesName "string" layout
  | binary layout => bytesName "binary" layout
  | fixedBinary size => "fixed_size_binary[" ++ toString size ++ "]"
  | date32 => "date32[day]"
  | date64 => "date64[ms]"
  | time unit => timeName unit
  | timestamp unit none | timestamp unit (some "") => "timestamp[" ++ unit.symbol ++ "]"
  | timestamp unit (some zone) => "timestamp[" ++ unit.symbol ++ ", tz=" ++ zone ++ "]"
  | duration unit => "duration[" ++ unit.symbol ++ "]"
  | monthDayNano => "month_day_nano_interval"
  | decimal bits precision scale =>
    "decimal" ++ toString bits ++ "(" ++ toString precision ++ ", " ++ toString scale ++ ")"
  | extension name => "extension<" ++ name ++ ">"
  | list layout label item =>
    let size := match layout with
      | .fixed size => "[" ++ toString size ++ "]"
      | _ => ""
    listName layout ++ "<" ++ childText label item.name ++ ">" ++ size
  | map form key value =>
    "map<" ++ key.name ++ unusualName "key" form.key ++ ", " ++ value.name ++
      unusualName "value" form.value ++ (if form.isSorted then ", keys_sorted" else "") ++
      unusualName "entries" form.entries ++ ">"
  | struct members => "struct<" ++ ", ".intercalate (memberNames members) ++ ">"
  | dictionary isOrdered index value =>
    "dictionary<values=" ++ value.name ++ ", indices=" ++ index.name ++ ", ordered=" ++
      (if isOrdered then "1>" else "0>")
  | runEndEncoded runEnds value =>
    "run_end_encoded<run_ends: " ++ runEnds.name ++ ", values: " ++ value.name ++ ">"
  | union isDense members =>
    (if isDense then "dense_union<" else "sparse_union<") ++
      ", ".intercalate (codedNames members) ++ ">"

def memberNames : List (Label × StorageType) → List String
  | [] => []
  | (label, type) :: members => childText label type.name :: memberNames members

def codedNames : List ((Label × Nat) × StorageType) → List String
  | [] => []
  | ((label, code), type) :: members =>
    (childText label type.name ++ "=" ++ toString code) :: codedNames members

end

end StorageType

end CatalogSync
