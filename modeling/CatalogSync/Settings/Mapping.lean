import CatalogSync.Failure
import CatalogSync.Settings.Basic
import CatalogSync.Text.Blank
import CatalogSync.Text.Split

namespace CatalogSync

open CatalogSync.Text

inductive Update where
  | databaseName (value : String)
  | basePath (value : String)
  | partitionFields (value : List String)
  | partitionExtractor (value : String)
  | batchSize (value : Int)
  | externalTables (value : Bool)
  | supportTimestamp (value : Bool)
  | defaultFileSystem (value : Option String)
  | owner (value : Option String)
deriving DecidableEq, Repr

namespace Update

def run (settings : Settings) : Update → Settings
  | databaseName value => { settings with databaseName := value }
  | basePath value => { settings with basePath := value }
  | partitionFields value => { settings with partitionFields := value }
  | partitionExtractor value => { settings with partitionExtractor := value }
  | batchSize value => { settings with batchSize := value }
  | externalTables value => { settings with externalTables := value }
  | supportTimestamp value => { settings with supportTimestamp := value }
  | defaultFileSystem value => { settings with defaultFileSystem := value }
  | owner value => { settings with owner := value }

-- The failure for a value of a wrong form. The message shows the value, so one that cannot be
-- written is a failure of another kind.
def unfit (problem : Datum → ConfigProblem) (value : Datum) : Failure :=
  if value.isWritable then .config (problem value) else .value .longNumeral

def toText (key : String) : Datum → Except Failure String
  | .text s => if trim s = "" then .error (.config (.notText key (.text s))) else .ok (trim s)
  | value => .error (unfit (.notText key) value)

-- A text, or none if it is missing or blank.
def toOptionalText (key : String) : Datum → Except Failure (Option String)
  | .null => .ok none
  | .text s => .ok (if trim s = "" then none else some (trim s))
  | value => .error (unfit (.notText key) value)

-- Names between commas, or the items of a list; blank ones are left out.
def toFields (key : String) (value : Datum) : Except Failure (List String) :=
  let named := fun parts => (parts.map trim).filter (· ≠ "")
  match value with
  | .text s => .ok (named (split ',' s))
  | .list items =>
    if (Datum.list items).isWritable then .ok (named (items.map Datum.plain))
    else .error (.value .longNumeral)
  | value => .error (unfit (.notFieldList key) value)

def trueWords : List String := ["1", "true", "t", "yes", "y", "on"]
def falseWords : List String := ["0", "false", "f", "no", "n", "off"]

-- A switch, a whole number that is zero or not, or a word for yes or no.
def toSwitch (key : String) : Datum → Except Failure Bool
  | .boolean b => .ok b
  | .integer n => .ok (n ≠ 0)
  | .text s =>
    if lower (trim s) ∈ trueWords then .ok true
    else if lower (trim s) ∈ falseWords then .ok false
    else .error (.config (.notSwitch key (.text s)))
  | value => .error (unfit (.notSwitch key) value)

-- The whole number that a value stands for. A floating point number loses its fraction.
def wholeNumber : Datum → Except ValueProblem Int
  | .integer n => .ok n
  | .float (.finite negative significand exponent) =>
    .ok (((Binary64.finite negative significand exponent).truncate?).getD 0)
  | .float .undefined => .error .undefinedNumber
  | .float (.infinite _) => .error .infiniteNumber
  | .text s =>
    match Numeral.read? s with
    | some n => .ok n
    | none => .error (.numeral s)
  | _ => .error .notNumeric

-- A whole number. A switch is not taken for one, and an unbounded number is passed on as the
-- problem that it is.
def toInteger (key : String) (value : Datum) : Except Failure Int :=
  let refused := unfit (.notInteger key) value
  match value with
  | .boolean _ => .error refused
  | value =>
    match wholeNumber value with
    | .ok n => .ok n
    | .error .infiniteNumber => .error (.value .infiniteNumber)
    | .error problem => .error ((Failure.value problem).leadingTo refused.problem)

def ofDatum (setting : Setting) (value : Datum) : Except Failure Update :=
  match setting with
  | .databaseName => (toText setting.key value).map databaseName
  | .basePath => (toText setting.key value).map basePath
  | .partitionFields => (toFields setting.key value).map partitionFields
  | .partitionExtractor => (toText setting.key value).map partitionExtractor
  | .batchSize => (toInteger setting.key value).map batchSize
  | .externalTables => (toSwitch setting.key value).map externalTables
  | .supportTimestamp => (toSwitch setting.key value).map supportTimestamp
  | .defaultFileSystem => (toOptionalText setting.key value).map defaultFileSystem
  | .owner => (toOptionalText setting.key value).map owner

end Update

abbrev Mapping := List (String × Datum)

namespace Settings

def value (settings : Settings) : Setting → Datum
  | .databaseName => .text settings.databaseName
  | .basePath => .text settings.basePath
  | .partitionFields => .list (settings.partitionFields.map .text)
  | .partitionExtractor => .text settings.partitionExtractor
  | .batchSize => .integer settings.batchSize
  | .externalTables => .boolean settings.externalTables
  | .supportTimestamp => .boolean settings.supportTimestamp
  | .defaultFileSystem => (settings.defaultFileSystem.map .text).getD .null
  | .owner => (settings.owner.map .text).getD .null

def mapping (settings : Settings) : Mapping :=
  Setting.all.map fun setting => (setting.key, settings.value setting)

def sortedKeys (keys : List String) : List String :=
  keys.eraseDups.mergeSort fun a b => decide (a ≤ b)

def unknownKeys (keys : List String) : List String :=
  sortedKeys (keys.filter fun key => (Setting.ofKey? key).isNone)

-- The updates that the entries of a mapping ask for. Keys of no setting are left out.
def updates : Mapping → Except Failure (List Update)
  | [] => .ok []
  | (key, value) :: rest =>
    match Setting.ofKey? key with
    | none => updates rest
    | some setting => do return (← Update.ofDatum setting value) :: (← updates rest)

def apply (base : Settings) (mapping : Mapping) : Except Failure Settings :=
  match unknownKeys (mapping.map Prod.fst) with
  | [] => (updates mapping).map fun updates => updates.foldl Update.run base
  | unknown => .error (.config (.unknownKeys unknown))

def allTexts? : List Datum → Option (List String)
  | [] => some []
  | .text s :: items => (allTexts? items).map (s :: ·)
  | _ :: _ => none

-- The settings with the values of a document's section. An empty section changes nothing. Where
-- something else stands instead of a section, its characters or items are taken for keys.
def applySection (base : Settings) (content : Datum) : Except Failure Settings :=
  let asKeys := fun keys =>
    match unknownKeys keys with
    | [] => .error (.value .notTable)
    | unknown => .error (.config (.unknownKeys unknown))
  if content.isEmpty then .ok base
  else
    match content with
    | .table entries => base.apply entries
    | .text s => asKeys (s.toList.map String.singleton)
    | .list items =>
      match allTexts? items with
      | some keys => asKeys keys
      | none => .error (.value .notKeys)
    | _ => .error (.value .notKeys)

end Settings

end CatalogSync
