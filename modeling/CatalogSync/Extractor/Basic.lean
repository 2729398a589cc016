import CatalogSync.Failure
import CatalogSync.Numeral
import CatalogSync.Text.Split

namespace CatalogSync

open CatalogSync.Text

structure Extractor where
  typeName : String
  values : String → Except Failure (List String)

inductive PathForm where
  -- One segment per key, each a value or a key and a value.
  | multiPart
  -- A single segment with a key and a value.
  | hiveStyle
  -- The whole path is the value.
  | singlePart
  | slashDay
  | slashHour
  | nonPartitioned
deriving DecidableEq, Repr

namespace PathForm

def all : List PathForm := [multiPart, hiveStyle, singlePart, slashDay, slashHour, nonPartitioned]

def name : PathForm → String
  | multiPart => "multi_part_keys"
  | hiveStyle => "hive_style"
  | singlePart => "single_part"
  | slashDay => "slash_encoded_day"
  | slashHour => "slash_encoded_hour"
  | nonPartitioned => "non_partitioned"

def typeName : PathForm → String
  | multiPart => "MultiPartKeysValueExtractor"
  | hiveStyle => "HiveStylePartitionValueExtractor"
  | singlePart => "SinglePartPartitionValueExtractor"
  | slashDay => "SlashEncodedDayPartitionValueExtractor"
  | slashHour => "SlashEncodedHourPartitionValueExtractor"
  | nonPartitioned => "NonPartitionedExtractor"

-- The value of a segment. With an equals sign in it the segment must be a key and a value.
def segmentValue (segment : String) : Except Failure String :=
  match split '=' segment with
  | [value] => .ok value
  | [_, value] => if value = "" then .error (.values (.segment segment)) else .ok value
  | _ => .error (.values (.segment segment))

def multiPartValues (path : String) : Except Failure (List String) :=
  if path = "" then .ok [] else (split '/' (trimSlashes path)).mapM segmentValue

-- The value after the only equals sign.
def hiveStyleValues (path : String) : Except Failure (List String) :=
  let refused : Failure := .values (.form path "key=value")
  match split '=' (trimSlashes path) with
  | [_, value] => if value = "" then .error refused else .ok [value]
  | _ => .error refused

def dateNumbers : List String → Except Failure (List Int)
  | [] => .ok []
  | segment :: segments =>
    match Numeral.read? segment with
    | none => .error (.value (.numeral segment))
    | some n => (dateNumbers segments).map (n :: ·)

-- A date with a year of four digits and all other numbers of two.
def dateValue : List Int → String
  | [] => ""
  | year :: rest =>
    let digits := fun width n => String.ofList (Numeral.padded width n)
    "-".intercalate (digits 4 year :: rest.map (digits 2))

def slashValues (count : Nat) (form path : String) : Except Failure (List String) :=
  let segments := split '/' (trimSlashes path)
  if segments.length ≠ count then .error (.values (.form path form))
  else
    match dateNumbers segments with
    | .error failure => .error (failure.leadingTo (.values (.form path form)))
    | .ok numbers => .ok [dateValue numbers]

def values : PathForm → String → Except Failure (List String)
  | multiPart, path => multiPartValues path
  | hiveStyle, path => hiveStyleValues path
  | singlePart, path => .ok [path]
  | slashDay, path => slashValues 3 "yyyy/mm/dd" path
  | slashHour, path => slashValues 4 "yyyy/mm/dd/hh" path
  | nonPartitioned, _ => .ok []

def extractor (form : PathForm) : Extractor := ⟨form.typeName, form.values⟩

end PathForm

-- Reads the values of a path and checks that there is one for each partition key, if the keys are
-- known.
def Extractor.extract (extractor : Extractor) (path : String) (keys : Option (List String)) :
    Except Failure (List String) := do
  let values ← extractor.values path
  match keys with
  | none => .ok values
  | some keys =>
    if values.length = keys.length then .ok values
    else .error (.values (.count path values keys))

end CatalogSync
