import CatalogSync.Datum.Basic
import CatalogSync.Decimal.Text
import CatalogSync.Text.Quoted

namespace CatalogSync.Datum

open CatalogSync.Text

def commaSeparated (parts : List String) : String := ", ".intercalate parts

def listLiteral (texts : List String) : String :=
  "[" ++ commaSeparated (texts.map quoted) ++ "]"

-- Texts in parentheses. A single one is followed by a comma.
def tupleLiteral : List String → String
  | [s] => "(" ++ quoted s ++ ",)"
  | texts => "(" ++ commaSeparated (texts.map quoted) ++ ")"

-- The parts of a time: hour and minute always, the second and the microsecond only up to the last
-- one that is not zero.
def timeParts (time : TimeOfDay) : List String :=
  let seconds := if time.second = 0 ∧ time.microsecond = 0 then [] else [toString time.second]
  let fraction := if time.microsecond = 0 then [] else [toString time.microsecond]
  [toString time.hour, toString time.minute] ++ seconds ++ fraction

def dateParts (date : Date) : List String :=
  [toString date.year, toString date.month, toString date.day]

-- An offset. West of universal time the days are counted down and the seconds up.
def zoneLiteral (minutes : Int) : String :=
  let seconds := minutes * 60
  if seconds = 0 then "datetime.timezone.utc"
  else if seconds < 0 then
    "datetime.timezone(datetime.timedelta(days=-1, seconds=" ++ toString (seconds + 86400) ++ "))"
  else "datetime.timezone(datetime.timedelta(seconds=" ++ toString seconds ++ "))"

def momentLiteral (moment : Moment) : String :=
  let zone := (moment.offset.map fun minutes => ["tzinfo=" ++ zoneLiteral minutes]).getD []
  "datetime.datetime(" ++ commaSeparated (dateParts moment.date ++ timeParts moment.time ++ zone) ++
    ")"

mutual

def literal : Datum → String
  | null => "None"
  | boolean true => "True"
  | boolean false => "False"
  | integer n => toString n
  | float x => .ofList x.text
  | text s => quoted s
  | date d => "datetime.date(" ++ commaSeparated (dateParts d) ++ ")"
  | time t => "datetime.time(" ++ commaSeparated (timeParts t) ++ ")"
  | moment m => momentLiteral m
  | list items => "[" ++ commaSeparated (literals items) ++ "]"
  | table entries => "\x7b" ++ commaSeparated (entryLiterals entries) ++ "\x7d"

def literals : List Datum → List String
  | [] => []
  | item :: items => literal item :: literals items

def entryLiterals : List (String × Datum) → List String
  | [] => []
  | (key, value) :: entries => (quoted key ++ ": " ++ literal value) :: entryLiterals entries

end

mutual

-- Whether the value can be written: no whole number in it has too many digits.
def isWritable : Datum → Bool
  | integer n => !Numeral.isTooLong n
  | list items => areWritable items
  | table entries => entriesAreWritable entries
  | _ => true

def areWritable : List Datum → Bool
  | [] => true
  | item :: items => isWritable item && areWritable items

def entriesAreWritable : List (String × Datum) → Bool
  | [] => true
  | (_, value) :: entries => isWritable value && entriesAreWritable entries

end

-- The value without quotes around a text.
def plain : Datum → String
  | text s => s
  | date d => .ofList d.text
  | time t => .ofList t.text
  | moment m => .ofList m.text
  | value => value.literal

end CatalogSync.Datum
