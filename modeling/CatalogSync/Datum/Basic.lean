import CatalogSync.Calendar
import CatalogSync.Decimal.Binary64

namespace CatalogSync

inductive Datum where
  | null
  | boolean (value : Bool)
  | integer (value : Int)
  | float (value : Binary64)
  | text (value : String)
  | date (value : Date)
  | time (value : TimeOfDay)
  | moment (value : Moment)
  | list (items : List Datum)
  | table (entries : List (String × Datum))
deriving Repr, Inhabited

namespace Datum

-- Whether the value is empty: a missing, false, zero or empty one.
def isEmpty : Datum → Bool
  | null => true
  | boolean b => !b
  | integer n => n == 0
  | float x => x.isZero
  | text s => s.isEmpty
  | list items => items.isEmpty
  | table entries => entries.isEmpty
  | date _ | time _ | moment _ => false

def field? (key : String) : Datum → Option Datum
  | table entries => entries.lookup key
  | _ => none

end Datum

end CatalogSync
