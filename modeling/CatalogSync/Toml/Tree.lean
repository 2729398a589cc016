import CatalogSync.Datum.Basic

namespace CatalogSync.Toml

inductive Node where
  | value (datum : Datum)
  -- A table with the section that defined it.
  | table (definer : Option Nat) (entries : List (String × Node))
  -- A list of tables. Only the last one is added to.
  | tables (earlier : List (List (String × Node))) (last : List (String × Node))
deriving Inhabited

abbrev Entries := List (String × Node)

inductive Obstacle where
  -- A table or a list of tables that a section has defined, with the path to it.
  | defined (path : List String)
  | frozen
  -- The last key of the path is taken, by a list or a table that was given as a value or not.
  | taken (isFrozen : Bool)
  | value
deriving DecidableEq, Repr

def Obstacle.ofValue : Datum → Obstacle
  | .list _ | .table _ => .frozen
  | _ => .value

def Obstacle.ofNode : Node → Obstacle
  | .value datum => .taken (Obstacle.ofValue datum = .frozen)
  | _ => .taken false

def Obstacle.under (key : String) : Obstacle → Obstacle
  | defined path => .defined (key :: path)
  | obstacle => obstacle

namespace Entries

-- Changes what stands under a key, or puts something there.
def change (key : String) (f : Option Node → Except Obstacle Node) :
    Entries → Except Obstacle Entries
  | [] => do return [(key, ← (f none).mapError (·.under key))]
  | (k, node) :: rest => do
    if k = key then return (k, ← (f (some node)).mapError (·.under key)) :: rest
    return (k, node) :: (← change key f rest)

-- Changes the entries of the table that a path of keys leads to. Tables on the way are made if they
-- are missing.
def changeAt (f : Entries → Except Obstacle Entries) :
    List String → Entries → Except Obstacle Entries
  | [], entries => f entries
  | key :: path, entries =>
    entries.change key fun
      | none => do return .table none (← changeAt f path [])
      | some (.table definer inner) => do return .table definer (← changeAt f path inner)
      | some (.tables earlier last) => do return .tables earlier (← changeAt f path last)
      | some (.value datum) => .error (.ofValue datum)

def defineTable (ordinal : Nat) (key : String) (entries : Entries) : Except Obstacle Entries :=
  entries.change key fun
    | none => .ok (.table (some ordinal) [])
    | some (.table none inner) => .ok (.table (some ordinal) inner)
    | some (.table (some _) _) | some (.tables _ _) => .error (.defined [])
    | some (.value datum) => .error (.ofValue datum)

def appendTable (key : String) (entries : Entries) : Except Obstacle Entries :=
  entries.change key fun
    | none => .ok (.tables [] [])
    | some (.tables earlier last) => .ok (.tables (earlier ++ [last]) [])
    | some (.table _ _) => .error (.taken false)
    | some (.value datum) => .error (.ofValue datum)

def addValue (ordinal : Nat) (datum : Datum) : List String → Entries → Except Obstacle Entries
  | [], entries => .ok entries
  | [key], entries =>
    entries.change key fun
      | none => .ok (.value datum)
      | some node => .error (.ofNode node)
  | key :: path, entries =>
    entries.change key fun
      | none => do return .table (some ordinal) (← addValue ordinal datum path [])
      | some (.table definer inner) =>
        if (definer.getD ordinal) < ordinal then .error (.defined [])
        else do return .table (some ordinal) (← addValue ordinal datum path inner)
      | some (.tables _ _) => .error (.defined [])
      | some (.value datum) => .error (.ofValue datum)

end Entries

mutual

def Node.datum : Node → Datum
  | .value datum => datum
  | .table _ entries => .table (entryData entries)
  | .tables earlier last => .list (tableData earlier ++ [.table (entryData last)])

def entryData : List (String × Node) → List (String × Datum)
  | [] => []
  | (key, node) :: entries => (key, node.datum) :: entryData entries

def tableData : List (List (String × Node)) → List Datum
  | [] => []
  | entries :: rest => .table (entryData entries) :: tableData rest

end

end CatalogSync.Toml
