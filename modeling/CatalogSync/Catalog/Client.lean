import CatalogSync.Catalog.Record
import CatalogSync.Failure

namespace CatalogSync

inductive Call where
  | createDatabase (database : Database)
  | createTable (table : Table)
  | getTable (database name : String)
  | alterTable (database name : String) (table : Table) (request : Option Properties)
  | addPartitions (partitions : List Partition) (ifNotExists needResult : Bool)
  | alterPartitions (database table : String) (partitions : List Partition)
      (request : Option Properties)
  | dropPartition (database table : String) (values : List String) (deleteData : Bool)
  | close
deriving Repr

inductive Call.Method where
  | createDatabase
  | createTable
  | getTable
  | alterTable
  | addPartitions
  | alterPartitions
  | dropPartition
  | close
deriving DecidableEq, Repr

namespace Call

-- What answers a call. Only reading a table gives something back.
abbrev Reply : Call → Type
  | getTable _ _ => Table
  | _ => Unit

def method : Call → Method
  | createDatabase _ => .createDatabase
  | createTable _ => .createTable
  | getTable _ _ => .getTable
  | alterTable .. => .alterTable
  | addPartitions .. => .addPartitions
  | alterPartitions .. => .alterPartitions
  | dropPartition .. => .dropPartition
  | close => .close

def changesPartitions : Call → Bool
  | addPartitions .. | alterPartitions .. | dropPartition .. => true
  | _ => false

end Call

structure Client (σ : Type) where
  answer : (call : Call) → σ → Except Failure call.Reply × σ

-- Fails calls before they have any effect, with states in `τ`.
structure Interruption (τ : Type) where
  strike : Call → τ → Option Failure × τ

-- The client with some of its calls failing. A call that fails changes nothing.
def Client.interrupted {σ τ : Type} (client : Client σ) (interruption : Interruption τ) :
    Client (σ × τ) where
  answer call state :=
    match interruption.strike call state.2 with
    | (some failure, after) => (.error failure, state.1, after)
    | (none, after) =>
      let (reply, catalog) := client.answer call state.1
      (reply, catalog, after)

-- A failure that is due when `count` calls of a method have been made.
structure PendingFailure where
  method : Call.Method
  count : Nat
  failure : Failure
deriving Repr

namespace PendingFailure

-- Counts a call. The first failure that is due strikes, and those behind it do not count the call.
def strike (method : Call.Method) : List PendingFailure → Option Failure × List PendingFailure
  | [] => (none, [])
  | pending :: rest =>
    if pending.method = method ∧ pending.count = 1 then (some pending.failure, rest)
    else
      let (failure, rest) := strike method rest
      let count := if pending.method = method then pending.count - 1 else pending.count
      (failure, { pending with count } :: rest)

def interruption : Interruption (List PendingFailure) where
  strike call pending := strike call.method pending

end PendingFailure

end CatalogSync
