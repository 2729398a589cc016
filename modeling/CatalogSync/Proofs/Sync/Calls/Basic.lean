import CatalogSync.Proofs.Catalog.Store
import CatalogSync.Proofs.Sync.Action
import CatalogSync.Sync.Operation

namespace CatalogSync.Executor

open CatalogSync.Action

variable {σ α : Type} {client : Client σ} {before : σ} {calls : List Call}

-- What an operation reports if something in it fails.
def reported (database : String) (table : Option String) (kind : OperationKind)
    (failure : Failure) : Failure :=
  if failure.isOwn then failure
  else failure.leadingTo (.operation { database, table, operation := kind.name })

theorem makes_wrappedAs (database : String) (table : Option String) (kind : OperationKind)
    {action : Action σ α} {result : Except Failure α}
    (h : Makes client action before calls result) :
    Makes client (wrappedAs database table kind action) before calls
      (result.mapError (reported database table kind)) := by
  cases result with
  | ok a => exact h.orElse_ok
  | error failure =>
      change Makes client _ before calls (.error (reported database table kind failure))
      rw [← List.append_nil calls]
      refine h.orElse_error ?_
      by_cases ho : failure.isOwn
      · simp only [reported, ho, if_true]
        exact (makes_throw failure).bind_error
      · simp only [reported, ho]
        exact (makes_log _).bind (makes_throw _)

-- An executor for a bucket with one partition for every day, to state small facts with.
def daily (client : Client σ) (batchSize : Int) : Executor σ where
  settings := { basePath := "s3://lake/sales", partitionFields := ["day"], batchSize }
  extractor := PathForm.hiveStyle.extractor
  fileSystem := none
  client := some client
  translator := .arrow
  user := .ok "keeper"

-- What it makes of the path of a day.
def dailySpec (day : String) : PartitionSpec :=
  ⟨"day=" ++ day, [day], "s3://lake/sales/day=" ++ day⟩

-- A catalog with a table for it.
def dailyTable : Table where
  database := "default"
  name := "sales"
  layout := {}
  partitionKeys := [{ name := "day", type := "string" }]

def dailyStore : Store :=
  { Store.empty with tables := .ofList [(⟨"default", "sales"⟩, dailyTable)] }

variable (executor : Executor σ)

-- The key of a table in the configured database.
def tableKey (table : String) : TableKey := ⟨executor.settings.databaseName, table⟩

-- The call that reads the entry of a table.
def reading (table : String) : Call := .getTable executor.settings.databaseName table

theorem answer_reading {store : Store} {table : String} {entry : Table}
    (h : store.tables.get? (executor.tableKey table) = some entry) :
    Store.client.answer (executor.reading table) store = (.ok entry, store) :=
  Store.answer_getTable h

theorem makes_wrapped (table : Option String) (kind : OperationKind) {action : Action σ α}
    {result : Except Failure α} (h : Makes client action before calls result) :
    Makes client (executor.wrapped table kind action) before calls
      (result.mapError (reported executor.settings.databaseName table kind)) :=
  makes_wrappedAs _ table kind h

theorem makes_wrapped_ok (table : Option String) (kind : OperationKind) {action : Action σ α}
    {a : α} (h : Makes client action before calls (.ok a)) :
    Makes client (executor.wrapped table kind action) before calls (.ok a) :=
  makes_wrappedAs _ table kind h

theorem makes_wrapped_error (table : Option String) (kind : OperationKind) {action : Action σ α}
    {failure : Failure} (h : Makes client action before calls (.error failure)) :
    Makes client (executor.wrapped table kind action) before calls
      (.error (reported executor.settings.databaseName table kind failure)) :=
  makes_wrappedAs _ table kind h

variable (hclient : executor.client = some client)

include hclient

theorem makes_call (before : σ) (call : Call) :
    Makes client (executor.call call) before [call] (client.answer call before).1 := by
  rw [Executor.call, hclient]
  exact Action.makes_call call

theorem makes_wrapped_call (before : σ) (table : Option String) (kind : OperationKind)
    (call : Call) :
    Makes client (executor.wrapped table kind (executor.call call)) before [call]
      ((client.answer call before).1.mapError
        (reported executor.settings.databaseName table kind)) :=
  makes_wrappedAs _ table kind (executor.makes_call hclient before call)

-- An operation that reads a table first ends there if the table cannot be read, and goes on with
-- its entry otherwise.
theorem makes_read_error (table : String) (kind : OperationKind) (failure : Failure)
    (h : (client.answer (executor.reading table) before).1 = .error failure)
    (next : Table → Action σ α) :
    Makes client (executor.wrapped table kind (executor.getTable table) >>= next) before
      [executor.reading table]
      (.error (reported executor.settings.databaseName table kind failure)) := by
  have hr := executor.makes_wrapped_call hclient before table kind
    (executor.reading table)
  rw [h] at hr
  exact hr.bind_error

theorem makes_read_bind (table : String) (kind : OperationKind) (entry : Table)
    (h : (client.answer (executor.reading table) before).1 = .ok entry)
    {next : Table → Action σ α} {result : Except Failure α}
    (hn : Makes client (next entry) (client.answer (executor.reading table) before).2 calls
      result) :
    Makes client (executor.wrapped table kind (executor.getTable table) >>= next) before
      (executor.reading table :: calls) result := by
  have hr := executor.makes_wrapped_call hclient before table kind
    (executor.reading table)
  rw [h] at hr
  exact hr.bind hn

end CatalogSync.Executor
