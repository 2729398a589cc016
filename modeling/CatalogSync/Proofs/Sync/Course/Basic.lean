import CatalogSync.Proofs.Catalog.Frame
import CatalogSync.Proofs.Sync.Calls.Batches
import CatalogSync.Proofs.Sync.Calls.Partitions
import CatalogSync.Proofs.Sync.Calls.Tables

namespace CatalogSync

namespace Operation

variable {σ : Type}

-- Whether there is nothing to do: no paths are given, or the session is over.
def isIdle (session : Session σ) : Operation → Bool
  | addPartitions _ paths | updatePartitions _ paths | dropPartitions _ paths => paths.isEmpty
  | close => session.isClosed
  | _ => false

-- Whether the operation may write with more than one call.
def isPiecemeal : Operation → Bool
  | addPartitions _ _ | dropPartitions _ _ => true
  | _ => false

-- Whether what is wrapped in the operation is more than the calls of its client.
def wrapsOwnWork : Operation → Bool
  | createTable _ | updateTable _ _ | dropPartitions _ _ | updateComments _ _ => true
  | _ => false

-- The table whose entry an operation reads first.
def readTable? : Operation → Option String
  | updateTable table _ | getSchema table _ | addPartitions table _ | updatePartitions table _
  | updateComments table _ => some table
  | createDatabase _ | createTable _ | dropPartitions _ _ | close => none

-- The database that an operation is said to work on when it fails.
def database (configured : String) : Operation → String
  | createDatabase name => if name = "" then configured else name
  | _ => configured

end Operation

namespace Executor

open CatalogSync.Action

variable {σ α : Type} (executor : Executor σ) (client : Client σ) (session : Session σ)

-- The client gives the entry of a table.
def Finds (table : String) (entry : Table) : Prop :=
  (client.answer (executor.reading table) session.catalog).1 = .ok entry

-- The calls of an operation in which nothing fails. If it needs the entry of a table it reads it
-- first. Then it writes: once, or for an addition once for each batch, or for a removal once for
-- each path.
inductive Plan : Operation → List Call → Prop
  | idle (operation : Operation) (hidle : operation.isIdle session = true) : Plan operation []
  | createDatabase (name : String) :
      Plan (.createDatabase name)
        [.createDatabase { name, description := some databaseDescription }]
  | createTable (request : TableRequest) (table : Table)
      (htable : executor.newTable request = .ok table) :
      Plan (.createTable request) [.createTable table]
  | updateTable (name : String) (schema : StorageSchema) (columns : List Column) (entry : Table)
      (hcolumns : executor.tableColumns schema = .ok columns)
      (hentry : executor.Finds client session name entry) :
      Plan (.updateTable name schema)
        [executor.reading name, executor.rewriting name entry columns executor.changeRequest]
  | getSchema (name : String) (milliseconds : Int) :
      Plan (.getSchema name milliseconds) [executor.reading name]
  | addPartitions (table : String) (paths : List String) (entry : Table)
      (specs : List PartitionSpec) (hpaths : paths ≠ [])
      (hentry : executor.Finds client session table entry)
      (hspecs : executor.specs entry paths = .ok specs) :
      Plan (.addPartitions table paths)
        (executor.reading table :: (executor.batches table entry specs).map sending)
  | updatePartitions (table : String) (paths : List String) (entry : Table)
      (specs : List PartitionSpec) (hpaths : paths ≠ [])
      (hentry : executor.Finds client session table entry)
      (hspecs : executor.specs entry paths = .ok specs) :
      Plan (.updatePartitions table paths)
        [executor.reading table, executor.repointing table entry specs]
  | dropPartitions (table : String) (paths : List String) (dropped : List (List String))
      (hdropped : paths.mapM executor.droppedValues = .ok dropped) :
      Plan (.dropPartitions table paths) (dropped.map (executor.dropping table))
  | updateComments (name : String) (updates : Dictionary String CommentUpdate) (entry : Table)
      (columns : List Column) (hentry : executor.Finds client session name entry)
      (hcolumns : entry.layout.columns.mapM (applyComment updates) = .ok columns) :
      Plan (.updateComments name updates)
        [executor.reading name, executor.rewriting name entry columns ∅]
  | close (hopen : session.isClosed = false) : Plan .close [.close]

-- What an operation may have done by the time it fails: nothing, or it has read the entry of its
-- table, or beyond that it has sent the first batches of an addition. A removal has dropped the
-- partitions of its first paths.
inductive Start : Operation → List Call → Prop
  | nothing (operation : Operation) : Start operation []
  | read (operation : Operation) (table : String) (htable : operation.readTable? = some table) :
      Start operation [executor.reading table]
  | addPartitions (table : String) (paths : List String) (entry : Table)
      (specs : List PartitionSpec) (sent : List (List Partition))
      (hentry : executor.Finds client session table entry)
      (hspecs : executor.specs entry paths = .ok specs)
      (hsent : sent <+: executor.batches table entry specs) :
      Start (.addPartitions table paths) (executor.reading table :: sent.map sending)
  | dropPartitions (table : String) (paths : List String) (k : Nat)
      (dropped : List (List String))
      (hdropped : (paths.take k).mapM executor.droppedValues = .ok dropped) :
      Start (.dropPartitions table paths) (dropped.map (executor.dropping table))

-- What an operation may find wrong with its own arguments, in view of the entry that it has read.
-- The client has no part in this.
inductive Flaw : Operation → Failure → Prop
  | createTable (request : TableRequest) (failure : Failure)
      (hflaw : executor.newTable request = .error failure) : Flaw (.createTable request) failure
  | updateTable (name : String) (schema : StorageSchema) (failure : Failure)
      (hflaw : executor.tableColumns schema = .error failure) :
      Flaw (.updateTable name schema) failure
  | addPartitions (table : String) (paths : List String) (entry : Table) (failure : Failure)
      (hentry : executor.Finds client session table entry)
      (hflaw : executor.specs entry paths = .error failure) :
      Flaw (.addPartitions table paths) failure
  | updatePartitions (table : String) (paths : List String) (entry : Table) (failure : Failure)
      (hentry : executor.Finds client session table entry)
      (hflaw : executor.specs entry paths = .error failure) :
      Flaw (.updatePartitions table paths) failure
  | dropPartitions (table : String) (paths : List String) (path : String) (failure : Failure)
      (hpath : path ∈ paths) (hflaw : executor.droppedValues path = .error failure) :
      Flaw (.dropPartitions table paths) failure
  | updateComments (name : String) (updates : Dictionary String CommentUpdate) (entry : Table)
      (failure : Failure) (hentry : executor.Finds client session name entry)
      (hflaw : entry.layout.columns.mapM (applyComment updates) = .error failure) :
      Flaw (.updateComments name updates) failure

-- What an operation reports of a failure in its wrapped part.
def wrapping (operation : Operation) (failure : Failure) : Failure :=
  reported (operation.database executor.settings.databaseName) operation.table? operation.kind
    failure

-- What an operation reports of a flaw.
def flawReport (operation : Operation) (failure : Failure) : Failure :=
  if operation.wrapsOwnWork then executor.wrapping operation failure else failure

-- What an operation may report of a call that fails. A batch that fails is always reported as such;
-- of all other calls the library's own failures are passed on, and the rest are reported as
-- failures of the operation on its target.
def Reports (operation : Operation) (call : Call) (failure report : Failure) : Prop :=
  if call.method = .addPartitions then
    ∃ failed : FailedBatch, report = failure.leadingTo (.batch failed) ∧
      failed.database = executor.settings.databaseName ∧
      some failed.table = operation.table? ∧ failed.operation = operation.kind.name
  else if failure.isOwn then report = failure
  else
    report = failure.leadingTo (.operation {
      database := operation.database executor.settings.databaseName
      table := operation.table?
      operation := operation.kind.name })

theorem reports_wrapping {operation : Operation} {call : Call}
    (hmethod : call.method ≠ .addPartitions) (failure : Failure) :
    executor.Reports operation call failure (executor.wrapping operation failure) := by
  rw [Reports, if_neg hmethod, wrapping, reported]
  split <;> rfl

-- How an operation goes: it completes its plan, or the client fails a call, or a flaw stops it.
inductive Course (operation : Operation) : List Call → Except Failure Unit → Prop
  | completed (calls : List Call) (hplan : executor.Plan client session operation calls)
      (haccepts : client.Accepts calls session.catalog) : Course operation calls (.ok ())
  | refused (done : List Call) (call : Call) (failure report : Failure)
      (haccepts : client.Accepts done session.catalog)
      (hfails : client.failure? call (client.after done session.catalog) = some failure)
      (hreport : executor.Reports operation call failure report)
      (hstart : executor.Start client session operation done) :
      Course operation (done ++ [call]) (.error report)
  | stopped (done : List Call) (failure : Failure)
      (haccepts : client.Accepts done session.catalog)
      (hflaw : executor.Flaw client session operation failure)
      (hstart : executor.Start client session operation done) :
      Course operation done (.error (executor.flawReport operation failure))

variable {client session}

-- A plan that is carried out up to its last call ends as the client answers this one.
theorem course_of_last_call {operation : Operation} (done : List Call) (call : Call)
    (hplan : executor.Plan client session operation (done ++ [call]))
    (haccepts : client.Accepts done session.catalog)
    (hmethod : call.method ≠ .addPartitions)
    (hstart : executor.Start client session operation done) {result : Except Failure Unit}
    (hresult : result = ((client.answer call (client.after done session.catalog)).1.mapError
      (executor.wrapping operation)).map fun _ => ()) :
    executor.Course client session operation (done ++ [call]) result := by
  subst hresult
  cases hr : (client.answer call (client.after done session.catalog)).1 with
  | ok reply =>
      refine .completed _ hplan ((client.accepts_append _ _ _).mpr ⟨haccepts, ?_, trivial⟩)
      exact (client.failure?_eq_none_iff _ _).mpr ⟨reply, hr⟩
  | error failure =>
      exact .refused done call failure _ haccepts
        ((client.failure?_eq_some_iff _ _ _).mpr hr) (executor.reports_wrapping hmethod failure)
        hstart

theorem course_of_wrapped_flaw {operation : Operation} {failure : Failure} (done : List Call)
    (hwraps : operation.wrapsOwnWork = true) (haccepts : client.Accepts done session.catalog)
    (hflaw : executor.Flaw client session operation failure)
    (hstart : executor.Start client session operation done) :
    executor.Course client session operation done
      (.error (executor.wrapping operation failure)) := by
  have hc := Course.stopped done failure haccepts hflaw hstart
  rwa [flawReport, if_pos hwraps] at hc

theorem course_of_bare_flaw {operation : Operation} {failure : Failure} (done : List Call)
    (hbare : operation.wrapsOwnWork = false) (haccepts : client.Accepts done session.catalog)
    (hflaw : executor.Flaw client session operation failure)
    (hstart : executor.Start client session operation done) :
    executor.Course client session operation done (.error failure) := by
  have hc := Course.stopped done failure haccepts hflaw hstart
  rwa [flawReport, if_neg (by simp [hbare])] at hc

-- An entry that the client gives has been read by an accepted call.
theorem accepts_reading {table : String} {entry : Table}
    (hentry : executor.Finds client session table entry) :
    client.Accepts [executor.reading table] session.catalog :=
  ⟨(client.failure?_eq_none_iff _ _).mpr ⟨entry, hentry⟩, trivial⟩

-- An operation that cannot read the entry of its table ends there.
theorem course_of_unread {operation : Operation} {table : String} {failure : Failure}
    (hr : (client.answer (executor.reading table) session.catalog).1 = .error failure) :
    executor.Course client session operation [executor.reading table]
      (.error (executor.wrapping operation failure)) := by
  have hmethod : (executor.reading table).method ≠ .addPartitions := by
    intro h
    cases h
  exact .refused [] _ failure _ trivial ((client.failure?_eq_some_iff _ _ _).mpr hr)
    (executor.reports_wrapping hmethod failure) (.nothing operation)

variable {executor}

-- An operation that writes at most once has not written anything when it fails.
theorem Start.isReading {operation : Operation} {calls : List Call}
    (h : executor.Start client session operation calls) (honce : operation.isPiecemeal = false) :
    ∀ call ∈ calls, call.isReading = true := by
  cases h with
  | nothing => exact List.forall_mem_nil _
  | read => exact List.forall_mem_singleton.mpr rfl
  | addPartitions | dropPartitions => cases honce

end Executor

end CatalogSync
