import CatalogSync.Proofs.Catalog.Service
import CatalogSync.Proofs.Sync.Addition
import CatalogSync.Proofs.Sync.Course.Operations

namespace CatalogSync.Executor

open CatalogSync.Action

variable {σ α : Type} (executor : Executor σ)

-- The table's entry with new columns, which its partitions get too if there can be any.
def withUpdated (store : Store) (name : String) (entry : Table) (columns : List Column) : Store :=
  { store with
    tables := store.tables.insert (executor.tableKey name) (entry.withColumns columns)
    partitions :=
      if executor.settings.partitionFields = [] then store.partitions
      else Store.cascade (executor.tableKey name) columns store.partitions }

-- Everything that an operation may do to the entries of a catalog. Partitions are added and
-- dropped in the order of their paths, and either may stop on the way.
inductive Change (before : Store) : Operation → Store → Prop
  | unchanged (operation : Operation) : Change before operation before
  | databaseCreated (name : String) (database : Database)
      (hnew : before.databases.get? database.name = none) :
      Change before (.createDatabase name)
        { before with databases := before.databases.insert database.name database }
  | tableCreated (request : TableRequest) (table : Table)
      (htable : executor.newTable request = .ok table)
      (hnew : before.tables.get? ⟨table.database, table.name⟩ = none) :
      Change before (.createTable request)
        { before with tables := before.tables.insert ⟨table.database, table.name⟩ table }
  | tableUpdated (name : String) (schema : StorageSchema) (columns : List Column) (entry : Table)
      (hentry : before.tables.get? (executor.tableKey name) = some entry) :
      Change before (.updateTable name schema) (executor.withUpdated before name entry columns)
  | added (table : String) (paths : List String) (entry : Table) (specs : List PartitionSpec)
      (k : Nat) (hentry : before.tables.get? (executor.tableKey table) = some entry)
      (hspecs : executor.specs entry paths = .ok specs) :
      Change before (.addPartitions table paths)
        (before.withAdded ((specs.map (executor.partition table entry.layout)).take k))
  | repointed (table : String) (paths : List String) (entry : Table) (specs : List PartitionSpec)
      (hentry : before.tables.get? (executor.tableKey table) = some entry)
      (hspecs : executor.specs entry paths = .ok specs) :
      Change before (.updatePartitions table paths)
        { before with
          partitions := Store.replaceAll (executor.tableKey table) before.partitions
            (specs.map (executor.partition table entry.layout)) }
  | dropped (table : String) (paths : List String) (k : Nat) (dropped : List (List String))
      (hdropped : (paths.take k).mapM executor.droppedValues = .ok dropped) :
      Change before (.dropPartitions table paths)
        (before.withDropped (executor.tableKey table) dropped)
  | commented (name : String) (updates : Dictionary String CommentUpdate) (entry : Table)
      (columns : List Column)
      (hentry : before.tables.get? (executor.tableKey name) = some entry)
      (hcolumns : entry.layout.columns.mapM (applyComment updates) = .ok columns) :
      Change before (.updateComments name updates)
        { before with
          tables := before.tables.insert (executor.tableKey name) (entry.withColumns columns) }

-- A change of columns is passed on to the partitions if and only if there can be any.
theorem isCascading_changeRequest :
    isCascading executor.changeRequest = true ↔ executor.settings.partitionFields ≠ [] := by
  unfold changeRequest
  cases executor.settings.partitionFields with
  | nil => simp [isCascading]
  | cons field fields =>
      have hc : isCascading cascadeRequest = true := by decide
      simp [hc]

variable {executor} {client : Client σ} {view : σ → Store}

section Calls

variable (hserves : client.Serves view) {session : Session σ} {operation : Operation}
  {calls : List Call}

include hserves

-- What the call that replaces the columns of a table leaves, if the entry has been read before.
private theorem view_rewriting {name : String} {entry : Table} {columns : List Column}
    {request : Properties}
    (haccepts : client.Accepts
      [executor.reading name, executor.rewriting name entry columns request] session.catalog) :
    view (client.after [executor.reading name, executor.rewriting name entry columns request]
        session.catalog) =
      { view session.catalog with
        tables :=
          (view session.catalog).tables.insert (executor.tableKey name) (entry.withColumns columns)
        partitions :=
          if isCascading request then
            Store.cascade (executor.tableKey name) columns (view session.catalog).partitions
          else (view session.catalog).partitions } := by
  obtain ⟨-, hwrite, -⟩ := haccepts
  obtain ⟨reply, ha⟩ := hserves.exists_answer _ hwrite
  have hv := hserves.view_getTable session.catalog executor.settings.databaseName name
  rw [Client.after, client.after_singleton, Store.answer_alterTable_ok ha, reading, hv]
  rfl

-- What an update of a table leaves when its calls are carried out.
theorem view_after_updateTable {name : String} {entry : Table} {columns : List Column}
    (haccepts : client.Accepts
      [executor.reading name, executor.rewriting name entry columns executor.changeRequest]
      session.catalog) :
    view (client.after
        [executor.reading name, executor.rewriting name entry columns executor.changeRequest]
        session.catalog) =
      executor.withUpdated (view session.catalog) name entry columns := by
  rw [view_rewriting hserves haccepts]
  by_cases hf : executor.settings.partitionFields = []
  · simp [withUpdated, isCascading_changeRequest, hf]
  · simp [withUpdated, isCascading_changeRequest, hf]

-- What an operation has done by the time it fails.
theorem change_of_start (h : executor.Start client session operation calls)
    (haccepts : client.Accepts calls session.catalog) :
    executor.Change (view session.catalog) operation
      (view (client.after calls session.catalog)) := by
  cases h with
  | nothing => exact .unchanged _
  | read operation table _ =>
      have hv := hserves.view_getTable session.catalog executor.settings.databaseName table
      rw [client.after_singleton, reading, hv]
      exact .unchanged _
  | addPartitions table paths entry specs sent hentry hspecs hsent =>
      obtain ⟨hstored, hv⟩ := hserves.getTable_ok _ hentry
      obtain ⟨rest, hrest⟩ := hsent
      have hflatten := executor.flatten_batches table entry specs
      rw [← hrest, List.flatten_append] at hflatten
      have hadded := Change.added table paths entry specs sent.flatten.length hstored hspecs
      rw [← hflatten, List.take_left] at hadded
      have hafter := hserves.view_after_addPartitions sent _ haccepts.2
      rw [reading, hv] at hafter
      exact hafter ▸ hadded
  | dropPartitions table paths k dropped hdropped =>
      have hafter := hserves.view_after_dropPartition _ _ dropped _ haccepts
      exact hafter ▸ .dropped table paths k dropped hdropped

-- What an operation has done when it succeeds.
theorem change_of_plan (h : executor.Plan client session operation calls)
    (haccepts : client.Accepts calls session.catalog) :
    executor.Change (view session.catalog) operation
      (view (client.after calls session.catalog)) := by
  cases h with
  | idle => exact .unchanged _
  | createDatabase name =>
      obtain ⟨reply, ha⟩ := hserves.exists_answer _ haccepts.1
      obtain ⟨hnew, hafter⟩ := Store.answer_createDatabase_ok ha
      rw [client.after_singleton, hafter]
      exact .databaseCreated name _ hnew
  | createTable request table htable =>
      obtain ⟨reply, ha⟩ := hserves.exists_answer _ haccepts.1
      obtain ⟨hnew, hafter⟩ := Store.answer_createTable_ok ha
      rw [client.after_singleton, hafter]
      exact .tableCreated request table htable hnew
  | updateTable name schema columns entry _ hentry =>
      obtain ⟨hstored, -⟩ := hserves.getTable_ok _ hentry
      rw [view_after_updateTable hserves haccepts]
      exact .tableUpdated name schema columns entry hstored
  | getSchema name => exact change_of_start hserves (.read _ name rfl) haccepts
  | addPartitions table paths entry specs _ hentry hspecs =>
      have hstart := Start.addPartitions table paths entry specs _ hentry hspecs List.prefix_rfl
      exact change_of_start hserves hstart haccepts
  | updatePartitions table paths entry specs _ hentry hspecs =>
      obtain ⟨hstored, hv⟩ := hserves.getTable_ok _ hentry
      obtain ⟨reply, ha⟩ := hserves.exists_answer _ haccepts.2.1
      obtain ⟨-, hafter⟩ := Store.answer_alterPartitions_ok ha
      rw [Client.after, client.after_singleton, hafter, reading, hv]
      exact .repointed table paths entry specs hstored hspecs
  | dropPartitions table paths dropped hdropped =>
      rw [← List.take_length (l := paths)] at hdropped
      exact change_of_start hserves (.dropPartitions table paths _ dropped hdropped) haccepts
  | updateComments name updates entry columns hentry hcolumns =>
      obtain ⟨hstored, -⟩ := hserves.getTable_ok _ hentry
      rw [view_rewriting hserves haccepts]
      exact .commented name updates entry columns hstored hcolumns
  | close =>
      rw [client.after_singleton, hserves.view_close]
      exact .unchanged _

end Calls

-- Whatever an operation does, and however it ends, it changes the catalog in one of these ways.
theorem change_perform (executor : Executor σ) (hclient : executor.client = some client)
    (hserves : client.Serves view) (operation : Operation) (session : Session σ) :
    executor.Change (view session.catalog) operation
      (view ((operation.perform executor).perform session).2.catalog) := by
  obtain ⟨calls, hcourse, -, hcatalog⟩ := executor.takes_perform hclient session operation
  rw [hcatalog]
  generalize ((operation.perform executor).perform session).1 = result at hcourse
  cases hcourse with
  | completed _ hplan haccepts => exact change_of_plan hserves hplan haccepts
  | refused done call failure _ haccepts hfails _ hstart =>
      rw [client.after_append, client.after_singleton, hserves.keeps _ _ failure hfails]
      exact change_of_start hserves hstart haccepts
  | stopped _ _ haccepts _ hstart => exact change_of_start hserves hstart haccepts

section Outcomes

variable (hclient : executor.client = some client) (hserves : client.Serves view)
  {session : Session σ}

include hclient hserves

-- An operation that writes at most once changes nothing when it fails.
theorem view_of_error {operation : Operation} (honce : operation.isPiecemeal = false)
    {failure : Failure}
    (h : ((operation.perform executor).perform session).1 = .error failure) :
    view ((operation.perform executor).perform session).2.catalog = view session.catalog := by
  obtain ⟨calls, hcourse, -, hcatalog⟩ := executor.takes_perform hclient session operation
  rw [hcatalog]
  rw [h] at hcourse
  cases hcourse with
  | refused done call failure _ _ hfails _ hstart =>
      rw [Client.after_append, Client.after_singleton]
      exact (hserves.keeps call _ failure hfails).trans
        (hserves.view_after_readings done (hstart.isReading honce) session.catalog)
  | stopped _ failure _ _ hstart =>
      exact hserves.view_after_readings calls (hstart.isReading honce) session.catalog

theorem updateTable_ok {name : String} {update : StorageSchema}
    (h : ((executor.updateTable name update).perform session).1 = .ok ()) :
    ∃ columns entry,
      executor.tableColumns update = .ok columns ∧
      (view session.catalog).tables.get? (executor.tableKey name) = some entry ∧
      view ((executor.updateTable name update).perform session).2.catalog =
        executor.withUpdated (view session.catalog) name entry columns := by
  obtain ⟨calls, hcourse, -, hcatalog⟩ := executor.takes_updateTable hclient session name update
  rw [hcatalog]
  rw [h] at hcourse
  cases hcourse with
  | completed _ hplan haccepts =>
      cases hplan with
      | idle _ hidle => cases hidle
      | updateTable _ _ columns entry hcolumns hentry =>
          obtain ⟨hstored, -⟩ := hserves.getTable_ok _ hentry
          exact ⟨columns, entry, hcolumns, hstored, view_after_updateTable hserves haccepts⟩

theorem updateComments_ok {name : String} {updates : Dictionary String CommentUpdate}
    (h : ((executor.updateComments name updates).perform session).1 = .ok ()) :
    ∃ entry columns,
      (view session.catalog).tables.get? (executor.tableKey name) = some entry ∧
      entry.layout.columns.mapM (applyComment updates) = .ok columns ∧
      view ((executor.updateComments name updates).perform session).2.catalog =
        { view session.catalog with
          tables := (view session.catalog).tables.insert (executor.tableKey name)
            (entry.withColumns columns) } := by
  obtain ⟨calls, hcourse, -, hcatalog⟩ :=
    executor.takes_updateComments hclient session name updates
  rw [hcatalog]
  rw [h] at hcourse
  cases hcourse with
  | completed _ hplan haccepts =>
      cases hplan with
      | idle _ hidle => cases hidle
      | updateComments _ _ entry columns hentry hcolumns =>
          obtain ⟨hstored, -⟩ := hserves.getTable_ok _ hentry
          exact ⟨entry, columns, hstored, hcolumns, view_rewriting hserves haccepts⟩

-- A table that is created was not there before and is stored as it is given back.
theorem createTable_ok {request : TableRequest} {created : Table}
    (h : ((executor.createTable request).perform session).1 = .ok created) :
    executor.newTable request = .ok created ∧
      (view session.catalog).tables.get? (executor.tableKey request.name) = none ∧
      view ((executor.createTable request).perform session).2.catalog =
        { view session.catalog with
          tables :=
            (view session.catalog).tables.insert (executor.tableKey request.name) created } := by
  cases hn : executor.newTable request with
  | error failure =>
      have hm : Action.Makes client _ session.catalog _ _ :=
        executor.makes_createTable_invalid request failure hn
      exact nomatch (hm session rfl).1.symm.trans h
  | ok table =>
      obtain ⟨hr, -, ht⟩ :=
        executor.makes_createTable hclient session.catalog request table hn session rfl
      cases ha : (client.answer (.createTable table) session.catalog).1 with
      | error failure =>
          rw [ha] at hr
          exact nomatch hr.symm.trans h
      | ok reply =>
          rw [ha] at hr
          obtain rfl : table = created := Except.ok.inj (hr.symm.trans h)
          obtain ⟨-, hdatabase, hname, -⟩ := newTable_ok hn
          have hafter := hserves.answer_ok _ _ _ ha
          obtain ⟨hnew, hstore⟩ := Store.answer_createTable_ok hafter
          rw [hdatabase, hname] at hnew hstore
          exact ⟨rfl, hnew, by rw [ht, Client.after_singleton, hstore, tableKey]⟩

end Outcomes

section Uninterrupted

variable {executor : Executor Store} (hclient : executor.client = some Store.client)
  {name : String} {session : Session Store} {entry : Table} {columns : List Column}
  (hentry : session.catalog.tables.get? (executor.tableKey name) = some entry)

include hentry

-- The catalog takes any new columns for a table that it has.
theorem answer_rewriting (request : Properties) :
    (Store.client.answer (executor.rewriting name entry columns request)
      session.catalog).1 = .ok () := by
  have hc : session.catalog.tables.contains (executor.tableKey name) = true :=
    (Dictionary.contains_eq_true_iff _ _).mpr ⟨entry, hentry⟩
  exact congrArg Prod.fst (if_pos hc)

include hclient

theorem updateTable_uninterrupted {update : StorageSchema}
    (hcolumns : executor.tableColumns update = .ok columns) :
    ((executor.updateTable name update).perform session).1 = .ok () ∧
      ((executor.updateTable name update).perform session).2.catalog =
        executor.withUpdated session.catalog name entry columns := by
  have hread := executor.answer_reading hentry
  have hm := executor.makes_updateTable hclient name update columns hcolumns entry
    (congrArg Prod.fst hread)
  have hok : ((executor.updateTable name update).perform session).1 = .ok () := by
    rw [(hm session rfl).1, hread, answer_rewriting hentry]
    rfl
  obtain ⟨other, found, hother, hfound, hafter⟩ :=
    updateTable_ok hclient Client.serves_store hok
  obtain rfl := Except.ok.inj (hother.symm.trans hcolumns)
  obtain rfl := Option.some.inj (hfound.symm.trans hentry)
  exact ⟨hok, hafter⟩

theorem updateComments_uninterrupted {updates : Dictionary String CommentUpdate}
    (hcolumns : entry.layout.columns.mapM (applyComment updates) = .ok columns) :
    ((executor.updateComments name updates).perform session).1 = .ok () ∧
      ((executor.updateComments name updates).perform session).2.catalog =
        { session.catalog with
          tables := session.catalog.tables.insert (executor.tableKey name)
            (entry.withColumns columns) } := by
  have hread := executor.answer_reading hentry
  have hm := executor.makes_updateComments hclient name updates entry (congrArg Prod.fst hread)
    columns hcolumns
  have hok : ((executor.updateComments name updates).perform session).1 = .ok () := by
    rw [(hm session rfl).1, hread, answer_rewriting hentry]
    rfl
  obtain ⟨found, other, hfound, hother, hafter⟩ :=
    updateComments_ok hclient Client.serves_store hok
  obtain rfl := Option.some.inj (hfound.symm.trans hentry)
  obtain rfl := Except.ok.inj (hother.symm.trans hcolumns)
  exact ⟨hok, hafter⟩

end Uninterrupted

end CatalogSync.Executor
