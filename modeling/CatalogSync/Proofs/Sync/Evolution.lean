import CatalogSync.Proofs.Sync.Change

namespace CatalogSync

namespace Store

theorem keys_cascade (key : TableKey) (columns : List Column)
    (partitions : Dictionary PartitionKey Partition) :
    (cascade key columns partitions).keys = partitions.keys :=
  Dictionary.keys_map partitions _

theorem cascade_cascade (key : TableKey) (first second : List Column)
    (partitions : Dictionary PartitionKey Partition) :
    cascade key second (cascade key first partitions) = cascade key second partitions := by
  rw [cascade, cascade, cascade, Dictionary.map_map]
  congr 1
  funext other partition
  by_cases hk : other.table = key
  · simp [hk, Layout.withColumns]
  · simp [hk]

end Store

namespace Executor

variable {σ : Type} (executor : Executor σ)

-- The entry of a table has other columns and is otherwise as before, and besides the table nothing
-- is changed.
structure Rewrites (name : String) (entry : Table) (columns : List Column)
    (before after : Store) : Prop where
  besides : after.besides (.table (executor.tableKey name)) =
    before.besides (.table (executor.tableKey name))
  tableKeys : after.tables.keys = before.tables.keys
  entry : after.tables.get? (executor.tableKey name) =
    some { entry with layout := { entry.layout with columns } }

-- So has every partition of the table, if there are partition fields. Otherwise the partitions are
-- as before.
structure Evolves (name : String) (entry : Table) (columns : List Column)
    (before after : Store) : Prop extends executor.Rewrites name entry columns before after where
  partitionKeys : after.partitions.keys = before.partitions.keys
  partitioned : executor.settings.partitionFields ≠ [] → ∀ values partition,
    before.partitions.get? ⟨executor.tableKey name, values⟩ = some partition →
    after.partitions.get? ⟨executor.tableKey name, values⟩ =
      some { partition with layout := { partition.layout with columns } }
  unpartitioned : executor.settings.partitionFields = [] → after.partitions = before.partitions

variable {executor} {name : String} {entry : Table} {store : Store}

theorem rewrites_insert (hentry : store.tables.get? (executor.tableKey name) = some entry)
    (columns : List Column) (partitions : Dictionary PartitionKey Partition)
    (hpartitions : partitions.restrict (fun key => key.table ≠ executor.tableKey name) =
      store.partitions.restrict fun key => key.table ≠ executor.tableKey name) :
    executor.Rewrites name entry columns store { store with
      tables := store.tables.insert (executor.tableKey name) (entry.withColumns columns)
      partitions } := by
  have hcontains : store.tables.contains (executor.tableKey name) = true :=
    (Dictionary.contains_eq_true_iff _ _).mpr ⟨entry, hentry⟩
  have hmem := (Dictionary.mem_keys_iff _ _).mpr hcontains
  refine { besides := ?_, tableKeys := ?_, entry := ?_ }
  · simp only [Store.besides, hpartitions]
    rw [Dictionary.restrict_insert _ _ _ _ (by simp)]
  · rw [Dictionary.keys_insert, if_pos hmem]
  · rw [Dictionary.get?_insert, if_pos rfl]
    rfl

theorem evolves_withUpdated (hentry : store.tables.get? (executor.tableKey name) = some entry)
    (columns : List Column) :
    executor.Evolves name entry columns store (executor.withUpdated store name entry columns) := by
  refine { toRewrites := ?_, partitionKeys := ?_, partitioned := ?_, unpartitioned := ?_ }
  · apply rewrites_insert hentry
    split
    · rfl
    · exact Store.restrict_cascade _ _ _
  · rw [withUpdated]
    dsimp only
    split
    · rfl
    · exact Store.keys_cascade _ _ _
  · intro hfields values partition hpartition
    simp [withUpdated, hfields, Store.get?_cascade, hpartition, Layout.withColumns]
  · intro hfields
    simp [withUpdated, hfields]

-- Of two changes of the columns of a table the second one counts.
theorem withUpdated_withUpdated (first second : List Column) :
    executor.withUpdated (executor.withUpdated store name entry first) name
        (entry.withColumns first) second =
      executor.withUpdated store name entry second := by
  have hentry : (entry.withColumns first).withColumns second = entry.withColumns second := rfl
  by_cases hfields : executor.settings.partitionFields = []
  · simp [withUpdated, hfields, hentry, Dictionary.insert_insert]
  · simp [withUpdated, hfields, hentry, Dictionary.insert_insert, Store.cascade_cascade]

section Uninterrupted

variable {executor : Executor Store} (hclient : executor.client = some Store.client)

include hclient

-- What the next update leaves does not depend on updates before it, so the last one of any number
-- of updates leaves what it leaves alone.
theorem withUpdated_run (name : String) (schemas : List StorageSchema) (session : Session Store)
    (entry : Table) (hentry : session.catalog.tables.get? (executor.tableKey name) = some entry) :
    let store := (Operation.run executor (schemas.map (.updateTable name)) session).catalog
    ∃ found, store.tables.get? (executor.tableKey name) = some found ∧
      ∀ columns, executor.withUpdated store name found columns =
        executor.withUpdated session.catalog name entry columns := by
  induction schemas generalizing session entry with
  | nil => exact ⟨entry, hentry, fun _ => rfl⟩
  | cons schema schemas ih =>
      let operation := Operation.updateTable name schema
      let next := ((operation.perform executor).perform session).2
      cases hr : ((operation.perform executor).perform session).1 with
      | error failure =>
          have hkept : next.catalog = session.catalog :=
            view_of_error hclient Client.serves_store rfl hr
          obtain ⟨found, hfound, hnext⟩ := ih next entry (hkept ▸ hentry)
          exact ⟨found, hfound, fun columns => (hnext columns).trans (by rw [hkept])⟩
      | ok done =>
          obtain ⟨columns, stored, -, hstored, hafter⟩ :=
            updateTable_ok hclient Client.serves_store hr
          obtain rfl := Option.some.inj (hstored.symm.trans hentry)
          have hafter : next.catalog = executor.withUpdated session.catalog name stored columns :=
            hafter
          have hchanged : next.catalog.tables.get? (executor.tableKey name) =
              some (stored.withColumns columns) := by
            rw [hafter, withUpdated, Dictionary.get?_insert, if_pos rfl]
          obtain ⟨found, hfound, hnext⟩ := ih next _ hchanged
          refine ⟨found, hfound, fun others => (hnext others).trans ?_⟩
          rw [hafter]
          exact withUpdated_withUpdated columns others

end Uninterrupted

-- An update to a schema with a translation gives the table, and its partitions if there can be
-- any, exactly the columns of this schema and changes nothing else. Updates of the table before it
-- leave no trace.
theorem updateTable_evolves (executor : Executor Store)
    (hclient : executor.client = some Store.client) (name : String) (session : Session Store)
    (entry : Table) (hentry : session.catalog.tables.get? (executor.tableKey name) = some entry)
    (schema : StorageSchema) (columns : List Column)
    (hcolumns : executor.tableColumns schema = .ok columns) :
    let outcome := (executor.updateTable name schema).perform session
    outcome.1 = .ok () ∧
      executor.Evolves name entry columns session.catalog outcome.2.catalog ∧
      ∀ earlier : List StorageSchema,
        let last := (executor.updateTable name schema).perform
          (Operation.run executor (earlier.map (.updateTable name)) session)
        last.1 = .ok () ∧ last.2.catalog = outcome.2.catalog := by
  intro outcome
  obtain ⟨hok, hafter⟩ := updateTable_uninterrupted hclient hentry hcolumns
  refine ⟨hok, ?_, fun earlier => ?_⟩
  · rw [hafter]
    exact evolves_withUpdated hentry columns
  · obtain ⟨found, hfound, hnext⟩ := withUpdated_run hclient name earlier session entry hentry
    obtain ⟨hlast, hcatalog⟩ := updateTable_uninterrupted hclient hfound hcolumns
    exact ⟨hlast, hcatalog.trans ((hnext columns).trans hafter.symm)⟩

-- A partition at a location of its own gets the new columns and stays where it is.
theorem updateTable_evolves_daily :
    let executor := daily Store.client 0
    let amount : Column := { name := "amount", type := "boolean" }
    let moved : Partition := {
      values := ["1"], database := "default", table := "sales"
      layout := { columns := [amount], location := some "s3://archive/1" } }
    let session : Session Store :=
      { catalog := { dailyStore with partitions := .ofList [(moved.key, moved)] } }
    let schema : StorageSchema := [{ name := "id", type := .signed .w64 }]
    let columns : List Column := [{ name := "id", type := "bigint" }]
    let outcome := (executor.updateTable "sales" schema).perform session
    outcome.1 = .ok () ∧
      outcome.2.catalog.partitions.values =
        [{ moved with layout := { columns, location := some "s3://archive/1" } }] ∧
      ∀ earlier : List StorageSchema,
        let last := (executor.updateTable "sales" schema).perform
          (Operation.run executor (earlier.map (.updateTable "sales")) session)
        last.2.catalog = outcome.2.catalog := by
  intro executor amount moved session schema columns outcome
  have hcolumns : executor.tableColumns schema = .ok columns :=
    Traversal.eq_ok_of_toOption (by decide +kernel)
  have h := executor.updateTable_evolves rfl "sales" session dailyTable (by decide +kernel) schema
    columns hcolumns
  exact ⟨h.1, by decide +kernel, fun earlier => (h.2.2 earlier).2⟩

end Executor

end CatalogSync
