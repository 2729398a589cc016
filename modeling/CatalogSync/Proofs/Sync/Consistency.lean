import CatalogSync.Proofs.Partition.Spec
import CatalogSync.Proofs.Sync.Change
import CatalogSync.Proofs.Traversal

namespace CatalogSync

-- The operation asks for the partition of a table at a path to be registered.
def Operation.Requests : Operation → String → String → Prop
  | addPartitions name paths, table, path | updatePartitions name paths, table, path =>
    name = table ∧ path ∈ paths
  | _, _, _ => False

-- The names and types of columns in order.
def signature (columns : List Column) : List (String × String) :=
  columns.map fun column => (column.name, column.type)

theorem signature_of_applyComment {updates : Dictionary String CommentUpdate}
    {columns commented : List Column} (h : columns.mapM (applyComment updates) = .ok commented) :
    signature commented = signature columns := by
  have hstep : ∀ column found, applyComment updates column = .ok found →
      (found.name, found.type) = (column.name, column.type) := by
    intro column found hf
    unfold applyComment at hf
    split at hf
    · cases hf
      rfl
    · next update hu =>
      cases ht : update.text with
      | error failure => simp [ht, Except.map] at hf
      | ok text =>
          simp only [ht, Except.map, Except.ok.injEq] at hf
          subst hf
          rfl
  rw [Traversal.mapM_eq_ok_iff] at h
  induction columns generalizing commented with
  | nil =>
      obtain rfl := List.map_eq_nil_iff.mp h.symm
      rfl
  | cons column columns ih =>
      obtain ⟨first, rest, rfl, hfirst, hrest⟩ := List.map_eq_cons_iff.mp h.symm
      simp only [signature, List.map_cons, List.cons.injEq]
      exact ⟨hstep column first hfirst.symm, ih hrest.symm⟩

namespace Executor

variable {σ τ : Type} (executor : Executor σ)

-- A partition is what its table and one of the requested paths make of it.
structure Registered (requested : String → Prop) (table : Table) (partition : Partition) :
    Prop where
  database : partition.database = table.database
  name : partition.table = table.name
  values : partition.values.length = table.partitionKeys.length
  columns : signature partition.layout.columns = signature table.layout.columns
  inputFormat : partition.layout.inputFormat = table.layout.inputFormat
  outputFormat : partition.layout.outputFormat = table.layout.outputFormat
  serialization : partition.layout.serialization = table.layout.serialization
  origin : ∃ path location, requested path ∧
    executor.extractor.values path = .ok partition.values ∧
    Location.resolve executor.settings.basePath path executor.fileSystem = .ok location ∧
    partition.layout.location = some location

-- Tables and partitions are stored under their own names and values, and all partitions have a
-- table that they agree with.
structure Consistent (requested : String → String → Prop) (store : Store) : Prop where
  tables : ∀ key table, store.tables.get? key = some table →
    table.database = key.database ∧ table.name = key.table
  partitions : ∀ key partition, store.partitions.get? key = some partition →
    partition.key = key ∧ ∃ table, store.tables.get? key.table = some table ∧
      executor.Registered (requested key.table.table) table partition

variable {executor} {requested : String → String → Prop} {before after : Store}

theorem registered_partition {name : String} {paths : List String} {entry : Table}
    {specs : List PartitionSpec} (hspecs : executor.specs entry paths = .ok specs)
    (hdatabase : entry.database = executor.settings.databaseName) (hname : entry.name = name)
    (hrequested : ∀ path ∈ paths, requested name path) {spec : PartitionSpec}
    (hspec : spec ∈ specs) :
    executor.Registered (requested name) entry (executor.partition name entry.layout spec) := by
  obtain ⟨path, hpath, hmake⟩ := Traversal.exists_of_mem_mapM_ok hspecs hspec
  obtain ⟨hvalues, hlength, hlocation⟩ := PartitionSpec.make_ok hmake
  rw [List.length_map] at hlength
  exact {
    database := hdatabase.symm
    name := hname.symm
    values := hlength
    columns := rfl
    inputFormat := rfl
    outputFormat := rfl
    serialization := rfl
    origin := ⟨path, spec.location, hrequested path hpath, hvalues, hlocation, rfl⟩ }

-- Only names, partition keys and layout of a table matter to its partitions.
theorem Registered.withColumns {table : Table} {partition : Partition} {path : String → Prop}
    (h : executor.Registered path table partition) (columns : List Column)
    (hc : signature columns = signature table.layout.columns) :
    executor.Registered path (table.withColumns columns) partition :=
  { h with columns := h.columns.trans hc.symm }

theorem consistent_empty : executor.Consistent requested Store.empty where
  tables _ _ h := nomatch h
  partitions _ _ h := nomatch h

-- A table that is put into the catalog under its own name keeps all tables under theirs.
private theorem tables_insert (h : executor.Consistent requested before) (key : TableKey)
    (table : Table) (hdatabase : table.database = key.database) (hname : table.name = key.table)
    (other : TableKey) (found : Table)
    (hf : (before.tables.insert key table).get? other = some found) :
    found.database = other.database ∧ found.name = other.table := by
  rw [Dictionary.get?_insert] at hf
  split at hf
  · next hk =>
    cases hf
    rw [← hk]
    exact ⟨hdatabase, hname⟩
  · exact h.tables other found hf

-- Every operation keeps the catalog consistent if the paths that it asks for are among the
-- requested ones. Old partitions follow their table because a change of its columns is passed on
-- to them.
theorem Consistent.change (h : executor.Consistent requested before)
    (hfields : executor.settings.partitionFields ≠ []) {operation : Operation}
    (hrequested : ∀ table path, operation.Requests table path → requested table path)
    (hc : executor.Change before operation after) : executor.Consistent requested after := by
  cases hc with
  | unchanged => exact h
  | databaseCreated => exact ⟨h.tables, h.partitions⟩
  | tableCreated request table htable hnew =>
      refine ⟨tables_insert h _ table rfl rfl, ?_⟩
      intro key partition hp
      obtain ⟨hkey, old, hold, hr⟩ := h.partitions key partition hp
      refine ⟨hkey, old, ?_, hr⟩
      rw [Dictionary.get?_insert, if_neg]
      · exact hold
      · intro hk
        rw [hk] at hnew
        exact absurd (hnew.symm.trans hold) (by simp)
  | tableUpdated name schema columns entry hentry =>
      obtain ⟨hdatabase, hname⟩ := h.tables _ entry hentry
      refine ⟨tables_insert h _ _ hdatabase hname, ?_⟩
      intro key partition hp
      simp only [withUpdated, if_neg hfields, Store.get?_cascade, Option.map_eq_some_iff] at hp ⊢
      obtain ⟨old, hold, rfl⟩ := hp
      obtain ⟨hkey, table, htable, hr⟩ := h.partitions key old hold
      rw [Dictionary.get?_insert]
      by_cases hk : key.table = executor.tableKey name
      · rw [if_pos hk, if_pos hk.symm]
        obtain rfl : entry = table := Option.some.inj (hentry.symm.trans (hk ▸ htable))
        exact ⟨hkey, _, rfl, { hr with columns := rfl }⟩
      · rw [if_neg hk, if_neg (Ne.symm hk)]
        exact ⟨hkey, table, htable, hr⟩
  | added name paths entry specs k hentry hspecs =>
      obtain ⟨hdatabase, hname⟩ := h.tables _ entry hentry
      refine ⟨h.tables, ?_⟩
      intro key partition hp
      simp only [Store.withAdded, Store.get?_foldl_addPartition, Option.or_eq_some_iff] at hp
      rcases hp with hp | ⟨-, hp⟩
      · exact h.partitions key partition hp
      · have hkey : partition.key = key := by simpa using List.find?_some hp
        obtain ⟨spec, hspec, rfl⟩ :=
          List.mem_map.mp (List.mem_of_mem_take (List.mem_of_find?_eq_some hp))
        subst hkey
        exact ⟨rfl, entry, hentry, registered_partition hspecs hdatabase hname
          (fun path hpath => hrequested name path ⟨rfl, hpath⟩) hspec⟩
  | repointed name paths entry specs hentry hspecs =>
      obtain ⟨hdatabase, hname⟩ := h.tables _ entry hentry
      refine ⟨h.tables, ?_⟩
      intro key partition hp
      simp only [Store.get?_replaceAll, Option.or_eq_some_iff] at hp
      rcases hp with hp | ⟨-, hp⟩
      · have hkey : ⟨executor.tableKey name, partition.values⟩ = key := by
          simpa using List.find?_some hp
        obtain ⟨spec, hspec, rfl⟩ :=
          List.mem_map.mp (List.mem_reverse.mp (List.mem_of_find?_eq_some hp))
        subst hkey
        exact ⟨rfl, entry, hentry, registered_partition hspecs hdatabase hname
          (fun path hpath => hrequested name path ⟨rfl, hpath⟩) hspec⟩
      · exact h.partitions key partition hp
  | dropped name paths k dropped =>
      refine ⟨h.tables, ?_⟩
      intro key partition hp
      simp only [Store.withDropped, Store.get?_foldl_erase] at hp
      split at hp
      · cases hp
      · exact h.partitions key partition hp
  | commented name updates entry columns hentry hcolumns =>
      obtain ⟨hdatabase, hname⟩ := h.tables _ entry hentry
      refine ⟨tables_insert h _ _ hdatabase hname, ?_⟩
      intro key partition hp
      obtain ⟨hkey, table, htable, hr⟩ := h.partitions key partition hp
      rw [Dictionary.get?_insert]
      by_cases hk : executor.tableKey name = key.table
      · rw [if_pos hk]
        obtain rfl : entry = table := Option.some.inj (hentry.symm.trans (hk ▸ htable))
        exact ⟨hkey, _, rfl, hr.withColumns columns (signature_of_applyComment hcolumns)⟩
      · rw [if_neg hk]
        exact ⟨hkey, table, htable, hr⟩

-- A run keeps the catalog consistent, whatever its operations do and whichever calls fail.
theorem Consistent.run {client : Client σ} {view : σ → Store}
    (hclient : executor.client = some client) (hserves : client.Serves view)
    (hfields : executor.settings.partitionFields ≠ []) (operations : List Operation)
    (hrequested : ∀ operation ∈ operations, ∀ table path, operation.Requests table path →
      requested table path)
    (session : Session σ) (h : executor.Consistent requested (view session.catalog)) :
    executor.Consistent requested (view (Operation.run executor operations session).catalog) := by
  induction operations generalizing session with
  | nil => exact h
  | cons operation operations ih =>
      have hc := executor.change_perform hclient hserves operation session
      have hstep := h.change hfields (hrequested operation List.mem_cons_self) hc
      exact ih (fun next hn => hrequested next (List.mem_cons_of_mem _ hn)) _ hstep

-- After any run that starts with nothing, with any calls failing, a partition that is stored has
-- its own key, its table is stored, and it has the keys, columns and formats of its table and the
-- values and the location of a path that the run has asked for.
theorem partitions_follow_tables {executor : Executor (Store × τ)} {interruption : Interruption τ}
    (hclient : executor.client = some (Store.client.interrupted interruption))
    (hfields : executor.settings.partitionFields ≠ []) (operations : List Operation)
    (session : Session (Store × τ)) (hempty : session.catalog.1 = Store.empty) :
    let store := (Operation.run executor operations session).catalog.1
    ∀ key partition, store.partitions.get? key = some partition →
      partition.key = key ∧ ∃ table, store.tables.get? key.table = some table ∧
        executor.Registered
          (fun path => ∃ operation ∈ operations, operation.Requests key.table.table path)
          table partition := by
  intro store
  have hstart : executor.Consistent
      (fun table path => ∃ operation ∈ operations, operation.Requests table path)
      session.catalog.1 := by
    rw [hempty]
    exact consistent_empty
  have hend := hstart.run hclient (Client.serves_interrupted interruption) hfields operations
    (fun operation ho table path hr => ⟨operation, ho, hr⟩)
  exact hend.partitions

-- A run in which the second batch fails and the columns are changed after the first.
theorem partitions_follow_tables_daily :
    let executor := daily (Store.client.interrupted PendingFailure.interruption) 1
    let operations : List Operation := [
      .createTable {
        name := "sales", schema := [], inputFormat := "text", outputFormat := "text"
        serialization := "lines" },
      .addPartitions "sales" ["day=1", "day=2"],
      .updateTable "sales" [{ name := "id", type := .boolean }]]
    let session : Session (Store × List PendingFailure) :=
      { catalog := (Store.empty, [⟨.addPartitions, 2, ⟨.reported .connection "down", []⟩⟩]) }
    let store := (Operation.run executor operations session).catalog.1
    store.partitions.values.map (fun partition => (partition.values, signature
      partition.layout.columns)) = [(["1"], [("id", "boolean")])] ∧
    ∀ key partition, store.partitions.get? key = some partition →
      partition.key = key ∧ ∃ table, store.tables.get? key.table = some table ∧
        executor.Registered
          (fun path => ∃ operation ∈ operations, operation.Requests key.table.table path)
          table partition := by
  intro executor operations session store
  refine ⟨by decide +kernel, ?_⟩
  exact partitions_follow_tables rfl (by decide) operations session rfl

end Executor

end CatalogSync
