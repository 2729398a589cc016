import CatalogSync.Proofs.Partition.Spec
import CatalogSync.Proofs.Sync.Calls.Partitions
import CatalogSync.Proofs.Sync.Convergence

namespace CatalogSync.Executor

open CatalogSync.Action

section Repoints

variable {σ : Type} (executor : Executor σ)

-- The last of some paths that has the given values.
def lastPath? (paths : List String) (values : List String) : Option String :=
  paths.reverse.find? fun path => (executor.extractor.values path).toOption = some values

-- Every partition that a path has the values of is made anew from the table, at the location of the
-- last such path. Everything else is as before.
structure Repoints (table : String) (entry : Table) (paths : List String)
    (before after : Store) : Prop where
  databases : after.databases = before.databases
  tables : after.tables = before.tables
  registered : after.partitions.keys = before.partitions.keys
  requested : ∀ values path, executor.lastPath? paths values = some path →
    ∃ location,
      Location.resolve executor.settings.basePath path executor.fileSystem = .ok location ∧
      after.partitions.get? ⟨executor.tableKey table, values⟩ = some {
        values, database := executor.settings.databaseName, table
        layout := { entry.layout with location := some location } }
  others : ∀ key,
    (key.table = executor.tableKey table → executor.lastPath? paths key.values = none) →
    after.partitions.get? key = before.partitions.get? key

-- The catalog with the partitions of some specs made anew.
def withRepointed (store : Store) (table : String) (entry : Table) (specs : List PartitionSpec) :
    Store :=
  { store with
    partitions := Store.replaceAll (executor.tableKey table) store.partitions
      (specs.map (executor.partition table entry.layout)) }

-- Whether a table has partitions for all specs.
def HasAll (store : Store) (table : String) (specs : List PartitionSpec) : Prop :=
  ∀ spec ∈ specs, store.partitions.contains ⟨executor.tableKey table, spec.values⟩ = true

variable {executor} {store : Store} {table : String} {entry : Table} {paths : List String}
  {specs : List PartitionSpec}

theorem hasAll_iff_partitions (entry : Table) : executor.HasAll store table specs ↔
    ∀ partition ∈ specs.map (executor.partition table entry.layout),
      store.partitions.contains ⟨executor.tableKey table, partition.values⟩ = true := by
  rw [List.forall_mem_map]
  rfl

theorem hasAll_iff_missing? (entry : Table) : executor.HasAll store table specs ↔
    Store.missing? store.partitions (executor.tableKey table)
      (specs.map (executor.partition table entry.layout)) = none := by
  rw [Store.missing?_eq_none_iff, hasAll_iff_partitions]

theorem hasAll_iff_paths (hspecs : executor.specs entry paths = .ok specs) :
    executor.HasAll store table specs ↔ ∀ path ∈ paths, ∃ values,
      executor.extractor.values path = .ok values ∧
      store.partitions.contains ⟨executor.tableKey table, values⟩ = true := by
  constructor
  · intro hall path hpath
    obtain ⟨spec, hmem, hspec⟩ := Traversal.exists_mem_of_mapM_ok hspecs hpath
    exact ⟨spec.values, (PartitionSpec.make_ok hspec).1, hall spec hmem⟩
  · intro h spec hmem
    obtain ⟨path, hpath, hspec⟩ := Traversal.exists_of_mem_mapM_ok hspecs hmem
    obtain ⟨values, hvalues, hcontains⟩ := h path hpath
    obtain rfl := Except.ok.inj (hvalues.symm.trans (PartitionSpec.make_ok hspec).1)
    exact hcontains

-- The last spec with some values is that of the last path that has them.
theorem find?_specs (hspecs : executor.specs entry paths = .ok specs) (values : List String) :
    (specs.reverse.find? fun spec => spec.values = values).map .ok =
      (executor.lastPath? paths values).map fun path =>
        PartitionSpec.make path executor.extractor executor.settings.basePath executor.fileSystem
          (some (entry.partitionKeys.map Column.name)) := by
  refine Traversal.find?_of_mapM_ok (Traversal.mapM_reverse_ok hspecs) fun path spec hspec => ?_
  have hvalues := (PartitionSpec.make_ok hspec).1
  simp [hvalues, Except.toOption]

theorem get?_withRepointed (values : List String) :
    (executor.withRepointed store table entry specs).partitions.get?
        ⟨executor.tableKey table, values⟩ =
      ((specs.reverse.find? fun spec => spec.values = values).map
        (executor.partition table entry.layout)).or
          (store.partitions.get? ⟨executor.tableKey table, values⟩) := by
  rw [withRepointed, Store.get?_replaceAll, ← List.map_reverse, List.find?_map]
  congr 3
  funext spec
  exact decide_eq_decide.mpr (by simp [partition])

theorem get?_withRepointed_of_ne {key : PartitionKey} (hkey : key.table ≠ executor.tableKey table) :
    (executor.withRepointed store table entry specs).partitions.get? key =
      store.partitions.get? key := by
  rw [withRepointed, Store.get?_replaceAll, List.find?_eq_none.mpr, Option.none_or]
  rintro partition - hpartition
  exact hkey (congrArg PartitionKey.table (of_decide_eq_true hpartition)).symm

theorem repoints_withRepointed (hspecs : executor.specs entry paths = .ok specs)
    (hall : executor.HasAll store table specs) :
    executor.Repoints table entry paths store
      (executor.withRepointed store table entry specs) := by
  refine { databases := rfl, tables := rfl, registered := ?_, requested := ?_, others := ?_ }
  · exact Store.keys_replaceAll _ _ _ ((hasAll_iff_partitions entry).mp hall)
  · intro values path hpath
    have hfind := find?_specs hspecs values
    rw [hpath, Option.map_some, Option.map_eq_some_iff] at hfind
    obtain ⟨spec, hfound, hspec⟩ := hfind
    obtain ⟨-, -, hlocation⟩ := PartitionSpec.make_ok hspec.symm
    obtain rfl : spec.values = values := by simpa using List.find?_some hfound
    refine ⟨spec.location, hlocation, ?_⟩
    rw [get?_withRepointed, hfound]
    rfl
  · intro key hkey
    by_cases htable : key.table = executor.tableKey table
    · obtain ⟨_, values⟩ := key
      obtain rfl := htable
      have hfind := find?_specs hspecs values
      rw [hkey rfl, Option.map_none, Option.map_eq_none_iff] at hfind
      rw [get?_withRepointed, hfind, Option.map_none, Option.none_or]
    · exact get?_withRepointed_of_ne htable

theorem withRepointed_withRepointed (hall : executor.HasAll store table specs) :
    executor.withRepointed (executor.withRepointed store table entry specs) table entry specs =
      executor.withRepointed store table entry specs :=
  congrArg (fun partitions => { store with partitions })
    (Store.replaceAll_replaceAll _ _ _ ((hasAll_iff_partitions entry).mp hall))

theorem hasAll_withRepointed (hall : executor.HasAll store table specs) :
    executor.HasAll (executor.withRepointed store table entry specs) table specs := by
  intro spec hspec
  rw [← Dictionary.mem_keys_iff, withRepointed,
    Store.keys_replaceAll _ _ _ ((hasAll_iff_partitions entry).mp hall), Dictionary.mem_keys_iff]
  exact hall spec hspec

theorem hasAll_withAdded : executor.HasAll
    (store.withAdded (specs.map (executor.partition table entry.layout))) table specs := by
  intro spec hspec
  exact Store.contains_foldl_addPartition store.partitions _ _
    (List.mem_map_of_mem (f := executor.partition table entry.layout) hspec)

end Repoints

section Uninterrupted

variable {executor : Executor Store} (hclient : executor.client = some Store.client)
  {table : String} {paths : List String} {session : Session Store} {entry : Table}
  (hentry : session.catalog.tables.get? (executor.tableKey table) = some entry)
  {specs : List PartitionSpec} (hspecs : executor.specs entry paths = .ok specs)

include hclient hentry hspecs

theorem updatePartitions_answered (hpaths : paths ≠ []) :
    let outcome := (executor.updatePartitions table paths).perform session
    let answer := Store.client.answer (executor.repointing table entry specs) session.catalog
    outcome.1 = ((answer.1.mapError
        (reported executor.settings.databaseName table .updatePartitions)).map fun _ => {
          operation := .updatePartitions, table, requested := paths.length
          applied := specs.length, batches := 1 }) ∧
      outcome.2.catalog = answer.2 := by
  intro outcome answer
  have hread := executor.answer_reading hentry
  have hm := executor.makes_updatePartitions table hclient paths hpaths entry
    (congrArg Prod.fst hread) specs hspecs
  obtain ⟨hr, -, ht⟩ := hm session rfl
  rw [hread] at hr
  rw [Client.after, Client.after_singleton, hread] at ht
  exact ⟨hr, ht⟩

theorem updatePartitions_of_hasAll (hall : executor.HasAll session.catalog table specs) :
    let outcome := (executor.updatePartitions table paths).perform session
    (∃ done, outcome.1 = .ok done) ∧
      outcome.2.catalog = executor.withRepointed session.catalog table entry specs := by
  intro outcome
  by_cases hpaths : paths = []
  · subst hpaths
    have hm : Makes Store.client _ session.catalog _ _ := executor.makes_updatePartitions_nil table
    obtain ⟨hr, -, ht⟩ := hm session rfl
    obtain rfl := List.eq_nil_of_length_eq_zero (executor.length_specs hspecs)
    exact ⟨⟨_, hr⟩, ht⟩
  · have hwrite : Store.client.answer (executor.repointing table entry specs) session.catalog =
        (.ok (), executor.withRepointed session.catalog table entry specs) :=
      Store.answer_alterPartitions ((hasAll_iff_missing? entry).mp hall)
    obtain ⟨hr, ht⟩ := updatePartitions_answered hclient hentry hspecs hpaths
    rw [hwrite] at hr ht
    exact ⟨⟨_, hr⟩, ht⟩

theorem updatePartitions_of_not_hasAll (hall : ¬executor.HasAll session.catalog table specs) :
    let outcome := (executor.updatePartitions table paths).perform session
    (∃ failure, outcome.1 = .error failure) ∧ outcome.2.catalog = session.catalog := by
  intro outcome
  have hpaths : paths ≠ [] := by
    rintro rfl
    obtain rfl := List.eq_nil_of_length_eq_zero (executor.length_specs hspecs)
    exact hall (List.forall_mem_nil _)
  obtain ⟨hr, ht⟩ := updatePartitions_answered hclient hentry hspecs hpaths
  cases ha : (Store.client.answer (executor.repointing table entry specs) session.catalog).1 with
  | error failure =>
      rw [ha] at hr
      have hkept := Store.keepsOnFailure _ _ failure
        ((Store.client.failure?_eq_some_iff _ _ _).mpr ha)
      exact ⟨⟨_, hr⟩, ht.trans hkept⟩
  | ok reply =>
      obtain ⟨hmissing, -⟩ := Store.answer_alterPartitions_ok (Prod.ext ha rfl)
      exact absurd ((hasAll_iff_missing? entry).mpr hmissing) hall

end Uninterrupted

-- A change of partitions goes through if and only if the table has partitions with the values of
-- all paths. Then it makes exactly these anew, and doing it again changes nothing. An addition of
-- the same paths before it lets it always go through, whatever was there.
theorem updatePartitions_repoints (executor : Executor Store)
    (hclient : executor.client = some Store.client) (table : String) (paths : List String)
    (session : Session Store) (entry : Table)
    (hentry : session.catalog.tables.get? (executor.tableKey table) = some entry)
    (specs : List PartitionSpec) (hspecs : executor.specs entry paths = .ok specs) :
    let updated := (executor.updatePartitions table paths).perform session
    let again := (executor.updatePartitions table paths).perform updated.2
    let added := (executor.addPartitions table paths).perform session
    let both := (executor.updatePartitions table paths).perform added.2
    ((∃ done, updated.1 = .ok done) ↔ ∀ path ∈ paths, ∃ values,
      executor.extractor.values path = .ok values ∧
      session.catalog.partitions.contains ⟨executor.tableKey table, values⟩ = true) ∧
    (∀ done, updated.1 = .ok done →
      executor.Repoints table entry paths session.catalog updated.2.catalog ∧
      (∃ done, again.1 = .ok done) ∧ again.2.catalog = updated.2.catalog) ∧
    (∀ failure, updated.1 = .error failure → updated.2.catalog = session.catalog) ∧
    (∃ done, added.1 = .ok done) ∧ (∃ done, both.1 = .ok done) ∧
    executor.Repoints table entry paths added.2.catalog both.2.catalog := by
  intro updated again added both
  rw [← hasAll_iff_paths hspecs]
  have hsucceeds : (∃ done, updated.1 = .ok done) ↔
      executor.HasAll session.catalog table specs := by
    refine ⟨?_, fun h => (updatePartitions_of_hasAll hclient hentry hspecs h).1⟩
    rintro ⟨done, hok⟩
    by_contra h
    obtain ⟨⟨failure, herror⟩, -⟩ := updatePartitions_of_not_hasAll hclient hentry hspecs h
    exact nomatch hok.symm.trans herror
  refine ⟨hsucceeds, ?_, ?_, ?_⟩
  · intro done hok
    have hall := hsucceeds.mp ⟨done, hok⟩
    obtain ⟨-, hupdated⟩ := updatePartitions_of_hasAll hclient hentry hspecs hall
    have htable : updated.2.catalog.tables.get? (executor.tableKey table) = some entry :=
      hupdated ▸ hentry
    have hstill : executor.HasAll updated.2.catalog table specs :=
      hupdated ▸ hasAll_withRepointed hall
    obtain ⟨hagain, hsame⟩ := updatePartitions_of_hasAll hclient htable hspecs hstill
    refine ⟨hupdated ▸ repoints_withRepointed hspecs hall, hagain, hsame.trans ?_⟩
    rw [hupdated, withRepointed_withRepointed hall]
  · intro failure herror
    refine (updatePartitions_of_not_hasAll hclient hentry hspecs fun h => ?_).2
    obtain ⟨done, hok⟩ := hsucceeds.mpr h
    exact nomatch hok.symm.trans herror
  · obtain ⟨hadded, hcatalog⟩ :=
      executor.addPartitions_uninterrupted hclient table paths session entry hentry specs hspecs
    have htable : added.2.catalog.tables.get? (executor.tableKey table) = some entry :=
      hcatalog ▸ hentry
    have hall : executor.HasAll added.2.catalog table specs := hcatalog ▸ hasAll_withAdded
    obtain ⟨hboth, hfresh⟩ := updatePartitions_of_hasAll hclient htable hspecs hall
    exact ⟨hadded, hboth, hfresh ▸ repoints_withRepointed hspecs hall⟩

-- Two paths with the same value, for a partition that has moved and lost its columns.
theorem updatePartitions_repoints_daily :
    let executor := daily Store.client 0
    let key : PartitionKey := ⟨⟨"default", "sales"⟩, ["1"]⟩
    let entry := dailyTable.withColumns [{ name := "id", type := "bigint" }]
    let stale : Partition := {
      values := ["1"], database := "default", table := "sales"
      layout := { location := some "s3://archive/1" } }
    let other : Partition := { stale with values := ["0"] }
    let session : Session Store := { catalog := { dailyStore with
      tables := .ofList [(⟨"default", "sales"⟩, entry)]
      partitions := .ofList [(other.key, other), (key, stale)] } }
    let paths := ["day=1", "date=1"]
    let updated := (executor.updatePartitions "sales" paths).perform session
    let again := (executor.updatePartitions "sales" paths).perform updated.2
    let added := (executor.addPartitions "sales" paths).perform session
    let both := (executor.updatePartitions "sales" paths).perform added.2
    executor.Repoints "sales" entry paths session.catalog updated.2.catalog ∧
      again.2.catalog = updated.2.catalog ∧
      executor.Repoints "sales" entry paths added.2.catalog both.2.catalog ∧
      executor.lastPath? paths ["1"] = some "date=1" ∧
      updated.2.catalog.partitions.get? key =
        some { stale with layout := entry.layout.withLocation "s3://lake/sales/date=1" } := by
  intro executor key entry stale other session paths updated again added both
  have hspecs : executor.specs entry paths = .ok [dailySpec "1",
      ⟨"date=1", ["1"], "s3://lake/sales/date=1"⟩] :=
    Traversal.eq_ok_of_toOption (by decide +kernel)
  have h := executor.updatePartitions_repoints rfl "sales" paths session entry (by decide +kernel) _
    hspecs
  have hvalues : ∀ path ∈ paths, (executor.extractor.values path).toOption = some ["1"] := by
    decide +kernel
  have hregistered : session.catalog.partitions.contains ⟨executor.tableKey "sales", ["1"]⟩ := by
    decide +kernel
  have hlast : executor.lastPath? paths ["1"] = some "date=1" := by decide +kernel
  have hfresh : updated.2.catalog.partitions.get? key =
      some { stale with layout := entry.layout.withLocation "s3://lake/sales/date=1" } := by
    decide +kernel
  with_reducible obtain ⟨done, hok⟩ := h.1.mpr fun path hpath =>
    ⟨["1"], Traversal.eq_ok_of_toOption (hvalues path hpath), hregistered⟩
  with_reducible obtain ⟨hupdated, -, hsame⟩ := h.2.1 done hok
  with_reducible exact ⟨hupdated, hsame, h.2.2.2.2.2, hlast, hfresh⟩

end CatalogSync.Executor
