import CatalogSync.Catalog.Store
import CatalogSync.Proofs.Catalog.Calls
import CatalogSync.Proofs.Dictionary

namespace CatalogSync.Store

section Partitions

variable (partitions : Dictionary PartitionKey Partition)

-- A partition that is there stays, and a new one is the first of the added ones with its key.
theorem get?_addPartition (partition : Partition) (key : PartitionKey) :
    (addPartition partitions partition).get? key =
      (partitions.get? key).or (if partition.key = key then some partition else none) := by
  unfold addPartition
  split
  · next hc =>
    obtain ⟨found, hf⟩ := (Dictionary.contains_eq_true_iff _ _).mp hc
    by_cases hk : partition.key = key
    · simp [← hk, hf]
    · simp [hk]
  · next hc =>
    have hn := (Dictionary.contains_eq_false_iff _ _).mp (Bool.eq_false_iff.mpr hc)
    rw [Dictionary.get?_insert]
    by_cases hk : partition.key = key
    · simp [← hk, hn]
    · simp [hk]

theorem get?_foldl_addPartition (added : List Partition) (key : PartitionKey) :
    (added.foldl addPartition partitions).get? key =
      (partitions.get? key).or (added.find? fun partition => partition.key = key) := by
  induction added generalizing partitions with
  | nil => simp
  | cons partition added ih =>
      rw [List.foldl_cons, ih, get?_addPartition, List.find?_cons]
      by_cases hk : partition.key = key
      · cases partitions.get? key <;> simp [hk]
      · simp [hk]

theorem foldl_addPartition_of_contains (added : List Partition)
    (h : ∀ partition ∈ added, partitions.contains partition.key = true) :
    added.foldl addPartition partitions = partitions := by
  induction added with
  | nil => rfl
  | cons partition added ih =>
      have hf : addPartition partitions partition = partitions := by
        rw [addPartition, if_pos (h partition List.mem_cons_self)]
      rw [List.foldl_cons, hf, ih fun other ho => h other (List.mem_cons_of_mem _ ho)]

theorem contains_foldl_addPartition (added : List Partition) (partition : Partition)
    (h : partition ∈ added) :
    (added.foldl addPartition partitions).contains partition.key = true := by
  rw [Dictionary.contains, get?_foldl_addPartition]
  have hf : (added.find? fun other => other.key = partition.key).isSome := by
    exact List.find?_isSome.mpr ⟨partition, h, by simp⟩
  cases partitions.get? partition.key <;> simp_all

theorem foldl_addPartition_append (first rest : List Partition) :
    (first ++ rest).foldl addPartition (first.foldl addPartition partitions) =
      (first ++ rest).foldl addPartition partitions := by
  rw [List.foldl_append, List.foldl_append,
    foldl_addPartition_of_contains _ first (contains_foldl_addPartition partitions first)]

-- Adding partitions of which the first ones were added before is adding all of them at once.
theorem foldl_addPartition_take (added : List Partition) (k : Nat) :
    added.foldl addPartition ((added.take k).foldl addPartition partitions) =
      added.foldl addPartition partitions := by
  have h := foldl_addPartition_append partitions (added.take k) (added.drop k)
  rwa [List.take_append_drop] at h

-- The last of the replacements for some values is what is stored for them.
theorem get?_replaceAll (table : TableKey) (replacements : List Partition) (key : PartitionKey) :
    (replaceAll table partitions replacements).get? key =
      (replacements.reverse.find? fun partition => ⟨table, partition.values⟩ = key).or
        (partitions.get? key) := by
  unfold replaceAll
  induction replacements generalizing partitions with
  | nil => simp
  | cons partition replacements ih =>
      rw [List.foldl_cons, ih, Dictionary.get?_insert, List.reverse_cons, List.find?_append,
        List.find?_singleton]
      by_cases hk : (⟨table, partition.values⟩ : PartitionKey) = key
      · simp [hk]
      · simp [hk]

-- Replacing partitions that are there keeps them in their order.
theorem keys_replaceAll (table : TableKey) (replacements : List Partition)
    (h : ∀ partition ∈ replacements, partitions.contains ⟨table, partition.values⟩ = true) :
    (replaceAll table partitions replacements).keys = partitions.keys := by
  induction replacements generalizing partitions with
  | nil => rfl
  | cons partition replacements ih =>
      have hkeys : (partitions.insert ⟨table, partition.values⟩ partition).keys =
          partitions.keys := by
        rw [Dictionary.keys_insert,
          if_pos ((Dictionary.mem_keys_iff _ _).mpr (h partition List.mem_cons_self))]
      refine (ih _ fun other hother => ?_).trans hkeys
      rw [← Dictionary.mem_keys_iff, hkeys, Dictionary.mem_keys_iff]
      exact h other (List.mem_cons_of_mem _ hother)

theorem replaceAll_replaceAll (table : TableKey) (replacements : List Partition)
    (h : ∀ partition ∈ replacements, partitions.contains ⟨table, partition.values⟩ = true) :
    replaceAll table (replaceAll table partitions replacements) replacements =
      replaceAll table partitions replacements := by
  have hkeys := keys_replaceAll partitions table replacements h
  apply Dictionary.ext_get?
  · refine keys_replaceAll _ table replacements fun partition hpartition => ?_
    rw [← Dictionary.mem_keys_iff, hkeys, Dictionary.mem_keys_iff]
    exact h partition hpartition
  · intro key
    rw [get?_replaceAll, get?_replaceAll, ← Option.or_assoc, Option.or_self]

theorem missing?_eq_none_iff (table : TableKey) (wanted : List Partition) :
    missing? partitions table wanted = none ↔
      ∀ partition ∈ wanted, partitions.contains ⟨table, partition.values⟩ = true := by
  simp [missing?]

theorem get?_cascade (table : TableKey) (columns : List Column) (key : PartitionKey) :
    (cascade table columns partitions).get? key =
      (partitions.get? key).map fun partition =>
        if key.table = table then { partition with layout := partition.layout.withColumns columns }
        else partition :=
  Dictionary.get?_map partitions _ key

theorem foldl_erase_eq_restrict (table : TableKey) (dropped : List (List String)) :
    dropped.foldl (fun all values => all.erase ⟨table, values⟩) partitions =
      partitions.restrict fun key => decide ¬(key.table = table ∧ key.values ∈ dropped) := by
  induction dropped generalizing partitions with
  | nil => exact (Dictionary.restrict_eq_self _ _ (by simp)).symm
  | cons values dropped ih =>
      have herase : partitions.erase ⟨table, values⟩ =
          partitions.restrict fun key => decide (key ≠ ⟨table, values⟩) := rfl
      rw [List.foldl_cons, ih, herase, Dictionary.restrict_restrict]
      congr 1
      funext key
      obtain ⟨other, found⟩ := key
      grind

theorem get?_foldl_erase (table : TableKey) (dropped : List (List String)) (key : PartitionKey) :
    (dropped.foldl (fun all values => all.erase ⟨table, values⟩) partitions).get? key =
      if key.table = table ∧ key.values ∈ dropped then none else partitions.get? key := by
  rw [foldl_erase_eq_restrict, Dictionary.get?_restrict]
  by_cases hk : key.table = table ∧ key.values ∈ dropped <;> simp [hk]

end Partitions

section Answers

variable {store after : Store}

-- A call that the catalog refuses changes nothing.
theorem keepsOnFailure : client.KeepsOnFailure id := by
  intro call store failure h
  rw [Client.failure?_eq_some_iff] at h
  simp only [client, id] at h ⊢
  unfold answer refuse at h ⊢
  cases call <;> simp only at h ⊢ <;> (repeat' split at h) <;> simp_all

theorem answer_createDatabase_ok {database : Database}
    (h : store.answer (.createDatabase database) = (.ok (), after)) :
    store.databases.get? database.name = none ∧
      after = { store with databases := store.databases.insert database.name database } := by
  simp only [answer, refuse] at h
  split at h
  · cases h
  · next hc =>
    cases h
    exact ⟨(Dictionary.contains_eq_false_iff _ _).mp (Bool.eq_false_iff.mpr hc), rfl⟩

theorem answer_createTable_ok {table : Table}
    (h : store.answer (.createTable table) = (.ok (), after)) :
    store.tables.get? ⟨table.database, table.name⟩ = none ∧
      after = { store with
        tables := store.tables.insert ⟨table.database, table.name⟩ table } := by
  simp only [answer, refuse] at h
  split at h
  · cases h
  · next hc =>
    cases h
    exact ⟨(Dictionary.contains_eq_false_iff _ _).mp (Bool.eq_false_iff.mpr hc), rfl⟩

theorem answer_getTable {database name : String} {table : Table}
    (h : store.tables.get? ⟨database, name⟩ = some table) :
    store.answer (.getTable database name) = (.ok table, store) := by
  simp only [answer, h]

theorem answer_getTable_ok {database name : String} {table : Table}
    (h : store.answer (.getTable database name) = (.ok table, after)) :
    store.tables.get? ⟨database, name⟩ = some table ∧ after = store := by
  simp only [answer, refuse] at h
  split at h
  · cases h
  · next found hf =>
    cases h
    exact ⟨hf, rfl⟩

theorem answer_alterTable_ok {database name : String} {table : Table}
    {request : Option Properties}
    (h : store.answer (.alterTable database name table request) = (.ok (), after)) :
    after = { store with
      tables := store.tables.insert ⟨database, name⟩ table
      partitions :=
        if request.any isCascading then
          cascade ⟨database, name⟩ table.layout.columns store.partitions
        else store.partitions } := by
  simp only [answer, refuse] at h
  split at h
  · cases h
    rfl
  · cases h

-- Partitions that are there do not make an addition fail that leaves them out.
theorem answer_addPartitions (store : Store) (partitions : List Partition) (needResult : Bool) :
    store.answer (.addPartitions partitions true needResult) =
      (.ok (), { store with partitions := partitions.foldl addPartition store.partitions }) := by
  simp only [answer]
  split <;> rfl

theorem answer_alterPartitions {database table : String} {partitions : List Partition}
    {request : Option Properties}
    (h : missing? store.partitions ⟨database, table⟩ partitions = none) :
    store.answer (.alterPartitions database table partitions request) = (.ok (), { store with
      partitions := replaceAll ⟨database, table⟩ store.partitions partitions }) := by
  simp only [answer, h]

theorem answer_alterPartitions_ok {database table : String} {partitions : List Partition}
    {request : Option Properties}
    (h : store.answer (.alterPartitions database table partitions request) = (.ok (), after)) :
    missing? store.partitions ⟨database, table⟩ partitions = none ∧
      after = { store with
        partitions := replaceAll ⟨database, table⟩ store.partitions partitions } := by
  simp only [answer, refuse] at h
  split at h
  · cases h
  · next hm =>
    cases h
    exact ⟨hm, rfl⟩

theorem answer_dropPartition_ok {database table : String} {values : List String}
    {deleteData : Bool}
    (h : store.answer (.dropPartition database table values deleteData) = (.ok (), after)) :
    store.partitions.contains ⟨⟨database, table⟩, values⟩ = true ∧
      after = { store with
        partitions := store.partitions.erase ⟨⟨database, table⟩, values⟩ } := by
  simp only [answer, refuse] at h
  split at h
  · next hc =>
    cases h
    exact ⟨hc, rfl⟩
  · cases h

end Answers

end CatalogSync.Store
