import CatalogSync.Proofs.Catalog.Service

namespace CatalogSync.Store

-- The catalog without the partitions that a table has for some values. All others keep their order.
def without (store : Store) (table : TableKey) (values : List (List String)) : Store :=
  { store with
    partitions := store.partitions.restrict fun key =>
      decide ¬(key.table = table ∧ key.values ∈ values) }

variable (store : Store) (table : TableKey)

theorem withDropped_eq_without (values : List (List String)) :
    store.withDropped table values = store.without table values := by
  rw [withDropped, without, foldl_erase_eq_restrict]

theorem contains_without (values : List (List String)) (wanted : List String) :
    (store.without table values).partitions.contains ⟨table, wanted⟩ =
      (decide (wanted ∉ values) && store.partitions.contains ⟨table, wanted⟩) := by
  by_cases hw : wanted ∈ values <;>
    simp [without, Dictionary.contains, Dictionary.get?_restrict, hw]

-- Additions under keys that are left out do not show.
theorem restrict_foldl_addPartition (keep : PartitionKey → Bool) (added : List Partition)
    (hadded : ∀ partition ∈ added, keep partition.key = false)
    (partitions : Dictionary PartitionKey Partition) :
    (added.foldl addPartition partitions).restrict keep = partitions.restrict keep := by
  induction added generalizing partitions with
  | nil => rfl
  | cons partition added ih =>
      obtain ⟨hfirst, hrest⟩ := List.forall_mem_cons.mp hadded
      rw [List.foldl_cons, ih hrest, addPartition]
      split
      · rfl
      · exact Dictionary.restrict_insert _ _ _ _ hfirst

theorem without_eq_self (values : List (List String))
    (hnew : ∀ wanted ∈ values, store.partitions.contains ⟨table, wanted⟩ = false) :
    store.without table values = store := by
  have hkept : store.partitions.restrict
      (fun key => decide ¬(key.table = table ∧ key.values ∈ values)) = store.partitions := by
    apply Dictionary.restrict_eq_self
    rintro ⟨other, found⟩ hc
    rw [decide_eq_true_eq]
    rintro ⟨rfl, hfound⟩
    exact absurd (hc.symm.trans (hnew found hfound)) (by simp)
  rw [without, hkept]

-- What has been added to a table is gone without its values, and nothing else is.
theorem without_withAdded (values : List (List String)) (added : List Partition)
    (hadded : ∀ partition ∈ added, partition.key.table = table ∧ partition.key.values ∈ values)
    (hnew : ∀ wanted ∈ values, store.partitions.contains ⟨table, wanted⟩ = false) :
    (store.withAdded added).without table values = store := by
  have hsame : (store.withAdded added).without table values = store.without table values := by
    simp only [without, withAdded]
    rw [restrict_foldl_addPartition _ added]
    intro partition hpartition
    exact decide_eq_false (not_not_intro (hadded partition hpartition))
  rw [hsame, without_eq_self store table values hnew]

theorem failure?_dropPartition (database name : String) (values : List String)
    (deleteData : Bool) :
    client.failure? (.dropPartition database name values deleteData) store =
      if store.partitions.contains ⟨⟨database, name⟩, values⟩ then none
      else some ⟨.catalog (.partitionMissing values), []⟩ := by
  by_cases hc : store.partitions.contains ⟨⟨database, name⟩, values⟩ = true <;>
    simp [Client.failure?, client, answer, refuse, hc]

end CatalogSync.Store
