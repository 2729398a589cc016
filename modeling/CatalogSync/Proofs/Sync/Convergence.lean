import CatalogSync.Proofs.Sync.Addition

namespace CatalogSync

-- Partitions that were there before an addition are there after it, first and in the same order.
theorem Store.entries_prefix_withAdded (store : Store) (added : List Partition) :
    store.partitions.entries <+: (store.withAdded added).partitions.entries := by
  induction added generalizing store with
  | nil => exact List.prefix_rfl
  | cons partition added ih =>
      have hfirst : store.partitions.entries <+:
          (store.withAdded [partition]).partitions.entries := by
        simp only [withAdded, List.foldl_cons, List.foldl_nil, addPartition]
        split
        · exact List.prefix_rfl
        · next hc =>
          rw [Dictionary.entries_insert_of_not_contains _ _ _ (Bool.eq_false_iff.mpr hc)]
          exact List.prefix_append _ _
      have hrest := ih (store.withAdded [partition])
      rw [← withAdded_append, List.singleton_append] at hrest
      exact hfirst.trans hrest

-- An addition takes up what the beginning of the same addition has done before.
theorem Store.withAdded_take (store : Store) (added : List Partition) (k : Nat) :
    (store.withAdded (added.take k)).withAdded added = store.withAdded added := by
  simp only [withAdded, foldl_addPartition_take]

namespace Executor

open CatalogSync.Action

variable {σ τ ρ : Type}

-- The executor with another batch size.
def withBatchSize (executor : Executor σ) (size : Int) : Executor σ :=
  { executor with settings := { executor.settings with batchSize := size } }

-- The executor with a client of another catalog.
def withClient (executor : Executor σ) (client : Client τ) : Executor τ :=
  { executor with client := some client }

-- Tries to add partitions several times, each time with a batch size of its own.
def attempts (executor : Executor σ) (table : String) (paths : List String) :
    List Int → Session σ → Session σ
  | [], session => session
  | size :: sizes, session =>
    executor.attempts table paths sizes
      (((executor.withBatchSize size).addPartitions table paths).perform session).2

variable {client : Client σ} {view : σ → Store}

-- However far attempts get, what is left of the addition is the same as before them.
theorem withAdded_attempts (executor : Executor σ) (hclient : executor.client = some client)
    (hserves : client.Serves view) (table : String) (paths : List String) (entry : Table)
    (specs : List PartitionSpec) (hspecs : executor.specs entry paths = .ok specs)
    (sizes : List Int) (session : Session σ)
    (hentry : (view session.catalog).tables.get? (executor.tableKey table) = some entry) :
    let partitions := specs.map (executor.partition table entry.layout)
    let store := view (executor.attempts table paths sizes session).catalog
    store.tables.get? (executor.tableKey table) = some entry ∧
      store.withAdded partitions = (view session.catalog).withAdded partitions := by
  intro partitions
  induction sizes generalizing session with
  | nil => exact ⟨hentry, rfl⟩
  | cons size sizes ih =>
      obtain ⟨calls, result, k, hm, hk, -⟩ :=
        (executor.withBatchSize size).exists_makes_addPartitions hclient hserves session.catalog
          table paths entry hentry specs hspecs
      obtain ⟨-, -, ht⟩ := hm session rfl
      let next := (((executor.withBatchSize size).addPartitions table paths).perform session).2
      have hnext : view next.catalog = (view session.catalog).withAdded (partitions.take k) :=
        (congrArg view ht).trans hk
      have htable : (view next.catalog).tables.get? (executor.tableKey table) = some entry := by
        rw [hnext]
        exact hentry
      obtain ⟨hend, hadded⟩ := ih next htable
      refine ⟨hend, hadded.trans ?_⟩
      rw [hnext, Store.withAdded_take]

-- An attempt in which no call fails adds all partitions and reports success.
theorem addPartitions_complete (executor : Executor σ) (hclient : executor.client = some client)
    (hserves : client.Serves view) (table : String) (paths : List String) (entry : Table)
    (specs : List PartitionSpec) (hspecs : executor.specs entry paths = .ok specs)
    (session : Session σ)
    (hentry : (view session.catalog).tables.get? (executor.tableKey table) = some entry)
    (hcalls : ∀ calls,
      ((executor.addPartitions table paths).perform session).2.calls = session.calls ++ calls →
      client.Accepts calls session.catalog) :
    let outcome := (executor.addPartitions table paths).perform session
    (∃ done, outcome.1 = .ok done) ∧ view outcome.2.catalog =
      (view session.catalog).withAdded (specs.map (executor.partition table entry.layout)) := by
  intro outcome
  obtain ⟨calls, result, k, hm, hk, hall⟩ := executor.exists_makes_addPartitions hclient hserves
    session.catalog table paths entry hentry specs hspecs
  obtain ⟨hr, hc, ht⟩ := hm session rfl
  obtain ⟨htake, done, hdone⟩ := hall (hcalls calls hc)
  refine ⟨⟨done, hr.trans hdone⟩, ?_⟩
  rw [ht, hk, htake]

theorem addPartitions_uninterrupted (executor : Executor Store)
    (hclient : executor.client = some Store.client) (table : String) (paths : List String)
    (session : Session Store) (entry : Table)
    (hentry : session.catalog.tables.get? (executor.tableKey table) = some entry)
    (specs : List PartitionSpec) (hspecs : executor.specs entry paths = .ok specs) :
    let outcome := (executor.addPartitions table paths).perform session
    (∃ done, outcome.1 = .ok done) ∧ outcome.2.catalog =
      session.catalog.withAdded (specs.map (executor.partition table entry.layout)) := by
  intro outcome
  have hread : Store.client.answer (executor.reading table) session.catalog =
      (.ok entry, session.catalog) := Store.answer_getTable hentry
  refine executor.addPartitions_complete hclient Client.serves_store table paths entry specs hspecs
    session hentry ?_
  intro calls hc
  by_cases hpaths : paths = []
  · subst hpaths
    have hm : Makes Store.client _ session.catalog _ _ := executor.makes_addPartitions_nil table
    obtain ⟨-, hmade, -⟩ := hm session rfl
    obtain rfl := List.append_cancel_left (hc.symm.trans hmade)
    trivial
  · have hm := executor.makes_addPartitions_sent hclient table paths hpaths entry
      (congrArg Prod.fst hread) specs hspecs (Store.accepts_addPartitions _ _)
    obtain ⟨-, hmade, -⟩ := hm session rfl
    obtain rfl := List.append_cancel_left (hc.symm.trans hmade)
    exact ⟨(Store.client.failure?_eq_none_iff _ _).mpr ⟨entry, congrArg Prod.fst hread⟩,
      Store.accepts_addPartitions _ _⟩

-- Any number of interrupted attempts, each with its own batch size, and then one in which no call
-- fails leave the catalog exactly as a single addition that is never interrupted leaves it,
-- whatever size that one has. Partitions from before the attempts stay as they are and in front.
theorem addPartitions_converges (executor : Executor ρ) (interruption : Interruption τ)
    (table : String) (paths : List String) (session : Session (Store × τ)) (entry : Table)
    (hentry : session.catalog.1.tables.get? (executor.tableKey table) = some entry)
    (specs : List PartitionSpec) (hspecs : executor.specs entry paths = .ok specs)
    (sizes : List Int) (size single : Int) :
    let client := Store.client.interrupted interruption
    let tried := (executor.withClient client).attempts table paths sizes session
    let last := (((executor.withClient client).withBatchSize size).addPartitions table
      paths).perform tried
    let once := (((executor.withClient Store.client).withBatchSize single).addPartitions table
      paths).perform { catalog := session.catalog.1 }
    (∀ calls, last.2.calls = tried.calls ++ calls → client.Accepts calls tried.catalog) →
      (∃ done, last.1 = .ok done) ∧ (∃ done, once.1 = .ok done) ∧
      last.2.catalog.1 = once.2.catalog ∧
      session.catalog.1.partitions.entries <+: last.2.catalog.1.partitions.entries := by
  intro client tried last once hcalls
  have hserves : client.Serves Prod.fst := Client.serves_interrupted interruption
  obtain ⟨htable, hadded⟩ := (executor.withClient client).withAdded_attempts rfl hserves table paths
    entry specs hspecs sizes session hentry
  obtain ⟨hlast, hafter⟩ := ((executor.withClient client).withBatchSize size).addPartitions_complete
    rfl hserves table paths entry specs hspecs tried htable hcalls
  obtain ⟨honce, hsingle⟩ :=
    ((executor.withClient Store.client).withBatchSize single).addPartitions_uninterrupted rfl table
      paths { catalog := session.catalog.1 } entry hentry specs hspecs
  have hall : last.2.catalog.1 =
      session.catalog.1.withAdded (specs.map (executor.partition table entry.layout)) :=
    hafter.trans hadded
  refine ⟨hlast, honce, hall.trans hsingle.symm, ?_⟩
  rw [hall]
  exact Store.entries_prefix_withAdded _ _

-- An attempt that fails in its second batch, and then one that does not fail.
theorem addPartitions_converges_daily :
    let executor := daily Store.client 0
    let client := Store.client.interrupted PendingFailure.interruption
    let down : Failure := ⟨.reported .connection "down", []⟩
    let session : Session (Store × List PendingFailure) :=
      { catalog := (dailyStore, [⟨.addPartitions, 2, down⟩]) }
    let paths := ["day=2", "day=1", "day=2"]
    let tried := (executor.withClient client).attempts "sales" paths [1] session
    let last := (((executor.withClient client).withBatchSize 2).addPartitions "sales" paths).perform
      tried
    let once := (((executor.withClient Store.client).withBatchSize 0).addPartitions "sales"
      paths).perform { catalog := session.catalog.1 }
    tried.catalog.1.partitions.values.map Partition.values = [["2"]] ∧
      last.2.catalog.1.partitions.values.map Partition.values = [["2"], ["1"]] ∧
      last.2.catalog.1 = once.2.catalog := by
  intro executor client down session paths tried last once
  have hentry : session.catalog.1.tables.get? (executor.tableKey "sales") = some dailyTable := by
    decide +kernel
  have hspecs : executor.specs dailyTable paths = .ok (["2", "1", "2"].map dailySpec) :=
    Traversal.eq_ok_of_toOption (by decide +kernel)
  have h := addPartitions_converges executor PendingFailure.interruption "sales" paths session
    dailyTable hentry _ hspecs [1] 2 0
  refine ⟨by decide +kernel, by decide +kernel, ?_⟩
  with_reducible refine (h ?_).2.2.1
  intro calls hc
  have hnew : last.2.calls.drop tried.calls.length = calls := by
    with_reducible exact (congrArg (List.drop tried.calls.length) hc).trans List.drop_left
  subst hnew
  decide +kernel

end Executor

end CatalogSync
