import CatalogSync.Proofs.Batch
import CatalogSync.Proofs.Catalog.Service
import CatalogSync.Proofs.Sync.Calls.Batches
import CatalogSync.Proofs.Traversal

namespace CatalogSync.Executor

open CatalogSync.Action

variable {σ : Type} {client : Client σ} (executor : Executor σ)

-- The batches of partitions are the slices of all partitions.
theorem batches_eq (table : String) (entry : Table) (specs : List PartitionSpec) :
    executor.batches table entry specs =
      (List.range (Batch.count executor.settings.batchSize specs.length)).map
        (Batch.slice executor.settings.batchSize
          (specs.map (executor.partition table entry.layout))) := by
  rw [batches, Batch.plan_eq, List.map_map]
  apply List.map_congr_left
  intro i _
  exact (Batch.slice_map _ _ _ _).symm

theorem flatten_batches (table : String) (entry : Table) (specs : List PartitionSpec) :
    (executor.batches table entry specs).flatten =
      specs.map (executor.partition table entry.layout) := by
  rw [batches, ← List.map_flatten, Batch.flatten_plan]

theorem length_specs {entry : Table} {paths : List String} {specs : List PartitionSpec}
    (h : executor.specs entry paths = .ok specs) : specs.length = paths.length :=
  Traversal.length_of_mapM_ok h

private theorem map_range_eq {α : Type} (f : Nat → α) (n k : Nat) (hk : k < n) :
    (List.range n).map f =
      (List.range k).map f ++ f k :: ((List.range n).map f).drop (k + 1) := by
  have hl : k < ((List.range n).map f).length := by simpa using hk
  have hd := List.drop_eq_getElem_cons hl
  rw [List.getElem_map, List.getElem_range] at hd
  rw [← hd]
  have ht : (List.range k).map f = ((List.range n).map f).take k := by
    rw [← List.map_take, List.take_range, Nat.min_eq_left (by omega)]
  rw [ht, List.take_append_drop]

-- What the caller is told about an addition in batches. The client gets the partitions in
-- consecutive slices. If it accepts all of them, all partitions count as applied; if the `k`-th
-- slice is the first to fail, nothing is sent after it, and the partitions of the slices before
-- it count as applied.
theorem addPartitions_report (hclient : executor.client = some client) (table : String)
    (paths : List String) (hpaths : paths ≠ []) (session : Session σ) (entry : Table)
    (hentry : (client.answer (executor.reading table) session.catalog).1 = .ok entry)
    (specs : List PartitionSpec) (hspecs : executor.specs entry paths = .ok specs) :
    let size := executor.settings.batchSize
    let partitions := specs.map (executor.partition table entry.layout)
    let count := Batch.count size paths.length
    let batch := Batch.slice size partitions
    let sent := fun k => (List.range k).map fun i => sending (batch i)
    let opened := (client.answer (executor.reading table) session.catalog).2
    let outcome := (executor.addPartitions table paths).perform session
    ((List.range count).flatMap batch = partitions ∧ (∀ i, i < count → batch i ≠ []) ∧
      ∀ i, i + 1 < count → (batch i).length = size.toNat) ∧
    (client.Accepts (sent count) opened →
      outcome.1 = .ok {
        operation := .addPartitions, table, requested := paths.length, applied := paths.length
        batches := count } ∧
      outcome.2.calls = session.calls ++ executor.reading table :: sent count) ∧
    ∀ k failure, k < count → client.Accepts (sent k) opened →
      client.failure? (sending (batch k)) (client.after (sent k) opened) = some failure →
      outcome.1 = .error (failure.leadingTo (.batch {
        database := executor.settings.databaseName, table, operation := "add partition"
        index := k, count, applied := if 0 < size then k * size else 0 })) ∧
      outcome.2.calls = session.calls ++ executor.reading table :: sent (k + 1) ∧
      (List.range k).flatMap batch =
        partitions.take (if 0 < size then k * size else 0 : Int).toNat ∧
      ∀ {ρ : Type} (view : σ → ρ), client.KeepsOnFailure view →
        view outcome.2.catalog = view (client.after (sent k) opened) := by
  intro size partitions count batch sent opened outcome
  have hlength := executor.length_specs hspecs
  have hcount : Batch.count size partitions.length = count := by
    simp [partitions, count, hlength]
  have hbatches : executor.batches table entry specs = (List.range count).map batch := by
    rw [batches_eq, hlength]
  have hsent : ∀ k, ((List.range k).map batch).map sending = sent k := by
    intro k
    simp [sent, Function.comp_def]
  have hflatten := executor.flatten_batches table entry specs
  refine ⟨⟨?_, ?_, ?_⟩, ?_, ?_⟩
  · rw [List.flatMap_def, ← hbatches, hflatten]
  · intro i hi
    refine Batch.slice_ne_nil size partitions i ?_ (hcount ▸ hi)
    intro hn
    have hz := congrArg List.length hn
    simp only [partitions, List.length_map, hlength, List.length_nil] at hz
    exact hpaths (List.eq_nil_of_length_eq_zero hz)
  · intro i hi
    exact Batch.length_slice size partitions i (hcount ▸ hi)
  · intro ha
    have hm := executor.makes_addPartitions_sent hclient table paths hpaths entry hentry specs
      hspecs (by rw [hbatches, hsent]; exact ha)
    obtain ⟨hr, hc, -⟩ := hm session rfl
    refine ⟨?_, ?_⟩
    · rw [hr, hflatten, hbatches]
      simp [hlength]
    · rw [hc, hbatches, hsent]
  · intro k failure hk ha hf
    have hsplit := hbatches.trans (map_range_eq batch count k hk)
    have hm := executor.makes_addPartitions_stopped hclient table paths hpaths entry hentry specs
      hspecs _ _ _ hsplit (by rw [hsent]; exact ha) failure (by rw [hsent]; exact hf)
    obtain ⟨hr, hc, ht⟩ := hm session rfl
    have htake := Batch.flatMap_slice size partitions k (hcount ▸ hk)
    have happlied := Batch.natCast_mul_toNat size k
    have hdone := Batch.length_flatMap_slice size partitions k (hcount ▸ hk)
    rw [List.flatMap_def] at hdone
    refine ⟨?_, ?_, ?_, ?_⟩
    · rw [hr, hdone, hbatches]
      simp only [batchFailure, List.length_map, List.length_range, happlied]
      rfl
    · rw [hc, hsent]
      simp [sent, List.range_succ]
    · rw [htake, ← happlied, Int.toNat_natCast]
    · intro ρ view hv
      rw [ht, hsent]
      simp only [Client.after, Client.after_append]
      exact hv _ _ failure hf

-- The second of two batches fails, and the first one counts as applied.
theorem addPartitions_report_daily :
    let executor := daily (Store.client.interrupted PendingFailure.interruption) 1
    let down : Failure := ⟨.reported .connection "down", []⟩
    let session : Session (Store × List PendingFailure) :=
      { catalog := (dailyStore, [⟨.addPartitions, 2, down⟩]) }
    let outcome := (executor.addPartitions "sales" ["day=2", "day=1"]).perform session
    outcome.1 = .error (down.leadingTo (.batch {
      database := "default", table := "sales", operation := "add partition"
      index := 1, count := 2, applied := 1 })) := by
  intro executor down session outcome
  have hspecs : executor.specs dailyTable ["day=2", "day=1"] = .ok (["2", "1"].map dailySpec) :=
    Traversal.eq_ok_of_toOption (by decide +kernel)
  have h := executor.addPartitions_report rfl "sales" ["day=2", "day=1"] (by simp) session
    dailyTable rfl _ hspecs
  have hreport := (h.2.2 1 down (by decide) (by decide +kernel) rfl).1
  have hcount : Batch.count executor.settings.batchSize ["day=2", "day=1"].length = 2 := by decide
  have happlied : (if 0 < executor.settings.batchSize then (1 : Nat) * executor.settings.batchSize
      else 0 : Int) = 1 := by decide
  rw [hcount, happlied] at hreport
  exact hreport

-- An addition adds the first of its partitions, and all of them if the client fails no call.
theorem exists_makes_addPartitions (hclient : executor.client = some client)
    {view : σ → Store} (hserves : client.Serves view) (before : σ) (table : String)
    (paths : List String) (entry : Table)
    (hentry : (view before).tables.get? (executor.tableKey table) = some entry)
    (specs : List PartitionSpec) (hspecs : executor.specs entry paths = .ok specs) :
    let partitions := specs.map (executor.partition table entry.layout)
    ∃ calls result k, Makes client (executor.addPartitions table paths) before calls result ∧
      view (client.after calls before) = (view before).withAdded (partitions.take k) ∧
      (client.Accepts calls before →
        partitions.take k = partitions ∧ ∃ done, result = .ok done) := by
  intro partitions
  by_cases hpaths : paths = []
  · subst hpaths
    have hnil : partitions = [] := by
      have hl := executor.length_specs hspecs
      simp only [partitions, List.eq_nil_of_length_eq_zero hl, List.map_nil]
    refine ⟨[], _, 0, executor.makes_addPartitions_nil table, rfl, fun _ => ⟨?_, _, rfl⟩⟩
    rw [hnil, List.take_nil]
  have hflatten : (executor.batches table entry specs).flatten = partitions :=
    executor.flatten_batches table entry specs
  rcases hserves.answer_cases before (executor.reading table) with
    ⟨failure, hr, hv⟩ | ⟨found, hr, ha⟩
  · refine ⟨_, _, 0, executor.makes_addPartitions_unread hclient table paths hpaths failure hr, hv,
      fun hacc => ?_⟩
    have hf := (client.failure?_eq_some_iff _ _ _).mpr hr
    exact absurd (hf.symm.trans hacc.1) (by simp)
  · obtain ⟨hfound, -⟩ := hserves.getTable_ok before hr
    have hv : view (client.answer (executor.reading table) before).2 = view before :=
      hserves.view_getTable before _ _
    obtain rfl : found = entry := Option.some.inj (hfound.symm.trans hentry)
    rcases client.accepts_or_fails ((executor.batches table found specs).map sending)
        (client.answer (executor.reading table) before).2 with
      hacc | ⟨done, call, rest, failure, hsplit, hacc, hf⟩
    · refine ⟨_, _, partitions.length, executor.makes_addPartitions_sent hclient table paths hpaths
        found hr specs hspecs hacc, ?_, fun _ => ⟨List.take_length, _, rfl⟩⟩
      have hall := hserves.view_after_addPartitions _ _ hacc
      rw [hflatten] at hall
      rw [List.take_length, ← hv]
      exact hall
    · obtain ⟨first, tail, hbatches, rfl, htail⟩ := List.map_eq_append_iff.mp hsplit
      obtain ⟨batch, others, rfl, rfl, rfl⟩ := List.map_eq_cons_iff.mp htail
      have hm := executor.makes_addPartitions_stopped hclient table paths hpaths found hr specs
        hspecs first others batch hbatches hacc failure hf
      refine ⟨_, _, first.flatten.length, hm, ?_, fun hall => ?_⟩
      · have hfirst := hserves.view_after_addPartitions _ _ hacc
        have hkeeps := hserves.keeps _ _ failure hf
        have htake : partitions.take first.flatten.length = first.flatten := by
          rw [← hflatten, hbatches, List.flatten_append, List.take_left]
        rw [htake, ← hv, Client.after, Client.after_append]
        exact hkeeps.trans hfirst
      · have hlast := ((client.accepts_append _ _ _).mp hall.2).2.1
        exact absurd (hf.symm.trans hlast) (by simp)

end CatalogSync.Executor
