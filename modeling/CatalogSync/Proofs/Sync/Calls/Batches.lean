import CatalogSync.Proofs.Sync.Calls.Basic

namespace CatalogSync.Executor

open CatalogSync.Action

variable {σ : Type} {client : Client σ} {before : σ}

-- The call that adds a batch.
def sending (batch : List Partition) : Call := .addPartitions batch true false

variable (executor : Executor σ)

-- What is reported of a batch that could not be added.
def batchFailure (table : String) (index count applied : Nat) (failure : Failure) : Failure :=
  failure.leadingTo (.batch {
    database := executor.settings.databaseName, table
    operation := OperationKind.addPartitions.name, index, count, applied })

-- The batches that are sent for the specs of partitions.
def batches (table : String) (entry : Table) (specs : List PartitionSpec) :
    List (List Partition) :=
  (Batch.plan executor.settings.batchSize specs).map
    (·.map (executor.partition table entry.layout))

theorem makes_addPartitions_nil (table : String) :
    Makes client (executor.addPartitions table []) before []
      (.ok (.nothing .addPartitions table)) :=
  (makes_pure _).log_bind

variable (hclient : executor.client = some client)

include hclient

theorem makes_addBatch_ok (table : String) (index count applied : Nat) (batch : List Partition)
    (h : client.failure? (sending batch) before = none) :
    Makes client (executor.addBatch table index count applied batch) before [sending batch]
      (.ok ()) := by
  obtain ⟨reply, hr⟩ := (client.failure?_eq_none_iff _ _).mp h
  have hc := executor.makes_call hclient before (sending batch)
  rw [hr] at hc
  exact hc.orElse_ok.bind (makes_log _)

theorem makes_addBatch_error (table : String) (index count applied : Nat)
    (batch : List Partition) (failure : Failure)
    (h : client.failure? (sending batch) before = some failure) :
    Makes client (executor.addBatch table index count applied batch) before [sending batch]
      (.error (executor.batchFailure table index count applied failure)) := by
  have hc := executor.makes_call hclient before (sending batch)
  rw [(client.failure?_eq_some_iff _ _ _).mp h] at hc
  exact (hc.orElse_error ((makes_log _).bind (makes_throw _))).bind_error

-- Batches that are all added. The number of partitions sent grows with every one of them.
theorem makes_addBatches_ok (table : String) (count index applied : Nat)
    (batches : List (List Partition)) (h : client.Accepts (batches.map sending) before) :
    Makes client (executor.addBatches table count index applied batches) before
      (batches.map sending) (.ok (applied + batches.flatten.length)) := by
  induction batches generalizing before index applied with
  | nil => exact makes_pure applied
  | cons batch batches ih =>
      have hn := ih (index + 1) (applied + batch.length) h.2
      rw [Nat.add_assoc, ← List.length_append] at hn
      exact (executor.makes_addBatch_ok hclient table index count applied batch h.1).bind hn

-- The first batch that fails ends the sending. What is reported counts the batches before it.
theorem makes_addBatches_error (table : String) (count index applied : Nat)
    (done rest : List (List Partition)) (batch : List Partition) (failure : Failure)
    (h : client.Accepts (done.map sending) before)
    (hf : client.failure? (sending batch) (client.after (done.map sending) before) = some failure) :
    Makes client (executor.addBatches table count index applied (done ++ batch :: rest)) before
      (done.map sending ++ [sending batch])
      (.error (executor.batchFailure table (index + done.length) count
        (applied + done.flatten.length) failure)) := by
  induction done generalizing before index applied with
  | nil =>
      exact (executor.makes_addBatch_error hclient table index count applied batch failure
        hf).bind_error
  | cons first done ih =>
      have hn := ih (index + 1) (applied + first.length) h.2 hf
      rw [Nat.add_assoc, Nat.add_assoc, Nat.add_comm 1, ← List.length_append] at hn
      exact (executor.makes_addBatch_ok hclient table index count applied first h.1).bind hn

section Addition

variable (table : String) (paths : List String) (hpaths : paths ≠ [])

include hpaths

theorem makes_addPartitions_unread (failure : Failure)
    (h : (client.answer (executor.reading table) before).1 = .error failure) :
    Makes client (executor.addPartitions table paths) before [executor.reading table]
      (.error (reported executor.settings.databaseName table .addPartitions failure)) := by
  simp only [Executor.addPartitions, List.isEmpty_iff, hpaths, if_false]
  exact (executor.makes_read_error hclient table .addPartitions failure h _).log_bind

variable (entry : Table) (hentry : (client.answer (executor.reading table) before).1 = .ok entry)

include hentry

-- Nothing is sent if one of the paths has no spec.
theorem makes_addPartitions_invalid (failure : Failure)
    (hs : executor.specs entry paths = .error failure) :
    Makes client (executor.addPartitions table paths) before [executor.reading table]
      (.error failure) := by
  simp only [Executor.addPartitions, List.isEmpty_iff, hpaths, if_false]
  exact (executor.makes_read_bind hclient table .addPartitions entry hentry
    (makes_ofExcept_bind_error hs)).log_bind

variable (specs : List PartitionSpec) (hspecs : executor.specs entry paths = .ok specs)

include hspecs

-- All batches are sent if the client accepts them one after the other.
theorem makes_addPartitions_sent
    (h : client.Accepts ((executor.batches table entry specs).map sending)
      (client.answer (executor.reading table) before).2) :
    Makes client (executor.addPartitions table paths) before
      (executor.reading table :: (executor.batches table entry specs).map sending)
      (.ok {
        operation := .addPartitions, table, requested := paths.length
        applied := (executor.batches table entry specs).flatten.length
        batches := (executor.batches table entry specs).length }) := by
  simp only [Executor.addPartitions, List.isEmpty_iff, hpaths, if_false]
  have ha := executor.makes_addBatches_ok hclient table
    (executor.batches table entry specs).length 0 0 _ h
  refine (executor.makes_read_bind hclient table .addPartitions entry hentry
    (Makes.ofExcept_bind hspecs ?_)).log_bind
  simp only [batches, List.length_map, Nat.zero_add] at ha ⊢
  rw [← List.append_nil (List.map sending _)]
  exact ha.bind (makes_pure _)

-- The batches up to the first one that fails are sent.
theorem makes_addPartitions_stopped (done rest : List (List Partition)) (batch : List Partition)
    (hb : executor.batches table entry specs = done ++ batch :: rest)
    (h : client.Accepts (done.map sending) (client.answer (executor.reading table) before).2)
    (failure : Failure) (hf : client.failure? (sending batch) (client.after (done.map sending)
      (client.answer (executor.reading table) before).2) = some failure) :
    Makes client (executor.addPartitions table paths) before
      (executor.reading table :: (done.map sending ++ [sending batch]))
      (.error (executor.batchFailure table done.length
        (executor.batches table entry specs).length done.flatten.length failure)) := by
  simp only [Executor.addPartitions, List.isEmpty_iff, hpaths, if_false]
  have ha := executor.makes_addBatches_error hclient table
    (executor.batches table entry specs).length 0 0 done rest batch failure h hf
  refine (executor.makes_read_bind hclient table .addPartitions entry hentry
    (Makes.ofExcept_bind hspecs ?_)).log_bind
  rw [← hb] at ha
  simp only [batches, List.length_map, Nat.zero_add] at ha ⊢
  exact ha.bind_error

end Addition

end CatalogSync.Executor
