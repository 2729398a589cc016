import CatalogSync.Proofs.Sync.Calls.Basic

namespace CatalogSync.Executor

open CatalogSync.Action

variable {σ : Type} {client : Client σ} {before : σ} {calls : List Call}

variable (executor : Executor σ) (table : String)

-- The call that gives partitions their present records.
def repointing (entry : Table) (specs : List PartitionSpec) : Call :=
  .alterPartitions executor.settings.databaseName table
    (specs.map (executor.partition table entry.layout)) none

-- The partition keys that values are checked against before they are dropped.
def knownKeys : Option (List String) :=
  if executor.settings.partitionFields.isEmpty then none else some executor.settings.partitionFields

-- The values that a path is dropped under.
def droppedValues (path : String) : Except Failure (List String) :=
  executor.extractor.extract path executor.knownKeys

-- The call that drops the entry of a partition. It never asks for its files.
def dropping (values : List String) : Call :=
  .dropPartition executor.settings.databaseName table values false

theorem makes_updatePartitions_nil :
    Makes client (executor.updatePartitions table []) before []
      (.ok (.nothing .updatePartitions table)) :=
  (makes_pure _).log_bind

theorem makes_dropPartitions_nil :
    Makes client (executor.dropPartitions table []) before []
      (.ok (.nothing .dropPartitions table)) :=
  (makes_pure _).log_bind

theorem makes_dropEach_invalid (path : String) (paths : List String) (failure : Failure)
    (h : executor.droppedValues path = .error failure) :
    Makes client (executor.dropEach table (path :: paths)) before [] (.error failure) :=
  Makes.bind_error (makes_ofExcept_bind_error h)

theorem makes_dropPartitions (paths : List String) (hpaths : paths ≠ [])
    {result : Except Failure Unit}
    (h : Makes client (executor.dropEach table paths) before calls result) :
    Makes client (executor.dropPartitions table paths) before calls
      ((result.mapError (reported executor.settings.databaseName table .dropPartitions)).map
        fun _ => {
          operation := .dropPartitions, table, requested := paths.length
          applied := paths.length }) := by
  simp only [Executor.dropPartitions, List.isEmpty_iff, hpaths, if_false]
  cases result with
  | error failure => exact (executor.makes_wrapped_error _ _ h).bind_error.log_bind
  | ok done =>
      rw [← List.append_nil calls]
      refine ((executor.makes_wrapped_ok _ _ h).bind ?_).log_bind
      exact makes_pure _

variable (hclient : executor.client = some client)

include hclient

section Update

variable (paths : List String) (hpaths : paths ≠ [])

include hpaths

theorem makes_updatePartitions_unread (failure : Failure)
    (h : (client.answer (executor.reading table) before).1 = .error failure) :
    Makes client (executor.updatePartitions table paths) before [executor.reading table]
      (.error (reported executor.settings.databaseName table .updatePartitions failure)) := by
  simp only [Executor.updatePartitions, List.isEmpty_iff, hpaths, if_false]
  exact (executor.makes_read_error hclient table .updatePartitions failure h _).log_bind

theorem makes_updatePartitions_invalid (entry : Table)
    (hentry : (client.answer (executor.reading table) before).1 = .ok entry) (failure : Failure)
    (hs : executor.specs entry paths = .error failure) :
    Makes client (executor.updatePartitions table paths) before [executor.reading table]
      (.error failure) := by
  simp only [Executor.updatePartitions, List.isEmpty_iff, hpaths, if_false]
  exact (executor.makes_read_bind hclient table .updatePartitions entry hentry
    (makes_ofExcept_bind_error hs)).log_bind

theorem makes_updatePartitions (entry : Table)
    (hentry : (client.answer (executor.reading table) before).1 = .ok entry)
    (specs : List PartitionSpec) (hspecs : executor.specs entry paths = .ok specs) :
    let call := executor.repointing table entry specs
    Makes client (executor.updatePartitions table paths) before [executor.reading table, call]
      (((client.answer call (client.answer (executor.reading table) before).2).1.mapError
          (reported executor.settings.databaseName table .updatePartitions)).map fun _ => {
        operation := .updatePartitions, table, requested := paths.length
        applied := specs.length, batches := 1 }) := by
  intro call
  have hw := executor.makes_wrapped_call hclient (client.answer (executor.reading table) before).2
    table .updatePartitions call
  simp only [Executor.updatePartitions, List.isEmpty_iff, hpaths, if_false]
  refine (executor.makes_read_bind hclient table .updatePartitions entry hentry
    (Makes.ofExcept_bind hspecs ?_)).log_bind
  cases hr : (client.answer call (client.answer (executor.reading table) before).2).1 with
  | error failure =>
      rw [hr] at hw
      exact hw.bind_error
  | ok reply =>
      rw [hr] at hw
      simp only [List.length_map]
      exact hw.bind (makes_pure _)

end Update

theorem makes_dropEach_refused (path : String) (paths : List String) (values : List String)
    (h : executor.droppedValues path = .ok values) (failure : Failure)
    (hf : client.failure? (executor.dropping table values) before = some failure) :
    Makes client (executor.dropEach table (path :: paths)) before
      [executor.dropping table values] (.error failure) := by
  have hc := executor.makes_call hclient before (executor.dropping table values)
  rw [(client.failure?_eq_some_iff _ _ _).mp hf] at hc
  exact Makes.bind_error (Makes.ofExcept_bind h hc.log_bind)

theorem makes_dropEach_cons (path : String) (paths : List String) (values : List String)
    (h : executor.droppedValues path = .ok values)
    (hf : client.failure? (executor.dropping table values) before = none)
    {result : Except Failure Unit} (hn : Makes client (executor.dropEach table paths)
      (client.answer (executor.dropping table values) before).2 calls result) :
    Makes client (executor.dropEach table (path :: paths)) before
      (executor.dropping table values :: calls) result := by
  obtain ⟨reply, hr⟩ := (client.failure?_eq_none_iff _ _).mp hf
  have hc := executor.makes_call hclient before (executor.dropping table values)
  rw [hr] at hc
  have hd : Makes client (dropPartition executor.client executor.settings.databaseName table path
      executor.extractor executor.knownKeys) before [executor.dropping table values] (.ok reply) :=
    Makes.ofExcept_bind h hc.log_bind
  exact hd.bind hn.log_bind

-- Dropping goes along the paths and ends after the first `k` of them: because there are no more,
-- because the next path gives no values, or because the client fails to drop these.
theorem exists_makes_dropEach (before : σ) (paths : List String) :
    ∃ k values, (paths.take k).mapM executor.droppedValues = .ok values ∧
      client.Accepts (values.map (executor.dropping table)) before ∧
      ((k = paths.length ∧ Makes client (executor.dropEach table paths) before
          (values.map (executor.dropping table)) (.ok ())) ∨
        (∃ path failure, paths[k]? = some path ∧ executor.droppedValues path = .error failure ∧
          Makes client (executor.dropEach table paths) before
            (values.map (executor.dropping table)) (.error failure)) ∨
        ∃ path last failure, paths[k]? = some path ∧ executor.droppedValues path = .ok last ∧
          client.failure? (executor.dropping table last)
            (client.after (values.map (executor.dropping table)) before) = some failure ∧
          Makes client (executor.dropEach table paths) before
            (values.map (executor.dropping table) ++ [executor.dropping table last])
            (.error failure)) := by
  induction paths generalizing before with
  | nil => exact ⟨0, [], rfl, trivial, .inl ⟨rfl, makes_pure ()⟩⟩
  | cons path paths ih =>
      cases hv : executor.droppedValues path with
      | error failure =>
          exact ⟨0, [], rfl, trivial, .inr (.inl ⟨path, failure, rfl, hv,
            executor.makes_dropEach_invalid table path paths failure hv⟩)⟩
      | ok first =>
          cases hf : client.failure? (executor.dropping table first) before with
          | some failure =>
              exact ⟨0, [], rfl, trivial, .inr (.inr ⟨path, first, failure, rfl, hv, hf,
                executor.makes_dropEach_refused table hclient path paths first hv failure hf⟩)⟩
          | none =>
              obtain ⟨k, values, hm, ha, hk⟩ :=
                ih (client.answer (executor.dropping table first) before).2
              have hcons : ((path :: paths).take (k + 1)).mapM executor.droppedValues =
                  .ok (first :: values) := by
                rw [List.take_succ_cons, List.mapM_cons, hv, hm]
                rfl
              refine ⟨k + 1, first :: values, hcons, ⟨hf, ha⟩, ?_⟩
              rcases hk with ⟨rfl, hd⟩ | ⟨last, failure, hl, he, hd⟩ |
                  ⟨last, found, failure, hl, he, hn, hd⟩
              · exact .inl ⟨rfl,
                  executor.makes_dropEach_cons table hclient path paths first hv hf hd⟩
              · exact .inr (.inl ⟨last, failure, hl, he,
                  executor.makes_dropEach_cons table hclient path paths first hv hf hd⟩)
              · exact .inr (.inr ⟨last, found, failure, hl, he, hn,
                  executor.makes_dropEach_cons table hclient path paths first hv hf hd⟩)

end CatalogSync.Executor
