import CatalogSync.Proofs.Catalog.Without
import CatalogSync.Proofs.Partition.Spec
import CatalogSync.Proofs.Sync.Convergence
import CatalogSync.Proofs.Sync.Deletion
import CatalogSync.Proofs.Sync.Keys

namespace CatalogSync

open Traversal

namespace Executor

open CatalogSync.Action

variable {ρ : Type}

-- What stops a removal at a path, with the catalog as it is by then: the path gives no values, or
-- there is no partition with these values.
def obstacle? (executor : Executor ρ) (store : Store) (table path : String) : Option Failure :=
  match executor.droppedValues path with
  | .error failure => some failure
  | .ok values =>
    if store.partitions.contains ⟨executor.tableKey table, values⟩ then none
    else some ⟨.catalog (.partitionMissing values), []⟩

-- The catalog without the partitions of some paths.
def withoutPaths (executor : Executor ρ) (store : Store) (table : String) (paths : List String) :
    Store :=
  store.without (executor.tableKey table)
    (paths.filterMap fun path => (executor.droppedValues path).toOption)

-- What stops a removal at its `i`-th path, once the partitions of the paths before it are gone.
def stop? (executor : Executor ρ) (store : Store) (table : String) (paths : List String) (i : Nat) :
    Option Failure :=
  paths[i]?.bind (executor.obstacle? (executor.withoutPaths store table (paths.take i)) table)

theorem withoutPaths_of_mapM {executor : Executor ρ} {paths : List String}
    {values : List (List String)} (h : paths.mapM executor.droppedValues = .ok values)
    (store : Store) (table : String) :
    executor.withoutPaths store table paths = store.without (executor.tableKey table) values := by
  have hm := (mapM_eq_ok_iff paths values).mp h
  have hf : paths.filterMap (fun path => (executor.droppedValues path).toOption) = values := by
    have hc := congrArg (List.filterMap Except.toOption) hm
    simpa [List.filterMap_map, Function.comp_def, Except.toOption] using hc
  rw [withoutPaths, hf]

section Dropping

variable {executor : Executor Store} {store : Store} {table : String} {paths : List String}

theorem obstacle?_of_ok {path : String} {values : List String}
    (h : executor.droppedValues path = .ok values) :
    executor.obstacle? store table path =
      Store.client.failure? (executor.dropping table values) store := by
  rw [obstacle?, h, dropping, Store.failure?_dropPartition]
  rfl

-- A path whose values have been dropped, after those of the paths before it, stops nothing.
theorem stop?_eq_none_of_accepts {k : Nat} {values : List (List String)}
    (hvalues : (paths.take k).mapM executor.droppedValues = .ok values)
    (haccepts : Store.client.Accepts (values.map (executor.dropping table)) store) {j : Nat}
    (hj : j < k) : executor.stop? store table paths j = none := by
  cases hpath : paths[j]? with
  | none => rw [stop?, hpath, Option.bind_none]
  | some path =>
      have hitem : (paths.take k)[j]? = some path := by rw [List.getElem?_take, if_pos hj, hpath]
      obtain ⟨found, hok, hsplit, hbefore⟩ := exists_split_of_mapM hvalues hitem
      rw [List.take_take, Nat.min_eq_left (by omega)] at hbefore
      rw [hsplit, List.map_append, List.map_cons] at haccepts
      have hfirst := ((Store.client.accepts_append _ _ _).mp haccepts).1
      have hafter := Client.serves_store.view_after_dropPartition _ _ _ _ hfirst
      have hnext := Client.failure?_of_accepts haccepts
      rw [stop?, hpath, Option.bind_some, obstacle?_of_ok hok, withoutPaths_of_mapM hbefore,
        ← Store.withDropped_eq_without]
      exact hafter ▸ hnext

-- Dropping goes along the paths up to the first one that stops it, and by then exactly the
-- partitions of the paths before that one are gone.
theorem exists_makes_dropEach_store (hclient : executor.client = some Store.client)
    (store : Store) (table : String) (paths : List String) :
    ∃ calls, ((∀ i, executor.stop? store table paths i = none) ∧
        Makes Store.client (executor.dropEach table paths) store calls (.ok ()) ∧
        Store.client.after calls store = executor.withoutPaths store table paths) ∨
      ∃ i failure, executor.stop? store table paths i = some failure ∧
        (∀ j < i, executor.stop? store table paths j = none) ∧
        Makes Store.client (executor.dropEach table paths) store calls (.error failure) ∧
        Store.client.after calls store = executor.withoutPaths store table (paths.take i) := by
  obtain ⟨k, values, hvalues, haccepts, hcases⟩ :=
    executor.exists_makes_dropEach table hclient store paths
  have hnone : ∀ j < k, executor.stop? store table paths j = none :=
    fun j hj => stop?_eq_none_of_accepts hvalues haccepts hj
  have hafter : Store.client.after (values.map (executor.dropping table)) store =
      executor.withoutPaths store table (paths.take k) := by
    rw [withoutPaths_of_mapM hvalues, ← Store.withDropped_eq_without]
    exact Client.serves_store.view_after_dropPartition _ _ _ _ haccepts
  rcases hcases with ⟨rfl, hm⟩ | ⟨path, failure, hpath, hbad, hm⟩ |
      ⟨path, last, failure, hpath, hok, hf, hm⟩
  · rw [List.take_length] at hafter
    refine ⟨_, .inl ⟨fun i => ?_, hm, hafter⟩⟩
    rcases Nat.lt_or_ge i paths.length with hi | hi
    · exact hnone i hi
    · rw [stop?, List.getElem?_eq_none hi, Option.bind_none]
  · refine ⟨_, .inr ⟨k, failure, ?_, hnone, hm, hafter⟩⟩
    rw [stop?, hpath, Option.bind_some, obstacle?, hbad]
  · refine ⟨_, .inr ⟨k, failure, ?_, hnone, hm, ?_⟩⟩
    · rw [stop?, hpath, Option.bind_some, obstacle?_of_ok hok, ← hafter, hf]
    · rw [Client.after_append, Client.after_singleton]
      exact (Store.keepsOnFailure _ _ failure hf).trans hafter

-- A removal either drops the partitions of all its paths, or it fails at the first path that stops
-- it and has dropped those of the paths before.
theorem dropPartitions_outcome (hclient : executor.client = some Store.client) (table : String)
    (paths : List String) (session : Session Store) :
    let outcome := (executor.dropPartitions table paths).perform session
    let stop := executor.stop? session.catalog table paths
    ((∀ i, stop i = none) ∧
        (∃ done, outcome.1 = .ok done ∧ done.requested = paths.length ∧
          done.applied = paths.length) ∧
        outcome.2.catalog = executor.withoutPaths session.catalog table paths) ∨
      ∃ i failure, stop i = some failure ∧ (∀ j < i, stop j = none) ∧
        outcome.1 =
          .error (reported executor.settings.databaseName table .dropPartitions failure) ∧
        outcome.2.catalog = executor.withoutPaths session.catalog table (paths.take i) := by
  intro outcome stop
  by_cases hpaths : paths = []
  · subst hpaths
    have hm : Makes Store.client _ session.catalog _ _ := executor.makes_dropPartitions_nil table
    obtain ⟨hr, -, ht⟩ := hm session rfl
    refine .inl ⟨fun _ => rfl, ⟨_, hr, rfl, rfl⟩, ht.trans ?_⟩
    exact (session.catalog.withDropped_eq_without (executor.tableKey table) [])
  · obtain ⟨calls, ⟨hnone, hm, hafter⟩ | ⟨i, failure, hstop, hnone, hm, hafter⟩⟩ :=
      executor.exists_makes_dropEach_store hclient session.catalog table paths
    · obtain ⟨hr, -, ht⟩ := executor.makes_dropPartitions table paths hpaths hm session rfl
      exact .inl ⟨hnone, ⟨_, hr, rfl, rfl⟩, ht.trans hafter⟩
    · obtain ⟨hr, -, ht⟩ := executor.makes_dropPartitions table paths hpaths hm session rfl
      exact .inr ⟨i, failure, hstop, hnone, hr, ht.trans hafter⟩

-- For a table with the configured keys, paths that could be added are dropped under the same values.
theorem droppedValues_of_make {path : String} {entry : Table} {spec : PartitionSpec}
    (hfields : executor.settings.partitionFields ≠ [])
    (hkeys : entry.partitionKeys.map Column.name = executor.settings.partitionFields)
    (h : PartitionSpec.make path executor.extractor executor.settings.basePath executor.fileSystem
      (some (entry.partitionKeys.map Column.name)) = .ok spec) :
    executor.droppedValues path = .ok spec.values := by
  obtain ⟨hvalues, hlength, -⟩ := PartitionSpec.make_ok h
  rw [droppedValues, knownKeys, if_neg (by simpa using hfields), ← hkeys]
  exact Extractor.extract_some_iff.mpr ⟨hvalues, hlength⟩

-- An addition that succeeds has had specs for all its paths.
theorem exists_specs_of_addPartitions (hclient : executor.client = some Store.client)
    (session : Session Store) {entry : Table}
    (hread : (Store.client.answer (executor.reading table) session.catalog).1 = .ok entry)
    {done : SyncResult}
    (hdone : ((executor.addPartitions table paths).perform session).1 = .ok done) :
    ∃ specs, executor.specs entry paths = .ok specs := by
  cases hs : executor.specs entry paths with
  | ok specs => exact ⟨specs, rfl⟩
  | error failure =>
      have hpaths : paths ≠ [] := by
        rintro rfl
        cases hs
      have hm := executor.makes_addPartitions_invalid hclient table paths hpaths entry hread
        failure hs
      exact nomatch (hm session rfl).1.symm.trans hdone

-- Nothing stops the removal of partitions that have just been added, each under its own values, and
-- without them the catalog is what it was.
theorem withoutPaths_addPartitions (hclient : executor.client = some Store.client)
    (table : String) (paths : List String) (session : Session Store)
    (hfields : executor.settings.partitionFields ≠ [])
    (htable : executor.HasTable session.catalog table) (values : List (List String))
    (hvalues : paths.mapM executor.extractor.values = .ok values) (hdistinct : values.Nodup)
    (hnew : ∀ wanted ∈ values,
      session.catalog.partitions.contains ⟨executor.tableKey table, wanted⟩ = false)
    {done : SyncResult}
    (hdone : ((executor.addPartitions table paths).perform session).1 = .ok done) :
    let after := ((executor.addPartitions table paths).perform session).2.catalog
    (∀ i, executor.stop? after table paths i = none) ∧
      executor.withoutPaths after table paths = session.catalog := by
  intro after
  obtain ⟨entry, hentry, hkeys⟩ := htable
  have hread : (Store.client.answer (executor.reading table) session.catalog).1 = .ok entry :=
    congrArg Prod.fst (Store.answer_getTable hentry)
  obtain ⟨specs, hspecs⟩ := executor.exists_specs_of_addPartitions hclient session hread hdone
  obtain ⟨-, hafter⟩ := executor.addPartitions_uninterrupted hclient table paths session entry
    hentry specs hspecs
  have hextracted := mapM_ok_of_imp hspecs fun _ _ h => (PartitionSpec.make_ok h).1
  have hdropped := mapM_ok_of_imp hspecs fun _ _ h => droppedValues_of_make hfields hkeys h
  obtain rfl := Except.ok.inj (hvalues.symm.trans hextracted)
  refine ⟨fun i => ?_, ?_⟩
  · cases hpath : paths[i]? with
    | none => rw [stop?, hpath, Option.bind_none]
    | some path =>
        obtain ⟨found, hok, hsplit, hbefore⟩ := exists_split_of_mapM hdropped hpath
        have hmem : found ∈ specs.map PartitionSpec.values := by
          rw [hsplit]
          exact List.mem_append_right _ List.mem_cons_self
        have hfresh : found ∉ (specs.map PartitionSpec.values).take i := by
          rw [hsplit] at hdistinct
          intro hin
          exact (List.nodup_append.mp hdistinct).2.2 found hin found List.mem_cons_self rfl
        obtain ⟨spec, hspec, rfl⟩ := List.mem_map.mp hmem
        have hadded := Store.contains_foldl_addPartition session.catalog.partitions _ _
          (List.mem_map_of_mem hspec : executor.partition table entry.layout spec ∈ _)
        have hstored : after.partitions.contains ⟨executor.tableKey table, spec.values⟩ = true := by
          rw [show after = _ from hafter]
          exact hadded
        rw [stop?, hpath, Option.bind_some, obstacle?, hok, withoutPaths_of_mapM hbefore]
        simp only [Store.contains_without, hfresh, hstored, not_false_eq_true, decide_true,
          Bool.and_self, if_true]
  · rw [withoutPaths_of_mapM hdropped, show after = _ from hafter]
    refine Store.without_withAdded _ _ _ _ ?_ hnew
    intro partition hpartition
    obtain ⟨spec, hspec, rfl⟩ := List.mem_map.mp hpartition
    exact ⟨rfl, List.mem_map_of_mem hspec⟩

-- The outcome at a given path, which is then the only one that the removal can stop at.
theorem dropPartitions_of_stop (hclient : executor.client = some Store.client) (table : String)
    (paths : List String) (session : Session Store) {i : Nat} {failure : Failure}
    (hstop : executor.stop? session.catalog table paths i = some failure)
    (hfirst : ∀ j < i, executor.stop? session.catalog table paths j = none) :
    let outcome := (executor.dropPartitions table paths).perform session
    outcome.1 = .error (reported executor.settings.databaseName table .dropPartitions failure) ∧
      outcome.2.catalog = executor.withoutPaths session.catalog table (paths.take i) := by
  intro outcome
  rcases executor.dropPartitions_outcome hclient table paths session with
    ⟨hnone, -⟩ | ⟨k, found, hk, hbefore, hr, ht⟩
  · exact nomatch (hnone i).symm.trans hstop
  · rcases Nat.lt_trichotomy k i with hlt | rfl | hgt
    · exact nomatch (hfirst k hlt).symm.trans hk
    · obtain rfl := Option.some.inj (hk.symm.trans hstop)
      exact ⟨hr, ht⟩
    · exact nomatch (hbefore i hgt).symm.trans hstop

theorem dropPartitions_of_no_stop (hclient : executor.client = some Store.client) (table : String)
    (paths : List String) (session : Session Store)
    (hnone : ∀ i, executor.stop? session.catalog table paths i = none) :
    let outcome := (executor.dropPartitions table paths).perform session
    (∃ done, outcome.1 = .ok done ∧ done.requested = paths.length ∧
        done.applied = paths.length) ∧
      outcome.2.catalog = executor.withoutPaths session.catalog table paths := by
  intro outcome
  rcases executor.dropPartitions_outcome hclient table paths session with
    ⟨-, hdone⟩ | ⟨k, failure, hk, -⟩
  · exact hdone
  · exact nomatch (hnone k).symm.trans hk

end Dropping

-- A removal takes away the partitions of the paths before the first one that stops it, and no
-- others; it fails there, or has taken away all if nothing stops it. For a table that was created
-- here it therefore undoes an addition of new partitions. No operation asks for files to be
-- deleted, whatever the client is.
theorem dropPartitions_removes_prefix (executor : Executor Store)
    (hclient : executor.client = some Store.client) (table : String) (paths : List String)
    (session : Session Store) :
    let key := executor.tableKey table
    let added := (executor.addPartitions table paths).perform session
    let dropped := (executor.dropPartitions table paths).perform session
    let restored := (executor.dropPartitions table paths).perform added.2
    let stop := executor.stop? session.catalog table paths
    (∀ i failure, stop i = some failure → (∀ j < i, stop j = none) →
      dropped.1 =
          .error (reported executor.settings.databaseName table .dropPartitions failure) ∧
        dropped.2.catalog = executor.withoutPaths session.catalog table (paths.take i)) ∧
    ((∀ i, stop i = none) →
      (∃ done, dropped.1 = .ok done ∧ done.requested = paths.length ∧
          done.applied = paths.length) ∧
        dropped.2.catalog = executor.withoutPaths session.catalog table paths) ∧
    (executor.settings.partitionFields ≠ [] → executor.HasTable session.catalog table →
      ∀ values, paths.mapM executor.extractor.values = .ok values → values.Nodup →
      (∀ wanted ∈ values, session.catalog.partitions.contains ⟨key, wanted⟩ = false) →
      (∃ done, added.1 = .ok done) →
      (∃ done, restored.1 = .ok done ∧ done.requested = paths.length ∧
          done.applied = paths.length) ∧
        restored.2.catalog = session.catalog) ∧
    (∀ request start created operations,
      ((executor.createTable request).perform start).1 = .ok created →
      executor.HasTable (Operation.run executor operations
        ((executor.createTable request).perform start).2).catalog request.name) ∧
    ∀ {τ : Type} (client : Client τ) (operation : Operation),
      SparesFiles (operation.perform (executor.withClient client)) := by
  intro key added dropped restored stop
  refine ⟨fun i failure => executor.dropPartitions_of_stop hclient table paths session,
    executor.dropPartitions_of_no_stop hclient table paths session, ?_, ?_,
    fun client operation => (executor.withClient client).sparesFiles_perform operation⟩
  · intro hfields htable values hvalues hdistinct hnew ⟨done, hdone⟩
    obtain ⟨hnone, hback⟩ := executor.withoutPaths_addPartitions hclient table paths session hfields
      htable values hvalues hdistinct hnew hdone
    obtain ⟨hok, hrest⟩ := executor.dropPartitions_of_no_stop hclient table paths added.2 hnone
    exact ⟨hok, hrest.trans hback⟩
  · intro request start created operations hcreated
    exact (hasTable_createTable hclient Client.serves_store request start created hcreated).run
      hclient Client.serves_store operations _

-- Of three paths the second one has no partition, so only the partition of the first one goes. The
-- addition of two partitions is undone.
theorem dropPartitions_removes_prefix_daily :
    let executor := daily Store.client 0
    let added := (executor.addPartitions "sales" ["day=1", "day=2"]).perform
      { catalog := dailyStore }
    let dropped := (executor.dropPartitions "sales" ["day=1", "day=3", "day=2"]).perform added.2
    let restored := (executor.dropPartitions "sales" ["day=1", "day=2"]).perform added.2
    (∃ failure, dropped.1 = .error failure) ∧
      dropped.2.catalog.partitions.values.map Partition.values = [["2"]] ∧
      (∃ done, restored.1 = .ok done ∧ done.applied = 2) ∧
      restored.2.catalog = dailyStore := by
  intro executor added dropped restored
  -- The removal is stopped at its second path, and not at the first one.
  have hstops : ∃ failure,
      executor.stop? added.2.catalog "sales" ["day=1", "day=3", "day=2"] 1 = some failure :=
    Option.isSome_iff_exists.mp (by decide +kernel)
  have hbefore : ∀ j < 1,
      executor.stop? added.2.catalog "sales" ["day=1", "day=3", "day=2"] j = none := by
    intro j hj
    obtain rfl : j = 0 := by omega
    exact Option.isNone_iff_eq_none.mp (by decide +kernel)
  have hdrop := executor.dropPartitions_removes_prefix rfl "sales" ["day=1", "day=3", "day=2"]
    added.2
  obtain ⟨failure, hstop⟩ := hstops
  with_reducible obtain ⟨hr, ht⟩ := hdrop.1 1 failure hstop hbefore
  have hleft := congrArg (fun store => store.partitions.values.map Partition.values) ht
  -- The addition succeeds, with values that are new.
  have hreport : added.1.toOption = some ⟨.addPartitions, "sales", 2, 2, 1, false⟩ := by
    decide +kernel
  have hadded : ∃ done, added.1 = .ok done := ⟨_, Traversal.eq_ok_of_toOption hreport⟩
  have hvalues : ["day=1", "day=2"].mapM executor.extractor.values = .ok [["1"], ["2"]] :=
    Traversal.eq_ok_of_toOption (by decide +kernel)
  have hnew : ∀ wanted ∈ [["1"], ["2"]],
      dailyStore.partitions.contains ⟨executor.tableKey "sales", wanted⟩ = false := by
    decide +kernel
  have hfields : executor.settings.partitionFields ≠ [] := by decide +kernel
  have htable : executor.HasTable dailyStore "sales" := ⟨dailyTable, by decide +kernel, rfl⟩
  have hundo := executor.dropPartitions_removes_prefix rfl "sales" ["day=1", "day=2"]
    { catalog := dailyStore }
  with_reducible have hends := hundo.2.2.1 hfields htable _ hvalues (by decide) hnew hadded
  obtain ⟨⟨done, hdone, -, happlied⟩, hback⟩ := hends
  with_reducible refine ⟨⟨_, hr⟩, hleft.trans ?_, ⟨done, hdone, ?_⟩, hback⟩
  · decide +kernel
  · exact happlied

end Executor

end CatalogSync
