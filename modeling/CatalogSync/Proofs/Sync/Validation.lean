import CatalogSync.Proofs.Catalog.Service
import CatalogSync.Proofs.Sync.Calls.Batches
import CatalogSync.Proofs.Sync.Calls.Partitions
import CatalogSync.Proofs.Traversal

namespace CatalogSync

-- The failure is about the values of a partition path.
def Failure.isValues (failure : Failure) : Bool :=
  match failure.problem with
  | .values _ | .reported .values _ => true
  | _ => false

-- The result is a failure about the values of a partition path.
def isValuesFailure {α : Type} : Except Failure α → Bool
  | .ok _ => false
  | .error failure => failure.isValues

theorem exists_of_isValuesFailure {α : Type} {result : Except Failure α}
    (h : isValuesFailure result = true) :
    ∃ failure, result = .error failure ∧ failure.isValues = true := by
  cases result with
  | ok a => cases h
  | error failure => exact ⟨failure, rfl, h⟩

-- Whatever the catalog in memory refuses is not about a path.
theorem Store.isValues_of_failure? {call : Call} {store : Store} {failure : Failure}
    (h : client.failure? call store = some failure) : failure.isValues = false := by
  rw [Client.failure?_eq_some_iff] at h
  simp only [client] at h
  unfold answer refuse at h
  cases call <;> simp only at h <;> (repeat' split at h) <;> cases h <;> rfl

namespace Executor

open CatalogSync.Action

variable {σ : Type}

-- The failures about paths that an operation reports are those that come up in it.
theorem reported_isValues {database : String} {table : Option String} {kind : OperationKind}
    {failure : Failure} (h : (reported database table kind failure).isValues = true) :
    reported database table kind failure = failure ∧ failure.isValues = true := by
  by_cases ho : failure.isOwn = true
  · have hr : reported database table kind failure = failure := if_pos ho
    exact ⟨hr, hr ▸ h⟩
  · rw [reported, if_neg ho] at h
    cases h

-- Between the two sessions no partition is written.
def Untouched (before after : Session σ) : Prop :=
  after.catalog = before.catalog ∧ ∃ calls, after.calls = before.calls ++ calls ∧
    ∀ call ∈ calls, call.changesPartitions = false

section Stopping

variable (executor : Executor Store) (hclient : executor.client = some Store.client)
  (table : String) (paths : List String) (session : Session Store) (failure : Failure)
  (hvalues : failure.isValues = true)

-- Nothing but the table is read before the operation stops at a path.
private theorem untouched_of_reading {action : Action Store SyncResult}
    {result : Except Failure SyncResult}
    (hm : Makes Store.client action session.catalog [executor.reading table] result) :
    Untouched session (action.perform session).2 := by
  obtain ⟨-, hc, ht⟩ := hm session rfl
  refine ⟨?_, [executor.reading table], hc, ?_⟩
  · rw [ht]
    exact Client.serves_store.view_getTable session.catalog _ _
  · intro call hcall
    rw [List.mem_singleton.mp hcall]
    rfl

include hvalues

-- The catalog's own answers do not lead to a failure about a path.
private theorem not_reported {kind : OperationKind} {call : Call} {store : Store} {found : Failure}
    (hf : (Store.client.answer call store).1 = .error found)
    (hr : reported executor.settings.databaseName table kind found = failure) : False := by
  subst hr
  have hn := Store.isValues_of_failure? ((Store.client.failure?_eq_some_iff _ _ _).mpr hf)
  exact absurd (hn.symm.trans (reported_isValues hvalues).2) (by simp)

include hclient

theorem addPartitions_untouched
    (hr : ((executor.addPartitions table paths).perform session).1 = .error failure) :
    Untouched session ((executor.addPartitions table paths).perform session).2 := by
  by_cases hpaths : paths = []
  · subst hpaths
    have hm : Makes Store.client _ session.catalog _ _ := executor.makes_addPartitions_nil table
    exact absurd ((hm session rfl).1.symm.trans hr) (by simp)
  cases ha : (Store.client.answer (executor.reading table) session.catalog).1 with
  | error found =>
      have hm := executor.makes_addPartitions_unread hclient table paths hpaths found ha
      have he := Except.error.inj ((hm session rfl).1.symm.trans hr)
      exact (executor.not_reported table failure hvalues ha he).elim
  | ok entry =>
      cases hs : executor.specs entry paths with
      | error found =>
          exact executor.untouched_of_reading table session
            (executor.makes_addPartitions_invalid hclient table paths hpaths entry ha found hs)
      | ok specs =>
          have hm := executor.makes_addPartitions_sent hclient table paths hpaths entry ha specs hs
            (Store.accepts_addPartitions _ _)
          exact absurd ((hm session rfl).1.symm.trans hr) (by simp)

theorem updatePartitions_untouched
    (hr : ((executor.updatePartitions table paths).perform session).1 = .error failure) :
    Untouched session ((executor.updatePartitions table paths).perform session).2 := by
  by_cases hpaths : paths = []
  · subst hpaths
    have hm : Makes Store.client _ session.catalog _ _ := executor.makes_updatePartitions_nil table
    exact absurd ((hm session rfl).1.symm.trans hr) (by simp)
  cases ha : (Store.client.answer (executor.reading table) session.catalog).1 with
  | error found =>
      have hm := executor.makes_updatePartitions_unread table hclient paths hpaths found ha
      have he := Except.error.inj ((hm session rfl).1.symm.trans hr)
      exact (executor.not_reported table failure hvalues ha he).elim
  | ok entry =>
      cases hs : executor.specs entry paths with
      | error found =>
          exact executor.untouched_of_reading table session
            (executor.makes_updatePartitions_invalid table hclient paths hpaths entry ha found hs)
      | ok specs =>
          have hm := executor.makes_updatePartitions table hclient paths hpaths entry ha specs hs
          have hout := (hm session rfl).1.symm.trans hr
          cases hw : (Store.client.answer (executor.repointing table entry specs)
            (Store.client.answer (executor.reading table) session.catalog).2).1 with
          | error found =>
              rw [hw] at hout
              exact (executor.not_reported table failure hvalues hw (Except.error.inj hout)).elim
          | ok reply =>
              rw [hw] at hout
              cases hout

-- A removal has dropped the partitions of all paths before the one that it stops at.
theorem dropPartitions_stopped
    (hr : ((executor.dropPartitions table paths).perform session).1 = .error failure) :
    let after := ((executor.dropPartitions table paths).perform session).2
    ∃ k path values, paths[k]? = some path ∧ executor.droppedValues path = .error failure ∧
      (paths.take k).mapM executor.droppedValues = .ok values ∧
      after.calls = session.calls ++ values.map (executor.dropping table) ∧
      after.catalog = session.catalog.withDropped (executor.tableKey table) values ∧
      Store.client.Accepts (values.map (executor.dropping table)) session.catalog := by
  intro after
  by_cases hpaths : paths = []
  · subst hpaths
    have hm : Makes Store.client _ session.catalog _ _ := executor.makes_dropPartitions_nil table
    exact absurd ((hm session rfl).1.symm.trans hr) (by simp)
  obtain ⟨k, values, hvs, hacc, hcases⟩ :=
    executor.exists_makes_dropEach table hclient session.catalog paths
  rcases hcases with ⟨-, hm⟩ | ⟨path, found, hpath, hbad, hm⟩ | ⟨_, last, found, -, -, hf, hm⟩
  · have hm := executor.makes_dropPartitions table paths hpaths hm
    exact nomatch (hm session rfl).1.symm.trans hr
  · have hm := executor.makes_dropPartitions table paths hpaths hm
    obtain ⟨hout, hc, ht⟩ := hm session rfl
    obtain rfl := Except.error.inj (hout.symm.trans hr)
    obtain ⟨hfound, -⟩ := reported_isValues hvalues
    refine ⟨k, path, values, hpath, ?_, hvs, hc, ?_, hacc⟩
    · rw [hfound, hbad]
    · exact ht.trans (Client.serves_store.view_after_dropPartition _ _ _ _ hacc)
  · have hm := executor.makes_dropPartitions table paths hpaths hm
    have he := Except.error.inj ((hm session rfl).1.symm.trans hr)
    have ha := (Store.client.failure?_eq_some_iff _ _ _).mp hf
    exact (executor.not_reported table failure hvalues ha he).elim

omit hvalues hclient in
-- A removal that has dropped something has changed the catalog.
private theorem withDropped_ne (values : List (List String)) (hne : values ≠ []) (store : Store)
    (hacc : Store.client.Accepts (values.map (executor.dropping table)) store) :
    store.withDropped (executor.tableKey table) values ≠ store := by
  obtain ⟨first, rest, rfl⟩ := List.exists_cons_of_ne_nil hne
  obtain ⟨reply, hr⟩ := (Store.client.failure?_eq_none_iff _ _).mp hacc.1
  obtain ⟨hstored, -⟩ := Store.answer_dropPartition_ok (Prod.ext hr rfl)
  intro heq
  have hgone : (store.withDropped (executor.tableKey table) (first :: rest)).partitions.get?
      ⟨executor.tableKey table, first⟩ = none :=
    (Store.get?_foldl_erase _ _ _ _).trans (if_pos ⟨rfl, List.mem_cons_self⟩)
  rw [heq] at hgone
  have hmissing := (Dictionary.contains_eq_false_iff _ _).mpr hgone
  exact absurd (hmissing.symm.trans hstored) (by simp)

end Stopping

-- Additions and changes look at all paths before they write anything, so one that stops at a path
-- has left the partitions alone. A removal looks at one path at a time: what it has dropped by then
-- are the partitions of all paths before the one it stops at, so it has left the partitions alone
-- if and only if that one is the first.
theorem values_failure_writes (executor : Executor Store)
    (hclient : executor.client = some Store.client) (table : String) (paths : List String)
    (session : Session Store) (failure : Failure) (hvalues : failure.isValues = true) :
    let added := (executor.addPartitions table paths).perform session
    let updated := (executor.updatePartitions table paths).perform session
    let dropped := (executor.dropPartitions table paths).perform session
    (added.1 = .error failure → Untouched session added.2) ∧
    (updated.1 = .error failure → Untouched session updated.2) ∧
    (dropped.1 = .error failure →
      ∃ k path values, paths[k]? = some path ∧ executor.droppedValues path = .error failure ∧
        (paths.take k).mapM executor.droppedValues = .ok values ∧
        dropped.2.calls = session.calls ++ values.map (executor.dropping table) ∧
        dropped.2.catalog = session.catalog.withDropped (executor.tableKey table) values ∧
        (dropped.2.catalog = session.catalog ↔ k = 0) ∧
        (Untouched session dropped.2 ↔ k = 0)) := by
  refine ⟨executor.addPartitions_untouched hclient table paths session failure hvalues,
    executor.updatePartitions_untouched hclient table paths session failure hvalues, ?_⟩
  intro hr
  obtain ⟨k, path, values, hpath, hbad, hvs, hc, ht, hacc⟩ :=
    executor.dropPartitions_stopped hclient table paths session failure hvalues hr
  have hlength : values.length = k := by
    rw [Traversal.length_of_mapM_ok hvs, List.length_take]
    obtain ⟨hk, -⟩ := List.getElem?_eq_some_iff.mp hpath
    omega
  have hzero : k = 0 ↔ values = [] := by
    rw [← hlength, List.length_eq_zero_iff]
  have hcatalog : ((executor.dropPartitions table paths).perform session).2.catalog =
      session.catalog ↔ k = 0 := by
    rw [hzero, ht]
    constructor
    · intro heq
      by_cases hne : values = []
      · exact hne
      · exact absurd heq (executor.withDropped_ne table values hne session.catalog hacc)
    · rintro rfl
      rfl
  refine ⟨k, path, values, hpath, hbad, hvs, hc, ht, hcatalog, ?_⟩
  constructor
  · intro hu
    exact hcatalog.mp hu.1
  · intro hk
    refine ⟨hcatalog.mpr hk, [], ?_, fun call hcall => nomatch hcall⟩
    rw [hc, hzero.mp hk, List.map_nil]

-- The second of two paths has no value, and by then the partition of the first one is gone.
theorem values_failure_writes_daily :
    let executor := daily Store.client 0
    let session : Session Store :=
      ((executor.addPartitions "sales" ["day=1"]).perform { catalog := dailyStore }).2
    let dropped := (executor.dropPartitions "sales" ["day=1", "day="]).perform session
    ∃ failure k, dropped.1 = .error failure ∧ failure.isValues = true ∧
      (dropped.2.catalog = session.catalog ↔ k = 0) ∧
      (Untouched session dropped.2 ↔ k = 0) := by
  intro executor session dropped
  have hstops : isValuesFailure dropped.1 = true := by decide +kernel
  obtain ⟨failure, hr, hvalues⟩ := exists_of_isValuesFailure hstops
  have h := executor.values_failure_writes rfl "sales" ["day=1", "day="] session failure hvalues
  have hdropped := h.2.2
  with_reducible obtain ⟨k, -, -, -, -, -, -, -, hcatalog, huntouched⟩ := hdropped hr
  with_reducible exact ⟨failure, k, hr, hvalues, hcatalog, huntouched⟩

theorem dropPartitions_not_untouched :
    let executor := daily Store.client 0
    let session : Session Store :=
      ((executor.addPartitions "sales" ["day=1"]).perform { catalog := dailyStore }).2
    let dropped := (executor.dropPartitions "sales" ["day=1", "day="]).perform session
    isValuesFailure dropped.1 = true ∧ dropped.2.catalog.partitions.entries = [] ∧
      ¬Untouched session dropped.2 := by
  intro executor session dropped
  have hgone : dropped.2.catalog ≠ session.catalog := by decide +kernel
  refine ⟨by decide +kernel, by decide +kernel, ?_⟩
  intro hu
  exact hgone hu.1

end Executor

end CatalogSync
