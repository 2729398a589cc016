import CatalogSync.Proofs.Sync.Course.Flaws
import CatalogSync.Proofs.Sync.Course.Operations

namespace CatalogSync.Executor

variable {σ : Type} {executor : Executor σ} {client : Client σ} {session : Session σ}
  {operation : Operation}

-- An operation makes no call after one that fails, and reports this one. An operation that succeeds
-- has carried out its plan.
theorem perform_fails_fast (hclient : executor.client = some client) (operation : Operation)
    (session : Session σ) :
    let outcome := (operation.perform executor).perform session
    ∃ calls, outcome.2.calls = session.calls ++ calls ∧
      outcome.2.catalog = client.after calls session.catalog ∧
      (∀ done call rest failure, calls = done ++ call :: rest →
        client.failure? call (client.after done session.catalog) = some failure →
        rest = [] ∧ executor.Start client session operation done ∧
          ∃ report, outcome.1 = .error report ∧
            executor.Reports operation call failure report) ∧
      (outcome.1 = .ok () → executor.Plan client session operation calls) := by
  intro outcome
  obtain ⟨calls, hcourse, hcalls, hcatalog⟩ := executor.takes_perform hclient session operation
  refine ⟨calls, hcalls, hcatalog, ?_⟩
  change executor.Course client session operation calls outcome.1 at hcourse
  generalize outcome.1 = result at hcourse
  cases hcourse with
  | completed _ hplan haccepts =>
      refine ⟨?_, fun _ => hplan⟩
      rintro done call rest failure rfl hfails
      cases (Client.failure?_of_accepts haccepts).symm.trans hfails
  | refused done last found report haccepts hfound hreport hstart =>
      refine ⟨?_, nofun⟩
      intro first call rest failure hsplit hfails
      obtain ⟨hrest, rfl, rfl⟩ := Client.eq_last_of_failure? haccepts hsplit hfails
      obtain rfl := Option.some.inj (hfound.symm.trans hfails)
      exact ⟨hrest, hstart, report, rfl, hreport⟩
  | stopped _ found haccepts =>
      refine ⟨?_, nofun⟩
      rintro done call rest failure rfl hfails
      cases (Client.failure?_of_accepts haccepts).symm.trans hfails

-- The first of two paths has no partition, so the second one is not dropped.
theorem perform_fails_fast_daily :
    let executor := daily Store.client 0
    let session : Session Store := { catalog := dailyStore }
    let operation := Operation.dropPartitions "sales" ["day=1", "day=2"]
    let outcome := (operation.perform executor).perform session
    let call := Call.dropPartition "default" "sales" ["1"] false
    outcome.2.calls = [call] ∧ outcome.1 = .error ((⟨.catalog (.partitionMissing ["1"]), []⟩ :
      Failure).leadingTo (.operation {
        database := "default", table := some "sales", operation := "drop partition" })) := by
  intro executor session operation outcome call
  have hmade : outcome.2.calls = [call] := by rfl
  have hclient : executor.client = some Store.client := rfl
  obtain ⟨calls, hcalls, -, hfast, -⟩ := perform_fails_fast hclient operation session
  obtain rfl : [call] = calls := hmade.symm.trans hcalls
  obtain ⟨-, -, report, hreport, hcause⟩ := hfast [] call [] _ rfl rfl
  exact ⟨hmade, hreport.trans (congrArg Except.error hcause)⟩

theorem Reports.cause_or_eq {call : Call} {failure report : Failure}
    (h : executor.Reports operation call failure report) :
    report.cause? = some failure ∨ report = failure := by
  unfold Reports at h
  split at h
  · obtain ⟨failed, rfl, -⟩ := h
    exact .inl rfl
  · split at h
    · exact .inr h
    · exact .inl (congrArg Failure.cause? h)

theorem flawReport_cause_or_eq (executor : Executor σ) (operation : Operation)
    (failure : Failure) :
    operation.wrapsOwnWork = true ∧ failure.isOwn = false ∧
        (executor.flawReport operation failure).cause? = some failure ∨
      executor.flawReport operation failure = failure := by
  cases hwraps : operation.wrapsOwnWork with
  | false => exact .inr (by rw [flawReport, hwraps]; rfl)
  | true =>
      have hreport : executor.flawReport operation failure =
          executor.wrapping operation failure := if_pos hwraps
      rw [hreport, wrapping, reported]
      cases ho : failure.isOwn with
      | true => exact .inr rfl
      | false => exact .inl ⟨rfl, rfl, rfl⟩

-- A failure of the catalog comes from the last call, which has failed, unless it comes from an
-- operation's own work: operations that wrap more than their calls also wrap what the translator
-- says of a schema, the extractor of a path and the system of the user, and updates that hold no
-- comment. A failure of the catalog that one of them itself speaks of is passed on.
theorem catalog_failure_origin (hclient : executor.client = some client) (operation : Operation)
    (session : Session σ) (failure : Failure) (hcatalog : failure.isCatalog = true)
    (hfails : ((operation.perform executor).perform session).1 = .error failure) :
    ∃ calls, ((operation.perform executor).perform session).2.calls = session.calls ++ calls ∧
      ((∃ done call found, calls = done ++ [call] ∧
          client.failure? call (client.after done session.catalog) = some found ∧
          (failure.cause? = some found ∨ failure = found)) ∨
        client.Accepts calls session.catalog ∧ ∃ found, executor.Foreign operation found ∧
          (operation.wrapsOwnWork = true ∧ found.isOwn = false ∧ failure.cause? = some found ∨
            failure = found)) := by
  obtain ⟨calls, hcourse, hcalls, -⟩ := executor.takes_perform hclient session operation
  refine ⟨calls, hcalls, ?_⟩
  rw [hfails] at hcourse
  cases hcourse with
  | refused done call found _ _ hfound hreport =>
      exact .inl ⟨done, call, found, rfl, hfound, hreport.cause_or_eq⟩
  | stopped _ found haccepts hflaw =>
      have hreport := executor.flawReport_cause_or_eq operation found
      refine .inr ⟨haccepts, found, ?_, hreport⟩
      rcases hflaw.foreign_or with hforeign | ⟨hc, ho⟩
      · exact hforeign
      · -- The report is the flaw itself, which is no failure of the catalog.
        rcases hreport with ⟨hwraps, hown, -⟩ | heq
        · exact absurd (hown.symm.trans (ho hwraps)) (by simp)
        · rw [heq] at hcatalog
          exact absurd (hc.symm.trans hcatalog) (by simp)

-- The catalog has no entry for the table.
theorem catalog_failure_origin_daily :
    let executor := daily Store.client 0
    let session : Session Store := { catalog := .empty }
    let operation := Operation.updatePartitions "sales" ["day=1"]
    let outcome := (operation.perform executor).perform session
    let failure : Failure := (⟨.catalog (.tableMissing "default" "sales"), []⟩ : Failure).leadingTo
      (.operation { database := "default", table := some "sales", operation := "update partition" })
    outcome.1 = .error failure ∧ failure.isCatalog = true ∧
      ∃ done call found, outcome.2.calls = done ++ [call] ∧
        Store.client.failure? call (Store.client.after done .empty) = some found ∧
        (failure.cause? = some found ∨ failure = found) := by
  intro executor session operation outcome failure
  have hfails : outcome.1 = .error failure := by rfl
  have hmade : outcome.2.calls = [.getTable "default" "sales"] := by rfl
  have hrefused : Store.client.failure? (.getTable "default" "sales") .empty ≠ none := nofun
  have hclient : executor.client = some Store.client := rfl
  obtain ⟨calls, hcalls, horigin⟩ :=
    catalog_failure_origin hclient operation session failure rfl hfails
  obtain rfl : [.getTable "default" "sales"] = calls := hmade.symm.trans hcalls
  rcases horigin with ⟨done, call, found, hsplit, hfound⟩ | ⟨haccepts, -⟩
  · exact ⟨hfails, rfl, done, call, found, hmade.trans hsplit, hfound⟩
  · exact absurd haccepts.1 hrefused

-- A removal speaks of the catalog when its extractor fails, although it has made no call. A change
-- passes the extractor's failure on.
theorem dropPartitions_fails_without_call :
    let unread : Problem := .reported .value "cannot parse day=1"
    let executor : Executor Store := { daily Store.client 0 with
      extractor := ⟨"raising", fun _ => .error ⟨unread, []⟩⟩ }
    let session : Session Store := { catalog := dailyStore }
    let dropped := (executor.dropPartitions "sales" ["day=1"]).perform session
    let updated := (executor.updatePartitions "sales" ["day=1"]).perform session
    dropped.1 = .error ⟨.operation {
      database := "default", table := some "sales", operation := "drop partition" }, [unread]⟩ ∧
    dropped.2.calls = [] ∧ updated.1 = .error ⟨unread, []⟩ :=
  ⟨rfl, rfl, rfl⟩

end CatalogSync.Executor
