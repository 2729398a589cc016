import CatalogSync.Proofs.Sync.Course.Operations
import CatalogSync.Proofs.Traversal

namespace CatalogSync

-- The part of the catalog that an operation is about, if it writes to it at most once.
def Operation.target? (configured : String) : Operation → Option Target
  | createDatabase name => some (.database name)
  | createTable request => some (.table ⟨configured, request.name⟩)
  | updateTable name _ | getSchema name _ | updatePartitions name _ | updateComments name _ =>
    some (.table ⟨configured, name⟩)
  | addPartitions _ _ | dropPartitions _ _ | close => none

namespace Executor

variable {σ τ : Type} {executor : Executor σ} {client : Client σ} {session : Session σ}

theorem newTable_target {request : TableRequest} {table : Table}
    (h : executor.newTable request = .ok table) :
    (Call.createTable table).target? =
      some (.table ⟨executor.settings.databaseName, request.name⟩) := by
  obtain ⟨-, hdatabase, hname, -⟩ := newTable_ok h
  rw [Call.target?, hdatabase, hname]

section Target

variable {operation : Operation} {target : Target}
  (htarget : operation.target? executor.settings.databaseName = some target)

include htarget

theorem not_isPiecemeal_of_target : operation.isPiecemeal = false := by
  cases operation with
  | addPartitions | dropPartitions => cases htarget
  | _ => rfl

-- A plan writes to nothing but the target of its operation.
theorem target_of_mem_plan {calls : List Call}
    (hplan : executor.Plan client session operation calls) :
    ∀ call ∈ calls, call.isReading = true ∨ call.target? = some target := by
  cases hplan with
  | idle => exact List.forall_mem_nil _
  | createDatabase => exact List.forall_mem_singleton.mpr (.inr htarget)
  | createTable request table htable =>
      exact List.forall_mem_singleton.mpr (.inr ((newTable_target htable).trans htarget))
  | getSchema => exact List.forall_mem_singleton.mpr (.inl rfl)
  | updateTable | updatePartitions | updateComments =>
      exact List.forall_mem_cons.mpr ⟨.inl rfl, List.forall_mem_singleton.mpr (.inr htarget)⟩
  | addPartitions | dropPartitions | close => cases htarget

end Target

-- An operation that writes at most once either fails and leaves the whole catalog as it is, or
-- succeeds and leaves everything besides its target as it is. Any of its calls may be made to fail.
theorem perform_all_or_nothing {executor : Executor (Store × τ)} {interruption : Interruption τ}
    (hclient : executor.client = some (Store.client.interrupted interruption))
    (operation : Operation) (target : Target)
    (htarget : operation.target? executor.settings.databaseName = some target)
    (session : Session (Store × τ)) :
    let outcome := (operation.perform executor).perform session
    (∀ failure, outcome.1 = .error failure → outcome.2.catalog.1 = session.catalog.1) ∧
    (outcome.1 = .ok () →
      outcome.2.catalog.1.besides target = session.catalog.1.besides target) := by
  intro outcome
  have hserves := Client.serves_interrupted interruption
  have honce := not_isPiecemeal_of_target htarget
  obtain ⟨calls, hcourse, -, hcatalog⟩ := executor.takes_perform hclient session operation
  rw [hcatalog]
  change executor.Course _ session operation calls outcome.1 at hcourse
  generalize outcome.1 = result at hcourse
  cases hcourse with
  | completed _ hplan =>
      refine ⟨nofun, fun _ => ?_⟩
      exact hserves.besides_after target calls (target_of_mem_plan htarget hplan) session.catalog
  | refused done call failure report _ hfails _ hstart =>
      refine ⟨fun _ _ => ?_, nofun⟩
      rw [Client.after_append, Client.after_singleton]
      exact (hserves.keeps call _ failure hfails).trans
        (hserves.view_after_readings done (hstart.isReading honce) session.catalog)
  | stopped _ failure _ _ hstart =>
      refine ⟨fun _ _ => ?_, nofun⟩
      exact hserves.view_after_readings calls (hstart.isReading honce) session.catalog

-- The columns of a table are changed in a second attempt, when the first one has left no trace.
theorem perform_all_or_nothing_daily :
    let executor := daily (Store.client.interrupted PendingFailure.interruption) 0
    let operation := Operation.updateTable "sales" [{ name := "id", type := .boolean }]
    let target := Target.table ⟨"default", "sales"⟩
    let session : Session (Store × List PendingFailure) :=
      { catalog := (dailyStore, [⟨.alterTable, 1, ⟨.reported .connection "down", []⟩⟩]) }
    let first := (operation.perform executor).perform session
    let second := (operation.perform executor).perform first.2
    first.1 ≠ .ok () ∧ first.2.catalog.1 = session.catalog.1 ∧
      second.1 = .ok () ∧ second.2.catalog.1 ≠ session.catalog.1 ∧
      second.2.catalog.1.besides target = session.catalog.1.besides target := by
  intro executor operation target session first second
  have hfirst : first.1.toOption = none := by decide +kernel
  have hsecond : second.1 = .ok () := Traversal.eq_ok_of_toOption (by decide +kernel)
  have hchanged : second.2.catalog.1 ≠ session.catalog.1 := by decide +kernel
  cases hr : first.1 with
  | ok done =>
      rw [hr] at hfirst
      cases hfirst
  | error failure =>
      have hkept := (perform_all_or_nothing rfl operation target rfl session).1 failure hr
      have hbesides := (perform_all_or_nothing rfl operation target rfl first.2).2 hsecond
      refine ⟨nofun, hkept, hsecond, hchanged, ?_⟩
      exact hbesides.trans (congrArg (·.besides target) hkept)

end Executor

end CatalogSync
