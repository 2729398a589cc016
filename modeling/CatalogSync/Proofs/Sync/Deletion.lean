import CatalogSync.Proofs.Sync.Action
import CatalogSync.Sync.Operation

namespace CatalogSync

-- Whether the call asks for data files to be deleted.
def Call.deletesData : Call → Bool
  | dropPartition _ _ _ deleteData => deleteData
  | _ => false

namespace Action

variable {σ α β : Type} {allowed : Call → Prop} {action : Action σ α}

-- Whatever the client answers, the action makes no other calls than allowed ones.
def MakesOnly (allowed : Call → Prop) (action : Action σ α) : Prop :=
  ∀ session, ∃ calls, (action.perform session).2.calls = session.calls ++ calls ∧
    ∀ call ∈ calls, allowed call

-- Actions that leave the record of calls alone make none.
theorem makesOnly_of_calls_eq (h : ∀ session, (action.perform session).2.calls = session.calls) :
    MakesOnly allowed action := by
  intro session
  exact ⟨[], by rw [h, List.append_nil], List.forall_mem_nil _⟩

theorem makesOnly_pure (a : α) : MakesOnly allowed (pure a : Action σ α) :=
  makesOnly_of_calls_eq fun _ => rfl

theorem makesOnly_throw (failure : Failure) :
    MakesOnly allowed (throw failure : Action σ α) := makesOnly_of_calls_eq fun _ => rfl

theorem makesOnly_ofExcept (result : Except Failure α) :
    MakesOnly allowed (ofExcept result : Action σ α) := makesOnly_of_calls_eq fun _ => rfl

theorem makesOnly_log (event : Event) : MakesOnly allowed (log event : Action σ Unit) :=
  makesOnly_of_calls_eq fun _ => rfl

theorem makesOnly_call (client : Option (Client σ)) (call : Call) (h : allowed call) :
    MakesOnly allowed (Action.call client call) := by
  intro session
  cases client with
  | none => exact ⟨[], (List.append_nil _).symm, List.forall_mem_nil _⟩
  | some client => exact ⟨[call], rfl, List.forall_mem_singleton.mpr h⟩

theorem MakesOnly.bind {next : α → Action σ β} (h : MakesOnly allowed action)
    (hn : ∀ a, MakesOnly allowed (next a)) : MakesOnly allowed (action >>= next) := by
  intro session
  obtain ⟨first, hfirst, hallowed⟩ := h session
  rw [perform_bind]
  generalize action.perform session = outcome at hfirst
  rcases outcome with ⟨failure | a, middle⟩
  · exact ⟨first, hfirst, hallowed⟩
  · obtain ⟨second, hsecond, hrest⟩ := hn a middle
    refine ⟨first ++ second, ?_, List.forall_mem_append.mpr ⟨hallowed, hrest⟩⟩
    rw [hsecond, hfirst, List.append_assoc]

theorem MakesOnly.orElse {handle : Failure → Action σ α} (h : MakesOnly allowed action)
    (hh : ∀ failure, MakesOnly allowed (handle failure)) :
    MakesOnly allowed (action.orElse handle) := by
  intro session
  obtain ⟨first, hfirst, hallowed⟩ := h session
  rw [perform_orElse]
  generalize action.perform session = outcome at hfirst
  rcases outcome with ⟨failure | a, middle⟩
  · obtain ⟨second, hsecond, hrest⟩ := hh failure middle
    refine ⟨first ++ second, ?_, List.forall_mem_append.mpr ⟨hallowed, hrest⟩⟩
    rw [hsecond, hfirst, List.append_assoc]
  · exact ⟨first, hfirst, hallowed⟩

theorem MakesOnly.discard (h : MakesOnly allowed action) :
    MakesOnly allowed (Functor.discard action) := by
  intro session
  obtain ⟨calls, hcalls, hallowed⟩ := h session
  exact ⟨calls, by rw [perform_discard, hcalls], hallowed⟩

end Action

namespace Executor

open CatalogSync.Action

variable {σ α : Type} {allowed : Call → Prop} {action : Action σ α}

theorem makesOnly_wrappedAs (database : String) (table : Option String) (kind : OperationKind)
    (h : MakesOnly allowed action) : MakesOnly allowed (wrappedAs database table kind action) := by
  refine h.orElse fun failure => ?_
  by_cases ho : failure.isOwn
  · simp only [ho, if_true]
    exact (makesOnly_throw failure).bind fun _ => (makesOnly_log _).bind fun _ => makesOnly_throw _
  · simp only [ho]
    exact (makesOnly_log _).bind fun _ => makesOnly_throw _

-- The action asks for no file to be deleted.
def SparesFiles (action : Action σ α) : Prop :=
  MakesOnly (fun call => call.deletesData = false) action

variable (executor : Executor σ)

theorem makesOnly_wrapped (table : Option String) (kind : OperationKind)
    (h : MakesOnly allowed action) : MakesOnly allowed (executor.wrapped table kind action) :=
  makesOnly_wrappedAs _ table kind h

theorem sparesFiles_call (call : Call) (h : call.deletesData = false) :
    SparesFiles (executor.call call) := makesOnly_call executor.client call h

theorem sparesFiles_getTable (table : String) : SparesFiles (executor.getTable table) :=
  executor.sparesFiles_call _ rfl

theorem sparesFiles_addBatch (table : String) (index count applied : Nat)
    (batch : List Partition) :
    SparesFiles (executor.addBatch table index count applied batch) := by
  refine MakesOnly.bind (MakesOnly.orElse ?_ fun failure => ?_) fun _ => makesOnly_log _
  · exact executor.sparesFiles_call _ rfl
  · exact (makesOnly_log _).bind fun _ => makesOnly_throw _

theorem sparesFiles_addBatches (table : String) (count index applied : Nat)
    (batches : List (List Partition)) :
    SparesFiles (executor.addBatches table count index applied batches) := by
  induction batches generalizing index applied with
  | nil => exact makesOnly_pure applied
  | cons batch batches ih =>
      exact (executor.sparesFiles_addBatch table index count applied batch).bind fun _ => ih _ _

theorem sparesFiles_addPartitions (table : String) (paths : List String) :
    SparesFiles (executor.addPartitions table paths) := by
  unfold addPartitions
  split
  · exact (makesOnly_log _).bind fun _ => makesOnly_pure _
  · refine (makesOnly_log _).bind fun _ => ?_
    refine (executor.makesOnly_wrapped _ _ (executor.sparesFiles_getTable table)).bind fun _ => ?_
    refine (makesOnly_ofExcept _).bind fun _ => ?_
    exact (executor.sparesFiles_addBatches table _ _ _ _).bind fun _ => makesOnly_pure _

theorem sparesFiles_updatePartitions (table : String) (paths : List String) :
    SparesFiles (executor.updatePartitions table paths) := by
  unfold updatePartitions
  split
  · exact (makesOnly_log _).bind fun _ => makesOnly_pure _
  · refine (makesOnly_log _).bind fun _ => ?_
    refine (executor.makesOnly_wrapped _ _ (executor.sparesFiles_getTable table)).bind fun _ => ?_
    refine (makesOnly_ofExcept _).bind fun _ => ?_
    refine MakesOnly.bind ?_ fun _ => makesOnly_pure _
    exact executor.makesOnly_wrapped _ _ (executor.sparesFiles_call _ rfl)

-- The one kind of calls that could delete files is made without asking for it.
theorem sparesFiles_dropEach (table : String) (paths : List String) :
    SparesFiles (executor.dropEach table paths) := by
  induction paths with
  | nil => exact makesOnly_pure ()
  | cons path paths ih =>
      refine MakesOnly.bind ?_ fun _ => (makesOnly_log _).bind fun _ => ih
      refine (makesOnly_ofExcept _).bind fun values => (makesOnly_log _).bind fun _ => ?_
      exact executor.sparesFiles_call _ rfl

theorem sparesFiles_dropPartitions (table : String) (paths : List String) :
    SparesFiles (executor.dropPartitions table paths) := by
  unfold dropPartitions
  split
  · exact (makesOnly_log _).bind fun _ => makesOnly_pure _
  · refine (makesOnly_log _).bind fun _ => MakesOnly.bind ?_ fun _ => makesOnly_pure _
    exact executor.makesOnly_wrapped _ _ (executor.sparesFiles_dropEach table paths)

theorem sparesFiles_createTable (request : TableRequest) :
    SparesFiles (executor.createTable request) := by
  refine MakesOnly.bind ?_ fun _ => (makesOnly_log _).bind fun _ => makesOnly_pure _
  refine executor.makesOnly_wrapped _ _ ((makesOnly_ofExcept _).bind fun table => ?_)
  exact (executor.sparesFiles_call _ rfl).bind fun _ => makesOnly_pure _

theorem sparesFiles_updateTable (name : String) (schema : StorageSchema) :
    SparesFiles (executor.updateTable name schema) := by
  refine executor.makesOnly_wrapped _ _ ((makesOnly_ofExcept _).bind fun columns => ?_)
  refine (executor.sparesFiles_getTable name).bind fun table => ?_
  have hwrite := fun request => executor.sparesFiles_call
    (.alterTable executor.settings.databaseName name (table.withColumns columns) request) rfl
  dsimp only
  split
  · exact (makesOnly_log _).bind fun _ => hwrite _
  · exact hwrite _

theorem sparesFiles_close : SparesFiles executor.close := by
  intro session
  by_cases hidle : (session.isClosed || executor.client.isNone) = true
  · refine ⟨[], ?_, List.forall_mem_nil _⟩
    simp only [close, perform_bind, perform_get, hidle, if_true, perform_pure, List.append_nil]
  · have hclose := executor.makesOnly_wrapped none .close
      (executor.sparesFiles_call .close rfl) { session with isClosed := true }
    simpa only [close, perform_bind, perform_get, if_neg hidle, perform_set] using hclose

-- No operation asks the catalog to delete files, whatever its client answers and however it ends.
theorem sparesFiles_perform (operation : Operation) :
    SparesFiles (operation.perform executor) := by
  cases operation with
  | createDatabase name =>
      exact (makesOnly_wrappedAs _ _ _ (executor.sparesFiles_call _ rfl)).bind fun _ =>
        makesOnly_log _
  | createTable request => exact (executor.sparesFiles_createTable request).discard
  | updateTable name schema => exact executor.sparesFiles_updateTable name schema
  | getSchema name milliseconds =>
      refine MakesOnly.discard (MakesOnly.bind ?_ fun _ =>
        (makesOnly_log _).bind fun _ => makesOnly_pure _)
      exact executor.makesOnly_wrapped _ _ (executor.sparesFiles_getTable name)
  | addPartitions table paths => exact (executor.sparesFiles_addPartitions table paths).discard
  | updatePartitions table paths =>
      exact (executor.sparesFiles_updatePartitions table paths).discard
  | dropPartitions table paths => exact (executor.sparesFiles_dropPartitions table paths).discard
  | updateComments name updates =>
      refine executor.makesOnly_wrapped _ _ ((executor.sparesFiles_getTable name).bind fun _ => ?_)
      exact (makesOnly_ofExcept _).bind fun _ => executor.sparesFiles_call _ rfl
  | close => exact executor.sparesFiles_close

end Executor

end CatalogSync
