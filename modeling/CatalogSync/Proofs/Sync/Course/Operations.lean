import CatalogSync.Proofs.Sync.Course.Basic

namespace CatalogSync.Executor

open CatalogSync.Action

variable {σ α : Type} (executor : Executor σ) {client : Client σ}

-- An outcome of an operation by which it has taken one of its courses from a session.
def Takes (client : Client σ) (session : Session σ) (operation : Operation)
    (outcome : Except Failure Unit × Session σ) : Prop :=
  ∃ calls, executor.Course client session operation calls outcome.1 ∧
    outcome.2.calls = session.calls ++ calls ∧
    outcome.2.catalog = client.after calls session.catalog

private theorem map_unit {ε : Type} (result : Except ε Unit) :
    result.map (fun _ => ()) = result := by
  cases result <;> rfl

private theorem map_map_unit {ε : Type} (result : Except ε α) {β : Type} (f : α → β) :
    (result.map f).map (fun _ => ()) = result.map fun _ => () := by
  cases result <;> rfl

private theorem takes_of_makes {session : Session σ} {operation : Operation}
    {action : Action σ Unit} {calls : List Call} {result : Except Failure Unit}
    (h : Makes client action session.catalog calls result)
    (hc : executor.Course client session operation calls result) :
    executor.Takes client session operation (action.perform session) := by
  obtain ⟨hr, hcalls, hcatalog⟩ := h session rfl
  exact ⟨calls, hr ▸ hc, hcalls, hcatalog⟩

private theorem takes_nothing {session : Session σ} {operation : Operation}
    {action : Action σ Unit} (h : Makes client action session.catalog [] (.ok ()))
    (hidle : operation.isIdle session = true) :
    executor.Takes client session operation (action.perform session) :=
  executor.takes_of_makes h (.completed [] (.idle operation hidle) trivial)

variable (hclient : executor.client = some client) (session : Session σ)

include hclient

theorem takes_createDatabase (name : String) :
    executor.Takes client session (.createDatabase name)
      ((executor.createDatabase name).perform session) := by
  refine executor.takes_of_makes (executor.makes_createDatabase hclient session.catalog name) ?_
  exact executor.course_of_last_call [] _ (.createDatabase name) trivial nofun
    (.nothing _) (map_unit _).symm

theorem takes_createTable (request : TableRequest) :
    executor.Takes client session (.createTable request)
      ((Functor.discard (executor.createTable request)).perform session) := by
  cases ht : executor.newTable request with
  | error failure =>
      have hm : Makes client _ session.catalog _ _ :=
        executor.makes_createTable_invalid request failure ht
      exact executor.takes_of_makes hm.discard (executor.course_of_wrapped_flaw [] rfl trivial
        (.createTable request failure ht) (.nothing _))
  | ok table =>
      have hm := executor.makes_createTable hclient session.catalog request table ht
      refine executor.takes_of_makes hm.discard ?_
      exact executor.course_of_last_call [] _ (.createTable request table ht) trivial nofun
        (.nothing _) (map_map_unit _ _)

theorem takes_getSchema (name : String) (milliseconds : Int) :
    executor.Takes client session (.getSchema name milliseconds)
      ((Functor.discard (executor.getSchema name milliseconds)).perform session) := by
  have hm := executor.makes_getSchema hclient session.catalog name milliseconds
  refine executor.takes_of_makes hm.discard ?_
  exact executor.course_of_last_call [] _ (.getSchema name milliseconds) trivial nofun
    (.nothing _) (map_map_unit _ _)

theorem takes_updateTable (name : String) (schema : StorageSchema) :
    executor.Takes client session (.updateTable name schema)
      ((executor.updateTable name schema).perform session) := by
  cases hs : executor.tableColumns schema with
  | error failure =>
      have hm : Makes client _ session.catalog _ _ :=
        executor.makes_updateTable_invalid name schema failure hs
      exact executor.takes_of_makes hm (executor.course_of_wrapped_flaw [] rfl trivial
        (.updateTable name schema failure hs) (.nothing _))
  | ok columns =>
      cases hr : (client.answer (executor.reading name) session.catalog).1 with
      | error failure =>
          exact executor.takes_of_makes
            (executor.makes_updateTable_unread hclient name schema columns hs failure hr)
            (executor.course_of_unread hr)
      | ok entry =>
          refine executor.takes_of_makes
            (executor.makes_updateTable hclient name schema columns hs entry hr) ?_
          exact executor.course_of_last_call [executor.reading name] _
            (.updateTable name schema columns entry hs hr) (executor.accepts_reading hr) nofun
            (.read _ _ rfl) (map_unit _).symm

theorem takes_updateComments (name : String) (updates : Dictionary String CommentUpdate) :
    executor.Takes client session (.updateComments name updates)
      ((executor.updateComments name updates).perform session) := by
  cases hr : (client.answer (executor.reading name) session.catalog).1 with
  | error failure =>
      exact executor.takes_of_makes
        (executor.makes_updateComments_unread hclient name updates failure hr)
        (executor.course_of_unread hr)
  | ok entry =>
      cases hc : entry.layout.columns.mapM (applyComment updates) with
      | error failure =>
          exact executor.takes_of_makes
            (executor.makes_updateComments_invalid hclient name updates entry hr failure hc)
            (executor.course_of_wrapped_flaw _ rfl (executor.accepts_reading hr)
              (.updateComments name updates entry failure hr hc)
              (.read _ _ rfl))
      | ok columns =>
          refine executor.takes_of_makes
            (executor.makes_updateComments hclient name updates entry hr columns hc) ?_
          exact executor.course_of_last_call [executor.reading name] _
            (.updateComments name updates entry columns hr hc) (executor.accepts_reading hr) nofun
            (.read _ _ rfl) (map_unit _).symm

theorem takes_updatePartitions (table : String) (paths : List String) :
    executor.Takes client session (.updatePartitions table paths)
      ((Functor.discard (executor.updatePartitions table paths)).perform session) := by
  by_cases hpaths : paths = []
  · subst hpaths
    have hm : Makes client _ session.catalog _ _ := executor.makes_updatePartitions_nil table
    exact executor.takes_nothing hm.discard rfl
  cases hr : (client.answer (executor.reading table) session.catalog).1 with
  | error failure =>
      have hm := executor.makes_updatePartitions_unread table hclient paths hpaths failure hr
      exact executor.takes_of_makes hm.discard (executor.course_of_unread hr)
  | ok entry =>
      cases hs : executor.specs entry paths with
      | error failure =>
          have hm := executor.makes_updatePartitions_invalid table hclient paths hpaths entry hr
            failure hs
          exact executor.takes_of_makes hm.discard
            (executor.course_of_bare_flaw _ rfl (executor.accepts_reading hr)
              (.updatePartitions table paths entry failure hr hs)
              (.read _ _ rfl))
      | ok specs =>
          have hm := executor.makes_updatePartitions table hclient paths hpaths entry hr specs hs
          refine executor.takes_of_makes hm.discard ?_
          exact executor.course_of_last_call [executor.reading table] _
            (.updatePartitions table paths entry specs hpaths hr hs) (executor.accepts_reading hr)
            nofun (.read _ _ rfl) (map_map_unit _ _)

theorem takes_addPartitions (table : String) (paths : List String) :
    executor.Takes client session (.addPartitions table paths)
      ((Functor.discard (executor.addPartitions table paths)).perform session) := by
  by_cases hpaths : paths = []
  · subst hpaths
    have hm : Makes client _ session.catalog _ _ := executor.makes_addPartitions_nil table
    exact executor.takes_nothing hm.discard rfl
  cases hr : (client.answer (executor.reading table) session.catalog).1 with
  | error failure =>
      have hm := executor.makes_addPartitions_unread hclient table paths hpaths failure hr
      exact executor.takes_of_makes hm.discard (executor.course_of_unread hr)
  | ok entry =>
      have hread := executor.accepts_reading hr
      cases hs : executor.specs entry paths with
      | error failure =>
          have hm := executor.makes_addPartitions_invalid hclient table paths hpaths entry hr
            failure hs
          exact executor.takes_of_makes hm.discard (executor.course_of_bare_flaw _ rfl hread
            (.addPartitions table paths entry failure hr hs) (.read _ _ rfl))
      | ok specs =>
          rcases client.accepts_or_fails ((executor.batches table entry specs).map sending)
              (client.answer (executor.reading table) session.catalog).2 with
            hacc | ⟨done, call, rest, failure, hsplit, hacc, hf⟩
          · have hm := executor.makes_addPartitions_sent hclient table paths hpaths entry hr specs
              hs hacc
            exact executor.takes_of_makes hm.discard
              (.completed _ (.addPartitions table paths entry specs hpaths hr hs) ⟨hread.1, hacc⟩)
          · obtain ⟨first, tail, hbatches, rfl, htail⟩ := List.map_eq_append_iff.mp hsplit
            obtain ⟨batch, others, rfl, rfl, rfl⟩ := List.map_eq_cons_iff.mp htail
            have hm := executor.makes_addPartitions_stopped hclient table paths hpaths entry hr
              specs hs first others batch hbatches hacc failure hf
            have hreport : executor.Reports (.addPartitions table paths) (sending batch) failure
                (executor.batchFailure table first.length
                  (executor.batches table entry specs).length first.flatten.length failure) := by
              exact ⟨_, rfl, rfl, rfl, rfl⟩
            exact executor.takes_of_makes hm.discard
              (.refused (executor.reading table :: first.map sending) _ failure _
                ⟨hread.1, hacc⟩ hf hreport
                (.addPartitions table paths entry specs first hr hs ⟨_, hbatches.symm⟩))

theorem takes_dropPartitions (table : String) (paths : List String) :
    executor.Takes client session (.dropPartitions table paths)
      ((Functor.discard (executor.dropPartitions table paths)).perform session) := by
  by_cases hpaths : paths = []
  · subst hpaths
    have hm : Makes client _ session.catalog _ _ := executor.makes_dropPartitions_nil table
    exact executor.takes_nothing hm.discard rfl
  obtain ⟨k, values, hvalues, hacc, hcases⟩ :=
    executor.exists_makes_dropEach table hclient session.catalog paths
  have hstart : executor.Start client session (.dropPartitions table paths)
      (values.map (executor.dropping table)) := .dropPartitions table paths k values hvalues
  rcases hcases with ⟨rfl, hm⟩ | ⟨path, failure, hpath, hbad, hm⟩ |
      ⟨path, last, failure, hpath, -, hf, hm⟩
  · have hd := executor.makes_dropPartitions table paths hpaths hm
    rw [List.take_length] at hvalues
    exact executor.takes_of_makes hd.discard
      (.completed _ (.dropPartitions table paths values hvalues) hacc)
  · have hd := executor.makes_dropPartitions table paths hpaths hm
    have hflaw : executor.Flaw client session (.dropPartitions table paths) failure :=
      .dropPartitions table paths path failure (List.mem_of_getElem? hpath) hbad
    exact executor.takes_of_makes hd.discard
      (executor.course_of_wrapped_flaw _ rfl hacc hflaw hstart)
  · have hd := executor.makes_dropPartitions table paths hpaths hm
    have hmethod : (executor.dropping table last).method ≠ .addPartitions := nofun
    exact executor.takes_of_makes hd.discard
      (.refused _ _ failure _ hacc hf (executor.reports_wrapping hmethod failure) hstart)

theorem takes_close :
    executor.Takes client session .close (executor.close.perform session) := by
  by_cases ho : session.isClosed = true
  · have hp : executor.close.perform session = (.ok (), session) := by
      rw [Executor.close, perform_bind, perform_get]
      simp only [ho, Bool.true_or, if_true, perform_pure]
    rw [hp]
    exact ⟨[], .completed [] (.idle .close ho) trivial, (List.append_nil _).symm, rfl⟩
  · have hp : executor.close.perform session =
        (executor.wrapped none .close (executor.call .close)).perform
          { session with isClosed := true } := by
      rw [Executor.close, perform_bind, perform_get]
      simp only [ho, hclient, Option.isNone_some, Bool.or_self, Bool.false_eq_true, if_false]
      rw [perform_bind, perform_set]
    obtain ⟨hr, hcalls, hcatalog⟩ := executor.makes_wrapped_call hclient session.catalog none .close
      .close { session with isClosed := true } rfl
    rw [hp]
    refine ⟨[.close], ?_, hcalls, hcatalog⟩
    rw [hr]
    exact executor.course_of_last_call [] .close (.close (by simpa using ho)) trivial nofun
      (.nothing _) (map_unit _).symm

-- Whatever an operation is given and whatever its client answers, it takes one of its courses.
theorem takes_perform (operation : Operation) :
    executor.Takes client session operation ((operation.perform executor).perform session) := by
  cases operation with
  | createDatabase name => exact executor.takes_createDatabase hclient session name
  | createTable request => exact executor.takes_createTable hclient session request
  | updateTable name schema => exact executor.takes_updateTable hclient session name schema
  | getSchema name milliseconds => exact executor.takes_getSchema hclient session name milliseconds
  | addPartitions table paths => exact executor.takes_addPartitions hclient session table paths
  | updatePartitions table paths =>
      exact executor.takes_updatePartitions hclient session table paths
  | dropPartitions table paths => exact executor.takes_dropPartitions hclient session table paths
  | updateComments name updates => exact executor.takes_updateComments hclient session name updates
  | close => exact executor.takes_close hclient session

end CatalogSync.Executor
