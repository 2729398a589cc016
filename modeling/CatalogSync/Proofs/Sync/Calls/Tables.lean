import CatalogSync.Proofs.Sync.Calls.Basic
import CatalogSync.Proofs.Traversal

namespace CatalogSync.Executor

open CatalogSync.Action

variable {σ : Type} {client : Client σ} {before : σ}

variable (executor : Executor σ)

-- What a change of columns asks for. It is passed on to the partitions if there can be any.
def changeRequest : Properties :=
  if !executor.settings.partitionFields.isEmpty then cascadeRequest else ∅

-- The call that replaces the columns of a table.
def rewriting (name : String) (entry : Table) (columns : List Column) (request : Properties) :
    Call :=
  .alterTable executor.settings.databaseName name (entry.withColumns columns) (some request)

-- A new table stands under its own name in the configured database, with the keys and the columns
-- that its schema is translated to.
theorem newTable_ok {executor : Executor σ} {request : TableRequest} {table : Table}
    (h : executor.newTable request = .ok table) :
    ∃ types, table.database = executor.settings.databaseName ∧ table.name = request.name ∧
      executor.translate request.schema = .ok (types, table.layout.columns) ∧
      executor.partitionKeys types = .ok table.partitionKeys := by
  obtain ⟨⟨types, columns⟩, htypes, hrest⟩ := Traversal.bind_eq_ok_iff.mp h
  obtain ⟨keys, hkeys, hrest⟩ := Traversal.bind_eq_ok_iff.mp hrest
  obtain ⟨owner, -, hpure⟩ := Traversal.bind_eq_ok_iff.mp hrest
  obtain rfl := Except.ok.inj hpure
  exact ⟨types, rfl, rfl, htypes, hkeys⟩

theorem makes_createTable_invalid (request : TableRequest) (failure : Failure)
    (h : executor.newTable request = .error failure) :
    Makes client (executor.createTable request) before []
      (.error (reported executor.settings.databaseName request.name .createTable failure)) :=
  (makes_wrappedAs _ _ _ (makes_ofExcept_bind_error h)).bind_error

theorem makes_updateTable_invalid (name : String) (schema : StorageSchema) (failure : Failure)
    (h : executor.tableColumns schema = .error failure) :
    Makes client (executor.updateTable name schema) before []
      (.error (reported executor.settings.databaseName name .updateTable failure)) :=
  executor.makes_wrapped_error _ _ (makes_ofExcept_bind_error h)

variable (hclient : executor.client = some client)

include hclient

theorem makes_createDatabase (before : σ) (name : String) :
    let call := Call.createDatabase { name, description := some databaseDescription }
    let target := if name = "" then executor.settings.databaseName else name
    Makes client (executor.createDatabase name) before [call]
      ((client.answer call before).1.mapError (reported target none .createDatabase)) := by
  intro call target
  have hc := makes_wrappedAs target none .createDatabase (executor.makes_call hclient before call)
  cases hr : (client.answer call before).1 with
  | error failure =>
      rw [hr] at hc
      exact hc.bind_error
  | ok reply =>
      rw [hr] at hc
      exact hc.bind (makes_log _)

theorem makes_createTable (before : σ) (request : TableRequest) (table : Table)
    (h : executor.newTable request = .ok table) :
    Makes client (executor.createTable request) before [.createTable table]
      (((client.answer (.createTable table) before).1.mapError
        (reported executor.settings.databaseName request.name .createTable)).map
          fun _ => table) := by
  have hc := executor.makes_call hclient before (.createTable table)
  cases hr : (client.answer (.createTable table) before).1 with
  | error failure =>
      rw [hr] at hc
      refine (executor.makes_wrapped_error _ _ ?_).bind_error
      exact Makes.ofExcept_bind h hc.bind_error
  | ok reply =>
      rw [hr] at hc
      have hw : Makes client (executor.wrapped request.name .createTable do
          let table ← Action.ofExcept (executor.newTable request)
          executor.call (.createTable table)
          return table) before [.createTable table] (.ok table) :=
        executor.makes_wrapped_ok _ _ (Makes.ofExcept_bind h (hc.bind (makes_pure table)))
      exact hw.bind ((makes_log _).bind (makes_pure table))

theorem makes_getSchema (before : σ) (name : String) (milliseconds : Int) :
    Makes client (executor.getSchema name milliseconds) before [executor.reading name]
      (((client.answer (executor.reading name) before).1.mapError
        (reported executor.settings.databaseName name .getSchema)).map tableSchema) := by
  cases hr : (client.answer (executor.reading name) before).1 with
  | error failure => exact executor.makes_read_error hclient name .getSchema failure hr _
  | ok entry =>
      exact executor.makes_read_bind hclient name .getSchema entry hr
        ((makes_log _).bind (makes_pure _))

theorem makes_updateTable_unread (name : String) (schema : StorageSchema) (columns : List Column)
    (h : executor.tableColumns schema = .ok columns)
    (failure : Failure) (hr : (client.answer (executor.reading name) before).1 = .error failure) :
    Makes client (executor.updateTable name schema) before [executor.reading name]
      (.error (reported executor.settings.databaseName name .updateTable failure)) := by
  have hc := executor.makes_call hclient before (executor.reading name)
  rw [hr] at hc
  refine executor.makes_wrapped_error _ _ (Makes.ofExcept_bind h ?_)
  exact hc.bind_error

theorem makes_updateTable (name : String) (schema : StorageSchema) (columns : List Column)
    (h : executor.tableColumns schema = .ok columns)
    (entry : Table) (hr : (client.answer (executor.reading name) before).1 = .ok entry) :
    let call := executor.rewriting name entry columns executor.changeRequest
    Makes client (executor.updateTable name schema) before [executor.reading name, call]
      ((client.answer call (client.answer (executor.reading name) before).2).1.mapError
        (reported executor.settings.databaseName name .updateTable)) := by
  intro call
  have hc := executor.makes_call hclient before (executor.reading name)
  rw [hr] at hc
  have hw := executor.makes_call hclient (client.answer (executor.reading name) before).2 call
  refine executor.makes_wrapped _ _ (Makes.ofExcept_bind h (hc.bind ?_))
  dsimp only
  split
  · exact (makes_log _).bind hw
  · exact hw

theorem makes_updateComments_unread (name : String) (updates : Dictionary String CommentUpdate)
    (failure : Failure) (hr : (client.answer (executor.reading name) before).1 = .error failure) :
    Makes client (executor.updateComments name updates) before [executor.reading name]
      (.error (reported executor.settings.databaseName name .updateComments failure)) := by
  have hc := executor.makes_call hclient before (executor.reading name)
  rw [hr] at hc
  refine executor.makes_wrapped_error _ _ ?_
  exact hc.bind_error

theorem makes_updateComments_invalid (name : String) (updates : Dictionary String CommentUpdate)
    (entry : Table) (hr : (client.answer (executor.reading name) before).1 = .ok entry)
    (failure : Failure)
    (h : entry.layout.columns.mapM (applyComment updates) = .error failure) :
    Makes client (executor.updateComments name updates) before [executor.reading name]
      (.error (reported executor.settings.databaseName name .updateComments failure)) := by
  have hc := executor.makes_call hclient before (executor.reading name)
  rw [hr] at hc
  refine executor.makes_wrapped_error _ _ (hc.bind ?_)
  exact makes_ofExcept_bind_error h

theorem makes_updateComments (name : String) (updates : Dictionary String CommentUpdate)
    (entry : Table) (hr : (client.answer (executor.reading name) before).1 = .ok entry)
    (columns : List Column) (h : entry.layout.columns.mapM (applyComment updates) = .ok columns) :
    let call := executor.rewriting name entry columns ∅
    Makes client (executor.updateComments name updates) before [executor.reading name, call]
      ((client.answer call (client.answer (executor.reading name) before).2).1.mapError
        (reported executor.settings.databaseName name .updateComments)) := by
  intro call
  have hc := executor.makes_call hclient before (executor.reading name)
  rw [hr] at hc
  have hw := executor.makes_call hclient (client.answer (executor.reading name) before).2 call
  exact executor.makes_wrapped _ _ (hc.bind (Makes.ofExcept_bind h hw))

end CatalogSync.Executor
