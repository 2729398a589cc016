import CatalogSync.Proofs.Sync.Change

namespace CatalogSync.Executor

variable {σ : Type} (executor : Executor σ)

-- The catalog has an entry for the table, with the configured fields as its partition keys.
def HasTable (store : Store) (table : String) : Prop :=
  ∃ entry, store.tables.get? (executor.tableKey table) = some entry ∧
    entry.partitionKeys.map Column.name = executor.settings.partitionFields

theorem names_partitionKeys {types : Properties} {keys : List Column}
    (h : executor.partitionKeys types = .ok keys) :
    keys.map Column.name = executor.settings.partitionFields := by
  refine Traversal.map_of_mapM_ok h fun field key hkey => ?_
  obtain ⟨type, -, hpure⟩ := Traversal.bind_eq_ok_iff.mp hkey
  obtain rfl := Except.ok.inj hpure
  rfl

theorem HasTable.exists_read {executor : Executor σ} {store : Store} {table : String}
    (h : executor.HasTable store table) :
    ∃ entry, (Store.client.answer (executor.reading table) store).1 = .ok entry ∧
      entry.partitionKeys.map Column.name = executor.settings.partitionFields := by
  obtain ⟨entry, hentry, hkeys⟩ := h
  exact ⟨entry, congrArg Prod.fst (Store.answer_getTable hentry), hkeys⟩

variable {executor}

-- A table that an operation creates has the configured fields as its keys.
theorem hasTable_createTable {client : Client σ} {view : σ → Store}
    (hclient : executor.client = some client) (hserves : client.Serves view)
    (request : TableRequest) (session : Session σ) (created : Table)
    (h : ((executor.createTable request).perform session).1 = .ok created) :
    executor.HasTable (view ((executor.createTable request).perform session).2.catalog)
      request.name := by
  obtain ⟨hn, -, hafter⟩ := createTable_ok hclient hserves h
  obtain ⟨types, -, -, -, hkeys⟩ := newTable_ok hn
  refine ⟨created, ?_, executor.names_partitionKeys hkeys⟩
  rw [hafter, Dictionary.get?_insert, if_pos rfl]

-- No operation takes a table away or changes its keys.
theorem HasTable.change {before after : Store} {table : String}
    (h : executor.HasTable before table) {operation : Operation}
    (hc : executor.Change before operation after) : executor.HasTable after table := by
  obtain ⟨entry, hentry, hkeys⟩ := h
  -- A table that gets other columns is the one that is looked for, or another one.
  have hwith : ∀ name (other : Table) columns,
      before.tables.get? (executor.tableKey name) = some other →
      ∃ found, (before.tables.insert (executor.tableKey name) (other.withColumns columns)).get?
          (executor.tableKey table) = some found ∧
        found.partitionKeys.map Column.name = executor.settings.partitionFields := by
    intro name other columns hother
    by_cases hk : executor.tableKey name = executor.tableKey table
    · obtain rfl : other = entry := Option.some.inj (hother.symm.trans (hk ▸ hentry))
      exact ⟨other.withColumns columns, by rw [Dictionary.get?_insert, if_pos hk], hkeys⟩
    · exact ⟨entry, by rw [Dictionary.get?_insert, if_neg hk, hentry], hkeys⟩
  cases hc with
  | unchanged | databaseCreated | added | repointed | dropped => exact ⟨entry, hentry, hkeys⟩
  | tableCreated request created _ hnew =>
      refine ⟨entry, ?_, hkeys⟩
      rw [Dictionary.get?_insert, if_neg, hentry]
      intro hk
      rw [hk] at hnew
      exact nomatch hnew.symm.trans hentry
  | tableUpdated name schema columns other hother => exact hwith name other columns hother
  | commented name updates other columns hother => exact hwith name other columns hother

theorem HasTable.run {client : Client σ} {view : σ → Store}
    (hclient : executor.client = some client) (hserves : client.Serves view) {table : String}
    (operations : List Operation) (session : Session σ)
    (h : executor.HasTable (view session.catalog) table) :
    executor.HasTable (view (Operation.run executor operations session).catalog) table := by
  induction operations generalizing session with
  | nil => exact h
  | cons operation operations ih =>
      exact ih _ (h.change (executor.change_perform hclient hserves operation session))

end CatalogSync.Executor
