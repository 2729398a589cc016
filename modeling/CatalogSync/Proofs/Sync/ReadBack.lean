import CatalogSync.Proofs.Schema.Columns
import CatalogSync.Proofs.Sync.Consistency
import CatalogSync.Proofs.Sync.Keys

namespace CatalogSync

namespace Operation

-- The schema of a table after an operation: that of an update of the table that succeeds, and the
-- one before in all other cases.
def schemaAfter (table : String) (schema : StorageSchema) (result : Except Failure Unit) :
    Operation → StorageSchema
  | updateTable name update =>
    match result with
    | .ok () => if name = table then update else schema
    | .error _ => schema
  | _ => schema

-- The schema of a table after a run.
def latestSchema {σ : Type} (executor : Executor σ) (table : String) :
    StorageSchema → List Operation → Session σ → StorageSchema
  | schema, [], _ => schema
  | schema, operation :: operations, session =>
    let outcome := (operation.perform executor).perform session
    latestSchema executor table (operation.schemaAfter table schema outcome.1) operations outcome.2

end Operation

namespace Executor

variable {σ τ : Type} (executor : Executor σ)

-- What is shown of a table with some recorded keys and a schema: first the configured fields and
-- then the other names in the schema, each once, with the type of its last field. A key that is not
-- in the schema keeps its recorded type.
structure Shows (recorded : List Column) (schema : StorageSchema) (shown : Properties) : Prop where
  names : shown.keys = executor.settings.partitionFields.eraseDups ++
    (schema.map StorageField.name).eraseDups.filter (· ∉ executor.settings.partitionFields)
  columns : ∀ name field, Schema.lastField? schema name = some field →
    ∃ type, HiveType.ofStorage executor.settings.supportTimestamp field.type = .ok type ∧
      shown.get? name = some (Text.upper type.text)
  keys : ∀ key ∈ recorded, Schema.lastField? schema key.name = none →
    shown.get? key.name = some (Text.upper key.type)

-- An entry of a table with some recorded keys and the columns of a schema.
structure IsEntryFor (recorded : List Column) (schema : StorageSchema) (entry : Table) :
    Prop where
  keys : entry.partitionKeys = recorded
  columns : ∃ types, Schema.columnTypes executor.settings.supportTimestamp schema = .ok types ∧
    signature entry.layout.columns = types.entries

-- The catalog has such an entry for a table.
def Holds (table : String) (recorded : List Column) (schema : StorageSchema) (store : Store) :
    Prop :=
  ∃ entry, store.tables.get? (executor.tableKey table) = some entry ∧
    executor.IsEntryFor recorded schema entry

-- The keys that are recorded for a table with the given column types.
def recordedKeys (types : Properties) : List Column :=
  executor.settings.partitionFields.map fun key =>
    { name := key, type := Text.lower (Schema.keyType types key) }

theorem signature_columns (types comments : Properties) :
    signature (Schema.columns types comments) = types.entries := by
  simp [signature, Schema.columns, Function.comp_def]

section Arrow

variable {executor} (harrow : executor.translator = .arrow)

include harrow

theorem partitionKeys_arrow (types : Properties) :
    executor.partitionKeys types = .ok (executor.recordedKeys types) := by
  rw [partitionKeys, harrow]
  exact Traversal.mapM_ok_of_forall fun _ _ => rfl

theorem columns_of_translate {schema : StorageSchema} {types : Properties} {columns : List Column}
    (h : executor.translate schema = .ok (types, columns)) :
    Schema.columnTypes executor.settings.supportTimestamp schema = .ok types ∧
      signature columns = types.entries := by
  rw [translate, harrow, Schema.translate_arrow_eq_ok_iff] at h
  obtain ⟨htypes, comments, -, rfl⟩ := h
  exact ⟨htypes, signature_columns types comments⟩

end Arrow

section Entry

variable {executor} {recorded types : Properties} {entry : Table}
  (hkeys : entry.partitionKeys = executor.recordedKeys recorded)
  (hcolumns : signature entry.layout.columns = types.entries)

include hkeys hcolumns

-- The keys and the columns of a table as they are put into what is shown of it.
theorem shownColumns_eq :
    (entry.partitionKeys ++ entry.layout.columns).map
        (fun column => (column.name, Text.upper column.type)) =
      executor.settings.partitionFields.map
          (fun field => (field, Text.upper (Text.lower (Schema.keyType recorded field)))) ++
        types.entries.map fun column => (column.1, Text.upper column.2) := by
  rw [List.map_append, hkeys, ← hcolumns]
  simp only [recordedKeys, signature, List.map_map, Function.comp_def]

theorem keys_tableSchema :
    (tableSchema entry).keys = executor.settings.partitionFields.eraseDups ++
      types.keys.filter (· ∉ executor.settings.partitionFields) := by
  have hnames : (executor.settings.partitionFields.map
          (fun field => (field, Text.upper (Text.lower (Schema.keyType recorded field)))) ++
        types.entries.map fun column => (column.1, Text.upper column.2)).map Prod.fst =
      executor.settings.partitionFields ++ types.keys := by
    simp [Dictionary.keys, Function.comp_def]
  have hnodup : (types.keys.filter (· ∉ executor.settings.partitionFields)).Nodup :=
    types.keys_nodup.filter _
  have hrest : types.keys.removeAll executor.settings.partitionFields =
      types.keys.filter (· ∉ executor.settings.partitionFields) := by
    simp [List.removeAll]
  rw [tableSchema, Dictionary.keys_ofList, shownColumns_eq hkeys hcolumns, hnames,
    List.eraseDups_append, hrest, Dictionary.eraseDups_of_nodup hnodup]

theorem get?_tableSchema (name : String) :
    (tableSchema entry).get? name =
      ((types.get? name).map Text.upper).or
        (if name ∈ executor.settings.partitionFields then
          some (Text.upper (Text.lower (Schema.keyType recorded name))) else none) := by
  have hnodup : ((types.entries.map fun column => (column.1, Text.upper column.2)).map
      Prod.fst).Nodup := by
    simpa [Function.comp_def] using types.keys_nodup
  rw [tableSchema, Dictionary.get?_ofList, shownColumns_eq hkeys hcolumns, List.reverse_append,
    Dictionary.find?_append, Dictionary.find?_reverse hnodup,
    Dictionary.find?_map fun _ => Text.upper, ← List.map_reverse,
    Dictionary.find?_map_key fun field => Text.upper (Text.lower (Schema.keyType recorded field))]
  simp only [Dictionary.get?, List.mem_reverse]

end Entry

-- What is shown of an entry is what it was written with.
theorem IsEntryFor.shows {executor : Executor σ} {recorded : Properties} {schema : StorageSchema}
    {entry : Table} (h : executor.IsEntryFor (executor.recordedKeys recorded) schema entry) :
    executor.Shows (executor.recordedKeys recorded) schema (tableSchema entry) := by
  obtain ⟨hkeys, types, htypes, hcolumns⟩ := h
  refine ⟨?_, fun name field hfield => ?_, fun key hkey hfield => ?_⟩
  · rw [keys_tableSchema hkeys hcolumns, Schema.keys_columnTypes htypes]
  · obtain ⟨type, htype, hfound⟩ := Schema.get?_columnTypes_of_some htypes hfield
    rw [get?_tableSchema hkeys hcolumns, hfound]
    exact ⟨type, htype, rfl⟩
  · have hfound := Schema.get?_columnTypes_of_none htypes hfield
    obtain ⟨field, hmem, rfl⟩ := List.mem_map.mp hkey
    rw [get?_tableSchema hkeys hcolumns, hfound, if_pos hmem]
    rfl

theorem isEntryFor_newTable {executor : Executor σ} (harrow : executor.translator = .arrow)
    {request : TableRequest} {created : Table} (h : executor.newTable request = .ok created) :
    executor.IsEntryFor created.partitionKeys request.schema created := by
  obtain ⟨types, -, -, htranslated, -⟩ := newTable_ok h
  exact ⟨rfl, types, columns_of_translate harrow htranslated⟩

section Run

variable {executor} {client : Client σ} {view : σ → Store}
  (hclient : executor.client = some client) (hserves : client.Serves view)
  {table : String} {recorded : List Column} {schema : StorageSchema}

-- The entry of a table stays what it is when another one is put under another key.
theorem Holds.insert_of_ne {before after : Store} (h : executor.Holds table recorded schema before)
    {key : TableKey} {other : Table} (hafter : after.tables = before.tables.insert key other)
    (hne : key ≠ executor.tableKey table) : executor.Holds table recorded schema after := by
  obtain ⟨entry, hentry, hfor⟩ := h
  exact ⟨entry, by rw [hafter, Dictionary.get?_insert, if_neg hne, hentry], hfor⟩

theorem Holds.change {before after : Store} (h : executor.Holds table recorded schema before)
    {operation : Operation} (hc : executor.Change before operation after)
    (hother : ∀ update, operation ≠ .updateTable table update) :
    executor.Holds table recorded schema after := by
  cases hc with
  | unchanged | databaseCreated | added | repointed | dropped => exact h
  | tableCreated request created _ hnew =>
      refine h.insert_of_ne rfl ?_
      rintro hk
      obtain ⟨entry, hentry, -⟩ := h
      rw [hk] at hnew
      exact nomatch hnew.symm.trans hentry
  | tableUpdated name update columns other hentry =>
      refine h.insert_of_ne rfl ?_
      rintro ⟨rfl⟩
      exact hother update rfl
  | commented name updates other columns hentry hcolumns =>
      by_cases hk : executor.tableKey name = executor.tableKey table
      · obtain ⟨entry, hstored, hkeys, types, htypes, htype⟩ := h
        obtain rfl : other = entry := Option.some.inj (hentry.symm.trans (hk ▸ hstored))
        refine ⟨other.withColumns columns, by rw [Dictionary.get?_insert, if_pos hk], hkeys, types,
          htypes, ?_⟩
        exact (signature_of_applyComment hcolumns).trans htype
      · exact h.insert_of_ne rfl hk

theorem Holds.withUpdated {before : Store} (h : executor.Holds table recorded schema before)
    {entry : Table} (hentry : before.tables.get? (executor.tableKey table) = some entry)
    {update : StorageSchema} {columns : List Column} (harrow : executor.translator = .arrow)
    (hcolumns : executor.tableColumns update = .ok columns) :
    executor.Holds table recorded update (executor.withUpdated before table entry columns) := by
  obtain ⟨found, hfound, hkeys, -⟩ := h
  obtain rfl : entry = found := Option.some.inj (hentry.symm.trans hfound)
  obtain ⟨⟨types, columns⟩, htranslated, rfl⟩ := Traversal.map_eq_ok_iff.mp hcolumns
  refine ⟨entry.withColumns columns, ?_, hkeys, types, columns_of_translate harrow htranslated⟩
  rw [Executor.withUpdated, Dictionary.get?_insert, if_pos rfl]

variable (harrow : executor.translator = .arrow)

include hclient hserves harrow

-- The columns of a table are those of the last schema that was written, and its keys stay.
theorem Holds.perform {session : Session σ}
    (h : executor.Holds table recorded schema (view session.catalog)) (operation : Operation) :
    let outcome := (operation.perform executor).perform session
    executor.Holds table recorded (operation.schemaAfter table schema outcome.1)
      (view outcome.2.catalog) := by
  intro outcome
  have hchange := executor.change_perform hclient hserves operation session
  cases operation with
  | updateTable name update =>
      by_cases hname : name = table
      · subst hname
        cases hr : outcome.1 with
        | error failure => exact (view_of_error hclient hserves rfl hr).symm ▸ h
        | ok done =>
            obtain ⟨columns, entry, hcolumns, hentry, hafter⟩ := updateTable_ok hclient hserves hr
            have hupdated := h.withUpdated hentry harrow hcolumns
            rw [← hafter] at hupdated
            rwa [Operation.schemaAfter, if_pos rfl]
      · have hsame : (Operation.updateTable name update).schemaAfter table schema outcome.1 =
            schema := by
          cases outcome.1 <;> simp [Operation.schemaAfter, hname]
        rw [hsame]
        refine h.change hchange ?_
        rintro _ ⟨rfl⟩
        exact hname rfl
  | _ => exact h.change hchange nofun

theorem Holds.run (operations : List Operation) (session : Session σ)
    (h : executor.Holds table recorded schema (view session.catalog)) :
    executor.Holds table recorded (Operation.latestSchema executor table schema operations session)
      (view (Operation.run executor operations session).catalog) := by
  induction operations generalizing schema session with
  | nil => exact h
  | cons operation operations ih => exact ih _ (h.perform hclient hserves harrow operation)

theorem holds_createTable {request : TableRequest} {session : Session σ} {created : Table}
    (h : ((executor.createTable request).perform session).1 = .ok created) :
    executor.Holds request.name created.partitionKeys request.schema
      (view ((executor.createTable request).perform session).2.catalog) := by
  obtain ⟨hnew, -, hafter⟩ := createTable_ok hclient hserves h
  refine ⟨created, ?_, isEntryFor_newTable harrow hnew⟩
  rw [hafter, Dictionary.get?_insert, if_pos rfl]

end Run

-- After an executor with the usual translator has created a table and whatever is done then, with
-- any calls failing, a call that reads its schema gives the configured fields and the columns of
-- the schema that was written last. The keys keep the types that were recorded when the table was
-- created: a key that the first schema has no column for is a text.
theorem getSchema_shows_latest {executor : Executor (Store × τ)} {interruption : Interruption τ}
    (hclient : executor.client = some (Store.client.interrupted interruption))
    (harrow : executor.translator = .arrow) (request : TableRequest)
    (session : Session (Store × τ)) (created : Table)
    (hcreated : ((executor.createTable request).perform session).1 = .ok created)
    (operations : List Operation) (milliseconds : Int) :
    let start := ((executor.createTable request).perform session).2
    let finish := Operation.run executor operations start
    (created.partitionKeys.map Column.name = executor.settings.partitionFields ∧
      ∀ key ∈ created.partitionKeys, Schema.lastField? request.schema key.name = none →
        Text.upper key.type = "STRING") ∧
    ((interruption.strike (executor.reading request.name) finish.catalog.2).1 = none →
      ∃ shown, ((executor.getSchema request.name milliseconds).perform finish).1 = .ok shown ∧
        executor.Shows created.partitionKeys
          (Operation.latestSchema executor request.name request.schema operations start) shown) := by
  intro start finish
  have hserves := Client.serves_interrupted interruption
  obtain ⟨hnew, -⟩ := createTable_ok hclient hserves hcreated
  obtain ⟨types, -, -, htranslated, hnamed⟩ := newTable_ok hnew
  obtain ⟨htypes, -⟩ := columns_of_translate harrow htranslated
  have hkeys : created.partitionKeys = executor.recordedKeys types :=
    Except.ok.inj (hnamed.symm.trans (partitionKeys_arrow harrow types))
  refine ⟨⟨executor.names_partitionKeys hnamed, fun key hkey hfield => ?_⟩, fun hstrike => ?_⟩
  · have hfound := Schema.get?_columnTypes_of_none htypes hfield
    rw [hkeys] at hkey
    obtain ⟨field, -, rfl⟩ := List.mem_map.mp hkey
    rw [Schema.keyType, hfound]
    change Text.upper (Text.lower "string") = "STRING"
    decide +kernel
  · have hstart := holds_createTable hclient hserves harrow hcreated
    obtain ⟨entry, hentry, hfor⟩ := Holds.run hclient hserves harrow operations start hstart
    have hread := (Client.interrupted_of_strike_none Store.client interruption _ _ hstrike).trans
      (congrArg Prod.fst (Store.answer_getTable hentry))
    have hm := executor.makes_getSchema hclient finish.catalog request.name milliseconds
    rw [hread] at hm
    refine ⟨tableSchema entry, (hm finish rfl).1, ?_⟩
    rw [hkeys] at hfor ⊢
    exact hfor.shows

-- The first update fails at its second call, and the second one takes effect.
theorem getSchema_shows_latest_daily :
    let executor := daily (Store.client.interrupted PendingFailure.interruption) 1
    let request : TableRequest := {
      name := "sales", inputFormat := "text", outputFormat := "text", serialization := "lines"
      schema := [{ name := "id", type := .boolean }, { name := "id", type := .signed .w64 }] }
    let operations : List Operation := [
      .updateTable "sales" [{ name := "day", type := .date32 }],
      .updateTable "sales" [{ name := "amount", type := .double }]]
    let session : Session (Store × List PendingFailure) :=
      { catalog := (Store.empty, [⟨.alterTable, 1, ⟨.reported .connection "down", []⟩⟩]) }
    let start := ((executor.createTable request).perform session).2
    let finish := Operation.run executor operations start
    ∃ created shown, ((executor.createTable request).perform session).1 = .ok created ∧
      ((executor.getSchema "sales" 3).perform finish).1 = .ok shown ∧
      shown.entries = [("day", "STRING"), ("amount", "DOUBLE")] ∧
      executor.Shows created.partitionKeys
        (Operation.latestSchema executor "sales" request.schema operations start) shown := by
  intro executor request operations session start finish
  obtain ⟨created, hcreated⟩ : ∃ created, ((executor.createTable request).perform session).1 =
      .ok created :=
    Traversal.error?_eq_none_iff.mp (Option.isNone_iff_eq_none.mp (by decide +kernel))
  obtain ⟨-, hread⟩ := getSchema_shows_latest rfl rfl request session created hcreated operations 3
  obtain ⟨shown, hshown, hshows⟩ := hread (Option.isNone_iff_eq_none.mp (by decide +kernel))
  have hentries : ((executor.getSchema "sales" 3).perform finish).1.toOption.map
      Dictionary.entries = some [("day", "STRING"), ("amount", "DOUBLE")] := by
    decide +kernel
  rw [hshown] at hentries
  exact ⟨created, shown, hcreated, hshown, Option.some.inj hentries, hshows⟩

end Executor

end CatalogSync
