import CatalogSync.Proofs.Schema.Columns

namespace CatalogSync

open Traversal

namespace StorageField

-- The field has no comment, or its comment is a text.
def IsReadable (field : StorageField) : Prop :=
  ∀ bytes ∈ field.comment, (String.fromUTF8? bytes).isSome

instance : DecidablePred IsReadable := fun field =>
  inferInstanceAs (Decidable (∀ bytes ∈ field.comment, (String.fromUTF8? bytes).isSome))

-- The comment of a field as a text, which is empty if the field has none.
def commentText (field : StorageField) : String :=
  (field.comment.bind String.fromUTF8?).getD ""

end StorageField

namespace Schema

-- The last comment that is not empty of the fields with a name, and the empty one if there is none.
def lastComment (schema : StorageSchema) (name : String) : String :=
  ((schema.reverse.find? fun field => field.name = name ∧ field.commentText ≠ "").map
    StorageField.commentText).getD ""

section Comments

-- What a field adds to the comments.
def commentEntry (field : StorageField) : Option (String × String) :=
  if field.commentText = "" then none else some (field.name, field.commentText)

theorem isEmpty_of_fromUTF8? {bytes : ByteArray} {text : String}
    (h : String.fromUTF8? bytes = some text) : bytes.isEmpty = true ↔ text = "" := by
  unfold String.fromUTF8? at h
  split at h
  · obtain rfl := Option.some.inj h
    rw [← String.toByteArray_inj, String.toByteArray_empty]
    simp [ByteArray.isEmpty, String.fromUTF8]
  · cases h

theorem addComments_eq {fields : StorageSchema} (h : ∀ field ∈ fields, field.IsReadable)
    (found : Properties) :
    addComments found fields = .ok (found.insertAll (fields.filterMap commentEntry)) := by
  induction fields generalizing found with
  | nil => rfl
  | cons field fields ih =>
      obtain ⟨hfield, hfields⟩ := List.forall_mem_cons.mp h
      rw [addComments, List.filterMap_cons, commentEntry, StorageField.commentText]
      cases hcomment : field.comment with
      | none => exact ih hfields found
      | some bytes =>
          obtain ⟨text, htext⟩ := Option.isSome_iff_exists.mp (hfield bytes hcomment)
          have hempty := isEmpty_of_fromUTF8? htext
          by_cases ht : text = ""
          · simpa [htext, hempty, ht] using ih hfields found
          · simpa [htext, hempty, ht, Dictionary.insertAll_cons] using
              ih hfields (found.insert field.name text)

theorem getD_get?_comments {schema : StorageSchema} {found : Properties}
    (hreadable : ∀ field ∈ schema, field.IsReadable) (h : comments schema = .ok found)
    (name : String) : (found.get? name).getD "" = lastComment schema name := by
  rw [comments, addComments_eq hreadable] at h
  obtain rfl := Except.ok.inj h
  have hmatch : (fun field : StorageField => (commentEntry field).any (·.1 = name)) =
      fun field => decide (field.name = name ∧ field.commentText ≠ "") := by
    funext field
    by_cases ht : field.commentText = "" <;> simp [commentEntry, ht]
  change ((Dictionary.ofList _).get? name).getD "" = _
  rw [Dictionary.get?_ofList, ← List.filterMap_reverse, Dictionary.find?_eq_map,
    List.find?_filterMap, hmatch, lastComment]
  cases hf : schema.reverse.find? fun field => field.name = name ∧ field.commentText ≠ "" with
  | none => rfl
  | some field =>
      have hfield := List.find?_some hf
      simp_all [commentEntry]

end Comments

section Failure

variable {timestamps : Bool} {field : StorageField} {failure : Failure}

theorem exists_columnType_iff : (∃ column, columnType timestamps field = .ok column) ↔
    ∃ type, HiveType.ofStorage timestamps field.type = .ok type := by
  rw [columnType]
  cases HiveType.ofStorage timestamps field.type <;> simp

theorem columnType_eq_error_iff : columnType timestamps field = .error failure ↔
    ∃ type, HiveType.ofStorage timestamps field.type = .error type ∧
      failure = ⟨.schema (.column field.name type), [.schema (.unsupported type)]⟩ := by
  rw [columnType]
  cases HiveType.ofStorage timestamps field.type with
  | ok type => simp
  | error type => simp [Failure.leadingTo, Failure.schema, eq_comm]

theorem exists_columnTypes_iff {schema : StorageSchema} :
    (∃ types, columnTypes timestamps schema = .ok types) ↔
      ∀ field ∈ schema, ∃ type, HiveType.ofStorage timestamps field.type = .ok type := by
  simp only [← exists_columnType_iff, ← exists_mapM_ok_iff]
  rw [columnTypes, addColumns_eq]
  constructor
  · rintro ⟨types, h⟩
    obtain ⟨columns, hcolumns, -⟩ := map_eq_ok_iff.mp h
    exact ⟨columns, hcolumns⟩
  · rintro ⟨columns, hcolumns⟩
    exact ⟨_, map_eq_ok_iff.mpr ⟨columns, hcolumns, rfl⟩⟩

theorem columnTypes_eq_error_iff {schema : StorageSchema} :
    columnTypes timestamps schema = .error failure ↔
      ∃ before field after type, schema = before ++ field :: after ∧
        (∀ earlier ∈ before, ∃ found, HiveType.ofStorage timestamps earlier.type = .ok found) ∧
        HiveType.ofStorage timestamps field.type = .error type ∧
        failure = ⟨.schema (.column field.name type), [.schema (.unsupported type)]⟩ := by
  rw [columnTypes, addColumns_eq, map_eq_error_iff, mapM_eq_error_iff]
  simp only [exists_columnType_iff, columnType_eq_error_iff, exists_and_left]

end Failure

-- A column has the type of the last field with its name and the last comment of these fields.
structure Describes (timestamps : Bool) (schema : StorageSchema) (column : Column) : Prop where
  type : ∃ field type, lastField? schema column.name = some field ∧
    HiveType.ofStorage timestamps field.type = .ok type ∧ column.type = type.text
  comment : column.comment = lastComment schema column.name

theorem describes_of_mem_columns {timestamps : Bool} {schema : StorageSchema}
    {types found : Properties} (htypes : columnTypes timestamps schema = .ok types)
    (hfound : comments schema = .ok found) (hreadable : ∀ field ∈ schema, field.IsReadable)
    {column : Column} (hcolumn : column ∈ columns types found) :
    Describes timestamps schema column := by
  obtain ⟨⟨name, type⟩, hentry, rfl⟩ := List.mem_map.mp hcolumn
  have hget : types.get? name = some type :=
    (Dictionary.find?_eq_some_iff types.keys_nodup name type).mpr hentry
  refine ⟨?_, getD_get?_comments hreadable hfound name⟩
  cases hfield : lastField? schema name with
  | none => exact nomatch (get?_columnTypes_of_none htypes hfield).symm.trans hget
  | some field =>
      obtain ⟨hive, hhive, htext⟩ := get?_columnTypes_of_some htypes hfield
      exact ⟨field, hive, rfl, hhive, Option.some.inj (hget.symm.trans htext)⟩

-- A schema gives no columns exactly if the type of one of its fields has no counterpart, and then
-- the first such field is named. Otherwise, with comments that are texts, every name in the schema
-- gives one column, at the place of its first field, with the type of its last field and the last
-- comment that is not empty.
theorem tableColumns_lists_names_once (timestamps : Bool) (schema : StorageSchema) :
    ((∃ failure, columnTypes timestamps schema = .error failure) ↔
      ∃ field ∈ schema, ∃ type, HiveType.ofStorage timestamps field.type = .error type) ∧
    (∀ failure, columnTypes timestamps schema = .error failure ↔
      ∃ before field after type, schema = before ++ field :: after ∧
        (∀ earlier ∈ before, ∃ found, HiveType.ofStorage timestamps earlier.type = .ok found) ∧
        HiveType.ofStorage timestamps field.type = .error type ∧
        failure = ⟨.schema (.column field.name type), [.schema (.unsupported type)]⟩) ∧
    ∀ types, columnTypes timestamps schema = .ok types →
      (∀ field ∈ schema, field.IsReadable) →
      ∃ listed, Translator.arrow.tableColumns timestamps schema = .ok listed ∧
        listed.map Column.name = (schema.map StorageField.name).eraseDups ∧
        ∀ column ∈ listed, Describes timestamps schema column := by
  refine ⟨⟨?_, ?_⟩, fun failure => columnTypes_eq_error_iff, ?_⟩
  · rintro ⟨failure, h⟩
    obtain ⟨before, field, after, type, rfl, -, hfield, -⟩ := columnTypes_eq_error_iff.mp h
    exact ⟨field, List.mem_append_right _ List.mem_cons_self, type, hfield⟩
  · rintro ⟨field, hmem, type, hfield⟩
    cases htypes : columnTypes timestamps schema with
    | error failure => exact ⟨failure, rfl⟩
    | ok types =>
        obtain ⟨found, hfound⟩ := exists_columnTypes_iff.mp ⟨types, htypes⟩ field hmem
        exact nomatch hfield.symm.trans hfound
  · intro types htypes hreadable
    obtain ⟨found, hfound⟩ : ∃ found, comments schema = .ok found :=
      ⟨_, addComments_eq hreadable ∅⟩
    have htranslated := translate_arrow_eq_ok_iff.mpr ⟨htypes, found, hfound, rfl⟩
    refine ⟨columns types found, congrArg (Except.map Prod.snd) htranslated, ?_,
      fun column hcolumn => describes_of_mem_columns htypes hfound hreadable hcolumn⟩
    rw [← keys_columnTypes htypes]
    simp [columns, Dictionary.keys, Function.comp_def]

-- The first and the last field of a name are not the one with its comment.
theorem tableColumns_lists_names_once_orders :
    let schema : StorageSchema := [
      { name := "amount", type := .boolean },
      { name := "id", type := .signed .w64, comment := some ByteArray.empty },
      { name := "amount", type := .float, comment := some "in euros".toUTF8 },
      { name := "amount", type := .double, comment := some ByteArray.empty }]
    ∃ listed, Translator.arrow.tableColumns true schema = .ok listed ∧
      listed.map Column.name = ["amount", "id"] ∧
      (∀ column ∈ listed, Describes true schema column) ∧
      listed.map (lastComment schema ·.name) = ["in euros", ""] := by
  intro schema
  obtain ⟨types, htypes⟩ : ∃ types, columnTypes true schema = .ok types :=
    error?_eq_none_iff.mp (Option.isNone_iff_eq_none.mp (by decide +kernel))
  have hreadable : ∀ field ∈ schema, field.IsReadable := by decide +kernel
  obtain ⟨listed, hlisted, hnames, hdescribes⟩ :=
    (tableColumns_lists_names_once true schema).2.2 types htypes hreadable
  have hnames : listed.map Column.name = ["amount", "id"] := hnames.trans (by decide +kernel)
  refine ⟨listed, hlisted, hnames, hdescribes, ?_⟩
  have hcomments := congrArg (List.map (lastComment schema)) hnames
  rw [List.map_map] at hcomments
  exact hcomments.trans (by decide +kernel)

end Schema

end CatalogSync
