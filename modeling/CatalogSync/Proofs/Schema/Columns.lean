import CatalogSync.Proofs.Dictionary
import CatalogSync.Proofs.Traversal
import CatalogSync.Schema.Columns
import Mathlib.Data.List.Forall2

namespace CatalogSync.Schema

open Traversal

-- The name and the type of the column that a single field asks for.
def columnType (timestamps : Bool) (field : StorageField) : Except Failure (String × String) :=
  match HiveType.ofStorage timestamps field.type with
  | .ok type => .ok (field.name, type.text)
  | .error type =>
    .error ((Failure.schema (.unsupported type)).leadingTo (.schema (.column field.name type)))

-- The last field with a name.
def lastField? (schema : StorageSchema) (name : String) : Option StorageField :=
  schema.reverse.find? (·.name = name)

variable {timestamps : Bool} {schema : StorageSchema} {types : Properties}

theorem addColumns_eq (found : Properties) (fields : StorageSchema) :
    addColumns timestamps found fields =
      (fields.mapM (columnType timestamps)).map found.insertAll := by
  induction fields generalizing found with
  | nil => rfl
  | cons field fields ih =>
      rw [addColumns, List.mapM_cons, columnType]
      cases HiveType.ofStorage timestamps field.type with
      | error type => rfl
      | ok type =>
          refine (ih _).trans ?_
          cases fields.mapM (columnType timestamps) <;> rfl

-- The type of a field has a counterpart with this written form.
def IsWrittenAs (timestamps : Bool) (field : StorageField) (text : String) : Prop :=
  ∃ type, HiveType.ofStorage timestamps field.type = .ok type ∧ type.text = text

section Fields

-- A column has the name of a field and the written form of its type.
def IsColumnOf (timestamps : Bool) (field : StorageField) (column : String × String) : Prop :=
  field.name = column.1 ∧ IsWrittenAs timestamps field column.2

variable {fields : StorageSchema} {columns : List (String × String)}

theorem isColumnOf_of_columnType {field : StorageField} {column : String × String}
    (h : columnType timestamps field = .ok column) : IsColumnOf timestamps field column := by
  rw [columnType] at h
  cases htype : HiveType.ofStorage timestamps field.type with
  | error type =>
      rw [htype] at h
      cases h
  | ok type =>
      rw [htype] at h
      cases h
      exact ⟨rfl, type, htype, rfl⟩

theorem exists_columns (h : columnTypes timestamps schema = .ok types) :
    ∃ columns, List.Forall₂ (IsColumnOf timestamps) schema columns ∧
      Dictionary.ofList columns = types := by
  rw [columnTypes, addColumns_eq] at h
  obtain ⟨columns, hcolumns, htypes⟩ := map_eq_ok_iff.mp h
  refine ⟨columns, ?_, htypes⟩
  rw [mapM_eq_ok_iff, ← List.forall₂_eq_eq_eq, List.forall₂_map_left_iff,
    List.forall₂_map_right_iff] at hcolumns
  exact hcolumns.imp fun _ _ => isColumnOf_of_columnType

theorem names_of_forall₂ (h : List.Forall₂ (IsColumnOf timestamps) fields columns) :
    columns.map Prod.fst = fields.map StorageField.name := by
  induction h with
  | nil => rfl
  | cons hcolumn _ ih => rw [List.map_cons, List.map_cons, hcolumn.1, ih]

theorem find?_of_forall₂ (h : List.Forall₂ (IsColumnOf timestamps) fields columns)
    (name : String) :
    Option.Rel (IsWrittenAs timestamps) (fields.find? (·.name = name))
      (Dictionary.find? name columns) := by
  induction h with
  | nil => exact .none
  | @cons field column fields columns hcolumn _ ih =>
      obtain ⟨hname, htype⟩ := hcolumn
      rw [List.find?_cons, Dictionary.find?, hname]
      by_cases hk : column.1 = name
      · simpa [hk] using htype
      · simpa [hk] using ih

end Fields

-- Columns stand in the order of the first fields with their names.
theorem keys_columnTypes (h : columnTypes timestamps schema = .ok types) :
    types.keys = (schema.map StorageField.name).eraseDups := by
  obtain ⟨columns, hcolumns, rfl⟩ := exists_columns h
  rw [Dictionary.keys_ofList, names_of_forall₂ hcolumns]

-- The type of a column is that of the last field with its name.
theorem get?_columnTypes (h : columnTypes timestamps schema = .ok types) (name : String) :
    Option.Rel (IsWrittenAs timestamps) (lastField? schema name) (types.get? name) := by
  obtain ⟨columns, hcolumns, rfl⟩ := exists_columns h
  rw [Dictionary.get?_ofList]
  exact find?_of_forall₂ (List.forall₂_reverse_iff.mpr hcolumns) name

theorem get?_columnTypes_of_none (h : columnTypes timestamps schema = .ok types) {name : String}
    (hfield : lastField? schema name = none) : types.get? name = none := by
  have hrel := get?_columnTypes h name
  rw [hfield] at hrel
  generalize types.get? name = found at hrel ⊢
  cases hrel
  rfl

theorem get?_columnTypes_of_some (h : columnTypes timestamps schema = .ok types) {name : String}
    {field : StorageField} (hfield : lastField? schema name = some field) :
    ∃ type, HiveType.ofStorage timestamps field.type = .ok type ∧
      types.get? name = some type.text := by
  have hrel := get?_columnTypes h name
  rw [hfield] at hrel
  generalize types.get? name = found at hrel ⊢
  obtain ⟨type, htype, rfl⟩ := hrel
  exact ⟨type, htype, rfl⟩

-- What the usual translator makes of a schema.
theorem translate_arrow_eq_ok_iff {listed : List Column} :
    Translator.arrow.translate timestamps schema = .ok (types, listed) ↔
      columnTypes timestamps schema = .ok types ∧
        ∃ found, comments schema = .ok found ∧ listed = columns types found := by
  constructor
  · intro h
    obtain ⟨found, htypes, hrest⟩ := bind_eq_ok_iff.mp h
    obtain ⟨texts, htexts, hpure⟩ := bind_eq_ok_iff.mp hrest
    obtain ⟨rfl, rfl⟩ := Prod.mk.inj (Except.ok.inj hpure)
    exact ⟨htypes, texts, htexts, rfl⟩
  · rintro ⟨htypes, found, hfound, rfl⟩
    simp only [Translator.translate, Translator.arrow, htypes, hfound]
    rfl

end CatalogSync.Schema
