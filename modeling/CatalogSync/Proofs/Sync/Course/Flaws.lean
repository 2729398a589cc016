import CatalogSync.Proofs.Storage.Location
import CatalogSync.Proofs.Sync.Course.Basic
import CatalogSync.Proofs.Traversal

namespace CatalogSync

open Traversal

-- Whether the failure says that an operation on the catalog has failed.
def Failure.isCatalog (failure : Failure) : Bool :=
  match failure.problem with
  | .operation _ | .batch _ => true
  | _ => false

variable {failure : Failure}

namespace Schema

private theorem addColumns_error {timestamps : Bool} {schema : StorageSchema} {found : Properties}
    (h : addColumns timestamps found schema = .error failure) :
    ∃ name type, failure.problem = .schema (.column name type) := by
  induction schema generalizing found with
  | nil => cases h
  | cons field fields ih =>
      rw [addColumns] at h
      split at h
      · exact ih h
      · obtain rfl := Except.error.inj h
        exact ⟨field.name, _, rfl⟩

private theorem addComments_error {schema : StorageSchema} {found : Properties}
    (h : addComments found schema = .error failure) : failure = .value .encoding := by
  induction schema generalizing found with
  | nil => cases h
  | cons field fields ih =>
      rw [addComments] at h
      split at h
      · exact ih h
      · split at h
        · exact ih h
        · split at h
          · exact (Except.error.inj h).symm
          · exact ih h

end Schema

-- The usual translator fails with an error of the library's own, or for a comment that is no text.
theorem Translator.arrow_error {timestamps : Bool} {schema : StorageSchema}
    (h : arrow.translate timestamps schema = .error failure) :
    failure.isCatalog = false ∧ failure.isOwn = true ∨ failure = .value .encoding := by
  rcases bind_eq_error_iff.mp h with ht | ⟨types, -, hrest⟩
  · obtain ⟨name, type, hp⟩ := Schema.addColumns_error ht
    exact .inl ⟨by rw [Failure.isCatalog, hp], by rw [Failure.isOwn, hp]; rfl⟩
  · rcases bind_eq_error_iff.mp hrest with hc | ⟨comments, -, hpure⟩
    · exact .inr (Schema.addComments_error hc)
    · cases hpure

-- A location that cannot be resolved is not the fault of the catalog.
theorem Location.isCatalog_of_resolve {base path : String} {filesystem : Option FileSystem}
    (h : resolve base path filesystem = .error failure) : failure.isCatalog = false := by
  rcases resolve_error h with ⟨problem, rfl⟩ | rfl <;> rfl

-- The values of a path are refused by the extractor or by their number.
theorem Extractor.extract_error {extractor : Extractor} {path : String}
    {keys : Option (List String)} (h : extractor.extract path keys = .error failure) :
    extractor.values path = .error failure ∨
      failure.isCatalog = false ∧ failure.isOwn = true := by
  rcases bind_eq_error_iff.mp h with hv | ⟨values, -, hrest⟩
  · exact .inl hv
  · split at hrest
    · cases hrest
    · split at hrest
      · cases hrest
      · obtain rfl := Except.error.inj hrest
        exact .inr ⟨rfl, rfl⟩

theorem applyComment_error {updates : Dictionary String CommentUpdate} {column : Column}
    (h : applyComment updates column = .error failure) :
    ∃ update, updates.get? column.name = some update ∧ update.text = .error failure := by
  unfold applyComment at h
  split at h
  · cases h
  · next update hupdate => exact ⟨update, hupdate, map_eq_error_iff.mp h⟩

namespace Operation

-- The schema that an operation is given.
def schema? : Operation → Option StorageSchema
  | createTable request => some request.schema
  | updateTable _ schema => some schema
  | _ => none

-- The partition paths that it is given.
def paths : Operation → List String
  | addPartitions _ paths | updatePartitions _ paths | dropPartitions _ paths => paths
  | _ => []

end Operation

namespace Executor

variable {σ : Type} (executor : Executor σ)

-- What may come up in an operation's own work that need not be an error of the library's own:
-- whatever the translator has to say of a schema, which from the usual one is only that a comment
-- is no text, or of the type of a key; that the user has no name; an update that holds no comment;
-- and whatever the extractor has to say of a path.
inductive Foreign : Operation → Failure → Prop
  | schema (operation : Operation) (schema : StorageSchema) (failure : Failure)
      (hschema : operation.schema? = some schema)
      (hflaw : executor.translate schema = .error failure)
      (harrow : executor.translator = .arrow → failure = .value .encoding) :
      Foreign operation failure
  | keyType (request : TableRequest) (types : Properties) (columns : List Column) (field : String)
      (failure : Failure) (htypes : executor.translate request.schema = .ok (types, columns))
      (hfield : field ∈ executor.settings.partitionFields)
      (hflaw : executor.translator.keyType types field = .error failure) :
      Foreign (.createTable request) failure
  | user (request : TableRequest) (failure : Failure)
      (howner : executor.settings.owner.getD "" = "") (hflaw : executor.user = .error failure) :
      Foreign (.createTable request) failure
  | comment (name : String) (updates : Dictionary String CommentUpdate) (column : String)
      (update : CommentUpdate) (failure : Failure) (hupdate : updates.get? column = some update)
      (hflaw : update.text = .error failure) : Foreign (.updateComments name updates) failure
  | path (operation : Operation) (path : String) (failure : Failure)
      (hpath : path ∈ operation.paths) (hvalues : executor.extractor.values path = .error failure) :
      Foreign operation failure

variable {executor}

theorem Foreign.schema_or {operation : Operation} {schema : StorageSchema}
    (hschema : operation.schema? = some schema)
    (hflaw : executor.translate schema = .error failure) :
    executor.Foreign operation failure ∨ failure.isCatalog = false ∧ failure.isOwn = true := by
  by_cases harrow : executor.translator = .arrow
  · have harrowFlaw := hflaw
    rw [translate, harrow] at harrowFlaw
    rcases Translator.arrow_error harrowFlaw with hown | hencoding
    · exact .inr hown
    · exact .inl (.schema operation schema failure hschema hflaw fun _ => hencoding)
  · exact .inl (.schema operation schema failure hschema hflaw fun h => absurd h harrow)

theorem owner_error (h : executor.owner = .error failure) :
    executor.settings.owner.getD "" = "" ∧ executor.user = .error failure := by
  unfold owner at h
  split at h
  · next howner => exact ⟨by rw [howner]; rfl, h⟩
  · next howner => exact ⟨by rw [howner]; rfl, h⟩
  · cases h

theorem Foreign.createTable_or {request : TableRequest}
    (hflaw : executor.newTable request = .error failure) :
    executor.Foreign (.createTable request) failure ∨
      failure.isCatalog = false ∧ failure.isOwn = true := by
  rcases bind_eq_error_iff.mp hflaw with hschema | ⟨⟨types, columns⟩, htypes, hrest⟩
  · exact schema_or rfl hschema
  · rcases bind_eq_error_iff.mp hrest with hkeys | ⟨keys, -, hrest⟩
    · obtain ⟨field, hfield, hkey⟩ := exists_of_mapM_error hkeys
      rcases bind_eq_error_iff.mp hkey with htype | ⟨type, -, hpure⟩
      · exact .inl (.keyType request types columns field failure htypes hfield htype)
      · cases hpure
    · rcases bind_eq_error_iff.mp hrest with howner | ⟨owner, -, hpure⟩
      · obtain ⟨hnone, huser⟩ := owner_error howner
        exact .inl (.user request failure hnone huser)
      · cases hpure

theorem specs_error {entry : Table} {paths : List String}
    (h : executor.specs entry paths = .error failure) :
    (∃ path ∈ paths, executor.extractor.values path = .error failure) ∨
      failure.isCatalog = false := by
  obtain ⟨path, hpath, hmake⟩ := exists_of_mapM_error h
  rcases bind_eq_error_iff.mp hmake with hextract | ⟨values, -, hrest⟩
  · rcases Extractor.extract_error hextract with hv | ⟨hc, -⟩
    · exact .inl ⟨path, hpath, hv⟩
    · exact .inr hc
  · rcases bind_eq_error_iff.mp hrest with hresolve | ⟨location, -, hpure⟩
    · exact .inr (Location.isCatalog_of_resolve hresolve)
    · cases hpure

-- All other flaws are no failures of the catalog, and where they are wrapped they are not taken for
-- one because they are errors of the library's own.
theorem Flaw.foreign_or {client : Client σ} {session : Session σ} {operation : Operation}
    (h : executor.Flaw client session operation failure) :
    executor.Foreign operation failure ∨
      failure.isCatalog = false ∧ (operation.wrapsOwnWork = true → failure.isOwn = true) := by
  cases h with
  | createTable request _ hflaw =>
      exact (Foreign.createTable_or hflaw).imp_right fun ⟨hc, ho⟩ => ⟨hc, fun _ => ho⟩
  | updateTable name schema _ hflaw =>
      have htranslate := map_eq_error_iff.mp hflaw
      exact (Foreign.schema_or rfl htranslate).imp_right fun ⟨hc, ho⟩ => ⟨hc, fun _ => ho⟩
  | addPartitions table paths entry _ _ hflaw | updatePartitions table paths entry _ _ hflaw =>
      rcases specs_error hflaw with ⟨path, hpath, hv⟩ | hc
      · exact .inl (.path _ path failure hpath hv)
      · exact .inr ⟨hc, nofun⟩
  | dropPartitions table paths path _ hpath hflaw =>
      rcases Extractor.extract_error hflaw with hv | ⟨hc, ho⟩
      · exact .inl (.path _ path failure hpath hv)
      · exact .inr ⟨hc, fun _ => ho⟩
  | updateComments name updates entry _ _ hflaw =>
      obtain ⟨column, -, hc⟩ := exists_of_mapM_error hflaw
      obtain ⟨update, hupdate, htext⟩ := applyComment_error hc
      exact .inl (.comment name updates column.name update failure hupdate htext)

end Executor

end CatalogSync
