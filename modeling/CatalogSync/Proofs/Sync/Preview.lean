import CatalogSync.Command.Preview
import CatalogSync.Proofs.Partition.Spec
import CatalogSync.Proofs.Sync.Addition

namespace CatalogSync

open Traversal

-- The values of a partition and its location.
def Partition.place (partition : Partition) : List String × Option String :=
  (partition.values, partition.layout.location)

def PartitionSpec.place (spec : PartitionSpec) : List String × Option String :=
  (spec.values, some spec.location)

namespace Preview

variable {registry : Registry} {settings : Settings} {paths : List String} {failure : Failure}

-- What both a preview and an executor need: the extractor, and then the file system.
def setUp (registry : Registry) (settings : Settings) :
    Except Failure (Extractor × Option FileSystem) := do
  let extractor ← (registry.create settings.partitionExtractor).result
  let fileSystem ← fileSystem settings
  return (extractor, fileSystem)

-- The spec that is shown for a path.
def spec (settings : Settings) (tools : Extractor × Option FileSystem) (path : String) :
    Except Failure PartitionSpec :=
  PartitionSpec.make path tools.1 settings.basePath tools.2 (keys settings)

-- What keeps a preview from being made: the extractor or the file system cannot be set up, or a
-- path has no spec, and then it is the first such path.
inductive Obstacle (registry : Registry) (settings : Settings) (paths : List String)
    (failure : Failure) : Prop where
  | extractor (h : (registry.create settings.partitionExtractor).result = .error failure)
  | fileSystem (extractor : Extractor)
      (hextractor : (registry.create settings.partitionExtractor).result = .ok extractor)
      (h : fileSystem settings = .error failure)
  | path (tools : Extractor × Option FileSystem) (before after : List String) (path : String)
      (specs : List PartitionSpec) (htools : setUp registry settings = .ok tools)
      (hpaths : paths = before ++ path :: after)
      (hbefore : before.mapM (spec settings tools) = .ok specs)
      (h : spec settings tools path = .error failure)

theorem make_eq (registry : Registry) (settings : Settings) (paths : List String) :
    make registry settings paths = do
      let tools ← setUp registry settings
      let specs ← paths.mapM (spec settings tools)
      return ⟨specs, (Batch.plan settings.batchSize specs).length⟩ := by
  change (registry.create settings.partitionExtractor).result >>= ofExtractor settings paths = _
  simp only [setUp, bind_assoc, pure_bind]
  rfl

theorem make_ok {found : Preview} (h : make registry settings paths = .ok found) :
    ∃ tools specs, setUp registry settings = .ok tools ∧
      paths.mapM (spec settings tools) = .ok specs ∧
      found = ⟨specs, (Batch.plan settings.batchSize specs).length⟩ := by
  rw [make_eq] at h
  obtain ⟨tools, htools, hrest⟩ := bind_eq_ok_iff.mp h
  obtain ⟨specs, hspecs, hpure⟩ := bind_eq_ok_iff.mp hrest
  exact ⟨tools, specs, htools, hspecs, (Except.ok.inj hpure).symm⟩

theorem paths_of_make {found : Preview} (h : make registry settings paths = .ok found) :
    found.specs.map PartitionSpec.path = paths := by
  obtain ⟨tools, specs, -, hmapped, rfl⟩ := make_ok h
  exact map_of_mapM_ok hmapped fun _ _ => PartitionSpec.path_of_make

theorem make_error (h : make registry settings paths = .error failure) :
    setUp registry settings = .error failure ∨ ∃ tools, setUp registry settings = .ok tools ∧
      paths.mapM (spec settings tools) = .error failure := by
  rw [make_eq] at h
  rcases bind_eq_error_iff.mp h with htools | ⟨tools, htools, hrest⟩
  · exact .inl htools
  · rcases bind_eq_error_iff.mp hrest with hspecs | ⟨specs, -, hpure⟩
    · exact .inr ⟨tools, htools, hspecs⟩
    · cases hpure

theorem obstacle_of_make (h : make registry settings paths = .error failure) :
    Obstacle registry settings paths failure := by
  rcases make_error h with htools | ⟨tools, htools, hspecs⟩
  · rcases bind_eq_error_iff.mp htools with hextractor | ⟨extractor, hextractor, hrest⟩
    · exact .extractor hextractor
    · rcases bind_eq_error_iff.mp hrest with hfile | ⟨fileSystem, -, hpure⟩
      · exact .fileSystem extractor hextractor hfile
      · cases hpure
  · obtain ⟨before, path, after, specs, hpaths, hbefore, hpath⟩ :=
      exists_first_of_mapM_error hspecs
    exact .path tools before after path specs htools hpaths hbefore hpath

end Preview

namespace Executor

open CatalogSync.Action

variable {σ : Type}

-- Sets up an executor as settings say and adds partitions with it.
def synchronise (registry : Registry) (settings : Settings) (client : Client σ)
    (translator : Option Translator) (user : Except Failure String) (table : String)
    (paths : List String) (session : Session σ) : Except Failure SyncResult × Session σ :=
  match (create registry settings (some client) none none translator user).result with
  | .error failure => (.error failure, session)
  | .ok executor => (executor.addPartitions table paths).perform session

-- The executor with an extractor and a file system that are set up already.
def equipped (settings : Settings) (client : Client σ) (translator : Option Translator)
    (user : Except Failure String) (tools : Extractor × Option FileSystem) : Executor σ :=
  ⟨settings, tools.1, tools.2, some client, translator.getD .arrow, user⟩

-- The extractor that an executor is set up with: the given one, or that of the settings.
def chosenExtractor (registry : Registry) (settings : Settings) :
    Option Extractor → Except Failure Extractor
  | some extractor => .ok extractor
  | none => (registry.create settings.partitionExtractor).result

-- The file system that it is set up with: the given one, or that of the settings.
def chosenFileSystem (settings : Settings) :
    Option FileSystem → Except Failure (Option FileSystem)
  | some fileSystem => .ok (some fileSystem)
  | none => Preview.fileSystem settings

theorem create_result (registry : Registry) (settings : Settings) (client : Option (Client σ))
    (extractor : Option Extractor) (fileSystem : Option FileSystem)
    (translator : Option Translator) (user : Except Failure String) :
    (create registry settings client extractor fileSystem translator user).result = do
      let extractor ← chosenExtractor registry settings extractor
      let fileSystem ← chosenFileSystem settings fileSystem
      return ⟨settings, extractor, fileSystem, client, translator.getD .arrow, user⟩ := by
  simp only [create]
  refine (congrArg (· >>= _) ?_).trans (bind_congr fun extractor => ?_)
  · cases extractor <;> rfl
  · cases fileSystem with
    | some fileSystem => rfl
    | none =>
        rw [chosenFileSystem, Preview.fileSystem]
        cases settings.defaultFileSystem with
        | none => rfl
        | some uri =>
            by_cases hempty : uri = ""
            · subst hempty
              rfl
            · simp only

theorem create_eq (registry : Registry) (settings : Settings) (client : Client σ)
    (translator : Option Translator) (user : Except Failure String) :
    (create registry settings (some client) none none translator user).result =
      (Preview.setUp registry settings).map (equipped settings client translator user) := by
  rw [create_result, chosenExtractor, chosenFileSystem, Preview.setUp]
  cases (registry.create settings.partitionExtractor).result with
  | error failure => rfl
  | ok extractor => cases Preview.fileSystem settings <;> rfl

theorem synchronise_of_setUp {registry : Registry} {settings : Settings}
    {tools : Extractor × Option FileSystem} (h : Preview.setUp registry settings = .ok tools)
    (client : Client σ) (translator : Option Translator) (user : Except Failure String)
    (table : String) (paths : List String) (session : Session σ) :
    synchronise registry settings client translator user table paths session =
      ((equipped settings client translator user tools).addPartitions table paths).perform
        session := by
  simp only [synchronise, create_eq, h, Except.map]

section Agreement

variable {registry : Registry} {settings : Settings} {client : Client σ}
  {translator : Option Translator} {user : Except Failure String} {table : String}
  {paths : List String} {session : Session σ}

-- The table has the configured fields as its keys.
variable (hfields : settings.partitionFields ≠ []) (hpaths : paths ≠ []) {entry : Table}
  (hentry : (client.answer (.getTable settings.databaseName table) session.catalog).1 = .ok entry)
  (hkeys : entry.partitionKeys.map Column.name = settings.partitionFields)

include hfields hkeys in
-- A preview and an executor make the same specs.
theorem specs_eq_preview (tools : Extractor × Option FileSystem) (paths : List String) :
    (equipped settings client translator user tools).specs entry paths =
      paths.mapM (Preview.spec settings tools) := by
  have hknown : Preview.keys settings = some (entry.partitionKeys.map Column.name) := by
    rw [Preview.keys, if_neg (by simpa using hfields), hkeys]
  rw [specs]
  congr 1
  funext path
  rw [Preview.spec, hknown]
  rfl

include hfields hpaths hentry hkeys

-- Whatever keeps a preview from being made keeps partitions from being sent.
theorem synchronise_of_obstacle {failure : Failure}
    (h : Preview.make registry settings paths = .error failure) :
    let added := synchronise registry settings client translator user table paths session
    added.1 = .error failure ∧ ∃ calls, added.2.calls = session.calls ++ calls ∧
      calls ⊆ [.getTable settings.databaseName table] := by
  intro added
  rcases Preview.make_error h with htools | ⟨tools, htools, hmapped⟩
  · have hadded : added = (.error failure, session) := by
      simp only [added, synchronise, create_eq, htools, Except.map]
    rw [hadded]
    exact ⟨rfl, [], (List.append_nil _).symm, List.nil_subset _⟩
  · let executor := equipped settings client translator user tools
    have hspecs : executor.specs entry paths = .error failure := by
      rw [specs_eq_preview hfields hkeys, hmapped]
    have hadded : added = (executor.addPartitions table paths).perform session :=
      synchronise_of_setUp htools client translator user table paths session
    have hm := executor.makes_addPartitions_invalid rfl table paths hpaths entry hentry failure
      hspecs
    obtain ⟨hr, hc, -⟩ := hm session rfl
    rw [hadded]
    exact ⟨hr, _, hc, List.Subset.refl _⟩

-- What is shown is what is sent.
theorem synchronise_of_preview {found : Preview}
    (hcalls : ∀ batches : List (List Partition), client.Accepts (batches.map sending)
      (client.answer (.getTable settings.databaseName table) session.catalog).2)
    (h : Preview.make registry settings paths = .ok found) :
    let added := synchronise registry settings client translator user table paths session
    ∃ done, ∃ batches : List (List Partition), added.1 = .ok done ∧
      added.2.calls = session.calls ++
        .getTable settings.databaseName table :: batches.map sending ∧
      batches.flatten.map Partition.place = found.specs.map PartitionSpec.place ∧
      done.batches = found.batches := by
  intro added
  obtain ⟨tools, specs, htools, hmapped, rfl⟩ := Preview.make_ok h
  let executor := equipped settings client translator user tools
  have hspecs : executor.specs entry paths = .ok specs := by
    rw [specs_eq_preview hfields hkeys, hmapped]
  have hadded : added = (executor.addPartitions table paths).perform session :=
    synchronise_of_setUp htools client translator user table paths session
  have hm := executor.makes_addPartitions_sent rfl table paths hpaths entry hentry specs hspecs
    (hcalls _)
  obtain ⟨hr, hc, -⟩ := hm session rfl
  rw [hadded]
  refine ⟨_, executor.batches table entry specs, hr, hc, ?_, ?_⟩
  · rw [flatten_batches, List.map_map]
    rfl
  · simp only [batches, List.length_map]
    rfl

end Agreement

end Executor

end CatalogSync
