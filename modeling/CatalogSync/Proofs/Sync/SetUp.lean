import CatalogSync.Proofs.Extractor.Registry
import CatalogSync.Proofs.Storage.Refusal
import CatalogSync.Proofs.Sync.Preview

namespace CatalogSync

open CatalogSync.Text CatalogSync.Uri

namespace Executor

variable {σ : Type}

theorem chosenFileSystem_of_unset {settings : Settings}
    (h : ∀ uri ∈ settings.defaultFileSystem, uri = "") :
    chosenFileSystem settings none = .ok none := by
  rw [chosenFileSystem, Preview.fileSystem]
  cases hdefault : settings.defaultFileSystem with
  | none => rfl
  | some uri =>
      obtain rfl := h uri hdefault
      rfl

theorem chosenFileSystem_of_default {settings : Settings} {uri : String}
    (h : settings.defaultFileSystem = some uri) (hne : uri ≠ "") :
    chosenFileSystem settings none = (FileSystem.ofUri uri).map some := by
  simp [chosenFileSystem, Preview.fileSystem, h]

-- With a known extractor, only the file system can keep an executor from being set up.
theorem exists_create_eq {registry : Registry} {settings : Settings} (client : Option (Client σ))
    (translator : Option Translator) (user : Except Failure String)
    (fileSystem : Option FileSystem) {extractor : Option Extractor}
    (hknown : extractor = none →
      ∃ known, (registry.create settings.partitionExtractor).result = .ok known) :
    ∃ known, (create registry settings client extractor fileSystem translator user).result =
      (chosenFileSystem settings fileSystem).map fun chosen =>
        ⟨settings, known, chosen, client, translator.getD .arrow, user⟩ := by
  have hchosen : ∃ known, chosenExtractor registry settings extractor = .ok known := by
    cases extractor with
    | some extractor => exact ⟨extractor, rfl⟩
    | none => exact hknown rfl
  obtain ⟨known, hchosen⟩ := hchosen
  exact ⟨known, by rw [create_result, hchosen]; rfl⟩

-- Wherever a location is read, a text that cannot be read escapes as it is; all else that fails is
-- refused as a setting. Reading a file system and setting up an executor escape for the text of the
-- file system, and finding a location for the base path, unless this is a bare scheme or one of the
-- two paths has tabs or line ends. Only brackets and characters that fold into delimiters make texts
-- that cannot be read.
theorem failsBy_unreadable_text (registry : Registry) (settings : Settings)
    (client : Option (Client σ)) (extractor : Option Extractor) (translator : Option Translator)
    (user : Except Failure String)
    (hknown : extractor = none →
      ∃ known, (registry.create settings.partitionExtractor).result = .ok known) :
    (∀ text, FailsBy (FileSystem.ofUri text) (trim text) (.filesystemForm text)) ∧
    ((∀ given, ∃ executor,
        (create registry settings client extractor (some given) translator user).result =
          .ok executor) ∧
      ((∀ uri ∈ settings.defaultFileSystem, uri = "") → ∃ executor,
        (create registry settings client extractor none translator user).result =
          .ok executor) ∧
      ∀ uri, settings.defaultFileSystem = some uri → uri ≠ "" →
        FailsBy (create registry settings client extractor none translator user).result (trim uri)
          (.filesystemForm uri)) ∧
    (∀ base partition filesystem,
      (∀ default ∈ filesystem, ∃ text, FileSystem.ofUri text = .ok default) →
      FailsBy (Location.resolve base partition filesystem) (Location.join base partition)
        (.noNamenode (Location.join base partition))) ∧
    (∀ base partition : String, IsUnbroken base.toList → IsUnbroken partition.toList →
      Location.isBareScheme base = false → ∀ problem,
      (parse (Location.join base partition) = .error problem ↔ parse base = .error problem)) ∧
    ∀ text : String, (∀ c ∈ text.toList, isSuspect c = false) → ∃ parts, parse text = .ok parts := by
  refine ⟨FileSystem.failsBy_ofUri, ⟨fun given => ?_, fun hunset => ?_, fun uri huri hne => ?_⟩,
    fun base partition _ => Location.failsBy_resolve base partition,
    fun _ _ => Location.parse_join_eq_error_iff, fun _ => exists_parse_of_plain⟩
  · obtain ⟨known, hcreate⟩ := exists_create_eq client translator user (some given) hknown
    exact ⟨_, hcreate⟩
  · obtain ⟨known, hcreate⟩ := exists_create_eq client translator user none hknown
    rw [chosenFileSystem_of_unset hunset] at hcreate
    exact ⟨_, hcreate⟩
  · obtain ⟨known, hcreate⟩ := exists_create_eq client translator user none hknown
    rw [hcreate, chosenFileSystem_of_default huri hne]
    exact ((FileSystem.failsBy_ofUri uri).map some).map _

-- A bracket that is not closed, in the text of the file system and in a base path. In a partition
-- path it does no harm.
theorem failsBy_unreadable_text_bracket :
    let settings : Settings := { defaultFileSystem := some " hdfs://[nn " }
    let default : FileSystem := ⟨"hdfs://nn"⟩
    (create (Registry.initial []) settings (none : Option (Client Unit)) none none none
        (.ok "")).result = .error (.uri .brackets) ∧
      Location.resolve "hdfs://[nn/sales" "day=1" (some default) = .error (.uri .brackets) ∧
      Location.resolve "hdfs:///sales" "day=[1" (some default) ≠ .error (.uri .brackets) := by
  intro settings default
  have hknown : (none : Option Extractor) = none → ∃ known,
      ((Registry.initial []).create settings.partitionExtractor).result = .ok known := fun _ =>
    ⟨_, congrArg Registry.Answer.result (Registry.create_initial [] .multiPart (by decide))⟩
  have hdefault : FileSystem.ofUri "hdfs://nn" = .ok default :=
    Traversal.eq_ok_of_toOption (by decide +kernel)
  obtain ⟨-, ⟨-, -, hcreate⟩, hresolve, hjoin, -⟩ := failsBy_unreadable_text (Registry.initial [])
    settings (none : Option (Client Unit)) none none (.ok "") hknown
  have hlocation := fun base partition =>
    (hresolve base partition (some default) (by simpa using ⟨_, hdefault⟩)).unreadable_iff .brackets
  refine ⟨?_, ?_, fun h => ?_⟩
  · exact ((hcreate _ rfl (by decide)).unreadable_iff _).mpr
      (Traversal.error?_eq_some_iff.mp (by decide +kernel))
  · exact (hlocation _ _).mpr (Traversal.error?_eq_some_iff.mp (by decide +kernel))
  · have hbase := (hjoin "hdfs:///sales" "day=[1" (by decide) (by decide) (by decide)
      .brackets).mp ((hlocation _ _).mp h)
    have hread : parse "hdfs:///sales" = .ok ⟨"hdfs", "", "/sales", "", ""⟩ :=
      Traversal.eq_ok_of_toOption (by decide +kernel)
    cases hbase.symm.trans hread

-- A text that cannot be read is not refused as a setting.
theorem unreadable_default_escapes : ¬∀ (settings : Settings) (failure : Failure),
    (create (Registry.initial []) settings (none : Option (Client Unit)) none none none
      (.ok "")).result = .error failure → ∃ problem, failure.problem = .config problem := by
  intro hconfig
  let settings : Settings := { defaultFileSystem := some "hdfs://[nn" }
  have hname : ((Registry.initial []).create settings.partitionExtractor).result =
      .ok PathForm.multiPart.extractor :=
    congrArg Registry.Answer.result (Registry.create_initial [] .multiPart (by decide))
  have hparse : parse (trim "hdfs://[nn") = .error .brackets :=
    Traversal.error?_eq_some_iff.mp (by decide +kernel)
  have hescapes : (create (Registry.initial []) settings (none : Option (Client Unit)) none none
      none (.ok "")).result = .error (.uri .brackets) := by
    rw [create_result, chosenExtractor, hname, chosenFileSystem_of_default rfl (by decide),
      ((FileSystem.failsBy_ofUri _).unreadable_iff _).mpr hparse]
    rfl
  obtain ⟨problem, hproblem⟩ := hconfig settings _ hescapes
  cases hproblem

end Executor

end CatalogSync
