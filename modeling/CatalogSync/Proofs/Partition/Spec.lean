import CatalogSync.Partition.Spec
import CatalogSync.Proofs.Traversal

namespace CatalogSync

open Traversal

theorem Extractor.extract_none (extractor : Extractor) (path : String) :
    extractor.extract path none = extractor.values path := by
  unfold extract
  cases extractor.values path <;> rfl

-- Against known keys a path gives its values if there is one for every key.
theorem Extractor.extract_some_iff {extractor : Extractor} {path : String}
    {keys values : List String} :
    extractor.extract path (some keys) = .ok values ↔
      extractor.values path = .ok values ∧ values.length = keys.length := by
  rw [extract, bind_eq_ok_iff]
  constructor
  · rintro ⟨found, hfound, hcounted⟩
    dsimp only at hcounted
    split at hcounted
    · next hlength =>
      obtain rfl := Except.ok.inj hcounted
      exact ⟨hfound, hlength⟩
    · cases hcounted
  · rintro ⟨hvalues, hlength⟩
    exact ⟨values, hvalues, if_pos hlength⟩

theorem Extractor.extract_some_eq_error_iff {extractor : Extractor} {path : String}
    {keys : List String} {failure : Failure} :
    extractor.extract path (some keys) = .error failure ↔
      extractor.values path = .error failure ∨ ∃ values, extractor.values path = .ok values ∧
        values.length ≠ keys.length ∧ failure = .values (.count path values keys) := by
  rw [extract, bind_eq_error_iff]
  refine or_congr_right (exists_congr fun values => and_congr_right fun _ => ?_)
  dsimp only
  split
  · next hlength => exact iff_of_false nofun fun h => h.1 hlength
  · next hlength =>
    rw [Except.error.injEq]
    exact ⟨fun h => ⟨hlength, h.symm⟩, fun h => h.2.symm⟩

theorem PartitionSpec.make_ok {path base : String} {extractor : Extractor}
    {filesystem : Option FileSystem} {keys : List String} {spec : PartitionSpec}
    (h : make path extractor base filesystem (some keys) = .ok spec) :
    extractor.values path = .ok spec.values ∧ spec.values.length = keys.length ∧
      Location.resolve base path filesystem = .ok spec.location := by
  obtain ⟨values, hextract, hrest⟩ := bind_eq_ok_iff.mp h
  obtain ⟨location, hlocation, hpure⟩ := bind_eq_ok_iff.mp hrest
  obtain rfl := Except.ok.inj hpure
  obtain ⟨hvalues, hlength⟩ := Extractor.extract_some_iff.mp hextract
  exact ⟨hvalues, hlength, hlocation⟩

theorem PartitionSpec.path_of_make {path base : String} {extractor : Extractor}
    {filesystem : Option FileSystem} {keys : Option (List String)} {spec : PartitionSpec}
    (h : make path extractor base filesystem keys = .ok spec) : spec.path = path := by
  obtain ⟨values, -, hrest⟩ := bind_eq_ok_iff.mp h
  obtain ⟨location, -, hpure⟩ := bind_eq_ok_iff.mp hrest
  obtain rfl := Except.ok.inj hpure
  rfl

end CatalogSync
