import CatalogSync.Proofs.Storage.FileSystem
import CatalogSync.Proofs.Storage.Join
import CatalogSync.Proofs.Traversal

namespace CatalogSync.Location

open CatalogSync.Text CatalogSync.Uri

theorem qualifyWith_some {filesystem : FileSystem} {parts : Uri}
    (h : filesystem.parts = .ok parts) (joined path : String) :
    qualifyWith (some filesystem) joined path =
      if parts.host ≠ "" ∧ parts.scheme = "hdfs" then .ok (filesystem.qualify path)
      else .error (.config (.noNamenode joined)) := by
  have hneeds := needsNamenode_iff (isRead_of_parse h)
  simp only [qualifyWith, FileSystem.host_of_parts h, FileSystem.scheme_of_parts h,
    Except.mapError, bind, Except.bind]
  by_cases hempty : parts.host = ""
  · rw [if_pos hempty, if_neg fun hboth => hboth.1 hempty]
  · rw [if_neg hempty]
    by_cases hhdfs : parts.scheme = "hdfs"
    · rw [if_pos (hneeds.mpr hhdfs), if_pos ⟨hempty, hhdfs⟩]
    · rw [if_neg fun hn => hhdfs (hneeds.mp hn), if_neg fun hboth => hhdfs hboth.2]

-- A location without a namenode is refused exactly if there is no distributed default file system
-- with a host.
theorem qualifyWith_eq_error_iff {filesystem : Option FileSystem}
    (h : ∀ default ∈ filesystem, ∃ found, default.parts = .ok found) (joined path : String) :
    qualifyWith filesystem joined path = .error (.config (.noNamenode joined)) ↔
      ∀ default ∈ filesystem, default.host = .ok "" ∨ default.scheme ≠ .ok "hdfs" := by
  cases filesystem with
  | none => exact iff_of_true rfl (by simp)
  | some default =>
      obtain ⟨found, hfound⟩ := h default rfl
      rw [qualifyWith_some hfound]
      simp only [Option.mem_def, Option.some.injEq, forall_eq', FileSystem.host_of_parts hfound,
        FileSystem.scheme_of_parts hfound, ne_eq, Except.ok.injEq]
      by_cases husable : ¬found.host = "" ∧ found.scheme = "hdfs"
      · rw [if_pos husable]
        exact iff_of_false (by simp) fun hn => hn.elim husable.1 fun hs => hs husable.2
      · rw [if_neg husable]
        exact iff_of_true rfl (or_iff_not_imp_left.mpr fun hh hs => husable ⟨hh, hs⟩)

theorem resolve_eq {base partition : String} {parts : Uri}
    (h : parse (join base partition) = .ok parts) (filesystem : Option FileSystem) :
    resolve base partition filesystem =
      if parts.scheme = "hdfs" then
        if parts.authority = "" then qualifyWith filesystem (join base partition) parts.path
        else .ok ((FileSystem.ofParts parts.scheme parts.authority).qualify parts.path)
      else .ok (join base partition) := by
  have hneeds := needsNamenode_iff (isRead_of_parse h)
  simp only [resolve, h, Except.mapError, bind, Except.bind]
  by_cases hhdfs : parts.scheme = "hdfs"
  · rw [if_pos (hneeds.mpr hhdfs), if_pos hhdfs]
  · rw [if_neg fun hn => hhdfs (hneeds.mp hn), if_neg hhdfs]

private theorem exists_uri_of_mapError {α : Type} {result : Except UriProblem α}
    {failure : Failure} (h : result.mapError Failure.uri = .error failure) :
    ∃ problem, failure = .uri problem := by
  cases result with
  | ok a => cases h
  | error problem => exact ⟨problem, (Except.error.inj h).symm⟩

theorem qualifyWith_error {filesystem : Option FileSystem} {joined path : String}
    {failure : Failure} (h : qualifyWith filesystem joined path = .error failure) :
    (∃ problem, failure = .uri problem) ∨ failure = .config (.noNamenode joined) := by
  unfold qualifyWith at h
  cases filesystem with
  | none => exact .inr (Except.error.inj h).symm
  | some filesystem =>
      rcases Traversal.bind_eq_error_iff.mp h with hhost | ⟨host, -, hrest⟩
      · exact .inl (exists_uri_of_mapError hhost)
      · split at hrest
        · exact .inr (Except.error.inj hrest).symm
        · rcases Traversal.bind_eq_error_iff.mp hrest with hscheme | ⟨scheme, -, hlast⟩
          · exact .inl (exists_uri_of_mapError hscheme)
          · split at hlast
            · cases hlast
            · exact .inr (Except.error.inj hlast).symm

-- A location is refused because a text is not an address or because a namenode is missing.
theorem resolve_error {base partition : String} {filesystem : Option FileSystem}
    {failure : Failure} (h : resolve base partition filesystem = .error failure) :
    (∃ problem, failure = .uri problem) ∨ failure = .config (.noNamenode (join base partition)) := by
  rcases Traversal.bind_eq_error_iff.mp h with hparse | ⟨parts, -, hrest⟩
  · exact .inl (exists_uri_of_mapError hparse)
  · split at hrest
    · split at hrest
      · exact qualifyWith_error hrest
      · cases hrest
    · cases hrest

-- The ways in which a location comes about from the base path and the partition path that have
-- been put together.
inductive Resolved (filesystem : Option FileSystem) (joined : String) (parts : Uri) :
    String → Prop where
  | plain : parts.scheme ≠ "hdfs" → Resolved filesystem joined parts joined
  | own : parts.scheme = "hdfs" → parts.authority ≠ "" →
      Resolved filesystem joined parts
        ((FileSystem.ofParts parts.scheme parts.authority).qualify parts.path)
  | qualified (default : FileSystem) (found : Uri) : parts.scheme = "hdfs" →
      parts.authority = "" → filesystem = some default → default.parts = .ok found →
      found.host ≠ "" → found.scheme = "hdfs" →
      Resolved filesystem joined parts (default.qualify parts.path)

theorem resolved_of_resolve {base partition location : String} {filesystem : Option FileSystem}
    (h : resolve base partition filesystem = .ok location) :
    ∃ parts, parse (join base partition) = .ok parts ∧
      Resolved filesystem (join base partition) parts location := by
  cases hp : parse (join base partition) with
  | error problem => simp [resolve, hp, Except.mapError, bind, Except.bind] at h
  | ok parts =>
      refine ⟨parts, rfl, ?_⟩
      rw [resolve_eq hp] at h
      by_cases hhdfs : parts.scheme = "hdfs"
      · rw [if_pos hhdfs] at h
        by_cases hauthority : parts.authority = ""
        · rw [if_pos hauthority] at h
          cases filesystem with
          | none => cases h
          | some default =>
              cases hd : default.parts with
              | error problem =>
                  simp [qualifyWith, FileSystem.host, hd, Except.map, Except.mapError, bind,
                    Except.bind] at h
              | ok found =>
                  rw [qualifyWith_some hd] at h
                  split at h
                  · next hboth =>
                    obtain rfl := Except.ok.inj h
                    exact .qualified default found hhdfs hauthority rfl hd hboth.1 hboth.2
                  · cases h
        · rw [if_neg hauthority] at h
          obtain rfl := Except.ok.inj h
          exact .own hhdfs hauthority
      · rw [if_neg hhdfs] at h
        obtain rfl := Except.ok.inj h
        exact .plain hhdfs

theorem Resolved.eq_joined {filesystem : Option FileSystem} {joined location : String}
    {parts : Uri} (h : Resolved filesystem joined parts location) (hplain : parts.scheme ≠ "hdfs") :
    location = joined := by
  cases h with
  | plain => rfl
  | own hhdfs => exact absurd hhdfs hplain
  | qualified _ _ hhdfs => exact absurd hhdfs hplain

-- The scheme and the authority that a location is read with.
def LiesOn (location scheme authority : String) : Prop :=
  ∃ parts, parse location = .ok parts ∧ parts.scheme = scheme ∧ parts.authority = authority

theorem liesOn_qualify {scheme authority path : String} (hscheme : IsLowerScheme scheme.toList)
    (hauthority : IsAuthority authority.toList) (hpath : IsPath path.toList) :
    LiesOn ((FileSystem.ofParts scheme authority).qualify path) scheme authority :=
  ⟨_, FileSystem.parse_qualify hscheme hauthority hpath, rfl, rfl⟩

theorem isLowerScheme_hdfs : IsLowerScheme "hdfs".toList := ⟨by decide, by decide⟩

end CatalogSync.Location
