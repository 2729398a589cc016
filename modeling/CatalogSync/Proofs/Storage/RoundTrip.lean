import CatalogSync.Proofs.Storage.Location

namespace CatalogSync

open CatalogSync.Text CatalogSync.Uri

namespace FileSystem

theorem head?_absolute (path : String) : (absolute path).toList.head? = some '/' := by
  rw [absolute_toList]
  split
  · next h => exact h
  · rfl

theorem absolute_absolute (path : String) : absolute (absolute path) = absolute path := by
  rw [absolute, if_pos (head?_absolute path)]

theorem qualify_absolute (filesystem : FileSystem) (path : String) :
    filesystem.qualify (absolute path) = filesystem.qualify path := by
  rw [qualify_eq, qualify_eq, absolute_absolute]

-- A file system is read as the scheme and the authority of the location that it was made from. A
-- path on it is read as the same two and itself, with a slash in front.
theorem parse_qualify_of_ofUri (text : String) (filesystem : FileSystem)
    (h : ofUri text = .ok filesystem) :
    ∃ origin, parse (trim text) = .ok origin ∧
      parse filesystem.uri = .ok ⟨origin.scheme, origin.authority, "", "", ""⟩ ∧
      ∀ path : String, IsPath path.toList → parse (filesystem.qualify path) =
        .ok ⟨origin.scheme, origin.authority, absolute path, "", ""⟩ := by
  obtain ⟨origin, horigin, hne, -, rfl⟩ := ofUri_eq_ok_iff.mp h
  have hread := isRead_of_parse horigin
  have hscheme := hread.scheme.resolve_left hne
  exact ⟨origin, horigin, parts_ofParts hscheme hread.authority,
    fun path hpath => parse_qualify hscheme hread.authority hpath⟩

-- A local file system has no authority, and slashes in front of a path make none.
theorem parse_qualify_of_ofUri_local :
    ofUri " FI\tLE:///tmp?x" = .ok ⟨"file://"⟩ ∧ parse "file://" = .ok ⟨"file", "", "", "", ""⟩ ∧
      parse "file:////host/[day] @:1" = .ok ⟨"file", "", "//host/[day] @:1", "", ""⟩ ∧
      parse "file:///day=1" = .ok ⟨"file", "", "/day=1", "", ""⟩ := by
  have horigin : parse (trim " FI\tLE:///tmp?x") = .ok ⟨"file", "", "/tmp", "x", ""⟩ :=
    Traversal.eq_ok_of_toOption (by decide +kernel)
  have hmade : ofUri " FI\tLE:///tmp?x" = .ok ⟨"file://"⟩ :=
    Traversal.eq_ok_of_toOption (by decide +kernel)
  obtain ⟨origin, hread, huri, hpaths⟩ := parse_qualify_of_ofUri _ _ hmade
  obtain rfl := Except.ok.inj (horigin.symm.trans hread)
  exact ⟨hmade, huri, hpaths "//host/[day] @:1" ⟨by decide, by simp [endsPath]⟩,
    hpaths "day=1" ⟨by decide, by simp [endsPath]⟩⟩

end FileSystem

namespace Location

-- A location that a namenode has been put in front of is the location of itself, whatever the
-- default file system.
theorem resolve_qualify {authority path : String} (hauthority : IsAuthority authority.toList)
    (hne : authority ≠ "") (hpath : IsPath path.toList) (other : Option FileSystem) :
    resolve ((FileSystem.ofParts "hdfs" authority).qualify path) "" other =
      .ok ((FileSystem.ofParts "hdfs" authority).qualify path) := by
  have hparse := FileSystem.parse_qualify isLowerScheme_hdfs hauthority hpath
  rw [← join_nothing (FileSystem.qualify _ path)] at hparse
  rw [resolve_eq hparse, if_pos rfl, if_neg hne, FileSystem.qualify_absolute]

-- A location is its own location: nothing more is put in front of it or left out of it.
theorem resolve_stable (base partition location : String) (filesystem : Option FileSystem)
    (hfilesystem : ∀ default ∈ filesystem, ∃ text, FileSystem.ofUri text = .ok default)
    (h : resolve base partition filesystem = .ok location) (other : Option FileSystem) :
    resolve location "" other = .ok location := by
  obtain ⟨parts, hparts, hresolved⟩ := resolved_of_resolve h
  have hread := isRead_of_parse hparts
  cases hresolved with
  | plain hplain =>
      rw [← join_nothing (join base partition)] at hparts
      rw [resolve_eq hparts, if_neg hplain, join_nothing]
  | own hhdfs hown =>
      rw [hhdfs]
      exact resolve_qualify hread.authority hown hread.path other
  | qualified default found _ _ hdefault hfound hhost hdistributed =>
      obtain ⟨text, htext⟩ := hfilesystem default hdefault
      obtain ⟨authority, hauthority, rfl, hparts⟩ := FileSystem.exists_authority_of_ofUri htext
        (by rw [FileSystem.scheme_of_parts hfound, hdistributed])
      obtain rfl := Except.ok.inj (hparts.symm.trans hfound)
      exact resolve_qualify hauthority (fun hempty => hhost (host_of_authority_eq_empty hempty))
        hread.path other

-- A location on the default file system, with a question mark that is left out of it.
theorem resolve_stable_default :
    let default : FileSystem := ⟨"hdfs://etl@NN:8020"⟩
    FileSystem.ofUri " hdfs://etl@NN:8020/user " = .ok default ∧
      resolve "HDFS:/sales//" "//day=1?x/" (some default) =
        .ok "hdfs://etl@NN:8020/sales/day=1" ∧
      resolve "hdfs://etl@NN:8020/sales/day=1" "" none = .ok "hdfs://etl@NN:8020/sales/day=1" := by
  intro default
  have hdefault : FileSystem.ofUri " hdfs://etl@NN:8020/user " = .ok default :=
    Traversal.eq_ok_of_toOption (by decide +kernel)
  have hlocation : resolve "HDFS:/sales//" "//day=1?x/" (some default) =
      .ok "hdfs://etl@NN:8020/sales/day=1" := Traversal.eq_ok_of_toOption (by decide +kernel)
  exact ⟨hdefault, hlocation,
    resolve_stable _ _ _ (some default) (by simpa using ⟨_, hdefault⟩) hlocation none⟩

end Location

end CatalogSync
