import CatalogSync.Proofs.Storage.Location

namespace CatalogSync.Location

open CatalogSync.Text CatalogSync.Uri

-- Putting a partition path behind a base path gives a text that is read with the scheme and the
-- authority of the base path.
theorem exists_parse_join {base partition : String} {origin : Uri}
    (hbase : IsUnbroken base.toList) (hpartition : IsUnbroken partition.toList)
    (hbare : isBareScheme base = false) (h : parse base = .ok origin) :
    ∃ parts, parse (join base partition) = .ok parts ∧ parts.scheme = origin.scheme ∧
      parts.authority = origin.authority := by
  obtain ⟨n, hn⟩ := exists_parse_join_iff hbase hbare
  have hself := hn "" (List.forall_mem_nil _) origin
  rw [join_nothing] at hself
  obtain ⟨hauthority, horigin⟩ := hself.mp h
  refine ⟨_, (hn partition hpartition _).mpr ⟨hauthority, rfl⟩, ?_, ?_⟩
  · simp [horigin]
  · simp [horigin]

-- Whatever its text, a partition path never moves a location to another file system. Under a base
-- path with a namenode the location is on that namenode. Under one without it is on the default
-- file system, and is refused if that is missing, is no distributed one or has no host.
theorem resolve_keeps_fileSystem (base partition : String) (filesystem : Option FileSystem)
    (origin : Uri) (hbase : IsUnbroken base.toList) (hpartition : IsUnbroken partition.toList)
    (hbare : isBareScheme base = false) (horigin : parse base = .ok origin)
    (hfilesystem : ∀ default ∈ filesystem, ∃ text, FileSystem.ofUri text = .ok default) :
    (origin.scheme ≠ "hdfs" →
      resolve base partition filesystem = .ok (join base partition) ∧
        LiesOn (join base partition) origin.scheme origin.authority) ∧
    (origin.scheme = "hdfs" → origin.authority ≠ "" →
      ∃ location, (∀ other, resolve base partition other = .ok location) ∧
        LiesOn location "hdfs" origin.authority) ∧
    (origin.scheme = "hdfs" → origin.authority = "" →
      (resolve base partition filesystem =
          .error (.config (.noNamenode (join base partition))) ↔
        ∀ default ∈ filesystem, default.host = .ok "" ∨ default.scheme ≠ .ok "hdfs") ∧
      ∀ default ∈ filesystem, default.host ≠ .ok "" → default.scheme = .ok "hdfs" →
        ∃ location found, resolve base partition filesystem = .ok location ∧
          default.parts = .ok found ∧ LiesOn location "hdfs" found.authority) := by
  obtain ⟨parts, hparts, hscheme, hauthority⟩ :=
    exists_parse_join hbase hpartition hbare horigin
  have hread := isRead_of_parse hparts
  rw [← hscheme, ← hauthority]
  refine ⟨fun hplain => ?_, fun hhdfs hown => ?_, fun hhdfs hnone => ?_⟩
  · refine ⟨?_, parts, hparts, rfl, rfl⟩
    rw [resolve_eq hparts, if_neg hplain]
  · refine ⟨_, fun other => ?_, liesOn_qualify isLowerScheme_hdfs hread.authority hread.path⟩
    rw [resolve_eq hparts, if_pos hhdfs, if_neg hown, hhdfs]
  · have hresolve : resolve base partition filesystem =
        qualifyWith filesystem (join base partition) parts.path := by
      rw [resolve_eq hparts, if_pos hhdfs, if_pos hnone]
    rw [hresolve]
    refine ⟨qualifyWith_eq_error_iff (FileSystem.exists_parts_of_ofUri hfilesystem) _ _, ?_⟩
    intro default hdefault hhost hdistributed
    obtain ⟨text, htext⟩ := hfilesystem default hdefault
    obtain ⟨authority, hserver, rfl, hfound⟩ :=
      FileSystem.exists_authority_of_ofUri htext hdistributed
    rw [FileSystem.host_of_parts hfound] at hhost
    have hne := fun hempty => hhost (congrArg Except.ok hempty)
    rw [Option.mem_def.mp hdefault, qualifyWith_some hfound, if_pos ⟨hne, rfl⟩]
    exact ⟨_, _, rfl, hfound, liesOn_qualify isLowerScheme_hdfs hserver hread.path⟩

-- A base path without a namenode and a partition path full of delimiters.
theorem resolve_keeps_fileSystem_delimiters :
    let default : FileSystem := ⟨"hdfs://nn:8020"⟩
    FileSystem.ofUri "hdfs://nn:8020/user" = .ok default ∧
      ∃ location, resolve "hdfs:///sales//" "//user@other:1/[day]?#/" (some default) =
          .ok location ∧ LiesOn location "hdfs" "nn:8020" := by
  intro default
  have hdefault : FileSystem.ofUri "hdfs://nn:8020/user" = .ok default :=
    Traversal.eq_ok_of_toOption (by decide +kernel)
  have horigin : parse "hdfs:///sales//" = .ok ⟨"hdfs", "", "/sales//", "", ""⟩ :=
    Traversal.eq_ok_of_toOption (by decide +kernel)
  have hparts : default.parts = .ok ⟨"hdfs", "nn:8020", "", "", ""⟩ :=
    Traversal.eq_ok_of_toOption (by decide +kernel)
  have hhost : default.host = .ok "nn" := Traversal.eq_ok_of_toOption (by decide +kernel)
  have hscheme : default.scheme = .ok "hdfs" := Traversal.eq_ok_of_toOption (by decide +kernel)
  have hqualified := (resolve_keeps_fileSystem "hdfs:///sales//" "//user@other:1/[day]?#/"
    (some default) _ (by decide +kernel) (by decide +kernel) (by decide +kernel) horigin
    (by simpa using ⟨_, hdefault⟩)).2.2 rfl rfl
  obtain ⟨location, found, hlocation, hfound, hlies⟩ :=
    hqualified.2 default rfl (by simp [hhost]) hscheme
  obtain rfl := Except.ok.inj (hparts.symm.trans hfound)
  exact ⟨hdefault, location, hlocation, hlies⟩

end CatalogSync.Location
