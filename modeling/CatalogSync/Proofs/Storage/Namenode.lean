import CatalogSync.Proofs.Storage.Location

namespace CatalogSync.Location

open CatalogSync.Text CatalogSync.Uri

section Root

-- The path of a partition in the directory that the path of its table starts from.
def under (table partition : String) : String :=
  if table = "" then trimSlashes partition else join table partition

theorem isUnbroken_join {base partition : String} (hbase : IsUnbroken base.toList)
    (hpartition : IsUnbroken partition.toList) : IsUnbroken (join base partition).toList := by
  have hrelative : IsUnbroken (trimSlashes partition).toList :=
    hpartition.mono fun c hc => mem_of_mem_trimSlashes hc
  have htrimmed : IsUnbroken (trimEnd base).toList := by
    rw [trimEnd_toList]
    exact hbase.mono (List.rdropWhile_prefix _ _).subset
  rw [join]
  split
  · exact hbase
  · split
    · rw [String.toList_append]
      exact isUnbroken_append.mpr ⟨hbase, hrelative⟩
    · rw [String.toList_append, String.toList_append]
      exact isUnbroken_append.mpr ⟨isUnbroken_append.mpr ⟨htrimmed, by decide⟩, hrelative⟩

theorem isUnbroken_under {table partition : String} (htable : IsUnbroken table.toList)
    (hpartition : IsUnbroken partition.toList) : IsUnbroken (under table partition).toList := by
  rw [under]
  split
  · exact hpartition.mono fun c hc => mem_of_mem_trimSlashes hc
  · exact isUnbroken_join htable hpartition

theorem isBareScheme_root {root : String} (hroot : root.toList.getLast? ≠ some '/') :
    isBareScheme (root ++ "/") = false := by
  rw [Bool.eq_false_iff, isBareScheme, ne_eq, List.isSuffixOf_iff_suffix]
  rintro ⟨front, hfront⟩
  rw [String.toList_append] at hfront
  have hend : (front ++ [':', '/']) ++ ['/'] = root.toList ++ ['/'] := by simpa using hfront
  exact hroot (by rw [← (List.append_left_inj _).mp hend]; simp)

theorem trimEnd_root {root : String} (hroot : root.toList.getLast? ≠ some '/') :
    trimEnd (root ++ "/") = root :=
  (trimEnd_append_slashes root 1).trans (trimEnd_eq_self hroot)

-- The root of a file system keeps its slash, whatever the path of the table under it.
theorem join_root {root table : String} (hroot : root.toList.getLast? ≠ some '/')
    (htable : table.toList.head? ≠ some '/') (partition : String) :
    join (root ++ "/" ++ table) partition = root ++ "/" ++ under table partition := by
  rw [under]
  split
  · next hempty =>
    rw [hempty, String.append_empty]
    by_cases hp : trimSlashes partition = ""
    · rw [join_of_empty hp, hp, String.append_empty]
    · rw [join_of_not_bare hp (isBareScheme_root hroot), trimEnd_root hroot]
  · next hne => exact join_append (root ++ "/") hne htable partition

theorem outline_path {scheme authority path : String} (hscheme : IsLowerScheme scheme.toList)
    (hauthority : IsAuthority authority.toList) (hpath : IsUnbroken path.toList) :
    outline (significant ((FileSystem.ofParts scheme authority).uri ++ "/" ++ path).toList) =
      ⟨scheme.toList, authority.toList, '/' :: path.toList⟩ := by
  have hslash : ("/" ++ path).toList = '/' :: path.toList := by
    rw [String.toList_append]
    rfl
  have hunbroken : IsUnbroken ("/" ++ path).toList := by
    rw [hslash]
    exact List.forall_mem_cons.mpr ⟨by decide, hpath⟩
  have htail : IsTail ("/" ++ path).toList := by
    rw [hslash]
    exact isTail_cons _
  rw [String.append_assoc, FileSystem.ofParts,
    outline_significant_written hscheme hauthority hunbroken htail, hslash]

-- Under a base path without a namenode the two slashes of the missing authority may be cut off
-- with those at the end of the base path. The text is read the same way without them.
theorem outline_join_implicit {table partition : String} (hfirst : table.toList.head? ≠ some '/')
    (htable : IsUnbroken table.toList) (hpartition : IsUnbroken partition.toList) :
    outline (significant (join ("hdfs:///" ++ table) partition).toList) =
      ⟨"hdfs".toList, [], '/' :: (under table partition).toList⟩ := by
  have hunder := isUnbroken_under htable hpartition
  have hempty : IsAuthority "".toList := isAuthority_nil
  have hroot := outline_path isLowerScheme_hdfs hempty hunder
  by_cases hempty : table = ""
  · by_cases hp : trimSlashes partition = ""
    · rw [under, if_pos hempty, hp] at hroot ⊢
      rw [hempty, join_of_empty hp]
      exact hroot
    · have htext : (join ("hdfs:///" ++ table) partition).toList =
          "hdfs".toList ++ ':' :: '/' :: (under table partition).toList := by
        rw [under, if_pos hempty, hempty, join_toList hp (by decide +kernel)]
        rfl
      have hslashes : ¬['/', '/'] <+: '/' :: (under table partition).toList := by
        rw [under, if_pos hempty]
        rintro ⟨rest, hrest⟩
        exact head?_trimSlashes partition (by rw [← List.tail_eq_of_cons_eq hrest]; rfl)
      rw [htext, significant_written isLowerScheme_hdfs
        (List.forall_mem_cons.mpr ⟨by decide, hunder⟩)]
      simp only [outline, cutScheme_written isLowerScheme_hdfs, cutAuthority_of_ne hslashes]
  · rw [join_append _ hempty hfirst]
    rw [under, if_neg hempty] at hroot ⊢
    exact hroot

end Root

-- A namenode that a base path leaves out, and the default file system has, gives the same text as
-- one that the base path names. It does not matter then which file system is the default one.
theorem resolve_implicit_eq_explicit (default : FileSystem) (text host table partition : String)
    (other : Option FileSystem) (hdefault : FileSystem.ofUri text = .ok default)
    (hscheme : default.scheme = .ok "hdfs") (hhost : default.host = .ok host) (hne : host ≠ "")
    (hfirst : table.toList.head? ≠ some '/') (htable : IsUnbroken table.toList)
    (hpartition : IsUnbroken partition.toList) :
    ∃ location, resolve ("hdfs:///" ++ table) partition (some default) = .ok location ∧
      resolve (default.uri ++ "/" ++ table) partition other = .ok location := by
  obtain ⟨authority, ha, rfl, hfound⟩ := FileSystem.exists_authority_of_ofUri hdefault hscheme
  rw [FileSystem.host_of_parts hfound] at hhost
  obtain rfl := Except.ok.inj hhost
  have hauthority : authority ≠ "" := fun hempty => hne (host_of_authority_eq_empty hempty)
  have hroot : (FileSystem.ofParts "hdfs" authority).uri.toList.getLast? ≠ some '/' := by
    intro hlast
    rw [FileSystem.ofParts, String.toList_append,
      List.getLast?_append_of_ne_nil _ (by simpa using hauthority)] at hlast
    exact absurd (ha.plain _ (List.mem_of_getLast? hlast)) (by decide)
  let path := '/' :: (under table partition).toList
  let location := (FileSystem.ofParts "hdfs" authority).qualify
    (.ofList (Outline.mk "hdfs".toList [] path).path)
  have himplicit : parse (join ("hdfs:///" ++ table) partition) =
      .ok (Outline.mk "hdfs".toList [] path).uri := by
    rw [parse_eq_ok_iff, outline_join_implicit hfirst htable hpartition]
    exact ⟨isAuthority_nil, rfl⟩
  have hexplicit : parse (join ((FileSystem.ofParts "hdfs" authority).uri ++ "/" ++ table)
      partition) = .ok (Outline.mk "hdfs".toList authority.toList path).uri := by
    rw [parse_eq_ok_iff, join_root hroot hfirst,
      outline_path isLowerScheme_hdfs ha (isUnbroken_under htable hpartition)]
    exact ⟨ha, rfl⟩
  refine ⟨location, ?_, ?_⟩
  · rw [resolve_eq himplicit]
    simp only [Outline.uri_scheme, Outline.uri_authority, Outline.uri_path, String.ofList_toList,
      String.ofList_nil, if_true]
    rw [qualifyWith_some hfound, if_pos ⟨hne, rfl⟩]
  · rw [resolve_eq hexplicit]
    simp only [Outline.uri_scheme, Outline.uri_authority, Outline.uri_path, String.ofList_toList,
      if_true]
    rw [if_neg hauthority]
    rfl

-- The root directory of a namenode with a user and a port, and a partition path with a question
-- mark in it.
theorem resolve_implicit_eq_explicit_root :
    let default : FileSystem := ⟨"hdfs://etl@NN:8020"⟩
    FileSystem.ofUri " hdfs://etl@NN:8020/user " = .ok default ∧
      ∃ location, resolve "hdfs:///" "day=1?x" (some default) = .ok location ∧
        resolve "hdfs://etl@NN:8020/" "day=1?x" none = .ok location := by
  intro default
  have hdefault : FileSystem.ofUri " hdfs://etl@NN:8020/user " = .ok default :=
    Traversal.eq_ok_of_toOption (by decide +kernel)
  have hscheme : default.scheme = .ok "hdfs" := Traversal.eq_ok_of_toOption (by decide +kernel)
  have hhost : default.host = .ok "nn" := Traversal.eq_ok_of_toOption (by decide +kernel)
  exact ⟨hdefault, resolve_implicit_eq_explicit default _ "nn" "" "day=1?x" none hdefault hscheme
    hhost (by decide) (by decide) (by decide) (by decide)⟩

-- Every location in a distributed file system has an authority. There is a host in it, unless the
-- base path has an authority of its own without one. A base path without an authority is refused
-- if the default file system has no host to give.
theorem host_of_resolve (base partition : String) (filesystem : Option FileSystem)
    (hfilesystem : ∀ default ∈ filesystem, ∃ text, FileSystem.ofUri text = .ok default) :
    (∀ location, resolve base partition filesystem = .ok location →
      ∃ joined found, parse (join base partition) = .ok joined ∧ parse location = .ok found ∧
        (found.scheme = "hdfs" → found.authority ≠ "" ∧
          (found.host = "" ↔ joined.authority ≠ "" ∧ joined.host = ""))) ∧
    ∀ joined, parse (join base partition) = .ok joined → joined.scheme = "hdfs" →
      joined.authority = "" →
      (∀ default ∈ filesystem, default.host = .ok "" ∨ default.scheme ≠ .ok "hdfs") →
      resolve base partition filesystem =
        .error (.config (.noNamenode (join base partition))) := by
  refine ⟨fun location hlocation => ?_, fun joined hjoined hhdfs hnone hunusable => ?_⟩
  · obtain ⟨joined, hjoined, hresolved⟩ := resolved_of_resolve hlocation
    have hread := isRead_of_parse hjoined
    cases hresolved with
    | plain hplain => exact ⟨joined, joined, hjoined, hjoined, fun hhdfs => absurd hhdfs hplain⟩
    | own hhdfs hown =>
        have hscheme : IsLowerScheme joined.scheme.toList := hhdfs ▸ isLowerScheme_hdfs
        let found : Uri :=
          ⟨joined.scheme, joined.authority, FileSystem.absolute joined.path, "", ""⟩
        have hhost : found.host = joined.host := host_congr rfl
        refine ⟨joined, found, hjoined,
          FileSystem.parse_qualify hscheme hread.authority hread.path, fun _ => ⟨hown, ?_⟩⟩
        rw [hhost]
        exact ⟨fun hempty => ⟨hown, hempty⟩, fun h => h.2⟩
    | qualified default origin hhdfs hnone hdefault horigin hhost hdistributed =>
        obtain ⟨text, htext⟩ := hfilesystem default hdefault
        obtain ⟨scheme, authority, hs, ha, rfl⟩ := FileSystem.exists_ofParts_of_ofUri htext
        obtain rfl := Except.ok.inj ((FileSystem.parts_ofParts hs ha).symm.trans horigin)
        refine ⟨joined, _, hjoined, FileSystem.parse_qualify hs ha hread.path, fun _ => ⟨?_, ?_⟩⟩
        · exact fun hempty => hhost (host_of_authority_eq_empty hempty)
        · exact iff_of_false hhost fun h => h.1 hnone
  · rw [resolve_eq hjoined, if_pos hhdfs, if_pos hnone]
    exact (qualifyWith_eq_error_iff (FileSystem.exists_parts_of_ofUri hfilesystem) _ _).mpr
      hunusable

-- The default file system gives its host to a base path without an authority.
theorem host_of_resolve_default :
    let default : FileSystem := ⟨"hdfs://etl@nn"⟩
    FileSystem.ofUri "hdfs://etl@nn/" = .ok default ∧
      ∃ location found, resolve "hdfs:/sales" "day=1" (some default) = .ok location ∧
        parse location = .ok found ∧ found.scheme = "hdfs" ∧ found.host ≠ "" := by
  intro default
  have hdefault : FileSystem.ofUri "hdfs://etl@nn/" = .ok default :=
    Traversal.eq_ok_of_toOption (by decide +kernel)
  have hjoined : parse (join "hdfs:/sales" "day=1") = .ok ⟨"hdfs", "", "/sales/day=1", "", ""⟩ :=
    Traversal.eq_ok_of_toOption (by decide +kernel)
  have hlocation : resolve "hdfs:/sales" "day=1" (some default) =
      .ok "hdfs://etl@nn/sales/day=1" := Traversal.eq_ok_of_toOption (by decide +kernel)
  have hfound : parse "hdfs://etl@nn/sales/day=1" =
      .ok ⟨"hdfs", "etl@nn", "/sales/day=1", "", ""⟩ :=
    Traversal.eq_ok_of_toOption (by decide +kernel)
  obtain ⟨joined, found, hj, hf, hhost⟩ := (host_of_resolve "hdfs:/sales" "day=1" (some default)
    (by simpa using ⟨_, hdefault⟩)).1 _ hlocation
  obtain rfl := Except.ok.inj (hjoined.symm.trans hj)
  obtain rfl := Except.ok.inj (hfound.symm.trans hf)
  exact ⟨hdefault, _, _, hlocation, hfound, rfl, fun hempty => ((hhost rfl).2.mp hempty).1 rfl⟩

-- An authority that is only a port is kept as if it named a host.
theorem resolve_without_host :
    ¬∀ (base partition location : String) (filesystem : Option FileSystem) (found : Uri),
      (∀ default ∈ filesystem, ∃ text, FileSystem.ofUri text = .ok default) →
      resolve base partition filesystem = .ok location → parse location = .ok found →
      found.scheme = "hdfs" → found.host ≠ "" := by
  intro h
  have hlocation : resolve "hdfs://:8020/sales" "day=1" none = .ok "hdfs://:8020/sales/day=1" :=
    Traversal.eq_ok_of_toOption (by decide +kernel)
  have hfound : parse "hdfs://:8020/sales/day=1" =
      .ok ⟨"hdfs", ":8020", "/sales/day=1", "", ""⟩ :=
    Traversal.eq_ok_of_toOption (by decide +kernel)
  exact h _ _ _ none _ (by simp) hlocation hfound rfl (by decide +kernel)

end CatalogSync.Location
