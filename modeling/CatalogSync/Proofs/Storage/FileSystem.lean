import CatalogSync.Proofs.Uri.Outline
import CatalogSync.Storage.FileSystem
import CatalogSync.Storage.Scheme

namespace CatalogSync

open CatalogSync.Text CatalogSync.Uri

theorem Text.lower_eq_self {s : String}
    (h : ∀ c ∈ s.toList, c.toNat < 0x80 ∧ c.toLower = c) : lower s = s := by
  have hafter : ∀ (before cs : List Char), (∀ c ∈ cs, c.toNat < 0x80 ∧ c.toLower = c) →
      lowerAfter before cs = cs := by
    intro before cs hcs
    induction cs generalizing before with
    | nil => rfl
    | cons c cs ih =>
        obtain ⟨⟨hascii, hlower⟩, hrest⟩ := List.forall_mem_cons.mp hcs
        have hsigma : c ≠ '\u03a3' := by
          rintro rfl
          exact absurd hascii (by decide)
        rw [lowerAfter, if_neg hsigma, lowerChar, if_pos hascii, hlower, ih _ hrest,
          List.singleton_append]
  rw [lower, hafter [] s.toList h, String.ofList_toList]

-- A scheme is read in lower case, so that its case no longer matters.
theorem needsNamenode_iff {uri : Uri} (h : uri.IsRead) :
    needsNamenode uri.scheme = true ↔ uri.scheme = "hdfs" := by
  have hlower : lower uri.scheme = uri.scheme := by
    rcases h.scheme with hempty | hscheme
    · rw [hempty]
      rfl
    · apply lower_eq_self
      intro c hc
      refine ⟨toNat_lt_of_isSchemeChar (isSchemeChar_of_mem hscheme.isScheme hc), ?_⟩
      have hmap : uri.scheme.toList.map Char.toLower = uri.scheme.toList.map id := by
        rw [hscheme.lower, List.map_id]
      exact List.map_inj_left.mp hmap c hc
  rw [needsNamenode, hlower, beq_iff_eq]
  rfl

namespace FileSystem

-- A path with a slash in front.
def absolute (path : String) : String :=
  if path.toList.head? = some '/' then path else "/" ++ path

theorem qualify_eq (filesystem : FileSystem) (path : String) :
    filesystem.qualify path = filesystem.uri ++ absolute path := by
  rw [qualify, absolute]
  split
  · rfl
  · rw [String.append_assoc]

theorem absolute_toList (path : String) :
    (absolute path).toList =
      if path.toList.head? = some '/' then path.toList else '/' :: path.toList := by
  rw [absolute]
  split
  · rfl
  · rw [String.toList_append]
    rfl

theorem isTail_absolute (path : String) : IsTail (absolute path).toList := by
  rw [absolute_toList]
  split
  · next h =>
    intro c hc
    exact Option.some.inj ((Option.mem_def.mp hc).symm.trans h)
  · exact isTail_cons _

theorem isPath_absolute {path : String} (h : IsPath path.toList) :
    IsPath (absolute path).toList := by
  rw [absolute_toList]
  split
  · exact h
  · exact ⟨List.forall_mem_cons.mpr ⟨by decide, h.unbroken⟩,
      List.forall_mem_cons.mpr ⟨by decide, h.plain⟩⟩

theorem scheme_of_parts {filesystem : FileSystem} {parts : Uri}
    (h : filesystem.parts = .ok parts) : filesystem.scheme = .ok parts.scheme := by
  rw [FileSystem.scheme, h]
  rfl

theorem host_of_parts {filesystem : FileSystem} {parts : Uri}
    (h : filesystem.parts = .ok parts) : filesystem.host = .ok parts.host := by
  rw [FileSystem.host, h]
  rfl

section Parts

variable {scheme authority : String} (hscheme : IsLowerScheme scheme.toList)
  (hauthority : IsAuthority authority.toList)

include hscheme hauthority

-- A path on a file system is read as what it was put together from.
theorem parse_qualify {path : String} (hpath : IsPath path.toList) :
    parse ((ofParts scheme authority).qualify path) =
      .ok ⟨scheme, authority, absolute path, "", ""⟩ := by
  rw [qualify_eq]
  exact parse_written hscheme hauthority (isPath_absolute hpath) (isTail_absolute path)

theorem parts_ofParts : (ofParts scheme authority).parts = .ok ⟨scheme, authority, "", "", ""⟩ := by
  have hnil : IsPath "".toList := ⟨List.forall_mem_nil _, List.forall_mem_nil _⟩
  have hparse := parse_written hscheme hauthority hnil isTail_nil
  rwa [String.append_empty] at hparse

end Parts

theorem ofUri_eq_ok_iff {text : String} {filesystem : FileSystem} :
    ofUri text = .ok filesystem ↔ ∃ origin, parse (trim text) = .ok origin ∧ origin.scheme ≠ "" ∧
      hasAuthorityMark text.toList = true ∧
      filesystem = ofParts origin.scheme origin.authority := by
  rw [ofUri]
  cases parse (trim text) with
  | error problem => simp
  | ok origin =>
      by_cases hform : origin.scheme = "" ∨ hasAuthorityMark text.toList = false
      · simp only [if_pos hform]
        refine iff_of_false nofun ?_
        rintro ⟨_, ⟨⟩, hscheme, hmark, -⟩
        exact hform.elim hscheme (by simp [hmark])
      · simp only [if_neg hform]
        rw [not_or, Bool.not_eq_false] at hform
        constructor
        · exact fun h => ⟨origin, rfl, hform.1, hform.2, (Except.ok.inj h).symm⟩
        · rintro ⟨_, ⟨⟩, -, -, rfl⟩
          rfl

-- A file system that a location lies on can be read again, whatever the location was.
theorem exists_ofParts_of_ofUri {text : String} {filesystem : FileSystem}
    (h : ofUri text = .ok filesystem) :
    ∃ scheme authority, IsLowerScheme scheme.toList ∧ IsAuthority authority.toList ∧
      filesystem = ofParts scheme authority := by
  obtain ⟨origin, horigin, hscheme, -, heq⟩ := ofUri_eq_ok_iff.mp h
  have hread := isRead_of_parse horigin
  exact ⟨_, _, hread.scheme.resolve_left hscheme, hread.authority, heq⟩

theorem exists_authority_of_ofUri {text : String} {filesystem : FileSystem}
    (h : ofUri text = .ok filesystem) (hscheme : filesystem.scheme = .ok "hdfs") :
    ∃ authority, IsAuthority authority.toList ∧ filesystem = ofParts "hdfs" authority ∧
      filesystem.parts = .ok ⟨"hdfs", authority, "", "", ""⟩ := by
  obtain ⟨scheme, authority, hs, ha, rfl⟩ := exists_ofParts_of_ofUri h
  have hparts := parts_ofParts hs ha
  rw [scheme_of_parts hparts] at hscheme
  obtain rfl := Except.ok.inj hscheme
  exact ⟨authority, ha, rfl, hparts⟩

theorem exists_parts_of_ofUri {filesystem : Option FileSystem}
    (h : ∀ default ∈ filesystem, ∃ text, ofUri text = .ok default) :
    ∀ default ∈ filesystem, ∃ found, default.parts = .ok found := by
  intro default hdefault
  obtain ⟨text, htext⟩ := h default hdefault
  obtain ⟨scheme, authority, hscheme, hauthority, rfl⟩ := exists_ofParts_of_ofUri htext
  exact ⟨_, parts_ofParts hscheme hauthority⟩

end FileSystem

end CatalogSync
