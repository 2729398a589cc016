import CatalogSync.Proofs.Storage.Location

namespace CatalogSync

open CatalogSync.Text CatalogSync.Uri

-- Characters that can make an authority unreadable.
def Uri.isSuspect (c : Char) : Bool := c == '[' || c == ']' || foldsIntoDelimiter c

-- A result that is missing only for a reason of its own, or because of a text that cannot be read,
-- and then always.
structure FailsBy {α : Type} (result : Except Failure α) (text : String)
    (refusal : ConfigProblem) : Prop where
  unreadable_iff : ∀ problem, result = .error (.uri problem) ↔ parse text = .error problem
  covers : ∀ failure, result = .error failure →
    failure = .config refusal ∨ ∃ problem, failure = .uri problem

namespace FailsBy

variable {α β : Type} {result : Except Failure α} {text : String} {refusal : ConfigProblem}

-- It is enough to look at what comes of the text where it can be read.
theorem of_parse
    (hunreadable : ∀ problem, parse text = .error problem → result = .error (.uri problem))
    (hread : ∀ parts, parse text = .ok parts → ∀ failure, result = .error failure →
      failure = .config refusal) : FailsBy result text refusal := by
  cases hparse : parse text with
  | error found =>
      have hresult := hunreadable found hparse
      constructor
      · intro problem
        rw [hresult, hparse, Except.error.injEq, Except.error.injEq]
        exact ⟨fun h => (by cases h; rfl), fun h => congrArg Failure.uri h⟩
      · intro failure hfailure
        exact .inr ⟨found, Except.error.inj (hfailure.symm.trans hresult)⟩
  | ok parts =>
      constructor
      · intro problem
        rw [hparse]
        exact iff_of_false (fun hfailure => nomatch hread parts hparse _ hfailure) nofun
      · exact fun failure hfailure => .inl (hread parts hparse failure hfailure)

theorem map (h : FailsBy result text refusal) (f : α → β) :
    FailsBy (result.map f) text refusal := by
  constructor
  · intro problem
    rw [Traversal.map_eq_error_iff]
    exact h.unreadable_iff problem
  · intro failure hfailure
    exact h.covers failure (Traversal.map_eq_error_iff.mp hfailure)

end FailsBy

theorem Uri.checkAuthority_eq_ok {authority : List Char}
    (h : ∀ c ∈ authority, isSuspect c = false) : checkAuthority authority = .ok () := by
  have hplain : ∀ c ∈ authority, c ≠ '[' ∧ c ≠ ']' ∧ foldsIntoDelimiter c = false := by
    intro c hc
    simpa [isSuspect, and_assoc] using h c hc
  have hopen : authority.contains '[' = false := by
    simpa using fun hc => (hplain _ hc).1 rfl
  have hclose : authority.contains ']' = false := by
    simpa using fun hc => (hplain _ hc).2.1 rfl
  have hfolds : authority.any foldsIntoDelimiter = false :=
    List.any_eq_false.mpr fun c hc => by simp [(hplain c hc).2.2]
  rw [checkAuthority_eq_ok_iff, checkBrackets, checkFolding, hopen, hclose, hfolds]
  exact ⟨rfl, rfl⟩

-- Brackets and characters that fold into delimiters are all that makes texts unreadable.
theorem Uri.exists_parse_of_plain {text : String} (h : ∀ c ∈ text.toList, isSuspect c = false) :
    ∃ parts, parse text = .ok parts := by
  have hchecks : checkAuthority (outline (significant text.toList)).authority = .ok () :=
    checkAuthority_eq_ok fun c hc =>
      h c (significant_subset _ (outline_authority_subset _ hc))
  exact ⟨_, by rw [parse_eq, hchecks]; rfl⟩

-- A partition path neither makes a base path unreadable nor readable.
theorem Location.parse_join_eq_error_iff {base partition : String}
    (hbase : IsUnbroken base.toList) (hpartition : IsUnbroken partition.toList)
    (hbare : isBareScheme base = false) (problem : UriProblem) :
    parse (join base partition) = .error problem ↔ parse base = .error problem := by
  obtain ⟨n, hn⟩ := exists_outline_join hbase hbare
  have hself := hn "" (List.forall_mem_nil _)
  rw [join_nothing] at hself
  rw [parse_eq_error_iff, parse_eq_error_iff, hn partition hpartition, hself,
    Outline.extend_authority, Outline.extend_authority]

theorem FileSystem.failsBy_ofUri (text : String) :
    FailsBy (ofUri text) (trim text) (.filesystemForm text) := by
  apply FailsBy.of_parse
  · intro problem hproblem
    rw [ofUri, hproblem]
  · intro origin horigin failure hfailure
    simp only [ofUri, horigin] at hfailure
    split at hfailure
    · exact (Except.error.inj hfailure).symm
    · cases hfailure

theorem Location.qualifyWith_refused {filesystem : Option FileSystem}
    (hfilesystem : ∀ default ∈ filesystem, ∃ found, default.parts = .ok found)
    {joined path : String} {failure : Failure}
    (h : qualifyWith filesystem joined path = .error failure) :
    failure = .config (.noNamenode joined) := by
  cases filesystem with
  | none => exact (Except.error.inj h).symm
  | some default =>
      obtain ⟨found, hfound⟩ := hfilesystem default rfl
      rw [qualifyWith_some hfound] at h
      split at h
      · cases h
      · exact (Except.error.inj h).symm

theorem Location.failsBy_resolve (base partition : String) {filesystem : Option FileSystem}
    (hfilesystem : ∀ default ∈ filesystem, ∃ text, FileSystem.ofUri text = .ok default) :
    FailsBy (resolve base partition filesystem) (join base partition)
      (.noNamenode (join base partition)) := by
  apply FailsBy.of_parse
  · intro problem hproblem
    rw [resolve, hproblem]
    rfl
  · intro parts hparts failure hfailure
    rw [resolve_eq hparts] at hfailure
    split at hfailure
    · split at hfailure
      · exact qualifyWith_refused (FileSystem.exists_parts_of_ofUri hfilesystem) hfailure
      · cases hfailure
    · cases hfailure

end CatalogSync
