import CatalogSync.Proofs.Text.Trim
import CatalogSync.Proofs.Uri.Outline
import CatalogSync.Storage.Location

namespace CatalogSync.Location

open CatalogSync.Text CatalogSync.Uri

theorem trimEnd_toList (s : String) :
    (trimEnd s).toList = s.toList.rdropWhile fun c => decide (c = '/') := by
  rw [trimEnd, String.toList_ofList]
  rfl

theorem getLast?_trimEnd (s : String) : (trimEnd s).toList.getLast? ≠ some '/' := by
  rw [trimEnd_toList]
  intro h
  obtain ⟨hne, hlast⟩ := List.mem_getLast?_eq_getLast h
  exact List.rdropWhile_last_not _ _ hne (by simp [← hlast])

theorem exists_trimEnd_append (s : String) :
    ∃ n, s.toList = (trimEnd s).toList ++ List.replicate n '/' := by
  have hslashes : ∀ c ∈ s.toList.rtakeWhile fun c => decide (c = '/'), c = '/' :=
    fun c hc => by simpa using List.mem_rtakeWhile_imp hc
  refine ⟨(s.toList.rtakeWhile fun c => decide (c = '/')).length, ?_⟩
  rw [trimEnd_toList, ← List.eq_replicate_of_mem hslashes]
  exact List.rdropWhile_append_rtakeWhile.symm

theorem trimEnd_eq_self {s : String} (h : s.toList.getLast? ≠ some '/') : trimEnd s = s := by
  apply String.toList_injective
  rw [trimEnd_toList, List.rdropWhile_eq_self_iff]
  intro hne hlast
  exact h (by simpa [List.getLast?_eq_some_getLast hne] using hlast)

theorem trimEnd_append_slashes (s : String) (n : Nat) : trimEnd (s ++ slashes n) = trimEnd s := by
  have hend : (slashes n).toList.reverse = List.replicate n '/' := by
    rw [slashes, String.toList_ofList, List.reverse_replicate]
  have hall : ∀ c ∈ List.replicate n '/', decide (c = '/') = true :=
    fun c hc => decide_eq_true (List.eq_of_mem_replicate hc)
  rw [trimEnd, trimEnd, String.toList_append, List.reverse_append, hend,
    List.dropWhile_append_of_pos hall]

theorem trimEnd_append (front : String) {s : String} (h : trimEnd s ≠ "") :
    trimEnd (front ++ s) = front ++ trimEnd s := by
  have hne : s.toList.reverse.dropWhile (fun c => decide (c = '/')) ≠ [] := by
    intro hnil
    apply h
    rw [trimEnd, hnil]
    rfl
  rw [trimEnd, trimEnd, String.toList_append, List.reverse_append, List.dropWhile_append,
    if_neg (by simpa using hne), List.reverse_append, List.reverse_reverse, String.ofList_append,
    String.ofList_toList]

theorem join_of_empty {partition : String} (h : trimSlashes partition = "") (base : String) :
    join base partition = base := by
  rw [join, if_pos h]

theorem join_nothing (base : String) : join base "" = base := join_of_empty (by decide) base

theorem join_of_bare {base partition : String} (h : trimSlashes partition ≠ "")
    (hbare : isBareScheme base = true) : join base partition = base ++ trimSlashes partition := by
  rw [join, if_neg h, if_pos hbare]

theorem join_of_not_bare {base partition : String} (h : trimSlashes partition ≠ "")
    (hbare : isBareScheme base = false) :
    join base partition = trimEnd base ++ "/" ++ trimSlashes partition := by
  rw [join, if_neg h, if_neg (by simp [hbare])]

theorem join_toList {base partition : String} (h : trimSlashes partition ≠ "")
    (hbare : isBareScheme base = false) :
    (join base partition).toList =
      (trimEnd base).toList ++ '/' :: (trimSlashes partition).toList := by
  rw [join_of_not_bare h hbare, String.toList_append, String.toList_append, List.append_assoc]
  rfl

-- What stands in front of the path of a partition, if there is one.
def lead (base : String) : String := if isBareScheme base then base else trimEnd base ++ "/"

theorem join_eq {partition : String} (h : trimSlashes partition ≠ "") (base : String) :
    join base partition = lead base ++ trimSlashes partition := by
  rw [join, if_neg h, lead]
  split <;> rfl

-- Only slashes are left out of a base path.
theorem mem_lead {base : String} {c : Char} (hc : c ∈ base.toList) (hslash : c ≠ '/') :
    c ∈ (lead base).toList := by
  rw [lead]
  split
  · exact hc
  · obtain ⟨n, hn⟩ := exists_trimEnd_append base
    rw [hn, List.mem_append] at hc
    rw [String.toList_append, List.mem_append]
    exact .inl (hc.resolve_right fun hend => hslash (List.eq_of_mem_replicate hend))

theorem join_congr {p q : String} (h : trimSlashes p = trimSlashes q) (base : String) :
    join base p = join base q := by
  rw [join, join, h]

theorem join_ne_self {partition : String} (h : trimSlashes partition ≠ "") (base : String) :
    join base partition ≠ base := by
  intro hself
  cases hbare : isBareScheme base with
  | true =>
      rw [join_of_bare h hbare] at hself
      exact h (by simpa using congrArg String.toList hself)
  | false =>
      -- The partition would have to be one of the slashes at the end of the base path.
      obtain ⟨n, hn⟩ := exists_trimEnd_append base
      have hchars := congrArg String.toList hself
      rw [join_toList h hbare, hn, List.append_right_inj] at hchars
      obtain ⟨c, cs, hc⟩ := List.exists_cons_of_ne_nil
        (l := (trimSlashes partition).toList) (by simpa using h)
      have hslash : c = '/' := by
        refine List.eq_of_mem_replicate (n := n) ?_
        rw [← hchars, hc]
        simp
      exact head?_trimSlashes partition (by rw [hc, hslash]; rfl)

-- Nothing of a partition path is lost when it is put behind the base path.
theorem join_inj {base p q : String} :
    join base p = join base q ↔ trimSlashes p = trimSlashes q := by
  refine ⟨fun hjoin => ?_, fun h => join_congr h base⟩
  by_cases hp : trimSlashes p = ""
  · by_cases hq : trimSlashes q = ""
    · rw [hp, hq]
    · rw [join_of_empty hp] at hjoin
      exact absurd hjoin.symm (join_ne_self hq base)
  · by_cases hq : trimSlashes q = ""
    · rw [join_of_empty hq] at hjoin
      exact absurd hjoin (join_ne_self hp base)
    · rw [join_eq hp, join_eq hq] at hjoin
      exact (String.append_right_inj (lead base)).mp hjoin

theorem isBareScheme_append (front : String) {table : String} (hne : table ≠ "")
    (hfirst : table.toList.head? ≠ some '/') :
    isBareScheme (front ++ table) = isBareScheme table := by
  rw [Bool.eq_iff_iff, isBareScheme, isBareScheme, List.isSuffixOf_iff_suffix,
    List.isSuffixOf_iff_suffix, String.toList_append]
  have hsuffix : table.toList <:+ front.toList ++ table.toList := List.suffix_append _ _
  refine ⟨fun h => ?_, fun h => h.trans hsuffix⟩
  rcases List.suffix_or_suffix_of_suffix h hsuffix with h | h
  · exact h
  · -- The table path is an end of the two slashes and the colon, so it is all three of them.
    have hends : table.toList = ['/'] ∨ table.toList = ['/', '/'] ∨
        table.toList = "://".toList ∨ table.toList = [] := by
      change table.toList <:+ [':', '/', '/'] at h
      simp only [List.suffix_cons_iff, List.suffix_nil] at h
      tauto
    rcases hends with h | h | h | h
    · exact absurd (by rw [h]; rfl) hfirst
    · exact absurd (by rw [h]; rfl) hfirst
    · exact ⟨[], h.symm⟩
    · exact absurd (String.toList_eq_nil_iff.mp h) hne

theorem trimEnd_ne_empty {table : String} (hne : table ≠ "")
    (hfirst : table.toList.head? ≠ some '/') : trimEnd table ≠ "" := by
  intro hempty
  obtain ⟨n, hn⟩ := exists_trimEnd_append table
  rw [hempty, String.toList_empty, List.nil_append] at hn
  cases n with
  | zero => exact hne (String.toList_eq_nil_iff.mp hn)
  | succ n => exact hfirst (by rw [hn]; rfl)

-- What stands in front of the path of a table is left alone.
theorem join_append (front : String) {table : String} (hne : table ≠ "")
    (hfirst : table.toList.head? ≠ some '/') (partition : String) :
    join (front ++ table) partition = front ++ join table partition := by
  by_cases hp : trimSlashes partition = ""
  · rw [join_of_empty hp, join_of_empty hp]
  · have hsame := isBareScheme_append front hne hfirst
    cases hbare : isBareScheme table with
    | true =>
        rw [join_of_bare hp hbare, join_of_bare hp (hsame.trans hbare), String.append_assoc]
    | false =>
        rw [join_of_not_bare hp hbare, join_of_not_bare hp (hsame.trans hbare),
          trimEnd_append front (trimEnd_ne_empty hne hfirst)]
        simp only [String.append_assoc]

section Outline

-- Whatever the texts, a partition path leaves the scheme of the base path as it is.
theorem scheme_join (base partition : String) :
    (cutScheme (significant (join base partition).toList)).1 =
      (cutScheme (significant base.toList)).1 := by
  by_cases hp : trimSlashes partition = ""
  · rw [join_of_empty hp]
  · cases hbare : isBareScheme base with
    | true =>
        have hcolon : ':' ∈ base.toList :=
          (List.isSuffixOf_iff_suffix.mp hbare).subset (by decide)
        rw [join_of_bare hp hbare, String.toList_append, scheme_append_of_mem hcolon]
    | false =>
        obtain ⟨count, hcount⟩ := exists_trimEnd_append base
        rw [join_toList hp hbare, scheme_append (isTail_cons _), hcount,
          scheme_append (isTail_replicate count)]

-- Slashes at the end of a text are at most those in front of an authority that is missing.
theorem exists_outline_append_replicate {cs : List Char} (hlast : cs.getLast? ≠ some '/')
    (count : Nat) :
    ∃ n, outline (cs ++ List.replicate count '/') = (outline cs).extend (List.replicate n '/') := by
  by_cases h : (cutScheme cs).2 ≠ [] ∨ ¬['/', '/'] <+: List.replicate count '/'
  · exact ⟨count, outline_append hlast (isTail_replicate count) h⟩
  · obtain ⟨hafter, rest, hrest⟩ := not_or.mp h |>.imp not_not.mp not_not.mp
    have hplain : ∀ c ∈ rest, c = '/' := by
      intro c hc
      refine List.eq_of_mem_replicate (n := count) ?_
      rw [← hrest]
      exact List.mem_append_right _ hc
    have hreplicate : rest = List.replicate rest.length '/' := List.eq_replicate_of_mem hplain
    refine ⟨rest.length, ?_⟩
    simp only [outline, cutScheme_append (isTail_replicate count), hafter, List.nil_append]
    rw [← hrest, ← hreplicate]
    have htail : IsTail rest := hreplicate ▸ isTail_replicate _
    have hcut : cutAuthority (['/', '/'] ++ rest) = ([], rest) :=
      cutAuthority_written (List.forall_mem_nil _) htail
    rw [hcut]
    rfl

-- What a partition adds to a base path without the slashes at its end. Without a partition path
-- some of these slashes stay.
def seam (n : Nat) (partition : String) : List Char :=
  if trimSlashes partition = "" then List.replicate n '/' else '/' :: (trimSlashes partition).toList

theorem isTail_seam (n : Nat) (partition : String) : IsTail (seam n partition) := by
  rw [seam]
  split
  · exact isTail_replicate n
  · exact isTail_cons _

-- The outline of a base path without the slashes at its end.
def stem (base : String) : Outline := outline (significant (trimEnd base).toList)

-- A partition changes neither the scheme nor the authority of its base path.
theorem exists_outline_join {base : String} (hbase : IsUnbroken base.toList)
    (hbare : isBareScheme base = false) :
    ∃ n, ∀ partition : String, IsUnbroken partition.toList →
      outline (significant (join base partition).toList) =
        (stem base).extend (seam n partition) := by
  obtain ⟨count, hcount⟩ := exists_trimEnd_append base
  have hunbroken := hbase
  rw [hcount, isUnbroken_append] at hunbroken
  obtain ⟨hfront, hslashes⟩ := hunbroken
  have hlast : (significant (trimEnd base).toList).getLast? ≠ some '/' := by
    rw [significant_of_isUnbroken hfront]
    exact getLast?_ne_of_suffix (List.dropWhile_suffix _) (getLast?_trimEnd base)
  obtain ⟨n, hn⟩ := exists_outline_append_replicate hlast count
  refine ⟨n, fun partition hpartition => ?_⟩
  by_cases hp : trimSlashes partition = ""
  · rw [join_of_empty hp, stem, seam, if_pos hp, ← hn, ← significant_append_of_isUnbroken
      (isTail_replicate count) hslashes, ← hcount]
  · have htail : IsUnbroken ('/' :: (trimSlashes partition).toList) :=
      List.forall_mem_cons.mpr ⟨by decide, fun c hc => hpartition c (mem_of_mem_trimSlashes hc)⟩
    rw [join_toList hp hbare, stem, seam, if_neg hp,
      significant_append_of_isUnbroken (isTail_cons _) htail]
    refine outline_append hlast (isTail_cons _) (.inr fun hprefix => ?_)
    obtain ⟨-, rest, hrest⟩ := List.cons_prefix_cons.mp hprefix
    exact head?_trimSlashes partition (by rw [← hrest]; rfl)

theorem exists_parse_join_iff {base : String} (hbase : IsUnbroken base.toList)
    (hbare : isBareScheme base = false) :
    ∃ n, ∀ partition : String, IsUnbroken partition.toList → ∀ parts,
      (parse (join base partition) = .ok parts ↔
        IsAuthority (stem base).authority ∧
          parts = ((stem base).extend (seam n partition)).uri) := by
  obtain ⟨n, hn⟩ := exists_outline_join hbase hbare
  refine ⟨n, fun partition hpartition parts => ?_⟩
  rw [parse_eq_ok_iff, hn partition hpartition, Outline.extend_authority]

end Outline

end CatalogSync.Location
