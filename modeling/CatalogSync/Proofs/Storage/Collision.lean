import CatalogSync.Proofs.Storage.Location

namespace CatalogSync.Location

open CatalogSync.Text CatalogSync.Uri

-- What the locations of a distributed file system keep of a partition path: the part in front of
-- the first question mark or number sign.
def keptPart (partition : String) : List Char :=
  (trimSlashes partition).toList.takeWhile (!endsPath ·)

theorem keptPart_of_empty {partition : String} (h : trimSlashes partition = "") :
    keptPart partition = [] := by
  rw [keptPart, h]
  rfl

theorem head?_keptPart (partition : String) : (keptPart partition).head? ≠ some '/' := by
  rw [keptPart, List.head?_takeWhile]
  intro h
  exact head?_trimSlashes partition (Option.eq_some_of_filter_eq_some h)

theorem takeWhile_seam (n : Nat) (partition : String) :
    (seam n partition).takeWhile (!endsPath ·) =
      if trimSlashes partition = "" then List.replicate n '/' else '/' :: keptPart partition := by
  rw [seam]
  split
  · rw [List.takeWhile_replicate, if_pos (by decide)]
  · rw [List.takeWhile_cons_of_pos (by decide)]
    rfl

-- The part that is kept can be got back from the end of the location.
theorem keptPart_eq_dropWhile (n : Nat) (partition : String) :
    keptPart partition =
      ((seam n partition).takeWhile (!endsPath ·)).dropWhile fun c => decide (c = '/') := by
  rw [takeWhile_seam]
  split
  · next h =>
    rw [keptPart_of_empty h]
    exact (List.dropWhile_eq_nil_iff.mpr fun c hc => by
      simpa using List.eq_of_mem_replicate hc).symm
  · rw [List.dropWhile_cons_of_pos (by simp)]
    have hfirst := head?_keptPart partition
    cases hk : keptPart partition with
    | nil => rfl
    | cons c cs =>
        have hc : c ≠ '/' := by simpa [hk] using hfirst
        rw [List.dropWhile_cons_of_neg (by simpa using hc)]

-- Two paths that go on in different ways are different, but for a slash that an empty path gets.
theorem eq_or_of_absolute_eq {front tail other : List Char} (htail : IsTail tail)
    (hother : IsTail other)
    (h : FileSystem.absolute (.ofList (front ++ tail)) =
      FileSystem.absolute (.ofList (front ++ other))) :
    tail = other ∨ (tail = [] ∧ other = ['/']) ∨ (tail = ['/'] ∧ other = []) := by
  rw [← String.toList_inj, FileSystem.absolute_toList, FileSystem.absolute_toList,
    String.toList_ofList, String.toList_ofList] at h
  cases front with
  | nil =>
      obtain rfl | ⟨tail, rfl⟩ := htail.eq_nil_or_cons <;>
        obtain rfl | ⟨other, rfl⟩ := hother.eq_nil_or_cons <;> simp_all
  | cons c front =>
      left
      by_cases hc : c = '/'
      · simpa [hc] using h
      · simpa [hc] using h

-- Two locations in one distributed file system differ as their paths do.
theorem Resolved.eq_iff_absolute_eq {filesystem : Option FileSystem} {joined other l m : String}
    {u v : Uri} (hhdfs : u.scheme = "hdfs") (hscheme : u.scheme = v.scheme)
    (hauthority : u.authority = v.authority) (hl : Resolved filesystem joined u l)
    (hm : Resolved filesystem other v m) :
    l = m ↔ FileSystem.absolute u.path = FileSystem.absolute v.path := by
  cases hl with
  | plain hplain => exact absurd hhdfs hplain
  | own _ hown =>
      cases hm with
      | plain hplain => exact absurd (hscheme ▸ hhdfs) hplain
      | own =>
          rw [hscheme, hauthority, FileSystem.qualify_eq, FileSystem.qualify_eq,
            String.append_right_inj]
      | qualified _ _ _ hnone => exact absurd (hauthority.trans hnone) hown
  | qualified default _ _ hnone hdefault =>
      cases hm with
      | plain hplain => exact absurd (hscheme ▸ hhdfs) hplain
      | own _ hown => exact absurd (hauthority.symm.trans hnone) hown
      | qualified same _ _ _ hsame =>
          obtain rfl := Option.some.inj (hdefault.symm.trans hsame)
          rw [FileSystem.qualify_eq, FileSystem.qualify_eq, String.append_right_inj]

theorem mem_stem_rest {base : String} {c : Char} (hc : c ∈ base.toList)
    (hends : endsPath c = true) : c ∈ (stem base).rest := by
  obtain ⟨n, hn⟩ := exists_trimEnd_append base
  have hmark : c = '?' ∨ c = '#' := by simpa [endsPath] using hends
  have htrimmed : c ∈ (trimEnd base).toList := by
    rw [hn, List.mem_append] at hc
    refine hc.resolve_right fun h => ?_
    rw [List.eq_of_mem_replicate h] at hends
    exact absurd hends (by decide)
  refine mem_outline_rest (mem_significant htrimmed ?_) hends
  rcases hmark with rfl | rfl <;> decide

theorem forall_stem_rest {base : String} (h : ∀ c ∈ base.toList, endsPath c = false) :
    ∀ c ∈ (stem base).rest, endsPath c = false := by
  intro c hc
  have htrimmed := significant_subset _ ((outline_rest_suffix _).subset hc)
  rw [trimEnd_toList] at htrimmed
  exact h c ((List.rdropWhile_prefix _ _).subset htrimmed)

section Paths

variable {shared : Outline} (h : ∀ c ∈ shared.rest, endsPath c = false) {n : Nat} {p q : String}

include h

theorem keptPart_eq_of_absolute_eq
    (hsame : FileSystem.absolute (.ofList (shared.extend (seam n p)).path) =
      FileSystem.absolute (.ofList (shared.extend (seam n q)).path)) :
    keptPart p = keptPart q := by
  have htail (partition : String) : IsTail ((seam n partition).takeWhile (!endsPath ·)) := by
    intro c hc
    rw [List.head?_takeWhile] at hc
    exact isTail_seam n partition c (Option.eq_some_of_filter_eq_some hc)
  rw [Outline.path_extend_of_forall h, Outline.path_extend_of_forall h] at hsame
  rw [keptPart_eq_dropWhile n p, keptPart_eq_dropWhile n q]
  obtain htails | ⟨hnil, hslash⟩ | ⟨hslash, hnil⟩ :=
    eq_or_of_absolute_eq (htail p) (htail q) hsame
  · rw [htails]
  · rw [hnil, hslash]
    rfl
  · rw [hnil, hslash]
    rfl

theorem path_extend_seam_congr (hempty : trimSlashes p = "" ↔ trimSlashes q = "")
    (hkept : keptPart p = keptPart q) :
    (shared.extend (seam n p)).path = (shared.extend (seam n q)).path := by
  rw [Outline.path_extend_of_forall h, Outline.path_extend_of_forall h, takeWhile_seam,
    takeWhile_seam, hkept]
  simp only [hempty]

end Paths

theorem scheme_eq_of_parse {base p q : String} {u v : Uri} (hu : parse (join base p) = .ok u)
    (hv : parse (join base q) = .ok v) : u.scheme = v.scheme := by
  obtain ⟨-, hu⟩ := (parse_eq_ok_iff _ _).mp hu
  obtain ⟨-, hv⟩ := (parse_eq_ok_iff _ _).mp hv
  rw [hu, hv, Outline.uri_scheme, Outline.uri_scheme, outline_scheme, outline_scheme,
    scheme_join base p, scheme_join base q]

-- What a location keeps of a partition path that is read as a part of it.
def unbrokenPart (partition : String) : List Char :=
  (trimSlashes partition).toList.filter fun c => c ≠ '\t' ∧ c ≠ '\r' ∧ c ≠ '\n'

-- Tabs and line ends in a partition path do not count, once there is a scheme in front of them.
theorem significant_join_congr {base p q : String} (hcolon : ':' ∈ base.toList)
    (hp : trimSlashes p ≠ "") (hq : trimSlashes q ≠ "") (h : unbrokenPart p = unbrokenPart q) :
    significant (join base p).toList = significant (join base q).toList := by
  have hlead : ':' ∈ (lead base).toList := mem_lead hcolon (by decide)
  rw [join_eq hp, join_eq hq, String.toList_append, String.toList_append,
    significant_append_of_mem hlead (by decide), significant_append_of_mem hlead (by decide)]
  exact congrArg (significant (lead base).toList ++ ·) h

theorem colon_mem_of_scheme {base partition : String} {parts : Uri}
    (h : parse (join base partition) = .ok parts) (hscheme : parts.scheme ≠ "") :
    ':' ∈ base.toList := by
  obtain ⟨-, hparts⟩ := (parse_eq_ok_iff _ _).mp h
  rw [hparts, Outline.uri_scheme, outline_scheme, scheme_join] at hscheme
  obtain hcut | ⟨scheme, after, hbase, -⟩ := cutScheme_cases (significant base.toList)
  · rw [hcut, String.ofList_nil] at hscheme
    exact absurd rfl hscheme
  · exact significant_subset _ (by simp [hbase])

-- When two partitions get one location. Outside of distributed file systems this is never so,
-- unless their paths are the same but for slashes around them. In a distributed file system the
-- location ends at the first question mark or number sign, so that partitions whose paths differ
-- only behind one get one location, and all partitions do if there is one in the base path. Tabs
-- and line ends do not count there either.
theorem location_eq_iff (base p q l m : String) (filesystem : Option FileSystem)
    (hl : resolve base p filesystem = .ok l) (hm : resolve base q filesystem = .ok m) :
    ∃ joined, parse (join base p) = .ok joined ∧
      (joined.scheme ≠ "hdfs" → (l = m ↔ trimSlashes p = trimSlashes q)) ∧
      (joined.scheme = "hdfs" → IsUnbroken base.toList → IsUnbroken p.toList →
        IsUnbroken q.toList → isBareScheme base = false →
        ((∃ c ∈ base.toList, endsPath c = true) → l = m) ∧
        ((∀ c ∈ base.toList, endsPath c = false) →
          (l = m → keptPart p = keptPart q) ∧
          ((trimSlashes p = "" ↔ trimSlashes q = "") → keptPart p = keptPart q → l = m))) ∧
      (joined.scheme = "hdfs" → trimSlashes p ≠ "" → trimSlashes q ≠ "" →
        unbrokenPart p = unbrokenPart q → l = m) := by
  obtain ⟨u, hu, hul⟩ := resolved_of_resolve hl
  obtain ⟨v, hv, hvm⟩ := resolved_of_resolve hm
  have hscheme := scheme_eq_of_parse hu hv
  refine ⟨u, hu, fun hplain => ?_, fun hhdfs hbase hunbrokenp hunbrokenq hbare => ?_,
    fun hhdfs hp hq hsame => ?_⟩
  · rw [hul.eq_joined hplain, hvm.eq_joined (hscheme ▸ hplain)]
    exact join_inj
  · obtain ⟨n, hn⟩ := exists_parse_join_iff hbase hbare
    obtain ⟨-, hu⟩ := (hn p hunbrokenp u).mp hu
    obtain ⟨-, hv⟩ := (hn q hunbrokenq v).mp hv
    have hauthority : u.authority = v.authority := by simp [hu, hv]
    rw [hul.eq_iff_absolute_eq hhdfs hscheme hauthority hvm, hu, hv, Outline.uri_path,
      Outline.uri_path]
    refine ⟨fun ⟨c, hc, hends⟩ => ?_, fun h => ⟨fun hsame => ?_, fun hempty hkept => ?_⟩⟩
    · have hmarked := mem_stem_rest hc hends
      rw [Outline.path_extend_of_mem hmarked hends, Outline.path_extend_of_mem hmarked hends]
    · exact keptPart_eq_of_absolute_eq (forall_stem_rest h) hsame
    · rw [path_extend_seam_congr (forall_stem_rest h) hempty hkept]
  · have hcolon := colon_mem_of_scheme hu (by simp [hhdfs])
    have hsignificant := significant_join_congr hcolon hp hq hsame
    obtain ⟨-, hu⟩ := (parse_eq_ok_iff _ _).mp hu
    obtain ⟨-, hv⟩ := (parse_eq_ok_iff _ _).mp hv
    rw [hsignificant, ← hv] at hu
    exact (hul.eq_iff_absolute_eq hhdfs hscheme (by rw [hu]) hvm).mpr (by rw [hu])

-- Two partitions with plain paths.
theorem location_eq_iff_plain :
    ∃ l m, resolve "hdfs://nn/sales//" "/day=1" none = .ok l ∧
      resolve "hdfs://nn/sales//" "day=2/" none = .ok m ∧ l ≠ m := by
  have hl : resolve "hdfs://nn/sales//" "/day=1" none = .ok "hdfs://nn/sales/day=1" :=
    Traversal.eq_ok_of_toOption (by decide +kernel)
  have hm : resolve "hdfs://nn/sales//" "day=2/" none = .ok "hdfs://nn/sales/day=2" :=
    Traversal.eq_ok_of_toOption (by decide +kernel)
  have hparse : parse (join "hdfs://nn/sales//" "/day=1") =
      .ok ⟨"hdfs", "nn", "/sales/day=1", "", ""⟩ := Traversal.eq_ok_of_toOption (by decide +kernel)
  obtain ⟨joined, hjoined, -, hhdfs, -⟩ :=
    location_eq_iff "hdfs://nn/sales//" "/day=1" "day=2/" _ _ none hl hm
  obtain rfl := Except.ok.inj (hparse.symm.trans hjoined)
  have hplain : ∀ c ∈ "hdfs://nn/sales//".toList, endsPath c = false := by simp [endsPath]
  have hkept := ((hhdfs rfl (by decide) (by decide) (by decide) (by decide +kernel)).2 hplain).1
  exact ⟨_, _, hl, hm, fun hsame => absurd (hkept hsame) (by decide +kernel)⟩

-- Two partitions whose paths differ behind a question mark.
theorem location_not_injective :
    ¬∀ (base p q l m : String) (filesystem : Option FileSystem),
      trimSlashes p ≠ trimSlashes q → resolve base p filesystem = .ok l →
      resolve base q filesystem = .ok m → l ≠ m := by
  intro h
  have hl : resolve "hdfs://nn/sales" "day=a?1" none = .ok "hdfs://nn/sales/day=a" :=
    Traversal.eq_ok_of_toOption (by decide +kernel)
  have hm : resolve "hdfs://nn/sales" "day=a?2" none = .ok "hdfs://nn/sales/day=a" :=
    Traversal.eq_ok_of_toOption (by decide +kernel)
  exact h _ _ _ _ _ none (by decide +kernel) hl hm rfl

end CatalogSync.Location
