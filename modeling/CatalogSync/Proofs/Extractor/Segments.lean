import CatalogSync.Extractor.Basic
import CatalogSync.Proofs.Text.Split
import CatalogSync.Proofs.Traversal
import Mathlib.Data.List.Forall2

namespace CatalogSync.PathForm

open CatalogSync.Text

-- The texts between the slashes of a path, apart from the slashes around it.
def segments (path : String) : List String := split '/' (trimSlashes path)

theorem segments_ne_nil (path : String) : segments path ≠ [] :=
  (split_eq_iff.mp rfl).1

-- A segment spells a value by itself, or behind a key.
inductive Spells : String → String → Prop where
  | bare {value : String} (hvalue : '=' ∉ value.toList) : Spells value value
  | keyed {key value : String} (hkey : '=' ∉ key.toList) (hvalue : '=' ∉ value.toList)
      (hne : value ≠ "") : Spells (key ++ "=" ++ value) value

theorem segmentValue_eq_ok_iff {text value : String} :
    segmentValue text = .ok value ↔ Spells text value := by
  constructor
  · intro h
    rw [segmentValue] at h
    match hparts : split '=' text with
    | [] => simp [hparts] at h
    | [part] =>
        rw [hparts] at h
        obtain ⟨rfl, hfree⟩ := split_eq_singleton_iff.mp hparts
        obtain rfl := Except.ok.inj h
        exact .bare hfree
    | [key, part] =>
        simp only [hparts] at h
        obtain ⟨rfl, hkey, hpart⟩ := split_eq_pair_iff.mp hparts
        by_cases hne : part = ""
        · simp [hne] at h
        · rw [if_neg hne] at h
          obtain rfl := Except.ok.inj h
          exact .keyed hkey hpart hne
    | _ :: _ :: _ :: _ => simp [hparts] at h
  · intro h
    cases h with
    | bare hvalue => rw [segmentValue, split_eq_singleton_iff.mpr ⟨rfl, hvalue⟩]
    | @keyed key _ hkey hvalue hne =>
        have hparts : split '=' (key ++ "=" ++ value) = [key, value] :=
          split_eq_pair_iff.mpr ⟨rfl, hkey, hvalue⟩
        simp only [segmentValue, hparts, if_neg hne]

-- A segment that spells no value is shown in the message.
theorem eq_of_segmentValue_error {text : String} {failure : Failure}
    (h : segmentValue text = .error failure) : failure = .values (.segment text) := by
  rw [segmentValue] at h
  match hparts : split '=' text with
  | [] | _ :: _ :: _ :: _ =>
      rw [hparts] at h
      exact (Except.error.inj h).symm
  | [part] => simp [hparts] at h
  | [key, part] =>
      simp only [hparts] at h
      by_cases hne : part = ""
      · rw [if_pos hne] at h
        exact (Except.error.inj h).symm
      · simp [hne] at h

-- Only the empty segment spells the empty value, as behind a key there must be a value.
theorem Spells.value_eq_empty_iff {text value : String} (h : Spells text value) :
    value = "" ↔ text = "" := by
  cases h with
  | bare => exact Iff.rfl
  | keyed _ _ hne => exact iff_of_false hne (by simp [← String.toList_eq_nil_iff])

-- There is no equals sign at the end of a segment that spells a value.
theorem Spells.getLast?_ne {text value : String} (h : Spells text value) :
    text.toList.getLast? ≠ some '=' := by
  cases h with
  | bare hvalue => exact fun hlast => hvalue (List.mem_of_getLast? hlast)
  | keyed _ hvalue hne =>
      rw [String.toList_append, List.getLast?_append_of_ne_nil _ (by simpa using hne)]
      exact fun hlast => hvalue (List.mem_of_getLast? hlast)

-- The empty path is read apart from the others, as it has no segments.
theorem multiPartValues_eq_ok_iff {path : String} {values : List String} (h : path ≠ "") :
    multiPartValues path = .ok values ↔ List.Forall₂ Spells (segments path) values := by
  rw [multiPartValues, if_neg h, Traversal.mapM_eq_ok_iff, ← List.forall₂_eq_eq_eq,
    List.forall₂_map_left_iff, List.forall₂_map_right_iff]
  simp only [segmentValue_eq_ok_iff]
  rfl

theorem exists_multiPartValues_iff {path : String} (h : path ≠ "") :
    (∃ values, multiPartValues path = .ok values) ↔
      ∀ text ∈ segments path, ∃ value, Spells text value := by
  simp only [multiPartValues, if_neg h, Traversal.exists_mapM_ok_iff, segmentValue_eq_ok_iff]
  rfl

-- A path that is refused shows the segment that spells no value.
theorem multiPartValues_eq_error {path : String} {failure : Failure}
    (h : multiPartValues path = .error failure) :
    ∃ text ∈ segments path, failure = .values (.segment text) := by
  have hne : path ≠ "" := by
    rintro rfl
    cases h
  rw [multiPartValues, if_neg hne] at h
  obtain ⟨text, htext, hfailure⟩ := Traversal.exists_of_mapM_error h
  exact ⟨text, htext, eq_of_segmentValue_error hfailure⟩

theorem empty_mem_values_iff {texts values : List String} (h : List.Forall₂ Spells texts values) :
    "" ∈ values ↔ "" ∈ texts := by
  induction h with
  | nil => exact Iff.rfl
  | cons hspells _ ih =>
      rw [List.mem_cons, List.mem_cons, ih, eq_comm, hspells.value_eq_empty_iff, eq_comm]

theorem segments_surrounded (before after : Nat) (path : String) :
    segments (slashes before ++ path ++ slashes after) = segments path := by
  rw [segments, trimSlashes_surrounded, segments]

-- Segments are got back from the path that they make.
theorem segments_intercalate {texts : List String} (hne : texts ≠ []) (hempty : "" ∉ texts)
    (hfree : ∀ text ∈ texts, '/' ∉ text.toList) : segments ("/".intercalate texts) = texts := by
  rw [segments, trimSlashes_intercalate hempty hfree]
  exact split_intercalate '/' texts hne hfree

-- Values are read off a path that spells them, whatever slashes are put around it.
theorem multiPartValues_intercalate {texts values : List String} (hne : texts ≠ [])
    (hspells : List.Forall₂ Spells texts values) (hfree : ∀ text ∈ texts, '/' ∉ text.toList)
    (hvalues : "" ∉ values) (before after : Nat) :
    multiPartValues (slashes before ++ "/".intercalate texts ++ slashes after) = .ok values := by
  have hempty : "" ∉ texts := mt (empty_mem_values_iff hspells).mpr hvalues
  have hsegments :
      segments (slashes before ++ "/".intercalate texts ++ slashes after) = texts := by
    rw [segments_surrounded, segments_intercalate hne hempty hfree]
  have hpath : slashes before ++ "/".intercalate texts ++ slashes after ≠ "" := by
    intro heq
    rw [heq] at hsegments
    exact hempty (hsegments ▸ List.mem_cons_self)
  rw [multiPartValues_eq_ok_iff hpath, hsegments]
  exact hspells

-- A path is read segment by segment: every segment has to spell a value, and the values come in
-- the order of the segments.
theorem multiPart_reads_segments :
    (∀ path, path ≠ "" →
      ((∃ values, multiPart.values path = .ok values) ↔
        ∀ text ∈ segments path, ∃ value, Spells text value) ∧
      ∀ values, multiPart.values path = .ok values ↔
        List.Forall₂ Spells (segments path) values) ∧
    ∀ texts values, texts ≠ [] → List.Forall₂ Spells texts values →
      (∀ text ∈ texts, '/' ∉ text.toList) → "" ∉ values → ∀ before after,
      multiPart.values (slashes before ++ "/".intercalate texts ++ slashes after) =
        .ok values := by
  refine ⟨fun path hpath => ⟨?_, fun values => ?_⟩, ?_⟩
  · exact exists_multiPartValues_iff hpath
  · exact multiPartValues_eq_ok_iff hpath
  · intro texts values hne hspells hfree hvalues before after
    exact multiPartValues_intercalate hne hspells hfree hvalues before after

theorem multiPart_reads_segments_mixed :
    multiPart.values "//region=eu/2024-01-01/" = .ok ["eu", "2024-01-01"] ∧
      List.Forall₂ Spells (segments "/=eu/31//") ["eu", "31"] := by
  obtain ⟨hpaths, htexts⟩ := multiPart_reads_segments
  have hspells : List.Forall₂ Spells ["region=eu", "2024-01-01"] ["eu", "2024-01-01"] :=
    .cons (@Spells.keyed "region" "eu" (by decide) (by decide) (by decide))
      (.cons (.bare (by decide)) .nil)
  have hvalues : multiPart.values "/=eu/31//" = .ok ["eu", "31"] :=
    Traversal.eq_ok_of_toOption (by decide +kernel)
  exact ⟨htexts _ _ (by decide) hspells (by decide) (by decide) 2 1,
    ((hpaths "/=eu/31//" (by decide)).2 _).mp hvalues⟩

-- A value is empty where a segment is, that is, where slashes follow each other inside the path or
-- there is nothing but slashes. Behind a key the value cannot be empty.
theorem multiPart_empty_value_iff (path : String) :
    (∀ values, multiPart.values path = .ok values →
      ("" ∈ values ↔ path ≠ "" ∧
        (trimSlashes path = "" ∨ ['/', '/'] <:+: (trimSlashes path).toList))) ∧
    ∀ key, key ++ "=" ∈ segments path →
      ∃ text, multiPart.values path = .error (.values (.segment text)) := by
  constructor
  · intro values hvalues
    by_cases hpath : path = ""
    · obtain rfl : [] = values := Except.ok.inj (by rw [hpath] at hvalues; exact hvalues)
      simp [hpath]
    · rw [empty_mem_values_iff ((multiPartValues_eq_ok_iff hpath).mp hvalues), segments,
        empty_mem_split_iff (head?_trimSlashes path) (getLast?_trimSlashes path)]
      exact (and_iff_right hpath).symm
  · intro key hkey
    match hresult : multiPart.values path with
    | .error failure =>
        obtain ⟨text, -, rfl⟩ := multiPartValues_eq_error hresult
        exact ⟨text, rfl⟩
    | .ok values =>
        have hpath : path ≠ "" := by
          rintro rfl
          have hlast : key ++ "=" = "" := List.mem_singleton.mp hkey
          simp [← String.toList_eq_nil_iff] at hlast
        obtain ⟨value, hspells⟩ :=
          (exists_multiPartValues_iff hpath).mp ⟨values, hresult⟩ _ hkey
        exact absurd (by simp) hspells.getLast?_ne

theorem multiPart_empty_value_iff_doubled :
    multiPart.values "eu//dt=1" = .ok ["eu", "", "1"] ∧ "" ∈ ["eu", "", "1"] ∧
      trimSlashes "eu//dt=1" ≠ "" ∧ ['/', '/'] <:+: (trimSlashes "eu//dt=1").toList ∧
      ∃ text, multiPart.values "eu//dt=" = .error (.values (.segment text)) := by
  have hvalues : multiPart.values "eu//dt=1" = .ok ["eu", "", "1"] :=
    Traversal.eq_ok_of_toOption (by decide +kernel)
  have hempty := ((multiPart_empty_value_iff "eu//dt=1").1 _ hvalues).mp (by decide)
  have htrim : trimSlashes "eu//dt=1" ≠ "" := by decide +kernel
  exact ⟨hvalues, by decide, htrim, hempty.2.resolve_left htrim,
    (multiPart_empty_value_iff "eu//dt=").2 "dt" (by decide +kernel)⟩

-- Two slashes inside a path give a value that is empty.
theorem multiPart_yields_empty_value :
    ¬∀ path values, multiPart.values path = .ok values → "" ∉ values := by
  intro h
  have hvalues : multiPart.values "eu//dt=1" = .ok ["eu", "", "1"] :=
    Traversal.eq_ok_of_toOption (by decide +kernel)
  exact h _ _ hvalues (by decide)

end CatalogSync.PathForm
