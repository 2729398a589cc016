import CatalogSync.Proofs.Extractor.HivePath

namespace CatalogSync.PathForm

open CatalogSync.Text

theorem hiveStyleValues_eq_ok_iff {path : String} {values : List String} :
    hiveStyleValues path = .ok values ↔ ∃ key value, values = [value] ∧
      trimSlashes path = segment (key, value) ∧ '=' ∉ key.toList ∧ '=' ∉ value.toList ∧
      value ≠ "" := by
  constructor
  · intro h
    rw [hiveStyleValues] at h
    match hparts : split '=' (trimSlashes path) with
    | [] | [_] | _ :: _ :: _ :: _ => simp [hparts] at h
    | [key, value] =>
        simp only [hparts] at h
        obtain ⟨hpath, hkey, hvalue⟩ := split_eq_pair_iff.mp hparts
        by_cases hne : value = ""
        · simp [hne] at h
        · rw [if_neg hne] at h
          exact ⟨key, value, (Except.ok.inj h).symm, hpath, hkey, hvalue, hne⟩
  · rintro ⟨key, value, rfl, hpath, hkey, hvalue, hne⟩
    have hparts : split '=' (trimSlashes path) = [key, value] :=
      split_eq_pair_iff.mpr ⟨hpath, hkey, hvalue⟩
    simp only [hiveStyleValues, hparts, if_neg hne]

-- A path that is refused is shown in the message with all its slashes.
theorem eq_of_hiveStyleValues_error {path : String} {failure : Failure}
    (h : hiveStyleValues path = .error failure) :
    failure = .values (.form path "key=value") := by
  rw [hiveStyleValues] at h
  match hparts : split '=' (trimSlashes path) with
  | [] | [_] | _ :: _ :: _ :: _ =>
      rw [hparts] at h
      exact (Except.error.inj h).symm
  | [key, value] =>
      simp only [hparts] at h
      by_cases hne : value = ""
      · rw [if_pos hne] at h
        exact (Except.error.inj h).symm
      · simp [hne] at h

-- Where segments are told apart, one value can only come from a path of one segment.
theorem multiPartValues_singleton_iff {path value : String} (hpath : path ≠ "")
    (hspells : Spells (trimSlashes path) value) :
    multiPartValues path = .ok [value] ↔ '/' ∉ (trimSlashes path).toList := by
  rw [multiPartValues_eq_ok_iff hpath]
  constructor
  · intro h
    obtain ⟨text, hsegments⟩ := List.length_eq_one_iff.mp h.length_eq
    exact (split_eq_singleton_iff.mp hsegments).2
  · intro hfree
    rw [segments, split_eq_singleton_iff.mpr ⟨rfl, hfree⟩]
    exact .cons hspells .nil

-- A path with a single equals sign is read as a key and a value, wherever its slashes are. Read
-- segment by segment it has the same value only if there is just one segment.
theorem hiveStyle_reads_path (path : String) :
    (∀ value, hiveStyle.values path = .ok [value] ↔ ∃ key,
      trimSlashes path = segment (key, value) ∧ '=' ∉ key.toList ∧ '=' ∉ value.toList ∧
      value ≠ "") ∧
    ((∃ value, hiveStyle.values path = .ok [value]) ∨
      hiveStyle.values path = .error (.values (.form path "key=value"))) ∧
    ∀ values, hiveStyle.values path = .ok values →
      (multiPart.values path = .ok values ↔ '/' ∉ (trimSlashes path).toList) := by
  simp only [PathForm.values]
  refine ⟨fun value => ?_, ?_, fun values hvalues => ?_⟩
  · simp [hiveStyleValues_eq_ok_iff]
  · match hresult : hiveStyleValues path with
    | .ok values =>
        obtain ⟨key, value, rfl, -⟩ := hiveStyleValues_eq_ok_iff.mp hresult
        exact .inl ⟨value, rfl⟩
    | .error failure => exact .inr (congrArg _ (eq_of_hiveStyleValues_error hresult))
  · obtain ⟨key, value, rfl, htrim, hkey, hvalue, hne⟩ := hiveStyleValues_eq_ok_iff.mp hvalues
    have hpath : path ≠ "" := by
      rintro rfl
      have hempty : "" = segment (key, value) := htrim
      simp [segment] at hempty
    apply multiPartValues_singleton_iff hpath
    rw [htrim]
    exact .keyed hkey hvalue hne

theorem hiveStyle_reads_path_dated :
    hiveStyle.values "/dt=2024/01/" = .ok ["2024/01"] ∧
      multiPart.values "/dt=2024/01/" ≠ .ok ["2024/01"] ∧
      hiveStyle.values "//dt=2024" = .ok ["2024"] ∧
      multiPart.values "//dt=2024" = .ok ["2024"] := by
  obtain ⟨hspanning, -, hdiffers⟩ := hiveStyle_reads_path "/dt=2024/01/"
  obtain ⟨hsingle, -, hagrees⟩ := hiveStyle_reads_path "//dt=2024"
  have hvalues : hiveStyle.values "/dt=2024/01/" = .ok ["2024/01"] :=
    (hspanning _).mpr ⟨"dt", by decide +kernel⟩
  have hvalue : hiveStyle.values "//dt=2024" = .ok ["2024"] :=
    (hsingle _).mpr ⟨"dt", by decide +kernel⟩
  exact ⟨hvalues, mt (hdiffers _ hvalues).mp (by decide +kernel), hvalue,
    (hagrees _ hvalue).mpr (by decide +kernel)⟩

-- The key or the value may reach over several segments.
theorem hiveStyle_spans_segments :
    ¬∀ path value, hiveStyle.values path = .ok [value] ↔
      ∃ key, trimSlashes path = segment (key, value) ∧ IsPlain (key, value) := by
  intro h
  have hvalues : hiveStyle.values "dt=2024/01" = .ok ["2024/01"] :=
    Traversal.eq_ok_of_toOption (by decide +kernel)
  obtain ⟨key, -, hplain⟩ := (h _ _).mp hvalues
  have hslash : '/' ∈ "2024/01".toList := by decide
  exact hplain.value_slash hslash

end CatalogSync.PathForm
