import CatalogSync.Proofs.Dictionary
import CatalogSync.Proofs.Settings.Mapping

namespace CatalogSync

open Traversal

namespace Mapping

-- The keys that no setting has, in ascending order.
structure AreUnknown (mapping : Mapping) (keys : List String) : Prop where
  ascending : keys.Pairwise (· < ·)
  mem_iff : ∀ key, key ∈ keys ↔
    key ∈ mapping.map Prod.fst ∧ ∀ setting : Setting, setting.key ≠ key

-- What a mapping is refused with: all of its unknown keys or, if there are none, the failure of the
-- first value that its setting cannot take.
inductive Refuses (mapping : Mapping) : Failure → Prop
  | keys {unknown : List String} : mapping.AreUnknown unknown → unknown ≠ [] →
      Refuses mapping (.config (.unknownKeys unknown))
  | value {before after : Mapping} {setting : Setting} {value : Datum} {failure : Failure} :
      mapping.AreUnknown [] → mapping = before ++ (setting.key, value) :: after → before.Fits →
      setting.coerce value = .error failure → Refuses mapping failure

theorem given?_eq_find? (key : String) (mapping : Mapping) :
    mapping.given? key = Dictionary.find? key mapping.reverse := by
  induction mapping with
  | nil => rfl
  | cons entry rest ih =>
      obtain ⟨name, value⟩ := entry
      rw [given?, ih, List.reverse_cons, Dictionary.find?_append]
      rfl

theorem given?_entries (d : Dictionary String Datum) (key : String) :
    Mapping.given? key d.entries = d.get? key := by
  rw [given?_eq_find?, Dictionary.find?_reverse d.keys_nodup, Dictionary.get?]

theorem fits_entries_iff (d : Dictionary String Datum) : Fits d.entries ↔
    ∀ key value, d.get? key = some value → ∃ setting : Setting, setting.key = key ∧
      ∃ taken, setting.coerce value = .ok taken := by
  simp only [Dictionary.get?, Dictionary.find?_eq_some_iff d.keys_nodup]
  exact ⟨fun h key value hentry => h _ hentry, fun h entry hentry => h _ _ hentry⟩

end Mapping

namespace Settings

variable {base settings : Settings} {mapping : Mapping} {failure : Failure}

theorem pairwise_sortedKeys (keys : List String) : (sortedKeys keys).Pairwise (· < ·) := by
  have hsorted : (sortedKeys keys).Pairwise fun a b => decide (a ≤ b) = true := by
    refine List.pairwise_mergeSort (fun a b c hab hbc => ?_) (fun a b => ?_) _
    · exact decide_eq_true (String.le_trans (of_decide_eq_true hab) (of_decide_eq_true hbc))
    · simpa using String.le_total a b
  have hnodup : (sortedKeys keys).Nodup :=
    (List.mergeSort_perm _ _).nodup_iff.mpr (Dictionary.nodup_eraseDups keys)
  refine (hsorted.and hnodup).imp fun {a b} ⟨hle, hne⟩ => ?_
  rw [← String.not_le]
  exact fun hba => hne (String.le_antisymm (of_decide_eq_true hle) hba)

theorem areUnknown_unknownKeys (mapping : Mapping) :
    mapping.AreUnknown (unknownKeys (mapping.map Prod.fst)) where
  ascending := pairwise_sortedKeys _
  mem_iff key := by
    have hnone : (Setting.ofKey? key).isNone = true ↔ ∀ setting : Setting, setting.key ≠ key := by
      rw [Option.isNone_iff_eq_none, Option.eq_none_iff_forall_ne_some]
      exact forall_congr' fun setting => not_congr Setting.ofKey?_eq_some_iff
    rw [unknownKeys, sortedKeys, List.mem_mergeSort, List.mem_eraseDups, List.mem_filter, hnone]

-- An ascending list is determined by what is in it.
theorem areUnknown_iff {keys : List String} :
    mapping.AreUnknown keys ↔ unknownKeys (mapping.map Prod.fst) = keys := by
  have hunknown := areUnknown_unknownKeys mapping
  constructor
  · intro h
    have hsame : (unknownKeys (mapping.map Prod.fst)).Perm keys := by
      rw [List.perm_ext_iff_of_nodup (hunknown.ascending.imp String.ne_of_lt)
        (h.ascending.imp String.ne_of_lt)]
      exact fun key => (hunknown.mem_iff key).trans (h.mem_iff key).symm
    exact hsame.eq_of_pairwise (fun a b _ _ hab hba => absurd hba (String.lt_asymm hab))
      hunknown.ascending h.ascending
  · rintro rfl
    exact hunknown

theorem areUnknown_nil_iff : mapping.AreUnknown [] ↔
    ∀ entry ∈ mapping, ∃ setting : Setting, setting.key = entry.1 := by
  rw [areUnknown_iff, unknownKeys_eq_nil_iff, List.forall_mem_map]

theorem exists_entries (h : mapping.AreUnknown []) : ∃ entries : List (Setting × Datum),
    mapping = entries.map fun entry => (entry.1.key, entry.2) := by
  rw [areUnknown_nil_iff] at h
  induction mapping with
  | nil => exact ⟨[], rfl⟩
  | cons entry rest ih =>
      obtain ⟨⟨setting, hkey⟩, hrest⟩ := List.forall_mem_cons.mp h
      obtain ⟨entries, rfl⟩ := ih hrest
      exact ⟨(setting, entry.2) :: entries, by rw [List.map_cons, hkey]⟩

theorem updates_eq_mapM (entries : List (Setting × Datum)) :
    updates (entries.map fun entry => (entry.1.key, entry.2)) =
      entries.mapM fun entry => Update.ofDatum entry.1 entry.2 := by
  induction entries with
  | nil => rfl
  | cons entry entries ih =>
      rw [List.map_cons, updates, Setting.ofKey?_eq_some_iff.mpr rfl, List.mapM_cons, ih]

-- Where all keys are known, the first value that does not fit is the one that counts.
theorem updates_eq_error_iff (h : mapping.AreUnknown []) : updates mapping = .error failure ↔
    ∃ before setting value after, mapping = before ++ (Setting.key setting, value) :: after ∧
      Mapping.Fits before ∧ setting.coerce value = .error failure := by
  obtain ⟨entries, rfl⟩ := exists_entries h
  have hfits : ∀ front : List (Setting × Datum),
      (∀ entry ∈ front, ∃ update, Update.ofDatum entry.1 entry.2 = .ok update) ↔
        Mapping.Fits (front.map fun entry => (entry.1.key, entry.2)) := by
    intro front
    simp only [Mapping.Fits, List.forall_mem_map, Update.exists_ofDatum_iff]
    refine forall₂_congr fun entry _ => ⟨fun htaken => ⟨entry.1, rfl, htaken⟩, ?_⟩
    rintro ⟨setting, hkey, htaken⟩
    rwa [Setting.key_injective hkey] at htaken
  rw [updates_eq_mapM, mapM_eq_error_iff]
  constructor
  · rintro ⟨front, entry, back, rfl, hfront, hentry⟩
    exact ⟨_, entry.1, entry.2, _, List.map_append, (hfits front).mp hfront,
      Update.ofDatum_eq_error_iff.mp hentry⟩
  · rintro ⟨before, setting, value, after, hsplit, hbefore, hvalue⟩
    obtain ⟨front, rest, rfl, rfl, hrest⟩ := List.map_eq_append_iff.mp hsplit
    obtain ⟨entry, back, rfl, hentry, rfl⟩ := List.map_eq_cons_iff.mp hrest
    obtain ⟨hkey, rfl⟩ := Prod.mk.inj hentry
    obtain rfl := Setting.key_injective hkey
    exact ⟨front, entry, back, rfl, (hfits front).mpr hbefore,
      Update.ofDatum_eq_error_iff.mpr hvalue⟩

-- Why a mapping is refused depends on the mapping only.
theorem apply_eq_error_iff : base.apply mapping = .error failure ↔ mapping.Refuses failure := by
  have hunknown := areUnknown_unknownKeys mapping
  rw [apply]
  constructor
  · intro h
    split at h
    · next hnone =>
      rw [hnone] at hunknown
      obtain ⟨before, setting, value, after, hsplit, hfits, hvalue⟩ :=
        (updates_eq_error_iff hunknown).mp (map_eq_error_iff.mp h)
      exact .value hunknown hsplit hfits hvalue
    · next hsome =>
      obtain rfl := Except.error.inj h
      exact .keys hunknown hsome
  · rintro (⟨hkeys, hne⟩ | ⟨hknown, hsplit, hfits, hvalue⟩)
    · obtain ⟨key, keys, rfl⟩ := List.exists_cons_of_ne_nil hne
      rw [areUnknown_iff.mp hkeys]
    · rw [areUnknown_iff.mp hknown, map_eq_error_iff]
      exact (updates_eq_error_iff hknown).mpr ⟨_, _, _, _, hsplit, hfits, hvalue⟩

section Composition

variable {middle last : Settings} {d e : Dictionary String Datum}

-- Only the value that each key has matters to settings that are there, not where it stands.
theorem apply_congr (h : ∀ key, d.get? key = e.get? key) :
    base.apply d.entries = .ok settings ↔ base.apply e.entries = .ok settings := by
  simp only [apply_eq_ok_iff, Mapping.fits_entries_iff, taken, Mapping.given?_entries, h]

theorem value_of_not_mem (h : base.apply d.entries = .ok settings) {setting : Setting}
    (hkey : setting.key ∉ d.keys) : settings.value setting = base.value setting := by
  have hnone : d.get? setting.key = none := by
    rwa [← Dictionary.contains_eq_false_iff, ← Bool.not_eq_true, ← Dictionary.mem_keys_iff]
  have htaken := taken_of_apply h setting
  rw [taken, Mapping.given?_entries, hnone] at htaken
  exact (Except.ok.inj htaken).symm

-- One mapping after the other is the first one with the values of the second.
theorem apply_insertAll (hfirst : base.apply d.entries = .ok middle)
    (hsecond : middle.apply e.entries = .ok last) :
    base.apply (d.insertAll e.entries).entries = .ok last := by
  obtain ⟨hdfits, hmiddle⟩ := apply_eq_ok_iff.mp hfirst
  obtain ⟨hefits, hlast⟩ := apply_eq_ok_iff.mp hsecond
  rw [Mapping.fits_entries_iff] at hdfits hefits
  refine apply_eq_ok_iff.mpr ⟨?_, fun setting => ?_⟩
  · rw [Mapping.fits_entries_iff]
    intro key value hvalue
    rw [Dictionary.get?_insertAll_entries, Option.or_eq_some_iff] at hvalue
    rcases hvalue with hvalue | ⟨-, hvalue⟩
    · exact hefits key value hvalue
    · exact hdfits key value hvalue
  · rw [← hlast setting, taken, taken, Mapping.given?_entries, Mapping.given?_entries,
      Dictionary.get?_insertAll_entries]
    cases e.get? setting.key with
    | some value => rfl
    | none =>
        rw [← hmiddle setting, taken, Mapping.given?_entries]
        rfl

end Composition

-- Mappings compose. Two of them, one after the other, have the effect of the first one overridden
-- by the second, leave alone what neither has a key for, and may give their keys in any order.
-- Whether a mapping is accepted and what it is refused with are the same for all settings.
theorem apply_composes (base : Settings) (first second : Dictionary String Datum) :
    (∀ middle last, base.apply first.entries = .ok middle →
      middle.apply second.entries = .ok last →
        base.apply (first.insertAll second.entries).entries = .ok last ∧
        ∀ setting : Setting, setting.key ∉ first.keys → setting.key ∉ second.keys →
          last.value setting = base.value setting) ∧
    (∀ reordered : Dictionary String Datum, reordered.entries.Perm first.entries → ∀ settings,
      (base.apply reordered.entries = .ok settings ↔ base.apply first.entries = .ok settings)) ∧
    (∀ mapping failure, base.apply mapping = .error failure ↔ mapping.Refuses failure) ∧
    ∀ (other : Settings) (mapping : Mapping),
      error? (other.apply mapping) = error? (base.apply mapping) := by
  refine ⟨fun middle last hfirst hsecond => ⟨apply_insertAll hfirst hsecond, ?_⟩,
    fun reordered hperm settings => apply_congr ?_, fun mapping failure => apply_eq_error_iff, ?_⟩
  · intro setting hkey hkey'
    rw [value_of_not_mem hsecond hkey', value_of_not_mem hfirst hkey]
  · intro key
    exact Dictionary.get?_of_perm hperm key
  · intro other mapping
    ext failure
    rw [error?_eq_some_iff, error?_eq_some_iff, apply_eq_error_iff, apply_eq_error_iff]

-- The owner of the first mapping is taken back by the second one, and its database stays.
theorem apply_composes_overridden :
    let base : Settings := { basePath := "s3://lake" }
    let first : Dictionary String Datum :=
      .ofList [("database_name", .text " raw "), ("owner", .text "etl")]
    let second : Dictionary String Datum :=
      .ofList [("create_external_table", .text "No"), ("owner", .text " ")]
    let reordered : Dictionary String Datum :=
      .ofList [("owner", .text "etl"), ("database_name", .text " raw ")]
    ∃ middle last, base.apply first.entries = .ok middle ∧
      middle.apply second.entries = .ok last ∧
      base.apply (first.insertAll second.entries).entries = .ok last ∧
      last.value .basePath = base.value .basePath ∧
      reordered.entries.Perm first.entries ∧ base.apply reordered.entries = .ok middle := by
  intro base first second reordered
  have hmiddle : (base.apply first.entries).toOption =
      some { base with databaseName := "raw", owner := some "etl" } := by decide +kernel
  have hlast : (({ base with databaseName := "raw", owner := some "etl" } : Settings).apply
      second.entries).toOption =
        some { base with databaseName := "raw", externalTables := false } := by decide +kernel
  have hperm : reordered.entries.Perm first.entries := .swap _ _ _
  obtain ⟨hcomposes, horder, -⟩ := apply_composes base first second
  have hfirst := eq_ok_of_toOption hmiddle
  have hsecond := eq_ok_of_toOption hlast
  obtain ⟨hboth, hkept⟩ := hcomposes _ _ hfirst hsecond
  exact ⟨_, _, hfirst, hsecond, hboth, hkept .basePath (by decide) (by decide), hperm,
    (horder reordered hperm _).mpr hfirst⟩

end Settings

end CatalogSync
