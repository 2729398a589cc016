import CatalogSync.Proofs.Traversal
import CatalogSync.Settings.Mapping

namespace CatalogSync

open Traversal

namespace Setting

@[simp] theorem mem_all (setting : Setting) : setting ∈ all := by
  cases setting <;> decide

theorem key_injective {first second : Setting} (h : first.key = second.key) : first = second := by
  cases first <;> cases second <;> first | rfl | exact absurd h (by decide)

theorem ofKey?_eq_some_iff {key : String} {setting : Setting} :
    ofKey? key = some setting ↔ setting.key = key := by
  constructor
  · intro h
    have hkey := List.find?_some h
    exact beq_iff_eq.mp hkey
  · rintro rfl
    cases setting <;> decide

-- The value that a setting takes from a value of a document or of the environment.
def coerce (setting : Setting) (value : Datum) : Except Failure Datum :=
  match setting with
  | databaseName | basePath | partitionExtractor =>
    (Update.toText setting.key value).map .text
  | partitionFields =>
    (Update.toFields setting.key value).map fun fields => .list (fields.map .text)
  | batchSize => (Update.toInteger setting.key value).map .integer
  | externalTables | supportTimestamp => (Update.toSwitch setting.key value).map .boolean
  | defaultFileSystem | owner =>
    (Update.toOptionalText setting.key value).map fun text => (text.map .text).getD .null

end Setting

theorem Datum.map_text_inj {first second : List String} :
    first.map Datum.text = second.map Datum.text ↔ first = second :=
  List.map_inj_right fun _ _ h => Datum.text.inj h

-- A text that may be missing is told by its value.
theorem Datum.optional_inj {first second : Option String} :
    (first.map Datum.text).getD .null = (second.map Datum.text).getD .null ↔ first = second := by
  cases first <;> cases second <;> simp

-- Settings with the same values are the same.
theorem Settings.ext_value {first second : Settings}
    (h : ∀ setting, first.value setting = second.value setting) : first = second := by
  cases first
  cases second
  simp only [Settings.mk.injEq]
  exact ⟨Datum.text.inj (h .databaseName), Datum.text.inj (h .basePath),
    Datum.map_text_inj.mp (Datum.list.inj (h .partitionFields)),
    Datum.text.inj (h .partitionExtractor), Datum.integer.inj (h .batchSize),
    Datum.boolean.inj (h .externalTables), Datum.boolean.inj (h .supportTimestamp),
    Datum.optional_inj.mp (h .defaultFileSystem), Datum.optional_inj.mp (h .owner)⟩

namespace Update

variable {setting : Setting} {value : Datum} {failure : Failure}

theorem ofDatum_eq_error_iff :
    ofDatum setting value = .error failure ↔ setting.coerce value = .error failure := by
  cases setting <;> exact map_eq_error_iff.trans map_eq_error_iff.symm

-- An update gives its setting the value that the setting takes, and leaves the others alone.
theorem ofDatum_ok {update : Update} (h : ofDatum setting value = .ok update) :
    ∃ taken, setting.coerce value = .ok taken ∧ ∀ settings other,
      (update.run settings).value other =
        if other = setting then taken else settings.value other := by
  cases setting <;>
    (obtain ⟨found, hfound, rfl⟩ := map_eq_ok_iff.mp h
     refine ⟨_, congrArg (Except.map _) hfound, fun settings other => ?_⟩
     cases other <;> rfl)

theorem exists_ofDatum_iff :
    (∃ update, ofDatum setting value = .ok update) ↔ ∃ taken, setting.coerce value = .ok taken := by
  constructor
  · rintro ⟨update, hupdate⟩
    obtain ⟨taken, htaken, -⟩ := ofDatum_ok hupdate
    exact ⟨taken, htaken⟩
  · rintro ⟨taken, htaken⟩
    cases hupdate : ofDatum setting value with
    | error failure => exact nomatch htaken.symm.trans (ofDatum_eq_error_iff.mp hupdate)
    | ok update => exact ⟨update, rfl⟩

end Update

namespace Mapping

-- The value that a mapping gives a key: the last one, should it hold the key several times.
def given? (key : String) : Mapping → Option Datum
  | [] => none
  | (name, value) :: rest => (given? key rest).or (if name = key then some value else none)

-- All keys are those of settings, and all settings can take the values.
def Fits (mapping : Mapping) : Prop :=
  ∀ entry ∈ mapping, ∃ setting : Setting, setting.key = entry.1 ∧
    ∃ value, setting.coerce entry.2 = .ok value

end Mapping

namespace Settings

-- The value that a setting has after a mapping, if all of the mapping fits: it takes the one that
-- the mapping gives it, and keeps its own otherwise.
def taken (base : Settings) (mapping : Mapping) (setting : Setting) : Except Failure Datum :=
  match mapping.given? setting.key with
  | some value => setting.coerce value
  | none => .ok (base.value setting)

variable {base settings : Settings} {mapping : Mapping}

theorem unknownKeys_eq_nil_iff {keys : List String} :
    unknownKeys keys = [] ↔ ∀ key ∈ keys, ∃ setting : Setting, setting.key = key := by
  have hsorted : ∀ found : List String, sortedKeys found = [] ↔ found = [] := by
    intro found
    rw [← List.length_eq_zero_iff, sortedKeys, List.length_mergeSort, List.length_eq_zero_iff]
    cases found with
    | nil => simp
    | cons key rest => simp [List.eraseDups_cons]
  rw [unknownKeys, hsorted, List.filter_eq_nil_iff]
  simp only [Option.isNone_iff_eq_none, ← Option.isSome_iff_ne_none, Option.isSome_iff_exists,
    Setting.ofKey?_eq_some_iff]

-- The first entry is left out if its key is unknown, and asks for an update otherwise.
theorem updates_cons_eq_ok_iff {key : String} {value : Datum} {rest : Mapping}
    {found : List Update} : updates ((key, value) :: rest) = .ok found ↔
      (Setting.ofKey? key = none ∧ updates rest = .ok found) ∨
      ∃ setting update others, setting.key = key ∧ Update.ofDatum setting value = .ok update ∧
        updates rest = .ok others ∧ found = update :: others := by
  rw [updates]
  cases hkey : Setting.ofKey? key with
  | none =>
      have hunknown : ∀ setting : Setting, setting.key ≠ key := by
        intro setting hs
        exact nomatch hkey.symm.trans (Setting.ofKey?_eq_some_iff.mpr hs)
      simp [hunknown]
  | some setting =>
      have hunique : ∀ other : Setting, other.key = key ↔ other = setting := by
        intro other
        rw [← Setting.ofKey?_eq_some_iff, hkey, Option.some.injEq, eq_comm]
      simp only [bind_eq_ok_iff, pure, Except.pure, Except.ok.injEq, hunique, reduceCtorEq,
        false_and, false_or]
      constructor
      · rintro ⟨update, hupdate, others, hothers, rfl⟩
        exact ⟨setting, update, others, rfl, hupdate, hothers, rfl⟩
      · rintro ⟨other, update, others, rfl, hupdate, hothers, rfl⟩
        exact ⟨update, hupdate, others, hothers, rfl⟩

theorem exists_updates_iff :
    (∃ found, updates mapping = .ok found) ↔ ∀ entry ∈ mapping, ∀ setting : Setting,
      setting.key = entry.1 → ∃ value, setting.coerce entry.2 = .ok value := by
  induction mapping with
  | nil => exact iff_of_true ⟨[], rfl⟩ (List.forall_mem_nil _)
  | cons entry rest ih =>
      obtain ⟨key, value⟩ := entry
      rw [List.forall_mem_cons, ← ih]
      constructor
      · rintro ⟨found, h⟩
        rcases updates_cons_eq_ok_iff.mp h with
          ⟨hkey, hrest⟩ | ⟨named, update, others, rfl, hupdate, hrest, -⟩
        · refine ⟨fun setting hs => ?_, found, hrest⟩
          exact nomatch hkey.symm.trans (Setting.ofKey?_eq_some_iff.mpr hs)
        · refine ⟨fun setting hs => ?_, others, hrest⟩
          obtain rfl := Setting.key_injective hs
          exact Update.exists_ofDatum_iff.mp ⟨update, hupdate⟩
      · rintro ⟨hfirst, others, hothers⟩
        cases hkey : Setting.ofKey? key with
        | none => exact ⟨others, updates_cons_eq_ok_iff.mpr (.inl ⟨hkey, hothers⟩)⟩
        | some setting =>
            have hs := Setting.ofKey?_eq_some_iff.mp hkey
            obtain ⟨update, hupdate⟩ := Update.exists_ofDatum_iff.mpr (hfirst setting hs)
            exact ⟨_, updates_cons_eq_ok_iff.mpr
              (.inr ⟨setting, update, others, hs, hupdate, hothers, rfl⟩)⟩

-- What is left of the updates of a mapping when all of them have been carried out.
theorem taken_of_updates {found : List Update} (h : updates mapping = .ok found) (base : Settings)
    (setting : Setting) :
    base.taken mapping setting = .ok ((found.foldl Update.run base).value setting) := by
  induction mapping generalizing base found with
  | nil =>
      obtain rfl := Except.ok.inj h
      rfl
  | cons entry rest ih =>
      obtain ⟨key, value⟩ := entry
      rcases updates_cons_eq_ok_iff.mp h with
        ⟨hkey, hrest⟩ | ⟨named, update, others, rfl, hupdate, hrest, rfl⟩
      · have hne : key ≠ setting.key := by
          rintro rfl
          exact nomatch hkey.symm.trans (Setting.ofKey?_eq_some_iff.mpr rfl)
        rw [← ih hrest base, taken, taken, Mapping.given?, if_neg hne, Option.or_none]
      · obtain ⟨value', hvalue, hrun⟩ := Update.ofDatum_ok hupdate
        rw [List.foldl_cons, ← ih hrest (update.run base), taken, taken, Mapping.given?, hrun]
        cases Mapping.given? setting.key rest with
        | some later => rfl
        | none =>
            by_cases hs : setting = named
            · subst hs
              simp [hvalue]
            · have hne : named.key ≠ setting.key := fun hk => hs (Setting.key_injective hk.symm)
              simp [hs, hne]

-- A mapping is accepted whatever the settings are before.
theorem exists_apply_iff (base : Settings) :
    (∃ settings, base.apply mapping = .ok settings) ↔ mapping.Fits := by
  have hknown : unknownKeys (mapping.map Prod.fst) = [] ↔
      ∀ entry ∈ mapping, ∃ setting : Setting, setting.key = entry.1 := by
    rw [unknownKeys_eq_nil_iff, List.forall_mem_map]
  constructor
  · rintro ⟨settings, h⟩
    rw [apply] at h
    split at h
    · next hnone =>
      obtain ⟨found, hfound, -⟩ := map_eq_ok_iff.mp h
      have hvalues := exists_updates_iff.mp ⟨found, hfound⟩
      intro entry hentry
      obtain ⟨setting, hs⟩ := hknown.mp hnone entry hentry
      exact ⟨setting, hs, hvalues entry hentry setting hs⟩
    · cases h
  · intro hfits
    have hnone : unknownKeys (mapping.map Prod.fst) = [] := by
      refine hknown.mpr fun entry hentry => ?_
      obtain ⟨setting, hs, -⟩ := hfits entry hentry
      exact ⟨setting, hs⟩
    obtain ⟨found, hfound⟩ : ∃ found, updates mapping = .ok found := by
      refine exists_updates_iff.mpr fun entry hentry setting hs => ?_
      obtain ⟨other, ho, hvalue⟩ := hfits entry hentry
      obtain rfl := Setting.key_injective (hs.trans ho.symm)
      exact hvalue
    exact ⟨found.foldl Update.run base, by rw [apply, hnone, hfound]; rfl⟩

theorem taken_of_apply (h : base.apply mapping = .ok settings) (setting : Setting) :
    base.taken mapping setting = .ok (settings.value setting) := by
  rw [apply] at h
  split at h
  · obtain ⟨found, hfound, rfl⟩ := map_eq_ok_iff.mp h
    exact taken_of_updates hfound base setting
  · cases h

-- The settings after a mapping that fits are those with the values that it gives.
theorem apply_eq_ok_iff : base.apply mapping = .ok settings ↔
    mapping.Fits ∧ ∀ setting, base.taken mapping setting = .ok (settings.value setting) := by
  constructor
  · intro h
    exact ⟨(exists_apply_iff base).mp ⟨settings, h⟩, taken_of_apply h⟩
  · rintro ⟨hfits, hvalues⟩
    obtain ⟨found, hfound⟩ := (exists_apply_iff base).mpr hfits
    have hsame : found = settings := by
      apply ext_value
      intro setting
      exact Except.ok.inj ((taken_of_apply hfound setting).symm.trans (hvalues setting))
    rw [← hsame]
    exact hfound

theorem apply_nil (base : Settings) : base.apply [] = .ok base :=
  apply_eq_ok_iff.mpr ⟨List.forall_mem_nil _, fun _ => rfl⟩

end Settings

end CatalogSync
