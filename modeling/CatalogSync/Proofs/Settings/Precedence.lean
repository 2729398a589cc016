import CatalogSync.Proofs.Settings.Mapping
import CatalogSync.Settings.Source

namespace CatalogSync

open Traversal

-- The text that the environment has for a setting. An empty variable counts as unset.
def Environment.text? (environment : Environment) (lead : String) (setting : Setting) :
    Option String :=
  (environment (setting.variable lead)).filter (· ≠ "")

-- Nothing is found at a path, or a document in which the section for tools and the section of
-- settings in it are tables, if they are there.
def Source.IsRegular : Source → Prop
  | .missing => True
  | .document entries => ∀ tool, entries.lookup "tool" = some tool → ∃ tools, tool = .table tools ∧
      ∀ part, tools.lookup "metasync" = some part → ∃ found, part = .table found
  | .unreadable _ | .broken _ => False

theorem Environment.mapping_eq (environment : Environment) (lead : String) :
    environment.mapping lead = Setting.all.filterMap fun setting =>
      (environment.text? lead setting).map fun text => (setting.key, .text text) := by
  rw [mapping]
  congr 1
  funext setting
  rw [text?]
  split
  · next h => rw [h]; rfl
  · next h => rw [h]; rfl
  · next text hne h =>
    have hnot : text ≠ "" := fun he => hne he
    simp [h, Option.filter, hnot]

theorem Mapping.given?_filterMap (f : Setting → Option Datum) (settings : List Setting)
    (setting : Setting) :
    given? setting.key (settings.filterMap fun other => (f other).map fun value =>
      (other.key, value)) = if setting ∈ settings then f setting else none := by
  induction settings with
  | nil => rfl
  | cons other rest ih =>
      by_cases hs : setting = other
      · subst hs
        cases hf : f setting with
        | none => simp [hf, ih]
        | some value =>
            by_cases hr : setting ∈ rest <;> simp [hf, given?, ih, hr]
      · have hk : other.key ≠ setting.key := fun hk => hs (Setting.key_injective hk.symm)
        cases hf : f other <;> simp [hf, given?, ih, hs, hk]

theorem Environment.given?_mapping (environment : Environment) (lead : String)
    (setting : Setting) : (environment.mapping lead).given? setting.key =
      (environment.text? lead setting).map .text := by
  have h := Mapping.given?_filterMap (fun other => (environment.text? lead other).map .text)
    Setting.all setting
  simp only [Option.map_map, Setting.mem_all, if_true] at h
  rw [mapping_eq]
  exact h

theorem Environment.mem_mapping_iff {environment : Environment} {lead : String}
    {entry : String × Datum} : entry ∈ environment.mapping lead ↔
      ∃ setting text, environment.text? lead setting = some text ∧
        entry = (setting.key, .text text) := by
  rw [mapping_eq, List.mem_filterMap]
  simp only [Option.map_eq_some_iff, Setting.mem_all, true_and, @eq_comm _ entry]

theorem Environment.fits_mapping_iff (environment : Environment) (lead : String) :
    (environment.mapping lead).Fits ↔ ∀ setting text, environment.text? lead setting = some text →
      ∃ value, setting.coerce (.text text) = .ok value := by
  constructor
  · intro hfits setting text htext
    obtain ⟨other, hkey, hvalue⟩ := hfits _ (mem_mapping_iff.mpr ⟨setting, text, htext, rfl⟩)
    rwa [Setting.key_injective hkey] at hvalue
  · intro htexts entry hentry
    obtain ⟨setting, text, htext, rfl⟩ := mem_mapping_iff.mp hentry
    exact ⟨setting, rfl, htexts setting text htext⟩

namespace Settings

-- What the environment makes of a setting: it takes the text of its variable, or keeps its value.
theorem taken_mapping (base : Settings) (environment : Environment) (lead : String)
    (setting : Setting) : base.taken (environment.mapping lead) setting =
      match environment.text? lead setting with
      | some text => setting.coerce (.text text)
      | none => .ok (base.value setting) := by
  rw [taken, environment.given?_mapping]
  cases environment.text? lead setting <;> rfl

-- The table of settings in a document: a project file has it in the section for tools, and any other
-- file has it in a section of its own or is nothing but it.
def tableIn (name : String) (entries : Mapping) : Mapping :=
  if fileName name = projectFile then
    match entries.lookup "tool" with
    | some (.table tools) =>
      match tools.lookup "metasync" with
      | some (.table part) => part
      | _ => []
    | _ => []
  else
    match entries.lookup "sync" with
    | some (.table part) => part
    | _ => entries

def tableAt (files : Files) (name : String) : Mapping :=
  match files name with
  | .document entries => tableIn name entries
  | _ => []

-- The files that are looked at for a path: an explicit one alone, or the standard ones.
def candidates : Option String → List String
  | none => standardFiles
  | some path => [normalPath path]

-- The first table that is not empty.
def chosenTable (files : Files) (names : List String) : Mapping :=
  ((names.map (tableAt files)).find? fun entries => !entries.isEmpty).getD []

variable {files : Files}

theorem settingsPart_of_isRegular {entries : Mapping} (name : String)
    (h : (Source.document entries).IsRegular) :
    settingsPart name entries = .ok (.table (tableIn name entries)) ∨
      settingsPart name entries = .ok .null ∧ tableIn name entries = [] := by
  unfold settingsPart tableIn
  split
  · cases hfound : entries.lookup "tool" with
    | none => exact .inr ⟨rfl, rfl⟩
    | some tool =>
        obtain ⟨tools, rfl, hpart⟩ := h tool hfound
        cases hmeta : tools.lookup "metasync" with
        | none => exact .inr ⟨by simp [hmeta], by simp [hmeta]⟩
        | some part =>
            obtain ⟨found, rfl⟩ := hpart part hmeta
            exact .inl (by simp [hmeta])
  · cases entries.lookup "sync" with
    | none => exact .inl rfl
    | some found => cases found <;> exact .inl rfl

-- What a file holds is its table, or nothing and then the table is empty.
theorem filePart_of_isRegular {name : String} (h : (files name).IsRegular) :
    filePart files name = .ok (.table (tableAt files name)) ∨
      filePart files name = .ok .null ∧ tableAt files name = [] := by
  rw [filePart, tableAt]
  cases hsource : files name with
  | missing => exact .inr ⟨rfl, rfl⟩
  | document entries => exact settingsPart_of_isRegular name (hsource ▸ h)
  | unreadable | broken =>
      rw [hsource] at h
      exact h.elim

-- The chosen table is applied to the defaults.
theorem ofFiles_eq {names : List String} (h : ∀ name ∈ names, (files name).IsRegular) :
    ofFiles files names = ({} : Settings).apply (chosenTable files names) := by
  induction names with
  | nil => exact (apply_nil {}).symm
  | cons name names ih =>
      obtain ⟨hfirst, hrest⟩ := List.forall_mem_cons.mp h
      by_cases hempty : tableAt files name = []
      · have hskip : chosenTable files (name :: names) = chosenTable files names := by
          simp [chosenTable, hempty]
        rw [hskip, ← ih hrest, ofFiles]
        rcases filePart_of_isRegular hfirst with hpart | ⟨hpart, -⟩
        · rw [hpart, hempty]
          rfl
        · rw [hpart]
          rfl
      · have htake : chosenTable files (name :: names) = tableAt files name := by
          simp [chosenTable, hempty]
        have hpart := (filePart_of_isRegular hfirst).resolve_right fun hnull => hempty hnull.2
        have hthere : (Datum.table (tableAt files name)).isEmpty = false := by
          simpa [Datum.isEmpty] using hempty
        rw [htake, ofFiles, hpart]
        simp [bind, Except.bind, applySection, hthere]

theorem ofPath_eq_ok_iff {path : Option String} {settings : Settings}
    (h : ∀ name ∈ candidates path, (files name).IsRegular) :
    ofPath files path = .ok settings ↔
      (∀ explicit ∈ path, files (normalPath explicit) ≠ .missing) ∧
      ({} : Settings).apply (chosenTable files (candidates path)) = .ok settings := by
  rw [← ofFiles_eq h]
  cases path with
  | none => exact ⟨fun hp => ⟨nofun, hp⟩, fun hp => hp.2⟩
  | some explicit =>
      rw [ofPath]
      split
      · next hmissing => exact iff_of_false nofun fun hp => hp.1 explicit rfl hmissing
      · next hthere =>
        refine ⟨fun hp => ⟨?_, hp⟩, fun hp => hp.2⟩
        rintro _ ⟨⟩
        exact hthere

section Load

variable {environment : Environment} {path : Option String} {settings : Settings}
  (hregular : ∀ name ∈ candidates path, (files name).IsRegular)

include hregular

theorem load_eq_ok_iff : load files environment path = .ok settings ↔
    (∀ explicit ∈ path, files (normalPath explicit) ≠ .missing) ∧
      ∃ loaded, ({} : Settings).apply (chosenTable files (candidates path)) = .ok loaded ∧
        loaded.apply (environment.mapping Environment.standardPrefix) = .ok settings := by
  rw [load, bind_eq_ok_iff]
  simp only [ofPath_eq_ok_iff hregular, and_assoc, exists_and_left]
  rfl

-- When settings are loaded: an explicit file is there, and the table that counts and the environment
-- fit, each for itself.
theorem exists_load_iff : (∃ settings, load files environment path = .ok settings) ↔
    (∀ explicit ∈ path, files (normalPath explicit) ≠ .missing) ∧
      (chosenTable files (candidates path)).Fits ∧
        ∀ setting text, environment.text? Environment.standardPrefix setting = some text →
          ∃ value, setting.coerce (.text text) = .ok value := by
  simp only [load_eq_ok_iff hregular, ← environment.fits_mapping_iff]
  constructor
  · rintro ⟨settings, hthere, loaded, hloaded, hrest⟩
    exact ⟨hthere, (exists_apply_iff {}).mp ⟨loaded, hloaded⟩,
      (exists_apply_iff loaded).mp ⟨settings, hrest⟩⟩
  · rintro ⟨hthere, htable, htexts⟩
    obtain ⟨loaded, hloaded⟩ := (exists_apply_iff {}).mpr htable
    obtain ⟨settings, hrest⟩ := (exists_apply_iff loaded).mpr htexts
    exact ⟨settings, hthere, loaded, hloaded, hrest⟩

-- The environment goes before the table that counts.
theorem value_of_load (h : load files environment path = .ok settings) (setting : Setting) :
    (match environment.text? Environment.standardPrefix setting with
      | some text => setting.coerce (.text text)
      | none => ({} : Settings).taken (chosenTable files (candidates path)) setting) =
      .ok (settings.value setting) := by
  obtain ⟨-, loaded, hloaded, hrest⟩ := (load_eq_ok_iff hregular).mp h
  have hlast := taken_of_apply hrest setting
  rw [taken_mapping] at hlast
  cases htext : environment.text? Environment.standardPrefix setting with
  | some text => rwa [htext] at hlast
  | none =>
      rw [htext] at hlast
      exact (taken_of_apply hloaded setting).trans hlast

end Load

-- Where the settings come from, each one for itself: from its variable if that is not empty, or else
-- from the table that counts, or else from the defaults. Nothing is loaded unless all of this table
-- fits, also what the environment puts something else in place of, and all of the environment fits.
theorem load_precedence (files : Files) (environment : Environment) (path : Option String)
    (hregular : ∀ name ∈ candidates path, (files name).IsRegular) :
    let text? := environment.text? Environment.standardPrefix
    let table := chosenTable files (candidates path)
    (∀ settings, load files environment path = .ok settings → ∀ setting : Setting,
      (∀ text, text? setting = some text →
        setting.coerce (.text text) = .ok (settings.value setting)) ∧
      (text? setting = none → ∀ value, table.given? setting.key = some value →
        setting.coerce value = .ok (settings.value setting)) ∧
      (text? setting = none → table.given? setting.key = none →
        settings.value setting = ({} : Settings).value setting)) ∧
    (∀ entry ∈ table,
      ((∀ setting : Setting, setting.key ≠ entry.1) ∨
        ∃ (setting : Setting) (failure : Failure), setting.key = entry.1 ∧
          setting.coerce entry.2 = .error failure) →
      ∃ failure, load files environment path = .error failure) ∧
    ((∃ settings, load files environment path = .ok settings) ↔
      (∀ explicit ∈ path, files (normalPath explicit) ≠ .missing) ∧ table.Fits ∧
        ∀ setting text, text? setting = some text →
          ∃ value, setting.coerce (.text text) = .ok value) := by
  intro text? table
  refine ⟨fun settings h setting => ?_, fun entry hentry hbad => ?_, exists_load_iff hregular⟩
  · have hvalue := value_of_load hregular h setting
    refine ⟨fun text htext => ?_, fun htext value hgiven => ?_, fun htext hgiven => ?_⟩
    · rwa [show environment.text? _ setting = _ from htext] at hvalue
    · rwa [show environment.text? _ setting = _ from htext, taken,
        show Mapping.given? setting.key _ = _ from hgiven] at hvalue
    · rw [show environment.text? _ setting = _ from htext, taken,
        show Mapping.given? setting.key _ = _ from hgiven] at hvalue
      exact (Except.ok.inj hvalue).symm
  · cases h : load files environment path with
    | error failure => exact ⟨failure, rfl⟩
    | ok settings =>
        obtain ⟨-, htable, -⟩ := (exists_load_iff hregular).mp ⟨settings, h⟩
        obtain ⟨setting, hkey, value, hvalue⟩ := htable entry hentry
        rcases hbad with hunknown | ⟨other, failure, hother, hrefused⟩
        · exact absurd hkey (hunknown setting)
        · obtain rfl := Setting.key_injective (hkey.trans hother.symm)
          rw [hrefused] at hvalue
          cases hvalue

-- A batch size from the environment, a database from a file and the default extractor. In the
-- second file the batch size is no number, and the environment does not make up for it.
theorem load_precedence_daily :
    let files : Datum → Files := fun size name =>
      if name = "metasync.toml" then
        .document [("sync", .table [("database_name", .text " lake "),
          ("batch_sync_partition_num", size)])]
      else .missing
    let environment : Environment := fun name =>
      if name = "METASYNC_BATCH_SYNC_PARTITION_NUM" then some "7" else none
    (∃ settings, load (files (.integer 5)) environment none = .ok settings ∧
      settings.value .batchSize = .integer 7 ∧ settings.value .databaseName = .text "lake" ∧
      settings.value .partitionExtractor = .text "multi_part_keys") ∧
    ∃ failure, load (files (.boolean true)) environment none = .error failure := by
  intro files environment
  have hregular : ∀ size, ∀ name ∈ candidates none, (files size name).IsRegular := by
    intro size name hname
    rcases List.mem_cons.mp hname with rfl | hlast
    · intro tool htool
      cases htool
    · rw [List.mem_singleton.mp hlast]
      trivial
  have hcases := fun size => load_precedence (files size) environment none (hregular size)
  have hunset : ∀ setting, setting ≠ .batchSize →
      environment.text? Environment.standardPrefix setting = none := by
    intro setting hs
    cases setting <;> first | exact absurd rfl hs | decide +kernel
  refine ⟨?_, ?_⟩
  · obtain ⟨hloads, -, hends⟩ := hcases (.integer 5)
    have hloaded : (load (files (.integer 5)) environment none).toOption =
        some { databaseName := "lake", batchSize := 7 } := by decide +kernel
    have hsettings := hloads _ (eq_ok_of_toOption hloaded)
    have hsize := (hsettings .batchSize).1 "7" (by decide +kernel)
    have hdatabase := (hsettings .databaseName).2.1 (hunset _ nofun) (.text " lake ") rfl
    have hextractor := (hsettings .partitionExtractor).2.2 (hunset _ nofun) rfl
    exact ⟨_, eq_ok_of_toOption hloaded, (Except.ok.inj hsize).symm, (Except.ok.inj hdatabase).symm,
      hextractor⟩
  · obtain ⟨-, hrefuses, -⟩ := hcases (.boolean true)
    refine hrefuses ("batch_sync_partition_num", .boolean true) ?_ (.inr ⟨.batchSize, _, rfl, rfl⟩)
    exact List.mem_cons_of_mem _ List.mem_cons_self

end Settings

end CatalogSync
