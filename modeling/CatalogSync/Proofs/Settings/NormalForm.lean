import CatalogSync.Proofs.Settings.Spelling

namespace CatalogSync

open CatalogSync.Text Traversal

-- Settings as they are loaded: no text has white space around it, and only the base path may be
-- empty.
structure Settings.IsNormal (settings : Settings) : Prop where
  databaseName : IsName settings.databaseName
  basePath : IsTight settings.basePath
  partitionFields : ∀ field ∈ settings.partitionFields, IsName field
  partitionExtractor : IsName settings.partitionExtractor
  defaultFileSystem : ∀ text ∈ settings.defaultFileSystem, IsName text
  owner : ∀ text ∈ settings.owner, IsName text

namespace Update

variable {key : String} {value : Datum}

theorem isName_trim {s : String} (h : trim s ≠ "") : IsName (trim s) := ⟨h, isTight_trim s⟩

theorem isName_of_toText {s : String} (h : toText key value = .ok s) : IsName s := by
  cases value with
  | text given =>
      rw [toText] at h
      split at h
      · cases h
      · next hthere =>
        obtain rfl := Except.ok.inj h
        exact isName_trim hthere
  | _ => cases h

theorem isName_of_toOptionalText {text : Option String} (h : toOptionalText key value = .ok text) :
    ∀ s ∈ text, IsName s := by
  cases value with
  | null =>
      obtain rfl := Except.ok.inj h
      exact nofun
  | text given =>
      obtain rfl := Except.ok.inj h
      split
      · exact nofun
      · next hthere =>
        rintro _ ⟨⟩
        exact isName_trim hthere
  | _ => cases h

theorem isName_of_toFields {fields : List String} (h : toFields key value = .ok fields) :
    ∀ field ∈ fields, IsName field := by
  have hnamed : ∀ parts : List String, ∀ field ∈ (parts.map trim).filter (· ≠ ""),
      IsName field := by
    intro parts field hfield
    obtain ⟨htrimmed, hthere⟩ := List.mem_filter.mp hfield
    obtain ⟨part, -, rfl⟩ := List.mem_map.mp htrimmed
    exact isName_trim (of_decide_eq_true hthere)
  cases value with
  | text s =>
      obtain rfl := Except.ok.inj h
      exact hnamed _
  | list items =>
      simp only [toFields] at h
      split at h
      · obtain rfl := Except.ok.inj h
        exact hnamed _
      · cases h
  | _ => cases h

theorem areWritable_texts (texts : List String) :
    Datum.areWritable (texts.map Datum.text) = true := by
  induction texts with
  | nil => rfl
  | cons s texts ih =>
      simp only [List.map_cons, Datum.areWritable, Datum.isWritable, ih, Bool.and_self]

theorem toFields_texts_eq_ok_iff {fields : List String} :
    toFields key (.list (fields.map .text)) = .ok fields ↔ ∀ field ∈ fields, IsName field := by
  refine ⟨isName_of_toFields, fun h => ?_⟩
  have hplain : (fields.map Datum.text).map Datum.plain = fields := by
    rw [List.map_map]
    exact List.map_id' fields
  have htrim : fields.map trim = fields := map_trim_eq_self fun field hfield => (h field hfield).2
  simp only [toFields, Datum.isWritable, areWritable_texts, if_true, hplain, htrim]
  exact congrArg Except.ok (List.filter_eq_self.mpr fun field hfield => by
    simpa using (h field hfield).1)

end Update

namespace Setting

theorem keeps_fields_iff {fields : List String} :
    partitionFields.Keeps (.list (fields.map .text)) ↔ ∀ field ∈ fields, IsName field := by
  rw [Keeps, coerce, map_eq_ok_iff]
  simp only [Datum.list.injEq, Datum.map_text_inj, exists_eq_right]
  exact Update.toFields_texts_eq_ok_iff

-- What a setting takes from a value it keeps when it is given again.
theorem keeps_of_coerce {setting : Setting} {value taken : Datum}
    (h : setting.coerce value = .ok taken) : setting.Keeps taken := by
  cases setting with
  | databaseName | basePath | partitionExtractor =>
      obtain ⟨s, hs, rfl⟩ := map_eq_ok_iff.mp h
      exact (keeps_text_iff fun _ => rfl).mpr (Update.isName_of_toText hs)
  | partitionFields =>
      obtain ⟨fields, hfields, rfl⟩ := map_eq_ok_iff.mp h
      exact keeps_fields_iff.mpr (Update.isName_of_toFields hfields)
  | batchSize | externalTables | supportTimestamp =>
      obtain ⟨found, -, rfl⟩ := map_eq_ok_iff.mp h
      rfl
  | defaultFileSystem | owner =>
      obtain ⟨text, htext, rfl⟩ := map_eq_ok_iff.mp h
      exact (keeps_optional_iff fun _ => rfl).mpr (Update.isName_of_toOptionalText htext)

end Setting

namespace Settings

variable {base settings : Settings} {mapping : Mapping}

theorem isNormal_iff : settings.IsNormal ↔ ∀ setting : Setting,
    setting.Keeps (settings.value setting) ∨
      setting = .basePath ∧ settings.value setting = .text "" := by
  have hbase : Setting.basePath.Keeps (.text settings.basePath) ∨ settings.basePath = "" ↔
      IsTight settings.basePath := by
    rw [Setting.keeps_text_iff fun _ => rfl]
    by_cases hs : settings.basePath = ""
    · simp [hs, IsTight]
    · simp [hs, IsName]
  constructor
  · intro h setting
    cases setting with
    | databaseName => exact .inl ((Setting.keeps_text_iff fun _ => rfl).mpr h.databaseName)
    | basePath =>
        exact (hbase.mpr h.basePath).imp_right fun hempty => ⟨rfl, congrArg Datum.text hempty⟩
    | partitionFields => exact .inl (Setting.keeps_fields_iff.mpr h.partitionFields)
    | partitionExtractor =>
        exact .inl ((Setting.keeps_text_iff fun _ => rfl).mpr h.partitionExtractor)
    | batchSize | externalTables | supportTimestamp => exact .inl rfl
    | defaultFileSystem =>
        exact .inl ((Setting.keeps_optional_iff fun _ => rfl).mpr h.defaultFileSystem)
    | owner => exact .inl ((Setting.keeps_optional_iff fun _ => rfl).mpr h.owner)
  · intro h
    have hkeeps : ∀ setting : Setting, setting ≠ .basePath →
        setting.Keeps (settings.value setting) := fun setting hs =>
      (h setting).resolve_right fun hbase => hs hbase.1
    exact {
      databaseName := (Setting.keeps_text_iff fun _ => rfl).mp (hkeeps .databaseName (by decide))
      basePath := hbase.mp ((h .basePath).imp_right fun hempty => Datum.text.inj hempty.2)
      partitionFields := Setting.keeps_fields_iff.mp (hkeeps .partitionFields (by decide))
      partitionExtractor :=
        (Setting.keeps_text_iff fun _ => rfl).mp (hkeeps .partitionExtractor (by decide))
      defaultFileSystem :=
        (Setting.keeps_optional_iff fun _ => rfl).mp (hkeeps .defaultFileSystem (by decide))
      owner := (Setting.keeps_optional_iff fun _ => rfl).mp (hkeeps .owner (by decide)) }

theorem isNormal_defaults : ({} : Settings).IsNormal where
  databaseName := by decide +kernel
  basePath := trim_eq_self_iff.mp (by decide +kernel)
  partitionFields := nofun
  partitionExtractor := by decide +kernel
  defaultFileSystem := nofun
  owner := nofun

-- A setting has taken its value from the mapping, or still has the one that it had before.
theorem isNormal_apply (hbase : base.IsNormal) (h : base.apply mapping = .ok settings) :
    settings.IsNormal := by
  rw [isNormal_iff] at hbase ⊢
  intro setting
  have htaken := taken_of_apply h setting
  rw [taken] at htaken
  split at htaken
  · exact .inl (Setting.keeps_of_coerce htaken)
  · rw [← Except.ok.inj htaken]
    exact hbase setting

theorem applySection_eq_ok {content : Datum} (h : base.applySection content = .ok settings) :
    settings = base ∨ ∃ entries, content = .table entries ∧ base.apply entries = .ok settings := by
  rw [applySection.eq_def] at h
  dsimp only at h
  split at h
  · exact .inl (Except.ok.inj h).symm
  · split at h
    · next entries _ => exact .inr ⟨entries, rfl, h⟩
    · split at h <;> cases h
    · split at h
      · split at h <;> cases h
      · cases h
    · cases h

theorem isNormal_ofFiles {files : Files} {names : List String}
    (h : ofFiles files names = .ok settings) : settings.IsNormal := by
  induction names with
  | nil =>
      obtain rfl := Except.ok.inj h
      exact isNormal_defaults
  | cons name names ih =>
      rw [ofFiles] at h
      obtain ⟨part, -, hpart⟩ := bind_eq_ok_iff.mp h
      split at hpart
      · exact ih hpart
      · rcases applySection_eq_ok hpart with rfl | ⟨entries, -, hentries⟩
        · exact isNormal_defaults
        · exact isNormal_apply isNormal_defaults hentries

theorem isNormal_ofPath {files : Files} {path : Option String}
    (h : ofPath files path = .ok settings) : settings.IsNormal := by
  cases path with
  | none => exact isNormal_ofFiles h
  | some explicit =>
      rw [ofPath] at h
      split at h
      · cases h
      · exact isNormal_ofFiles h

theorem isNormal_load {files : Files} {environment : Environment} {path : Option String}
    (h : load files environment path = .ok settings) : settings.IsNormal := by
  obtain ⟨loaded, hloaded, henvironment⟩ := bind_eq_ok_iff.mp h
  exact isNormal_apply (isNormal_ofPath hloaded) henvironment

theorem given?_mapping (settings : Settings) (setting : Setting) :
    settings.mapping.given? setting.key = some (settings.value setting) := by
  have hgiven := Mapping.given?_filterMap (fun other => some (settings.value other)) Setting.all
    setting
  rw [if_pos (Setting.mem_all setting)] at hgiven
  rw [← hgiven, mapping, ← List.filterMap_eq_map]
  rfl

-- The mapping of settings gives them to any others if each setting keeps its value.
theorem apply_mapping_eq_ok_iff (other : Settings) :
    other.apply settings.mapping = .ok settings ↔
      ∀ setting : Setting, setting.Keeps (settings.value setting) := by
  simp only [apply_eq_ok_iff, taken, given?_mapping]
  refine and_iff_right_of_imp fun h => ?_
  rw [mapping, Mapping.Fits, List.forall_mem_map]
  exact fun setting _ => ⟨setting, rfl, _, h setting⟩

theorem IsNormal.apply_mapping_iff (h : settings.IsNormal) (other : Settings) :
    other.apply settings.mapping = .ok settings ↔ settings.basePath ≠ "" := by
  rw [apply_mapping_eq_ok_iff]
  constructor
  · intro hkeeps
    exact ((Setting.keeps_text_iff fun _ => rfl).mp (hkeeps .basePath)).1
  · intro hbase setting
    refine (isNormal_iff.mp h setting).resolve_right ?_
    rintro ⟨rfl, hempty⟩
    exact hbase (Datum.text.inj hempty)

-- Loaded settings are in their normal form. Given to any other settings they are taken over as
-- they are, unless their base path is empty, which no mapping can ask for.
theorem load_normal_form (files : Files) (environment : Environment) (path : Option String)
    (settings : Settings) (h : load files environment path = .ok settings) :
    settings.IsNormal ∧
      ∀ other : Settings, other.apply settings.mapping = .ok settings ↔ settings.basePath ≠ "" :=
  ⟨isNormal_load h, (isNormal_load h).apply_mapping_iff⟩

-- Blanks around texts and items of a list, among them a number and an empty text.
theorem load_normal_form_blanks :
    let bytes :=
      "base_path = ' s3://lake '\npartition_fields = [' day', 7, ' ']\nowner = ' '\n".toUTF8
    let files : Files := fun name =>
      if name = "metasync.toml" then .ofBytes bytes else .missing
    let environment : Environment := fun name =>
      if name = "METASYNC_DATABASE_NAME" then some " raw\t" else none
    let settings : Settings :=
      { databaseName := "raw", basePath := "s3://lake", partitionFields := ["day", "7"] }
    load files environment none = .ok settings ∧ settings.IsNormal ∧
      ({} : Settings).apply settings.mapping = .ok settings := by
  intro bytes files environment settings
  have hloaded : (load files environment none).toOption = some settings := by decide +kernel
  have hload := eq_ok_of_toOption hloaded
  obtain ⟨hnormal, hsame⟩ := load_normal_form files environment none settings hload
  exact ⟨hload, hnormal, (hsame {}).mpr (by decide)⟩

end Settings

end CatalogSync
