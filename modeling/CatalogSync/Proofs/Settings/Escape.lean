import CatalogSync.Proofs.Settings.Composition
import CatalogSync.Proofs.Settings.Precedence

namespace CatalogSync

open Traversal

-- The problem of a value with which a computation fails as it comes.
def escaped? {α : Type} : Except Failure α → Option ValueProblem
  | .error ⟨.value problem, _⟩ => some problem
  | _ => none

-- A result is there, or it is a failure of the settings, or it is one of the problems of values
-- that escape, and all of these do.
structure Contained {α : Type} (result : Except Failure α) (escapes : ValueProblem → Prop) :
    Prop where
  escaped_iff : ∀ problem, escaped? result = some problem ↔ escapes problem
  covers : ∀ failure, result = .error failure →
    (∃ problem, failure.problem = .config problem) ∨ ∃ problem, failure.problem = .value problem

section Contained

variable {α β : Type} {result : Except Failure α} {escapes others : ValueProblem → Prop}

theorem escaped?_eq_some_iff {problem : ValueProblem} : escaped? result = some problem ↔
    ∃ causes, result = .error ⟨.value problem, causes⟩ := by
  constructor
  · intro h
    rw [escaped?.eq_def] at h
    split at h
    · obtain rfl := Option.some.inj h
      exact ⟨_, rfl⟩
    · cases h
  · rintro ⟨causes, rfl⟩
    rfl

namespace Contained

theorem congr (h : Contained result escapes) (hsame : ∀ problem, others problem ↔ escapes problem) :
    Contained result others :=
  ⟨fun problem => (h.escaped_iff problem).trans (hsame problem).symm, h.covers⟩

theorem ok (value : α) : Contained (.ok value) fun _ => False :=
  ⟨fun _ => iff_of_false nofun id, nofun⟩

theorem not_of_ok {value : α} (h : Contained (.ok value) escapes) (problem : ValueProblem) :
    ¬ escapes problem := by
  intro hescapes
  cases (h.escaped_iff problem).mpr hescapes

theorem config (problem : ConfigProblem) (causes : List Problem) :
    Contained (.error ⟨.config problem, causes⟩ : Except Failure α) fun _ => False := by
  refine ⟨fun _ => iff_of_false nofun id, ?_⟩
  rintro _ ⟨⟩
  exact .inl ⟨problem, rfl⟩

theorem value (problem : ValueProblem) (causes : List Problem) :
    Contained (.error ⟨.value problem, causes⟩ : Except Failure α) (· = problem) := by
  refine ⟨fun other => ?_, ?_⟩
  · rw [escaped?, Option.some.injEq, eq_comm]
  · rintro _ ⟨⟩
    exact .inr ⟨problem, rfl⟩

-- Computations that fail alike are contained alike.
theorem of_error_iff {other : Except Failure β} (h : Contained result escapes)
    (hsame : ∀ failure, other = .error failure ↔ result = .error failure) :
    Contained other escapes := by
  refine ⟨fun problem => ?_, fun failure hfailure => h.covers failure ((hsame failure).mp hfailure)⟩
  rw [← h.escaped_iff, escaped?_eq_some_iff, escaped?_eq_some_iff]
  simp only [hsame]

theorem map (h : Contained result escapes) (f : α → β) : Contained (result.map f) escapes :=
  h.of_error_iff fun _ => map_eq_error_iff

theorem bind {f : α → Except Failure β} {later : α → ValueProblem → Prop}
    (h : Contained result escapes) (hlater : ∀ value, Contained (f value) (later value)) :
    Contained (result >>= f) fun problem =>
      escapes problem ∨ ∃ value, result = .ok value ∧ later value problem := by
  cases result with
  | error failure =>
      have hfails : Contained (Except.error failure >>= f) escapes :=
        h.of_error_iff fun other => by simp [bind_eq_error_iff]
      exact hfails.congr fun problem => by simp
  | ok value => exact (hlater value).congr fun problem => by simp [h.not_of_ok]

theorem leadingTo {failure : Failure} (h : Contained (.error failure : Except Failure α) escapes)
    (cause : Failure) :
    Contained (.error (cause.leadingTo failure.problem) : Except Failure α) escapes := by
  obtain ⟨problem, causes⟩ := failure
  refine ⟨fun found => ?_, ?_⟩
  · rw [← h.escaped_iff, escaped?_eq_some_iff, escaped?_eq_some_iff]
    simp [Failure.leadingTo]
  · rintro _ ⟨⟩
    exact h.covers ⟨problem, causes⟩ rfl

end Contained

end Contained

namespace Setting

-- The settings that whole numbers can be given to, however long they are.
def numeric : List Setting := [batchSize, externalTables, supportTimestamp]

-- A value escapes from a setting if it is an infinite batch size, or if it cannot be written where
-- this is needed, be it for the message that refuses it.
def Escapes (setting : Setting) (value : Datum) (problem : ValueProblem) : Prop :=
  (setting = batchSize ∧ ∃ negative, value = .float (.infinite negative)) ∧
      problem = .infiniteNumber ∨
    (value.isWritable = false ∧ ∀ n, value = .integer n → setting ∉ numeric) ∧
      problem = .longNumeral

end Setting

namespace Update

variable {key : String}

theorem contained_unfit {α : Type} (problem : Datum → ConfigProblem) (value : Datum) :
    Contained (.error (unfit problem value) : Except Failure α) fun found =>
      value.isWritable = false ∧ found = .longNumeral := by
  rw [unfit]
  split
  · next h => exact (Contained.config _ _).congr (by simp [h])
  · next h => exact (Contained.value _ _).congr (by simp [h])

theorem contained_toText (value : Datum) : Contained (toText key value) fun problem =>
    value.isWritable = false ∧ problem = .longNumeral := by
  cases value with
  | text s =>
      rw [toText]
      split
      · exact (Contained.config _ _).congr (by simp [Datum.isWritable])
      · exact (Contained.ok _).congr (by simp [Datum.isWritable])
  | _ => exact contained_unfit _ _

theorem contained_toOptionalText (value : Datum) :
    Contained (toOptionalText key value) fun problem =>
      value.isWritable = false ∧ problem = .longNumeral := by
  cases value with
  | null => exact (Contained.ok _).congr (by simp [Datum.isWritable])
  | text s => exact (Contained.ok _).congr (by simp [Datum.isWritable])
  | _ => exact contained_unfit _ _

theorem contained_toFields (value : Datum) : Contained (toFields key value) fun problem =>
    value.isWritable = false ∧ problem = .longNumeral := by
  cases value with
  | text s => exact (Contained.ok _).congr (by simp [Datum.isWritable])
  | list items =>
      simp only [toFields]
      split
      · next h => exact (Contained.ok _).congr (by simp [h])
      · next h => exact (Contained.value _ _).congr (by simp [h])
  | _ => exact contained_unfit _ _

theorem contained_toSwitch (value : Datum) : Contained (toSwitch key value) fun problem =>
    (value.isWritable = false ∧ ∀ n, value ≠ .integer n) ∧ problem = .longNumeral := by
  cases value with
  | boolean b => exact (Contained.ok _).congr (by simp [Datum.isWritable])
  | integer n => exact (Contained.ok _).congr (by simp)
  | text s =>
      rw [toSwitch]
      split
      · exact (Contained.ok _).congr (by simp [Datum.isWritable])
      · split
        · exact (Contained.ok _).congr (by simp [Datum.isWritable])
        · exact (Contained.config _ _).congr (by simp [Datum.isWritable])
  | _ => exact (contained_unfit _ _).congr (by simp)

theorem contained_toInteger (value : Datum) : Contained (toInteger key value) fun problem =>
    (∃ negative, value = .float (.infinite negative)) ∧ problem = .infiniteNumber ∨
      (value.isWritable = false ∧ ∀ n, value ≠ .integer n) ∧ problem = .longNumeral := by
  have hrefused := contained_unfit (α := Int) (.notInteger key) value
  cases value with
  | boolean b => exact hrefused.congr (by simp)
  | integer n => exact (Contained.ok _).congr (by simp)
  | float x =>
      cases x with
      | finite negative significand exponent =>
          exact (Contained.ok _).congr (by simp [Datum.isWritable])
      | infinite negative => exact (Contained.value _ _).congr (by simp [Datum.isWritable])
      | undefined => exact (hrefused.leadingTo _).congr (by simp)
  | text s =>
      simp only [toInteger, wholeNumber]
      cases Numeral.read? s with
      | some n => exact (Contained.ok _).congr (by simp [Datum.isWritable])
      | none => exact (hrefused.leadingTo _).congr (by simp)
  | _ => exact (hrefused.leadingTo _).congr (by simp)

end Update

-- How a value escapes from a setting.
theorem Setting.contained_coerce (setting : Setting) (value : Datum) :
    Contained (setting.coerce value) (setting.Escapes value) := by
  cases setting with
  | databaseName | basePath | partitionExtractor =>
      exact ((Update.contained_toText value).map _).congr (by simp [Escapes, numeric])
  | partitionFields =>
      exact ((Update.contained_toFields value).map _).congr (by simp [Escapes, numeric])
  | batchSize =>
      exact ((Update.contained_toInteger value).map _).congr (by simp [Escapes, numeric])
  | externalTables | supportTimestamp =>
      exact ((Update.contained_toSwitch value).map _).congr (by simp [Escapes, numeric])
  | defaultFileSystem | owner =>
      exact ((Update.contained_toOptionalText value).map _).congr (by simp [Escapes, numeric])

-- The setting of the first value that does not fit is one from which the value escapes.
def Mapping.FirstEscapes (mapping : Mapping) (problem : ValueProblem) : Prop :=
  ∃ before setting value after, mapping = before ++ (Setting.key setting, value) :: after ∧
    Mapping.Fits before ∧ setting.Escapes value problem

-- Unknown keys come first: where there are any, no value is looked at.
def Mapping.Escapes (mapping : Mapping) (problem : ValueProblem) : Prop :=
  (∀ entry ∈ mapping, ∃ setting : Setting, setting.key = entry.1) ∧ mapping.FirstEscapes problem

namespace Settings

-- A mapping escapes where it is refused with a problem that its first value escapes with.
theorem contained_apply (base : Settings) (mapping : Mapping) :
    Contained (base.apply mapping) mapping.Escapes := by
  refine ⟨fun problem => ?_, fun failure hfailure => ?_⟩
  · simp only [escaped?_eq_some_iff, apply_eq_error_iff]
    constructor
    · rintro ⟨causes, hrefuses⟩
      cases hrefuses with
      | @value before after setting value _ hknown hsplit hfits hvalue =>
          have hescapes := ((setting.contained_coerce value).escaped_iff problem).mp
            (escaped?_eq_some_iff.mpr ⟨causes, hvalue⟩)
          exact ⟨areUnknown_nil_iff.mp hknown, before, setting, value, after, hsplit, hfits,
            hescapes⟩
    · rintro ⟨hknown, before, setting, value, after, hsplit, hfits, hescapes⟩
      obtain ⟨causes, hvalue⟩ := escaped?_eq_some_iff.mp
        (((setting.contained_coerce value).escaped_iff problem).mpr hescapes)
      exact ⟨causes, .value (areUnknown_nil_iff.mpr hknown) hsplit hfits hvalue⟩
  · cases apply_eq_error_iff.mp hfailure with
    | keys => exact .inl ⟨_, rfl⟩
    | @value _ _ setting value _ _ _ _ hvalue =>
        exact (setting.contained_coerce value).covers failure hvalue

-- The texts of variables do not escape.
theorem contained_applyEnvironment (base : Settings) (environment : Environment) (lead : String) :
    Contained (base.applyEnvironment environment lead) fun _ => False := by
  refine (contained_apply base _).congr fun problem => iff_of_false id ?_
  rintro ⟨-, before, setting, value, after, hmapping, -, hescapes⟩
  have hmem : (setting.key, value) ∈ environment.mapping lead := by
    rw [hmapping]
    exact List.mem_append_right _ List.mem_cons_self
  obtain ⟨other, text, -, hentry⟩ := Environment.mem_mapping_iff.mp hmem
  obtain ⟨-, rfl⟩ := Prod.mk.inj hentry
  simp [Setting.Escapes, Datum.isWritable] at hescapes

-- What escapes from a section of settings, or from what stands instead of it. A list is taken for
-- its keys, and a text for its characters, none of which is a key.
def SectionEscapes (content : Datum) (problem : ValueProblem) : Prop :=
  match content with
  | .table entries => Mapping.Escapes entries problem
  | .text _ => False
  | .list items =>
    (items ≠ [] ∧ ∀ item ∈ items, ∃ setting : Setting, item = .text setting.key) ∧
        problem = .notTable ∨
      (∃ item ∈ items, ∀ s, item ≠ .text s) ∧ problem = .notKeys
  | content => content.isEmpty = false ∧ problem = .notKeys

-- What escapes from files of settings: a file that holds no text or no readable document, something
-- else instead of a section for tools, or something in the first section that is not empty.
inductive Escapes (files : Files) : List String → ValueProblem → Prop
  | broken {name : String} {names : List String} {problem : ValueProblem} :
      files name = .broken problem → Escapes files (name :: names) problem
  | tools {name : String} {names : List String} {entries : Mapping} {tool : Datum} :
      files name = .document entries → fileName name = projectFile →
      entries.lookup "tool" = some tool → (∀ tools, tool ≠ .table tools) →
      Escapes files (name :: names) .notTable
  | part {name : String} {names : List String} {content : Datum} {problem : ValueProblem} :
      filePart files name = .ok content → SectionEscapes content problem →
      Escapes files (name :: names) problem
  | later {name : String} {names : List String} {content : Datum} {problem : ValueProblem} :
      filePart files name = .ok content → content.isEmpty = true →
      Escapes files names problem → Escapes files (name :: names) problem

theorem allTexts?_eq_some_iff {items : List Datum} {texts : List String} :
    allTexts? items = some texts ↔ items = texts.map .text := by
  fun_induction allTexts? items generalizing texts with
  | case1 => cases texts <;> simp
  | case2 s items ih =>
      cases texts with
      | nil => simp
      | cons head tail => simp [ih, and_left_comm]
  | case3 item items hother =>
      refine iff_of_false nofun fun h => ?_
      cases texts with
      | nil => cases h
      | cons s texts => exact hother s (List.cons.inj h).1

theorem allTexts?_eq_none_iff {items : List Datum} :
    allTexts? items = none ↔ ∃ item ∈ items, ∀ s, item ≠ .text s := by
  fun_induction allTexts? items with
  | case1 => simp
  | case2 s items ih => simp [ih]
  | case3 item items hother => exact iff_of_true rfl ⟨item, List.mem_cons_self, hother⟩

-- A text has no setting's key among its characters.
theorem not_key_singleton (c : Char) (setting : Setting) : setting.key ≠ String.singleton c := by
  intro h
  have hlength := congrArg String.length h
  rw [String.length_singleton] at hlength
  cases setting <;> exact absurd hlength (by decide)

theorem not_sectionEscapes {content : Datum} (h : content.isEmpty = true) {problem : ValueProblem} :
    ¬ SectionEscapes content problem := by
  cases content with
  | table entries =>
      have hnil : entries = [] := by simpa [Datum.isEmpty] using h
      simp [SectionEscapes, Mapping.Escapes, Mapping.FirstEscapes, hnil]
  | text s => exact id
  | list items =>
      have hnil : items = [] := by simpa [Datum.isEmpty] using h
      simp [SectionEscapes, hnil]
  | _ => simp [SectionEscapes, h]

theorem sectionEscapes_texts_iff {keys : List String} (hne : keys ≠ []) {problem : ValueProblem} :
    SectionEscapes (.list (keys.map .text)) problem ↔
      (∀ key ∈ keys, ∃ setting : Setting, setting.key = key) ∧ problem = .notTable := by
  have hknown : (∀ item ∈ keys.map Datum.text, ∃ setting : Setting, item = .text setting.key) ↔
      ∀ key ∈ keys, ∃ setting : Setting, setting.key = key := by
    simp only [List.forall_mem_map, Datum.text.injEq, eq_comm]
  have htexts : ¬ ∃ item ∈ keys.map Datum.text, ∀ s, item ≠ .text s := by simp
  simp only [SectionEscapes, ne_eq, List.map_eq_nil_iff, hne, not_false_eq_true, true_and, hknown,
    htexts, false_and, or_false]

theorem sectionEscapes_of_other_iff {items : List Datum} (h : ∃ item ∈ items, ∀ s, item ≠ .text s)
    {problem : ValueProblem} : SectionEscapes (.list items) problem ↔ problem = .notKeys := by
  have hunknown : ¬ ∀ item ∈ items, ∃ setting : Setting, item = .text setting.key := by
    intro hknown
    obtain ⟨item, hitem, hother⟩ := h
    obtain ⟨setting, hsetting⟩ := hknown item hitem
    exact hother _ hsetting
  simp only [SectionEscapes, hunknown, and_false, false_and, false_or, h, true_and]

-- Known keys without values are no table, and unknown ones are reported before.
theorem contained_of_keys {α : Type} {result : Except Failure α} (keys : List String)
    (hnone : unknownKeys keys = [] → result = .error (.value .notTable))
    (hsome : unknownKeys keys ≠ [] → result = .error (.config (.unknownKeys (unknownKeys keys)))) :
    Contained result fun problem =>
      (∀ key ∈ keys, ∃ setting : Setting, setting.key = key) ∧ problem = .notTable := by
  by_cases hknown : unknownKeys keys = []
  · rw [hnone hknown]
    have hkeys := unknownKeys_eq_nil_iff.mp hknown
    exact (Contained.value _ _).congr fun problem => and_iff_right hkeys
  · rw [hsome hknown]
    refine (Contained.config _ _).congr fun problem => iff_of_false (fun h => hknown ?_) id
    exact unknownKeys_eq_nil_iff.mpr h.1

theorem contained_applySection (base : Settings) (content : Datum) :
    Contained (base.applySection content) (SectionEscapes content) := by
  rw [applySection.eq_def]
  by_cases hempty : content.isEmpty = true
  · rw [if_pos hempty]
    exact (Contained.ok _).congr fun problem => iff_of_false (not_sectionEscapes hempty) id
  · rw [if_neg hempty]
    cases content <;> dsimp only
    case table entries => exact contained_apply base entries
    case text s =>
      obtain ⟨c, hc⟩ := List.exists_mem_of_ne_nil s.toList (by simpa [Datum.isEmpty] using hempty)
      refine (contained_of_keys (s.toList.map String.singleton) (fun h => by simp only [h])
        fun h => by simp).congr fun problem => iff_of_false id fun h => ?_
      obtain ⟨setting, hkey⟩ := h.1 _ (List.mem_map_of_mem hc)
      exact not_key_singleton c setting hkey
    case list items =>
      cases htexts : allTexts? items with
      | none =>
          have hother := allTexts?_eq_none_iff.mp htexts
          exact (Contained.value _ _).congr fun problem => sectionEscapes_of_other_iff hother
      | some keys =>
          obtain rfl := allTexts?_eq_some_iff.mp htexts
          have hne : keys ≠ [] := by simpa [Datum.isEmpty] using hempty
          exact (contained_of_keys keys (fun h => by simp only [h]) fun h => by simp).congr
            fun problem => sectionEscapes_texts_iff hne
    all_goals exact (Contained.value _ _).congr fun problem => and_iff_right (by simpa using hempty)

theorem contained_filePart (files : Files) (name : String) :
    Contained (filePart files name) fun problem => files name = .broken problem ∨
      (∃ entries tool, files name = .document entries ∧ fileName name = projectFile ∧
        entries.lookup "tool" = some tool ∧ ∀ tools, tool ≠ .table tools) ∧
          problem = .notTable := by
  rw [filePart]
  split
  · next h => exact (Contained.ok _).congr (by simp [h])
  · next h => exact (Contained.config _ _).congr (by simp [h])
  · next h => exact (Contained.value _ _).congr (by simp [h, eq_comm])
  · next entries h =>
    rw [settingsPart]
    split
    · next hname =>
      split
      · next htool => exact (Contained.ok _).congr (by simp [h, htool])
      · next tools htool => exact (Contained.ok _).congr (by simp [h, htool])
      · next tool hother htool =>
        exact (Contained.value _ _).congr (by simpa [h, htool, hname] using hother)
    · next hname =>
      split
      · exact (Contained.ok _).congr (by simp [h, hname])
      · exact (Contained.ok _).congr (by simp [h, hname])

theorem contained_ofFiles (files : Files) (names : List String) :
    Contained (ofFiles files names) (Escapes files names) := by
  induction names with
  | nil => exact (Contained.ok _).congr fun problem => iff_of_false nofun id
  | cons name names ih =>
      rw [ofFiles]
      have hnext : ∀ content, Contained
          (if content.isEmpty then ofFiles files names else applySection {} content) fun problem =>
            content.isEmpty = true ∧ Escapes files names problem ∨
              SectionEscapes content problem := by
        intro content
        split
        · next h => exact ih.congr fun problem => by simp [h, not_sectionEscapes h]
        · next h => exact (contained_applySection {} content).congr fun problem => by simp [h]
      refine ((contained_filePart files name).bind hnext).congr fun problem => ?_
      constructor
      · intro h
        cases h with
        | broken hbroken => exact .inl (.inl hbroken)
        | tools hentries hname htool hother =>
            exact .inl (.inr ⟨⟨_, _, hentries, hname, htool, hother⟩, rfl⟩)
        | part hpart hescapes => exact .inr ⟨_, hpart, .inr hescapes⟩
        | later hpart hempty hescapes => exact .inr ⟨_, hpart, .inl ⟨hempty, hescapes⟩⟩
      · rintro ((hbroken | ⟨⟨entries, tool, hentries, hname, htool, hother⟩, rfl⟩) |
          ⟨content, hpart, ⟨hempty, hescapes⟩ | hescapes⟩)
        · exact .broken hbroken
        · exact .tools hentries hname htool hother
        · exact .later hpart hempty hescapes
        · exact .part hpart hescapes

theorem contained_ofPath (files : Files) (path : Option String) :
    Contained (ofPath files path) (Escapes files (candidates path)) := by
  cases path with
  | none => exact contained_ofFiles files standardFiles
  | some explicit =>
      have hfiles := contained_ofFiles files [normalPath explicit]
      rw [ofPath]
      split
      · next hmissing =>
        have hnothing : ofFiles files [normalPath explicit] = .ok {} := by
          rw [ofFiles, filePart, hmissing]
          rfl
        rw [hnothing] at hfiles
        exact (Contained.config _ _).congr fun problem => iff_of_false (hfiles.not_of_ok problem) id
      · exact hfiles

-- Settings are loaded, or there is a failure of the settings, or something escapes from the files.
-- What escapes from them is never held back, and the environment adds nothing to it.
theorem load_outcome (files : Files) (environment : Environment) (path : Option String) :
    ((∃ settings, load files environment path = .ok settings) ∨
      (∃ problem causes, load files environment path = .error ⟨.config problem, causes⟩) ∨
      ∃ problem, Escapes files (candidates path) problem) ∧
    ∀ problem, (∃ causes, load files environment path = .error ⟨.value problem, causes⟩) ↔
      Escapes files (candidates path) problem := by
  have hload : Contained (load files environment path) (Escapes files (candidates path)) :=
    ((contained_ofPath files path).bind fun settings =>
      contained_applyEnvironment settings environment _).congr fun problem => by simp
  have hescapes := fun problem => escaped?_eq_some_iff.symm.trans (hload.escaped_iff problem)
  refine ⟨?_, hescapes⟩
  cases hresult : load files environment path with
  | ok settings => exact .inl ⟨settings, rfl⟩
  | error failure =>
      obtain ⟨found, causes⟩ := failure
      rcases hload.covers _ hresult with ⟨problem, rfl⟩ | ⟨problem, rfl⟩
      · exact .inr (.inl ⟨problem, causes, rfl⟩)
      · exact .inr (.inr ⟨problem, (hescapes problem).mp ⟨causes, hresult⟩⟩)

-- An infinite batch size is not refused like one that is no number, but escapes.
theorem load_escapes_infinite :
    let bytes := "batch_sync_partition_num = inf\n".toUTF8
    let files : Files := fun name =>
      if name = "metasync.toml" then .ofBytes bytes else .missing
    ∃ causes, load files (fun _ => none) none = .error ⟨.value .infiniteNumber, causes⟩ :=
  escaped?_eq_some_iff.mp (by decide +kernel)

end Settings

end CatalogSync
