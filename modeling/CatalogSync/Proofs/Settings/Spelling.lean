import CatalogSync.Proofs.Numeral
import CatalogSync.Proofs.Settings.Precedence
import CatalogSync.Proofs.Text.Split
import Mathlib.Data.List.Nodup

namespace CatalogSync

open CatalogSync.Text Traversal

-- A text that is there and has no white space around it.
def IsName (s : String) : Prop := s ≠ "" ∧ IsTight s

instance (s : String) : Decidable (IsName s) :=
  decidable_of_iff (s ≠ "" ∧ trim s = s) (and_congr_right fun _ => trim_eq_self_iff)

theorem map_trim_eq_self {texts : List String} (h : ∀ s ∈ texts, IsTight s) :
    texts.map trim = texts :=
  (List.map_congr_left fun s hs => trim_eq_self_iff.mpr (h s hs)).trans (List.map_id' texts)

-- The settings that the texts of variables can stand for.
structure Settings.IsSpellable (settings : Settings) : Prop where
  databaseName : IsName settings.databaseName
  basePath : IsTight settings.basePath
  partitionFields : ∀ field ∈ settings.partitionFields, IsName field ∧ ',' ∉ field.toList
  partitionExtractor : IsName settings.partitionExtractor
  batchSize : (Nat.toDigits 10 settings.batchSize.natAbs).length ≤ 4300
  defaultFileSystem : ∀ text ∈ settings.defaultFileSystem, IsName text
  owner : ∀ text ∈ settings.owner, IsName text

-- Different settings have different variables.
theorem Setting.variable_injective {lead : String} {first second : Setting}
    (h : first.variable lead = second.variable lead) : first = second := by
  have hupper : upper first.key = upper second.key := by simpa [Setting.variable] using h
  have hnodup : (Setting.all.map fun setting => upper setting.key).Nodup := by decide +kernel
  exact List.inj_on_of_nodup_map hnodup (Setting.mem_all _) (Setting.mem_all _) hupper

theorem Environment.ofSettings_variable (lead : String) (settings : Settings) (setting : Setting) :
    Environment.ofSettings lead settings (setting.variable lead) = settings.spelled? setting := by
  have hfound : Setting.all.find? (fun other => other.variable lead == setting.variable lead) =
      some setting := by
    obtain ⟨other, hother⟩ := Option.isSome_iff_exists.mp
      (List.find?_isSome (p := fun other => other.variable lead == setting.variable lead)
        |>.mpr ⟨setting, Setting.mem_all setting, beq_self_eq_true _⟩)
    have hsame := List.find?_some hother
    rw [hother, Setting.variable_injective (beq_iff_eq.mp hsame)]
  rw [Environment.ofSettings, hfound, Option.bind_some]

namespace Update

variable (key : String) {s : String}

theorem toText_eq_ok_iff : toText key (.text s) = .ok s ↔ IsName s := by
  rw [toText, IsName, ← trim_eq_self_iff]
  split
  · next hblank =>
    refine iff_of_false nofun fun h => h.1 ?_
    rw [← h.2, hblank]
  · next hthere =>
    rw [Except.ok.injEq]
    exact ⟨fun h => ⟨fun hnil => hthere (h.trans hnil), h⟩, fun h => h.2⟩

theorem toOptionalText_eq_ok_iff : toOptionalText key (.text s) = .ok (some s) ↔ IsName s := by
  rw [← toText_eq_ok_iff key, toOptionalText, toText]
  split <;> simp

theorem toInteger_text (s : String) : toInteger key (.text s) =
    match Numeral.read? s with
    | some n => .ok n
    | none =>
      .error ((Failure.value (.numeral s)).leadingTo (.config (.notInteger key (.text s)))) := by
  simp only [toInteger, wholeNumber]
  cases Numeral.read? s <;> rfl

theorem toInteger_toString (n : Int) : toInteger key (.text (toString n)) = .ok n ↔
    (Nat.toDigits 10 n.natAbs).length ≤ 4300 := by
  have hread := Numeral.read?_toString n
  rw [Numeral.digitLimit] at hread
  rw [toInteger_text, hread]
  by_cases hlength : (Nat.toDigits 10 n.natAbs).length ≤ 4300
  · simp [hlength]
  · simp [hlength]

-- The parts of a text are names again if they are names and have no comma in them.
theorem toFields_intercalate {fields : List String} (hne : fields ≠ []) :
    toFields key (.text (",".intercalate fields)) = .ok fields ↔
      ∀ field ∈ fields, IsName field ∧ ',' ∉ field.toList := by
  rw [toFields, Except.ok.injEq]
  constructor
  · intro h field hfield
    rw [← h] at hfield
    obtain ⟨htrimmed, hthere⟩ := List.mem_filter.mp hfield
    obtain ⟨part, hpart, rfl⟩ := List.mem_map.mp htrimmed
    exact ⟨⟨by simpa using hthere, isTight_trim part⟩,
      fun hcomma => not_mem_of_mem_split hpart (mem_of_mem_trim hcomma)⟩
  · intro h
    have hsplit : split ',' (",".intercalate fields) = fields :=
      split_intercalate ',' fields hne fun field hfield => (h field hfield).2
    have htrim : fields.map trim = fields :=
      map_trim_eq_self fun field hfield => (h field hfield).1.2
    simp only [hsplit, htrim]
    exact List.filter_eq_self.mpr fun field hfield => by simpa using (h field hfield).1.1

theorem toSwitch_plain (switch : Bool) :
    toSwitch key (.text (Datum.boolean switch).plain) = .ok switch := by
  have hplain : (Datum.boolean switch).plain = if switch then "True" else "False" := by
    cases switch <;> rfl
  have hyes : lower (trim "True") ∈ trueWords := by decide +kernel
  have hno : lower (trim "False") ∉ trueWords := by decide +kernel
  have hfalse : lower (trim "False") ∈ falseWords := by decide +kernel
  rw [hplain]
  cases switch with
  | true => simp only [toSwitch, ite_true, if_pos hyes]
  | false => simp only [toSwitch, Bool.false_eq_true, ite_false, if_neg hno, if_pos hfalse]

end Update

namespace Setting

-- A value that its setting takes as it is.
def Keeps (setting : Setting) (value : Datum) : Prop := setting.coerce value = .ok value

theorem keeps_text_iff {setting : Setting} {s : String}
    (h : ∀ value, setting.coerce value = (Update.toText setting.key value).map .text) :
    setting.Keeps (.text s) ↔ IsName s := by
  rw [Keeps, h, map_eq_ok_iff]
  simp [Update.toText_eq_ok_iff]

theorem keeps_optional_iff {setting : Setting} {text : Option String}
    (h : ∀ value, setting.coerce value =
      (Update.toOptionalText setting.key value).map fun text => (text.map .text).getD .null) :
    setting.Keeps ((text.map .text).getD .null) ↔ ∀ s ∈ text, IsName s := by
  cases text with
  | none => exact iff_of_true (h .null) nofun
  | some s =>
      rw [Keeps, h, map_eq_ok_iff]
      simp only [Datum.optional_inj, exists_eq_right]
      exact (Update.toOptionalText_eq_ok_iff setting.key).trans (by simp)

end Setting

namespace Settings

variable {base settings : Settings} {environment : Environment} {lead : String}

-- Each setting has the value that its variable gives it, or keeps its own.
theorem applyEnvironment_eq_ok_iff : base.applyEnvironment environment lead = .ok settings ↔
    ∀ setting : Setting,
      (match environment.text? lead setting with
        | some text => setting.coerce (.text text)
        | none => .ok (base.value setting)) = .ok (settings.value setting) := by
  rw [applyEnvironment, apply_eq_ok_iff]
  simp only [taken_mapping]
  refine and_iff_right_of_imp fun h => ?_
  refine (environment.fits_mapping_iff lead).mpr fun setting text htext => ?_
  have hvalue := h setting
  rw [htext] at hvalue
  exact ⟨_, hvalue⟩

-- The setting that is read off the text that spells it is the same again.
def IsReadBack (settings : Settings) (setting : Setting) : Prop :=
  (match (settings.spelled? setting).filter (· ≠ "") with
    | some text => setting.coerce (.text text)
    | none => .ok (({} : Settings).value setting)) = .ok (settings.value setting)

section ReadBack

theorem isReadBack_of_spelled {setting : Setting} {s : String}
    (hspelled : settings.spelled? setting = some s) (hs : s ≠ "") : settings.IsReadBack setting ↔
      setting.coerce (.text s) = .ok (settings.value setting) := by
  rw [IsReadBack, hspelled, Option.filter_some_pos (by simpa using hs)]

theorem isReadBack_of_unset {setting : Setting}
    (hspelled : settings.spelled? setting = some "" ∨ settings.spelled? setting = none) :
    settings.IsReadBack setting ↔ ({} : Settings).value setting = settings.value setting := by
  rcases hspelled with h | h <;> simp [IsReadBack, h, Option.filter]

-- A text is read back if it is a name, or if it is missing and would be so without a variable.
theorem isReadBack_text {setting : Setting} {s : String} (hvalue : settings.value setting = .text s)
    (hcoerce : ∀ value, setting.coerce value = (Update.toText setting.key value).map .text) :
    settings.IsReadBack setting ↔
      IsName s ∨ s = "" ∧ ({} : Settings).value setting = .text "" := by
  have hspelled : settings.spelled? setting = some s := by
    rw [spelled?, hvalue]
    rfl
  by_cases hs : s = ""
  · subst hs
    rw [isReadBack_of_unset (.inl hspelled), hvalue]
    simp [IsName]
  · rw [isReadBack_of_spelled hspelled hs, hvalue]
    exact (Setting.keeps_text_iff hcoerce).trans (by simp [hs])

-- Without fields, and with a single empty one, the variable is empty.
theorem isReadBack_partitionFields : settings.IsReadBack .partitionFields ↔
    ∀ field ∈ settings.partitionFields, IsName field ∧ ',' ∉ field.toList := by
  have hspelled : settings.spelled? .partitionFields =
      some (",".intercalate settings.partitionFields) := rfl
  have hvalue : settings.value .partitionFields = .list (settings.partitionFields.map .text) := rfl
  by_cases hjoined : ",".intercalate settings.partitionFields = ""
  · rw [isReadBack_of_unset (.inl (by rw [hspelled, hjoined])), hvalue]
    cases hfields : settings.partitionFields with
    | nil => simp [value]
    | cons field rest =>
        refine iff_of_false (by simp [value]) fun hnames => ?_
        have hback := split_intercalate ',' (field :: rest) nofun fun part hpart =>
          (hnames part hpart).2
        rw [hfields] at hjoined
        rw [show (String.singleton ',').intercalate (field :: rest) = "" from hjoined] at hback
        have hfirst : "" = field := (List.cons.inj hback).1
        exact (hnames field List.mem_cons_self).1.1 hfirst.symm
  · have hne : settings.partitionFields ≠ [] := fun hnil => hjoined (by rw [hnil]; rfl)
    rw [isReadBack_of_spelled hspelled hjoined, hvalue, Setting.coerce, map_eq_ok_iff,
      ← Update.toFields_intercalate Setting.partitionFields.key hne]
    simp only [Datum.list.injEq, Datum.map_text_inj, exists_eq_right]

theorem isReadBack_batchSize : settings.IsReadBack .batchSize ↔
    (Nat.toDigits 10 settings.batchSize.natAbs).length ≤ 4300 := by
  have hspelled : settings.spelled? .batchSize = some (toString settings.batchSize) := rfl
  have hne : toString settings.batchSize ≠ "" := by
    cases settings.batchSize with
    | ofNat n => exact Nat.repr_ne_empty
    | negSucc n =>
        intro h
        have hchars := congrArg String.toList h
        rw [show toString (Int.negSucc n) = "-" ++ (n + 1).repr from rfl, String.toList_append]
          at hchars
        cases hchars
  rw [isReadBack_of_spelled hspelled hne, ← Update.toInteger_toString Setting.batchSize.key,
    Setting.coerce, map_eq_ok_iff, value]
  simp only [Datum.integer.injEq, exists_eq_right]

theorem isReadBack_switch {setting : Setting} {switch : Bool}
    (hvalue : settings.value setting = .boolean switch)
    (hcoerce : ∀ value, setting.coerce value = (Update.toSwitch setting.key value).map .boolean) :
    settings.IsReadBack setting := by
  have hspelled : settings.spelled? setting = some (Datum.boolean switch).plain := by
    rw [spelled?, hvalue]
  have hne : (Datum.boolean switch).plain ≠ "" := by cases switch <;> decide
  rw [isReadBack_of_spelled hspelled hne, hcoerce, Update.toSwitch_plain, hvalue]
  rfl

theorem isReadBack_optional {setting : Setting} {text : Option String}
    (hvalue : settings.value setting = (text.map .text).getD .null)
    (hdefault : ({} : Settings).value setting = .null)
    (hcoerce : ∀ value, setting.coerce value =
      (Update.toOptionalText setting.key value).map fun text => (text.map .text).getD .null) :
    settings.IsReadBack setting ↔ ∀ s ∈ text, IsName s := by
  cases text with
  | none =>
      have hspelled : settings.spelled? setting = none := by
        rw [spelled?, hvalue]
        rfl
      rw [isReadBack_of_unset (.inr hspelled), hdefault, hvalue]
      simp
  | some s =>
      have hspelled : settings.spelled? setting = some s := by
        rw [spelled?, hvalue]
        rfl
      by_cases hs : s = ""
      · subst hs
        rw [isReadBack_of_unset (.inl hspelled), hdefault, hvalue]
        simp [IsName]
      · have hkeeps : setting.Keeps (((some s).map .text).getD .null) ↔ ∀ t ∈ some s, IsName t :=
          Setting.keeps_optional_iff hcoerce
        rw [Option.map_some, Option.getD_some, Setting.Keeps] at hkeeps
        rw [isReadBack_of_spelled hspelled hs, hvalue]
        exact hkeeps

end ReadBack

-- The variables that spell settings out give them back to the defaults, if each setting can be read
-- back.
theorem applyEnvironment_spelled_iff
    (h : ∀ setting : Setting, environment (setting.variable lead) = settings.spelled? setting) :
    ({} : Settings).applyEnvironment environment lead = .ok settings ↔ settings.IsSpellable := by
  have hback : ({} : Settings).applyEnvironment environment lead = .ok settings ↔
      ∀ setting, settings.IsReadBack setting := by
    rw [applyEnvironment_eq_ok_iff]
    simp only [Environment.text?, h, IsReadBack]
  have hdatabase : settings.IsReadBack .databaseName ↔ IsName settings.databaseName := by
    rw [isReadBack_text rfl fun _ => rfl]
    simp [value]
  have hextractor : settings.IsReadBack .partitionExtractor ↔
      IsName settings.partitionExtractor := by
    rw [isReadBack_text rfl fun _ => rfl]
    simp [value]
  have hbase : settings.IsReadBack .basePath ↔ IsTight settings.basePath := by
    rw [isReadBack_text rfl fun _ => rfl]
    have hnone : IsTight "" := by simp [IsTight]
    by_cases hs : settings.basePath = ""
    · simp [hs, hnone, value]
    · simp [hs, IsName]
  have hfileSystem : settings.IsReadBack .defaultFileSystem ↔
      ∀ text ∈ settings.defaultFileSystem, IsName text :=
    isReadBack_optional rfl rfl fun _ => rfl
  have howner : settings.IsReadBack .owner ↔ ∀ text ∈ settings.owner, IsName text :=
    isReadBack_optional rfl rfl fun _ => rfl
  rw [hback]
  constructor
  · intro hall
    exact ⟨hdatabase.mp (hall _), hbase.mp (hall _), isReadBack_partitionFields.mp (hall _),
      hextractor.mp (hall _), isReadBack_batchSize.mp (hall _), hfileSystem.mp (hall _),
      howner.mp (hall _)⟩
  · intro hspellable setting
    cases setting with
    | databaseName => exact hdatabase.mpr hspellable.databaseName
    | basePath => exact hbase.mpr hspellable.basePath
    | partitionFields => exact isReadBack_partitionFields.mpr hspellable.partitionFields
    | partitionExtractor => exact hextractor.mpr hspellable.partitionExtractor
    | batchSize => exact isReadBack_batchSize.mpr hspellable.batchSize
    | externalTables => exact isReadBack_switch rfl fun _ => rfl
    | supportTimestamp => exact isReadBack_switch rfl fun _ => rfl
    | defaultFileSystem => exact hfileSystem.mpr hspellable.defaultFileSystem
    | owner => exact howner.mpr hspellable.owner

-- A number below zero, fields and texts beyond ASCII, and neither a base path nor an owner.
theorem applyEnvironment_spelled_harbour :
    let settings : Settings := {
      databaseName := "lac bleu", partitionFields := ["jour", "région"], batchSize := -20,
      externalTables := false, defaultFileSystem := some "hdfs://nn:8020" }
    ({} : Settings).applyEnvironment (Environment.ofSettings Environment.standardPrefix settings)
      Environment.standardPrefix = .ok settings := by
  intro settings
  refine (applyEnvironment_spelled_iff (Environment.ofSettings_variable _ settings)).mpr ?_
  exact {
    databaseName := by decide +kernel
    basePath := trim_eq_self_iff.mp (by decide +kernel)
    partitionFields := by decide +kernel
    partitionExtractor := by decide +kernel
    batchSize := by decide +kernel
    defaultFileSystem := by decide +kernel
    owner := nofun }

end Settings

end CatalogSync
