import CatalogSync.Settings.Mapping
import CatalogSync.Text.Uppercase

namespace CatalogSync

abbrev Environment := String → Option String

def Environment.standardPrefix : String := "METASYNC_"

def Setting.variable (lead : String) (setting : Setting) : String := lead ++ Text.upper setting.key

-- The settings that the environment sets, in the order of the settings.
def Environment.mapping (environment : Environment) (lead : String) : Mapping :=
  Setting.all.filterMap fun setting =>
    match environment (setting.variable lead) with
    | none | some "" => none
    | some value => some (setting.key, .text value)

-- The text that a variable holds for a setting, if it is set: texts as they are, the partition keys
-- between commas, numbers in decimal digits and switches as words.
def Settings.spelled? (settings : Settings) (setting : Setting) : Option String :=
  match settings.value setting with
  | .null => none
  | .list _ => some (",".intercalate settings.partitionFields)
  | value => some value.plain

def Environment.ofSettings (lead : String) (settings : Settings) : Environment := fun name =>
  (Setting.all.find? fun setting => setting.variable lead == name).bind settings.spelled?

def Settings.applyEnvironment (base : Settings) (environment : Environment) (lead : String) :
    Except Failure Settings := base.apply (environment.mapping lead)

end CatalogSync
