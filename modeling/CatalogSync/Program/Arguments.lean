import CatalogSync.Command.Request
import CatalogSync.Numeral

namespace CatalogSync.Program

open CatalogSync.Command CatalogSync.Text

structure OptionForm where
  key : String
  letter : Option Char := none
  words : List String
  takesValue : Bool := true
deriving DecidableEq, Repr

structure GivenOption where
  key : String
  value : Option String
deriving DecidableEq, Repr

structure Arguments where
  options : List GivenOption
  operands : List String
deriving DecidableEq, Repr

inductive LettersEnd where
  | complete
  -- The value is still to come.
  | wants (key : String)
deriving DecidableEq, Repr

-- The options that letters put together stand for. A value takes all that is left.
def letters (forms : List OptionForm) : List Char → Option (List GivenOption × LettersEnd)
  | [] => some ([], .complete)
  | c :: cs => do
    let form ← forms.find? fun form => form.letter == some c
    if form.takesValue then
      if cs.isEmpty then return ([], .wants form.key)
      return ([⟨form.key, some (.ofList cs)⟩], .complete)
    let (given, ending) ← letters forms cs
    return (⟨form.key, none⟩ :: given, ending)

def isOption (argument : String) : Bool :=
  match argument.toList with
  | '-' :: _ :: _ => true
  | _ => false

def wordOption? (forms : List OptionForm) (argument : String) :
    Option (OptionForm × Option String) :=
  let (word, value) := cutAt (· = '=') argument.toList
  (forms.find? fun form => form.words.contains (.ofList word)).map fun form =>
    (form, value.map .ofList)

def optionsOf (forms : List OptionForm) (argument : String) :
    Option (List GivenOption × LettersEnd) :=
  match wordOption? forms argument with
  | some (form, value) =>
    match form.takesValue, value with
    | true, some value => some ([⟨form.key, some value⟩], .complete)
    | true, none => some ([], .wants form.key)
    | false, none => some ([⟨form.key, none⟩], .complete)
    | false, some _ => none
  | none =>
    match argument.toList with
    | '-' :: '-' :: _ => none
    | _ :: cs => letters forms cs
    | [] => none

namespace Arguments

def prepend (given : List GivenOption) (arguments : Arguments) : Arguments :=
  { arguments with options := given ++ arguments.options }

-- Reads arguments. Options may stand behind other arguments only if they are `mixed`. An unknown
-- option, or one without its value, is refused.
def read? (forms : List OptionForm) (mixed : Bool) : List String → Option Arguments
  | [] => some ⟨[], []⟩
  | argument :: rest =>
    if argument = "--" then some ⟨[], rest⟩
    else if isOption argument then
      match optionsOf forms argument, rest with
      | none, _ => none
      | some (given, .complete), rest => (read? forms mixed rest).map (prepend given)
      | some (_, .wants _), [] => none
      | some (given, .wants key), value :: rest =>
        (read? forms mixed rest).map (prepend (given ++ [⟨key, some value⟩]))
    else if mixed then
      (read? forms mixed rest).map fun arguments =>
        { arguments with operands := argument :: arguments.operands }
    else some ⟨[], argument :: rest⟩

def has (arguments : Arguments) (key : String) : Bool :=
  arguments.options.any fun given => given.key == key

def values (arguments : Arguments) (key : String) : List String :=
  arguments.options.filterMap fun given => if given.key = key then given.value else none

def last? (arguments : Arguments) (key : String) : Option String := (arguments.values key).getLast?

end Arguments

-- The values of ASCII digits. The zeros in front are left out, and any underscores among these;
-- between other digits a single underscore may stand.
def digits? (cs : List Char) : Option (List Nat) :=
  let isZero := fun c => c == '0' || c == '_'
  let significant := if cs.head? = some '0' then cs.dropWhile isZero else cs
  if !significant.all fun c => isAsciiDigit c || c == '_' then none
  else if !significant.isEmpty then Numeral.digits? significant
  else if cs.getLast? = some '0' then some [0]
  else none

-- A number without sign. Behind a point there may only be zeros.
def magnitude? (cs : List Char) : Option Nat := do
  let (whole, fraction) := cutAt (· = '.') cs
  let digits ← digits? whole
  let isWhole := fraction.all fun zeros => !zeros.isEmpty && zeros.all (· = '0')
  if isWhole ∧ digits.length ≤ Numeral.digitLimit then some (Numeral.ofDigits digits) else none

def wholeNumber? (s : String) : Option Int :=
  Numeral.signedBy magnitude? (trimWhere Numeral.isPadding s.toList)

def helpOption : OptionForm := { key := "help", words := ["--help"], takesValue := false }

def globalOptions : List OptionForm :=
  [{ key := "config", letter := some 'c', words := ["--config"] },
    { key := "level", words := ["--log-level"] },
    { key := "verbose", letter := some 'v', words := ["--verbose"], takesValue := false }]

def fieldOption : OptionForm :=
  { key := "field", letter := some 'f', words := ["--partition-field"] }

def previewOptions : List OptionForm :=
  [{ key := "base", words := ["--base-path"] },
    { key := "extractor", letter := some 'e', words := ["--extractor"] },
    { key := "filesystem", words := ["--default-fs"] },
    fieldOption,
    { key := "batch", words := ["--batch-size"] }]

def schemaOptions : List OptionForm :=
  [{ key := "timestamp", words := ["--support-timestamp"], takesValue := false },
    { key := "number", words := ["--no-support-timestamp"], takesValue := false },
    fieldOption]

section Request

-- Whether a file stands at a path, and whether a folder does.
variable (isFile isFolder : String → Bool)

def reading {α : Type} (forms : List OptionForm) (mixed : Bool) (args : List String)
    (request? : Arguments → Reading α) : Reading α :=
  match Arguments.read? (helpOption :: forms) mixed args with
  | none => .refused
  | some arguments => if arguments.has "help" then .help 0 else request? arguments

def previewRequest (arguments : Arguments) : Reading Request :=
  if arguments.operands.isEmpty then .refused
  else
    let size? := arguments.last? "batch"
    match size?, size?.bind wholeNumber? with
    | some _, none => .refused
    | _, batchSize => .request (.preview {
        paths := arguments.operands
        basePath := arguments.last? "base"
        extractor := arguments.last? "extractor"
        fileSystem := arguments.last? "filesystem"
        fields := arguments.values "field"
        batchSize })

-- Of the two switches for timestamps the last one counts.
def schemaRequest (arguments : Arguments) : Reading Request :=
  let switches := arguments.options.filter fun given =>
    given.key == "timestamp" || given.key == "number"
  match arguments.operands with
  | [file] =>
    if isFile file then .request (.showSchema {
      file
      supportTimestamp := switches.getLast?.map (·.key == "timestamp")
      fields := arguments.values "field" })
    else .refused
  | _ => .refused

def plainRequest (request : Request) (arguments : Arguments) : Reading Request :=
  if arguments.operands.isEmpty then .request request else .refused

def groups : List (String × List (String × (List String → Reading Request))) :=
  [("schema", [("show", fun args => reading schemaOptions true args (schemaRequest isFile))]),
    ("partitions", [("preview", fun args => reading previewOptions true args previewRequest),
      ("extractors", fun args => reading [] true args (plainRequest .extractors))]),
    ("config", [("show", fun args => reading [] true args (plainRequest .showSettings))])]

-- Goes on with the command that arguments name. Behind two dashes a name of no command may still
-- ask for help.
def withCommand {α β : Type} (forms : List OptionForm) (commands : List (String × α))
    (next : α → List String → Reading β) : List String → Reading β
  | [] => .refused
  | name :: rest =>
    match commands.lookup name with
    | some command => next command rest
    | none => reading forms false (name :: rest) fun _ => .refused

def groupRequest (leaves : List (String × (List String → Reading Request)))
    (args : List String) : Reading Request :=
  if args.isEmpty then .help 2
  else reading [] false args fun arguments =>
    withCommand [] leaves (fun leaf rest => leaf rest) arguments.operands

def reader : Reader := fun args =>
  if args.isEmpty then .help 2
  else reading globalOptions false args fun arguments =>
    let config := arguments.last? "config"
    if config.any isFolder then .refused
    else withCommand globalOptions (groups isFile) (fun leaves rest => .request ({
        config
        logLevel := (arguments.last? "level").getD "WARNING"
        isVerbose := arguments.has "verbose" }, groupRequest leaves rest)) arguments.operands

end Request

end CatalogSync.Program
