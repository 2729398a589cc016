import CatalogSync.Dictionary
import CatalogSync.Event
import CatalogSync.Extractor.Basic

namespace CatalogSync

inductive Product where
  | extractor (extractor : Extractor)
  | other

-- A factory, by what it makes when it is asked.
abbrev Factory := Except Failure Product

structure Plugin where
  name : String
  source : String
  load : Except Failure Factory

-- The names that are bound, the plugins, and whether they have been looked through.
structure Registry where
  bindings : Dictionary String Factory
  plugins : List Plugin
  isLoaded : Bool

structure Registry.Answer (α : Type) where
  result : Except Failure α
  registry : Registry
  events : List Event

namespace Registry

-- Each built-in form under its two names.
def builtIns : List (String × Factory) :=
  PathForm.all.flatMap fun form =>
    [(form.name, .ok (.extractor form.extractor)), (form.typeName, .ok (.extractor form.extractor))]

def initial (plugins : List Plugin) : Registry := ⟨.ofList builtIns, plugins, false⟩

def bind (registry : Registry) (name : String) (factory : Factory) : Registry :=
  { registry with bindings := registry.bindings.insert name factory }

-- Binds a name. A name that is bound is refused, unless it is to be replaced.
def register (registry : Registry) (name : String) (factory : Factory) (replace : Bool) :
    Except Failure Registry :=
  if registry.bindings.contains name && !replace then .error ⟨.registered name, []⟩
  else .ok (registry.bind name factory)

-- Binds the plugins whose names are free, in order, up to the first that cannot be loaded.
def bindPlugins (registry : Registry) : List Plugin → Answer Unit
  | [] => ⟨.ok (), registry, []⟩
  | plugin :: plugins =>
    if registry.bindings.contains plugin.name then bindPlugins registry plugins
    else
      match plugin.load with
      | .error failure =>
        ⟨.error (failure.leadingTo (.config (.pluginNotLoaded plugin.name plugin.source))),
          registry, []⟩
      | .ok factory =>
        let answer := bindPlugins (registry.bind plugin.name factory) plugins
        { answer with events := .pluginRegistered plugin.name :: answer.events }

def load (registry : Registry) : Answer Unit :=
  if registry.isLoaded then ⟨.ok (), registry, []⟩
  else bindPlugins { registry with isLoaded := true } registry.plugins

-- The names that are bound, plugins included, in ascending order.
def available (registry : Registry) : Answer (List String) :=
  let answer := registry.load
  { answer with
    result := answer.result.map fun _ =>
      answer.registry.bindings.keys.mergeSort fun a b => decide (a ≤ b) }

def make (name : String) : Option Factory → Except Failure Extractor
  | none => .error (.config (.unknownExtractor name))
  | some (.error failure) => .error (failure.leadingTo (.config (.extractorNotMade name)))
  | some (.ok .other) => .error (.config (.notAnExtractor name))
  | some (.ok (.extractor extractor)) => .ok extractor

def create (registry : Registry) (name : String) : Answer Extractor :=
  let answer :=
    if registry.bindings.contains name then ⟨.ok (), registry, []⟩ else registry.load
  { answer with
    result := answer.result.bind fun _ => make name (answer.registry.bindings.get? name) }

end Registry

end CatalogSync
