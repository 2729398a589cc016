import CatalogSync.Proofs.Extractor.Plugins
import CatalogSync.Proofs.Traversal

namespace CatalogSync.Registry

-- What may be asked of a registry without changing what is registered.
inductive Lookup where
  | available
  | create (name : String)
deriving DecidableEq

-- The answer to a lookup.
inductive Finding where
  | names (names : List String)
  | extractor (extractor : Extractor)

def Answer.map {α β : Type} (f : α → β) (answer : Answer α) : Answer β :=
  ⟨answer.result.map f, answer.registry, answer.events⟩

def look (registry : Registry) : Lookup → Answer Finding
  | .available => registry.available.map .names
  | .create name => (registry.create name).map .extractor

-- The answer that the names give that are bound at the time.
def read (registry : Registry) : Lookup → Except Failure Finding
  | .available => .ok (.names (registry.bindings.keys.mergeSort fun a b => decide (a ≤ b)))
  | .create name => (make name (registry.bindings.get? name)).map .extractor

-- Whether the plugins are looked through for a lookup.
def searches (registry : Registry) : Lookup → Bool
  | .available => !registry.isLoaded
  | .create name => !registry.isLoaded && !registry.bindings.contains name

-- The registry after lookups, each of which may have failed.
def after (registry : Registry) (history : List Lookup) : Registry :=
  history.foldl (fun registry lookup => (registry.look lookup).registry) registry

variable {registry : Registry} {lookup : Lookup}

theorem look_of_searches (h : registry.searches lookup = true) :
    registry.look lookup = ⟨registry.load.result.bind fun _ => registry.settled.read lookup,
      registry.settled, registry.load.events⟩ := by
  cases lookup with
  | available =>
      rw [look, available, settled]
      cases registry.load.result <;> rfl
  | create name =>
      have hfree : registry.bindings.contains name = false := by
        simpa using (Bool.and_eq_true_iff.mp h).2
      simp only [look, create, hfree, Bool.false_eq_true, if_false, settled]
      cases registry.load.result <;> rfl

-- Without a search the names that are bound give the answer, and nothing changes.
theorem look_of_not_searches (h : registry.searches lookup = false) :
    registry.look lookup = ⟨registry.read lookup, registry, []⟩ := by
  cases lookup with
  | available =>
      have hloaded : registry.isLoaded = true := by simpa [searches] using h
      simp [look, available, load_of_isLoaded hloaded, Answer.map, read, Except.map]
  | create name =>
      rw [look, create]
      split
      · rfl
      · next hfree =>
        have hloaded : registry.isLoaded = true := by simpa [searches, hfree] using h
        rw [load_of_isLoaded hloaded]
        rfl

theorem searches_of_isLoaded (h : registry.isLoaded = true) : registry.searches lookup = false := by
  cases lookup <;> simp [searches, h]

theorem look_registry :
    (registry.look lookup).registry =
      if registry.searches lookup then registry.settled else registry := by
  cases h : registry.searches lookup with
  | true => rw [look_of_searches h]; rfl
  | false => rw [look_of_not_searches h]; rfl

theorem after_cons (history : List Lookup) :
    registry.after (lookup :: history) = (registry.look lookup).registry.after history := rfl

theorem after_of_isLoaded (h : registry.isLoaded = true) (history : List Lookup) :
    registry.after history = registry := by
  induction history with
  | nil => rfl
  | cons lookup history ih =>
      rw [after_cons, look_registry, searches_of_isLoaded h]
      exact ih

-- All that lookups leave behind is whether the plugins have been looked through.
theorem after_eq (history : List Lookup) :
    registry.after history =
      if history.any registry.searches then registry.settled else registry := by
  induction history with
  | nil => rfl
  | cons lookup history ih =>
      rw [after_cons, look_registry, List.any_cons]
      cases registry.searches lookup with
      | true => exact after_of_isLoaded settled_isLoaded history
      | false => exact ih

-- A search that comes upon a plugin that cannot be loaded fails with it, whatever is looked up.
theorem look_result_of_refusal {failure : Failure} (hsearch : registry.searches lookup = true)
    (hrefusal : registry.refusal? = some failure) :
    (registry.look lookup).result = .error failure := by
  rw [look_of_searches hsearch, load_result, hrefusal]
  rfl

-- Otherwise the answer is that of the registry whose plugins have been looked through.
theorem look_result_of_settled (h : registry.searches lookup = true → registry.refusal? = none) :
    (registry.look lookup).result = registry.settled.read lookup := by
  cases hsearch : registry.searches lookup with
  | true =>
      rw [look_of_searches hsearch, load_result, h hsearch]
      rfl
  | false =>
      rw [look_of_not_searches hsearch]
      cases lookup with
      | available =>
          have hloaded : registry.isLoaded = true := by simpa [searches] using hsearch
          rw [settled_of_isLoaded hloaded]
      | create name =>
          cases hloaded : registry.isLoaded with
          | true => rw [settled_of_isLoaded hloaded]
          | false =>
              have hbound : registry.bindings.contains name = true := by
                simpa [searches, hloaded] using hsearch
              obtain ⟨factory, hfactory⟩ := (Dictionary.contains_eq_true_iff _ _).mp hbound
              simp only [read, settled_get?, hfactory, Option.some_or]

theorem settled_look (lookup : Lookup) :
    (registry.settled.look lookup).result = registry.settled.read lookup := by
  rw [look_of_not_searches (searches_of_isLoaded settled_isLoaded)]

theorem make_ne_refusal (name : String) (factory : Option Factory) {plugin : Plugin}
    {failure : Failure} (h : plugin.refusal? = some failure) :
    make name factory ≠ .error failure := by
  rw [Plugin.refusal?] at h
  split at h
  · cases h
  · obtain rfl := Option.some.inj h
    intro hmake
    rcases factory with _ | (_ | (_ | _)) <;>
      simp [make, Failure.leadingTo, Failure.config] at hmake

-- The names that are bound never give the failure of a plugin.
theorem read_ne_refusal {failure : Failure} (h : registry.refusal? = some failure)
    (other : Registry) : other.read lookup ≠ .error failure := by
  obtain ⟨plugin, -, hplugin⟩ := List.exists_of_findSome?_eq_some h
  cases lookup with
  | available => exact nofun
  | create name =>
      intro hread
      exact make_ne_refusal name _ hplugin (Traversal.map_eq_error_iff.mp hread)

-- An answer does not depend on earlier lookups unless a plugin is in the way of it.
theorem look_eq_after_iff :
    (∀ history, ((registry.after history).look lookup).result = (registry.look lookup).result) ↔
      (registry.searches lookup = true → registry.refusal? = none) := by
  constructor
  · intro hsame hsearch
    cases hrefusal : registry.refusal? with
    | none => rfl
    | some failure =>
        have hagain := hsame [lookup]
        rw [after_eq, List.any_cons, hsearch, Bool.true_or, if_pos rfl, settled_look,
          look_result_of_refusal hsearch hrefusal] at hagain
        exact absurd hagain (read_ne_refusal hrefusal _)
  · intro hfree history
    rw [look_result_of_settled hfree, after_eq]
    split
    · exact settled_look lookup
    · exact look_result_of_settled hfree

theorem create_of_isLoaded (h : registry.isLoaded = true) (name : String) :
    (registry.create name).result = make name (registry.bindings.get? name) := by
  simp only [create, load_of_isLoaded h, ite_self]
  rfl

-- How far answers depend on earlier lookups. Once the plugins have been looked through, the names
-- that are bound from then on give all answers. An answer is the same before, unless it takes a
-- search and a plugin whose name is free cannot be loaded: then it is the failure of the first such
-- plugin, and never again afterwards. A plugin that can be loaded is left out if such a plugin
-- stands in front of it, and can be used otherwise.
theorem answer_after_lookups (registry : Registry) (lookup : Lookup) :
    (∀ history, ((registry.after history).look lookup).result =
      if history.any registry.searches then registry.settled.read lookup
      else (registry.look lookup).result) ∧
    ((∀ history, ((registry.after history).look lookup).result = (registry.look lookup).result) ↔
      (registry.searches lookup = true → registry.refusal? = none)) ∧
    (∀ failure, registry.searches lookup = true → registry.refusal? = some failure →
      (registry.look lookup).result = .error failure ∧
      ∀ history, history.any registry.searches = true →
        ((registry.after history).look lookup).result ≠ .error failure) ∧
    ∀ before plugin after factory, registry.pending = before ++ plugin :: after →
      plugin.load = .ok factory → ∀ history, history.any registry.searches = true →
        ((registry.after history).create plugin.name).result =
          make plugin.name (if before.all (·.refusal?.isNone) then some factory else none) := by
  refine ⟨fun history => ?_, look_eq_after_iff, fun failure hsearch hrefusal => ?_, ?_⟩
  · rw [after_eq]
    split
    · exact settled_look lookup
    · rfl
  · refine ⟨look_result_of_refusal hsearch hrefusal, fun history hhistory => ?_⟩
    rw [after_eq, if_pos hhistory, settled_look]
    exact read_ne_refusal hrefusal _
  · intro before plugin after factory hpending hload history hhistory
    rw [after_eq, if_pos hhistory, create_of_isLoaded settled_isLoaded,
      settled_get?_of_pending hpending hload]

section Refused

-- A plugin that cannot be loaded, and one that can.
def broken : Plugin := ⟨"broken", "package:Broken", .error ⟨.reported .loading "no module", []⟩⟩

def tagged (name : String) : Plugin :=
  ⟨name, "package:Tagged",
    .ok (.ok (.extractor ⟨"TaggedExtractor", fun path => .ok ["x:" ++ path]⟩))⟩

theorem answer_after_lookups_broken :
    let registry := initial [tagged "early", broken, tagged "late"]
    (registry.look (.create "early")).result =
      .error ⟨.config (.pluginNotLoaded "broken" "package:Broken"),
        [.reported .loading "no module"]⟩ ∧
    ((registry.after [.create "late"]).create "early").result =
      make "early" (tagged "early").factory? := by
  intro registry
  have hsearch : ∀ name ∈ ["early", "late"], registry.searches (.create name) = true := by decide
  have hpending : registry.pending = [] ++ tagged "early" :: [broken, tagged "late"] := rfl
  obtain ⟨-, -, hrefused, -⟩ := answer_after_lookups registry (.create "early")
  obtain ⟨-, -, -, husable⟩ := answer_after_lookups registry (.create "late")
  refine ⟨(hrefused _ (hsearch _ (by simp)) rfl).1, ?_⟩
  refine (husable _ _ _ _ hpending rfl [.create "late"] ?_).trans rfl
  rw [List.any_cons, hsearch _ (by simp), Bool.true_or]

-- The same name, looked up twice: the first time the plugin in front of it fails, and the second
-- time it is not known at all.
theorem create_not_repeatable :
    let registry := initial [broken, tagged "late"]
    (registry.create "late").result = .error ⟨.config (.pluginNotLoaded "broken" "package:Broken"),
      [.reported .loading "no module"]⟩ ∧
    ((registry.after [.create "late"]).create "late").result =
      .error ⟨.config (.unknownExtractor "late"), []⟩ ∧
    (tagged "late").refusal? = none :=
  ⟨rfl, rfl, rfl⟩

end Refused

end CatalogSync.Registry
