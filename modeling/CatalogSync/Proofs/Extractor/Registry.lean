import CatalogSync.Proofs.Extractor.Lookup
import Mathlib.Data.String.Basic
import Mathlib.Data.List.Sort

namespace CatalogSync.Registry

-- What a registry may be asked to do.
inductive Request where
  | register (name : String) (factory : Factory) (replace : Bool)
  | look (lookup : Lookup)

-- The registry after a request, which may have failed.
def next (registry : Registry) : Request → Registry
  | .register name factory replace =>
    match registry.register name factory replace with
    | .ok registered => registered
    | .error _ => registry
  | .look lookup => (registry.look lookup).registry

def run (registry : Registry) (requests : List Request) : Registry := requests.foldl next registry

-- The factory that a request puts in place of another one under a name.
def Request.replacement? (name : String) : Request → Option Factory
  | .register other factory true => if other = name then some factory else none
  | .register _ _ false | .look _ => none

-- The last factory that requests put in place of another one under a name.
def replacement? (name : String) : List Request → Option Factory
  | [] => none
  | request :: requests => (replacement? name requests).or (request.replacement? name)

-- Whether a request lists the plugins.
def enumerates (registry : Registry) : Request → Bool
  | .register _ _ _ => false
  | .look lookup => registry.searches lookup

-- How many of the requests list the plugins.
def enumerations (registry : Registry) : List Request → Nat
  | [] => 0
  | request :: requests =>
    (if registry.enumerates request then 1 else 0) + (registry.next request).enumerations requests

variable {registry : Registry} {request : Request} {requests : List Request} {name : String}
  {factory : Factory}

theorem run_cons : registry.run (request :: requests) = (registry.next request).run requests := rfl

theorem run_append (after : List Request) :
    registry.run (requests ++ after) = (registry.run requests).run after :=
  List.foldl_append

theorem next_register (name : String) (factory : Factory) (replace : Bool) :
    registry.next (.register name factory replace) =
      if registry.bindings.contains name && !replace then registry
      else registry.bind name factory := by
  rw [next, register]
  cases registry.bindings.contains name <;> cases replace <;> rfl

theorem next_look (lookup : Lookup) :
    registry.next (.look lookup) =
      if registry.searches lookup then registry.settled else registry := look_registry

theorem next_plugins : (registry.next request).plugins = registry.plugins := by
  cases request with
  | register name factory replace =>
      rw [next_register]
      split <;> rfl
  | look lookup =>
      rw [next_look]
      split
      · exact settled_plugins
      · rfl

theorem run_plugins : (registry.run requests).plugins = registry.plugins := by
  induction requests generalizing registry with
  | nil => rfl
  | cons request requests ih => rw [run_cons, ih, next_plugins]

-- A name that is bound keeps its factory, unless the request replaces it.
theorem next_keeps (h : registry.bindings.get? name = some factory) :
    (registry.next request).bindings.get? name =
      some ((request.replacement? name).getD factory) := by
  cases request with
  | look lookup =>
      rw [next_look]
      split
      · rw [settled_get?, h]
        rfl
      · exact h
  | register other new replace =>
      have hbound : registry.bindings.contains name = true :=
        (Dictionary.contains_eq_true_iff _ _).mpr ⟨factory, h⟩
      rw [next_register]
      by_cases hn : other = name
      · subst hn
        cases replace with
        | false => simpa [hbound, Request.replacement?] using h
        | true => simp [Request.replacement?, bind, Dictionary.get?_insert]
      · have hnone : Request.replacement? name (.register other new replace) = none := by
          cases replace <;> simp [Request.replacement?, hn]
        rw [hnone]
        split
        · exact h
        · simpa [bind, Dictionary.get?_insert, hn] using h

theorem run_keeps (requests : List Request) (h : registry.bindings.get? name = some factory) :
    (registry.run requests).bindings.get? name =
      some ((replacement? name requests).getD factory) := by
  induction requests generalizing registry factory with
  | nil => exact h
  | cons request requests ih =>
      rw [run_cons, ih (next_keeps h), replacement?]
      cases replacement? name requests <;> rfl

-- An arrival is bound to a name if it is the first plugin with this name.
theorem arrival?_eq_first : registry.arrival? name = some factory ↔
    ∃ plugin ∈ registry.arrivals, registry.plugins.find? (·.name == name) = some plugin ∧
      plugin.load = .ok factory := by
  rw [arrival?_eq_some_iff]
  refine exists_congr fun plugin => and_congr_right fun harrival => and_congr_left fun _ => ?_
  constructor
  · rintro rfl
    exact (of_mem_arrivals harrival).2.1
  · intro hfirst
    simpa using List.find?_some hfirst

-- A name that is free is bound by its registration, or to an arrival when the plugins are listed.
theorem next_binds_iff (h : registry.bindings.get? name = none) :
    (registry.next request).bindings.get? name = some factory ↔
      (∃ replace, request = .register name factory replace) ∨
        registry.enumerates request = true ∧ registry.arrival? name = some factory := by
  cases request with
  | look lookup =>
      rw [next_look]
      cases hsearch : registry.searches lookup with
      | true => simp [enumerates, hsearch, settled_get?, h]
      | false => simp [enumerates, hsearch, h]
  | register other new replace =>
      have hfree : registry.bindings.contains name = false :=
        (Dictionary.contains_eq_false_iff _ _).mpr h
      rw [next_register]
      by_cases hn : other = name
      · subst hn
        simp [enumerates, hfree, bind, Dictionary.get?_insert]
      · cases hrefused : registry.bindings.contains other && !replace with
        | true => simp [enumerates, h, hn]
        | false => simp [enumerates, bind, Dictionary.get?_insert, h, hn]

theorem exists_bound_of_register (registry : Registry) (name : String) (factory : Factory)
    (replace : Bool) :
    ∃ found, (registry.next (.register name factory replace)).bindings.get? name = some found := by
  cases hbound : registry.bindings.get? name with
  | some found => exact ⟨_, next_keeps hbound⟩
  | none => exact ⟨factory, (next_binds_iff hbound).mpr (.inl ⟨replace, rfl⟩)⟩

theorem exists_bound_of_mem {replace : Bool} (h : .register name factory replace ∈ requests) :
    ∃ found, (registry.run requests).bindings.get? name = some found := by
  obtain ⟨before, after, rfl⟩ := List.append_of_mem h
  obtain ⟨found, hfound⟩ := exists_bound_of_register (registry.run before) name factory replace
  exact ⟨_, by rw [run_append, run_cons]; exact run_keeps after hfound⟩

section Enumeration

theorem next_isLoaded (h : registry.isLoaded = true ∨ registry.enumerates request = true) :
    (registry.next request).isLoaded = true := by
  cases request with
  | register name factory replace =>
      rw [next_register]
      split <;> simpa [enumerates, bind] using h
  | look lookup =>
      rw [next_look]
      split
      · exact settled_isLoaded
      · next hsearch => simpa [enumerates, hsearch] using h

theorem enumerates_of_isLoaded (h : registry.isLoaded = true) :
    registry.enumerates request = false := by
  cases request with
  | register name factory replace => rfl
  | look lookup => exact searches_of_isLoaded h

theorem enumerations_of_isLoaded (h : registry.isLoaded = true) :
    registry.enumerations requests = 0 := by
  induction requests generalizing registry with
  | nil => rfl
  | cons request requests ih =>
      rw [enumerations, enumerates_of_isLoaded h, ih (next_isLoaded (.inl h))]
      rfl

theorem enumerations_le_one : registry.enumerations requests ≤ 1 := by
  induction requests generalizing registry with
  | nil => exact Nat.zero_le 1
  | cons request requests ih =>
      rw [enumerations]
      split
      · next henumerates => rw [enumerations_of_isLoaded (next_isLoaded (.inr henumerates))]
      · rw [Nat.zero_add]
        exact ih

theorem eq_of_enumerates (h : registry.enumerates request = true) :
    request = .look .available ∨
      ∃ name, request = .look (.create name) ∧ registry.bindings.get? name = none := by
  rcases request with _ | (_ | name)
  · cases h
  · exact .inl rfl
  · refine .inr ⟨name, rfl, (Dictionary.contains_eq_false_iff _ _).mp ?_⟩
    simpa using (Bool.and_eq_true_iff.mp h).2

-- A lookup that does not list the plugins is the same whatever they are.
theorem look_withPlugins {lookup : Lookup} (h : registry.searches lookup = false)
    (others : List Plugin) :
    Registry.look { registry with plugins := others } lookup =
      ⟨(registry.look lookup).result, { registry with plugins := others },
        (registry.look lookup).events⟩ := by
  have hsame : Registry.searches { registry with plugins := others } lookup = false := by
    cases lookup <;> exact h
  rw [look_of_not_searches h, look_of_not_searches hsame]
  cases lookup <;> rfl

end Enumeration

section Available

variable {names : List String}

theorem available_ok (h : registry.available.result = .ok names) :
    names = registry.settled.bindings.keys.mergeSort fun a b => decide (a ≤ b) := by
  obtain ⟨_, -, rfl⟩ := Traversal.map_eq_ok_iff.mp h
  rfl

theorem mem_available_iff (h : registry.available.result = .ok names) :
    name ∈ names ↔ ∃ factory, registry.settled.bindings.get? name = some factory := by
  rw [available_ok h, List.mem_mergeSort, Dictionary.mem_keys_iff]
  exact Dictionary.contains_eq_true_iff _ _

theorem pairwise_available (h : registry.available.result = .ok names) :
    names.Pairwise (· < ·) := by
  let precedes : String → String → Bool := fun a b => decide (a ≤ b)
  let keys := registry.settled.bindings.keys
  have hsorted : (keys.mergeSort precedes).Pairwise fun a b => precedes a b = true :=
    List.pairwise_mergeSort (fun a b c => by simpa [precedes] using le_trans)
      (fun a b => by simpa [precedes] using le_total a b) keys
  have hnodup : (keys.mergeSort precedes).Nodup :=
    (List.mergeSort_perm keys precedes).nodup_iff.mpr registry.settled.bindings.keys_nodup
  rw [available_ok h]
  exact hsorted.imp₂ (fun a b hle hne => lt_of_le_of_ne (of_decide_eq_true hle) hne) hnodup

-- What is bound before the names are listed is among them, and so is what has been listed before.
theorem mem_available_of_bound (h : registry.available.result = .ok names)
    (hbound : ∃ factory, registry.bindings.get? name = some factory) : name ∈ names := by
  obtain ⟨factory, hfactory⟩ := hbound
  exact (mem_available_iff h).mpr ⟨factory, by rw [settled_get?, hfactory]; rfl⟩

theorem settled_eq_next : registry.next (.look .available) = registry.settled := by
  rw [next_look]
  split
  · rfl
  · next hsearch =>
    have hloaded : registry.isLoaded = true := by simpa [searches] using hsearch
    exact (settled_of_isLoaded hloaded).symm

end Available

theorem create_of_bound {extractor : Extractor}
    (h : registry.bindings.get? name = some (.ok (.extractor extractor))) :
    registry.create name = ⟨.ok extractor, registry, []⟩ := by
  have hcontains : registry.bindings.contains name = true :=
    (Dictionary.contains_eq_true_iff _ _).mpr ⟨_, h⟩
  rw [create, if_pos hcontains]
  simp only [h]
  rfl

-- Both names of a built-in form are bound from the start.
theorem get?_initial (plugins : List Plugin) (form : PathForm)
    (h : name ∈ [form.name, form.typeName]) :
    (initial plugins).bindings.get? name = some (.ok (.extractor form.extractor)) := by
  rcases List.mem_pair.mp h with rfl | rfl <;> cases form <;> rfl

theorem create_initial (plugins : List Plugin) (form : PathForm)
    (h : name ∈ [form.name, form.typeName]) :
    (initial plugins).create name = ⟨.ok form.extractor, initial plugins, []⟩ :=
  create_of_bound (get?_initial plugins form h)

-- The registry over whole runs. A name that is bound stays bound, with the factory that last
-- replaced its own; a name is bound by its registration, or to the first plugin with this name that
-- is come upon. A built-in form is made under its names as long as these are not replaced. The
-- plugins are listed once at most, for a list of all names or for a name that is not bound; without
-- that they make no difference. The names come in ascending order, and none gets lost.
theorem registry_over_runs (plugins : List Plugin) (requests : List Request) :
    let registry := (initial plugins).run requests
    (∀ later name factory, registry.bindings.get? name = some factory →
      (registry.run later).bindings.get? name = some ((replacement? name later).getD factory)) ∧
    (∀ request name factory, registry.bindings.get? name = none →
      ((registry.next request).bindings.get? name = some factory ↔
        (∃ replace, request = .register name factory replace) ∨
          registry.enumerates request = true ∧ ∃ plugin ∈ registry.arrivals,
            plugins.find? (·.name == name) = some plugin ∧ plugin.load = .ok factory)) ∧
    (∀ form : PathForm, ∀ name ∈ [form.name, form.typeName], replacement? name requests = none →
      registry.create name = ⟨.ok form.extractor, registry, []⟩) ∧
    ((initial plugins).enumerations requests ≤ 1 ∧
      (∀ request, registry.enumerates request = true → request = .look .available ∨
        ∃ name, request = .look (.create name) ∧ registry.bindings.get? name = none) ∧
      ∀ lookup, registry.searches lookup = false → ∀ others : List Plugin,
        Registry.look { registry with plugins := others } lookup =
          ⟨(registry.look lookup).result, { registry with plugins := others },
            (registry.look lookup).events⟩) ∧
    ∀ names, registry.available.result = .ok names →
      names.Pairwise (· < ·) ∧
      (∀ form : PathForm, form.name ∈ names ∧ form.typeName ∈ names) ∧
      (∀ name factory replace, .register name factory replace ∈ requests → name ∈ names) ∧
      ∀ before after earlier, requests = before ++ .look .available :: after →
        ((initial plugins).run before).available.result = .ok earlier → earlier ⊆ names := by
  intro registry
  refine ⟨fun later _ _ h => run_keeps later h, fun request name factory hfree => ?_,
    fun form name hname hkept => ?_,
    ⟨enumerations_le_one, fun _ => eq_of_enumerates, fun _ => look_withPlugins⟩,
    fun names hnames => ⟨pairwise_available hnames, fun form => ?_,
      fun name factory replace h => ?_, fun before after earlier hrun hearlier name hname => ?_⟩⟩
  · have hplugins : registry.plugins = plugins := run_plugins
    rw [next_binds_iff hfree, arrival?_eq_first, hplugins]
  · have hbound := run_keeps requests (get?_initial plugins form hname)
    rw [hkept] at hbound
    exact create_of_bound hbound
  · have hnamed : ∀ name ∈ [form.name, form.typeName], name ∈ names := fun name hname =>
      mem_available_of_bound hnames ⟨_, run_keeps requests (get?_initial plugins form hname)⟩
    exact ⟨hnamed _ (by simp), hnamed _ (by simp)⟩
  · exact mem_available_of_bound hnames (exists_bound_of_mem h)
  · obtain ⟨factory, hfactory⟩ := (mem_available_iff hearlier).mp hname
    rw [← settled_eq_next] at hfactory
    have hlater := run_keeps after hfactory
    rw [← run_cons, ← run_append, ← hrun] at hlater
    exact mem_available_of_bound hnames ⟨_, hlater⟩

-- A plugin under the name of a built-in form, one that is bound and one that cannot be loaded, and
-- a name that is registered before and replaced after.
theorem registry_over_runs_broken :
    let registry := (initial [tagged "hive_style", tagged "early", broken]).run
      [.register "mine" (.error ⟨.noClient, []⟩) false, .look (.create "early")]
    registry.create "hive_style" = ⟨.ok PathForm.hiveStyle.extractor, registry, []⟩ ∧
    (registry.run [.register "mine" (.ok .other) true]).bindings.get? "mine" = some (.ok .other) ∧
    ∃ names, registry.available.result = .ok names ∧ names.Pairwise (· < ·) ∧ "mine" ∈ names := by
  intro registry
  obtain ⟨hkeeps, -, hbuiltIn, -, hnames⟩ :=
    registry_over_runs [tagged "hive_style", tagged "early", broken]
      [.register "mine" (.error ⟨.noClient, []⟩) false, .look (.create "early")]
  have hmade := hbuiltIn .hiveStyle "hive_style" (by simp [PathForm.name]) rfl
  have hreplaced := hkeeps [.register "mine" (.ok .other) true] "mine" _ rfl
  obtain ⟨hsorted, -, hregistered, -⟩ := hnames _ rfl
  exact ⟨hmade, hreplaced, _, rfl, hsorted, hregistered "mine" _ false List.mem_cons_self⟩

end CatalogSync.Registry
