import CatalogSync.Extractor.Registry
import CatalogSync.Proofs.Dictionary
import Mathlib.Data.List.TakeWhile

namespace CatalogSync

-- The failure that a plugin brings up if it cannot be loaded.
def Plugin.refusal? (plugin : Plugin) : Option Failure :=
  match plugin.load with
  | .ok _ => none
  | .error failure =>
    some (failure.leadingTo (.config (.pluginNotLoaded plugin.name plugin.source)))

-- What a plugin binds its name to, if it can be loaded.
def Plugin.factory? (plugin : Plugin) : Option Factory := plugin.load.toOption

namespace Registry

-- The plugins whose names are free: of several with one name the first.
def newcomers (isTaken : String → Bool) : List Plugin → List Plugin
  | [] => []
  | plugin :: plugins =>
    if isTaken plugin.name then newcomers isTaken plugins
    else plugin :: newcomers (fun name => isTaken name || plugin.name == name) plugins

section Newcomers

variable {isTaken : String → Bool} {plugins : List Plugin} {plugin : Plugin}

theorem not_taken_of_mem_newcomers (h : plugin ∈ newcomers isTaken plugins) :
    isTaken plugin.name = false := by
  induction plugins generalizing isTaken with
  | nil => cases h
  | cons first plugins ih =>
      rw [newcomers] at h
      split at h
      · exact ih h
      · next hfree =>
        rcases List.mem_cons.mp h with rfl | hrest
        · simpa using hfree
        · have hboth := ih hrest
          exact (Bool.or_eq_false_iff.mp hboth).1

-- A newcomer is the first plugin with its name.
theorem find?_of_mem_newcomers (h : plugin ∈ newcomers isTaken plugins) :
    plugins.find? (·.name == plugin.name) = some plugin := by
  induction plugins generalizing isTaken with
  | nil => cases h
  | cons first plugins ih =>
      rw [newcomers] at h
      split at h
      · next htaken =>
        have hn : first.name ≠ plugin.name := by
          intro hn
          rw [hn, not_taken_of_mem_newcomers h] at htaken
          cases htaken
        simpa [hn] using ih h
      · rcases List.mem_cons.mp h with rfl | hrest
        · simp
        · have hn : first.name ≠ plugin.name := by
            simpa using (Bool.or_eq_false_iff.mp (not_taken_of_mem_newcomers hrest)).2
          simpa [hn] using ih hrest

-- No two newcomers have one name.
theorem pairwise_newcomers (isTaken : String → Bool) (plugins : List Plugin) :
    (newcomers isTaken plugins).Pairwise fun first second => first.name ≠ second.name := by
  induction plugins generalizing isTaken with
  | nil => exact .nil
  | cons plugin plugins ih =>
      rw [newcomers]
      split
      · exact ih isTaken
      · refine .cons (fun other hother => ?_) (ih _)
        have hboth := not_taken_of_mem_newcomers hother
        simpa using (Bool.or_eq_false_iff.mp hboth).2

end Newcomers

-- The plugins that have yet to be looked through, as far as their names are free.
def pending (registry : Registry) : List Plugin :=
  if registry.isLoaded then [] else newcomers registry.bindings.contains registry.plugins

-- Those of them that come before the first one that cannot be loaded.
def arrivals (registry : Registry) : List Plugin :=
  registry.pending.takeWhile (·.refusal?.isNone)

-- The failure of the first of them that cannot be loaded.
def refusal? (registry : Registry) : Option Failure := registry.pending.findSome? Plugin.refusal?

-- The factory that a name is bound to once the plugins have been looked through.
def arrival? (registry : Registry) (name : String) : Option Factory :=
  (registry.arrivals.find? (·.name == name)).bind Plugin.factory?

-- The registry once the plugins have been looked through.
def settled (registry : Registry) : Registry := registry.load.registry

variable {registry : Registry} {plugins : List Plugin}

theorem contains_bind (name : String) (factory : Factory) :
    (registry.bind name factory).bindings.contains =
      fun other => registry.bindings.contains other || name == other := by
  funext other
  simp only [bind, Dictionary.contains, Dictionary.get?_insert]
  by_cases hn : name = other <;> simp [hn]

-- Nothing but names is bound on the way.
theorem bindPlugins_keeps :
    (registry.bindPlugins plugins).registry.plugins = registry.plugins ∧
      (registry.bindPlugins plugins).registry.isLoaded = registry.isLoaded := by
  induction plugins generalizing registry with
  | nil => exact ⟨rfl, rfl⟩
  | cons plugin plugins ih =>
      rw [bindPlugins]
      split
      · exact ih
      · split
        · exact ⟨rfl, rfl⟩
        · exact ih

-- The newcomers are all that counts, up to the first that cannot be loaded.
theorem bindPlugins_result :
    (registry.bindPlugins plugins).result =
      match (newcomers registry.bindings.contains plugins).findSome? Plugin.refusal? with
      | none => .ok ()
      | some failure => .error failure := by
  induction plugins generalizing registry with
  | nil => rfl
  | cons plugin plugins ih =>
      rw [bindPlugins, newcomers]
      split
      · exact ih
      · cases hload : plugin.load with
        | error failure => simp [Plugin.refusal?, hload]
        | ok factory =>
            have hloaded : plugin.refusal? = none := by rw [Plugin.refusal?, hload]
            simp only [List.findSome?_cons, hloaded]
            rw [ih, contains_bind]

theorem bindPlugins_get? (name : String) :
    (registry.bindPlugins plugins).registry.bindings.get? name =
      (registry.bindings.get? name).or
        ((((newcomers registry.bindings.contains plugins).takeWhile (·.refusal?.isNone)).find?
          (·.name == name)).bind Plugin.factory?) := by
  induction plugins generalizing registry with
  | nil => simp [bindPlugins, newcomers]
  | cons plugin plugins ih =>
      rw [bindPlugins, newcomers]
      split
      · exact ih
      · next hfree =>
        cases hload : plugin.load with
        | error failure => simp [Plugin.refusal?, hload]
        | ok factory =>
            have hloaded : plugin.refusal? = none := by rw [Plugin.refusal?, hload]
            have hfactory : plugin.factory? = some factory := by rw [Plugin.factory?, hload]; rfl
            simp only [List.takeWhile_cons, hloaded, Option.isNone_none, ite_true,
              List.find?_cons]
            rw [ih, contains_bind]
            by_cases hn : plugin.name = name
            · subst hn
              have hnone : registry.bindings.get? plugin.name = none :=
                (Dictionary.contains_eq_false_iff _ _).mp (by simpa using hfree)
              simp [bind, Dictionary.get?_insert, hnone, hfactory]
            · have hother : (plugin.name == name) = false := by simpa using hn
              simp [bind, Dictionary.get?_insert, hn, hother]

theorem load_of_isLoaded (h : registry.isLoaded = true) :
    registry.load = ⟨.ok (), registry, []⟩ := by
  rw [load, if_pos h]

theorem settled_of_isLoaded (h : registry.isLoaded = true) : registry.settled = registry := by
  rw [settled, load_of_isLoaded h]

theorem settled_isLoaded : registry.settled.isLoaded = true := by
  rw [settled, load]
  split
  · assumption
  · exact bindPlugins_keeps.2

theorem settled_plugins : registry.settled.plugins = registry.plugins := by
  rw [settled, load]
  split
  · rfl
  · exact bindPlugins_keeps.1

theorem load_result :
    registry.load.result =
      match registry.refusal? with
      | none => .ok ()
      | some failure => .error failure := by
  rw [load, refusal?, pending]
  split
  · rfl
  · exact bindPlugins_result

-- Names that are bound keep their factories, and those of the arrivals come to them.
theorem settled_get? (name : String) :
    registry.settled.bindings.get? name =
      (registry.bindings.get? name).or (registry.arrival? name) := by
  rw [settled, load, arrival?, arrivals, pending]
  split
  · simp
  · exact bindPlugins_get? name

theorem exists_factory_of_refusal? {plugin : Plugin} (h : plugin.refusal?.isNone = true) :
    ∃ factory, plugin.load = .ok factory := by
  rw [Plugin.refusal?] at h
  split at h
  · next factory hload => exact ⟨factory, hload⟩
  · cases h

-- An arrival is the first plugin with its name, which is free before.
theorem of_mem_arrivals {plugin : Plugin} (h : plugin ∈ registry.arrivals) :
    registry.bindings.get? plugin.name = none ∧
      registry.plugins.find? (·.name == plugin.name) = some plugin ∧
      ∃ factory, plugin.load = .ok factory := by
  have hpending := (List.takeWhile_prefix _).subset h
  have hloads := List.mem_takeWhile_imp h
  rw [pending] at hpending
  split at hpending
  · cases hpending
  · have hfree := not_taken_of_mem_newcomers hpending
    exact ⟨(Dictionary.contains_eq_false_iff _ _).mp hfree, find?_of_mem_newcomers hpending,
      exists_factory_of_refusal? hloads⟩

theorem arrival?_eq_some_iff {name : String} {factory : Factory} :
    registry.arrival? name = some factory ↔
      ∃ plugin ∈ registry.arrivals, plugin.name = name ∧ plugin.load = .ok factory := by
  have hload : ∀ plugin : Plugin, plugin.factory? = some factory ↔ plugin.load = .ok factory := by
    intro plugin
    rw [Plugin.factory?]
    cases plugin.load <;> simp [Except.toOption]
  simp only [arrival?, Option.bind_eq_some_iff, hload]
  constructor
  · rintro ⟨plugin, hfind, hplugin⟩
    exact ⟨plugin, List.mem_of_find?_eq_some hfind, by simpa using List.find?_some hfind, hplugin⟩
  · rintro ⟨plugin, hmem, rfl, hplugin⟩
    cases hfind : registry.arrivals.find? (·.name == plugin.name) with
    | none =>
        have hnone := List.find?_eq_none.mp hfind plugin hmem
        simp at hnone
    | some other =>
        -- Both are the first plugin with the name.
        have hname : other.name = plugin.name := by simpa using List.find?_some hfind
        have hother := (of_mem_arrivals (List.mem_of_find?_eq_some hfind)).2.1
        rw [hname, (of_mem_arrivals hmem).2.1] at hother
        rw [← Option.some.inj hother]
        exact ⟨plugin, rfl, hplugin⟩

-- Where no item occurs twice, one is passed exactly when all those in front of it are.
theorem mem_takeWhile_iff {α : Type} {p : α → Bool} {before after : List α} {item : α}
    (hnodup : (before ++ item :: after).Nodup) (hitem : p item = true) :
    item ∈ (before ++ item :: after).takeWhile p ↔ before.all p = true := by
  induction before with
  | nil => simp [hitem]
  | cons first before ih =>
      rw [List.cons_append, List.nodup_cons] at hnodup
      have hne : item ≠ first := by
        rintro rfl
        exact hnodup.1 (by simp)
      cases hfirst : p first with
      | false => simp [hfirst]
      | true => simpa [hfirst, hne] using ih hnodup.2

-- A plugin that can be loaded gets its name unless another one in front of it is in the way.
theorem settled_get?_of_pending {before after : List Plugin} {plugin : Plugin} {factory : Factory}
    (hpending : registry.pending = before ++ plugin :: after) (hload : plugin.load = .ok factory) :
    registry.settled.bindings.get? plugin.name =
      if before.all (·.refusal?.isNone) then some factory else none := by
  have hnew : newcomers registry.bindings.contains registry.plugins =
      before ++ plugin :: after := by
    rw [← hpending]
    rw [pending] at hpending ⊢
    split
    · next hloaded => simp [hloaded] at hpending
    · rfl
  have hmem : plugin ∈ newcomers registry.bindings.contains registry.plugins := by simp [hnew]
  have harrives : plugin ∈ registry.arrivals ↔ before.all (·.refusal?.isNone) = true := by
    have hnodup : (before ++ plugin :: after).Nodup :=
      hnew ▸ (pairwise_newcomers _ _).imp fun hname heq => hname (congrArg Plugin.name heq)
    rw [arrivals, hpending]
    exact mem_takeWhile_iff hnodup (by rw [Plugin.refusal?, hload]; rfl)
  have hfree : registry.bindings.get? plugin.name = none :=
    (Dictionary.contains_eq_false_iff _ _).mp (not_taken_of_mem_newcomers hmem)
  rw [settled_get?, hfree, Option.none_or]
  split
  · next hall => exact arrival?_eq_some_iff.mpr ⟨plugin, harrives.mpr hall, rfl, hload⟩
  · next hblocked =>
    rw [Option.eq_none_iff_forall_not_mem]
    intro found hfound
    obtain ⟨other, hother, hname, -⟩ := arrival?_eq_some_iff.mp hfound
    have hfirst := (of_mem_arrivals hother).2.1
    rw [hname, find?_of_mem_newcomers hmem] at hfirst
    rw [← Option.some.inj hfirst] at hother
    exact hblocked (harrives.mp hother)

end Registry

end CatalogSync
