import CatalogSync.Dictionary
import Mathlib.Data.List.Nodup

namespace CatalogSync.Dictionary

variable {κ ν μ : Type} [DecidableEq κ]

theorem find?_put (key other : κ) (value : ν) (entries : List (κ × ν)) :
    find? other (put key value entries) =
      if key = other then some value else find? other entries := by
  induction entries with
  | nil => rfl
  | cons entry rest ih =>
      obtain ⟨k, v⟩ := entry
      by_cases hk : k = key
      · subst hk
        by_cases ho : k = other <;> simp [put, find?, ho]
      · simp only [put, if_neg hk, find?, ih]
        by_cases ho : k = other
        · subst ho
          simp [Ne.symm hk]
        · simp [ho]

theorem find?_map (f : κ → ν → μ) (key : κ) (entries : List (κ × ν)) :
    find? key (entries.map fun entry => (entry.1, f entry.1 entry.2)) =
      (find? key entries).map (f key) := by
  induction entries with
  | nil => rfl
  | cons entry rest ih =>
      obtain ⟨k, v⟩ := entry
      by_cases hk : k = key
      · subst hk
        simp [find?]
      · simp [find?, hk, ih]

theorem find?_filter (keep : κ → Bool) (key : κ) (entries : List (κ × ν)) :
    find? key (entries.filter fun entry => keep entry.1) =
      if keep key then find? key entries else none := by
  induction entries with
  | nil => simp [find?]
  | cons entry rest ih =>
      obtain ⟨k, v⟩ := entry
      by_cases hk : k = key
      · subst hk
        by_cases hkeep : keep k = true <;> simp_all [find?]
      · by_cases hkeep : keep k = true <;> simp_all [find?]

@[simp] theorem get?_empty (key : κ) : (∅ : Dictionary κ ν).get? key = none := rfl

theorem get?_insert (d : Dictionary κ ν) (key other : κ) (value : ν) :
    (d.insert key value).get? other = if key = other then some value else d.get? other :=
  find?_put key other value d.entries

theorem get?_map (d : Dictionary κ ν) (f : κ → ν → μ) (key : κ) :
    (d.map f).get? key = (d.get? key).map (f key) :=
  find?_map f key d.entries

theorem put_of_find?_none (key : κ) (value : ν) (entries : List (κ × ν))
    (h : find? key entries = none) : put key value entries = entries ++ [(key, value)] := by
  induction entries with
  | nil => rfl
  | cons entry rest ih =>
      obtain ⟨k, v⟩ := entry
      unfold find? at h
      split at h
      · cases h
      · next hk => simp [put, hk, ih h]

theorem contains_eq_false_iff (d : Dictionary κ ν) (key : κ) :
    d.contains key = false ↔ d.get? key = none := by
  unfold contains
  cases d.get? key <;> simp

-- A new key comes last.
theorem entries_insert_of_not_contains (d : Dictionary κ ν) (key : κ) (value : ν)
    (h : d.contains key = false) : (d.insert key value).entries = d.entries ++ [(key, value)] :=
  put_of_find?_none key value d.entries ((contains_eq_false_iff d key).mp h)

theorem contains_eq_true_iff (d : Dictionary κ ν) (key : κ) :
    d.contains key = true ↔ ∃ value, d.get? key = some value := by
  unfold contains
  cases d.get? key <;> simp

theorem isSome_find?_iff (key : κ) (entries : List (κ × ν)) :
    (find? key entries).isSome = true ↔ key ∈ entries.map Prod.fst := by
  induction entries with
  | nil => simp [find?]
  | cons entry rest ih =>
      obtain ⟨k, v⟩ := entry
      by_cases hk : k = key
      · simp [find?, hk]
      · simp [find?, hk, ih, Ne.symm hk]

theorem mem_keys_iff (d : Dictionary κ ν) (key : κ) : key ∈ d.keys ↔ d.contains key = true :=
  (isSome_find?_iff key d.entries).symm

theorem find?_eq_map (key : κ) (entries : List (κ × ν)) :
    find? key entries = (entries.find? (·.1 = key)).map Prod.snd := by
  induction entries with
  | nil => rfl
  | cons entry rest ih =>
      obtain ⟨k, v⟩ := entry
      by_cases hk : k = key
      · simp [find?, hk]
      · simp [find?, hk, ih]

theorem find?_append (key : κ) (first second : List (κ × ν)) :
    find? key (first ++ second) = (find? key first).or (find? key second) := by
  induction first with
  | nil => rfl
  | cons entry rest ih =>
      obtain ⟨k, v⟩ := entry
      by_cases hk : k = key
      · simp [find?, hk]
      · simp [find?, hk, ih]

theorem find?_map_key (value : κ → ν) (key : κ) (keys : List κ) :
    find? key (keys.map fun k => (k, value k)) = if key ∈ keys then some (value key) else none := by
  induction keys with
  | nil => rfl
  | cons k keys ih =>
      by_cases hk : k = key
      · simp [find?, hk]
      · simp [find?, hk, ih, Ne.symm hk]

-- Where every key occurs once, it does not matter from which end one looks for it.
theorem find?_eq_some_iff {entries : List (κ × ν)} (h : (entries.map Prod.fst).Nodup) (key : κ)
    (value : ν) : find? key entries = some value ↔ (key, value) ∈ entries := by
  induction entries with
  | nil => simp [find?]
  | cons entry rest ih =>
      obtain ⟨k, v⟩ := entry
      obtain ⟨hnew, hrest⟩ := List.nodup_cons.mp h
      by_cases hk : k = key
      · subst hk
        have hother : (k, value) ∉ rest := fun hmem => hnew (List.mem_map.mpr ⟨_, hmem, rfl⟩)
        simp [find?, hother, eq_comm]
      · simp [find?, hk, Ne.symm hk, ih hrest]

-- It does not matter either in which order they stand.
theorem get?_of_perm {d e : Dictionary κ ν} (h : d.entries.Perm e.entries) (key : κ) :
    d.get? key = e.get? key := by
  ext value
  rw [get?, get?, find?_eq_some_iff d.keys_nodup, find?_eq_some_iff e.keys_nodup, h.mem_iff]

theorem mem_values_iff (d : Dictionary κ ν) (value : ν) :
    value ∈ d.values ↔ ∃ key, d.get? key = some value := by
  simp only [values, get?, find?_eq_some_iff d.keys_nodup]
  simp

theorem find?_reverse {entries : List (κ × ν)} (h : (entries.map Prod.fst).Nodup) (key : κ) :
    find? key entries.reverse = find? key entries := by
  have hreverse : (entries.reverse.map Prod.fst).Nodup := by
    rwa [List.map_reverse, List.nodup_reverse]
  ext value
  rw [find?_eq_some_iff hreverse, find?_eq_some_iff h, List.mem_reverse]

section Ext

theorem entries_eq_of_find? {first second : List (κ × ν)}
    (hkeys : first.map Prod.fst = second.map Prod.fst) (hnodup : (first.map Prod.fst).Nodup)
    (hfind : ∀ key, find? key first = find? key second) : first = second := by
  induction first generalizing second with
  | nil => exact (List.map_eq_nil_iff.mp hkeys.symm).symm
  | cons entry first ih =>
      obtain ⟨⟨other, w⟩, second, rfl, hother, hrest⟩ := List.map_eq_cons_iff.mp hkeys.symm
      obtain ⟨key, v⟩ := entry
      obtain rfl : other = key := hother
      obtain ⟨hnew, hnodup⟩ := List.nodup_cons.mp hnodup
      have hvalue : v = w := by simpa [find?] using hfind other
      have htail : ∀ key, find? key first = find? key second := by
        intro key
        by_cases hk : other = key
        · subst hk
          have hfirst : find? other first = none := by
            rwa [← Option.not_isSome_iff_eq_none, isSome_find?_iff]
          have hsecond : find? other second = none := by
            rwa [← Option.not_isSome_iff_eq_none, isSome_find?_iff, hrest]
          rw [hfirst, hsecond]
        · simpa [find?, hk] using hfind key
      rw [hvalue, ih hrest.symm hnodup htail]

-- Dictionaries with the same keys in the same order and the same value for each key are the same.
theorem ext_get? {d e : Dictionary κ ν} (hkeys : d.keys = e.keys)
    (hget : ∀ key, d.get? key = e.get? key) : d = e := by
  have hentries : d.entries = e.entries := entries_eq_of_find? hkeys d.keys_nodup hget
  cases d
  cases e
  congr

variable (d : Dictionary κ ν)

theorem keys_insert (key : κ) (value : ν) :
    (d.insert key value).keys = if key ∈ d.keys then d.keys else d.keys ++ [key] :=
  map_fst_put key value d.entries

omit [DecidableEq κ] in
@[simp] theorem keys_map (f : κ → ν → μ) : (d.map f).keys = d.keys := by
  simp [keys, map, Function.comp_def]

-- Of two values for one key the second one counts.
theorem insert_insert (key : κ) (first second : ν) :
    (d.insert key first).insert key second = d.insert key second := by
  apply ext_get?
  · rw [keys_insert, keys_insert, keys_insert]
    by_cases hk : key ∈ d.keys <;> simp [hk]
  · intro other
    rw [get?_insert, get?_insert, get?_insert]
    by_cases hk : key = other <;> simp [hk]

omit [DecidableEq κ] in
theorem map_map {ρ : Type} (f : κ → ν → μ) (g : κ → μ → ρ) :
    (d.map f).map g = d.map fun key value => g key (f key value) := by
  simp [map, Function.comp_def]

end Ext

section InsertAll

variable (d : Dictionary κ ν)

theorem eraseDups_of_nodup {keys : List κ} (h : keys.Nodup) : keys.eraseDups = keys := by
  induction keys with
  | nil => rfl
  | cons key keys ih =>
      obtain ⟨hnew, hkeys⟩ := List.nodup_cons.mp h
      have hfilter : (keys.filter fun k => !k == key) = keys := by
        refine List.filter_eq_self.mpr fun k hk => ?_
        simpa using ne_of_mem_of_not_mem hk hnew
      rw [List.eraseDups_cons, hfilter, ih hkeys]

theorem insertAll_cons (entry : κ × ν) (entries : List (κ × ν)) :
    d.insertAll (entry :: entries) = (d.insert entry.1 entry.2).insertAll entries := rfl

-- Keys stand in the order in which they were first given.
theorem keys_insertAll (entries : List (κ × ν)) :
    (d.insertAll entries).keys = (d.keys ++ entries.map Prod.fst).eraseDups := by
  induction entries generalizing d with
  | nil =>
      rw [List.map_nil, List.append_nil]
      exact (eraseDups_of_nodup d.keys_nodup).symm
  | cons entry entries ih =>
      have hstep := ih (d.insert entry.1 entry.2)
      rw [keys_insert] at hstep
      refine hstep.trans ?_
      split
      · next hmem => simp [List.eraseDups_append, List.removeAll, hmem]
      · rw [List.append_assoc, List.map_cons, List.singleton_append]

-- The value that was given last is the one that counts.
theorem get?_insertAll (entries : List (κ × ν)) (key : κ) :
    (d.insertAll entries).get? key = (find? key entries.reverse).or (d.get? key) := by
  induction entries generalizing d with
  | nil => rfl
  | cons entry entries ih =>
      have hstep := ih (d.insert entry.1 entry.2)
      rw [get?_insert] at hstep
      rw [List.reverse_cons, find?_append, Option.or_assoc]
      refine hstep.trans (congrArg _ ?_)
      by_cases hk : entry.1 = key <;> simp [find?, hk]

-- Of two dictionaries put together the second one counts.
theorem get?_insertAll_entries (e : Dictionary κ ν) (key : κ) :
    (d.insertAll e.entries).get? key = (e.get? key).or (d.get? key) := by
  rw [get?_insertAll, find?_reverse e.keys_nodup]
  rfl

theorem keys_ofList (entries : List (κ × ν)) :
    (ofList entries).keys = (entries.map Prod.fst).eraseDups :=
  keys_insertAll empty entries

-- Without their repetitions keys are those of a dictionary.
theorem nodup_eraseDups (keys : List κ) : keys.eraseDups.Nodup := by
  have hkeys : (ofList (keys.map fun key => (key, ()))).keys = keys.eraseDups := by
    rw [keys_ofList, List.map_map]
    exact congrArg List.eraseDups (List.map_id' keys)
  rw [← hkeys]
  exact keys_nodup _

theorem get?_ofList (entries : List (κ × ν)) (key : κ) :
    (ofList entries).get? key = find? key entries.reverse :=
  (get?_insertAll empty entries key).trans (Option.or_none ..)

end InsertAll

section Restrict

-- The entries with a key in a set, in their order.
def restrict (d : Dictionary κ ν) (keep : κ → Bool) : Dictionary κ ν :=
  ⟨d.entries.filter fun entry => keep entry.1,
    d.keys_nodup.sublist (List.filter_sublist.map Prod.fst)⟩

variable (d : Dictionary κ ν) (keep : κ → Bool)

theorem filter_put (key : κ) (value : ν) (entries : List (κ × ν)) (hk : keep key = false) :
    (put key value entries).filter (fun entry => keep entry.1) =
      entries.filter fun entry => keep entry.1 := by
  induction entries with
  | nil => simp [put, hk]
  | cons entry rest ih =>
      obtain ⟨k, v⟩ := entry
      by_cases h : k = key
      · subst h
        simp [put, hk]
      · simp only [put, if_neg h, List.filter_cons, ih]

-- A change at a key outside the set leaves what is in the set as it was, and in its order.
theorem restrict_insert (key : κ) (value : ν) (hk : keep key = false) :
    (d.insert key value).restrict keep = d.restrict keep := by
  simp only [restrict, insert, filter_put keep key value d.entries hk]

theorem restrict_erase (key : κ) (hk : keep key = false) :
    (d.erase key).restrict keep = d.restrict keep := by
  have hfilter : (d.entries.filter fun entry => entry.1 ≠ key).filter (fun entry => keep entry.1) =
      d.entries.filter fun entry => keep entry.1 := by
    rw [List.filter_filter]
    apply List.filter_congr
    intro entry _
    by_cases h : entry.1 = key <;> simp [h, hk]
  simp only [restrict, erase, hfilter]

theorem get?_restrict (key : κ) :
    (d.restrict keep).get? key = if keep key then d.get? key else none :=
  find?_filter keep key d.entries

theorem restrict_eq_self (h : ∀ key, d.contains key = true → keep key = true) :
    d.restrict keep = d := by
  have hfilter : d.entries.filter (fun entry => keep entry.1) = d.entries :=
    List.filter_eq_self.mpr fun entry hentry =>
      h entry.1 ((mem_keys_iff d entry.1).mp (List.mem_map_of_mem hentry))
  simp only [restrict, hfilter]

omit [DecidableEq κ] in
theorem restrict_restrict (other : κ → Bool) :
    (d.restrict keep).restrict other = d.restrict fun key => keep key && other key := by
  simp only [restrict, List.filter_filter, Bool.and_comm]

omit [DecidableEq κ] in
theorem restrict_map (f : κ → ν → ν) (hf : ∀ key value, keep key = true → f key value = value) :
    (d.map f).restrict keep = d.restrict keep := by
  have hfilter : (d.entries.map fun entry => (entry.1, f entry.1 entry.2)).filter
      (fun entry => keep entry.1) = d.entries.filter fun entry => keep entry.1 := by
    induction d.entries with
    | nil => rfl
    | cons entry rest ih =>
        by_cases h : keep entry.1 = true
        · simp [h, hf entry.1 entry.2 h, ih]
        · simp [h, ih]
  simp only [restrict, map, hfilter]

end Restrict

end CatalogSync.Dictionary
