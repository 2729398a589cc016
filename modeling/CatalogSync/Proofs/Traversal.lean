namespace CatalogSync.Traversal

variable {α β ε : Type} {f : α → Except ε β}

-- A traversal succeeds when every item gives a value, and gives these values in order.
theorem mapM_eq_ok_iff (items : List α) (values : List β) :
    items.mapM f = .ok values ↔ items.map f = values.map .ok := by
  induction items generalizing values with
  | nil => cases values <;> simp [pure, Except.pure]
  | cons item items ih =>
      rw [List.mapM_cons, List.map_cons]
      cases hf : f item with
      | error failure => cases values <;> simp [bind, Except.bind]
      | ok value =>
          cases values with
          | nil => cases hm : items.mapM f <;> simp [bind, Except.bind, pure, Except.pure]
          | cons first values =>
              simp only [List.map_cons, List.cons.injEq, Except.ok.injEq, ← ih]
              cases hm : items.mapM f <;> simp [bind, Except.bind, pure, Except.pure]

theorem mapM_ok_of_forall {g : α → β} {items : List α}
    (h : ∀ item ∈ items, f item = .ok (g item)) : items.mapM f = .ok (items.map g) := by
  rw [mapM_eq_ok_iff, List.map_map]
  exact List.map_congr_left h

theorem length_of_mapM_ok {items : List α} {values : List β} (h : items.mapM f = .ok values) :
    values.length = items.length := by
  have hl := congrArg List.length ((mapM_eq_ok_iff items values).mp h)
  simpa using hl.symm

-- A traversal that can be carried out can be cut at any of its items.
theorem exists_split_of_mapM {items : List α} {values : List β} (h : items.mapM f = .ok values)
    {i : Nat} {item : α} (hitem : items[i]? = some item) :
    ∃ value, f item = .ok value ∧ values = values.take i ++ value :: values.drop (i + 1) ∧
      (items.take i).mapM f = .ok (values.take i) := by
  rw [mapM_eq_ok_iff] at h
  have hat := congrArg (·[i]?) h
  simp only [List.getElem?_map, hitem, Option.map_some] at hat
  obtain ⟨value, hvalue, hok⟩ := Option.map_eq_some_iff.mp hat.symm
  refine ⟨value, hok.symm, ?_, ?_⟩
  · obtain ⟨hlt, rfl⟩ := List.getElem?_eq_some_iff.mp hvalue
    rw [List.getElem_cons_drop, List.take_append_drop]
  · rw [mapM_eq_ok_iff, List.map_take, h, List.map_take]

-- What another function makes of the items can be read off the values.
theorem mapM_ok_of_imp {γ : Type} {g : α → Except ε γ} {read : β → γ} {items : List α}
    {values : List β} (h : items.mapM f = .ok values)
    (hg : ∀ item value, f item = .ok value → g item = .ok (read value)) :
    items.mapM g = .ok (values.map read) := by
  induction items generalizing values with
  | nil =>
      obtain rfl := Except.ok.inj h
      rfl
  | cons item items ih =>
      rw [mapM_eq_ok_iff, List.map_cons] at h
      obtain ⟨first, rest, rfl, hfirst, hrest⟩ := List.map_eq_cons_iff.mp h.symm
      have htail := ih ((mapM_eq_ok_iff _ _).mpr hrest.symm)
      rw [List.mapM_cons, hg item first hfirst.symm, htail]
      rfl

-- If the item can be read off its value, the values give the items back.
theorem map_of_mapM_ok {read : β → α} {items : List α} {values : List β}
    (h : items.mapM f = .ok values) (hread : ∀ item value, f item = .ok value → read value = item) :
    values.map read = items := by
  have hitems := mapM_ok_of_imp h fun item value hvalue =>
    congrArg (@Except.ok ε α) (hread item value hvalue).symm
  exact ((List.map_inj_right fun _ _ => Except.ok.inj).mp
    ((mapM_eq_ok_iff items _).mp hitems)).symm

theorem mapM_reverse_ok {items : List α} {values : List β} (h : items.mapM f = .ok values) :
    items.reverse.mapM f = .ok values.reverse := by
  rw [mapM_eq_ok_iff, List.map_reverse, List.map_reverse, (mapM_eq_ok_iff _ _).mp h]

-- The first value of some kind belongs to the first item of the same kind.
theorem find?_of_mapM_ok {p : α → Bool} {q : β → Bool} {items : List α} {values : List β}
    (h : items.mapM f = .ok values) (hkind : ∀ item value, f item = .ok value → p item = q value) :
    (values.find? q).map .ok = (items.find? p).map f := by
  induction items generalizing values with
  | nil =>
      obtain rfl := Except.ok.inj h
      rfl
  | cons item items ih =>
      rw [mapM_eq_ok_iff, List.map_cons] at h
      obtain ⟨first, rest, rfl, hfirst, hrest⟩ := List.map_eq_cons_iff.mp h.symm
      have htail := ih ((mapM_eq_ok_iff _ _).mpr hrest.symm)
      rw [List.find?_cons, List.find?_cons, hkind item first hfirst.symm]
      cases q first with
      | true => exact congrArg some hfirst
      | false => exact htail

theorem exists_of_mem_mapM_ok {items : List α} {values : List β} (h : items.mapM f = .ok values)
    {value : β} (hv : value ∈ values) : ∃ item ∈ items, f item = .ok value := by
  have hm : Except.ok value ∈ values.map (@Except.ok ε β) := List.mem_map_of_mem hv
  rw [← (mapM_eq_ok_iff items values).mp h] at hm
  obtain ⟨item, hi, he⟩ := List.mem_map.mp hm
  exact ⟨item, hi, he⟩

theorem exists_mem_of_mapM_ok {items : List α} {values : List β} (h : items.mapM f = .ok values)
    {item : α} (hi : item ∈ items) : ∃ value ∈ values, f item = .ok value := by
  have hm : f item ∈ items.map f := List.mem_map_of_mem hi
  rw [(mapM_eq_ok_iff items values).mp h] at hm
  obtain ⟨value, hv, he⟩ := List.mem_map.mp hm
  exact ⟨value, hv, he.symm⟩

theorem bind_eq_ok_iff {result : Except ε α} {value : β} :
    (result >>= f) = .ok value ↔ ∃ found, result = .ok found ∧ f found = .ok value := by
  cases result <;> simp [bind, Except.bind]

theorem bind_eq_error_iff {result : Except ε α} {failure : ε} :
    (result >>= f) = .error failure ↔
      result = .error failure ∨ ∃ value, result = .ok value ∧ f value = .error failure := by
  cases result <;> simp [bind, Except.bind]

-- A traversal fails at the first item that gives no value.
theorem exists_first_of_mapM_error {items : List α} {failure : ε}
    (h : items.mapM f = .error failure) :
    ∃ before item after values, items = before ++ item :: after ∧
      before.mapM f = .ok values ∧ f item = .error failure := by
  induction items with
  | nil => cases h
  | cons item items ih =>
      rw [List.mapM_cons] at h
      rcases bind_eq_error_iff.mp h with hf | ⟨value, hvalue, hrest⟩
      · exact ⟨[], item, items, [], rfl, rfl, hf⟩
      · rcases bind_eq_error_iff.mp hrest with hm | ⟨values, -, hpure⟩
        · obtain ⟨before, found, after, values, rfl, hbefore, he⟩ := ih hm
          refine ⟨item :: before, found, after, value :: values, rfl, ?_, he⟩
          rw [List.mapM_cons, hvalue, hbefore]
          rfl
        · cases hpure

-- A traversal goes through if every single item gives a value.
theorem exists_mapM_ok_iff {items : List α} :
    (∃ values, items.mapM f = .ok values) ↔ ∀ item ∈ items, ∃ value, f item = .ok value := by
  induction items with
  | nil => exact iff_of_true ⟨[], rfl⟩ (List.forall_mem_nil _)
  | cons item items ih =>
      rw [List.forall_mem_cons, ← ih]
      constructor
      · rintro ⟨values, h⟩
        rw [mapM_eq_ok_iff, List.map_cons] at h
        obtain ⟨first, rest, rfl, hfirst, hrest⟩ := List.map_eq_cons_iff.mp h.symm
        exact ⟨⟨first, hfirst.symm⟩, rest, (mapM_eq_ok_iff _ _).mpr hrest.symm⟩
      · rintro ⟨⟨first, hfirst⟩, rest, hrest⟩
        refine ⟨first :: rest, ?_⟩
        rw [mapM_eq_ok_iff, List.map_cons, List.map_cons, hfirst, (mapM_eq_ok_iff _ _).mp hrest]

-- A traversal fails with a failure of an item before which all items give a value.
theorem mapM_eq_error_iff {items : List α} {failure : ε} :
    items.mapM f = .error failure ↔ ∃ before item after, items = before ++ item :: after ∧
      (∀ earlier ∈ before, ∃ value, f earlier = .ok value) ∧ f item = .error failure := by
  constructor
  · intro h
    obtain ⟨before, item, after, values, rfl, hbefore, hitem⟩ := exists_first_of_mapM_error h
    exact ⟨before, item, after, rfl, exists_mapM_ok_iff.mp ⟨values, hbefore⟩, hitem⟩
  · rintro ⟨before, item, after, rfl, hbefore, hitem⟩
    obtain ⟨values, hvalues⟩ := exists_mapM_ok_iff.mpr hbefore
    rw [List.mapM_append, hvalues, List.mapM_cons, hitem]
    rfl

theorem exists_of_mapM_error {items : List α} {failure : ε} (h : items.mapM f = .error failure) :
    ∃ item ∈ items, f item = .error failure := by
  obtain ⟨before, item, after, -, rfl, -, he⟩ := exists_first_of_mapM_error h
  exact ⟨item, List.mem_append_right _ List.mem_cons_self, he⟩

theorem map_eq_ok_iff {result : Except ε α} {g : α → β} {value : β} :
    result.map g = .ok value ↔ ∃ found, result = .ok found ∧ g found = value := by
  cases result with
  | error failure => exact iff_of_false nofun fun ⟨_, h, _⟩ => nomatch h
  | ok found =>
      refine ⟨fun h => ⟨found, rfl, Except.ok.inj h⟩, ?_⟩
      rintro ⟨other, h, rfl⟩
      rw [h]
      rfl

theorem map_eq_error_iff {result : Except ε α} {g : α → β} {failure : ε} :
    result.map g = .error failure ↔ result = .error failure := by
  cases result <;> simp [Except.map]

-- What a result fails with, if it fails.
def error? : Except ε α → Option ε
  | .ok _ => none
  | .error failure => some failure

theorem error?_eq_some_iff {result : Except ε α} {failure : ε} :
    error? result = some failure ↔ result = .error failure := by
  cases result <;> simp [error?]

theorem error?_eq_none_iff {result : Except ε α} :
    error? result = none ↔ ∃ value, result = .ok value := by
  cases result <;> simp [error?]

theorem eq_ok_of_toOption {result : Except ε β} {value : β} (h : result.toOption = some value) :
    result = .ok value := by
  cases result with
  | error failure => cases h
  | ok found =>
      cases h
      rfl

end CatalogSync.Traversal
