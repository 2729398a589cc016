import CatalogSync.Proofs.Extractor.Segments

namespace CatalogSync.PathForm

open CatalogSync.Text

-- A segment that gives a key a value.
def segment (pair : String × String) : String := pair.1 ++ "=" ++ pair.2

-- The path of a partition with one segment for each key.
def hivePath (pairs : List (String × String)) : String := "/".intercalate (pairs.map segment)

-- The key and the value have no separator in them, and there is a value.
structure IsPlain (pair : String × String) : Prop where
  key_slash : '/' ∉ pair.1.toList
  key_equals : '=' ∉ pair.1.toList
  value_slash : '/' ∉ pair.2.toList
  value_equals : '=' ∉ pair.2.toList
  value_ne : pair.2 ≠ ""

instance decidableIsPlain (pair : String × String) : Decidable (IsPlain pair) :=
  decidable_of_iff ('/' ∉ pair.1.toList ∧ '=' ∉ pair.1.toList ∧ '/' ∉ pair.2.toList ∧
      '=' ∉ pair.2.toList ∧ pair.2 ≠ "")
    ⟨fun ⟨h₁, h₂, h₃, h₄, h₅⟩ => ⟨h₁, h₂, h₃, h₄, h₅⟩,
      fun ⟨h₁, h₂, h₃, h₄, h₅⟩ => ⟨h₁, h₂, h₃, h₄, h₅⟩⟩

theorem slash_not_mem_segment {pair : String × String} (h : IsPlain pair) :
    '/' ∉ (segment pair).toList := by
  have hequals : '/' ∉ "=".toList := by decide
  simp only [segment, String.toList_append, List.mem_append, not_or]
  exact ⟨⟨h.key_slash, hequals⟩, h.value_slash⟩

-- The values of a path are those of its segments in order. The keys in front are not looked at.
theorem multiPartValues_hivePath {pairs : List (String × String)}
    (hplain : ∀ pair ∈ pairs, IsPlain pair) :
    multiPartValues (hivePath pairs) = .ok (pairs.map Prod.snd) := by
  by_cases hne : pairs = []
  · subst hne
    rfl
  · have hspells : List.Forall₂ Spells (pairs.map segment) (pairs.map Prod.snd) := by
      rw [List.forall₂_map_left_iff, List.forall₂_map_right_iff, List.forall₂_same]
      intro pair hpair
      have h := hplain pair hpair
      exact .keyed h.key_equals h.value_equals h.value_ne
    have hfree : ∀ text ∈ pairs.map segment, '/' ∉ text.toList := by
      intro text htext
      obtain ⟨pair, hpair, rfl⟩ := List.mem_map.mp htext
      exact slash_not_mem_segment (hplain pair hpair)
    have hvalues : "" ∉ pairs.map Prod.snd := by
      intro hempty
      obtain ⟨pair, hpair, hvalue⟩ := List.mem_map.mp hempty
      exact (hplain pair hpair).value_ne hvalue
    have hpath := multiPartValues_intercalate (by simpa using hne) hspells hfree hvalues 0 0
    simpa [slashes, hivePath] using hpath

-- Values meet the keys of a table by position alone. A path with one segment for every key gives
-- each key the value of the segment at its place, whatever key is named there; a path with more or
-- fewer segments is refused.
theorem extract_hivePath (pairs : List (String × String)) (keys : List String)
    (hplain : ∀ pair ∈ pairs, IsPlain pair) :
    multiPart.extractor.extract (hivePath pairs) (some keys) =
      if pairs.length = keys.length then .ok (pairs.map Prod.snd)
      else .error (.values (.count (hivePath pairs) (pairs.map Prod.snd) keys)) := by
  have hvalues : multiPart.extractor.values (hivePath pairs) = .ok (pairs.map Prod.snd) :=
    multiPartValues_hivePath hplain
  simp only [Extractor.extract, hvalues, bind, Except.bind, List.length_map]

-- A path that names the keys in another order.
theorem extract_hivePath_permuted :
    multiPart.extractor.extract (hivePath [("day", "1"), ("region", "eu")])
      (some ["region", "day"]) = .ok ["1", "eu"] :=
  extract_hivePath [("day", "1"), ("region", "eu")] ["region", "day"] (by decide)

-- The values of an extraction need not belong to the keys that they are counted against.
theorem extract_not_by_name :
    ¬∀ (keys values : List String) (pairs : List (String × String)),
      (∀ pair ∈ pairs, IsPlain pair) →
      multiPart.extractor.extract (hivePath pairs) (some keys) = .ok values →
      pairs.map Prod.fst = keys ∧ pairs.map Prod.snd = values := by
  intro h
  have hok : multiPart.extractor.extract (hivePath [("day", "1"), ("region", "eu")])
      (some ["region", "day"]) = .ok ["1", "eu"] :=
    Traversal.eq_ok_of_toOption (by decide +kernel)
  have hnames := (h _ _ [("day", "1"), ("region", "eu")] (by decide) hok).1
  exact absurd hnames (by decide)

end CatalogSync.PathForm
