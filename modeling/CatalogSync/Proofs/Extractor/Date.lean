import CatalogSync.Proofs.Extractor.Segments
import CatalogSync.Proofs.Numeral.Padded

namespace CatalogSync.PathForm

open CatalogSync.Text CatalogSync.Numeral

-- The numbers of a date behind the first, each with the minus that joins it to those before.
def laterDigits (numbers : List Int) : List Char := numbers.flatMap fun n => '-' :: padded 2 n

theorem head?_laterDigits (numbers : List Int) :
    ∀ c ∈ (laterDigits numbers).head?, c.isDigit = false := by
  cases numbers with
  | nil => exact nofun
  | cons n numbers =>
      intro c hc
      obtain rfl : '-' = c := Option.some.inj hc
      decide

-- The digits tell the numbers apart, although a minus may be a sign or stand between two numbers.
theorem padded_append_inj {width : Nat} {m n : Int} {ms ns : List Int}
    (h : padded width m ++ laterDigits ms = padded width n ++ laterDigits ns) :
    m = n ∧ laterDigits ms = laterDigits ns := by
  have hleading := congrArg leading h
  rw [leading_padded _ _ (head?_laterDigits ms), leading_padded _ _ (head?_laterDigits ns)]
    at hleading
  exact Prod.mk.inj hleading

theorem laterDigits_injective : Function.Injective laterDigits := by
  intro ms
  induction ms with
  | nil =>
      intro ns h
      cases ns with
      | nil => rfl
      | cons n ns => cases h
  | cons m ms ih =>
      intro ns h
      cases ns with
      | nil => cases h
      | cons n ns =>
          obtain ⟨rfl, hlater⟩ := padded_append_inj (List.cons.inj h).2
          rw [ih hlater]

-- The texts of the numbers in a date.
def dateTexts : List Int → List String
  | [] => []
  | year :: rest => .ofList (padded 4 year) :: rest.map fun n => .ofList (padded 2 n)

theorem dateValue_eq (numbers : List Int) :
    dateValue numbers = "-".intercalate (dateTexts numbers) := by
  cases numbers <;> rfl

theorem dateValue_toList (year : Int) (rest : List Int) :
    (dateValue (year :: rest)).toList = padded 4 year ++ laterDigits rest := by
  rw [dateValue_eq, dateTexts, toList_intercalate_cons, String.toList_ofList, List.flatMap_map]
  simp [laterDigits]

theorem dateValue_injective : Function.Injective dateValue := by
  intro ms ns h
  have hchars := congrArg String.toList h
  match ms, ns with
  | [], [] => rfl
  | m :: ms, n :: ns =>
      rw [dateValue_toList, dateValue_toList] at hchars
      obtain ⟨rfl, hlater⟩ := padded_append_inj hchars
      rw [laterDigits_injective hlater]
  | [], n :: ns =>
      rw [dateValue_toList] at hchars
      exact absurd (List.append_eq_nil_iff.mp hchars.symm).1 (padded_ne_nil 4 n)
  | m :: ms, [] =>
      rw [dateValue_toList] at hchars
      exact absurd (List.append_eq_nil_iff.mp hchars).1 (padded_ne_nil 4 m)

theorem dateNumbers_eq_ok_iff {texts : List String} {numbers : List Int} :
    dateNumbers texts = .ok numbers ↔ texts.map read? = numbers.map some := by
  induction texts generalizing numbers with
  | nil => cases numbers <;> simp [dateNumbers]
  | cons text texts ih =>
      rw [dateNumbers, List.map_cons]
      cases hread : read? text with
      | none => cases numbers <;> simp
      | some n =>
          simp only [Traversal.map_eq_ok_iff, ih]
          constructor
          · rintro ⟨found, hfound, rfl⟩
            rw [List.map_cons, hfound]
          · intro h
            obtain ⟨first, rest, rfl, hfirst, hrest⟩ := List.map_eq_cons_iff.mp h.symm
            exact ⟨rest, hrest.symm, by rw [Option.some.inj hfirst]⟩

theorem length_of_dateNumbers {texts : List String} {numbers : List Int}
    (h : dateNumbers texts = .ok numbers) : numbers.length = texts.length := by
  have hlength := congrArg List.length (dateNumbers_eq_ok_iff.mp h)
  simpa using hlength.symm

-- A path is accepted if it has the right number of segments and each is a number.
theorem slashValues_eq_ok_iff {count : Nat} {form path : String} {values : List String} :
    slashValues count form path = .ok values ↔ ∃ numbers,
      (segments path).map read? = numbers.map some ∧ numbers.length = count ∧
      values = [dateValue numbers] := by
  have hsegments : split '/' (trimSlashes path) = segments path := rfl
  simp only [← dateNumbers_eq_ok_iff, slashValues, hsegments]
  by_cases hcount : (segments path).length = count
  · rw [if_neg (not_not.mpr hcount)]
    cases hnumbers : dateNumbers (segments path) with
    | error failure => simp
    | ok numbers =>
        have hlength := (length_of_dateNumbers hnumbers).trans hcount
        simp [hlength, eq_comm]
  · rw [if_pos hcount]
    refine iff_of_false nofun ?_
    rintro ⟨numbers, hnumbers, hlength, -⟩
    exact hcount ((length_of_dateNumbers hnumbers).symm.trans hlength)

-- The forms whose value is a date.
def IsDate (form : PathForm) : Prop := form = slashDay ∨ form = slashHour

theorem IsDate.exists_count {form : PathForm} (h : IsDate form) :
    ∃ count, ∀ path values, form.values path = .ok values ↔ ∃ numbers,
      (segments path).map read? = numbers.map some ∧ numbers.length = count ∧
      values = [dateValue numbers] := by
  obtain rfl | rfl := h
  · refine ⟨3, fun path values => ?_⟩
    rw [PathForm.values, slashValues_eq_ok_iff]
  · refine ⟨4, fun path values => ?_⟩
    rw [PathForm.values, slashValues_eq_ok_iff]

theorem exists_of_mem_numbers {texts : List String} {numbers : List Int}
    (h : texts.map read? = numbers.map some) {n : Int} (hn : n ∈ numbers) :
    ∃ text ∈ texts, read? text = some n := by
  rw [← List.mem_map, h]
  exact List.mem_map_of_mem hn

-- A date with slashes in place of the minus signs.
def slashed (value : String) : String := value.map fun c => if c = '-' then '/' else c

theorem exists_padded_of_mem_dateTexts {numbers : List Int} {text : String}
    (h : text ∈ dateTexts numbers) :
    ∃ width, ∃ n ∈ numbers, text = .ofList (padded width n) := by
  match numbers with
  | [] => cases h
  | year :: rest =>
      rcases List.mem_cons.mp h with rfl | hlater
      · exact ⟨4, year, List.mem_cons_self, rfl⟩
      · obtain ⟨n, hn, rfl⟩ := List.mem_map.mp hlater
        exact ⟨2, n, List.mem_cons_of_mem _ hn, rfl⟩

theorem isDigit_of_mem_dateTexts {numbers : List Int} (h : ∀ n ∈ numbers, 0 ≤ n) {text : String}
    (htext : text ∈ dateTexts numbers) {c : Char} (hc : c ∈ text.toList) : c.isDigit = true := by
  obtain ⟨width, n, hn, rfl⟩ := exists_padded_of_mem_dateTexts htext
  rw [String.toList_ofList] at hc
  exact isDigit_of_mem_padded (h n hn) hc

theorem slashed_eq_self {text : String} (h : '-' ∉ text.toList) : slashed text = text := by
  apply String.toList_injective
  rw [slashed, String.toList_map]
  have hself : ∀ c ∈ text.toList, (if c = '-' then '/' else c) = id c := by
    intro c hc
    rw [if_neg, id]
    rintro rfl
    exact h hc
  rw [List.map_congr_left hself, List.map_id]

-- Without signs every minus stands between two numbers.
theorem slashed_dateValue {numbers : List Int} (h : ∀ n ∈ numbers, 0 ≤ n) :
    slashed (dateValue numbers) = "/".intercalate (dateTexts numbers) := by
  have htexts : (dateTexts numbers).map slashed = (dateTexts numbers).map id := by
    apply List.map_congr_left
    intro text htext
    exact slashed_eq_self fun hminus =>
      absurd (isDigit_of_mem_dateTexts h htext hminus) (by decide)
  have hglue : slashed "-" = "/" := by decide +kernel
  calc
    slashed (dateValue numbers) = (slashed "-").intercalate ((dateTexts numbers).map slashed) := by
      rw [slashed, dateValue_eq, map_intercalate]
      rfl
    _ = "/".intercalate (dateTexts numbers) := by rw [hglue, htexts, List.map_id]

theorem segments_slashed {numbers : List Int} (hne : numbers ≠ []) (h : ∀ n ∈ numbers, 0 ≤ n) :
    segments (slashed (dateValue numbers)) = dateTexts numbers := by
  rw [slashed_dateValue h]
  apply segments_intercalate
  · cases numbers with
    | nil => exact absurd rfl hne
    | cons year rest => exact List.cons_ne_nil _ _
  · intro hempty
    obtain ⟨width, n, -, heq⟩ := exists_padded_of_mem_dateTexts hempty
    exact padded_ne_nil width n (String.ofList_eq_empty_iff.mp heq.symm)
  · intro text htext hslash
    exact absurd (isDigit_of_mem_dateTexts h htext hslash) (by decide)

theorem read?_dateTexts {numbers : List Int}
    (h : ∀ n ∈ numbers, (Nat.toDigits 10 n.natAbs).length ≤ digitLimit) :
    (dateTexts numbers).map read? = numbers.map some := by
  match numbers with
  | [] => rfl
  | year :: rest =>
      obtain ⟨hyear, hrest⟩ := List.forall_mem_cons.mp h
      have hlater : (rest.map fun n => String.ofList (padded 2 n)).map read? = rest.map some := by
        rw [List.map_map]
        apply List.map_congr_left
        intro n hn
        rw [Function.comp_apply, read?_padded (by decide) (hrest n hn)]
      rw [dateTexts, List.map_cons, List.map_cons, read?_padded (by decide) hyear, hlater]

-- The path that a date without signs spells is read like the path that the date was read off.
theorem read?_segments_slashed {path : String} {numbers : List Int}
    (h : (segments path).map read? = numbers.map some) (hnonneg : ∀ n ∈ numbers, 0 ≤ n) :
    (segments (slashed (dateValue numbers))).map read? = numbers.map some := by
  have hne : numbers ≠ [] := by
    rintro rfl
    exact segments_ne_nil path (List.map_eq_nil_iff.mp h)
  rw [segments_slashed hne hnonneg]
  apply read?_dateTexts
  intro n hn
  obtain ⟨text, -, hread⟩ := exists_of_mem_numbers h hn
  exact length_toDigits_of_read? hread

-- Two dates are the same value if they are the same numbers, however these are spelled and whatever
-- their signs. A date without signs also spells a path that it is read off.
theorem dates_identify_numbers :
    (∀ form other, IsDate form → IsDate other → ∀ p q v w,
      form.values p = .ok v → other.values q = .ok w →
      (v = w ↔ (segments p).map read? = (segments q).map read?)) ∧
    ∀ form, IsDate form → ∀ path values, form.values path = .ok values →
      (∀ text ∈ segments path, ∃ n : Nat, read? text = some (n : Int)) →
      ∃ value, values = [value] ∧ form.values (slashed value) = .ok [value] := by
  constructor
  · intro form other hform hother p q v w hv hw
    obtain ⟨count, hform⟩ := hform.exists_count
    obtain ⟨count', hother⟩ := hother.exists_count
    obtain ⟨ms, hms, -, rfl⟩ := (hform p v).mp hv
    obtain ⟨ns, hns, -, rfl⟩ := (hother q w).mp hw
    rw [hms, hns, List.singleton_inj, dateValue_injective.eq_iff,
      (List.map_injective_iff.mpr fun _ _ => Option.some.inj).eq_iff]
  · intro form hform path values hvalues hnatural
    obtain ⟨count, hform⟩ := hform.exists_count
    obtain ⟨numbers, hread, hlength, rfl⟩ := (hform path values).mp hvalues
    have hnonneg : ∀ n ∈ numbers, 0 ≤ n := by
      intro n hn
      obtain ⟨text, htext, hn⟩ := exists_of_mem_numbers hread hn
      obtain ⟨m, hm⟩ := hnatural text htext
      rw [Option.some.inj (hn.symm.trans hm)]
      exact Int.natCast_nonneg m
    exact ⟨_, rfl, (hform _ _).mpr
      ⟨numbers, read?_segments_slashed hread hnonneg, hlength, rfl⟩⟩

-- Blanks, signs, an underscore and digits of another script make no other date.
theorem dates_identify_numbers_spellings :
    slashDay.values "/２０２４/ 0_1/+5/" = .ok ["2024-01-05"] ∧
      slashDay.values "2024/1/5" = .ok ["2024-01-05"] ∧
      (segments "/２０２４/ 0_1/+5/").map read? = (segments "2024/1/5").map read? ∧
      slashDay.values (slashed "2024-01-05") = .ok ["2024-01-05"] := by
  obtain ⟨hequal, hagain⟩ := dates_identify_numbers
  have hspelled : slashDay.values "/２０２４/ 0_1/+5/" = .ok ["2024-01-05"] :=
    Traversal.eq_ok_of_toOption (by decide +kernel)
  have hplain : slashDay.values "2024/1/5" = .ok ["2024-01-05"] :=
    Traversal.eq_ok_of_toOption (by decide +kernel)
  have hnumbers : ∀ text ∈ segments "2024/1/5", ∃ n : Nat, read? text = some (n : Int) := by
    have hsegments : segments "2024/1/5" = ["2024", "1", "5"] := by decide +kernel
    rw [hsegments, List.forall_mem_cons, List.forall_mem_cons, List.forall_mem_singleton]
    exact ⟨⟨2024, by decide +kernel⟩, ⟨1, by decide +kernel⟩, ⟨5, by decide +kernel⟩⟩
  have hread := hequal slashDay slashDay (.inl rfl) (.inl rfl) _ _ _ _ hspelled hplain
  obtain ⟨value, hvalue, hslashed⟩ := hagain slashDay (.inl rfl) _ _ hplain hnumbers
  obtain rfl := List.singleton_inj.mp hvalue
  exact ⟨hspelled, hplain, hread.mp rfl, hslashed⟩

end CatalogSync.PathForm
