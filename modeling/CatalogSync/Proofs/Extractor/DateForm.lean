import CatalogSync.Proofs.Extractor.Date

namespace CatalogSync.PathForm

open CatalogSync.Text CatalogSync.Numeral

-- How many digits the numbers of a date are written with.
def widths : PathForm → List Nat
  | slashDay => [4, 2, 2]
  | slashHour => [4, 2, 2, 2]
  | _ => []

-- What the paths of a form look like, as shown where one of them is refused.
def layout : PathForm → String
  | slashDay => "yyyy/mm/dd"
  | slashHour => "yyyy/mm/dd/hh"
  | _ => ""

-- A date in full: runs of digits of the given lengths with a minus between them.
def IsWritten (widths : List Nat) (value : String) : Prop :=
  ∃ texts, List.Forall₂ IsDigits widths texts ∧ value = "-".intercalate texts

-- A segment that denotes a number without a sign that has no more digits than the width.
def Fits (width : Nat) (text : String) : Prop := ∃ n, read? text = some n ∧ FitsIn width n

theorem forall₂_fits_iff {widths : List Nat} {texts : List String} :
    List.Forall₂ Fits widths texts ↔
      ∃ numbers, texts.map read? = numbers.map some ∧ List.Forall₂ FitsIn widths numbers := by
  constructor
  · intro h
    induction h with
    | nil => exact ⟨[], rfl, .nil⟩
    | cons hfits _ ih =>
        obtain ⟨n, hread, hn⟩ := hfits
        obtain ⟨numbers, hreads, hnumbers⟩ := ih
        refine ⟨n :: numbers, ?_, .cons hn hnumbers⟩
        rw [List.map_cons, hread, hreads, List.map_cons]
  · rintro ⟨numbers, hreads, hnumbers⟩
    induction hnumbers generalizing texts with
    | nil =>
        obtain rfl := List.map_eq_nil_iff.mp hreads
        exact .nil
    | cons hn _ ih =>
        obtain ⟨text, rest, rfl, hread, hrest⟩ := List.map_eq_cons_iff.mp hreads
        exact .cons ⟨_, hread, hn⟩ (ih hrest)

-- The texts that are joined to those before by a minus.
def laterTexts (texts : List String) : List Char := texts.flatMap fun text => '-' :: text.toList

theorem head?_laterTexts (texts : List String) :
    ∀ c ∈ (laterTexts texts).head?, c.isDigit = false := by
  cases texts with
  | nil => exact nofun
  | cons text texts =>
      intro c hc
      obtain rfl : '-' = c := Option.some.inj hc
      decide

theorem toList_intercalate_minus (first : String) (texts : List String) :
    ("-".intercalate (first :: texts)).toList = first.toList ++ laterTexts texts := by
  rw [toList_intercalate_cons]
  rfl

-- Digits between minus signs are those of the numbers that they were put together from, so none of
-- these has a sign or is too wide.
theorem forall₂_fitsIn_of_laterDigits {widths : List Nat} {texts : List String}
    (h : List.Forall₂ IsDigits widths texts) (hpos : ∀ width ∈ widths, 0 < width)
    {numbers : List Int} (heq : laterDigits numbers = laterTexts texts) :
    List.Forall₂ FitsIn widths numbers := by
  induction h generalizing numbers with
  | nil =>
      cases numbers with
      | nil => exact .nil
      | cons n numbers => cases heq
  | @cons width text widths texts hdigits _ ih =>
      cases numbers with
      | nil => cases heq
      | cons n numbers =>
          obtain ⟨hwidth, hwidths⟩ := List.forall_mem_cons.mp hpos
          obtain ⟨hn, hlater⟩ := fitsIn_of_padded_append hwidth hdigits
            (head?_laterDigits numbers) (head?_laterTexts texts) (List.cons.inj heq).2
          exact .cons hn (ih hwidths hlater)

theorem forall₂_isDigits_padded {count : Nat} {numbers : List Int}
    (h : List.Forall₂ FitsIn (List.replicate count 2) numbers) :
    List.Forall₂ IsDigits (List.replicate count 2)
      (numbers.map fun n => .ofList (padded 2 n)) := by
  induction count generalizing numbers with
  | zero =>
      cases h
      exact .nil
  | succ count ih =>
      cases h with
      | cons hn hnumbers => exact .cons (hn.isDigits_padded (by decide)) (ih hnumbers)

-- A date has the given widths exactly if its numbers fit into them.
theorem isWritten_dateValue_iff (count : Nat) {numbers : List Int} (hne : numbers ≠ []) :
    IsWritten (4 :: List.replicate count 2) (dateValue numbers) ↔
      List.Forall₂ FitsIn (4 :: List.replicate count 2) numbers := by
  obtain ⟨year, rest, rfl⟩ := List.exists_cons_of_ne_nil hne
  constructor
  · rintro ⟨texts, htexts, heq⟩
    cases htexts with
    | @cons _ first _ later hfirst hlater =>
        have hchars := congrArg String.toList heq
        rw [dateValue_toList, toList_intercalate_minus] at hchars
        obtain ⟨hyear, hrest⟩ := fitsIn_of_padded_append (by decide) hfirst
          (head?_laterDigits rest) (head?_laterTexts later) hchars
        refine .cons hyear (forall₂_fitsIn_of_laterDigits hlater ?_ hrest)
        intro width hwidth
        rw [List.eq_of_mem_replicate hwidth]
        decide
  · intro hfits
    cases hfits with
    | cons hyear hrest =>
        exact ⟨dateTexts (year :: rest),
          .cons (hyear.isDigits_padded (by decide)) (forall₂_isDigits_padded hrest),
          dateValue_eq _⟩

theorem exists_numbers_iff {texts : List String} :
    (∃ numbers : List Int, texts.map read? = numbers.map some) ↔
      ∀ text ∈ texts, ∃ n, read? text = some n := by
  induction texts with
  | nil => exact iff_of_true ⟨[], rfl⟩ (List.forall_mem_nil _)
  | cons text texts ih =>
      rw [List.forall_mem_cons, ← ih]
      constructor
      · rintro ⟨numbers, h⟩
        obtain ⟨n, rest, -, hn, hrest⟩ := List.map_eq_cons_iff.mp h.symm
        exact ⟨⟨n, hn.symm⟩, rest, hrest.symm⟩
      · rintro ⟨⟨n, hn⟩, numbers, hnumbers⟩
        exact ⟨n :: numbers, by rw [List.map_cons, hn, hnumbers, List.map_cons]⟩

theorem slashValues_eq_error {count : Nat} {form path : String} {failure : Failure}
    (h : slashValues count form path = .error failure) :
    failure.problem = .values (.form path form) := by
  simp only [slashValues] at h
  split at h
  · obtain rfl := Except.error.inj h
    rfl
  · cases hnumbers : dateNumbers (split '/' (trimSlashes path)) with
    | error cause =>
        rw [hnumbers] at h
        obtain rfl := Except.error.inj h
        rfl
    | ok numbers =>
        rw [hnumbers] at h
        cases h

namespace IsDate

variable {form : PathForm} {path : String} (h : IsDate form)

include h

theorem exists_widths : ∃ count, widths form = 4 :: List.replicate count 2 := by
  obtain rfl | rfl := h
  · exact ⟨2, rfl⟩
  · exact ⟨3, rfl⟩

theorem values_eq_ok_iff {values : List String} : form.values path = .ok values ↔
    ∃ numbers, (segments path).map read? = numbers.map some ∧
      numbers.length = (widths form).length ∧ values = [dateValue numbers] := by
  obtain rfl | rfl := h
  · rw [PathForm.values, slashValues_eq_ok_iff]
    rfl
  · rw [PathForm.values, slashValues_eq_ok_iff]
    rfl

theorem problem_of_error {failure : Failure} (hfailure : form.values path = .error failure) :
    failure.problem = .values (.form path (layout form)) := by
  obtain rfl | rfl := h
  · rw [PathForm.values] at hfailure
    exact slashValues_eq_error hfailure
  · rw [PathForm.values] at hfailure
    exact slashValues_eq_error hfailure

-- A path is accepted if it has the right number of segments and each of them is a number.
theorem exists_values_iff : (∃ values, form.values path = .ok values) ↔
    (segments path).length = (widths form).length ∧
      ∀ text ∈ segments path, ∃ n, read? text = some n := by
  rw [← exists_numbers_iff]
  simp only [h.values_eq_ok_iff]
  constructor
  · rintro ⟨_, numbers, hread, hlength, -⟩
    have hsame := length_of_dateNumbers (dateNumbers_eq_ok_iff.mpr hread)
    exact ⟨hsame.symm.trans hlength, numbers, hread⟩
  · rintro ⟨hlength, numbers, hread⟩
    have hsame := length_of_dateNumbers (dateNumbers_eq_ok_iff.mpr hread)
    exact ⟨_, numbers, hread, hsame.trans hlength, rfl⟩

theorem isWritten_iff {numbers : List Int}
    (hread : (segments path).map read? = numbers.map some) :
    IsWritten (widths form) (dateValue numbers) ↔
      List.Forall₂ Fits (widths form) (segments path) := by
  have hne : numbers ≠ [] := by
    rintro rfl
    exact segments_ne_nil path (List.map_eq_nil_iff.mp hread)
  obtain ⟨count, hcount⟩ := h.exists_widths
  rw [forall₂_fits_iff, hcount, isWritten_dateValue_iff count hne]
  constructor
  · exact fun hfits => ⟨numbers, hread, hfits⟩
  · rintro ⟨others, hothers, hfits⟩
    have hsame : Function.Injective (List.map (some : Int → Option Int)) :=
      List.map_injective_iff.mpr fun _ _ => Option.some.inj
    rwa [hsame (hread.symm.trans hothers)]

end IsDate

-- A path of the right number of segments is accepted if each of them is a number, whatever its sign
-- and its width. The value is a date in full exactly if every number has no sign and fits. All other
-- paths are refused as not being in the form.
theorem date_in_full_iff (form : PathForm) (h : IsDate form) (path : String) :
    ((∃ values, form.values path = .ok values) ↔
      (segments path).length = (widths form).length ∧
        ∀ text ∈ segments path, ∃ n, read? text = some n) ∧
    (∀ values, form.values path = .ok values → ∃ value, values = [value] ∧
      (IsWritten (widths form) value ↔ List.Forall₂ Fits (widths form) (segments path))) ∧
    ∀ failure, form.values path = .error failure →
      failure.problem = .values (.form path (layout form)) := by
  refine ⟨h.exists_values_iff, fun values hvalues => ?_, fun failure => h.problem_of_error⟩
  obtain ⟨numbers, hread, -, rfl⟩ := h.values_eq_ok_iff.mp hvalues
  exact ⟨_, rfl, h.isWritten_iff hread⟩

-- The last hour of a year, with an hour of one digit in another script.
theorem date_in_full_iff_hour :
    IsDate slashHour ∧ slashHour.values "2024/12/31/７" = .ok ["2024-12-31-07"] ∧
      IsWritten [4, 2, 2, 2] "2024-12-31-07" := by
  have hvalues : slashHour.values "2024/12/31/７" = .ok ["2024-12-31-07"] :=
    Traversal.eq_ok_of_toOption (by decide +kernel)
  have hsegments : segments "2024/12/31/７" = ["2024", "12", "31", "７"] := by decide +kernel
  obtain ⟨value, hvalue, hwritten⟩ :=
    (date_in_full_iff slashHour (.inr rfl) "2024/12/31/７").2.1 _ hvalues
  obtain rfl := List.singleton_inj.mp hvalue
  refine ⟨.inr rfl, hvalues, hwritten.mpr ?_⟩
  rw [hsegments]
  exact .cons ⟨2024, by decide +kernel, 2024, rfl, by decide⟩
    (.cons ⟨12, by decide +kernel, 12, rfl, by decide⟩
      (.cons ⟨31, by decide +kernel, 31, rfl, by decide⟩
        (.cons ⟨7, by decide +kernel, 7, rfl, by decide⟩ .nil)))

-- A negative year is accepted, and its sign counts as one of the four digits.
theorem negative_date_accepted :
    ¬∀ path value, slashDay.values path = .ok [value] → IsWritten [4, 2, 2] value := by
  intro h
  have hvalues : slashDay.values "-1/1/1" = .ok [dateValue [-1, 1, 1]] :=
    Traversal.eq_ok_of_toOption (by decide +kernel)
  have hfits := (isWritten_dateValue_iff 2 (List.cons_ne_nil _ _)).mp (h _ _ hvalues)
  cases hfits with
  | cons hyear _ =>
      obtain ⟨m, hm, -⟩ := hyear
      omega

end CatalogSync.PathForm
