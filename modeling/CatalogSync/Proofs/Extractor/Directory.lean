import CatalogSync.Extractor.Basic
import CatalogSync.Proofs.Storage.Join

namespace CatalogSync.PathForm

open CatalogSync.Text

section SameDirectory

variable {p q : String} (h : trimSlashes p = trimSlashes q)
include h

-- The empty path is read apart from the others: it has no segments, and not even an empty one.
theorem multiPartValues_congr (hempty : p = "" ↔ q = "") :
    multiPartValues p = multiPartValues q := by
  by_cases hp : p = ""
  · rw [hp, hempty.mp hp]
  · rw [multiPartValues, multiPartValues, if_neg hp, if_neg (mt hempty.mpr hp), h]

-- The messages of the failures differ, as they show the path with its slashes.
theorem hiveStyleValues_congr :
    (hiveStyleValues p).toOption = (hiveStyleValues q).toOption := by
  rw [hiveStyleValues, hiveStyleValues, ← h]
  match split '=' (trimSlashes p) with
  | [] | [_] | _ :: _ :: _ :: _ => rfl
  | [_, value] =>
      dsimp only
      split <;> rfl

theorem slashValues_congr (count : Nat) (form : String) :
    (slashValues count form p).toOption = (slashValues count form q).toOption := by
  simp only [slashValues, ← h]
  split
  · rfl
  · cases dateNumbers (split '/' (trimSlashes p)) <;> rfl

-- Two paths of one directory hold the same values, or neither holds any, in every form that looks
-- at the segments. Where the whole path is the value, its slashes belong to the value.
theorem values_of_same_directory :
    (∀ base, Location.join base p = Location.join base q) ∧
    (∀ form, form ≠ singlePart → (form = multiPart → (p = "" ↔ q = "")) →
      (form.values p).toOption = (form.values q).toOption) ∧
    ((singlePart.values p).toOption = (singlePart.values q).toOption ↔ p = q) := by
  refine ⟨Location.join_congr h, fun form hform hempty => ?_, ?_⟩
  · cases form with
    | multiPart => rw [values, values, multiPartValues_congr h (hempty rfl)]
    | hiveStyle => rw [values, values, hiveStyleValues_congr h]
    | singlePart => exact absurd rfl hform
    | slashDay => rw [values, values, slashValues_congr h]
    | slashHour => rw [values, values, slashValues_congr h]
    | nonPartitioned => rfl
  · simp [values, Except.toOption]

end SameDirectory

theorem values_of_same_directory_day :
    trimSlashes "/2024/01/31" = trimSlashes "2024/01/31//" ∧
      (slashDay.values "2024/01/31//").toOption = some ["2024-01-31"] ∧
      (multiPart.values "2024/01/31//").toOption = some ["2024", "01", "31"] ∧
      (singlePart.values "/2024/01/31").toOption ≠ (singlePart.values "2024/01/31//").toOption := by
  have htrim : trimSlashes "/2024/01/31" = trimSlashes "2024/01/31//" := by decide +kernel
  obtain ⟨-, hvalues, hsingle⟩ := values_of_same_directory htrim
  refine ⟨htrim, ?_, ?_, mt hsingle.mp (by decide)⟩
  · rw [← hvalues slashDay (by decide) (by decide)]
    decide +kernel
  · rw [← hvalues multiPart (by decide) (by decide)]
    decide +kernel

-- A slash at the end of a path may change what is read off it, though it is the same directory.
theorem values_not_of_directory :
    ¬∀ (form : PathForm) (p q : String), trimSlashes p = trimSlashes q →
      (form.values p).toOption = (form.values q).toOption := by
  intro h
  exact absurd (h singlePart "dt=1" "dt=1/" (by decide +kernel)) (by decide +kernel)

end CatalogSync.PathForm
