import CatalogSync.Proofs.Storage.Join
import CatalogSync.Proofs.Text.Split

namespace CatalogSync.Location

open CatalogSync.Text

theorem getLast?_append_trimSlashes (front : String) {s : String} (h : trimSlashes s ≠ "") :
    (front ++ trimSlashes s).toList.getLast? ≠ some '/' := by
  have hne : (trimSlashes s).toList ≠ [] := fun hnil => h (String.toList_eq_nil_iff.mp hnil)
  rw [String.toList_append, List.getLast?_append_of_ne_nil _ hne]
  exact getLast?_trimSlashes s

-- One path under another: the slash between them is cut off again where one of them is empty.
theorem trimSlashes_under (p q : String) :
    trimSlashes (trimSlashes p ++ "/" ++ trimSlashes q) =
      if trimSlashes p = "" then trimSlashes q
      else if trimSlashes q = "" then trimSlashes p
      else trimSlashes p ++ "/" ++ trimSlashes q := by
  split
  · next hp => rw [hp, String.empty_append, trimSlashes_slash_append, trimSlashes_trimSlashes]
  · next hp =>
    split
    · next hq => rw [hq, String.append_empty, trimSlashes_append_slash, trimSlashes_trimSlashes]
    · next hq =>
      refine trimSlashes_eq_self _ ?_ (getLast?_append_trimSlashes _ hq)
      have hne : (trimSlashes p).toList ≠ [] := fun hnil => hp (String.toList_eq_nil_iff.mp hnil)
      rw [String.append_assoc, String.toList_append, List.head?_append_of_ne_nil _ hne]
      exact head?_trimSlashes p

-- A bare scheme ends in a slash.
theorem isBareScheme_eq_false {s : String} (h : s.toList.getLast? ≠ some '/') :
    isBareScheme s = false := by
  rw [isBareScheme, Bool.eq_false_iff, ne_eq, List.isSuffixOf_iff_suffix]
  rintro ⟨front, hfront⟩
  exact h (by rw [← hfront, List.getLast?_append_of_ne_nil _ (by decide)]; rfl)

-- A path joined to a joined path is joined to the base path together with it.
theorem join_join (base p q : String) :
    join (join base p) q = join base (trimSlashes p ++ "/" ++ trimSlashes q) := by
  by_cases hp : trimSlashes p = ""
  · rw [join_of_empty hp]
    exact join_congr (by rw [trimSlashes_under, if_pos hp]) base
  · by_cases hq : trimSlashes q = ""
    · rw [join_of_empty hq]
      exact join_congr (by rw [trimSlashes_under, if_neg hp, if_pos hq]) base
    · have hunder := trimSlashes_under p q
      rw [if_neg hp, if_neg hq] at hunder
      have hne : trimSlashes (trimSlashes p ++ "/" ++ trimSlashes q) ≠ "" := by
        rw [hunder]
        simp
      -- What is joined ends with the first path and not with the slashes of a bare scheme.
      have hlast := getLast?_append_trimSlashes (lead base) hp
      rw [join_eq hp, join_of_not_bare hq (isBareScheme_eq_false hlast), trimEnd_eq_self hlast,
        join_eq hne, hunder]
      simp only [String.append_assoc]

theorem join_append_slashes {base partition : String} {n : Nat} (h : trimSlashes partition ≠ "")
    (hbare : isBareScheme base = false) (hslashes : isBareScheme (base ++ slashes n) = false) :
    join (base ++ slashes n) partition = join base partition := by
  rw [join_of_not_bare h hslashes, join_of_not_bare h hbare, trimEnd_append_slashes]

-- Relative paths act on base paths: one joined after the other is both joined at once. Neither
-- the slashes around a path nor those at the end of its base path count, but for a bare scheme.
theorem join_action (base p q : String) :
    join (join base p) q = join base (trimSlashes p ++ "/" ++ trimSlashes q) ∧
    (∀ other, join base other = join base p ↔ trimSlashes other = trimSlashes p) ∧
    ∀ n, trimSlashes p ≠ "" → isBareScheme base = false →
      isBareScheme (base ++ slashes n) = false → join (base ++ slashes n) p = join base p :=
  ⟨join_join base p q, fun _ => join_inj, fun _ => join_append_slashes⟩

-- An hour under a day under a base path, with slashes wherever there may be some.
theorem join_action_hour :
    let base := "s3://lake/sales"
    trimSlashes "/day=1/" ≠ "" ∧ isBareScheme base = false ∧
      isBareScheme (base ++ slashes 2) = false ∧
      join (base ++ slashes 2) "/day=1/" = join base "/day=1/" ∧
      join (join base "/day=1/") "hour=2//" = "s3://lake/sales/day=1/hour=2" := by
  intro base
  obtain ⟨hnested, -, hslashes⟩ := join_action base "/day=1/" "hour=2//"
  have hthere : trimSlashes "/day=1/" ≠ "" := by decide +kernel
  have hbare : isBareScheme base = false := by decide +kernel
  have hmore : isBareScheme (base ++ slashes 2) = false := by decide +kernel
  exact ⟨hthere, hbare, hmore, hslashes 2 hthere hbare hmore,
    hnested.trans (by decide +kernel)⟩

end CatalogSync.Location
