import CatalogSync.Text.Blank
import Mathlib.Data.List.DropRight

namespace CatalogSync.Text

theorem mem_of_mem_trimWhere {p : Char → Bool} {cs : List Char} {c : Char}
    (h : c ∈ trimWhere p cs) : c ∈ cs :=
  (List.dropWhile_suffix p).subset ((List.rdropWhile_prefix p _).subset h)

-- The first character is not one of those that are cut off.
theorem head?_trimWhere {p : Char → Bool} {cs : List Char} {c : Char}
    (h : c ∈ (trimWhere p cs).head?) : p c = false := by
  have hprefix : trimWhere p cs <+: cs.dropWhile p := List.rdropWhile_prefix p _
  have hfirst : c ∈ (cs.dropWhile p).head? := by
    obtain ⟨rest, hr⟩ := hprefix
    rw [← hr, List.head?_append, h]
    rfl
  have hnot := List.head?_dropWhile_not p cs
  rwa [Option.mem_def.mp hfirst] at hnot

theorem getLast?_trimWhere {p : Char → Bool} {cs : List Char} {c : Char}
    (h : c ∈ (trimWhere p cs).getLast?) : p c = false := by
  rw [trimWhere, List.getLast?_reverse] at h
  have hnot := List.head?_dropWhile_not p (cs.dropWhile p).reverse
  rwa [Option.mem_def.mp h] at hnot

-- Nothing is cut off where neither end has one of the characters.
theorem trimWhere_eq_self {p : Char → Bool} {cs : List Char}
    (hfirst : ∀ c ∈ cs.head?, p c = false) (hlast : ∀ c ∈ cs.getLast?, p c = false) :
    trimWhere p cs = cs := by
  have hself : ∀ cs : List Char, (∀ c ∈ cs.head?, p c = false) → cs.dropWhile p = cs := by
    intro cs hcs
    cases cs with
    | nil => rfl
    | cons c cs => exact List.dropWhile_cons_of_neg (by simp [hcs c rfl])
  rw [trimWhere, hself cs hfirst, hself cs.reverse (by rwa [List.head?_reverse]),
    List.reverse_reverse]

theorem trimWhere_of_forall {p : Char → Bool} {cs : List Char} (h : ∀ c ∈ cs, p c = false) :
    trimWhere p cs = cs :=
  trimWhere_eq_self (fun c hc => h c (List.mem_of_mem_head? hc))
    fun c hc => h c (List.mem_of_mem_getLast? hc)

-- Characters of the set that stand around a text are cut off together with its own.
theorem trimWhere_surrounded {p : Char → Bool} {before after : List Char}
    (hbefore : ∀ c ∈ before, p c = true) (hafter : ∀ c ∈ after, p c = true) (cs : List Char) :
    trimWhere p (before ++ cs ++ after) = trimWhere p cs := by
  have hend : ∀ front : List Char,
      (front ++ after).reverse.dropWhile p = front.reverse.dropWhile p := by
    intro front
    rw [List.reverse_append, List.dropWhile_append_of_pos]
    exact fun c hc => hafter c (List.mem_reverse.mp hc)
  rw [List.append_assoc, trimWhere, trimWhere, List.dropWhile_append_of_pos hbefore,
    List.dropWhile_append]
  split
  · next hempty =>
    rw [List.isEmpty_iff.mp hempty, List.dropWhile_eq_nil_iff.mpr hafter]
  · rw [hend]

theorem mem_of_mem_trimSlashes {s : String} {c : Char} (h : c ∈ (trimSlashes s).toList) :
    c ∈ s.toList := by
  rw [trimSlashes, String.toList_ofList] at h
  exact mem_of_mem_trimWhere h

theorem head?_trimSlashes (s : String) : (trimSlashes s).toList.head? ≠ some '/' := by
  intro h
  rw [trimSlashes, String.toList_ofList] at h
  have hc := head?_trimWhere h
  simp at hc

theorem getLast?_trimSlashes (s : String) : (trimSlashes s).toList.getLast? ≠ some '/' := by
  intro h
  rw [trimSlashes, String.toList_ofList] at h
  have hc := getLast?_trimWhere h
  simp at hc

-- A text of slashes only.
def slashes (count : Nat) : String := .ofList (List.replicate count '/')

-- Slashes put around a text are not part of what is left of it.
theorem trimSlashes_surrounded (before after : Nat) (s : String) :
    trimSlashes (slashes before ++ s ++ slashes after) = trimSlashes s := by
  have hslash : ∀ count, ∀ c ∈ List.replicate count '/', decide (c = '/') = true :=
    fun count c hc => decide_eq_true (List.eq_of_mem_replicate hc)
  simp only [trimSlashes, slashes, String.toList_append, String.toList_ofList]
  rw [trimWhere_surrounded (hslash before) (hslash after)]

-- Neither the first nor the last character is white space.
def IsTight (s : String) : Prop :=
  ∀ c, c ∈ s.toList.head? ∨ c ∈ s.toList.getLast? → isBlank c = false

theorem isTight_trim (s : String) : IsTight (trim s) := by
  intro c h
  rw [trim, String.toList_ofList] at h
  exact h.elim head?_trimWhere getLast?_trimWhere

theorem trim_eq_self_iff {s : String} : trim s = s ↔ IsTight s := by
  constructor
  · intro h
    exact h ▸ isTight_trim s
  · intro h
    rw [trim, trimWhere_eq_self (fun c hc => h c (.inl hc)) fun c hc => h c (.inr hc),
      String.ofList_toList]

theorem mem_of_mem_trim {s : String} {c : Char} (h : c ∈ (trim s).toList) : c ∈ s.toList := by
  rw [trim, String.toList_ofList] at h
  exact mem_of_mem_trimWhere h

end CatalogSync.Text
