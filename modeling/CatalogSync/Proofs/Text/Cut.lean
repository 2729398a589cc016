import CatalogSync.Text.Split
import Mathlib.Data.List.Basic
import Mathlib.Data.List.TakeWhile

namespace CatalogSync.Text

variable {p : Char → Bool}

theorem cutAt_cons_pos {c : Char} (hc : p c = true) (cs : List Char) :
    cutAt p (c :: cs) = ([], some cs) := by
  simp [cutAt, hc]

theorem cutAt_cons_neg {c : Char} (hc : p c = false) (cs : List Char) :
    cutAt p (c :: cs) = (c :: (cutAt p cs).1, (cutAt p cs).2) := by
  simp only [cutAt, List.dropWhile_cons, List.takeWhile_cons, hc, Bool.not_false, ite_true]
  cases cs.dropWhile (!p ·) <;> rfl

-- The cut falls into the second text if the first one has no character of the set.
theorem cutAt_append {cs : List Char} (h : ∀ c ∈ cs, p c = false) (tail : List Char) :
    cutAt p (cs ++ tail) = (cs ++ (cutAt p tail).1, (cutAt p tail).2) := by
  induction cs with
  | nil => rfl
  | cons c cs ih =>
      obtain ⟨hc, hcs⟩ := List.forall_mem_cons.mp h
      rw [List.cons_append, cutAt_cons_neg hc, ih hcs]
      rfl

theorem cutAt_of_forall {cs : List Char} (h : ∀ c ∈ cs, p c = false) :
    cutAt p cs = (cs, none) := by
  have hcut := cutAt_append h []
  rw [List.append_nil] at hcut
  rw [hcut]
  simp [cutAt]

theorem cutAt_append_cons {cs : List Char} (h : ∀ c ∈ cs, p c = false) {c : Char}
    (hc : p c = true) (tail : List Char) : cutAt p (cs ++ c :: tail) = (cs, some tail) := by
  rw [cutAt_append h, cutAt_cons_pos hc, List.append_nil]

-- What stands in front of the cut does not depend on there being one.
theorem cutAt_fst (p : Char → Bool) (cs : List Char) : (cutAt p cs).1 = cs.takeWhile (!p ·) := by
  induction cs with
  | nil => rfl
  | cons c cs ih =>
      cases hc : p c with
      | false => rw [cutAt_cons_neg hc, ih, List.takeWhile_cons_of_pos (by simp [hc])]
      | true => rw [cutAt_cons_pos hc, List.takeWhile_cons_of_neg (by simp [hc])]

-- The last character of a text is that of all that stands at its end.
theorem getLast?_ne_of_suffix {cs tail : List Char} (h : tail <:+ cs) {c : Char}
    (hlast : cs.getLast? ≠ some c) : tail.getLast? ≠ some c := by
  obtain ⟨front, rfl⟩ := h
  exact fun hc => hlast (List.mem_getLast?_append_of_mem_getLast? hc)

-- A run of characters ends in front of a text that does not go on with it.
theorem takeWhile_append_of_head {tail : List Char} (h : ∀ c ∈ tail.head?, p c = false)
    (cs : List Char) : (cs ++ tail).takeWhile p = cs.takeWhile p := by
  have htail : tail.takeWhile p = [] := by
    cases tail with
    | nil => rfl
    | cons c tail => exact List.takeWhile_cons_of_neg (by simp [h c rfl])
  rw [List.takeWhile_append, htail, List.append_nil]
  split
  · next hlen => exact ((List.takeWhile_prefix p).eq_of_length hlen).symm
  · rfl

theorem dropWhile_append_of_head {tail : List Char} (h : ∀ c ∈ tail.head?, p c = false)
    (cs : List Char) : (cs ++ tail).dropWhile p = cs.dropWhile p ++ tail := by
  have htail : tail.dropWhile p = tail := by
    cases tail with
    | nil => rfl
    | cons c tail => exact List.dropWhile_cons_of_neg (by simp [h c rfl])
  rw [List.dropWhile_append, htail]
  split
  · next hempty => rw [List.isEmpty_iff.mp hempty, List.nil_append]
  · rfl

end CatalogSync.Text
