import CatalogSync.Proofs.Text.Trim
import CatalogSync.Text.Split
import Mathlib.Data.List.Infix

namespace CatalogSync.Text

theorem pieces_eq_splitOn (separator : Char) (cs : List Char) :
    pieces separator cs = cs.splitOn separator := by
  induction cs with
  | nil => rfl
  | cons c cs ih =>
      simp only [List.splitOn] at ih ⊢
      rw [pieces, List.splitOnP_cons_eq_if_modifyHead, ← ih]
      by_cases hc : c = separator
      · simp [hc]
      · obtain ⟨piece, rest, hp⟩ := List.exists_cons_of_ne_nil (pieces_ne_nil separator cs)
        simp [hc, hp, consFirst]

theorem not_mem_of_mem_pieces {separator : Char} {cs piece : List Char}
    (h : piece ∈ pieces separator cs) : separator ∉ piece := by
  induction cs generalizing piece with
  | nil =>
      rw [List.mem_singleton.mp h]
      exact List.not_mem_nil
  | cons c cs ih =>
      obtain ⟨first, rest, hpieces⟩ := List.exists_cons_of_ne_nil (pieces_ne_nil separator cs)
      rw [hpieces] at ih
      rw [pieces, hpieces] at h
      split at h
      · rcases List.mem_cons.mp h with rfl | hlater
        · exact List.not_mem_nil
        · exact ih hlater
      · next hc =>
        rcases List.mem_cons.mp h with rfl | hlater
        · have hfirst := ih List.mem_cons_self
          simpa [Ne.symm hc] using hfirst
        · exact ih (List.mem_cons_of_mem _ hlater)

theorem not_mem_of_mem_split {separator : Char} {s part : String} (h : part ∈ split separator s) :
    separator ∉ part.toList := by
  obtain ⟨cs, hcs, rfl⟩ := List.mem_map.mp h
  rw [String.toList_ofList]
  exact not_mem_of_mem_pieces hcs

-- Texts without the separator are got back from the text that they make with it between them.
theorem split_intercalate (separator : Char) (parts : List String) (hne : parts ≠ [])
    (hfree : ∀ part ∈ parts, separator ∉ part.toList) :
    split separator ((String.singleton separator).intercalate parts) = parts := by
  have hchars : ∀ cs ∈ parts.map String.toList, separator ∉ cs := by
    intro cs hcs
    obtain ⟨part, hpart, rfl⟩ := List.mem_map.mp hcs
    exact hfree part hpart
  rw [split, pieces_eq_splitOn, String.toList_intercalate, String.toList_singleton,
    List.splitOn_intercalate _ hchars (by simpa using hne), List.map_map]
  simp [Function.comp_def]

theorem intercalate_split (separator : Char) (s : String) :
    (String.singleton separator).intercalate (split separator s) = s := by
  apply String.toList_injective
  rw [String.toList_intercalate, String.toList_singleton, split, List.map_map, pieces_eq_splitOn]
  simp [Function.comp_def, List.intercalate_splitOn]

-- The parts are the only texts without the separator that make the text with it between them.
theorem split_eq_iff {separator : Char} {s : String} {parts : List String} :
    split separator s = parts ↔ parts ≠ [] ∧ (∀ part ∈ parts, separator ∉ part.toList) ∧
      (String.singleton separator).intercalate parts = s := by
  constructor
  · rintro rfl
    refine ⟨?_, fun part hpart => not_mem_of_mem_split hpart, intercalate_split separator s⟩
    simpa [split] using pieces_ne_nil separator s.toList
  · rintro ⟨hne, hfree, rfl⟩
    exact split_intercalate separator parts hne hfree

theorem split_eq_singleton_iff {separator : Char} {s part : String} :
    split separator s = [part] ↔ part = s ∧ separator ∉ s.toList := by
  rw [split_eq_iff, String.intercalate_singleton]
  constructor
  · rintro ⟨-, hfree, rfl⟩
    exact ⟨rfl, hfree part List.mem_cons_self⟩
  · rintro ⟨rfl, hfree⟩
    exact ⟨List.cons_ne_nil _ _, List.forall_mem_singleton.mpr hfree, rfl⟩

theorem split_eq_pair_iff {separator : Char} {s first second : String} :
    split separator s = [first, second] ↔ s = first ++ String.singleton separator ++ second ∧
      separator ∉ first.toList ∧ separator ∉ second.toList := by
  rw [split_eq_iff, String.intercalate_cons_cons, String.intercalate_singleton,
    List.forall_mem_cons, List.forall_mem_singleton]
  constructor
  · rintro ⟨-, hfree, rfl⟩
    exact ⟨rfl, hfree⟩
  · rintro ⟨rfl, hfree⟩
    exact ⟨List.cons_ne_nil _ _, hfree, rfl⟩

-- The first piece is empty where the text, with a separator at its end, starts with one.
theorem nil_eq_head_pieces_iff {separator : Char} {cs first : List Char}
    {rest : List (List Char)} (h : pieces separator cs = first :: rest) :
    [] = first ↔ [separator] <+: cs ++ [separator] := by
  cases cs with
  | nil =>
      obtain ⟨rfl, -⟩ := List.cons.inj h
      exact iff_of_true rfl (List.prefix_refl _)
  | cons c cs =>
      rw [List.cons_append, List.cons_prefix_cons]
      rw [pieces] at h
      by_cases hc : c = separator
      · rw [if_pos hc] at h
        exact iff_of_true (List.cons.inj h).1 ⟨hc.symm, List.nil_prefix⟩
      · obtain ⟨piece, more, hp⟩ := List.exists_cons_of_ne_nil (pieces_ne_nil separator cs)
        rw [if_neg hc, hp, consFirst] at h
        obtain ⟨rfl, -⟩ := List.cons.inj h
        exact iff_of_false (List.cons_ne_nil _ _).symm fun hs => hc hs.1.symm

-- A later piece is empty where two separators follow each other, or the last one ends the text.
theorem nil_mem_tail_pieces_iff (separator : Char) (cs : List Char) :
    [] ∈ (pieces separator cs).tail ↔ [separator, separator] <:+: cs ++ [separator] := by
  induction cs with
  | nil =>
      refine iff_of_false List.not_mem_nil fun h => ?_
      have hlength := h.length_le
      simp at hlength
  | cons c cs ih =>
      obtain ⟨first, rest, hp⟩ := List.exists_cons_of_ne_nil (pieces_ne_nil separator cs)
      rw [hp, List.tail_cons] at ih
      rw [List.cons_append, List.infix_cons_iff, List.cons_prefix_cons, ← ih, pieces, hp]
      by_cases hc : c = separator
      · rw [if_pos hc, List.tail_cons, List.mem_cons, nil_eq_head_pieces_iff hp]
        simp [hc]
      · rw [if_neg hc, consFirst, List.tail_cons]
        simp [Ne.symm hc]

theorem nil_mem_pieces_iff (separator : Char) (cs : List Char) :
    [] ∈ pieces separator cs ↔ [separator, separator] <:+: separator :: (cs ++ [separator]) := by
  have htail := nil_mem_tail_pieces_iff separator (separator :: cs)
  rwa [pieces, if_pos rfl, List.tail_cons, List.cons_append] at htail

-- Where a text has no separator at its ends, putting one at each end makes no two that follow each
-- other, unless there is nothing between them.
theorem double_infix_surrounded_iff {separator : Char} {cs : List Char}
    (hfirst : cs.head? ≠ some separator) (hlast : cs.getLast? ≠ some separator) :
    [separator, separator] <:+: separator :: (cs ++ [separator]) ↔
      cs = [] ∨ [separator, separator] <:+: cs := by
  have hstart : [separator] <+: cs ++ [separator] ↔ cs = [] := by
    cases cs with
    | nil => simp
    | cons c cs => simpa [List.cons_prefix_cons] using Ne.symm (by simpa using hfirst)
  have hend : ¬[separator, separator] <:+ cs ++ [separator] := by
    intro h
    obtain hnil | ⟨front, heq, rest, rfl⟩ := List.suffix_concat_iff.mp h
    · cases hnil
    · have happend : [separator] ++ [separator] = front ++ [separator] := heq
      obtain rfl := List.append_cancel_right happend
      exact hlast (by simp)
  rw [List.infix_cons_iff, List.cons_prefix_cons, List.infix_concat_iff]
  simp [hstart, hend]

-- Such a text has an empty part if it is empty, or where two separators follow each other.
theorem empty_mem_split_iff {separator : Char} {s : String}
    (hfirst : s.toList.head? ≠ some separator) (hlast : s.toList.getLast? ≠ some separator) :
    "" ∈ split separator s ↔ s = "" ∨ [separator, separator] <:+: s.toList := by
  have hpieces : "" ∈ split separator s ↔ [] ∈ pieces separator s.toList := by
    rw [split, List.mem_map]
    constructor
    · rintro ⟨piece, hpiece, hempty⟩
      exact String.ofList_eq_empty_iff.mp hempty ▸ hpiece
    · exact fun h => ⟨[], h, rfl⟩
  rw [hpieces, nil_mem_pieces_iff, double_infix_surrounded_iff hfirst hlast,
    String.toList_eq_nil_iff]

theorem toList_intercalate_cons (glue first : String) (parts : List String) :
    (glue.intercalate (first :: parts)).toList =
      first.toList ++ parts.flatMap fun part => glue.toList ++ part.toList := by
  induction parts generalizing first with
  | nil => simp
  | cons next parts ih =>
      rw [String.intercalate_cons_cons, String.toList_append, ih, String.toList_append,
        List.flatMap_cons, List.append_assoc, List.append_assoc]

-- Characters are exchanged in the parts and between them.
theorem map_intercalate (f : Char → Char) (glue : String) (parts : List String) :
    (glue.intercalate parts).map f = (glue.map f).intercalate (parts.map (String.map f)) := by
  apply String.toList_injective
  cases parts with
  | nil => simp
  | cons first parts =>
      rw [String.toList_map, toList_intercalate_cons, List.map_cons, toList_intercalate_cons]
      simp [List.map_flatMap, List.flatMap_map]

theorem exists_intercalate_concat (glue part : String) (parts : List String) :
    ∃ front, (glue.intercalate (parts ++ [part])).toList = front ++ part.toList := by
  by_cases hp : parts = []
  · exact ⟨[], by simp [hp]⟩
  · refine ⟨(glue.intercalate parts ++ glue).toList, ?_⟩
    rw [String.intercalate_append_of_ne_nil hp (by simp), String.intercalate_singleton,
      String.toList_append]

-- A text that neither starts nor ends with a slash has none to be cut off.
theorem trimSlashes_eq_self (s : String) (hfirst : s.toList.head? ≠ some '/')
    (hlast : s.toList.getLast? ≠ some '/') : trimSlashes s = s := by
  have hslash : ∀ c : Option Char, c ≠ some '/' → ∀ d ∈ c, decide (d = '/') = false := by
    rintro c hc d hd
    exact decide_eq_false fun heq => hc (heq ▸ hd)
  rw [trimSlashes, trimWhere_eq_self (hslash _ hfirst) (hslash _ hlast), String.ofList_toList]

theorem trimSlashes_trimSlashes (s : String) : trimSlashes (trimSlashes s) = trimSlashes s :=
  trimSlashes_eq_self _ (head?_trimSlashes s) (getLast?_trimSlashes s)

theorem trimSlashes_slash_append (s : String) : trimSlashes ("/" ++ s) = trimSlashes s := by
  have hslash : slashes 1 ++ s ++ slashes 0 = "/" ++ s := String.append_empty
  rw [← hslash, trimSlashes_surrounded]

theorem trimSlashes_append_slash (s : String) : trimSlashes (s ++ "/") = trimSlashes s := by
  have hslash : slashes 0 ++ s ++ slashes 1 = s ++ "/" := congrArg (· ++ "/") String.empty_append
  rw [← hslash, trimSlashes_surrounded]

-- Parts that are neither empty nor have a slash in them make a text without slashes around it.
theorem trimSlashes_intercalate {parts : List String} (hne : "" ∉ parts)
    (hfree : ∀ part ∈ parts, '/' ∉ part.toList) :
    trimSlashes ("/".intercalate parts) = "/".intercalate parts := by
  have hchars : ∀ part ∈ parts, part.toList ≠ [] := by
    intro part hpart hnil
    exact hne (String.toList_eq_nil_iff.mp hnil ▸ hpart)
  cases parts with
  | nil => rfl
  | cons first parts =>
      apply trimSlashes_eq_self
      · rw [toList_intercalate_cons,
          List.head?_append_of_ne_nil _ (hchars first List.mem_cons_self)]
        exact fun hslash => hfree first List.mem_cons_self (List.mem_of_head? hslash)
      · obtain ⟨front, last, hsplit⟩ := (List.eq_nil_or_concat (first :: parts)).resolve_left
          (List.cons_ne_nil _ _)
        rw [List.concat_eq_append] at hsplit
        have hlast : last ∈ first :: parts := by simp [hsplit]
        obtain ⟨text, ht⟩ := exists_intercalate_concat "/" last front
        rw [hsplit, ht, List.getLast?_append_of_ne_nil _ (hchars last hlast)]
        exact fun hslash => hfree last hlast (List.mem_of_getLast? hslash)

end CatalogSync.Text
