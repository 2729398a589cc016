import CatalogSync.Proofs.Text.Cut
import CatalogSync.Uri.Basic

namespace CatalogSync.Uri

open CatalogSync.Text

-- A text in which every character counts, but for those in front.
def IsUnbroken (cs : List Char) : Prop := ∀ c ∈ cs, c ≠ '\t' ∧ c ≠ '\r' ∧ c ≠ '\n'

instance decidableIsUnbroken (cs : List Char) : Decidable (IsUnbroken cs) :=
  List.decidableBAll _ cs

theorem IsUnbroken.mono {cs tail : List Char} (h : IsUnbroken cs) (hsub : tail ⊆ cs) :
    IsUnbroken tail := fun c hc => h c (hsub hc)

theorem isUnbroken_append {cs tail : List Char} :
    IsUnbroken (cs ++ tail) ↔ IsUnbroken cs ∧ IsUnbroken tail :=
  List.forall_mem_append

theorem isUnbroken_significant (cs : List Char) : IsUnbroken (significant cs) := by
  intro c hc
  simpa using (List.mem_filter.mp hc).2

theorem significant_subset (cs : List Char) : significant cs ⊆ cs :=
  fun _ hc => (List.dropWhile_suffix _).subset (List.mem_of_mem_filter hc)

theorem significant_of_isUnbroken {cs : List Char} (h : IsUnbroken cs) :
    significant cs = cs.dropWhile fun c => c.toNat ≤ 0x20 := by
  refine List.filter_eq_self.mpr fun c hc => ?_
  simpa using h c ((List.dropWhile_suffix _).subset hc)

-- What may follow on a text without running into its last part: nothing, or a slash and more.
def IsTail (cs : List Char) : Prop := ∀ c ∈ cs.head?, c = '/'

theorem isTail_nil : IsTail [] := nofun

theorem isTail_cons (cs : List Char) : IsTail ('/' :: cs) := by
  intro c hc
  exact (Option.some.inj hc).symm

theorem isTail_replicate (n : Nat) : IsTail (List.replicate n '/') := by
  cases n with
  | zero => exact isTail_nil
  | succ n => exact isTail_cons _

theorem IsTail.eq_nil_or_cons {cs : List Char} (h : IsTail cs) :
    cs = [] ∨ ∃ rest, cs = '/' :: rest := by
  cases cs with
  | nil => exact .inl rfl
  | cons c cs =>
      obtain rfl := h c rfl
      exact .inr ⟨cs, rfl⟩

-- The text in front decides which characters are left out there, so what follows is only freed
-- of tabs and line ends.
theorem significant_append {tail : List Char} (htail : IsTail tail) (cs : List Char) :
    significant (cs ++ tail) =
      significant cs ++ tail.filter fun c => c ≠ '\t' ∧ c ≠ '\r' ∧ c ≠ '\n' := by
  have hhead : ∀ c ∈ tail.head?, decide (c.toNat ≤ 0x20) = false := by
    intro c hc
    rw [htail c hc]
    rfl
  rw [significant, dropWhile_append_of_head hhead, List.filter_append]
  rfl

theorem significant_append_of_isUnbroken {tail : List Char} (htail : IsTail tail)
    (h : IsUnbroken tail) (cs : List Char) : significant (cs ++ tail) = significant cs ++ tail := by
  rw [significant_append htail, List.filter_eq_self.mpr]
  intro c hc
  simpa using h c hc

-- Only control characters and spaces are ever left out.
theorem mem_significant {cs : List Char} {c : Char} (hc : c ∈ cs) (hlt : 0x20 < c.toNat) :
    c ∈ significant cs := by
  refine List.mem_filter.mpr ⟨?_, ?_⟩
  · rw [← List.takeWhile_append_dropWhile (p := fun c => decide (c.toNat ≤ 0x20)) (l := cs),
      List.mem_append] at hc
    refine hc.resolve_left fun h => ?_
    have hle := List.mem_takeWhile_imp h
    simp only [decide_eq_true_eq] at hle
    omega
  · have hne : c ≠ '\t' ∧ c ≠ '\r' ∧ c ≠ '\n' := by
      refine ⟨?_, ?_, ?_⟩ <;> (rintro rfl; exact absurd hlt (by decide))
    simpa using hne

theorem significant_append_of_mem {cs : List Char} {c : Char} (hc : c ∈ cs)
    (hlt : 0x20 < c.toNat) (tail : List Char) :
    significant (cs ++ tail) =
      significant cs ++ tail.filter fun c => c ≠ '\t' ∧ c ≠ '\r' ∧ c ≠ '\n' := by
  have hne : (cs.dropWhile fun c => decide (c.toNat ≤ 0x20)) ≠ [] := by
    intro hnil
    have hle := List.dropWhile_eq_nil_iff.mp hnil c hc
    simp only [decide_eq_true_eq] at hle
    omega
  rw [significant, List.dropWhile_append, if_neg (by simpa using hne), List.filter_append]
  rfl

theorem significant_eq_self {c : Char} (hc : 0x20 < c.toNat) {cs : List Char}
    (h : IsUnbroken (c :: cs)) : significant (c :: cs) = c :: cs := by
  rw [significant_of_isUnbroken h]
  exact List.dropWhile_cons_of_neg (by simpa using hc)

section Scheme

theorem toNat_lt_of_isSchemeChar {c : Char} (h : isSchemeChar c = true) : c.toNat < 128 := by
  have hrange : c ≤ '\x7f' := by
    simp only [isSchemeChar, isAsciiLetter, isAsciiDigit, Bool.or_eq_true, Bool.and_eq_true,
      decide_eq_true_eq, beq_iff_eq] at h
    rcases h with (((((⟨-, h⟩ | ⟨-, h⟩) | ⟨-, h⟩) | rfl) | rfl) | rfl)
    · exact Char.le_trans h (by decide)
    · exact Char.le_trans h (by decide)
    · exact Char.le_trans h (by decide)
    · decide
    · decide
    · decide
  exact Nat.lt_succ_of_le hrange

theorem isSchemeChar_of_isAsciiLetter {c : Char} (h : isAsciiLetter c = true) :
    isSchemeChar c = true := by
  simp [isSchemeChar, h]

theorem forall_ascii {P : Char → Prop} (h : ∀ n : Fin 128, P (Char.ofNat n)) {c : Char}
    (hc : c.toNat < 128) : P c := by
  have hn := h ⟨c.toNat, hc⟩
  rwa [Char.ofNat_toNat] at hn

theorem isSchemeChar_toLower {c : Char} (h : isSchemeChar c = true) :
    isSchemeChar c.toLower = true :=
  forall_ascii (P := fun c => isSchemeChar c = true → isSchemeChar c.toLower = true) (by decide)
    (toNat_lt_of_isSchemeChar h) h

theorem isAsciiLetter_toLower {c : Char} (h : isAsciiLetter c = true) :
    isAsciiLetter c.toLower = true :=
  forall_ascii (P := fun c => isAsciiLetter c = true → isAsciiLetter c.toLower = true) (by decide)
    (toNat_lt_of_isSchemeChar (isSchemeChar_of_isAsciiLetter h)) h

theorem toLower_toLower {c : Char} (h : isSchemeChar c = true) :
    c.toLower.toLower = c.toLower :=
  forall_ascii (P := fun c => c.toLower.toLower = c.toLower) (by decide)
    (toNat_lt_of_isSchemeChar h)

theorem lt_toNat_of_isAsciiLetter {c : Char} (h : isAsciiLetter c = true) : 0x20 < c.toNat :=
  forall_ascii (P := fun c => isAsciiLetter c = true → 0x20 < c.toNat) (by decide)
    (toNat_lt_of_isSchemeChar (isSchemeChar_of_isAsciiLetter h)) h

-- A scheme as it is read: in lower case.
structure IsLowerScheme (cs : List Char) : Prop where
  isScheme : isScheme cs = true
  lower : cs.map Char.toLower = cs

theorem IsLowerScheme.ne_nil {cs : List Char} (h : IsLowerScheme cs) : cs ≠ [] := by
  rintro rfl
  exact absurd h.isScheme (by decide)

theorem isSchemeChar_of_mem {cs : List Char} (h : isScheme cs = true) {c : Char} (hc : c ∈ cs) :
    isSchemeChar c = true := by
  cases cs with
  | nil => cases hc
  | cons first cs =>
      rw [isScheme, Bool.and_eq_true] at h
      exact List.all_eq_true.mp h.2 c hc

theorem isScheme_eq_false_of_mem {cs : List Char} {c : Char} (hc : c ∈ cs)
    (hnot : isSchemeChar c = false) : isScheme cs = false := by
  cases hs : isScheme cs with
  | false => rfl
  | true => exact absurd (isSchemeChar_of_mem hs hc) (by simp [hnot])

theorem isLowerScheme_map {cs : List Char} (h : isScheme cs = true) :
    IsLowerScheme (cs.map Char.toLower) := by
  constructor
  · cases cs with
    | nil => cases h
    | cons c cs =>
        have hletter : isAsciiLetter c = true := (Bool.and_eq_true_iff.mp h).1
        rw [List.map_cons, isScheme, Bool.and_eq_true, ← List.map_cons, List.all_map,
          List.all_eq_true]
        exact ⟨isAsciiLetter_toLower hletter,
          fun d hd => isSchemeChar_toLower (isSchemeChar_of_mem h hd)⟩
  · rw [List.map_map]
    exact List.map_congr_left fun c hc => toLower_toLower (isSchemeChar_of_mem h hc)

theorem cutScheme_of_not_mem {cs : List Char} (h : ':' ∉ cs) : cutScheme cs = ([], cs) := by
  rw [cutScheme, cutAt_of_forall]
  intro c hc
  simpa using ne_of_mem_of_not_mem hc h

theorem cutScheme_append_colon {cs : List Char} (h : ':' ∉ cs) (after : List Char) :
    cutScheme (cs ++ ':' :: after) =
      if isScheme cs then (cs.map Char.toLower, after) else ([], cs ++ ':' :: after) := by
  rw [cutScheme, cutAt_append_cons _ (by decide)]
  intro c hc
  simpa using ne_of_mem_of_not_mem hc h

-- What follows on a text with a colon does not change the scheme in it.
theorem cutScheme_append_of_mem {cs : List Char} (h : ':' ∈ cs) (tail : List Char) :
    cutScheme (cs ++ tail) = ((cutScheme cs).1, (cutScheme cs).2 ++ tail) := by
  obtain ⟨front, after, rfl, hfront⟩ := List.eq_append_cons_of_mem h
  rw [List.append_assoc, List.cons_append, cutScheme_append_colon hfront,
    cutScheme_append_colon hfront]
  split
  · rfl
  · rw [List.append_assoc, List.cons_append]

-- A scheme stands in front of the first colon, and there is no slash in it.
theorem cutScheme_append {tail : List Char} (htail : IsTail tail) (cs : List Char) :
    cutScheme (cs ++ tail) = ((cutScheme cs).1, (cutScheme cs).2 ++ tail) := by
  by_cases hcolon : ':' ∈ cs
  · exact cutScheme_append_of_mem hcolon tail
  · rw [cutScheme_of_not_mem hcolon]
    obtain rfl | ⟨rest, rfl⟩ := htail.eq_nil_or_cons
    · rw [List.append_nil, cutScheme_of_not_mem hcolon]
    · by_cases hrest : ':' ∈ rest
      · obtain ⟨front, after, rfl, hfront⟩ := List.eq_append_cons_of_mem hrest
        have hnot : ':' ∉ cs ++ '/' :: front := by
          simp [hcolon, hfront]
        have hscheme : isScheme (cs ++ '/' :: front) = false :=
          isScheme_eq_false_of_mem (c := '/') (by simp) (by decide)
        have hcut := cutScheme_append_colon hnot after
        rw [hscheme] at hcut
        simpa using hcut
      · exact cutScheme_of_not_mem (by simp [hcolon, hrest])

theorem cutScheme_cases (cs : List Char) :
    cutScheme cs = ([], cs) ∨
      ∃ scheme after, cs = scheme ++ ':' :: after ∧ isScheme scheme = true ∧
        cutScheme cs = (scheme.map Char.toLower, after) := by
  by_cases hcolon : ':' ∈ cs
  · obtain ⟨scheme, after, rfl, hnot⟩ := List.eq_append_cons_of_mem hcolon
    rw [cutScheme_append_colon hnot]
    split
    · next hs => exact .inr ⟨scheme, after, rfl, hs, rfl⟩
    · exact .inl rfl
  · exact .inl (cutScheme_of_not_mem hcolon)

theorem cutScheme_written {scheme : List Char} (h : IsLowerScheme scheme) (after : List Char) :
    cutScheme (scheme ++ ':' :: after) = (scheme, after) := by
  have hcolon : ':' ∉ scheme := fun hc => absurd (isSchemeChar_of_mem h.isScheme hc) (by decide)
  rw [cutScheme_append_colon hcolon, if_pos h.isScheme, h.lower]

-- Neither a tail nor what is left out of it changes the scheme.
theorem scheme_append {tail : List Char} (htail : IsTail tail) (cs : List Char) :
    (cutScheme (significant (cs ++ tail))).1 = (cutScheme (significant cs)).1 := by
  rw [significant_append htail, cutScheme_append]
  obtain rfl | ⟨rest, rfl⟩ := htail.eq_nil_or_cons
  · exact isTail_nil
  · rw [List.filter_cons_of_pos (by decide)]
    exact isTail_cons _

theorem scheme_append_of_mem {cs : List Char} (h : ':' ∈ cs) (tail : List Char) :
    (cutScheme (significant (cs ++ tail))).1 = (cutScheme (significant cs)).1 := by
  rw [significant_append_of_mem h (by decide),
    cutScheme_append_of_mem (mem_significant h (by decide))]

theorem isLowerScheme_cutScheme (cs : List Char) :
    (cutScheme cs).1 = [] ∨ IsLowerScheme (cutScheme cs).1 := by
  obtain hcut | ⟨scheme, after, -, hscheme, hcut⟩ := cutScheme_cases cs
  · exact .inl (by rw [hcut])
  · exact .inr (by rw [hcut]; exact isLowerScheme_map hscheme)

theorem cutScheme_snd_suffix (cs : List Char) : (cutScheme cs).2 <:+ cs := by
  obtain hcut | ⟨scheme, after, hcs, -, hcut⟩ := cutScheme_cases cs
  · exact ⟨[], by simp [hcut]⟩
  · rw [hcut, hcs]
    exact ⟨scheme ++ [':'], by simp⟩

end Scheme

section Authority

theorem cutAuthority_slashes (cs : List Char) :
    cutAuthority ('/' :: '/' :: cs) =
      (cs.takeWhile (!endsAuthority ·), cs.dropWhile (!endsAuthority ·)) := rfl

-- Without two slashes in front there is no authority.
theorem cutAuthority_of_ne {cs : List Char} (h : ¬['/', '/'] <+: cs) :
    cutAuthority cs = ([], cs) := by
  unfold cutAuthority
  split
  · exact absurd ⟨_, rfl⟩ h
  · rfl

theorem cutAuthority_written {authority : List Char}
    (h : ∀ c ∈ authority, endsAuthority c = false) {rest : List Char} (hrest : IsTail rest) :
    cutAuthority ('/' :: '/' :: (authority ++ rest)) = (authority, rest) := by
  have hplain : ∀ c ∈ authority, (!endsAuthority c) = true := by simpa using h
  have hhead : ∀ c ∈ rest.head?, (!endsAuthority c) = false := by
    intro c hc
    rw [hrest c hc]
    rfl
  rw [cutAuthority_slashes, takeWhile_append_of_head hhead, dropWhile_append_of_head hhead,
    List.takeWhile_eq_self_iff.mpr hplain, List.dropWhile_eq_nil_iff.mpr hplain, List.nil_append]

theorem endsAuthority_of_mem {cs : List Char} {c : Char} (hc : c ∈ (cutAuthority cs).1) :
    endsAuthority c = false := by
  by_cases h : ['/', '/'] <+: cs
  · obtain ⟨rest, rfl⟩ := h
    simpa using List.mem_takeWhile_imp hc
  · rw [cutAuthority_of_ne h] at hc
    cases hc

theorem cutAuthority_fst_subset (cs : List Char) : (cutAuthority cs).1 ⊆ cs := by
  by_cases h : ['/', '/'] <+: cs
  · obtain ⟨rest, rfl⟩ := h
    intro c hc
    exact List.mem_append_right _ ((List.takeWhile_prefix _).subset hc)
  · rw [cutAuthority_of_ne h]
    exact List.nil_subset _

theorem cutAuthority_snd_suffix (cs : List Char) : (cutAuthority cs).2 <:+ cs := by
  by_cases h : ['/', '/'] <+: cs
  · obtain ⟨rest, rfl⟩ := h
    exact (List.dropWhile_suffix _).trans (List.suffix_append _ _)
  · exact ⟨[], by simp [cutAuthority_of_ne h]⟩

-- A tail leaves the authority as it is, unless it brings both slashes in front of one itself or
-- the second of them.
theorem cutAuthority_append {cs tail : List Char} (hlast : cs.getLast? ≠ some '/')
    (htail : IsTail tail) (h : cs ≠ [] ∨ ¬['/', '/'] <+: tail) :
    cutAuthority (cs ++ tail) = ((cutAuthority cs).1, (cutAuthority cs).2 ++ tail) := by
  by_cases hslashes : ['/', '/'] <+: cs
  · obtain ⟨rest, rfl⟩ := hslashes
    have hhead : ∀ c ∈ tail.head?, (!endsAuthority c) = false := by
      intro c hc
      rw [htail c hc]
      rfl
    change cutAuthority ('/' :: '/' :: (rest ++ tail)) = _
    rw [cutAuthority_slashes, takeWhile_append_of_head hhead, dropWhile_append_of_head hhead]
    rfl
  · rw [cutAuthority_of_ne hslashes]
    apply cutAuthority_of_ne
    intro hprefix
    match cs, hlast, h, hslashes, hprefix with
    | [], _, h, _, hprefix => exact (h.resolve_left fun hne => hne rfl) hprefix
    | [c], hlast, _, _, hprefix =>
        have hc : '/' = c := (List.cons_prefix_cons.mp hprefix).1
        exact hlast (by rw [← hc]; rfl)
    | c :: d :: cs, _, _, hslashes, hprefix =>
        obtain ⟨hc, hrest⟩ := List.cons_prefix_cons.mp hprefix
        obtain ⟨hd, -⟩ := List.cons_prefix_cons.mp hrest
        exact hslashes ⟨cs, by rw [← hc, ← hd]; rfl⟩

end Authority

end CatalogSync.Uri
