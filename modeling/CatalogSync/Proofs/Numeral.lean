import CatalogSync.Numeral
import CatalogSync.Proofs.Text.Trim
import Mathlib.Algebra.Group.Nat.Defs

namespace CatalogSync.Numeral

open CatalogSync.Text

theorem toNat_of_isDigit {c : Char} (h : c.isDigit = true) : 48 ≤ c.toNat ∧ c.toNat ≤ 57 :=
  Char.isDigit_iff_toNat.mp h

theorem digitValue?_of_isDigit {c : Char} (h : c.isDigit = true) :
    digitValue? c = some (c.toNat - 48) := by
  have hrange := toNat_of_isDigit h
  simp [digitValue?, zeroDigits, hrange.1, hrange.2]

theorem isPadding_of_isDigit {c : Char} (h : c.isDigit = true) : isPadding c = false := by
  have hrange := toNat_of_isDigit h
  have hblank : isBlank c = false := by
    simp only [isBlank, Ranges.holds, blankRanges, List.any_cons, List.any_nil, Bool.or_false,
      Bool.or_eq_false_iff, Bool.and_eq_false_iff, decide_eq_false_iff_not]
    omega
  rw [isPadding, hblank, Bool.false_and]

-- Each character stands for itself where no underscore is among the digits.
theorem digits?_of_isDigit (cs : List Char) (hne : cs ≠ []) (h : ∀ c ∈ cs, c.isDigit = true) :
    digits? cs = some (cs.map fun c => c.toNat - 48) := by
  fun_induction digits? cs with
  | case1 => exact absurd rfl hne
  | case2 c => simp [digitValue?_of_isDigit (h c (by simp))]
  | case3 c rest ih => exact absurd (h '_' (by simp)) (by decide)
  | case4 c rest hrest hplain ih =>
      obtain ⟨hc, hdigits⟩ := List.forall_mem_cons.mp h
      have hmore : rest ≠ [] := fun hnil => hrest hnil
      rw [digitValue?_of_isDigit hc, ih hmore hdigits]
      rfl

theorem ofDigits_map (cs : List Char) :
    ofDigits (cs.map fun c => c.toNat - 48) = Nat.ofDigitChars 10 cs 0 := by
  rw [ofDigits, List.foldl_map, Nat.ofDigitChars_eq_foldl]
  rfl

theorem isDigit_of_mem_toDigits {n : Nat} {c : Char} (h : c ∈ Nat.toDigits 10 n) :
    c.isDigit = true :=
  Nat.isDigit_of_mem_toDigits (by decide) (by decide) h

theorem magnitude?_toDigits (n : Nat) :
    magnitude? (Nat.toDigits 10 n) =
      if (Nat.toDigits 10 n).length ≤ digitLimit then some n else none := by
  have hdigits := digits?_of_isDigit (Nat.toDigits 10 n) Nat.toDigits_ne_nil
    fun c hc => isDigit_of_mem_toDigits hc
  rw [magnitude?, hdigits]
  simp [ofDigits_map, Nat.ofDigitChars_toDigits]

-- Without a sign in front the digits are all there is.
theorem signedBy_of_isDigit (magnitude? : List Char → Option Nat) {cs : List Char}
    (h : ∀ c ∈ cs, c.isDigit = true) :
    signedBy magnitude? cs = (magnitude? cs).map Int.ofNat := by
  have hfirst : ∀ sign : Char, sign.isDigit = false → ∀ rest, cs ≠ sign :: rest := by
    rintro sign hsign rest rfl
    rw [h sign List.mem_cons_self] at hsign
    cases hsign
  rw [signedBy]
  · exact hfirst '-' (by decide)
  · exact hfirst '+' (by decide)

theorem signedBy_toDigits (magnitude? : List Char → Option Nat) (n : Nat) :
    signedBy magnitude? (Nat.toDigits 10 n) = (magnitude? (Nat.toDigits 10 n)).map Int.ofNat :=
  signedBy_of_isDigit magnitude? fun _ hc => isDigit_of_mem_toDigits hc

theorem toList_toString_ofNat (n : Nat) : (toString (Int.ofNat n)).toList = Nat.toDigits 10 n :=
  Nat.toList_repr

theorem toList_toString_negSucc (n : Nat) :
    (toString (Int.negSucc n)).toList = '-' :: Nat.toDigits 10 (n + 1) := by
  rw [show toString (Int.negSucc n) = "-" ++ (n + 1).repr from rfl, String.toList_append,
    Nat.toList_repr]
  rfl

-- Digits that are read without regard to a sign can be read with one.
theorem signedBy_toString {magnitude? : List Char → Option Nat}
    (h : ∀ m, magnitude? (Nat.toDigits 10 m) = some m) (n : Int) :
    signedBy magnitude? (toString n).toList = some n := by
  cases n with
  | ofNat m =>
      rw [toList_toString_ofNat, signedBy_toDigits, h]
      rfl
  | negSucc m =>
      rw [toList_toString_negSucc, signedBy, h]
      rfl

-- The decimal digits of a whole number and its sign are all that it is written with.
theorem isDigit_or_minus_of_mem_toString {n : Int} {c : Char} (h : c ∈ (toString n).toList) :
    c.isDigit = true ∨ c = '-' := by
  cases n with
  | ofNat m =>
      rw [toList_toString_ofNat] at h
      exact .inl (isDigit_of_mem_toDigits h)
  | negSucc m =>
      rw [toList_toString_negSucc] at h
      exact (List.mem_cons.mp h).symm.imp_left isDigit_of_mem_toDigits

theorem isPadding_of_isDigit_or_minus {c : Char} (h : c.isDigit = true ∨ c = '-') :
    isPadding c = false := by
  rcases h with hdigit | rfl
  · exact isPadding_of_isDigit hdigit
  · decide

-- A whole number is read off its decimal digits, unless there are too many of them.
theorem read?_toString (n : Int) :
    read? (toString n) =
      if (Nat.toDigits 10 n.natAbs).length ≤ digitLimit then some n else none := by
  rw [read?, trimWhere_of_forall fun c hc =>
    isPadding_of_isDigit_or_minus (isDigit_or_minus_of_mem_toString hc)]
  cases n with
  | ofNat n =>
      rw [toList_toString_ofNat, signedBy_toDigits, magnitude?_toDigits]
      change _ = if (Nat.toDigits 10 n).length ≤ digitLimit then some (Int.ofNat n) else none
      split <;> rfl
  | negSucc n =>
      rw [toList_toString_negSucc, signedBy, magnitude?_toDigits, Int.natAbs_negSucc]
      split <;> rfl

theorem digitValue?_lt {c : Char} {d : Nat} (h : digitValue? c = some d) : d < 10 := by
  obtain ⟨first, hfind, rfl⟩ := Option.map_eq_some_iff.mp h
  have hrange := List.find?_some hfind
  simp only [Bool.and_eq_true, decide_eq_true_eq] at hrange
  omega

theorem exists_cons_of_digits? {c : Char} {rest : List Char} {digits : List Nat}
    (h : (do return (← digitValue? c) :: (← digits? rest)) = some digits) :
    ∃ first more, digitValue? c = some first ∧ digits? rest = some more ∧
      digits = first :: more := by
  obtain ⟨first, hfirst, hrest⟩ := Option.bind_eq_some_iff.mp h
  obtain ⟨more, hmore, hcons⟩ := Option.bind_eq_some_iff.mp hrest
  exact ⟨first, more, hfirst, hmore, (Option.some.inj hcons).symm⟩

theorem lt_of_mem_digits? {cs : List Char} {digits : List Nat} (h : digits? cs = some digits) :
    ∀ d ∈ digits, d < 10 := by
  fun_induction digits? cs generalizing digits with
  | case1 => cases h
  | case2 c =>
      obtain ⟨first, hfirst, rfl⟩ := Option.map_eq_some_iff.mp h
      exact List.forall_mem_singleton.mpr (digitValue?_lt hfirst)
  | case3 c rest ih =>
      obtain ⟨first, more, hfirst, hmore, rfl⟩ := exists_cons_of_digits? h
      exact List.forall_mem_cons.mpr ⟨digitValue?_lt hfirst, ih hmore⟩
  | case4 c rest _ _ ih =>
      obtain ⟨first, more, hfirst, hmore, rfl⟩ := exists_cons_of_digits? h
      exact List.forall_mem_cons.mpr ⟨digitValue?_lt hfirst, ih hmore⟩

theorem ofDigits_lt {digits : List Nat} (h : ∀ d ∈ digits, d < 10) :
    ofDigits digits < 10 ^ digits.length := by
  induction digits using List.reverseRecOn with
  | nil => simp [ofDigits]
  | append_singleton digits d ih =>
      have hd := h d (by simp)
      have hrest := ih fun e he => h e (List.mem_append_left _ he)
      simp only [ofDigits, List.foldl_append, List.foldl_cons, List.foldl_nil, List.length_append,
        List.length_singleton, Nat.pow_succ] at hrest ⊢
      omega

theorem exists_magnitude_of_signedBy {magnitude? : List Char → Option Nat} {cs : List Char}
    {n : Int} (h : signedBy magnitude? cs = some n) :
    ∃ rest m, magnitude? rest = some m ∧ n.natAbs = m := by
  rw [signedBy.eq_def] at h
  split at h
  · obtain ⟨k, hk, rfl⟩ := Option.map_eq_some_iff.mp h
    obtain ⟨m, hm, hpure⟩ := Option.bind_eq_some_iff.mp hk
    obtain rfl := Option.some.inj hpure
    exact ⟨_, m, hm, by simp⟩
  all_goals
    obtain ⟨m, hm, rfl⟩ := Option.map_eq_some_iff.mp h
    exact ⟨_, m, hm, rfl⟩

-- A number that can be read has not too many digits to be written.
theorem length_toDigits_of_read? {s : String} {n : Int} (h : read? s = some n) :
    (Nat.toDigits 10 n.natAbs).length ≤ digitLimit := by
  obtain ⟨cs, m, hm, hn⟩ := exists_magnitude_of_signedBy h
  obtain ⟨digits, hdigits, hlimit⟩ := Option.bind_eq_some_iff.mp hm
  by_cases hlength : digits.length ≤ digitLimit
  · rw [if_pos hlength] at hlimit
    have hbound := ofDigits_lt (lt_of_mem_digits? hdigits)
    rw [hn, ← Option.some.inj hlimit, Nat.length_toDigits_le_iff (by decide) (by decide)]
    exact hbound.trans_le (Nat.pow_le_pow_right (by decide) hlength)
  · rw [if_neg hlength] at hlimit
    cases hlimit

end CatalogSync.Numeral
