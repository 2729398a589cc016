import CatalogSync.Proofs.Numeral
import CatalogSync.Proofs.Text.Cut

namespace CatalogSync.Numeral

open CatalogSync.Text

-- Decimal digits with zeros in front.
def withZeros (zeros n : Nat) : List Char := List.replicate zeros '0' ++ Nat.toDigits 10 n

theorem isDigit_of_mem_withZeros {zeros n : Nat} {c : Char} (h : c ∈ withZeros zeros n) :
    c.isDigit = true := by
  rcases List.mem_append.mp h with hzero | hdigit
  · rw [List.eq_of_mem_replicate hzero]
    decide
  · exact isDigit_of_mem_toDigits hdigit

theorem withZeros_ne_nil (zeros n : Nat) : withZeros zeros n ≠ [] :=
  List.append_ne_nil_of_right_ne_nil _ Nat.toDigits_ne_nil

theorem length_withZeros (zeros n : Nat) :
    (withZeros zeros n).length = zeros + (Nat.toDigits 10 n).length := by
  simp [withZeros]

-- Zeros in front do not count.
theorem ofDigitChars_withZeros (zeros n : Nat) :
    Nat.ofDigitChars 10 (withZeros zeros n) 0 = n := by
  rw [withZeros, Nat.ofDigitChars_append, Nat.ofDigitChars_replicate_zero, Nat.mul_zero,
    Nat.ofDigitChars_ten_toDigits]

theorem padded_ofNat (width n : Nat) :
    padded width (Int.ofNat n) = withZeros (width - (Nat.toDigits 10 n).length) n := by
  have hsign : ¬Int.ofNat n < 0 := Int.not_lt.mpr (Int.natCast_nonneg n)
  simp only [padded, withZeros, if_neg hsign, Int.natAbs_ofNat', List.length_nil, Nat.zero_add,
    List.nil_append]

theorem padded_negSucc (width n : Nat) :
    padded width (Int.negSucc n) =
      '-' :: withZeros (width - (1 + (Nat.toDigits 10 (n + 1)).length)) (n + 1) := by
  simp [padded, withZeros, Int.negSucc_lt_zero]

theorem padded_ne_nil (width : Nat) (n : Int) : padded width n ≠ [] := by
  cases n with
  | ofNat n => exact padded_ofNat width n ▸ withZeros_ne_nil _ n
  | negSucc n => exact padded_negSucc width n ▸ List.cons_ne_nil _ _

theorem isDigit_or_minus_of_mem_padded {width : Nat} {n : Int} {c : Char}
    (h : c ∈ padded width n) : c.isDigit = true ∨ c = '-' := by
  cases n with
  | ofNat n => exact .inl (isDigit_of_mem_withZeros (padded_ofNat width n ▸ h))
  | negSucc n =>
      rw [padded_negSucc] at h
      exact (List.mem_cons.mp h).symm.imp_left isDigit_of_mem_withZeros

-- Only a negative number has a sign.
theorem isDigit_of_mem_padded {width : Nat} {n : Int} (hn : 0 ≤ n) {c : Char}
    (h : c ∈ padded width n) : c.isDigit = true := by
  obtain ⟨m, rfl⟩ := Int.eq_ofNat_of_zero_le hn
  exact isDigit_of_mem_withZeros (padded_ofNat width m ▸ h)

theorem magnitude?_withZeros {zeros n : Nat}
    (h : zeros + (Nat.toDigits 10 n).length ≤ digitLimit) :
    magnitude? (withZeros zeros n) = some n := by
  have hdigits := digits?_of_isDigit (withZeros zeros n) (withZeros_ne_nil zeros n)
    fun c hc => isDigit_of_mem_withZeros hc
  rw [magnitude?, hdigits]
  simp [ofDigits_map, ofDigitChars_withZeros, length_withZeros, h]

-- The number at the front of a text, and what follows its digits.
def leading : List Char → Int × List Char
  | '-' :: cs => (-(Nat.ofDigitChars 10 (cs.takeWhile Char.isDigit) 0 : Int),
      cs.dropWhile Char.isDigit)
  | cs => ((Nat.ofDigitChars 10 (cs.takeWhile Char.isDigit) 0 : Int), cs.dropWhile Char.isDigit)

section Digits

variable {digits rest : List Char} (hdigits : ∀ c ∈ digits, c.isDigit = true)
  (hrest : ∀ c ∈ rest.head?, c.isDigit = false)

include hdigits hrest

theorem takeWhile_digits_append : (digits ++ rest).takeWhile Char.isDigit = digits := by
  rw [takeWhile_append_of_head hrest]
  exact List.takeWhile_eq_self_iff.mpr hdigits

theorem dropWhile_digits_append : (digits ++ rest).dropWhile Char.isDigit = rest := by
  rw [dropWhile_append_of_head hrest, List.dropWhile_eq_nil_iff.mpr hdigits, List.nil_append]

-- Digits at the front of a text are read without a sign.
theorem leading_of_isDigit (hne : digits ≠ []) :
    leading (digits ++ rest) = (Int.ofNat (Nat.ofDigitChars 10 digits 0), rest) := by
  obtain ⟨first, more, rfl⟩ := List.exists_cons_of_ne_nil hne
  have hsign : ∀ cs, first :: more ++ rest ≠ '-' :: cs := by
    intro cs heq
    have hfirst := hdigits first List.mem_cons_self
    rw [(List.cons.inj heq).1] at hfirst
    exact absurd hfirst (by decide)
  rw [leading, takeWhile_digits_append hdigits hrest, dropWhile_digits_append hdigits hrest]
  · rfl
  · exact hsign

end Digits

-- A padded number is read off the front of a text that goes on without a digit. A minus in front of
-- the digits is its own, and one behind them is not.
theorem leading_padded (width : Nat) (n : Int) {rest : List Char}
    (h : ∀ c ∈ rest.head?, c.isDigit = false) : leading (padded width n ++ rest) = (n, rest) := by
  cases n with
  | ofNat n =>
      rw [padded_ofNat, leading_of_isDigit (fun c hc => isDigit_of_mem_withZeros hc) h
        (withZeros_ne_nil _ n), ofDigitChars_withZeros]
  | negSucc n =>
      rw [padded_negSucc, List.cons_append, leading,
        takeWhile_digits_append (fun c hc => isDigit_of_mem_withZeros hc) h,
        dropWhile_digits_append (fun c hc => isDigit_of_mem_withZeros hc) h,
        ofDigitChars_withZeros]
      rfl

-- A padded number is read back, unless the number or the width is too long.
theorem read?_padded {width : Nat} {n : Int} (hwidth : width ≤ digitLimit)
    (hdigits : (Nat.toDigits 10 n.natAbs).length ≤ digitLimit) :
    read? (.ofList (padded width n)) = some n := by
  rw [read?, String.toList_ofList, trimWhere_of_forall fun c hc =>
    isPadding_of_isDigit_or_minus (isDigit_or_minus_of_mem_padded hc)]
  cases n with
  | ofNat n =>
      have hlength : (Nat.toDigits 10 n).length ≤ digitLimit := hdigits
      rw [padded_ofNat, signedBy_of_isDigit _ fun c hc => isDigit_of_mem_withZeros hc,
        magnitude?_withZeros (by omega)]
      rfl
  | negSucc n =>
      have hlength : (Nat.toDigits 10 (n + 1)).length ≤ digitLimit := hdigits
      rw [padded_negSucc, signedBy, magnitude?_withZeros (by omega)]
      rfl

-- A text of as many digits as the width says.
structure IsDigits (width : Nat) (text : String) : Prop where
  length : text.toList.length = width
  digits : ∀ c ∈ text.toList, c.isDigit = true

-- A number without a sign that has no more digits than the width.
def FitsIn (width : Nat) (n : Int) : Prop := ∃ m : Nat, n = m ∧ m < 10 ^ width

theorem IsDigits.ofDigitChars_lt {width : Nat} {text : String} (h : IsDigits width text) :
    Nat.ofDigitChars 10 text.toList 0 < 10 ^ width := by
  have hbound : ∀ d ∈ text.toList.map fun c => c.toNat - 48, d < 10 := by
    intro d hd
    obtain ⟨c, hc, rfl⟩ := List.mem_map.mp hd
    have hrange := toNat_of_isDigit (h.digits c hc)
    omega
  have hlt := ofDigits_lt hbound
  rwa [ofDigits_map, List.length_map, h.length] at hlt

theorem IsDigits.toList_ne_nil {width : Nat} {text : String} (h : IsDigits width text)
    (hwidth : 0 < width) : text.toList ≠ [] := by
  intro hnil
  have hlength := h.length
  rw [hnil, List.length_nil] at hlength
  omega

-- A number that fits is padded to exactly the width.
theorem FitsIn.isDigits_padded {width : Nat} {n : Int} (h : FitsIn width n) (hwidth : 0 < width) :
    IsDigits width (.ofList (padded width n)) := by
  obtain ⟨m, rfl, hm⟩ := h
  have hlength : (Nat.toDigits 10 m).length ≤ width :=
    (Nat.length_toDigits_le_iff (by decide) hwidth).mpr hm
  constructor
  · change (String.ofList (padded width (Int.ofNat m))).toList.length = width
    rw [String.toList_ofList, padded_ofNat, length_withZeros]
    omega
  · intro c hc
    rw [String.toList_ofList] at hc
    exact isDigit_of_mem_padded (Int.natCast_nonneg m) hc

-- Where digits stand in place of a padded number, they spell it, so it fits.
theorem fitsIn_of_padded_append {width other : Nat} {n : Int} {text : String}
    {rest more : List Char} (hother : 0 < other) (h : IsDigits other text)
    (hrest : ∀ c ∈ rest.head?, c.isDigit = false) (hmore : ∀ c ∈ more.head?, c.isDigit = false)
    (heq : padded width n ++ rest = text.toList ++ more) : FitsIn other n ∧ rest = more := by
  have hleading := congrArg leading heq
  rw [leading_padded _ _ hrest, leading_of_isDigit h.digits hmore (h.toList_ne_nil hother)]
    at hleading
  obtain ⟨hn, hlater⟩ := Prod.mk.inj hleading
  exact ⟨⟨_, hn, h.ofDigitChars_lt⟩, hlater⟩

end CatalogSync.Numeral
