import CatalogSync.Proofs.Batch
import Mathlib.Data.Rat.Floor

namespace CatalogSync.Batch

variable {α : Type}

-- The items in their order, in batches of which all but the last one are full. The last one is
-- neither empty nor more than full.
structure IsGreedySplit (size : Int) (items : List α) (batches : List (List α)) : Prop where
  flatten : batches.flatten = items
  full : ∀ batch ∈ batches.dropLast, batch.length = size
  last : ∀ batch ∈ batches.getLast?, 1 ≤ batch.length ∧ batch.length ≤ size

variable {size : Int} {items batch : List α} {batches : List (List α)}

theorem isGreedySplit_nil_iff : IsGreedySplit size items [] ↔ items = [] := by
  constructor
  · intro h
    exact h.flatten.symm
  · rintro rfl
    exact ⟨rfl, nofun, nofun⟩

-- The first batch is followed by a split of what is left, and has to be full unless nothing is.
theorem isGreedySplit_cons_iff (hsize : 0 < size) :
    IsGreedySplit size items (batch :: batches) ↔ ∃ rest, items = batch ++ rest ∧
      IsGreedySplit size rest batches ∧ 1 ≤ batch.length ∧ batch.length ≤ size ∧
        (rest ≠ [] → batch.length = size) := by
  cases batches with
  | nil =>
      simp only [isGreedySplit_nil_iff]
      constructor
      · rintro ⟨hflatten, -, hlast⟩
        obtain ⟨hone, hmost⟩ := hlast batch rfl
        exact ⟨[], hflatten.symm, rfl, hone, hmost, fun hrest => absurd rfl hrest⟩
      · rintro ⟨rest, rfl, rfl, hone, hmost, -⟩
        refine ⟨rfl, nofun, ?_⟩
        rintro _ ⟨⟩
        exact ⟨hone, hmost⟩
  | cons next later =>
      constructor
      · rintro ⟨hflatten, hfull, hlast⟩
        rw [List.dropLast_cons_cons] at hfull
        obtain ⟨hfirst, hfull⟩ := List.forall_mem_cons.mp hfull
        rw [List.getLast?_cons_cons] at hlast
        exact ⟨_, hflatten.symm, ⟨rfl, hfull, hlast⟩, by omega, by omega, fun _ => hfirst⟩
      · rintro ⟨rest, rfl, hsplit, -, -, hfirst⟩
        -- Something is left, since the last batch is not empty.
        have hrest : rest ≠ [] := by
          rintro rfl
          have hne : next :: later ≠ [] := List.cons_ne_nil _ _
          have hempty := List.flatten_eq_nil_iff.mp hsplit.flatten _ (List.getLast_mem hne)
          have hone := (hsplit.last _ (List.getLast?_eq_some_getLast hne)).1
          rw [hempty] at hone
          cases hone
        refine ⟨congrArg (batch ++ ·) hsplit.flatten, ?_, ?_⟩
        · rw [List.dropLast_cons_cons]
          exact List.forall_mem_cons.mpr ⟨hfirst hrest, hsplit.full⟩
        · rw [List.getLast?_cons_cons]
          exact hsplit.last

theorem slices_eq_nil_iff {more : Nat} : slices more items = [] ↔ items = [] := by
  cases items <;> simp [slices]

theorem slices_eq_cons_iff {more : Nat} : slices more items = batch :: batches ↔
    items ≠ [] ∧ items.take (more + 1) = batch ∧ slices more (items.drop (more + 1)) = batches := by
  cases items <;> simp [slices]

-- By induction on the batches: what is cut off is the only first batch that a split can have.
theorem slices_eq_iff {more : Nat} :
    slices more items = batches ↔ IsGreedySplit (more + 1) items batches := by
  induction batches generalizing items with
  | nil => rw [slices_eq_nil_iff, isGreedySplit_nil_iff]
  | cons batch batches ih =>
      rw [slices_eq_cons_iff, ih, isGreedySplit_cons_iff (by omega)]
      constructor
      · rintro ⟨hne, rfl, hrest⟩
        have hpos := List.length_pos_of_ne_nil hne
        refine ⟨_, (List.take_append_drop _ _).symm, hrest, ?_, ?_, fun hleft => ?_⟩
        · rw [List.length_take]
          omega
        · rw [List.length_take]
          omega
        · have hmore := List.length_pos_of_ne_nil hleft
          rw [List.length_drop] at hmore
          rw [List.length_take]
          omega
      · rintro ⟨rest, rfl, hrest, hone, hmost, hfull⟩
        refine ⟨List.append_ne_nil_of_left_ne_nil (List.ne_nil_of_length_pos hone) _, ?_⟩
        by_cases hleft : rest = []
        · subst hleft
          rw [List.append_nil, List.take_of_length_le (by omega), List.drop_of_length_le (by omega)]
          exact ⟨rfl, hrest⟩
        · have hlength : batch.length = more + 1 := by
            have hsize := hfull hleft
            omega
          rw [List.take_left' hlength, List.drop_left' hlength]
          exact ⟨rfl, hrest⟩

theorem plan_eq_iff (hsize : 0 < size) :
    plan size items = batches ↔ IsGreedySplit size items batches := by
  have hmore : ((size.toNat - 1 : Nat) : Int) + 1 = size := by omega
  rw [plan, if_neg (by omega), slices_eq_iff, hmore]

theorem length_plan (size : Int) (items : List α) :
    (plan size items).length = count size items.length := by
  rw [plan_eq, List.length_map, List.length_range]

theorem ne_nil_of_mem_plan (hsize : 0 < size) (h : batch ∈ plan size items) : batch ≠ [] := by
  rw [plan_eq] at h
  obtain ⟨i, hi, rfl⟩ := List.mem_map.mp h
  have hcount := List.mem_range.mp hi
  have hlength := mul_lt_of_lt_count size items.length i hsize hcount
  exact slice_ne_nil size items i (List.ne_nil_of_length_pos (by omega)) hcount

-- The number of batches is the quotient rounded up.
theorem count_eq_ceil (hsize : 0 < size) (n : Nat) : (count size n : Int) = ⌈(n : ℚ) / size⌉ := by
  obtain ⟨b, rfl⟩ := Int.eq_ofNat_of_zero_le (Int.le_of_lt hsize)
  have hb : 0 < b := by omega
  have hcount : count b n = (n + b - 1) / b := if_neg (by omega)
  have hdivision := Nat.div_add_mod (n + b - 1) b
  have hremainder := Nat.mod_lt (n + b - 1) hb
  rw [← hcount] at hdivision
  have hbound : (0 : ℚ) < (b : Int) := by exact_mod_cast hb
  rw [eq_comm, Int.ceil_eq_iff, lt_div_iff₀ hbound, div_le_iff₀ hbound, sub_mul, one_mul,
    sub_lt_iff_lt_add, mul_comm]
  constructor
  · exact_mod_cast show b * count b n < n + b by omega
  · exact_mod_cast show n ≤ b * count b n by omega

-- Batches of a size above zero are the only split of the items into full batches and a last one
-- that may be shorter. None is empty, and there are as many as the quotient rounded up. A size of
-- zero or less makes a single batch of all items, even of none.
theorem plan_greedy (size : Int) (items : List α) :
    (0 < size →
      (∀ batches, IsGreedySplit size items batches ↔ batches = plan size items) ∧
      (∀ batch ∈ plan size items, batch ≠ []) ∧
      ((plan size items).length : Int) = ⌈(items.length : ℚ) / size⌉) ∧
    (size ≤ 0 → plan size items = [items]) := by
  refine ⟨fun hsize => ⟨fun batches => ?_, fun batch => ne_nil_of_mem_plan hsize, ?_⟩,
    fun hsize => if_pos hsize⟩
  · rw [← plan_eq_iff hsize, eq_comm]
  · rw [length_plan, count_eq_ceil hsize]

-- Seven items in batches of three, and none at all in a batch of any size.
theorem plan_greedy_seven :
    0 < (3 : Int) ∧ plan 3 [1, 2, 3, 4, 5, 6, 7] = [[1, 2, 3], [4, 5, 6], [7]] ∧
      ((plan 3 [1, 2, 3, 4, 5, 6, 7]).length : Int) = ⌈(7 : ℚ) / 3⌉ ∧
      (0 : Int) ≤ 0 ∧ plan 0 ([] : List Nat) = [[]] := by
  obtain ⟨hunique, -, hlength⟩ := (plan_greedy 3 [1, 2, 3, 4, 5, 6, 7]).1 (by decide)
  have hplan := (hunique [[1, 2, 3], [4, 5, 6], [7]]).mp
    { flatten := rfl, full := by decide, last := by decide }
  exact ⟨by decide, hplan.symm, hlength, by decide, (plan_greedy 0 []).2 (by decide)⟩

end CatalogSync.Batch
