import CatalogSync.Batch

namespace CatalogSync.Batch

variable {α β : Type}

-- How many batches `n` items need. There is always one if the size is zero or less.
def count (size : Int) (n : Nat) : Nat :=
  if size ≤ 0 then 1 else (n + size.toNat - 1) / size.toNat

-- The items in the `i`-th batch.
def slice (size : Int) (items : List α) (i : Nat) : List α :=
  if size ≤ 0 then items else (items.drop (i * size.toNat)).take size.toNat

theorem slice_map (f : α → β) (size : Int) (items : List α) (i : Nat) :
    slice size (items.map f) i = (slice size items i).map f := by
  unfold slice
  split <;> simp

theorem slices_eq (more : Nat) (items : List α) :
    slices more items = (List.range ((items.length + more) / (more + 1))).map fun i =>
      (items.drop (i * (more + 1))).take (more + 1) := by
  induction items using slices.induct more with
  | case1 =>
      have hn : (0 + more) / (more + 1) = 0 := Nat.div_eq_of_lt (by omega)
      rw [slices, List.length_nil, hn]
      rfl
  | case2 item items ih =>
      have hn : ((item :: items).length + more) / (more + 1) =
          ((items.drop more).length + more) / (more + 1) + 1 := by
        rw [List.length_cons, List.length_drop, ← Nat.add_div_right _ (by omega)]
        by_cases h : more ≤ items.length
        · congr 1
          omega
        · rw [Nat.div_eq_of_lt_le (k := 1) (by omega) (by omega),
            Nat.div_eq_of_lt_le (k := 1) (by omega) (by omega)]
      rw [slices, ih, hn, List.range_succ_eq_map, List.map_cons, List.map_map]
      simp only [Nat.zero_mul, List.drop_zero, List.take_succ_cons, List.cons.injEq, true_and]
      apply List.map_congr_left
      intro i _
      have hi : (i + 1) * (more + 1) = more + i * (more + 1) + 1 := by
        rw [Nat.succ_mul]
        omega
      simp only [Function.comp_apply, List.drop_drop, Nat.succ_eq_add_one, hi, List.drop_succ_cons]

-- The batches are the slices in order.
theorem plan_eq (size : Int) (items : List α) :
    plan size items = (List.range (count size items.length)).map (slice size items) := by
  unfold plan count slice
  by_cases h : size ≤ 0
  · simp [h]
  · simp only [h, if_false, slices_eq]
    have hs : size.toNat - 1 + 1 = size.toNat := by omega
    rw [hs, Nat.add_sub_assoc (by omega)]

-- As many items as go into the first `k` batches are in them, as long as another batch follows.
theorem flatMap_slice (size : Int) (items : List α) (k : Nat) (hk : k < count size items.length) :
    (List.range k).flatMap (slice size items) = items.take (k * size.toNat) := by
  unfold count at hk
  by_cases h : size ≤ 0
  · have hz : k = 0 := by simpa [h] using hk
    simp [hz]
  · clear hk
    induction k with
    | zero => simp
    | succ k ih =>
        rw [List.range_succ, List.flatMap_append, ih, Nat.succ_mul, List.take_add]
        simp [slice, h]

theorem mul_lt_of_lt_count (size : Int) (n i : Nat) (hs : 0 < size) (hi : i < count size n) :
    i * size.toNat < n := by
  unfold count at hi
  rw [if_neg (by omega), Nat.lt_iff_add_one_le, Nat.le_div_iff_mul_le (by omega),
    Nat.succ_mul] at hi
  omega

theorem length_flatMap_slice (size : Int) (items : List α) (k : Nat)
    (hk : k < count size items.length) :
    ((List.range k).flatMap (slice size items)).length = k * size.toNat := by
  rw [flatMap_slice size items k hk, List.length_take, Nat.min_eq_left]
  rcases Int.lt_or_le 0 size with hs | hs
  · exact Nat.le_of_lt (mul_lt_of_lt_count size items.length k hs hk)
  · simp [Int.toNat_of_nonpos hs]

theorem slice_ne_nil (size : Int) (items : List α) (i : Nat) (hitems : items ≠ [])
    (hi : i < count size items.length) : slice size items i ≠ [] := by
  rcases Int.lt_or_le 0 size with hs | hs
  · have hn := mul_lt_of_lt_count size items.length i hs hi
    apply List.ne_nil_of_length_pos
    simp only [slice, if_neg (show ¬size ≤ 0 by omega), List.length_take, List.length_drop]
    omega
  · simpa [slice, hs] using hitems

-- All batches before the last one are full.
theorem length_slice (size : Int) (items : List α) (i : Nat)
    (hi : i + 1 < count size items.length) : (slice size items i).length = size.toNat := by
  have hs : 0 < size := by
    rcases Int.lt_or_le 0 size with hs | hs
    · exact hs
    · simp [count, hs] at hi
  have hn := mul_lt_of_lt_count size items.length (i + 1) hs hi
  rw [Nat.succ_mul] at hn
  simp only [slice, if_neg (show ¬size ≤ 0 by omega), List.length_take, List.length_drop]
  omega

theorem flatten_slices (more : Nat) (items : List α) : (slices more items).flatten = items := by
  induction items using slices.induct more with
  | case1 => simp [slices]
  | case2 item items ih =>
      rw [slices, List.flatten_cons, ih, List.cons_append, List.take_append_drop]

-- The batches hold all items in their order.
theorem flatten_plan (size : Int) (items : List α) : (plan size items).flatten = items := by
  unfold plan
  split
  · simp
  · exact flatten_slices _ items

-- The number of items in `k` full batches, where a size of zero or less counts as none.
theorem natCast_mul_toNat (size : Int) (k : Nat) :
    ((k * size.toNat : Nat) : Int) = if 0 < size then k * size else 0 := by
  split
  · rw [Int.natCast_mul, Int.toNat_of_nonneg (by omega)]
  · rw [Int.toNat_of_nonpos (by omega)]
    simp

end CatalogSync.Batch
