import Mathlib.Tactic.Ring

/-!
# Medians

The median of a list of numbers, as Python's `statistics.median` has it.
-/

namespace DashcamStats.Median

universe u

variable {K : Type u} [LinearOrder K]

-- No more of a sorted list is equal to `v` than lies on one side of an element that is not.
theorem count_le_of_lt {xs : List K} (sorted : xs.Pairwise (· ≤ ·)) {v : K} {k : ℕ}
    (within : k < xs.length) (less : xs[k] < v) : xs.count v ≤ xs.length - (k + 1) := by
  have early : (xs.take (k + 1)).count v = 0 := by
    refine List.count_eq_zero.mpr fun among => ?_
    obtain ⟨j, inside, same⟩ := List.getElem_of_mem among
    rw [List.getElem_take] at same
    rw [List.length_take] at inside
    have before : xs[j] ≤ xs[k] := by
      obtain rfl | less := Nat.eq_or_lt_of_le (show j ≤ k by omega)
      · exact le_refl _
      · exact List.pairwise_iff_getElem.mp sorted j k (by omega) within less
    exact absurd (same ▸ before) (not_le.mpr less)
  calc xs.count v = (xs.take (k + 1)).count v + (xs.drop (k + 1)).count v := by
        rw [← List.count_append, List.take_append_drop]
    _ ≤ 0 + (xs.drop (k + 1)).length := by
        rw [early]
        exact Nat.add_le_add_left List.count_le_length 0
    _ = xs.length - (k + 1) := by rw [List.length_drop, Nat.zero_add]

theorem count_le_of_gt {xs : List K} (sorted : xs.Pairwise (· ≤ ·)) {v : K} {k : ℕ}
    (within : k < xs.length) (more : v < xs[k]) : xs.count v ≤ k := by
  have late : (xs.drop k).count v = 0 := by
    refine List.count_eq_zero.mpr fun among => ?_
    obtain ⟨j, inside, same⟩ := List.getElem_of_mem among
    rw [List.getElem_drop] at same
    rw [List.length_drop] at inside
    have after : xs[k] ≤ xs[k + j] := by
      obtain rfl | positive := Nat.eq_zero_or_pos j
      · exact le_refl _
      · exact List.pairwise_iff_getElem.mp sorted k (k + j) within (by omega) (by omega)
    exact absurd (same ▸ after) (not_le.mpr more)
  calc xs.count v = (xs.take k).count v + (xs.drop k).count v := by
        rw [← List.count_append, List.take_append_drop]
    _ ≤ (xs.take k).length + 0 := by
        rw [late]
        exact Nat.add_le_add_right List.count_le_length 0
    _ = k := by
        rw [List.length_take]
        omega

variable [Field K]

def median (xs : List K) : K :=
  let sorted := xs.mergeSort fun a b => decide (a ≤ b)
  if xs.length % 2 = 1 then sorted.getD (xs.length / 2) 0
  else (sorted.getD (xs.length / 2 - 1) 0 + sorted.getD (xs.length / 2) 0) / 2

/-- A value that most of the list has is its median. -/
theorem median_of_majority [IsStrictOrderedRing K] {xs : List K} {v : K}
    (most : xs.length < 2 * xs.count v) : median xs = v := by
  set sorted := xs.mergeSort fun a b => decide (a ≤ b) with sorted_def
  have trans (a b c : K) (first : decide (a ≤ b) = true) (second : decide (b ≤ c) = true) :
      decide (a ≤ c) = true :=
    decide_eq_true ((of_decide_eq_true first).trans (of_decide_eq_true second))
  have total (a b : K) : (decide (a ≤ b) || decide (b ≤ a)) = true := by
    simpa using le_total a b
  have ordered : sorted.Pairwise (· ≤ ·) :=
    (List.pairwise_mergeSort trans total xs).imp fun h => of_decide_eq_true h
  have perm : sorted.Perm xs := List.mergeSort_perm xs _
  have size : sorted.length = xs.length := perm.length_eq
  have count : sorted.count v = xs.count v := perm.count_eq v
  have middle (k : ℕ) (low : xs.length ≤ 2 * (k + 1)) (high : 2 * k ≤ xs.length)
      (within : k < xs.length) : sorted.getD k 0 = v := by
    have within : k < sorted.length := by omega
    rw [List.getD_eq_getElem?_getD, List.getElem?_eq_getElem within, Option.getD_some]
    obtain less | same | more := lt_trichotomy sorted[k] v
    · have := count_le_of_lt ordered within less
      omega
    · exact same
    · have := count_le_of_gt ordered within more
      omega
  have some : 0 < xs.length := by
    have := xs.count_le_length (a := v)
    omega
  unfold median
  dsimp only
  rw [← sorted_def]
  split_ifs with odd
  · exact middle _ (by omega) (by omega) (by omega)
  · rw [middle (xs.length / 2 - 1) (by omega) (by omega) (by omega),
      middle (xs.length / 2) (by omega) (by omega) (by omega), ← two_mul]
    exact mul_div_cancel_left₀ v two_ne_zero

end DashcamStats.Median
