import Mathlib.Data.List.Sort

/-!
# Sorting blocks

A stable sort of blocks of equal keys sorts the blocks.
-/

namespace DashcamStats.Blocks

universe u v w

variable {α : Type u} {β : Type v} {K : Type w} [LinearOrder K]

def byKey (key : α → K) (a b : α) : Bool := decide (key a ≤ key b)

theorem byKey_trans (key : α → K) (a b c : α) (first : byKey key a b = true)
    (second : byKey key b c = true) : byKey key a c = true :=
  decide_eq_true ((of_decide_eq_true first).trans (of_decide_eq_true second))

theorem byKey_total (key : α → K) (a b : α) : (byKey key a b || byKey key b a) = true := by
  simpa [byKey] using le_total (key a) (key b)

/-- What is below a key, and what is not -/
structure Splits (key : α → K) (k : K) (xs below above : List α) : Prop where
  sorted : xs.mergeSort (byKey key) = below ++ above
  less : ∀ a ∈ below, key a < k
  notLess : ∀ a ∈ above, k ≤ key a

theorem Splits.unique {key : α → K} {k : K} {xs below above below' above' : List α}
    (one : Splits key k xs below above) (other : Splits key k xs below' above') :
    below = below' ∧ above = above' := by
  have filtered {low high : List α} (split : Splits key k xs low high) :
      (xs.mergeSort (byKey key)).filter (fun a => decide (key a < k)) = low := by
    rw [split.sorted, List.filter_append, List.filter_eq_self.mpr, List.filter_eq_nil_iff.mpr,
      List.append_nil]
    · intro a among
      simpa using split.notLess a among
    · intro a among
      simpa using split.less a among
  have same : below = below' := (filtered one).symm.trans (filtered other)
  have whole : below ++ above = below ++ above' := by rw [← one.sorted, other.sorted, same]
  exact ⟨same, List.append_cancel_left whole⟩

theorem splits_cons (key : α → K) (a : α) (xs : List α) : ∃ below above,
    Splits key (key a) xs below above ∧
      (a :: xs).mergeSort (byKey key) = below ++ a :: above := by
  obtain ⟨below, above, sorted, rest, less⟩ :=
    List.mergeSort_cons (byKey_trans key) (byKey_total key) a xs
  refine ⟨below, above, ⟨rest, fun b among => ?_, fun b among => ?_⟩, sorted⟩
  · simpa [byKey] using less b among
  · have pairwise := List.pairwise_mergeSort (byKey_trans key) (byKey_total key) (a :: xs)
    rw [sorted] at pairwise
    have after := (List.pairwise_cons.mp (List.pairwise_append.mp pairwise).2.1).1 b among
    exact of_decide_eq_true after

theorem splits_block {key : β → K} {k : K} {rest below above block : List β}
    (same : ∀ b ∈ block, key b = k) (split : Splits key k rest below above) :
    (block ++ rest).mergeSort (byKey key) = below ++ (block ++ above) ∧
      Splits key k (block ++ rest) below (block ++ above) := by
  induction block with
  | nil => exact ⟨split.sorted, split⟩
  | cons b block ih =>
    obtain ⟨-, ih⟩ := ih fun c among => same c (by simp [among])
    obtain ⟨low, high, found, sorted⟩ := splits_cons key b (block ++ rest)
    rw [same b (by simp)] at found
    obtain ⟨rfl, rfl⟩ := found.unique ih
    refine ⟨sorted, sorted, found.less, fun c among => ?_⟩
    obtain rfl | among := List.mem_cons.mp among
    · exact (same c (by simp)).ge
    · exact found.notLess c among

theorem mergeSort_flatMap {key : β → K} {keyOf : α → K} {block : α → List β}
    (same : ∀ a, ∀ b ∈ block a, key b = keyOf a) (xs : List α) :
    (xs.flatMap block).mergeSort (byKey key) =
      (xs.mergeSort (byKey keyOf)).flatMap block := by
  induction xs with
  | nil => simp
  | cons a xs ih =>
    obtain ⟨below, above, split, sorted⟩ := splits_cons keyOf a xs
    have parts : Splits key (keyOf a) (xs.flatMap block) (below.flatMap block)
        (above.flatMap block) := by
      refine ⟨by rw [ih, split.sorted, List.flatMap_append], fun b among => ?_,
        fun b among => ?_⟩
      · obtain ⟨c, inside, here⟩ := List.mem_flatMap.mp among
        rw [same c b here]
        exact split.less c inside
      · obtain ⟨c, inside, here⟩ := List.mem_flatMap.mp among
        rw [same c b here]
        exact split.notLess c inside
    rw [List.flatMap_cons, (splits_block (same a) parts).1, sorted, List.flatMap_append,
      List.flatMap_cons]

end DashcamStats.Blocks
