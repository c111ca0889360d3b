import Mathlib.Data.List.Sort
import DashcamStats.Library.Binary64

/-!
# Bounded summaries of observations

What a summary of fixed size says about any number of observations: the latest of them, the
greatest, and a sum that stops at a cap.
-/

namespace DashcamStats.Observed

-- The latest `limit` observations.
def recent (limit : ℕ) (xs : List ℕ) : List ℕ := xs.drop (xs.length - limit)

def greatest (xs : List ℕ) : ℕ := xs.foldl max 0

def capped (cap : ℕ) (xs : List ℕ) : ℕ := min xs.sum cap

variable {limit cap : ℕ} {xs : List ℕ}

@[simp] theorem recent_nil : recent limit [] = [] := by simp [recent]

@[simp] theorem length_recent : (recent limit xs).length = min xs.length limit := by
  rw [recent, List.length_drop]
  omega

theorem recent_append (x : ℕ) (positive : 0 < limit) :
    recent limit (xs ++ [x]) =
      (if (recent limit xs).length = limit then (recent limit xs).tail else recent limit xs) ++
        [x] := by
  rw [length_recent, recent, recent, List.length_append, List.length_singleton]
  by_cases full : limit ≤ xs.length
  · rw [if_pos (by omega), List.tail_drop, List.drop_append_of_le_length (by omega)]
    congr 2
    omega
  · rw [if_neg (by omega), show xs.length + 1 - limit = 0 by omega,
      show xs.length - limit = 0 by omega]
    simp

theorem recent_append_trim (x : ℕ) (positive : 0 < limit) :
    recent limit (xs ++ [x]) =
      if limit < (recent limit xs ++ [x]).length then (recent limit xs ++ [x]).tail
      else recent limit xs ++ [x] := by
  rw [recent_append x positive]
  have short : (recent limit xs).length ≤ limit := by
    rw [length_recent]
    exact min_le_right _ _
  rw [List.length_append, List.length_singleton]
  by_cases full : (recent limit xs).length = limit
  · have some_left : recent limit xs ≠ [] := by
      intro gone
      rw [gone, List.length_nil] at full
      omega
    rw [if_pos full, if_pos (by omega), List.tail_append_of_ne_nil some_left]
  · rw [if_neg full, if_neg (by omega)]

theorem mem_of_mem_recent {x : ℕ} (member : x ∈ recent limit xs) : x ∈ xs :=
  List.mem_of_mem_drop member

@[simp] theorem greatest_nil : greatest [] = 0 := rfl

theorem greatest_append (x : ℕ) : greatest (xs ++ [x]) = max (greatest xs) x := by
  simp [greatest, List.foldl_append]

theorem le_greatest {x : ℕ} (member : x ∈ xs) : x ≤ greatest xs := by
  induction xs using List.reverseRecOn with
  | nil => simp at member
  | append_singleton xs y ih =>
    rw [greatest_append]
    cases List.mem_append.mp member with
    | inl earlier => exact (ih earlier).trans (le_max_left _ _)
    | inr latest =>
      rw [List.mem_singleton.mp latest]
      exact le_max_right _ _

theorem greatest_le {bound : ℕ} (bounded : ∀ x ∈ xs, x ≤ bound) : greatest xs ≤ bound := by
  induction xs using List.reverseRecOn with
  | nil => simp
  | append_singleton xs y ih =>
    rw [greatest_append]
    have earlier := ih fun x member => bounded x (by simp [member])
    exact max_le earlier (bounded y (by simp))

theorem greatest_le_sum : greatest xs ≤ xs.sum := by
  apply greatest_le
  intro x member
  exact List.single_le_sum (by simp) x member

@[simp] theorem capped_nil : capped cap [] = 0 := by simp [capped]

theorem capped_append (x : ℕ) : capped cap (xs ++ [x]) = min (capped cap xs + x) cap := by
  simp only [capped, List.sum_append, List.sum_singleton]
  omega

theorem capped_le : capped cap xs ≤ cap := min_le_right _ _

theorem greatest_le_capped (bounded : greatest xs ≤ cap) : greatest xs ≤ capped cap xs :=
  le_min greatest_le_sum bounded

theorem capped_le_greatest_mul : capped cap xs ≤ greatest xs * xs.length := by
  have summed : xs.sum ≤ xs.length • greatest xs := List.sum_le_card_nsmul xs _ fun x => le_greatest
  rw [nsmul_eq_mul, Nat.cast_id, Nat.mul_comm] at summed
  exact (min_le_left _ _).trans summed

section Parts

/-! Observations that are each a sum of parts, the parts summarised one by one. -/

variable {α : Type} {parts : List α} {ys : List (α → ℕ)}

def whole (parts : List α) (y : α → ℕ) : ℕ := (parts.map y).sum

theorem part_le_whole {a : α} (member : a ∈ parts) (y : α → ℕ) : y a ≤ whole parts y :=
  List.single_le_sum (by simp) _ (List.mem_map_of_mem member)

theorem greatest_part_le {a : α} (member : a ∈ parts) :
    greatest (ys.map (· a)) ≤ greatest (ys.map (whole parts)) := by
  apply greatest_le
  intro x observed
  obtain ⟨y, listed, rfl⟩ := List.mem_map.mp observed
  exact (part_le_whole member y).trans (le_greatest (List.mem_map_of_mem listed))

theorem capped_part_le {a : α} (member : a ∈ parts) :
    capped cap (ys.map (· a)) ≤ capped cap (ys.map (whole parts)) := by
  apply min_le_min_right
  apply List.sum_le_sum
  intro y _
  exact part_le_whole member y

theorem sum_whole : (ys.map (whole parts)).sum = (parts.map fun a => (ys.map (· a)).sum).sum := by
  induction ys with
  | nil => simp
  | cons y ys ih =>
    simp only [List.map_cons, List.sum_cons, ih, whole]
    rw [← List.sum_map_add]

theorem min_sum_min (f : α → ℕ) :
    min (parts.map fun a => min (f a) cap).sum cap = min (parts.map f).sum cap := by
  induction parts with
  | nil => simp
  | cons a parts ih =>
    simp only [List.map_cons, List.sum_cons]
    omega

theorem capped_parts :
    min (parts.map fun a => capped cap (ys.map (· a))).sum cap =
      capped cap (ys.map (whole parts)) := by
  simp only [capped, min_sum_min, sum_whole]

end Parts

def ranked (xs : List ℕ) (i : ℕ) : ℕ := (xs.insertionSort (· ≤ ·)).getD i 0

theorem ranked_le_ranked {i j : ℕ} (ordered : i ≤ j) (inside : j < xs.length) :
    ranked xs i ≤ ranked xs j := by
  have sorted : (xs.insertionSort (· ≤ ·)).Pairwise (· ≤ ·) := List.pairwise_insertionSort _ _
  have inside : j < (xs.insertionSort (· ≤ ·)).length := by simpa using inside
  have earlier : i < (xs.insertionSort (· ≤ ·)).length := by omega
  simp only [ranked, List.getD_eq_getElem?_getD, List.getElem?_eq_getElem inside,
    List.getElem?_eq_getElem earlier, Option.getD_some]
  cases Nat.eq_or_lt_of_le ordered with
  | inl same => simp [same]
  | inr before => exact List.pairwise_iff_getElem.mp sorted i j earlier inside before

theorem ranked_le {bound : ℕ} (bounded : ∀ x ∈ xs, x ≤ bound) (i : ℕ) : ranked xs i ≤ bound := by
  rw [ranked, List.getD_eq_getElem?_getD]
  cases found : (xs.insertionSort (· ≤ ·))[i]? with
  | none => simp
  | some x =>
    have member := List.mem_of_getElem? found
    exact bounded x ((List.mem_insertionSort _).mp member)

end DashcamStats.Observed
