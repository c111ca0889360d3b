import Mathlib.Algebra.Order.Ring.Rat
import Mathlib.Data.List.Nodup
import Mathlib.Data.List.Perm.Subperm
import Mathlib.Order.WithBot

namespace DashcamStats.Tracking

-- A cell of the score matrix. Not-a-number is the greatest value: numpy's argmax prefers it to
-- every number, and it is below no threshold.
abbrev Score := WithTop ℚ

def masked : Score := ((-1 : ℚ) : WithTop ℚ)

structure Scores where
  rows : Nat
  cols : Nat
  cell : Nat → Nat → Score

namespace Scores

def size (work : Scores) : Nat := work.rows * work.cols

def flat (work : Scores) (index : Nat) : Score :=
  work.cell (index / work.cols) (index % work.cols)

def argmax (work : Scores) : Nat :=
  (List.range work.size).foldl
    (fun best index => if work.flat best < work.flat index then index else best) 0

def mask (work : Scores) (row col : Nat) : Scores :=
  { work with cell := fun r c => if r = row ∨ c = col then masked else work.cell r c }

def allBelow (work : Scores) (threshold : Score) : Bool :=
  (List.range work.size).all fun index => work.flat index < threshold

end Scores

def greedyLoop (threshold : Score) : Nat → Scores → List (Nat × Nat) → Option (List (Nat × Nat))
  | 0, _, _ => none
  | fuel + 1, work, pairs =>
    let row := work.argmax / work.cols
    let col := work.argmax % work.cols
    if work.cell row col < threshold then some pairs
    else
      let pairs := pairs ++ [(row, col)]
      let work := work.mask row col
      if work.allBelow threshold then some pairs
      else greedyLoop threshold fuel work pairs

def greedyMatch (scores : Scores) (threshold : Score) : Option (List (Nat × Nat)) :=
  if scores.size = 0 then some [] else greedyLoop threshold (scores.rows + 1) scores []

structure Matching (scores : Scores) (threshold : Score) (pairs : List (Nat × Nat)) : Prop where
  rows : (pairs.map Prod.fst).Nodup
  cols : (pairs.map Prod.snd).Nodup
  within : ∀ pair ∈ pairs, pair.1 < scores.rows ∧ pair.2 < scores.cols
  above : ∀ pair ∈ pairs, ¬ scores.cell pair.1 pair.2 < threshold

variable {scores work : Scores} {threshold : Score} {pairs : List (Nat × Nat)}

theorem Matching.nil : Matching scores threshold [] := by
  constructor <;> simp

theorem Scores.argmax_lt (some_cell : 0 < work.size) : work.argmax < work.size := by
  have kept : ∀ (indices : List Nat) (best : Nat), best < work.size →
      (∀ index ∈ indices, index < work.size) →
      indices.foldl (fun best index =>
        if work.flat best < work.flat index then index else best) best < work.size := by
    intro indices
    induction indices with
    | nil => intro best small _; simpa using small
    | cons index rest ih =>
      intro best small all
      simp only [List.foldl_cons]
      apply ih
      · split
        · exact all index (by simp)
        · exact small
      · intro other member
        exact all other (by simp [member])
  apply kept _ 0 some_cell
  intro index member
  exact List.mem_range.mp member

/-- What the loop has done so far: the pairs match, and exactly their rows and columns of the
working copy are masked. -/
structure Masked (scores : Scores) (threshold : Score) (work : Scores)
    (pairs : List (Nat × Nat)) : Prop where
  rows : work.rows = scores.rows
  cols : work.cols = scores.cols
  matching : Matching scores threshold pairs
  hidden : ∀ pair ∈ pairs, ∀ r c, r = pair.1 ∨ c = pair.2 → work.cell r c = masked
  other : ∀ r c, work.cell r c = scores.cell r c ∨ work.cell r c = masked

theorem Masked.initial : Masked scores threshold scores [] where
  rows := rfl
  cols := rfl
  matching := .nil
  hidden := by simp
  other := fun _ _ => .inl rfl

section Step

variable {row col : Nat} (sofar : Masked scores threshold work pairs)
  (low : masked < threshold) (chosen : ¬ work.cell row col < threshold)
include sofar low chosen

theorem Masked.fresh : ∀ pair ∈ pairs, row ≠ pair.1 ∧ col ≠ pair.2 := by
  intro pair member
  constructor
  · intro same
    rw [sofar.hidden pair member row col (.inl same)] at chosen
    exact chosen low
  · intro same
    rw [sofar.hidden pair member row col (.inr same)] at chosen
    exact chosen low

theorem Masked.chosen_above : ¬ scores.cell row col < threshold := by
  cases sofar.other row col with
  | inl same => rwa [← same]
  | inr hidden =>
    rw [hidden] at chosen
    exact absurd low chosen

theorem Masked.step (small : row < scores.rows) (narrow : col < scores.cols) :
    Masked scores threshold (work.mask row col) (pairs ++ [(row, col)]) := by
  have fresh := sofar.fresh low chosen
  refine ⟨sofar.rows, sofar.cols, ⟨?_, ?_, ?_, ?_⟩, ?_, ?_⟩
  · simp only [List.map_append, List.map_cons, List.map_nil]
    apply List.Nodup.append sofar.matching.rows (by simp)
    intro r member here
    obtain ⟨pair, paired, rfl⟩ := List.mem_map.mp member
    exact (fresh pair paired).1 (List.mem_singleton.mp here).symm
  · simp only [List.map_append, List.map_cons, List.map_nil]
    apply List.Nodup.append sofar.matching.cols (by simp)
    intro c member here
    obtain ⟨pair, paired, rfl⟩ := List.mem_map.mp member
    exact (fresh pair paired).2 (List.mem_singleton.mp here).symm
  · intro pair member
    cases List.mem_append.mp member with
    | inl before => exact sofar.matching.within pair before
    | inr now =>
      rw [List.mem_singleton.mp now]
      exact ⟨small, narrow⟩
  · intro pair member
    cases List.mem_append.mp member with
    | inl before => exact sofar.matching.above pair before
    | inr now =>
      rw [List.mem_singleton.mp now]
      exact sofar.chosen_above low chosen
  · intro pair member r c same
    simp only [Scores.mask]
    cases List.mem_append.mp member with
    | inl before => simp [sofar.hidden pair before r c same]
    | inr now =>
      rw [List.mem_singleton.mp now] at same
      simp [same]
  · intro r c
    simp only [Scores.mask]
    split
    · exact .inr rfl
    · exact sofar.other r c

end Step

theorem Masked.rounds (sofar : Masked scores threshold work pairs) :
    pairs.length ≤ scores.rows := by
  have inside : pairs.map Prod.fst ⊆ List.range scores.rows := by
    intro r member
    obtain ⟨pair, paired, rfl⟩ := List.mem_map.mp member
    exact List.mem_range.mpr (sofar.matching.within pair paired).1
  simpa using (sofar.matching.rows.subperm inside).length_le

theorem greedyLoop_spec (low : masked < threshold) (some_cell : 0 < scores.size) :
    ∀ (fuel : Nat) (work : Scores) (pairs : List (Nat × Nat)),
      Masked scores threshold work pairs → scores.rows < pairs.length + fuel →
      ∃ result, greedyLoop threshold fuel work pairs = some result ∧
        Matching scores threshold result := by
  intro fuel
  induction fuel with
  | zero =>
    intro work pairs sofar spent
    have := sofar.rounds
    omega
  | succ fuel ih =>
    intro work pairs sofar enough
    simp only [greedyLoop]
    have size : work.size = scores.size := by simp [Scores.size, sofar.rows, sofar.cols]
    have found : work.argmax < work.rows * work.cols := work.argmax_lt (by omega)
    have wide : 0 < work.cols := by
      by_contra none
      simp [Nat.eq_zero_of_not_pos none] at found
    have small : work.argmax / work.cols < scores.rows := by
      rw [← sofar.rows]
      exact Nat.div_lt_of_lt_mul (by rwa [Nat.mul_comm])
    have narrow : work.argmax % work.cols < scores.cols := by
      have := Nat.mod_lt work.argmax wide
      rwa [sofar.cols] at this ⊢
    split
    · exact ⟨pairs, rfl, sofar.matching⟩
    · rename_i chosen
      have next := sofar.step low chosen small narrow
      split
      · exact ⟨_, rfl, next.matching⟩
      · apply ih _ _ next
        simp only [List.length_append, List.length_singleton]
        omega

variable (scores) in
/-- A threshold above the mask makes the loop end, with a matching. -/
theorem greedyMatch_spec (low : masked < threshold) :
    ∃ pairs, greedyMatch scores threshold = some pairs ∧ Matching scores threshold pairs := by
  unfold greedyMatch
  split
  · exact ⟨[], rfl, .nil⟩
  · apply greedyLoop_spec low (by omega) _ _ _ .initial
    simp

end DashcamStats.Tracking
