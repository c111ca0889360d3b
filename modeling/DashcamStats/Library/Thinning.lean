import Mathlib.Tactic.Linarith

/-!
# Thinning a line

The points of a line that stay when each one near its chord is dropped, found with a stack of the
chords that remain to be looked at. How far a point is from a chord is a parameter.
-/

namespace DashcamStats.Thinning

section

-- `deviation first last index`
variable (deviation : ℕ → ℕ → ℕ → ℚ) (tolerance : ℚ)

def worstFrom (first last start count : ℕ) (worst : ℕ × ℚ) : ℕ × ℚ :=
  (List.range' start count).foldl
    (fun worst index =>
      if worst.2 < deviation first last index then (index, deviation first last index) else worst)
    worst

def worstOf (first last : ℕ) : ℕ × ℚ :=
  worstFrom deviation first last (first + 1) (last - (first + 1)) (first, -1)

variable {deviation}

theorem worstFrom_spec (first last start count : ℕ) (worst : ℕ × ℚ) :
    (worstFrom deviation first last start count worst = worst ∨
      ∃ i, start ≤ i ∧ i < start + count ∧
        worstFrom deviation first last start count worst = (i, deviation first last i)) ∧
    worst.2 ≤ (worstFrom deviation first last start count worst).2 ∧
    ∀ i, start ≤ i → i < start + count →
      deviation first last i ≤ (worstFrom deviation first last start count worst).2 := by
  induction count generalizing start worst with
  | zero => exact ⟨Or.inl rfl, le_refl _, fun i low high => by omega⟩
  | succ count ih =>
    have step : worstFrom deviation first last start (count + 1) worst =
        worstFrom deviation first last (start + 1) count
          (if worst.2 < deviation first last start then (start, deviation first last start)
            else worst) := by
      rw [worstFrom, List.range'_succ, List.foldl_cons]
      rfl
    obtain ⟨found, more, all⟩ := ih (start + 1)
      (if worst.2 < deviation first last start then (start, deviation first last start) else worst)
    rw [← step] at found more all
    have taken : worst.2 ≤ (if worst.2 < deviation first last start then
          (start, deviation first last start) else worst).2 ∧
        deviation first last start ≤ (if worst.2 < deviation first last start then
          (start, deviation first last start) else worst).2 := by
      split_ifs with less
      · exact ⟨less.le, le_refl _⟩
      · exact ⟨le_refl _, not_lt.mp less⟩
    refine ⟨?_, taken.1.trans more, fun i low high => ?_⟩
    · obtain same | ⟨i, low, high, same⟩ := found
      · split_ifs at same with less
        · exact Or.inr ⟨start, le_refl _, by omega, same⟩
        · exact Or.inl same
      · exact Or.inr ⟨i, by omega, by omega, same⟩
    · obtain rfl | later := Nat.eq_or_lt_of_le low
      · exact taken.2.trans more
      · exact all i later (by omega)

theorem worstOf_spec (nonneg : ∀ f l i, 0 ≤ deviation f l i) {first last : ℕ}
    (apart : first + 1 < last) :
    first < (worstOf deviation first last).1 ∧ (worstOf deviation first last).1 < last ∧
      ∀ i, first < i → i < last → deviation first last i ≤ (worstOf deviation first last).2 := by
  obtain ⟨found, more, all⟩ := @worstFrom_spec deviation first last (first + 1)
    (last - (first + 1)) (first, -1)
  have within := all (first + 1) (le_refl _) (by omega)
  refine ⟨?_, ?_, fun i low high => all i low (by omega)⟩
  all_goals
    obtain same | ⟨i, low, high, same⟩ := found
    · rw [same] at within
      exact absurd (nonneg _ _ _) (by linarith)
    · rw [worstOf, same]
      dsimp only
      omega

end

def work (stack : List (ℕ × ℕ)) : ℕ :=
  (stack.map fun chord => max 1 (2 * (chord.2 - chord.1) - 1)).sum

@[simp] theorem work_cons (chord : ℕ × ℕ) (stack : List (ℕ × ℕ)) :
    work (chord :: stack) = max 1 (2 * (chord.2 - chord.1) - 1) + work stack := by
  rw [work, List.map_cons, List.sum_cons, work]

def thin (deviation : ℕ → ℕ → ℕ → ℚ) (nonneg : ∀ f l i, 0 ≤ deviation f l i) (tolerance : ℚ) :
    List (ℕ × ℕ) → List Bool → List Bool
  | [], keep => keep
  | (first, last) :: stack, keep =>
    if _far : first + 1 < last then
      let worst := worstOf deviation first last
      if tolerance < worst.2 then
        thin deviation nonneg tolerance ((worst.1, last) :: (first, worst.1) :: stack)
          (keep.set worst.1 true)
      else thin deviation nonneg tolerance stack keep
    else thin deviation nonneg tolerance stack keep
termination_by stack => work stack
decreasing_by
  · obtain ⟨low, high, -⟩ := worstOf_spec nonneg _far
    simp only [work_cons]
    omega
  · simp only [work_cons]
    omega
  · simp only [work_cons]
    omega

variable {deviation : ℕ → ℕ → ℕ → ℚ} {nonneg : ∀ f l i, 0 ≤ deviation f l i} {tolerance : ℚ}

-- The indices that stay between the two of a chord
inductive Thinned (deviation : ℕ → ℕ → ℕ → ℚ) (tolerance : ℚ) : ℕ → ℕ → List ℕ → Prop where
  | near (first last : ℕ)
      (all : ∀ i, first < i → i < last → deviation first last i ≤ tolerance) :
      Thinned deviation tolerance first last []
  | split (first middle last : ℕ) (left right : List ℕ) (after : first < middle)
      (before : middle < last) (low : Thinned deviation tolerance first middle left)
      (high : Thinned deviation tolerance middle last right) :
      Thinned deviation tolerance first last (left ++ middle :: right)

theorem Thinned.within {first last : ℕ} {stay : List ℕ}
    (h : Thinned deviation tolerance first last stay) : ∀ i ∈ stay, first < i ∧ i < last := by
  induction h with
  | near => exact fun i among => absurd among List.not_mem_nil
  | split first middle last left right after before low high ihLow ihHigh =>
    intro i among
    obtain among | among := List.mem_append.mp among
    · exact ⟨(ihLow i among).1, (ihLow i among).2.trans before⟩
    · obtain rfl | among := List.mem_cons.mp among
      · exact ⟨after, before⟩
      · exact ⟨after.trans (ihHigh i among).1, (ihHigh i among).2⟩

/-- An index that goes is near the chord of the nearest two that stay. -/
theorem Thinned.dropped {first last : ℕ} {stay : List ℕ}
    (h : Thinned deviation tolerance first last stay) {i : ℕ} (low : first < i) (high : i < last)
    (gone : i ∉ stay) : ∃ j k, (j = first ∨ j ∈ stay) ∧ (k = last ∨ k ∈ stay) ∧ j < i ∧ i < k ∧
      (∀ m ∈ stay, ¬ (j < m ∧ m < k)) ∧ deviation j k i ≤ tolerance := by
  induction h with
  | near first last all =>
    exact ⟨first, last, Or.inl rfl, Or.inl rfl, low, high,
      fun m among => absurd among List.not_mem_nil, all i low high⟩
  | split first middle last left right after before lower higher ihLow ihHigh =>
    have apart : i ≠ middle := fun same => gone (by simp [same])
    obtain less | more := Nat.lt_or_gt_of_ne apart
    · obtain ⟨j, k, hj, hk, below, above, none, near⟩ :=
        ihLow low less fun among => gone (List.mem_append_left _ among)
      have top : k ≤ middle := by
        obtain rfl | among := hk
        · exact le_refl _
        · exact (lower.within k among).2.le
      refine ⟨j, k, ?_, ?_, below, above, fun m among inside => ?_, near⟩
      · exact hj.imp_right fun among => List.mem_append_left _ among
      · exact Or.inr (hk.elim (fun same => by simp [same]) fun among => by simp [among])
      · obtain among | among := List.mem_append.mp among
        · exact none m among inside
        · obtain rfl | among := List.mem_cons.mp among
          · omega
          · have := (higher.within m among).1
            omega
    · obtain ⟨j, k, hj, hk, below, above, none, near⟩ :=
        ihHigh more high fun among => gone (by simp [among])
      have bottom : middle ≤ j := by
        obtain rfl | among := hj
        · exact le_refl _
        · exact (higher.within j among).1.le
      refine ⟨j, k, ?_, ?_, below, above, fun m among inside => ?_, near⟩
      · exact Or.inr (hj.elim (fun same => by simp [same]) fun among => by simp [among])
      · exact hk.imp_right fun among => by simp [among]
      · obtain among | among := List.mem_append.mp among
        · have := (lower.within m among).2
          omega
        · obtain rfl | among := List.mem_cons.mp among
          · omega
          · exact none m among inside

theorem thin_cons (first last : ℕ) (stack : List (ℕ × ℕ)) (keep : List Bool) :
    ∃ stay keep', Thinned deviation tolerance first last stay ∧
      thin deviation nonneg tolerance ((first, last) :: stack) keep =
        thin deviation nonneg tolerance stack keep' ∧
      keep'.length = keep.length ∧
      ∀ i, i < keep.length → (keep'[i]? = some true ↔ i ∈ stay ∨ keep[i]? = some true) := by
  induction size : last - first using Nat.strong_induction_on
    generalizing first last stack keep with
  | _ size ih =>
    rw [thin]
    split_ifs with far
    · dsimp only
      obtain ⟨low, high, all⟩ := worstOf_spec nonneg far
      split_ifs with over_
      · set middle := (worstOf deviation first last).1
        obtain ⟨right, keep₁, thinned₁, eq₁, length₁, kept₁⟩ :=
          ih (last - middle) (by omega) middle last ((first, middle) :: stack)
            (keep.set middle true) rfl
        obtain ⟨left, keep₂, thinned₂, eq₂, length₂, kept₂⟩ :=
          ih (middle - first) (by omega) first middle stack keep₁ rfl
        refine ⟨left ++ middle :: right, keep₂, .split first middle last left right low high
          thinned₂ thinned₁, eq₁.trans eq₂, by simp [length₂, length₁], fun i h => ?_⟩
        rw [List.length_set] at length₁ kept₁
        rw [kept₂ i (by omega), kept₁ i h, List.getElem?_set]
        by_cases same : middle = i
        · simp [same, h]
        · simp only [same, if_false, List.mem_append, List.mem_cons, Ne.symm same, false_or]
          tauto
      · exact ⟨[], keep, .near first last fun i after before =>
          (all i after before).trans (not_lt.mp over_), rfl, rfl, by simp⟩
    · exact ⟨[], keep, .near first last fun i after before => by omega, rfl, rfl, by simp⟩

end DashcamStats.Thinning
