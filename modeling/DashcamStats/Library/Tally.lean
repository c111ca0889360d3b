import Mathlib.Algebra.Order.Group.Nat

/-!
# Hits and runs of misses

Slots are asked one by one whether they were hit. A block of misses is counted at once.
-/

namespace DashcamStats

@[ext] structure SlotTally where
  received : ℕ := 0
  missing : ℕ := 0
  runs : ℕ := 0
  longest : ℕ := 0
  -- Misses since the last hit
  current : ℕ := 0
  deriving DecidableEq

namespace SlotTally

variable (t : SlotTally) (n : ℕ) (hit other : ℕ → Bool)

def step : Bool → SlotTally
  | true => { t with
      received := t.received + 1
      current := 0 }
  | false => { t with
      missing := t.missing + 1
      runs := if t.current = 0 then t.runs + 1 else t.runs
      longest := max t.longest (t.current + 1)
      current := t.current + 1 }

-- `n` misses at once
def skip : SlotTally :=
  if n = 0 then t
  else { t with
    missing := t.missing + n
    runs := if t.current = 0 then t.runs + 1 else t.runs
    longest := max t.longest (t.current + n)
    current := t.current + n }

def walk : SlotTally := (List.range n).foldl (fun t slot => t.step (hit slot)) {}

@[simp] theorem skip_zero : t.skip 0 = t := rfl

@[simp] theorem skip_current : (t.skip n).current = t.current + n := by
  unfold skip
  split <;> simp_all

theorem skip_succ : t.skip (n + 1) = (t.skip n).step false := by
  obtain rfl | positive := Nat.eq_zero_or_pos n
  · simp [skip, step]
  · have started : t.current + n ≠ 0 := by omega
    have some : n ≠ 0 := by omega
    simp only [skip, step, Nat.add_one_ne_zero, some, started, if_false, SlotTally.mk.injEq, true_and]
    omega

theorem walk_succ : walk (n + 1) hit = (walk n hit).step (hit n) := by
  simp [walk, List.range_succ]

variable {hit other n}

theorem walk_congr (same : ∀ slot < n, hit slot = other slot) : walk n hit = walk n other := by
  induction n with
  | zero => rfl
  | succ n ih =>
    rw [walk_succ, walk_succ, ih fun slot earlier => same slot (by omega), same n (by omega)]

/-- A block that nothing hit is skipped. -/
theorem walk_add {k : ℕ} (missed : ∀ slot, n ≤ slot → slot < n + k → hit slot = false) :
    walk (n + k) hit = (walk n hit).skip k := by
  induction k with
  | zero => simp
  | succ k ih =>
    rw [← Nat.add_assoc, walk_succ, ih fun slot late early => missed slot late (by omega),
      missed (n + k) (by omega) (by omega), skip_succ]

variable (n hit) in
theorem walk_sum : (walk n hit).received + (walk n hit).missing = n := by
  induction n with
  | zero => rfl
  | succ n ih =>
    rw [walk_succ]
    cases hit n <;> simp only [step] <;> omega

variable (n hit) in
theorem walk_current_le : (walk n hit).current ≤ n := by
  induction n with
  | zero => exact le_rfl
  | succ n ih =>
    rw [walk_succ]
    cases hit n <;> simp only [step] <;> omega

theorem walk_received_mono {m : ℕ} (order : m ≤ n) :
    (walk m hit).received ≤ (walk n hit).received := by
  induction n, order using Nat.le_induction with
  | base => exact le_rfl
  | succ n _ ih =>
    rw [walk_succ]
    cases hit n <;> simp only [step] <;> omega

variable (hit) in
theorem walk_received_lt {m slot : ℕ} (late : m ≤ slot) (early : slot < n)
    (struck : hit slot = true) : (walk m hit).received < (walk n hit).received :=
  calc (walk m hit).received ≤ (walk slot hit).received := walk_received_mono late
    _ < (walk (slot + 1) hit).received := by simp [walk_succ, struck, step]
    _ ≤ (walk n hit).received := walk_received_mono early

end SlotTally

end DashcamStats
