import Mathlib.Algebra.BigOperators.Group.Finset.Piecewise
import Mathlib.Algebra.Order.BigOperators.Group.Finset

/-!
# Writers and readers of a monitor

One re-entrant lock and its condition. A writer is counted before it waits for the readers, and has
the lock until it leaves. A reader waits for the writers, and has the lock only to be counted.
-/

namespace DashcamStats

namespace Monitor

inductive Phase where
  | out
  | writeEntering
  | writeTesting
  | writeAsleep (notified : Bool)
  | writing (inner : Bool)
  | writeLeaving
  | readEntering
  | readTesting
  | readAsleep (notified : Bool)
  | readReleasing (admitted : Bool)
  | reading
  | readLeft
  deriving DecidableEq

namespace Phase

def depth : Phase → ℕ
  | writeTesting | writing false | writeLeaving | readTesting | readReleasing _ | readLeft => 1
  | writing true => 2
  | _ => 0

def writes : Phase → ℕ
  | writeTesting | writeAsleep _ | writing _ => 1
  | _ => 0

def reads : Phase → ℕ
  | readReleasing true | reading => 1
  | _ => 0

def notified : Phase → Phase
  | writeAsleep _ => writeAsleep true
  | readAsleep _ => readAsleep true
  | phase => phase

@[simp]
theorem depth_notified (phase : Phase) : phase.notified.depth = phase.depth := by
  cases phase <;> rfl

@[simp]
theorem writes_notified (phase : Phase) : phase.notified.writes = phase.writes := by
  cases phase <;> rfl

@[simp]
theorem reads_notified (phase : Phase) : phase.notified.reads = phase.reads := by
  cases phase <;> rfl

def Asleep (phase : Phase) : Prop := phase = writeAsleep false ∨ phase = readAsleep false

theorem not_asleep_notified (phase : Phase) : ¬ phase.notified.Asleep := by
  rintro (asleep | asleep) <;> cases phase <;> cases asleep

end Phase

end Monitor

open Monitor (Phase)

structure Monitor (T : Type) where
  owner : Option T
  depth : ℕ
  writers : ℕ
  readers : ℕ
  phase : T → Phase

variable {T : Type}

namespace Monitor

/-- The next phase that the lock and the condition let a thread enter -/
inductive Moves (m : Monitor T) : Phase → Phase → Prop
  | askWrite : Moves m .out .writeEntering
  | askRead : Moves m .out .readEntering
  | count (unowned : m.owner = none) : Moves m .writeEntering .writeTesting
  | wake (unowned : m.owner = none) : Moves m (.writeAsleep true) .writeTesting
  | sleep (busy : m.readers ≠ 0) : Moves m .writeTesting (.writeAsleep false)
  | write (quiet : m.readers = 0) : Moves m .writeTesting (.writing false)
  | inner : Moves m (.writing false) (.writing true)
  | outer : Moves m (.writing true) (.writing false)
  | leave : Moves m (.writing false) .writeLeaving
  | left : Moves m .writeLeaving .out
  | enter (unowned : m.owner = none) : Moves m .readEntering .readTesting
  | rouse (unowned : m.owner = none) : Moves m (.readAsleep true) .readTesting
  | doze (busy : m.writers ≠ 0) : Moves m .readTesting (.readAsleep false)
  | grant (quiet : m.writers = 0) (admitted : Bool) : Moves m .readTesting (.readReleasing admitted)
  | read : Moves m (.readReleasing true) .reading
  | turn : Moves m (.readReleasing false) .out
  | finish (unowned : m.owner = none) : Moves m .reading .readLeft
  | done : Moves m .readLeft .out

section Moves

variable {m : Monitor T} {before after : Phase} (moves : m.Moves before after)

include moves

theorem Moves.locks (locked : after.depth ≠ 0) : before.depth ≠ 0 ∨ m.owner = none := by
  cases moves <;> simp_all [Phase.depth]

theorem Moves.lowers_writers (lower : after.writes < before.writes) : after = .writeLeaving := by
  cases moves <;> simp_all [Phase.writes]

theorem Moves.lowers_readers (lower : after.reads < before.reads) : after = .readLeft := by
  cases moves with
  | grant _ admitted => cases admitted <;> simp_all [Phase.reads]
  | _ => simp_all [Phase.reads]

theorem Moves.raises_readers (higher : before.reads < after.reads) : before.depth ≠ 0 := by
  cases moves with
  | grant _ admitted => exact Nat.one_ne_zero
  | _ => simp_all [Phase.reads]

theorem Moves.writing {inner : Bool} (writing : after = .writing inner) :
    after.reads = before.reads ∧ (m.readers = 0 ∨ ∃ other, before = .writing other) := by
  cases moves <;> simp_all [Phase.reads]

theorem Moves.writeAsleep (asleep : after = .writeAsleep false) :
    after.reads = before.reads ∧ m.readers ≠ 0 := by
  cases moves <;> simp_all [Phase.reads]

theorem Moves.readAsleep (asleep : after = .readAsleep false) :
    after.writes = before.writes ∧ m.writers ≠ 0 := by
  cases moves <;> simp_all [Phase.writes]

end Moves

variable [DecidableEq T]

-- The thread `t` goes on to a phase, which says what it does to the lock and the counters.
def move (t : T) (phase : Phase) (m : Monitor T) : Monitor T where
  owner := if phase.depth ≠ 0 then some t else if (m.phase t).depth ≠ 0 then none else m.owner
  depth := if phase.depth ≠ 0 then phase.depth else if (m.phase t).depth ≠ 0 then 0 else m.depth
  writers := m.writers + phase.writes - (m.phase t).writes
  readers := m.readers + phase.reads - (m.phase t).reads
  phase := Function.update m.phase t phase

def notifyAll (m : Monitor T) : Monitor T := { m with phase := fun u => (m.phase u).notified }

def Notifies (phase : Phase) : Prop := phase = .writeLeaving ∨ phase = .readLeft

instance (phase : Phase) : Decidable (Notifies phase) :=
  inferInstanceAs (Decidable (_ ∨ _))

def next (t : T) (phase : Phase) (m : Monitor T) : Monitor T :=
  if Notifies phase then (m.move t phase).notifyAll else m.move t phase

def Step (t : T) (m m' : Monitor T) : Prop :=
  ∃ phase, m.Moves (m.phase t) phase ∧ m' = m.next t phase

variable [Fintype T]

/-- The lock has the depth of its owner, the counters are right, nobody writes beside a reader, and
whoever sleeps has something to wait for. -/
structure Inv (m : Monitor T) : Prop where
  owned : ∀ t, (m.phase t).depth ≠ 0 → m.owner = some t
  depth : ∀ t, m.owner = some t → m.depth = (m.phase t).depth ∧ m.depth ≠ 0
  writers : m.writers = ∑ t, (m.phase t).writes
  readers : m.readers = ∑ t, (m.phase t).reads
  quiet : ∀ t inner, m.phase t = .writing inner → m.readers = 0
  writeAsleep : ∀ t, m.phase t = .writeAsleep false → m.readers ≠ 0
  readAsleep : ∀ t, m.phase t = .readAsleep false → m.writers ≠ 0

omit [Fintype T] in
theorem weight_update (weight : Phase → ℕ) (phases : T → Phase) (t : T) (phase : Phase) :
    (fun u => weight (Function.update phases t phase u)) =
      Function.update (fun u => weight (phases u)) t (weight phase) := by
  funext u
  by_cases same : u = t
  · rw [same, Function.update_self, Function.update_self]
  · rw [Function.update_of_ne same, Function.update_of_ne same]

theorem sum_update (weight : Phase → ℕ) (phases : T → Phase) (t : T) (phase : Phase) :
    ∑ u, weight (Function.update phases t phase u) + weight (phases t) =
      ∑ u, weight (phases u) + weight phase := by
  rw [weight_update, Finset.sum_update_of_mem (Finset.mem_univ t), Finset.sdiff_singleton_eq_erase]
  have whole := Finset.sum_erase_add Finset.univ (fun u => weight (phases u)) (Finset.mem_univ t)
  omega

omit [DecidableEq T] in
theorem weight_le (weight : Phase → ℕ) (phases : T → Phase) (t : T) :
    weight (phases t) ≤ ∑ u, weight (phases u) :=
  Finset.single_le_sum (f := fun u => weight (phases u)) (fun _ _ => Nat.zero_le _)
    (Finset.mem_univ t)

section Inv

variable {m : Monitor T} {t : T} {phase : Phase}

theorem Inv.owned_move (inv : m.Inv) (moves : m.Moves (m.phase t) phase) (u : T)
    (locked : ((m.move t phase).phase u).depth ≠ 0) : (m.move t phase).owner = some u := by
  simp only [move] at locked ⊢
  by_cases same : u = t
  · subst same
    rw [Function.update_self] at locked
    rw [if_pos locked]
  · rw [Function.update_of_ne same] at locked
    have owner := inv.owned u locked
    have other : m.owner ≠ some t := fun is => same (Option.some.inj (owner.symm.trans is))
    have outside : ¬ (m.phase t).depth ≠ 0 := fun inside => other (inv.owned t inside)
    have lockless : ¬ phase.depth ≠ 0 := fun inside => by
      rcases moves.locks inside with held | unowned
      · exact outside held
      · rw [unowned] at owner
        cases owner
    rw [if_neg lockless, if_neg outside]
    exact owner

theorem Inv.depth_move (inv : m.Inv) (moves : m.Moves (m.phase t) phase) (u : T)
    (owner : (m.move t phase).owner = some u) :
    (m.move t phase).depth = ((m.move t phase).phase u).depth ∧ (m.move t phase).depth ≠ 0 := by
  simp only [move] at owner ⊢
  by_cases locked : phase.depth ≠ 0
  · rw [if_pos locked] at owner ⊢
    cases owner
    rw [Function.update_self]
    exact ⟨rfl, locked⟩
  · rw [if_neg locked] at owner ⊢
    by_cases held : (m.phase t).depth ≠ 0
    · rw [if_pos held] at owner
      cases owner
    · rw [if_neg held] at owner ⊢
      have other : u ≠ t := by
        rintro rfl
        exact held ((inv.depth u owner).1 ▸ (inv.depth u owner).2)
      rw [Function.update_of_ne other]
      exact inv.depth u owner

theorem sum_move (weight : Phase → ℕ) {count : ℕ} (counted : count = ∑ u, weight (m.phase u))
    (t : T) (phase : Phase) :
    count + weight phase - weight (m.phase t) =
      ∑ u, weight ((m.move t phase).phase u) := by
  have moved := sum_update weight m.phase t phase
  simp only [move]
  omega

theorem Inv.quiet_move (inv : m.Inv) (moves : m.Moves (m.phase t) phase) (u : T) (inner : Bool)
    (writing : (m.move t phase).phase u = .writing inner) : (m.move t phase).readers = 0 := by
  simp only [move] at writing ⊢
  by_cases same : u = t
  · subst same
    rw [Function.update_self] at writing
    obtain ⟨reads, none | ⟨other, before⟩⟩ := moves.writing writing
    · omega
    · have none := inv.quiet u other before
      omega
  · rw [Function.update_of_ne same] at writing
    have none := inv.quiet u inner writing
    have owner : m.owner = some u := inv.owned u (by cases inner <;> simp [writing, Phase.depth])
    -- Another reader is counted only by the owner of the lock.
    have raised : ¬ (m.phase t).reads < phase.reads := fun higher =>
      same (Option.some.inj (owner.symm.trans (inv.owned t (moves.raises_readers higher))))
    omega

theorem Inv.writeAsleep_move (inv : m.Inv) (moves : m.Moves (m.phase t) phase)
    (silent : ¬ Notifies phase) (u : T) (asleep : (m.move t phase).phase u = .writeAsleep false) :
    (m.move t phase).readers ≠ 0 := by
  simp only [move] at asleep ⊢
  have kept : ¬ phase.reads < (m.phase t).reads := fun lower =>
    silent (.inr (moves.lowers_readers lower))
  by_cases same : u = t
  · subst same
    rw [Function.update_self] at asleep
    have busy := (moves.writeAsleep asleep).2
    omega
  · rw [Function.update_of_ne same] at asleep
    have busy := inv.writeAsleep u asleep
    omega

theorem Inv.readAsleep_move (inv : m.Inv) (moves : m.Moves (m.phase t) phase)
    (silent : ¬ Notifies phase) (u : T) (asleep : (m.move t phase).phase u = .readAsleep false) :
    (m.move t phase).writers ≠ 0 := by
  simp only [move] at asleep ⊢
  have kept : ¬ phase.writes < (m.phase t).writes := fun lower =>
    silent (.inl (moves.lowers_writers lower))
  by_cases same : u = t
  · subst same
    rw [Function.update_self] at asleep
    have busy := (moves.readAsleep asleep).2
    omega
  · rw [Function.update_of_ne same] at asleep
    have busy := inv.readAsleep u asleep
    omega

theorem inv_step {m' : Monitor T} (inv : m.Inv) (step : Step t m m') : m'.Inv := by
  obtain ⟨phase, moves, rfl⟩ := step
  unfold next
  split
  next =>
    -- The notification changes neither the lock nor a counter, and wakes all.
    refine
      { owned := fun u locked => ?_
        depth := fun u owner => ?_
        writers := ?_
        readers := ?_
        quiet := fun u inner writing => ?_
        writeAsleep := fun u asleep => absurd (.inl asleep) (Phase.not_asleep_notified _)
        readAsleep := fun u asleep => absurd (.inr asleep) (Phase.not_asleep_notified _) }
    · exact inv.owned_move moves u (by simpa [notifyAll] using locked)
    · simpa [notifyAll] using inv.depth_move moves u owner
    · simpa [notifyAll, move] using sum_move Phase.writes inv.writers t phase
    · simpa [notifyAll, move] using sum_move Phase.reads inv.readers t phase
    · refine inv.quiet_move moves u inner ?_
      simp only [notifyAll] at writing
      cases before : (m.move t phase).phase u <;> simp_all [Phase.notified]
  next silent =>
    exact
      { owned := inv.owned_move moves
        depth := inv.depth_move moves
        writers := sum_move Phase.writes inv.writers t phase
        readers := sum_move Phase.reads inv.readers t phase
        quiet := inv.quiet_move moves
        writeAsleep := inv.writeAsleep_move moves silent
        readAsleep := inv.readAsleep_move moves silent }

omit [DecidableEq T] in
theorem Inv.alone {inner : Bool} {u : T} (inv : m.Inv) (writing : m.phase t = .writing inner)
    (other : u ≠ t) : (m.phase u).reads = 0 ∧ ∀ inner, m.phase u ≠ .writing inner := by
  have none := inv.quiet t inner writing
  rw [inv.readers] at none
  refine ⟨Nat.le_zero.mp (none ▸ weight_le Phase.reads m.phase u), fun inner' beside => other ?_⟩
  have owner := inv.owned t (by cases inner <;> simp [writing, Phase.depth])
  have owner' := inv.owned u (by cases inner' <;> simp [beside, Phase.depth])
  exact Option.some.inj (owner'.symm.trans owner)

omit [DecidableEq T] in
theorem exists_of_count {weight : Phase → ℕ} (some : ∑ u, weight (m.phase u) ≠ 0) :
    ∃ u, weight (m.phase u) ≠ 0 := by
  obtain ⟨u, _, counted⟩ := Finset.exists_ne_zero_of_sum_ne_zero some
  exact ⟨u, counted⟩

omit [DecidableEq T] in
-- While a writer sleeps some reader is awake.
theorem Inv.reader_awake (inv : m.Inv) (asleep : m.phase t = .writeAsleep false) :
    ∃ u, m.phase u ≠ .out ∧ ¬ (m.phase u).Asleep := by
  have some := inv.writeAsleep t asleep
  rw [inv.readers] at some
  obtain ⟨u, counted⟩ := exists_of_count some
  refine ⟨u, fun out => by simp [out, Phase.reads] at counted, ?_⟩
  rintro (sleeps | sleeps) <;> simp [sleeps, Phase.reads] at counted

omit [DecidableEq T] in
-- Not everybody in the monitor is asleep.
theorem Inv.awake (inv : m.Inv) (inside : m.phase t ≠ .out) :
    ∃ u, m.phase u ≠ .out ∧ ¬ (m.phase u).Asleep := by
  by_cases asleep : (m.phase t).Asleep
  · rcases asleep with writer | reader
    · exact inv.reader_awake writer
    · have some := inv.readAsleep t reader
      rw [inv.writers] at some
      obtain ⟨u, counted⟩ := exists_of_count some
      by_cases sleeps : (m.phase u).Asleep
      · rcases sleeps with writer | reader
        · exact inv.reader_awake writer
        · simp [reader, Phase.writes] at counted
      · exact ⟨u, (fun out => by simp [out, Phase.writes] at counted), sleeps⟩
  · exact ⟨t, inside, asleep⟩

end Inv

end Monitor

end DashcamStats
