import Mathlib.Data.List.ReduceOption
import Mathlib.Data.List.Sort
import Mathlib.Data.Prod.Lex
import DashcamStats.Logger.PollPlan

namespace DashcamStats.Logger

open ObdPollPlan

inductive LivePollStep where
  | queryPid (pid : ℕ)
  | readVoltage
  | deferred (pid : ℕ)
  | interrupted (remainingPids : List ℕ)
  | complete
  deriving DecidableEq

structure LivePollScheduler where
  recentCommands : List ℤ := []
  recentTails : List ℤ := []
  lastAttempts : ℕ → Option ℕ := fun _ => none
  highWater : ℤ

namespace LivePollScheduler

def created (monotonicMillis : ℤ) : LivePollScheduler := { highWater := max monotonicMillis 0 }

def critical (requested : List ℕ) : List ℕ := requested.filter fun pid => tier pid = some "fast"

-- An air flow that is due comes first, then what was asked for longest ago, or never.
def rank (s : LivePollScheduler) (pid : ℕ) : ℕ ×ₗ ℤ :=
  toLex (if pid = 0x10 then 0 else 1, ((s.lastAttempts pid).map Int.ofNat).getD (-2 ^ 63))

def optional (s : LivePollScheduler) (requested : List ℕ) : List ℕ :=
  (requested.filter fun pid => tier pid ≠ some "fast").insertionSort fun a b =>
    s.rank a ≤ s.rank b

-- The voltage is `none`.
def beginCycle (s : LivePollScheduler) (requested : List ℕ) : List (Option ℕ) :=
  (critical requested).map some ++ none :: (s.optional requested).map some

def observeAttempt (s : LivePollScheduler) (pid sequence : ℕ) : LivePollScheduler :=
  if tier pid ∈ [some "medium", some "slow"] then
    { s with lastAttempts := Function.update s.lastAttempts pid (some sequence) }
  else s

def retain (window : List ℤ) (durationMillis : ℤ) : List ℤ :=
  (if window.length = 16 then window.tail else window) ++ [max 0 (min durationMillis 60000)]

def observeCommand (s : LivePollScheduler) (durationMillis : ℤ) : LivePollScheduler :=
  { s with recentCommands := retain s.recentCommands durationMillis }

def observeTail (s : LivePollScheduler) (durationMillis : ℤ) : LivePollScheduler :=
  { s with recentTails := retain s.recentTails durationMillis }

def conservativeReserve (durationMillis minimum : ℤ) : ℤ :=
  max minimum ((durationMillis * 5 + 3) / 4 + 25)

def requiredCommandMillis (s : LivePollScheduler) : ℤ :=
  match s.recentCommands.max? with
  | none => 1000
  | some longest => conservativeReserve longest 750

def requiredTailMillis (s : LivePollScheduler) : ℤ :=
  match s.recentTails.max? with
  | none => 1500
  | some longest => max 500 (longest + 100)

def now (s : LivePollScheduler) (monotonicMillis : ℤ) : LivePollScheduler :=
  { s with highWater := max s.highWater (max monotonicMillis 0) }

/-- An optional command does not fit what is left of the cycle. -/
def short (s : LivePollScheduler) (startedAtMillis : ℤ) : Prop :=
  TARGET_CYCLE_MILLIS - max 0 (s.highWater - startedAtMillis) <
    s.requiredCommandMillis + s.requiredTailMillis

instance (s : LivePollScheduler) (startedAtMillis : ℤ) : Decidable (s.short startedAtMillis) :=
  inferInstanceAs (Decidable (_ < _))

end LivePollScheduler

/-- How a command ends: with values, without, with a reply that the parser refuses, after a timeout
with the prompt back, with another error, or by cancellation. -/
inductive Reply where
  | values
  | missing
  | malformed
  | recovered
  | fault
  | cancelled
  deriving DecidableEq

-- One pass of the loop: what it is told before the step, and how the command of the step went.
structure Turn where
  preempted : Bool := false
  monotonicMillis : ℤ
  cooling : Bool := false
  reply : Reply := .values
  elapsedMillis : ℤ := 0

inductive Outcome where
  | complete
  | interrupted
  | failed
  | cancelled
  deriving DecidableEq

-- `steps` is history.
structure LiveCycle where
  scheduler : LivePollScheduler
  sequence : ℕ
  startedAtMillis : ℤ
  commands : List (Option ℕ)
  answered : List ℕ := []
  missing : List ℕ := []
  outcome : Option Outcome := none
  steps : List LivePollStep := []

namespace LiveCycle

def remainingPids (c : LiveCycle) : List ℕ := c.commands.reduceOption

def next (c : LiveCycle) (turn : Turn) : LivePollStep × LiveCycle :=
  if turn.preempted then (.interrupted c.remainingPids, c)
  else match c.commands with
  | [] => (.complete, c)
  | none :: rest => (.readVoltage, { c with commands := rest })
  | some pid :: rest =>
    if tier pid = some "fast" then (.queryPid pid, { c with commands := rest })
    else
      let scheduler := c.scheduler.now turn.monotonicMillis
      (if scheduler.short c.startedAtMillis then .deferred pid else .queryPid pid,
        { c with commands := rest, scheduler })

def persistPartial (c : LiveCycle) (outcome : Outcome) (more : List ℕ) : LiveCycle :=
  { c with missing := c.missing ++ more, outcome := some outcome }

def observe (c : LiveCycle) (turn : Turn) : LiveCycle :=
  { c with scheduler := c.scheduler.observeCommand turn.elapsedMillis }

def trialCritical : List ℕ := [0x0D, 0x0C, 0x10]

def settle (c : LiveCycle) (pid : ℕ) (turn : Turn) : LiveCycle :=
  match turn.reply with
  | .values => { c with answered := c.answered ++ [pid] }
  | .missing | .malformed => { c with missing := c.missing ++ [pid] }
  | .recovered =>
    if pid ∉ trialCritical then { c with missing := c.missing ++ [pid] }
    else c.persistPartial .failed (pid :: c.remainingPids)
  | .fault => c.persistPartial .failed (pid :: c.remainingPids)
  | .cancelled => { c with outcome := some .cancelled }

def voltage (c : LiveCycle) (turn : Turn) : LiveCycle :=
  match turn.reply with
  | .values | .missing => c
  | .cancelled => { c with outcome := some .cancelled }
  | .malformed | .recovered | .fault => c.persistPartial .failed c.remainingPids

def attempted (c : LiveCycle) (pid : ℕ) : LiveCycle :=
  { c with scheduler := c.scheduler.observeAttempt pid c.sequence }

def carryOut (c : LiveCycle) (turn : Turn) : LivePollStep → LiveCycle
  | .interrupted remaining => c.persistPartial .interrupted remaining
  | .complete => { c with outcome := some .complete }
  | .deferred pid => { c with missing := c.missing ++ [pid] }
  | .readVoltage => (c.voltage turn).observe turn
  | .queryPid pid =>
    if turn.cooling then { c with missing := c.missing ++ [pid] }
    else ((c.attempted pid).settle pid turn).observe turn

-- The loop of `recordDrive` is left once there is an outcome.
def pass (c : LiveCycle) (turn : Turn) : LiveCycle :=
  match c.outcome with
  | some _ => c
  | none =>
    let step := c.next turn
    { step.2.carryOut turn step.1 with steps := c.steps ++ [step.1] }

def run (c : LiveCycle) (turns : List Turn) : LiveCycle := turns.foldl pass c

def begun (scheduler : LivePollScheduler) (sequence : ℕ) (requested : List ℕ)
    (startedAtMillis : ℤ) : LiveCycle :=
  { scheduler, sequence, startedAtMillis, commands := scheduler.beginCycle requested }

variable {c : LiveCycle} {turn : Turn} {pid : ℕ} {rest : List (Option ℕ)}

theorem next_cases (c : LiveCycle) (turn : Turn) :
    c.next turn = (.interrupted c.remainingPids, c) ∨
    c.commands = [] ∧ c.next turn = (.complete, c) ∨
    (∃ rest, c.commands = none :: rest ∧
      c.next turn = (.readVoltage, { c with commands := rest })) ∨
    (∃ pid rest, c.commands = some pid :: rest ∧ tier pid = some "fast" ∧
      c.next turn = (.queryPid pid, { c with commands := rest })) ∨
    ∃ pid rest, c.commands = some pid :: rest ∧ tier pid ≠ some "fast" ∧
      c.next turn =
        (if (c.scheduler.now turn.monotonicMillis).short c.startedAtMillis then .deferred pid
          else .queryPid pid,
        { c with commands := rest, scheduler := c.scheduler.now turn.monotonicMillis }) := by
  by_cases preempted : turn.preempted = true
  · exact .inl (by simp [next, preempted])
  · right
    rcases commands : c.commands with _ | ⟨_ | pid, rest⟩
    · simp [next, preempted, commands]
    · simp [next, preempted, commands]
    · by_cases quick : tier pid = some "fast" <;> simp [next, preempted, commands, quick]

-- How often a PID is in the row, or still to come.
def total (c : LiveCycle) (pid : ℕ) : ℕ :=
  c.answered.count pid + c.missing.count pid +
    if c.outcome = none then c.remainingPids.count pid else 0

theorem missed_total (going : c.outcome = none) (other : ℕ) :
    total { c with missing := c.missing ++ [pid] } other = c.total other + [pid].count other := by
  simp [total, going, remainingPids]
  omega

theorem persist_total (going : c.outcome = none) (outcome : Outcome) (more : List ℕ)
    (other : ℕ) : (c.persistPartial outcome (more ++ c.remainingPids)).total other =
      c.total other + more.count other := by
  simp [total, persistPartial, going]
  omega

theorem settle_total (going : c.outcome = none)
    (kept : (c.settle pid turn).outcome ≠ some .cancelled) (other : ℕ) :
    (c.settle pid turn).total other = c.total other + [pid].count other := by
  cases reply : turn.reply with
  | values =>
    simp [settle, reply, total, going, remainingPids]
    omega
  | missing | malformed =>
    simpa only [settle, reply] using missed_total going other
  | recovered =>
    simp only [settle, reply]
    split
    · exact missed_total going other
    · exact persist_total going .failed [pid] other
  | fault =>
    simp only [settle, reply]
    exact persist_total going .failed [pid] other
  | cancelled => simp [settle, reply] at kept

theorem voltage_total (going : c.outcome = none)
    (kept : (c.voltage turn).outcome ≠ some .cancelled) (other : ℕ) :
    (c.voltage turn).total other = c.total other := by
  cases reply : turn.reply with
  | values | missing => simp only [voltage, reply]
  | malformed | recovered | fault =>
    simp only [voltage, reply]
    exact persist_total going .failed [] other
  | cancelled => simp [voltage, reply] at kept

theorem query_total (going : c.outcome = none)
    (kept : (c.carryOut turn (.queryPid pid)).outcome ≠ some .cancelled) (other : ℕ) :
    (c.carryOut turn (.queryPid pid)).total other = c.total other + [pid].count other := by
  simp only [carryOut] at kept ⊢
  split at kept
  · rw [if_pos ‹_›]
    exact missed_total going other
  · rw [if_neg ‹_›]
    exact settle_total (c := c.attempted pid) going kept other

def Accounted (requested : List ℕ) (c : LiveCycle) : Prop :=
  c.outcome ≠ some .cancelled → ∀ pid, c.total pid = requested.count pid

theorem pass_accounted {requested : List ℕ} (held : Accounted requested c) :
    Accounted requested (c.pass turn) := by
  unfold pass
  cases going : c.outcome with
  | some outcome => simpa [going] using held
  | none =>
    intro kept other
    rw [← held (by simp [going]) other]
    rcases next_cases c turn with
      step | ⟨empty, step⟩ | ⟨rest, popped, step⟩ | ⟨pid, rest, popped, -, step⟩ |
        ⟨pid, rest, popped, -, step⟩ <;>
      simp only [step] at kept ⊢
    · simp [carryOut, persistPartial, total, going]
      omega
    · simp [carryOut, total, going, remainingPids, empty]
    · refine (voltage_total (c := { c with commands := rest }) going kept other).trans ?_
      simp [total, going, remainingPids, popped]
    · refine (query_total (c := { c with commands := rest }) going kept other).trans ?_
      simp [total, going, remainingPids, popped, List.count_cons]
      omega
    · have left : total { c with
          commands := rest, scheduler := c.scheduler.now turn.monotonicMillis } other +
          [pid].count other = c.total other := by
        simp [total, going, remainingPids, popped, List.count_cons]
        omega
      rw [← left]
      split at kept
      · rw [if_pos ‹_›]
        simp [carryOut, total, going, remainingPids]
        omega
      · rw [if_neg ‹_›]
        exact query_total (c := { c with
          commands := rest, scheduler := c.scheduler.now turn.monotonicMillis }) going kept other

def commandOf : LivePollStep → Option (Option ℕ)
  | .queryPid pid | .deferred pid => some (some pid)
  | .readVoltage => some none
  | .interrupted _ | .complete => none

-- Behind an optional command there are only optional ones, none of them of a lower rank.
def Follows (s : LivePollScheduler) (before after : Option ℕ) : Prop :=
  ∀ p, before = some p → tier p ≠ some "fast" →
    ∃ q, after = some q ∧ tier q ≠ some "fast" ∧ s.rank p ≤ s.rank q

theorem beginCycle_follows (s : LivePollScheduler) (requested : List ℕ) :
    (s.beginCycle requested).Pairwise (Follows s) := by
  have quick : ∀ pid ∈ LivePollScheduler.critical requested, ∀ after,
      Follows s (some pid) after := by
    rintro pid member after p ⟨⟩ slow
    exact absurd (by simpa using (List.mem_filter.mp member).2) slow
  have slow : ∀ pid ∈ s.optional requested, tier pid ≠ some "fast" := by
    intro pid member
    simpa using (List.mem_filter.mp ((List.mem_insertionSort _).mp member)).2
  have sorted : (s.optional requested).Pairwise fun a b => s.rank a ≤ s.rank b :=
    have : Std.Total fun a b => s.rank a ≤ s.rank b := ⟨fun _ _ => le_total _ _⟩
    have : IsTrans ℕ fun a b => s.rank a ≤ s.rank b := ⟨fun _ _ _ => le_trans⟩
    List.pairwise_insertionSort _ _
  unfold LivePollScheduler.beginCycle
  rw [List.pairwise_append, List.pairwise_cons, List.pairwise_map, List.pairwise_map]
  refine ⟨List.pairwise_of_forall_mem_list fun _ member _ _ => quick _ member _,
    ⟨by simp [Follows], sorted.imp_of_mem ?_⟩, ?_⟩
  · rintro a b - member le p ⟨⟩ -
    exact ⟨b, rfl, slow b member, le⟩
  · intro before member after _
    obtain ⟨pid, among, rfl⟩ := List.mem_map.mp member
    exact quick pid among after

/-- Once an optional command has been put off, all that is left is put off. -/
structure Steady (commands : List (Option ℕ)) (c : LiveCycle) : Prop where
  split : c.steps.filterMap commandOf ++ c.commands = commands
  deferral : ∀ pid, .deferred pid ∈ c.steps → tier pid ≠ some "fast"
  held : ∀ pid, .deferred pid ∈ c.steps → c.scheduler.short c.startedAtMillis
  last : c.steps.Pairwise fun before after =>
    ∀ pid, before = .deferred pid → ∀ other, after ≠ .queryPid other

theorem short_now {s : LivePollScheduler} {started : ℤ} (short : s.short started)
    (monotonicMillis : ℤ) : (s.now monotonicMillis).short started := by
  have later : s.highWater ≤ (s.now monotonicMillis).highWater := le_max_left _ _
  have same : (s.now monotonicMillis).requiredCommandMillis +
      (s.now monotonicMillis).requiredTailMillis =
        s.requiredCommandMillis + s.requiredTailMillis := rfl
  unfold LivePollScheduler.short at short ⊢
  omega

section

variable {s : LivePollScheduler} {commands : List (Option ℕ)} {command : Option ℕ}

theorem Steady.none_deferred (steady : Steady commands c) (follows : commands.Pairwise (Follows s))
    (popped : c.commands = command :: rest) (quick : ∀ q, command = some q → tier q = some "fast")
    (pid : ℕ) : .deferred pid ∉ c.steps := by
  intro put
  rw [← steady.split, popped, List.pairwise_append] at follows
  have among : some pid ∈ c.steps.filterMap commandOf := List.mem_filterMap.mpr ⟨_, put, rfl⟩
  obtain ⟨q, same, slow, -⟩ := follows.2.2 _ among command List.mem_cons_self pid rfl
    (steady.deferral pid put)
  exact slow (quick q same)

theorem Steady.append (steady : Steady commands c) {step : LivePollStep} {after : LiveCycle}
    (steps : after.steps = c.steps ++ [step])
    (split : (commandOf step).toList ++ after.commands = c.commands)
    (slow : ∀ pid, step = .deferred pid → tier pid ≠ some "fast")
    (held : ∀ pid, .deferred pid ∈ c.steps ++ [step] →
      after.scheduler.short after.startedAtMillis)
    (last : ∀ pid, .deferred pid ∈ c.steps → ∀ other, step ≠ .queryPid other) :
    Steady commands after where
  split := by
    rw [steps, List.filterMap_append, List.append_assoc, ← steady.split, ← split]
    cases named : commandOf step <;> simp [named]
  deferral := by
    intro pid put
    rw [steps, List.mem_append, List.mem_singleton] at put
    exact put.elim (steady.deferral pid) fun same => slow pid same.symm
  held := by rwa [steps]
  last := by
    rw [steps, List.pairwise_append]
    refine ⟨steady.last, List.pairwise_singleton .., ?_⟩
    rintro before put after new pid rfl
    rw [List.mem_singleton.mp new]
    exact last pid put

theorem settle_commands (c : LiveCycle) (pid : ℕ) (turn : Turn) :
    (c.settle pid turn).commands = c.commands := by
  unfold settle
  split
  case h_4 => split <;> rfl
  all_goals rfl

theorem carryOut_commands (c : LiveCycle) (turn : Turn) (step : LivePollStep) :
    (c.carryOut turn step).commands = c.commands := by
  cases step with
  | interrupted | complete | deferred => rfl
  | readVoltage =>
    simp only [carryOut, voltage]
    split <;> rfl
  | queryPid pid =>
    simp only [carryOut]
    split
    · rfl
    · exact settle_commands (c.attempted pid) pid turn

theorem pass_steady (follows : commands.Pairwise (Follows s)) (steady : Steady commands c) :
    Steady commands (c.pass turn) := by
  unfold pass
  cases going : c.outcome with
  | some outcome => exact steady
  | none =>
    rcases next_cases c turn with
      step | ⟨empty, step⟩ | ⟨rest, popped, step⟩ | ⟨pid, rest, popped, quick, step⟩ |
        ⟨pid, rest, popped, slow, step⟩ <;>
      simp only [step]
    · exact steady.append rfl (by simp [commandOf, carryOut_commands]) (by simp)
        (by simpa [carryOut, persistPartial] using steady.held) (by simp)
    · exact steady.append rfl (by simp [commandOf, carryOut_commands]) (by simp)
        (by simpa [carryOut, persistPartial] using steady.held) (by simp)
    · have none_ := steady.none_deferred follows popped (by simp)
      exact steady.append rfl (by simp [commandOf, carryOut_commands, popped]) (by simp)
        (by simp [none_]) (by simp)
    · have none_ := steady.none_deferred follows popped (by simp [quick])
      exact steady.append rfl (by simp [commandOf, carryOut_commands, popped]) (by simp)
        (by simp [none_]) (by simp [none_])
    · split
      · rename_i short
        exact steady.append rfl (by simp [commandOf, carryOut_commands, popped])
          (by simpa using slow) (fun _ _ => short) (by simp)
      · rename_i room
        have none_ : ∀ pid, .deferred pid ∉ c.steps := fun pid put =>
          room (short_now (steady.held pid put) _)
        exact steady.append rfl (by simp [commandOf, carryOut_commands, popped]) (by simp)
          (by simp [none_]) (by simp [none_])

end

theorem run_steady (s : LivePollScheduler) (sequence : ℕ) (requested : List ℕ) (started : ℤ)
    (turns : List Turn) :
    Steady (s.beginCycle requested) ((begun s sequence requested started).run turns) := by
  refine List.foldlRecOn turns pass ?_ fun c steady turn _ =>
    pass_steady (beginCycle_follows s requested) steady
  exact ⟨by simp [begun], by simp [begun], by simp [begun], by simp [begun]⟩

theorem run_accounted (s : LivePollScheduler) (sequence : ℕ) (requested : List ℕ) (started : ℤ)
    (turns : List Turn) :
    Accounted requested ((begun s sequence requested started).run turns) := by
  refine List.foldlRecOn turns pass ?_ fun c held turn _ => pass_accounted held
  intro _ pid
  have sorted : (s.optional requested).Perm _ := List.perm_insertionSort ..
  have split := List.filter_append_perm (fun pid => decide (tier pid = some "fast")) requested
  have whole := (sorted.append_left (LivePollScheduler.critical requested)).trans
    (by simpa [LivePollScheduler.critical] using split)
  have left : (s.beginCycle requested).reduceOption =
      LivePollScheduler.critical requested ++ s.optional requested := by
    simp [LivePollScheduler.beginCycle, List.reduceOption]
  simpa [total, begun, remainingPids, left] using whole.count_eq pid

-- Where both steps are there, the deferral is the later one.
theorem Steady.ranked {commands : List (Option ℕ)} {s : LivePollScheduler} {p q : ℕ}
    (steady : Steady commands c) (follows : commands.Pairwise (Follows s))
    (first : .queryPid p ∈ c.steps) (put : .deferred q ∈ c.steps)
    (slow : tier p ≠ some "fast") : s.rank p ≤ s.rank q := by
  rw [← steady.split, List.pairwise_append] at follows
  have both := (List.pairwise_filterMap.mp follows.1).and steady.last
  obtain ⟨front, back, split⟩ := List.append_of_mem put
  rw [split, List.pairwise_append, List.pairwise_cons] at both
  rw [split, List.mem_append, List.mem_cons] at first
  rcases first with ahead | same | behind
  · obtain ⟨_, ⟨⟩, -, le⟩ := (both.2.2 _ ahead _ List.mem_cons_self).1 _ rfl _ rfl p rfl slow
    exact le
  · cases same
  · exact absurd rfl ((both.2.1.1 _ behind).2 q rfl p)

theorem lastAttempts_le {s : LivePollScheduler} {p q i : ℕ} (le : s.rank p ≤ s.rank q)
    (notMaf : p ≠ 0x10) (known : s.lastAttempts p = some i) :
    ∃ k, s.lastAttempts q = some k ∧ i ≤ k := by
  have ages := Prod.Lex.le_iff.mp le
  simp only [LivePollScheduler.rank, ofLex_toLex, notMaf, if_false, known] at ages
  cases other : s.lastAttempts q with
  | none =>
    simp [other] at ages
    split at ages <;> omega
  | some k =>
    refine ⟨k, rfl, ?_⟩
    simp [other] at ages
    split at ages <;> omega

/-- A cycle takes its commands in order, the fast tier and the voltage first, and puts off only what
is behind these. After that it leaves the bus alone, and what it put off has been asked for since
whatever it asked for was, but for the air flow. -/
theorem run_ordered (s : LivePollScheduler) (sequence : ℕ) (requested : List ℕ) (started : ℤ)
    (turns : List Turn) :
    let c := (begun s sequence requested started).run turns
    c.steps.filterMap commandOf <+: s.beginCycle requested ∧
      (∀ pid, .deferred pid ∈ c.steps → tier pid ≠ some "fast") ∧
      (c.steps.Pairwise fun before after =>
        ∀ pid, before = .deferred pid → ∀ other, after ≠ .queryPid other) ∧
      ∀ p q i, .queryPid p ∈ c.steps → .deferred q ∈ c.steps → tier p ≠ some "fast" →
        p ≠ 0x10 → s.lastAttempts p = some i → ∃ k, s.lastAttempts q = some k ∧ i ≤ k := by
  have steady := run_steady s sequence requested started turns
  refine ⟨⟨_, steady.split⟩, steady.deferral, steady.last, ?_⟩
  intro p q i first put slow notMaf known
  exact lastAttempts_le (steady.ranked (beginCycle_follows s requested) first put slow) notMaf
    known

theorem requestedPids_nodup (sequence : ℕ) (supported : Finset ℕ) (diagnosticReserved : Bool) :
    (requestedPids sequence supported diagnosticReserved).Nodup := by
  have round : ∀ cycle < 12, (fast ++ rotating cycle).Nodup := by decide
  refine List.Nodup.filter _ ?_
  split
  · split <;> decide
  · rw [← rotating_mod]
    exact round _ (Nat.mod_lt _ (by omega))

/-- Whatever the replies were, the row of a cycle has each requested PID once, as answered or as
missing; a cycle that is cancelled leaves none. -/
theorem row_accounts (s : LivePollScheduler) (sequence : ℕ) (supported : Finset ℕ)
    (diagnosticReserved : Bool) (started : ℤ) (turns : List Turn) :
    let requested := requestedPids sequence supported diagnosticReserved
    let c := (begun s sequence requested started).run turns
    c.outcome = none ∨ c.outcome = some .cancelled ∨
      (c.answered ++ c.missing).Perm requested ∧ (c.answered ++ c.missing).Nodup := by
  intro requested c
  have counted : Accounted requested c := run_accounted s sequence requested started turns
  by_cases going : c.outcome = none
  · exact .inl going
  by_cases cancelled : c.outcome = some .cancelled
  · exact .inr (.inl cancelled)
  have same : (c.answered ++ c.missing).Perm requested := List.perm_iff_count.mpr fun pid => by
    simpa [total, going] using counted cancelled pid
  exact .inr (.inr ⟨same, same.nodup_iff.mpr (requestedPids_nodup ..)⟩)

end LiveCycle

end DashcamStats.Logger
