import DashcamStats.Queue.Changes

namespace DashcamStats.Queue

variable {settings : Settings} {now : Time} {db : Db}

structure Job.WithinBudget (j : Job) : Prop where
  some : 0 < j.maxAttempts
  attempts : j.attempts ≤ j.maxAttempts
  waiting : j.state = .queued → j.attempts < j.maxAttempts

def sparesExhausted (settings : Settings) (now : Time) (db : Db) : Op → Prop
  | .reclaimStale => ∀ j ∈ db.jobs, stale settings now j → j.attempts < j.maxAttempts
  | _ => True

def Job.refunds (j : Job) : Nat := j.result.orEmpty.contentionRetries.getD 0

theorem Job.granted_eq (j : Job) : j.granted = j.refunds + 1 := rfl

theorem failOutcome_failed (now : Time) {j : Job} {permanent transient : Bool}
    (outcome : failOutcome j permanent transient = .failed) (message : String) :
    let k := failRow now message j (failOutcome j permanent transient) j
    k.state = .failed ∧ k.attempts = j.attempts ∧ k.maxAttempts = j.maxAttempts ∧
      k.refunds = j.refunds := by
  simp [outcome, failRow, Job.refunds]

theorem failOutcome_refunded (now : Time) {j : Job} {permanent transient : Bool}
    {granted : Nat} (outcome : failOutcome j permanent transient = .refunded granted) (message : String) :
    let k := failRow now message j (failOutcome j permanent transient) j
    k.attempts = j.attempts - 1 ∧ k.maxAttempts = j.maxAttempts ∧
      k.refunds = j.refunds + 1 ∧ j.refunds + 1 ≤ maxContentionRetries := by
  have free : j.granted = granted ∧ j.granted ≤ maxContentionRetries := by
    unfold failOutcome at outcome
    split at outcome
    · cases outcome
    · split at outcome
      · rename_i allowed
        exact ⟨FailOutcome.refunded.inj outcome, allowed.2⟩
      · split at outcome <;> cases outcome
  obtain ⟨rfl, allowed⟩ := free
  rw [Job.granted_eq] at allowed
  simpa [outcome, failRow, Job.refunds, ResultColumn.orEmpty, Job.granted_eq] using allowed

theorem failOutcome_retried (now : Time) {j : Job} {permanent transient : Bool} {delay : Int}
    (outcome : failOutcome j permanent transient = .retried delay) (message : String) :
    let k := failRow now message j (failOutcome j permanent transient) j
    k.attempts = j.attempts ∧ k.maxAttempts = j.maxAttempts ∧
      k.refunds = j.refunds ∧ j.attempts < j.maxAttempts := by
  have left : j.attempts < j.maxAttempts := by
    unfold failOutcome at outcome
    split at outcome
    · cases outcome
    · split at outcome
      · cases outcome
      · split at outcome
        · assumption
        · cases outcome
  simpa [outcome, failRow, Job.refunds, ResultColumn.orEmpty] using left

theorem RowChange.withinBudget {op : Op} {j k : Job} (change : RowChange settings now db op j k)
    (stored : j ∈ db.jobs) (spares : sparesExhausted settings now db op)
    (budget : j.WithinBudget) : k.WithinBudget := by
  obtain ⟨some, attempts, waiting⟩ := budget
  cases change with
  | quiet state same sameMax =>
    exact ⟨sameMax ▸ some, sameMax ▸ same ▸ attempts, by
      rw [state, same, sameMax]
      exact waiting⟩
  | stopped state same sameMax =>
    exact ⟨sameMax ▸ some, sameMax ▸ same ▸ attempts, by simp [state]⟩
  | claimed next => exact ⟨some, waiting next.1.1, by simp [claimRow]⟩
  | completed => exact ⟨some, attempts, by simp [completeRow]⟩
  | @failed message permanent transient =>
    cases outcome : failOutcome j permanent transient with
    | failed =>
      have kept := failOutcome_failed now outcome message
      simp only [outcome] at kept
      exact ⟨by omega, by omega, by simp [kept.1]⟩
    | refunded granted =>
      have kept := failOutcome_refunded now outcome message
      simp only [outcome] at kept
      exact ⟨by omega, by omega, fun _ => by omega⟩
    | retried delay =>
      have kept := failOutcome_retried now outcome message
      simp only [outcome] at kept
      exact ⟨by omega, by omega, fun _ => by omega⟩
  | retried => exact ⟨some, Nat.zero_le _, fun _ => some⟩
  | reclaimed chosen => exact ⟨some, attempts, fun _ => spares j stored chosen⟩
  | interrupted =>
    have back : j.attempts - 1 < j.maxAttempts := by omega
    exact ⟨some, back.le, fun _ => back⟩
  | legacy => exact ⟨some, Nat.zero_le _, fun _ => some⟩
  | probe => exact ⟨some, Nat.zero_le _, fun _ => some⟩

def WithinBudget (db : Db) : Prop := ∀ j ∈ db.jobs, j.WithinBudget

theorem WithinBudget.apply (held : WithinBudget db) (op : Op)
    (spares : sparesExhausted settings now db op) : WithinBudget (op.apply settings now db) := by
  intro k member
  rcases changes_apply settings now db op k member with ⟨j, stored, _, change⟩ | ⟨_, fresh⟩
  · exact change.withinBudget stored spares (held j stored)
  · obtain ⟨_, attempts, maxAttempts, _⟩ := fresh
    exact ⟨by omega, by omega, fun _ => by omega⟩

def claims (now : Time) (db : Db) (id : JobId) : Op → Prop
  | .claimNext _ active job => job = id ∧ ∃ j ∈ db.jobs.rows, j.id = id ∧ isNext now active db j
  | _ => False

instance (now : Time) (db : Db) (id : JobId) (op : Op) : Decidable (claims now db id op) := by
  cases op <;> unfold claims <;> infer_instance

def resets (db : Db) : Op → Job → Prop
  | .retryFailed, j => retryable db j
  | .reclaimInterrupted, j => j.state = .running
  | .reconcileLegacyContentionFailures, j => legacyContention j
  | .reconcileMisclassifiedProbeCrashes, j =>
    ∃ rec ∈ db.recordings, misclassified rec ∧ probeFailure rec.id j
  | _, _ => False

def failsCompleted : Op → Job → Prop
  | .fail job _ _ _, j => j.id = job ∧ j.state = .completed
  | _, _ => False

def CountedStep (settings : Settings) (id : JobId) (s : Db × Nat) (call : Call) (t : Db × Nat) :
    Prop :=
  Step settings s.1 call t.1 ∧ t.2 = if claims call.now s.1 id call.op then s.2 + 1 else s.2

/-- What `n` claims have cost the row: an attempt or a free retry each. A row that is over may
have had its counters rewritten. -/
def Job.Spent (n : Nat) (j : Job) : Prop :=
  ((j.state = .completed ∨ j.state = .cancelled) ∧ n ≤ j.maxAttempts + maxContentionRetries) ∨
    (n ≤ j.attempts + j.refunds ∧ j.refunds ≤ maxContentionRetries)

theorem Job.Spent.bound {n : Nat} {j : Job} (spent : j.Spent n) (budget : j.WithinBudget) :
    n ≤ j.maxAttempts + maxContentionRetries := by
  have attempts := budget.attempts
  rcases spent with closed | running <;> omega

theorem Job.Spent.open {n : Nat} {j : Job} (spent : j.Spent n) (completed : j.state ≠ .completed)
    (cancelled : j.state ≠ .cancelled) :
    n ≤ j.attempts + j.refunds ∧ j.refunds ≤ maxContentionRetries := by
  rcases spent with closed | running
  · exact absurd closed.1 (by simp [completed, cancelled])
  · exact running

theorem RowChange.maxAttempts {op : Op} {j k : Job} (change : RowChange settings now db op j k) :
    k.maxAttempts = j.maxAttempts := by
  cases change with
  | quiet _ _ same => exact same
  | stopped _ _ same => exact same
  | @failed message permanent transient =>
    cases outcome : failOutcome j permanent transient <;> rfl
  | _ => rfl

theorem RowChange.spent {op : Op} {j k : Job} (change : RowChange settings now db op j k)
    (budget : j.WithinBudget) (counters : ¬ resets db op j) (once : ¬ failsCompleted op j)
    {n : Nat} (spent : j.Spent n) : k.Spent n := by
  cases change with
  | quiet state attempts maxAttempts result =>
    unfold Job.Spent Job.refunds at *
    rwa [state, attempts, maxAttempts, result]
  | stopped state attempts maxAttempts result =>
    exact .inl ⟨.inr state, maxAttempts ▸ spent.bound budget⟩
  | claimed next =>
    have cost := spent.open (by simp [next.1.1]) (by simp [next.1.1])
    exact .inr ⟨by simp only [claimRow, Job.refunds] at cost ⊢; omega, cost.2⟩
  | completed => exact .inl ⟨.inl rfl, spent.bound budget⟩
  | @failed message permanent transient _ kept =>
    have cost := spent.open (fun completed => once ⟨rfl, completed⟩) kept
    cases outcome : failOutcome j permanent transient with
    | failed =>
      have same := failOutcome_failed now outcome message
      simp only [outcome] at same
      exact .inr ⟨by omega, by omega⟩
    | refunded granted =>
      have traded := failOutcome_refunded now outcome message
      simp only [outcome] at traded
      exact .inr ⟨by omega, by omega⟩
    | retried delay =>
      have same := failOutcome_retried now outcome message
      simp only [outcome] at same
      exact .inr ⟨by omega, by omega⟩
  | retried chosen => exact absurd chosen counters
  | reclaimed chosen => exact .inr (spent.open (by simp [chosen.1]) (by simp [chosen.1]))
  | interrupted chosen => exact absurd chosen counters
  | legacy chosen => exact absurd chosen counters
  | probe member hidden chosen => exact absurd ⟨_, member, hidden, chosen⟩ counters

theorem claims_apply (settings : Settings) {op : Op} {id : JobId} (claimed : claims now db id op) :
    ∃ j ∈ db.jobs, j.id = id ∧ j.state = .queued ∧
      ∀ k ∈ (op.apply settings now db).jobs, k.id = id → ∃ w, k = claimRow now w j := by
  cases op <;> simp only [claims] at claimed
  case claimNext workerId active job =>
    obtain ⟨rfl, j, stored, rfl, next⟩ := claimed
    refine ⟨j, stored, rfl, next.1.1, ?_⟩
    intro k member same
    have found : db.jobs.find? j.id = some j := Table.find?_self stored
    simp only [Op.apply, found, next, if_true, claim, Db.updateRecordings_jobs] at member
    obtain ⟨i, memberI, rfl⟩ := Db.mem_updateJobs.mp member
    by_cases hit : i.id = j.id
    · obtain rfl : i = j := Table.eq_of_key memberI stored hit
      exact ⟨workerId, by simp⟩
    · simp [hit] at same

-- The row of job `id`, and what the claims counted so far have cost it.
def Counted (id : JobId) (maxAttempts : Nat) (s : Db × Nat) : Prop :=
  WithinBudget s.1 ∧ ∃ j ∈ s.1.jobs, j.id = id ∧ j.maxAttempts = maxAttempts ∧ j.Spent s.2

/-- A step that resets nothing of the job, loses no worker on a last attempt and reopens no
completed job. -/
def Spends (settings : Settings) (id : JobId) (db : Db) (call : Call) : Prop :=
  sparesExhausted settings call.now db call.op ∧
    ∀ j ∈ db.jobs, j.id = id → ¬ resets db call.op j ∧ ¬ failsCompleted call.op j

theorem Counted.step {id : JobId} {maxAttempts : Nat} {s t : Db × Nat} {call : Call}
    (counted : Counted id maxAttempts s) (spends : Spends settings id s.1 call)
    (step : CountedStep settings id s call t) : Counted id maxAttempts t := by
  obtain ⟨budget, j, stored, rfl, rfl, spent⟩ := counted
  obtain ⟨db, n⟩ := s
  obtain ⟨next, count⟩ := t
  obtain ⟨rfl, rfl⟩ : next = call.op.apply settings call.now db ∧ count = _ := step
  have within := budget.apply call.op spends.1
  obtain ⟨k, memberK, sameId, _⟩ := extends_apply settings call.now db call.op j stored
  obtain ⟨change, sameMax, costs⟩ : RowChange settings call.now db call.op j k ∧
      k.maxAttempts = j.maxAttempts ∧ k.Spent n := by
    rcases changes_apply settings call.now db call.op k memberK with
      ⟨i, memberI, same, change⟩ | ⟨absent, _⟩
    · obtain rfl : i = j := Table.eq_of_key memberI stored (same.trans sameId)
      obtain ⟨counters, once⟩ := spends.2 i stored rfl
      exact ⟨change, change.maxAttempts, change.spent (budget i stored) counters once spent⟩
    · exact absurd sameId.symm (absent j stored)
  refine ⟨within, k, memberK, sameId, sameMax, ?_⟩
  by_cases claimed : claims call.now db j.id call.op
  · obtain ⟨i, memberI, same, queued, only⟩ := claims_apply settings claimed
    obtain rfl : i = j := Table.eq_of_key memberI stored same
    obtain ⟨w, rfl⟩ := only k memberK sameId
    have cost := spent.open (by simp [queued]) (by simp [queued])
    exact .inr ⟨by simp only [claimed, if_true, claimRow, Job.refunds] at cost ⊢; omega, cost.2⟩
  · simpa [claimed] using costs

theorem claims_le_of_spares (settings : Settings) (start db : Db) (calls : List Call)
    (noJobs : start.jobs = Table.empty)
    (run : Run (Step settings) (fun db call => sparesExhausted settings call.now db call.op)
      start calls db) :
    (∀ j ∈ db.jobs, j.attempts ≤ j.maxAttempts) ∧
      ∀ j ∈ db.jobs, j.attempts = 0 → j.result.orEmpty.contentionRetries = none →
        ∀ (later : List Call) (last : Db) (n : Nat),
          Run (CountedStep settings j.id) (fun s call => Spends settings j.id s.1 call)
            (db, 0) later (last, n) → n ≤ j.maxAttempts + maxContentionRetries := by
  have held : WithinBudget db := by
    refine run.invariant WithinBudget ?_ ?_
    · rintro db call next budget spares rfl
      exact budget.apply call.op spares
    · intro j member
      rw [noJobs] at member
      exact absurd member (Table.not_mem_empty j)
  refine ⟨fun j member => (held j member).attempts, ?_⟩
  intro j member fresh free later last n stretch
  have begin_ : Counted j.id j.maxAttempts (db, 0) :=
    ⟨held, j, member, rfl, rfl, .inr ⟨Nat.zero_le _, by simp [Job.refunds, free]⟩⟩
  obtain ⟨budget, k, memberK, _, sameMax, spent⟩ := stretch.invariant (Counted j.id j.maxAttempts)
    (fun s call t counted spends step => counted.step spends step) begin_
  exact sameMax ▸ spent.bound (budget k memberK)

def lostOnce : List Call :=
  [⟨0, .enqueue (some 1) .process none 100 false⟩,
    ⟨1, .claimNext "worker" [] 1⟩,
    ⟨400, .reclaimStale⟩,
    ⟨401, .claimNext "worker" [] 1⟩]

theorem claims_le_lostOnce :
    (runCalls ⟨3, 300⟩ oneClip lostOnce).jobs.rows.map Job.attempts = [2] ∧
      ∀ j ∈ (runCalls ⟨3, 300⟩ oneClip lostOnce).jobs, j.attempts ≤ j.maxAttempts := by
  let reached (n : Nat) := runCalls ⟨3, 300⟩ oneClip (lostOnce.take n)
  let Reach (n : Nat) := Run (Step ⟨3, 300⟩)
    (fun db call => sparesExhausted ⟨3, 300⟩ call.now db call.op) oneClip (lostOnce.take n)
    (reached n)
  have queued : Reach 1 := .tail .refl trivial rfl
  have claimed : Reach 2 := .tail queued trivial rfl
  have reclaimed : Reach 3 := by
    refine .tail claimed ?_ rfl
    have left : ∀ j ∈ (reached 2).jobs.rows, j.attempts < j.maxAttempts := by decide
    exact fun j member _ => left j member
  have again : Reach 4 := .tail reclaimed trivial rfl
  exact ⟨by decide, (claims_le_of_spares ⟨3, 300⟩ oneClip _ lostOnce rfl again).1⟩

/-- With no retries configured, a worker lost on the only attempt. -/
theorem not_attempts_le :
    ¬ ∀ (settings : Settings) (start db : Db) (calls : List Call), start.jobs = Table.empty →
      Run (Step settings) anyStep start calls db → ∀ j ∈ db.jobs, j.attempts ≤ j.maxAttempts := by
  intro bounded
  have within := bounded ⟨0, 300⟩ oneClip _ lostOnce rfl (run_of_calls _ _ _)
  have exceeded : ¬ ∀ j ∈ (runCalls ⟨0, 300⟩ oneClip lostOnce).jobs.rows,
      j.attempts ≤ j.maxAttempts := by decide
  exact exceeded within

end DashcamStats.Queue
