import Mathlib.Logic.Function.Basic
import DashcamStats.Library.Run

namespace DashcamStats.Logger

-- The coroutine of one run body
structure WorkerJob where
  restarting : Bool
  begun : Bool := false
  cancelled : Bool := false
  finished : Bool := false
  deriving DecidableEq

def WorkerJob.isActive (j : WorkerJob) : Bool := !j.cancelled && !j.finished

-- Before `cancelAndJoin`, in it, in `afterWorkerStopped`, behind it and at the end
inductive ReplacementPhase where
  | started | joining | stopping | stopped | over
  deriving DecidableEq

structure Replacement where
  previous : ℕ
  phase : ReplacementPhase := .started
  cancelled : Bool := false
  deriving DecidableEq

def Replacement.cancel (r : Replacement) : Replacement := { r with cancelled := true }

def Replacement.isActive (r : Replacement) : Bool := r.phase ≠ .over && !r.cancelled

/-- The fields, the coroutines, and what the calls were: how many requests there are, which was the
last that reloads, which body was started last and whether a replacement has failed since. -/
structure WorkerCoordinator where
  worker : Option ℕ := none
  replacement : Option Replacement := none
  pendingRun : Option ℕ := none
  closed : Bool := false
  jobs : ℕ → Option WorkerJob := fun _ => none
  requests : ℕ := 0
  lastReload : Option ℕ := none
  lastStarted : Option ℕ := none
  failed : Bool := false

namespace WorkerCoordinator

inductive Event where
  | request (reloadConfiguration : Bool)
  | close
  -- A body is dispatched, and ends.
  | begins (run : ℕ)
  | ends (run : ℕ)
  -- The replacement cancels the worker, has joined it, and `afterWorkerStopped` returns.
  | cancels
  | joins
  | stops
  -- `afterWorkerStopped` throws, or the replacement itself is cancelled.
  | fails
  | installs

variable (s : WorkerCoordinator)

def setJob (run : ℕ) (job : WorkerJob) : WorkerCoordinator :=
  { s with jobs := Function.update s.jobs run (some job) }

def launchWorker (run : ℕ) (restarting : Bool) : WorkerCoordinator :=
  { s.setJob run { restarting := restarting } with
    worker := some run
    lastStarted := some run
    failed := false }

-- `worker?.takeIf { it.isActive }`
def activeWorker : Option ℕ :=
  s.worker.filter fun run => (s.jobs run).any WorkerJob.isActive

def cancel (run : ℕ) : WorkerCoordinator :=
  match s.jobs run with
  | some job => s.setJob run { job with cancelled := true }
  | none => s

def request (reloadConfiguration : Bool) : WorkerCoordinator :=
  let run := s.requests
  if s.closed then { s with requests := run + 1 }
  else
    let s := { s with
      requests := run + 1
      lastReload := if reloadConfiguration then some run else s.lastReload }
    if s.replacement.any Replacement.isActive then
      if reloadConfiguration then { s with pendingRun := some run } else s
    else
      match s.activeWorker with
      | none => s.launchWorker run false
      | some previous =>
        if reloadConfiguration then
          { s with pendingRun := some run, replacement := some { previous := previous } }
        else s

def close : WorkerCoordinator :=
  let s := { s with
    closed := true
    pendingRun := none
    replacement := s.replacement.map Replacement.cancel }
  match s.worker with
  | some run => s.cancel run
  | none => s

def begins (run : ℕ) : Option WorkerCoordinator :=
  (s.jobs run).bind fun job =>
    if job.begun || job.finished then none
    else if job.cancelled then some (s.setJob run { job with finished := true })
    else some (s.setJob run { job with begun := true })

def ends (run : ℕ) : Option WorkerCoordinator :=
  (s.jobs run).bind fun job =>
    if job.begun && !job.finished then some (s.setJob run { job with finished := true }) else none

def moves (r : Replacement) (phase : ReplacementPhase) : WorkerCoordinator :=
  { s with replacement := some { r with phase := phase } }

def cancels : Option WorkerCoordinator :=
  s.replacement.bind fun r =>
    if r.phase = .started ∧ r.cancelled = false then some ((s.cancel r.previous).moves r .joining)
    else none

def joins : Option WorkerCoordinator :=
  s.replacement.bind fun r =>
    if r.phase = .joining ∧ r.cancelled = false ∧ (s.jobs r.previous).all (·.finished) then
      some (s.moves r .stopping)
    else none

def stops : Option WorkerCoordinator :=
  s.replacement.bind fun r => if r.phase = .stopping then some (s.moves r .stopped) else none

def fails : Option WorkerCoordinator :=
  s.replacement.bind fun r =>
    if r.phase = .stopping ∨ (r.cancelled = true ∧ r.phase ≠ .stopped ∧ r.phase ≠ .over) then
      some { s.moves r .over with failed := true }
    else none

-- `checkNotNull(pendingRun)`
def installs : Option WorkerCoordinator :=
  s.replacement.bind fun r =>
    if r.phase = .stopped then
      if s.closed then some { s with replacement := none }
      else match s.pendingRun with
        | some next =>
          some { (s.launchWorker next true) with pendingRun := none, replacement := none }
        | none => some { s.moves r .over with failed := true }
    else none

def next : Event → Option WorkerCoordinator
  | .request reloadConfiguration => some (s.request reloadConfiguration)
  | .close => some s.close
  | .begins run => s.begins run
  | .ends run => s.ends run
  | .cancels => s.cancels
  | .joins => s.joins
  | .stops => s.stops
  | .fails => s.fails
  | .installs => s.installs

def Steps (s : WorkerCoordinator) (e : Event) (t : WorkerCoordinator) : Prop := s.next e = some t

def Executes (run : ℕ) : Prop :=
  ∃ job, s.jobs run = some job ∧ job.begun = true ∧ job.finished = false

structure Inv (s : WorkerCoordinator) : Prop where
  known : ∀ run job, s.jobs run = some job → run < s.requests
  reloaded : ∀ reload, s.lastReload = some reload → reload < s.requests
  others : ∀ run job, s.jobs run = some job → job.finished = false → s.worker = some run
  -- Who is cancelled is waited for.
  awaited : ∀ run job, s.jobs run = some job → s.closed = false → job.cancelled = true →
    job.finished = false → ∃ r, s.replacement = some r ∧ r.phase = .joining
  previous : ∀ r, s.replacement = some r → r.phase ≠ .over → s.worker = some r.previous
  joined : ∀ r, s.replacement = some r → r.phase = .stopping ∨ r.phase = .stopped →
    ∀ job, s.jobs r.previous = some job → job.finished = true
  open_ : ∀ r, s.replacement = some r → s.closed = false → r.cancelled = false
  shut : s.closed = true → ∀ run job, s.jobs run = some job →
    job.cancelled = true ∨ job.finished = true
  pending : ∀ r, s.replacement = some r → r.phase ≠ .over → s.closed = false →
    s.pendingRun = s.lastReload ∧ ∃ run, s.pendingRun = some run ∧ run < s.requests ∧
      s.jobs run = none
  fresh : s.closed = false → (∀ r, s.replacement = some r → r.phase = .over) → s.failed = false →
    ∀ reload, s.lastReload = some reload → ∃ run, s.lastStarted = some run ∧ reload ≤ run

variable {s}

theorem Inv.unknown (inv : Inv s) : s.jobs s.requests = none := by
  by_contra found
  obtain ⟨job, found⟩ := Option.ne_none_iff_exists'.mp found
  exact absurd (inv.known _ _ found) (lt_irrefl _)

-- A request that asks for nothing new
theorem Inv.counted (inv : Inv s) : Inv { s with requests := s.requests + 1 } :=
  { inv with
    known := fun run job found => Nat.lt_succ_of_lt (inv.known run job found)
    reloaded := fun reload last => Nat.lt_succ_of_lt (inv.reloaded reload last)
    pending := fun r found active opened => by
      obtain ⟨same, run, waits, asked, young⟩ := inv.pending r found active opened
      exact ⟨same, run, waits, Nat.lt_succ_of_lt asked, young⟩ }

theorem Inv.deferred (inv : Inv s) {r : Replacement} (found : s.replacement = some r)
    (active : r.phase ≠ .over) :
    Inv { s with
      requests := s.requests + 1
      lastReload := some s.requests
      pendingRun := some s.requests } :=
  { inv.counted with
    reloaded := by simp
    pending := fun _ _ _ _ => ⟨rfl, s.requests, rfl, Nat.lt_succ_self _, inv.unknown⟩
    fresh := fun _ past => absurd (past r found) active }

theorem Inv.replaced (inv : Inv s) {previous : ℕ} (worker : s.worker = some previous)
    (opened : s.closed = false) (kept : (s.jobs previous).any WorkerJob.isActive = true) :
    Inv { s with
      requests := s.requests + 1
      lastReload := some s.requests
      pendingRun := some s.requests
      replacement := some { previous := previous } } :=
  { inv.counted with
    reloaded := by simp
    awaited := fun run job here _ cancelled live => by
      have here : s.jobs run = some job := here
      have same := inv.others run job here live
      obtain rfl : previous = run := Option.some.inj (worker.symm.trans same)
      simp [here, WorkerJob.isActive, cancelled] at kept
    previous := by simp [worker]
    joined := by simp
    open_ := by simp
    pending := fun _ _ _ _ => ⟨rfl, s.requests, rfl, Nat.lt_succ_self _, inv.unknown⟩
    fresh := by simp }

-- A worker is launched when none is left, for the last request that reloads or a later one.
theorem Inv.launched {run : ℕ} (restarting : Bool)
    (known : ∀ other job, s.jobs other = some job → other < s.requests) (opened : s.closed = false)
    (asked : run < s.requests) (idle : ∀ other job, s.jobs other = some job → job.finished = true)
    (latest : ∀ reload, s.lastReload = some reload → reload < s.requests ∧ reload ≤ run)
    (past : ∀ r, s.replacement = some r → r.phase = .over ∧ r.cancelled = false) :
    Inv (s.launchWorker run restarting) where
  known other job here := by
    by_cases same : other = run
    · exact same ▸ asked
    · exact known other job (by simpa [launchWorker, setJob, same] using here)
  reloaded reload last := (latest reload last).1
  others other job here live := by
    by_cases same : other = run
    · simp [launchWorker, same]
    · have here : s.jobs other = some job := by simpa [launchWorker, setJob, same] using here
      simp [idle other job here] at live
  awaited other job here _ cancelled live := by
    by_cases same : other = run
    · obtain rfl : ({ restarting := restarting } : WorkerJob) = job := by
        simpa [launchWorker, setJob, same] using here
      exact nomatch cancelled
    · have here : s.jobs other = some job := by simpa [launchWorker, setJob, same] using here
      simp [idle other job here] at live
  previous r found active := absurd (past r found).1 active
  joined r found phase := by
    rcases phase with phase | phase <;> exact nomatch phase.symm.trans (past r found).1
  open_ r found _ := (past r found).2
  shut closed := nomatch opened.symm.trans closed
  pending r found active := absurd (past r found).1 active
  fresh _ _ _ reload last := ⟨run, rfl, (latest reload last).2⟩

theorem Inv.request (inv : Inv s) (reloadConfiguration : Bool) :
    Inv (s.request reloadConfiguration) := by
  cases closing : s.closed with
  | true =>
    simp only [WorkerCoordinator.request, closing, ↓reduceIte]
    simpa [closing] using inv.counted
  | false =>
    by_cases replacing : s.replacement.any Replacement.isActive = true
    · obtain ⟨r, found, active⟩ : ∃ r, s.replacement = some r ∧ r.phase ≠ .over := by
        cases found : s.replacement with
        | none => simp [found] at replacing
        | some r =>
          refine ⟨r, rfl, ?_⟩
          simp only [found, Option.any_some, Replacement.isActive, Bool.and_eq_true] at replacing
          simpa using replacing.1
      cases reloadConfiguration with
      | false =>
        simp only [WorkerCoordinator.request, closing, replacing, Bool.false_eq_true, ↓reduceIte]
        simpa [closing] using inv.counted
      | true =>
        simp only [WorkerCoordinator.request, closing, replacing, Bool.false_eq_true, ↓reduceIte]
        simpa [closing] using inv.deferred found active
    · have past : ∀ r, s.replacement = some r → r.phase = .over := by
        intro r found
        have open_ := inv.open_ r found closing
        simpa [found, Replacement.isActive, open_] using replacing
      cases working : s.activeWorker with
      | none =>
        have idle : ∀ run job, s.jobs run = some job → job.finished = true := by
          intro run job found
          by_contra live
          have live : job.finished = false := by simpa using live
          have worker := inv.others run job found live
          have kept : job.cancelled = false := by
            by_contra cancelled
            obtain ⟨r, found, joining⟩ :=
              inv.awaited run job found closing (by simpa using cancelled) live
            simp [past r found] at joining
          simp [activeWorker, worker, found, WorkerJob.isActive, live, kept] at working
        simp only [WorkerCoordinator.request, closing, replacing, Bool.false_eq_true, ↓reduceIte,
          activeWorker] at working ⊢
        simp only [working]
        refine launched false (fun other job here => Nat.lt_succ_of_lt (inv.known other job here))
          rfl (Nat.lt_succ_self _) idle (fun reload last => ?_)
          fun r found => ⟨past r found, inv.open_ r found closing⟩
        cases reloadConfiguration with
        | false =>
          have before := inv.reloaded reload last
          exact ⟨Nat.lt_succ_of_lt before, Nat.le_of_lt before⟩
        | true =>
          obtain rfl := Option.some.inj last
          exact ⟨Nat.lt_succ_self _, le_rfl⟩
      | some previous =>
        have worker : s.worker = some previous := (Option.filter_eq_some_iff.mp working).1
        have kept : (s.jobs previous).any WorkerJob.isActive = true :=
          (Option.filter_eq_some_iff.mp working).2
        simp only [WorkerCoordinator.request, closing, replacing, Bool.false_eq_true, ↓reduceIte,
          activeWorker] at working ⊢
        simp only [working]
        cases reloadConfiguration with
        | false => simpa [closing] using inv.counted
        | true => simpa [closing] using inv.replaced worker closing kept

theorem Inv.begins {t : WorkerCoordinator} {run : ℕ} (inv : Inv s)
    (stepped : s.begins run = some t) : Inv t := by
  obtain ⟨known, reloaded, others, awaited, previous, joined, open_, shut, pending, fresh⟩ := inv
  obtain ⟨job, found, stepped⟩ := Option.bind_eq_some_iff.mp stepped
  simp only [setJob] at stepped
  split_ifs at stepped <;> cases stepped <;> constructor <;> grind [Function.update_apply]

theorem Inv.ends {t : WorkerCoordinator} {run : ℕ} (inv : Inv s)
    (stepped : s.ends run = some t) : Inv t := by
  obtain ⟨known, reloaded, others, awaited, previous, joined, open_, shut, pending, fresh⟩ := inv
  obtain ⟨job, found, stepped⟩ := Option.bind_eq_some_iff.mp stepped
  simp only [setJob] at stepped
  split_ifs at stepped
  cases stepped
  constructor <;> grind [Function.update_apply]

theorem Inv.cancels {t : WorkerCoordinator} (inv : Inv s) (stepped : s.cancels = some t) :
    Inv t := by
  obtain ⟨known, reloaded, others, awaited, previous, joined, open_, shut, pending, fresh⟩ := inv
  obtain ⟨r, found, stepped⟩ := Option.bind_eq_some_iff.mp stepped
  cases job : s.jobs r.previous <;> simp only [setJob, cancel, moves, job] at stepped <;>
    split_ifs at stepped <;> cases stepped <;> constructor <;> grind [Function.update_apply]

theorem Inv.joins {t : WorkerCoordinator} (inv : Inv s) (stepped : s.joins = some t) :
    Inv t := by
  obtain ⟨known, reloaded, others, awaited, previous, joined, open_, shut, pending, fresh⟩ := inv
  obtain ⟨r, found, stepped⟩ := Option.bind_eq_some_iff.mp stepped
  simp only [moves] at stepped
  split_ifs at stepped
  cases stepped
  constructor <;> grind [Function.update_apply]

theorem Inv.stops {t : WorkerCoordinator} (inv : Inv s) (stepped : s.stops = some t) :
    Inv t := by
  obtain ⟨known, reloaded, others, awaited, previous, joined, open_, shut, pending, fresh⟩ := inv
  obtain ⟨r, found, stepped⟩ := Option.bind_eq_some_iff.mp stepped
  simp only [moves] at stepped
  split_ifs at stepped
  cases stepped
  constructor <;> grind [Function.update_apply]

theorem Inv.fails {t : WorkerCoordinator} (inv : Inv s) (stepped : s.fails = some t) :
    Inv t := by
  obtain ⟨known, reloaded, others, awaited, previous, joined, open_, shut, pending, fresh⟩ := inv
  obtain ⟨r, found, stepped⟩ := Option.bind_eq_some_iff.mp stepped
  simp only [moves] at stepped
  split_ifs at stepped
  cases stepped
  constructor <;> grind [Function.update_apply]

theorem Inv.installs {t : WorkerCoordinator} (inv : Inv s) (stepped : s.installs = some t) :
    Inv t := by
  obtain ⟨r, found, stepped⟩ := Option.bind_eq_some_iff.mp stepped
  split_ifs at stepped with stopped closed
  · cases stepped
    exact { inv with
      awaited := fun _ _ _ opened => nomatch opened.symm.trans closed
      previous := by simp
      joined := by simp
      open_ := by simp
      pending := by simp
      fresh := fun opened => nomatch opened.symm.trans closed }
  · have active : r.phase ≠ .over := by simp [stopped]
    have opened : s.closed = false := by simpa using closed
    obtain ⟨same, next, waits, asked, -⟩ := inv.pending r found active opened
    simp only [waits, Option.some.injEq] at stepped
    subst stepped
    refine launched (s := { s with pendingRun := none, replacement := none }) true inv.known opened
      asked (fun other job here => ?_) (fun reload last => ?_) (by simp)
    · by_contra live
      have worker := inv.others other job here (by simpa using live)
      rw [inv.previous r found active] at worker
      obtain rfl := Option.some.inj worker
      exact live (inv.joined r found (.inr stopped) job here)
    · obtain rfl := Option.some.inj (waits.symm.trans (same.trans last))
      exact ⟨asked, le_rfl⟩

theorem Inv.close (inv : Inv s) : Inv s.close := by
  obtain ⟨known, reloaded, others, awaited, previous, joined, open_, shut, pending, fresh⟩ := inv
  simp only [WorkerCoordinator.close, cancel, setJob]
  cases working : s.worker with
  | none => constructor <;> grind [Replacement.cancel, Option.map_eq_some_iff]
  | some run =>
    cases job : s.jobs run <;> simp only [job] <;> constructor <;>
      grind [Function.update_apply, Replacement.cancel, Option.map_eq_some_iff]

theorem Inv.step {t : WorkerCoordinator} {e : Event} (inv : Inv s) (stepped : Steps s e t) :
    Inv t := by
  cases e with
  | request reloadConfiguration => cases stepped; exact inv.request reloadConfiguration
  | close => cases stepped; exact inv.close
  | begins run => exact inv.begins stepped
  | ends run => exact inv.ends stepped
  | cancels => exact inv.cancels stepped
  | joins => exact inv.joins stepped
  | stops => exact inv.stops stepped
  | fails => exact inv.fails stepped
  | installs => exact inv.installs stepped

theorem Inv.initial : Inv {} := by constructor <;> simp

theorem Inv.executes_unique (inv : Inv s) {first second : ℕ} (one : s.Executes first)
    (other : s.Executes second) : first = second := by
  obtain ⟨job, found, _, live⟩ := one
  obtain ⟨job', found', _, live'⟩ := other
  have worker := inv.others first job found live
  rw [inv.others second job' found' live'] at worker
  exact (Option.some.inj worker).symm

theorem Inv.step_closed {t : WorkerCoordinator} {e : Event} (inv : Inv s) (closed : s.closed = true)
    (stepped : Steps s e t) :
    t.closed = true ∧ t.lastStarted = s.lastStarted ∧ ∀ run, t.Executes run → s.Executes run := by
  have shut := inv.shut closed
  cases e with
  | request reloadConfiguration =>
    cases stepped
    simp [WorkerCoordinator.request, closed, Executes]
  | close =>
    cases stepped
    unfold WorkerCoordinator.close cancel setJob
    cases working : s.worker with
    | none => simp [Executes]
    | some run =>
      cases job : s.jobs run <;> simp only [job] <;>
        grind [Function.update_apply, Executes]
  | begins run =>
    obtain ⟨job, found, stepped⟩ := Option.bind_eq_some_iff.mp stepped
    have shut := shut run job found
    simp only [setJob] at stepped
    split_ifs at stepped <;> cases stepped <;> grind [Function.update_apply, Executes]
  | ends run =>
    obtain ⟨job, found, stepped⟩ := Option.bind_eq_some_iff.mp stepped
    simp only [setJob] at stepped
    split_ifs at stepped
    cases stepped
    grind [Function.update_apply, Executes]
  | cancels =>
    obtain ⟨r, found, stepped⟩ := Option.bind_eq_some_iff.mp stepped
    cases job : s.jobs r.previous <;> simp only [setJob, cancel, moves, job] at stepped <;>
      split_ifs at stepped <;> cases stepped <;> grind [Function.update_apply, Executes]
  | joins =>
    obtain ⟨r, found, stepped⟩ := Option.bind_eq_some_iff.mp stepped
    simp only [moves] at stepped
    split_ifs at stepped
    cases stepped
    exact ⟨closed, rfl, fun _ => id⟩
  | stops =>
    obtain ⟨r, found, stepped⟩ := Option.bind_eq_some_iff.mp stepped
    simp only [moves] at stepped
    split_ifs at stepped
    cases stepped
    exact ⟨closed, rfl, fun _ => id⟩
  | fails =>
    obtain ⟨r, found, stepped⟩ := Option.bind_eq_some_iff.mp stepped
    simp only [moves] at stepped
    split_ifs at stepped
    cases stepped
    exact ⟨closed, rfl, fun _ => id⟩
  | installs =>
    obtain ⟨r, found, stepped⟩ := Option.bind_eq_some_iff.mp stepped
    simp only [closed, ↓reduceIte] at stepped
    split_ifs at stepped
    cases stepped
    exact ⟨rfl, rfl, fun _ => id⟩

def Replacing (s : WorkerCoordinator) : Prop := s.replacement.any Replacement.isActive = true

instance : Decidable s.Replacing := inferInstanceAs (Decidable (_ = true))

/-- One body executes at a time, the body started last is as new as the last request that
reloads unless a replacement has failed since, and behind `close` none is started. -/
theorem one_worker {events : List Event} (run : Run Steps anyStep {} events s) :
    (∀ first second, s.Executes first → s.Executes second → first = second) ∧
    (s.closed = false → ¬ s.Replacing → s.failed = false → ∀ reload,
      s.lastReload = some reload → ∃ started, s.lastStarted = some started ∧ reload ≤ started) ∧
    (s.closed = true → ∀ more t, Run Steps anyStep s more t →
      t.lastStarted = s.lastStarted ∧ ∀ body, t.Executes body → s.Executes body) := by
  have inv : Inv s := run.invariant Inv (fun _ _ _ held _ stepped => held.step stepped) .initial
  refine ⟨fun first second => inv.executes_unique, fun opened idle kept => ?_, fun closed => ?_⟩
  · refine inv.fresh opened (fun r found => ?_) kept
    have whole := inv.open_ r found opened
    simpa [Replacing, found, Replacement.isActive, whole] using idle
  · intro more t onward
    have held : Inv t ∧ t.closed = true ∧ t.lastStarted = s.lastStarted ∧
        ∀ body, t.Executes body → s.Executes body := by
      refine onward.invariant (fun t => Inv t ∧ t.closed = true ∧
        t.lastStarted = s.lastStarted ∧ ∀ body, t.Executes body → s.Executes body) ?_
        ⟨inv, closed, rfl, fun _ => id⟩
      rintro t e u ⟨held, shut, same, before⟩ - stepped
      obtain ⟨shut', same', before'⟩ := held.step_closed shut stepped
      exact ⟨held.step stepped, shut', same'.trans same, fun body now =>
        before body (before' body now)⟩
    exact held.2.2

def replaced : List Event :=
  [.request false, .begins 0, .request true, .cancels, .request true, .ends 0, .joins, .stops,
    .installs, .begins 2]

def reached (events : List Event) : WorkerCoordinator := (trace next anyStep {} events).getD {}

theorem one_worker_replaced :
    (reached replaced).lastReload = some 2 ∧
    ∃ started, (reached replaced).lastStarted = some started ∧ 2 ≤ started := by
  have run : Run Steps anyStep {} replaced (reached replaced) := run_of_trace next anyStep (by rfl)
  exact ⟨by rfl, (one_worker run).2.1 (by rfl) (by decide) (by rfl) 2 (by rfl)⟩

-- `afterWorkerStopped` throws, and no body is started for the request that reloads.
def unreplaced : List Event :=
  [.request false, .begins 0, .request true, .cancels, .ends 0, .joins, .fails]

theorem unreplaced_not_fresh :
    Run Steps anyStep {} unreplaced (reached unreplaced) ∧
    (reached unreplaced).closed = false ∧ ¬ (reached unreplaced).Replacing ∧
    ¬ ∀ reload, (reached unreplaced).lastReload = some reload →
      ∃ started, (reached unreplaced).lastStarted = some started ∧ reload ≤ started := by
  refine ⟨run_of_trace next anyStep (by rfl), by rfl, by decide, fun fresh => ?_⟩
  obtain ⟨started, found, newer⟩ := fresh 1 (by rfl)
  obtain rfl : 0 = started := Option.some.inj found
  exact absurd newer (by decide)

end WorkerCoordinator

end DashcamStats.Logger
