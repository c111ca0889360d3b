import DashcamStats.Sleep.Window

namespace DashcamStats.Sleep

def SleepWindowEvent.ingestion (event : SleepWindowEvent) : Bool :=
  event.released || decide (event = .ingestionStarted)

def Work.held : Work → List SleepWindowEvent
  | .refreshing event _ => [event]
  | .taking event => [event]
  | _ => []

-- The part of `refreshAccState` that is going on in the worker.
def Work.refresh : Work → Option Refresh
  | .refreshing _ left => some left
  | .before _ _ left => some left
  | .after _ _ _ left => some left
  | _ => none

def Work.job : Work → Option Job
  | .before job _ _ => some job
  | .reading job _ => some job
  | .writing job _ => some job
  | .rereading job _ => some job
  | .after job _ _ _ => some job
  | .pausing job _ => some job
  | _ => none

def Opens (command : SleepWindowCommand) : Prop := ∃ config, command = active config

def Refresh.Silent (left : Refresh) : Prop :=
  ∀ event, left = .telling event → event.ingestion = false

namespace World

def signals (s : World) : List SleepWindowEvent :=
  (s.worker.held ++ s.changes ++ s.caller.toList).filter SleepWindowEvent.ingestion

def Opened (s : World) : Prop :=
  match s.worker with
  | .loading event state => ∀ config, sleepWindowCommand event state config = active config
  | .receiving | .refreshing _ _ | .taking _ => ∃ done ∈ s.evidence, Opens done.command
  | .pausing job _ => Opens job.command
  | .before job _ _ | .reading job _ | .writing job _ | .rereading job _ | .after job _ _ _ =>
    Opens job.command

def Answered (s : World) : Prop :=
  s.state.ingestionRequestActive = true →
    match s.signals.getLast? with
    | some event => event = .ingestionStarted
    | none => s.Opened

structure Inv (s : World) : Prop where
  callback : ∀ event ∈ s.callback, event.ingestion = false
  poller : ∀ left ∈ s.poller, left.Silent
  refresh : ∀ left ∈ s.worker.refresh, left.Silent
  job : ∀ job ∈ s.worker.job, ∃ config,
    job.command = sleepWindowCommand job.event job.state config
  pausing : ∀ job attempt, s.worker = .pausing job attempt →
    ∃ done ∈ s.evidence, done.command = job.command
  answered : s.Answered

theorem inv_start : start.Inv where
  callback := by simp [start]
  poller := by simp [start, Refresh.Silent]
  refresh := by simp [start, Work.refresh]
  job := by simp [start, Work.job]
  pausing := by simp [start]
  answered requested := by simp [start] at requested

theorem Answered.of_same {s t : World} (answered : s.Answered)
    (requested : t.state.ingestionRequestActive = s.state.ingestionRequestActive)
    (signals : t.signals = s.signals) (opened : s.Opened → t.Opened) : t.Answered := by
  intro on
  have before := answered (by rwa [requested] at on)
  rw [signals]
  split at before
  · exact before
  · exact opened before

theorem filter_send {held changes : List SleepWindowEvent} {caller : Option SleepWindowEvent}
    {event : SleepWindowEvent} (other : event.ingestion = false) :
    (held ++ (changes ++ [event]) ++ caller.toList).filter SleepWindowEvent.ingestion =
      (held ++ changes ++ caller.toList).filter SleepWindowEvent.ingestion := by
  simp [List.filter_append, other]

theorem note_active (state : ControllerState) (observed : Option Bool) :
    (note state observed).1.ingestionRequestActive = state.ingestionRequestActive := by
  cases observed <;> rfl

theorem note_silent (state : ControllerState) (observed : Option Bool) (event : SleepWindowEvent)
    (told : (note state observed).2 = some event) : event.ingestion = false := by
  cases observed with
  | none => cases told
  | some on =>
    simp only [note] at told
    split at told
    · cases told
      cases on <;> rfl
    · cases told

theorem capabilities_active (state : ControllerState) (wifi : Bool) :
    (capabilities state wifi).1.ingestionRequestActive = state.ingestionRequestActive := by
  simp only [capabilities]
  split
  · rfl
  · split <;> rfl

theorem capabilities_silent (state : ControllerState) (wifi : Bool) :
    ∀ event ∈ (capabilities state wifi).2, event.ingestion = false := by
  simp only [capabilities]
  split
  · simp [SleepWindowEvent.ingestion, SleepWindowEvent.released]
  · split <;> simp [SleepWindowEvent.ingestion, SleepWindowEvent.released]

theorem answered_of_started {s : World} (told : s.caller = some .ingestionStarted) :
    s.Answered := by
  intro _
  have last : s.signals.getLast? = some .ingestionStarted := by
    simp only [signals, told, Option.toList_some, List.filter_append]
    exact List.getLast?_concat
  simp only [last]

theorem answered_request {s : World} {active : Bool} (answered : s.Answered)
    (free : s.caller = none) :
    Answered { s with
      state := (request s.state active).1
      caller := (request s.state active).2 } := by
  by_cases same : s.state.ingestionStateKnown = true ∧ s.state.ingestionRequestActive = active
  · refine answered.of_same ?_ ?_ id
    · simp [request, same.1, same.2]
    · simp [signals, request, same.1, same.2, free]
  · cases active with
    | false =>
      intro on
      by_cases known : s.state.ingestionStateKnown = true
      · have was : s.state.ingestionRequestActive = true := by simpa [known] using same
        simp [request, known, was] at on
      · simp [request, known] at on
    | true =>
      apply answered_of_started
      by_cases known : s.state.ingestionStateKnown = true
      · have was : s.state.ingestionRequestActive = false := by simpa [known] using same
        simp [request, known, was]
      · simp [request, known]

structure Refreshed (s t : World) : Prop where
  requested : t.state.ingestionRequestActive = s.state.ingestionRequestActive
  changes : ∀ held (caller : Option SleepWindowEvent),
    (held ++ t.changes ++ caller.toList).filter SleepWindowEvent.ingestion =
      (held ++ s.changes ++ caller.toList).filter SleepWindowEvent.ingestion
  caller : t.caller = s.caller
  callback : t.callback = s.callback
  poller : t.poller = s.poller
  worker : t.worker = s.worker
  evidence : t.evidence = s.evidence

theorem refreshed {s : World} {left : Refresh} (acc : Option Bool) (silent : left.Silent) :
    Refreshed s (s.refresh acc left).1 ∧ ∀ more ∈ (s.refresh acc left).2, more.Silent := by
  cases left with
  | reading =>
    exact ⟨⟨rfl, fun _ _ => rfl, rfl, rfl, rfl, rfl, rfl⟩, by simp [refresh, Refresh.Silent]⟩
  | noting observed =>
    refine ⟨⟨note_active _ _, fun _ _ => rfl, rfl, rfl, rfl, rfl, rfl⟩, ?_⟩
    intro more kept event told
    obtain ⟨noted, there, rfl⟩ := Option.map_eq_some_iff.mp kept
    cases told
    exact note_silent _ _ _ there
  | telling event =>
    exact ⟨⟨rfl, fun _ _ => filter_send (silent event rfl), rfl, rfl, rfl, rfl, rfl⟩,
      by simp [refresh]⟩

theorem Inv.of_refreshed {s t : World} (inv : s.Inv) (same : Refreshed s t) : t.Inv where
  callback := by rw [same.callback]; exact inv.callback
  poller := by rw [same.poller]; exact inv.poller
  refresh := by rw [same.worker]; exact inv.refresh
  job := by rw [same.worker]; exact inv.job
  pausing := by rw [same.worker, same.evidence]; exact inv.pausing
  answered := by
    refine inv.answered.of_same same.requested ?_ ?_
    · rw [signals, signals, same.worker, same.caller, same.changes]
    · simp only [Opened, same.worker, same.evidence]
      exact id

theorem Inv.with_poller {s : World} {left : Option Refresh} (inv : s.Inv)
    (silent : ∀ more ∈ left, more.Silent) : Inv { s with poller := left } where
  callback := inv.callback
  poller := silent
  refresh := inv.refresh
  job := inv.job
  pausing := inv.pausing
  answered := inv.answered.of_same rfl rfl id

theorem Inv.with_worker {s : World} {worker : Work} (inv : s.Inv)
    (refresh : ∀ left ∈ worker.refresh, left.Silent)
    (job : ∀ job ∈ worker.job, ∃ config,
      job.command = sleepWindowCommand job.event job.state config)
    (pausing : ∀ job attempt, worker = .pausing job attempt →
      ∃ done ∈ s.evidence, done.command = job.command)
    (held : worker.held = s.worker.held)
    (opened : s.Opened → Opened { s with worker }) : Inv { s with worker } where
  callback := inv.callback
  poller := inv.poller
  refresh := refresh
  job := job
  pausing := pausing
  answered := inv.answered.of_same rfl (by simp only [signals, held]) opened

theorem held_begin (event : SleepWindowEvent) : (begin event).held = [event] := by
  simp only [begin]
  split <;> rfl

theorem inv_receive {s : World} {event : SleepWindowEvent} {rest : List SleepWindowEvent}
    (inv : s.Inv)
    (waiting : s.worker = .receiving ∨ ∃ job attempt, s.worker = .pausing job attempt)
    (queued : s.changes = event :: rest) :
    Inv { s with changes := rest, worker := begin event } := by
  have idle : s.worker.held = [] := by
    rcases waiting with waiting | ⟨job, attempt, waiting⟩ <;> rw [waiting] <;> rfl
  have last : s.Opened → ∃ done ∈ s.evidence, Opens done.command := by
    intro opened
    rcases waiting with waiting | ⟨job, attempt, waiting⟩
    · simpa only [Opened, waiting] using opened
    · obtain ⟨done, there, same⟩ := inv.pausing job attempt waiting
      refine ⟨done, there, ?_⟩
      rw [same]
      simpa only [Opened, waiting] using opened
  refine ⟨inv.callback, inv.poller, ?_, ?_, ?_, inv.answered.of_same rfl ?_ fun opened => ?_⟩
  · simp only [begin]
    split <;> simp [Work.refresh, Refresh.Silent]
  · simp only [begin]
    split <;> simp [Work.job]
  · simp only [begin]
    split <;> simp
  · simp only [signals, held_begin, idle, queued, List.nil_append, List.singleton_append]
  · have started : begin event = .refreshing event .reading ∨ begin event = .taking event := by
      simp only [begin]
      split
      · exact .inl rfl
      · exact .inr rfl
    rcases started with started | started <;>
      simpa only [Opened, started] using last opened

theorem inv_taking {s : World} {event : SleepWindowEvent} (inv : s.Inv)
    (worker : s.worker = .taking event) :
    Inv { s with worker := .loading event s.state } := by
  refine ⟨inv.callback, inv.poller, by simp [Work.refresh], by simp [Work.job], by simp, ?_⟩
  intro on
  have before := inv.answered on
  have split_ : s.signals = [event].filter SleepWindowEvent.ingestion ++
      (s.changes ++ s.caller.toList).filter SleepWindowEvent.ingestion := by
    simp only [signals, worker, Work.held, ← List.filter_append, List.append_assoc]
  have later : World.signals { s with worker := .loading event s.state } =
      (s.changes ++ s.caller.toList).filter SleepWindowEvent.ingestion := by
    simp only [signals, Work.held, List.nil_append]
  rw [later]
  rw [split_, List.getLast?_append] at before
  cases rest : ((s.changes ++ s.caller.toList).filter SleepWindowEvent.ingestion).getLast? with
  | some other =>
    rw [rest] at before
    exact before
  | none =>
    rw [rest, Option.none_or] at before
    -- nothing else speaks for the request, so this event does not end it
    intro config
    cases kind : event with
    | ingestionStarted => rfl
    | ingestionEnded =>
      rw [kind] at before
      cases before
    | ingestionAbsenceObserved =>
      rw [kind] at before
      cases before
    | _ => exact command_of_active config on rfl

theorem inv_loading {s : World} {event : SleepWindowEvent} {state : ControllerState}
    (config : Config) (inv : s.Inv) (worker : s.worker = .loading event state) :
    Inv { s with
      worker := .before { event, state, command := sleepWindowCommand event state config } 0
        .reading } := by
  refine inv.with_worker (by simp [Work.refresh, Refresh.Silent]) ?_ (by simp)
    (by simp [worker, Work.held]) fun opened => ?_
  · intro job there
    cases there
    exact ⟨config, rfl⟩
  · simp only [Opened, worker] at opened ⊢
    exact ⟨config, opened config⟩

theorem Inv.same_job {s : World} {worker : Work} {job : Job} (inv : s.Inv)
    (had : s.worker.job = some job) (has : worker.job = some job)
    (refresh : ∀ left ∈ worker.refresh, left.Silent)
    (going : ∀ job attempt, worker ≠ .pausing job attempt) : Inv { s with worker } := by
  have idle {work : Work} (some_ : work.job = some job) : work.held = [] := by
    cases work <;> first | rfl | cases some_
  have opened {work : Work} (some_ : work.job = some job) :
      Opened { s with worker := work } ↔ Opens job.command := by
    cases work <;> cases some_ <;> rfl
  refine inv.with_worker refresh ?_ (fun other attempt same => absurd same (going _ _))
    (by rw [idle has, idle had]) fun before => (opened has).mpr ((opened had).mp before)
  have known := inv.job
  rw [had] at known
  rw [has]
  exact known

theorem Inv.settled {s : World} {job : Job} {attempt : ℕ} {observed : Option ℕ}
    {left : Refresh} (inv : s.Inv) (worker : s.worker = .after job attempt observed left) :
    Inv { s with
      evidence := some { command := job.command, observedSeconds := observed }
      worker := settle job attempt observed } := by
  have known := inv.job job (by rw [worker]; rfl)
  have ends : settle job attempt observed = .receiving ∨
      settle job attempt observed = .pausing job attempt := by
    simp only [settle]
    split
    · exact .inl rfl
    · exact .inr rfl
  refine ⟨inv.callback, inv.poller, ?_, ?_, ?_, inv.answered.of_same rfl ?_ fun opened => ?_⟩
  · rcases ends with ends | ends <;> simp [ends, Work.refresh]
  · rcases ends with ends | ends <;> simp [ends, Work.job, known]
  · intro other tries same
    rcases ends with ends | ends
    · rw [ends] at same
      cases same
    · rw [ends] at same
      cases same
      exact ⟨_, rfl, rfl⟩
  · rcases ends with ends | ends <;> simp only [signals, ends, worker, Work.held]
  · simp only [Opened, worker] at opened
    rcases ends with ends | ends
    · simp only [Opened, ends]
      exact ⟨_, rfl, opened⟩
    · simpa only [Opened, ends] using opened

theorem inv_work {s t : World} {acc : Option Bool} {seconds : Option ℕ} {config : Config}
    (inv : s.Inv) (stepped : s.work acc seconds config = some t) : t.Inv := by
  simp only [work] at stepped
  cases worker : s.worker with
  | receiving => simp [worker] at stepped
  | pausing job attempt => simp [worker] at stepped
  | refreshing event left =>
    simp only [worker, Option.some.injEq] at stepped
    subst stepped
    obtain ⟨same, silent⟩ := refreshed (s := s) acc (inv.refresh left (by rw [worker]; rfl))
    have kept := inv.of_refreshed same
    have there := same.worker.trans worker
    cases rest : (s.refresh acc left).2 with
    | none =>
      refine kept.with_worker (by simp [Work.refresh]) (by simp [Work.job]) (by simp)
        (by rw [there]; rfl) fun opened => ?_
      simp only [Opened, there] at opened
      exact opened
    | some more =>
      refine kept.with_worker ?_ (by simp [Work.job]) (by simp) (by rw [there]; rfl)
        fun opened => ?_
      · intro left going
        cases going
        exact silent more rest
      · simp only [Opened, there] at opened
        exact opened
  | taking event =>
    simp only [worker, Option.some.injEq] at stepped
    subst stepped
    exact inv_taking inv worker
  | loading event state =>
    simp only [worker, Option.some.injEq] at stepped
    subst stepped
    exact inv_loading config inv worker
  | before job attempt left =>
    simp only [worker, Option.some.injEq] at stepped
    subst stepped
    obtain ⟨same, silent⟩ := refreshed (s := s) acc (inv.refresh left (by rw [worker]; rfl))
    have kept := inv.of_refreshed same
    have had : (s.refresh acc left).1.worker.job = some job := by rw [same.worker, worker]; rfl
    cases rest : (s.refresh acc left).2 with
    | none => exact kept.same_job had rfl (by simp [Work.refresh]) (by simp)
    | some more =>
      refine kept.same_job had rfl ?_ (by simp)
      intro left going
      cases going
      exact silent more rest
  | reading job attempt =>
    simp only [worker, Option.some.injEq] at stepped
    subst stepped
    split
    · exact inv.same_job (by rw [worker]; rfl) rfl (by simp [Work.refresh]) (by simp)
    · exact inv.same_job (by rw [worker]; rfl) rfl (by simp [Work.refresh, Refresh.Silent])
        (by simp)
  | writing job attempt =>
    simp only [worker, Option.some.injEq] at stepped
    subst stepped
    exact inv.same_job (by rw [worker]; rfl) rfl (by simp [Work.refresh]) (by simp)
  | rereading job attempt =>
    simp only [worker, Option.some.injEq] at stepped
    subst stepped
    exact inv.same_job (by rw [worker]; rfl) rfl (by simp [Work.refresh, Refresh.Silent])
      (by simp)
  | after job attempt observed left =>
    simp only [worker] at stepped
    obtain ⟨same, silent⟩ := refreshed (s := s) acc (inv.refresh left (by rw [worker]; rfl))
    have kept := inv.of_refreshed same
    have had : (s.refresh acc left).1.worker.job = some job := by rw [same.worker, worker]; rfl
    cases rest : (s.refresh acc left).2 with
    | none =>
      simp only [rest, Option.some.injEq] at stepped
      subst stepped
      exact kept.settled (same.worker.trans worker)
    | some more =>
      simp only [rest, Option.some.injEq] at stepped
      subst stepped
      refine kept.same_job had rfl ?_ (by simp)
      intro left going
      cases going
      exact silent more rest

theorem inv_step {s t : World} {e : Event} (inv : s.Inv) (stepped : step s e t) : t.Inv := by
  cases e with
  | probe network wifi =>
    simp only [step, next] at stepped
    split at stepped
    · cases stepped
      exact ⟨inv.callback, inv.poller, inv.refresh, inv.job, inv.pausing,
        inv.answered.of_same rfl rfl id⟩
    · cases stepped
  | announce =>
    simp only [step, next] at stepped
    split at stepped
    · cases stepped
      exact ⟨inv.callback, inv.poller, inv.refresh, inv.job, inv.pausing,
        inv.answered.of_same rfl (filter_send rfl) id⟩
    · cases stepped
  | setIngestionRequestActive active =>
    simp only [step, next] at stepped
    split at stepped
    next free =>
      cases stepped
      exact ⟨inv.callback, inv.poller, inv.refresh, inv.job, inv.pausing,
        answered_request inv.answered free⟩
    · cases stepped
  | sendRequest =>
    obtain ⟨event, waiting, rfl⟩ := Option.map_eq_some_iff.mp stepped
    refine ⟨inv.callback, inv.poller, inv.refresh, inv.job, inv.pausing,
      inv.answered.of_same rfl ?_ id⟩
    simp [signals, waiting]
  | onAvailable network =>
    simp only [step, next] at stepped
    split at stepped
    · cases stepped
      exact ⟨inv.callback, inv.poller, inv.refresh, inv.job, inv.pausing,
        inv.answered.of_same rfl rfl id⟩
    · cases stepped
  | onCapabilitiesChanged network wifi =>
    simp only [step, next] at stepped
    split at stepped
    · cases stepped
      exact ⟨capabilities_silent _ _, inv.poller, inv.refresh, inv.job, inv.pausing,
        inv.answered.of_same (capabilities_active _ _) rfl id⟩
    · cases stepped
  | onLost network =>
    simp only [step, next] at stepped
    split at stepped
    · split at stepped
      · cases stepped
        exact ⟨by simp [SleepWindowEvent.ingestion, SleepWindowEvent.released], inv.poller,
          inv.refresh, inv.job, inv.pausing, inv.answered.of_same rfl rfl id⟩
      · cases stepped
        exact inv
    · cases stepped
  | sendNetwork =>
    obtain ⟨event, waiting, rfl⟩ := Option.map_eq_some_iff.mp stepped
    exact ⟨by simp, inv.poller, inv.refresh, inv.job, inv.pausing,
      inv.answered.of_same rfl (filter_send (inv.callback event waiting)) id⟩
  | poll acc =>
    simp only [step, next] at stepped
    split at stepped
    · cases stepped
      exact ⟨inv.callback, by simp [Refresh.Silent], inv.refresh, inv.job, inv.pausing,
        inv.answered.of_same rfl rfl id⟩
    next left going =>
      cases stepped
      obtain ⟨same, silent⟩ := refreshed (s := s) acc (inv.poller left going)
      exact (inv.of_refreshed same).with_poller silent
  | receive =>
    simp only [step, next] at stepped
    split at stepped
    next event rest worker queued =>
      cases stepped
      exact inv_receive inv (.inl worker) queued
    next job attempt event rest worker queued =>
      cases stepped
      exact inv_receive inv (.inr ⟨job, attempt, worker⟩) queued
    · cases stepped
  | timeout =>
    simp only [step, next] at stepped
    split at stepped
    next job attempt worker =>
      cases stepped
      refine inv.with_worker (by simp [Work.refresh, Refresh.Silent]) ?_ (by simp)
        (by simp [worker, Work.held]) fun opened => ?_
      · have known := inv.job
        rw [worker] at known
        exact known
      · simpa only [Opened, worker] using opened
    · cases stepped
  | work acc seconds config => exact inv_work inv stepped

def NeverWritten (s : World) : Prop :=
  ∀ job attempt, s.worker = .writing job attempt →
    job.state.ingestionRequestActive = true → job.command.policy ≠ .managedIdle

def NeverLeft (s : World) : Prop :=
  s.changes = [] → ∀ done ∈ s.evidence, done.verified = true →
    s.state.ingestionRequestActive = true → done.command.policy = .managedActive

/-- The same of every event but the end and the absence of a request, and once the caller and the
worker too are done with the events. -/
structure KeptOpen (s : World) : Prop where
  writes : ∀ job attempt, s.worker = .writing job attempt →
    job.state.ingestionRequestActive = true → job.event.released = false →
      ∃ config, job.command = active config
  settled : s.changes = [] → s.caller = none → s.worker = .receiving →
    s.state.ingestionRequestActive = true →
      ∃ done config, s.evidence = some done ∧ done.command = active config

theorem Inv.keptOpen {s : World} (inv : s.Inv) : s.KeptOpen where
  writes job attempt writing requested other := by
    obtain ⟨config, command⟩ := inv.job job (by rw [writing]; rfl)
    exact ⟨config, command.trans (command_of_active config requested other)⟩
  settled empty sent waiting requested := by
    have answered := inv.answered requested
    have nothing : s.signals = [] := by simp [signals, empty, sent, waiting, Work.held]
    simp only [nothing, List.getLast?_nil, Opened, waiting] at answered
    obtain ⟨done, there, config, command⟩ := answered
    exact ⟨done, config, there, command⟩

end World

/-- In every run an active request keeps the window open, up to the two events that claim that
there is none. -/
theorem World.kept_open (es : List Event) (t : World) (run : Run step anyStep start es t) :
    t.KeptOpen :=
  (run.invariant Inv (fun _ _ _ inv _ stepped => inv_step inv stepped) inv_start).keptOpen

def World.config : Config where
  backupAwakeSeconds := 1200
  idleAwakeSeconds := 300

def World.acted (seconds : ℕ) (steps : ℕ) : List Event :=
  .receive :: List.replicate steps (.work none (some seconds) config)

theorem World.kept_open_ended :
    KeptOpen ((trace next anyStep start ([.setIngestionRequestActive true, .sendRequest] ++
      acted 1200 7)).getD start) := by
  have traced : trace next anyStep start ([.setIngestionRequestActive true, .sendRequest] ++
      acted 1200 7) = some ((trace next anyStep start
        ([.setIngestionRequestActive true, .sendRequest] ++ acted 1200 7)).getD start) := by
    decide +kernel
  exact kept_open _ _ (run_of_trace next anyStep traced)

/-- The idle window is written for the end of one request when the next is active already, and
it stays verified between the section of the caller under the lock and its send. -/
theorem World.not_never_narrowed :
    (¬∀ (es : List Event) (t : World), Run step anyStep start es t → t.NeverWritten) ∧
      ¬∀ (es : List Event) (t : World), Run step anyStep start es t → t.NeverLeft := by
  let opening := [.probe none false, .announce] ++ acted 1200 9 ++
    [.setIngestionRequestActive true, .sendRequest] ++ acted 1200 7
  constructor
  · intro never
    have ended : ∃ t job, trace next anyStep start (opening ++
        [.setIngestionRequestActive false, .sendRequest, .setIngestionRequestActive true] ++
        acted 1200 7) = some t ∧ t.worker = .writing job 0 ∧
          job.state.ingestionRequestActive = true ∧ job.command.policy = .managedIdle := by
      exact ⟨_, _, rfl, rfl, rfl, rfl⟩
    obtain ⟨t, job, traced, writing, requested, narrow⟩ := ended
    exact never _ t (run_of_trace next anyStep traced) job 0 writing requested narrow
  · intro never
    have waiting : ∃ t done, trace next anyStep start (opening ++
        [.setIngestionRequestActive false, .sendRequest] ++ acted 300 9 ++
        [.setIngestionRequestActive true]) = some t ∧ t.changes = [] ∧
          t.evidence = some done ∧ done.verified = true ∧
          t.state.ingestionRequestActive = true ∧ done.command.policy = .managedIdle := by
      exact ⟨_, _, rfl, rfl, rfl, rfl, rfl, rfl⟩
    obtain ⟨t, done, traced, empty, there, verified, requested, narrow⟩ := waiting
    have wide := never _ t (run_of_trace next anyStep traced) empty done there verified requested
    rw [narrow] at wide
    cases wide

end DashcamStats.Sleep
