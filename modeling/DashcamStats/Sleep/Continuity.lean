import DashcamStats.Sleep.Deadline

namespace DashcamStats.Sleep

/-- The observations end with an ON to OFF edge and then only valid OFF observations that follow
one another, the last of them before the deadline. -/
inductive Continues : List Observation → OffEdge → Sample → Prop where
  | edge (before : List Observation) {on off : Observation} {first last : Sample}
      (was : on.sample = some first) (is_ : off.sample = some last) (started : first.on = true)
      (ended : last.on = false) (follows : last.follows first = true)
      (early : last.finished < first.started + min first.window last.window * 1000) :
      Continues (before ++ [on, off])
        { lower := first.started
          upper := last.finished
          window := min first.window last.window } last
  | next {log : List Observation} {edge : OffEdge} {last sample : Sample} {o : Observation}
      (continues : Continues log edge last) (is_ : o.sample = some sample)
      (off : sample.on = false) (follows : sample.follows last = true)
      (early : sample.finished < edge.lower + edge.window * 1000) :
      Continues (log ++ [o]) edge sample

theorem Continues.last {log : List Observation} {edge : OffEdge} {last : Sample}
    (continues : Continues log edge last) :
    ∃ before o, log = before ++ [o] ∧ o.sample = some last := by
  cases continues with
  | @edge before on off _ _ was is_ => exact ⟨before ++ [on], off, by simp, is_⟩
  | next _ is_ => exact ⟨_, _, rfl, is_⟩

theorem wrapLong_le {n : ℤ} (nonneg : 0 ≤ n) : wrapLong n ≤ n := by
  simp only [wrapLong]
  omega

theorem early_of_not_expired {edge : OffEdge} {finished : ℤ} (lower : 0 ≤ edge.lower)
    (window : 0 ≤ edge.window) (kept : edge.expired finished = false) :
    finished < edge.lower + edge.window * 1000 := by
  have bound := wrapLong_le (n := edge.lower + edge.window * 1000) (by omega)
  have later := of_decide_eq_false kept
  omega

theorem sample_facts {o : Observation} {sample : Sample} (accepted : o.sample = some sample) :
    0 ≤ sample.started ∧ sample.started ≤ sample.finished ∧ 1 ≤ sample.window := by
  simp only [Observation.sample] at accepted
  split at accepted
  · split at accepted
    next on window _ _ facts =>
      cases accepted
      exact ⟨facts.2.1, facts.2.2.1, facts.2.2.2.2.1⟩
    · cases accepted
  · cases accepted

theorem Continues.nonneg {log : List Observation} {edge : OffEdge} {last : Sample}
    (continues : Continues log edge last) : 0 ≤ edge.lower ∧ 0 ≤ edge.window := by
  induction continues with
  | edge _ was is_ =>
    have first := sample_facts was
    have second := sample_facts is_
    simp only
    omega
  | next _ _ _ _ _ ih => exact ih

structure Remembers (t : SleepDeadlineTracker) (log : List Observation) : Prop where
  previous : ∀ last, t.previous = some last →
    ∃ before o, log = before ++ [o] ∧ o.sample = some last
  evidence : ∀ evidence, t.evidence = some evidence →
    ∃ last, t.previous = some last ∧ evidence.boot = last.boot ∧
      evidence.observedElapsedMillis = last.finished ∧
      ∀ edge, evidence.edge = some edge → Continues log edge last

def Stored (log : List Observation) (checkpoint : SleepDeadlineCheckpoint) : Prop :=
  ∃ edge, checkpoint.edge = some edge ∧ Continues log edge checkpoint.sample

theorem remembers_nothing {t : SleepDeadlineTracker} {log : List Observation}
    (previous : t.previous = none) (evidence : t.evidence = none) : Remembers t log where
  previous last there := by simp [previous] at there
  evidence value there := by simp [evidence] at there

theorem Remembers.congr {t u : SleepDeadlineTracker} {log : List Observation}
    (remembers : Remembers t log) (previous : u.previous = t.previous)
    (evidence : u.evidence = t.evidence) : Remembers u log where
  previous := by rw [previous]; exact remembers.previous
  evidence := by rw [previous, evidence]; exact remembers.evidence

namespace SleepDeadlineTracker

@[simp] theorem queue_previous (t : SleepDeadlineTracker)
    (checkpoint : Option SleepDeadlineCheckpoint) :
    (t.queuePersistence checkpoint).1.previous = t.previous := by
  simp only [queuePersistence]
  split <;> rfl

@[simp] theorem queue_evidence (t : SleepDeadlineTracker)
    (checkpoint : Option SleepDeadlineCheckpoint) :
    (t.queuePersistence checkpoint).1.evidence = t.evidence := by
  simp only [queuePersistence]
  split <;> rfl

@[simp] theorem queue_load (t : SleepDeadlineTracker)
    (checkpoint : Option SleepDeadlineCheckpoint) :
    (t.queuePersistence checkpoint).1.loadCheckpoint = t.loadCheckpoint := by
  simp only [queuePersistence]
  split <;> rfl

@[simp] theorem queue_pending (t : SleepDeadlineTracker)
    (checkpoint : Option SleepDeadlineCheckpoint) :
    (t.queuePersistence checkpoint).1.pendingSnapshotInvalidation =
      t.pendingSnapshotInvalidation := by
  simp only [queuePersistence]
  split <;> rfl

theorem queue_update {t : SleepDeadlineTracker} {checkpoint : Option SleepDeadlineCheckpoint}
    {update : Persistence} (queued : (t.queuePersistence checkpoint).2 = some update) :
    update.checkpoint = checkpoint := by
  simp only [queuePersistence] at queued
  split at queued
  · cases queued
  · cases queued
    rfl

@[simp] theorem invalidate_previous (t : SleepDeadlineTracker) : t.invalidate.1.previous = none := by
  simp [invalidate]

@[simp] theorem invalidate_evidence (t : SleepDeadlineTracker) : t.invalidate.1.evidence = none := by
  simp [invalidate]

@[simp] theorem invalidate_load (t : SleepDeadlineTracker) :
    t.invalidate.1.loadCheckpoint = false := by
  simp [invalidate]

@[simp] theorem invalidate_pending (t : SleepDeadlineTracker) :
    t.invalidate.1.pendingSnapshotInvalidation = t.pendingSnapshotInvalidation := by
  simp [invalidate]

theorem invalidate_update {t : SleepDeadlineTracker} {update : Persistence}
    (queued : t.invalidate.2 = some update) : update.checkpoint = none :=
  queue_update queued

theorem invalidate_remembers (t : SleepDeadlineTracker) (log : List Observation) :
    Remembers t.invalidate.1 log :=
  remembers_nothing (invalidate_previous t) (invalidate_evidence t)

theorem load_remembers {t : SleepDeadlineTracker} {sample : Sample}
    {checkpoint : Option SleepDeadlineCheckpoint} {log : List Observation}
    (stored : ∀ cp ∈ checkpoint, Stored log cp) :
    Remembers (t.load sample checkpoint).1 log := by
  simp only [load]
  split
  next cp kept =>
    obtain ⟨edge, has, continues⟩ := stored cp (Option.filter_eq_some_iff.mp kept).1
    refine ⟨fun last there => ?_, fun evidence there => ?_⟩
    · cases there
      exact continues.last
    · cases there
      refine ⟨cp.sample, rfl, rfl, rfl, fun other same => ?_⟩
      have : other = edge := by
        rw [SleepDeadlineCheckpoint.evidence, has] at same
        exact (Option.some.inj same).symm
      rwa [this]
  · exact invalidate_remembers t log

theorem load_update {t : SleepDeadlineTracker} {sample : Sample}
    {checkpoint : Option SleepDeadlineCheckpoint} {update : Persistence}
    (queued : (t.load sample checkpoint).2 = some update) : update.checkpoint = none := by
  simp only [load] at queued
  split at queued
  · cases queued
  · exact invalidate_update queued

theorem edgeAfter_continues {t : SleepDeadlineTracker} {log : List Observation} {o : Observation}
    {sample : Sample} {edge : OffEdge} (remembers : Remembers t log)
    (accepted : o.sample = some sample) (inForce : t.edgeAfter sample = some edge) :
    Continues (log ++ [o]) edge sample := by
  simp only [edgeAfter] at inForce
  obtain ⟨there, early⟩ := Option.filter_eq_some_iff.mp inForce
  have kept : edge.expired sample.finished = false := by simpa using early
  split at there
  · cases there
  next off =>
    have off : sample.on = false := by simpa using off
    split at there
    · cases there
    next last old =>
      obtain ⟨previous, follows⟩ := Option.filter_eq_some_iff.mp old
      obtain ⟨before, p, rfl, was⟩ := remembers.previous last previous
      have first := sample_facts was
      have second := sample_facts accepted
      split at there
      next on =>
        cases there
        have early := early_of_not_expired first.1 (by simp only; omega) kept
        rw [List.append_assoc]
        exact .edge before was accepted on off follows early
      next =>
        obtain ⟨evidence, current, has⟩ := Option.bind_eq_some_iff.mp there
        obtain ⟨same, previous', _, _, continues⟩ := remembers.evidence evidence current
        obtain rfl : last = same := Option.some.inj (previous.symm.trans previous')
        have row := continues edge has
        exact .next row accepted off follows
          (early_of_not_expired row.nonneg.1 row.nonneg.2 kept)

theorem observeLocked_spec {t : SleepDeadlineTracker} {log : List Observation} {o : Observation}
    {shouldLoad : Bool} {checkpoint : Option SleepDeadlineCheckpoint}
    (remembers : shouldLoad = false → Remembers t log)
    (stored : shouldLoad = true → ∀ cp ∈ checkpoint, Stored log cp) :
    Remembers (t.observeLocked o shouldLoad checkpoint).1 (log ++ [o]) ∧
      ∀ update cp, (t.observeLocked o shouldLoad checkpoint).2 = some update →
        update.checkpoint = some cp → Stored (log ++ [o]) cp := by
  cases accepted : o.sample with
  | none =>
    simp only [observeLocked, accepted]
    refine ⟨invalidate_remembers _ _, fun update cp queued has => ?_⟩
    rw [invalidate_update queued] at has
    cases has
  | some sample =>
    have loaded : Remembers (if shouldLoad then t.load sample checkpoint else (t, none)).1 log ∧
        ∀ update ∈ (if shouldLoad then t.load sample checkpoint else (t, none)).2,
          update.checkpoint = none := by
      cases shouldLoad with
      | true => exact ⟨load_remembers (stored rfl), fun _ => load_update⟩
      | false => exact ⟨remembers rfl, fun _ none_ => by cases none_⟩
    simp only [observeLocked, accepted]
    generalize (if shouldLoad then t.load sample checkpoint else (t, none)) = pair at loaded ⊢
    obtain ⟨u, invalidation⟩ := pair
    obtain ⟨remembers, refused⟩ := loaded
    refine ⟨⟨fun last there => ?_, fun evidence there => ?_⟩, fun update cp queued has => ?_⟩
    · simp only [queue_previous, Option.some.injEq] at there
      exact ⟨log, o, rfl, there ▸ accepted⟩
    · simp only [queue_evidence, Option.some.injEq] at there
      subst there
      exact ⟨sample, by simp, rfl, rfl, fun edge has => edgeAfter_continues remembers accepted has⟩
    · rcases Option.or_eq_some_iff.mp queued with own | ⟨_, invalid⟩
      · have content := queue_update own
        rw [has] at content
        split at content
        next both =>
          obtain ⟨edge, inForce⟩ := Option.isSome_iff_exists.mp both.2
          cases content
          exact ⟨edge, inForce, edgeAfter_continues remembers accepted inForce⟩
        · cases content
      · rw [refused update invalid] at has
        cases has

theorem observeLocked_rest {t : SleepDeadlineTracker} (o : Observation) (shouldLoad : Bool)
    (checkpoint : Option SleepDeadlineCheckpoint) (before : t.loadCheckpoint = false) :
    (t.observeLocked o shouldLoad checkpoint).1.loadCheckpoint = false ∧
      (t.observeLocked o shouldLoad checkpoint).1.pendingSnapshotInvalidation =
        t.pendingSnapshotInvalidation := by
  cases accepted : o.sample with
  | none => simp [observeLocked, accepted]
  | some sample =>
    cases shouldLoad with
    | false => simp [observeLocked, accepted, before]
    | true =>
      simp only [observeLocked, accepted, ↓reduceIte, queue_load, queue_pending, load]
      split
      · exact ⟨before, rfl⟩
      · simp

theorem snapshot_shows {t : SleepDeadlineTracker} {log : List Observation} {now : ℤ}
    {evidence : SleepDeadlineEvidence} (remembers : Remembers t log)
    (shown : (t.snapshot now).2 = some evidence) :
    t.evidence = some evidence ∧ evidence.observedElapsedMillis ≤ now ∧
      now ≤ evidence.observedElapsedMillis + observationMaxAgeMs := by
  simp only [snapshot] at shown
  split at shown
  · cases shown
  next last previous =>
    split at shown
    · simp at shown
    next recent =>
      obtain ⟨same, previous', _, observed, _⟩ := remembers.evidence evidence shown
      obtain rfl : last = same := Option.some.inj (previous.symm.trans previous')
      simp only [not_or] at recent
      refine ⟨shown, ?_, ?_⟩ <;> omega

theorem snapshot_remembers {t : SleepDeadlineTracker} {log : List Observation} (now : ℤ)
    (remembers : Remembers t log) : Remembers (t.snapshot now).1 log := by
  simp only [snapshot]
  split
  · exact remembers
  · split
    · exact remembers_nothing (by simp) (by simp)
    · exact remembers

end SleepDeadlineTracker

-- What a `persist` under the store lock is to write.
def Storing.update : Storing → Option Persistence
  | .checking update => some update
  | .writing update => some update
  | .entombing update => some update
  | .removing update => some update
  | .failing update => some update
  | .revoking => none

namespace Deadlines

def history (s : Deadlines) : List Observation := s.log ++ s.applied.toList

def Owes (s : Deadlines) (holder : Holder) (update : Persistence) : Prop :=
  (holder, update) ∈ s.process.waiting ∨
    ∃ storing, s.process.storing = some (holder, storing) ∧ storing.update = some update

def Current (s : Deadlines) : Prop := s.file.isSome = true → s.storedAt = s.log.length

instance (s : Deadlines) : Decidable s.Current := inferInstanceAs (Decidable (_ → _))

def Fresh (s : Deadlines) : Prop :=
  s.process.tracker.loadCheckpoint = true ∨ (∃ o, s.process.observing = .reading o) ∨
    ∃ o checkpoint, s.process.observing = .applying o true checkpoint

structure Untouched (s : Deadlines) : Prop where
  previous : s.process.tracker.previous = none
  evidence : s.process.tracker.evidence = none
  pending : s.process.tracker.pendingSnapshotInvalidation = none
  waiting : s.process.waiting = []
  storing : s.process.storing = none
  applied : s.applied = none
  current : s.Current

theorem Untouched.same {s : Deadlines} {observing : Observing} (untouched : s.Untouched) :
    Untouched { s with process := { s.process with observing } } :=
  ⟨untouched.previous, untouched.evidence, untouched.pending, untouched.waiting,
    untouched.storing, untouched.applied, untouched.current⟩

structure Inv (s : Deadlines) : Prop where
  remembers : Remembers s.process.tracker s.history
  jobs : ∀ holder update checkpoint, s.Owes holder update →
    update.checkpoint = some checkpoint → holder = .observer ∧ Stored s.history checkpoint
  pending : ∀ update, s.process.tracker.pendingSnapshotInvalidation = some update →
    update.checkpoint = none
  file : ∀ checkpoint, s.file = some checkpoint →
    s.storedAt ≤ s.log.length ∧ Stored (s.log.take s.storedAt) checkpoint
  free : (∀ o, s.process.observing ≠ .flushed o) → s.process.observing ≠ .persisting →
    s.process.free = true
  applied : s.process.observing ≠ .persisting → s.applied = none
  untouched : s.Fresh → s.Untouched
  applying : ∀ o checkpoint, s.process.observing = .applying o true checkpoint →
    ∀ stored ∈ checkpoint, Stored s.log stored
  loaded : ∀ o shouldLoad checkpoint, s.process.observing = .applying o shouldLoad checkpoint →
    s.process.tracker.loadCheckpoint = false
  loading : ∀ o, s.process.observing = .reading o → s.process.tracker.loadCheckpoint = false

/-- The process does not die while the stored checkpoint is older than the last completed
observation. -/
def Careful (s : Deadlines) : DeadlineEvent → Prop
  | .die => s.Current
  | _ => True

instance (s : Deadlines) (e : DeadlineEvent) : Decidable (s.Careful e) :=
  match e with
  | .die => inferInstanceAs (Decidable s.Current)
  | .observe _ | .advance _ | .snapshot _ | .flushPendingInvalidation | .enter _ | .store _ =>
    .isTrue trivial

def Sound (s : Deadlines) : Prop :=
  ∀ now evidence, (s.process.tracker.snapshot now).2 = some evidence →
    (evidence.observedElapsedMillis ≤ now ∧
      now ≤ evidence.observedElapsedMillis + observationMaxAgeMs) ∧
    ∀ edge, evidence.edge = some edge →
      ∃ last, Continues s.history edge last ∧ last.boot = evidence.boot ∧
        last.finished = evidence.observedElapsedMillis

theorem inv_start : start.Inv where
  remembers := remembers_nothing rfl rfl
  jobs holder update checkpoint owed := by simp [Owes, start, Process.new] at owed
  pending update there := by cases there
  file checkpoint there := by cases there
  free _ _ := rfl
  applied _ := rfl
  untouched _ := ⟨rfl, rfl, rfl, rfl, rfl, rfl, fun there => by cases there⟩
  applying o checkpoint there := by cases there
  loaded o shouldLoad checkpoint there := by cases there
  loading o there := by cases there

theorem Inv.sound {s : Deadlines} (inv : s.Inv) : s.Sound := by
  intro now evidence shown
  obtain ⟨current, recent⟩ := SleepDeadlineTracker.snapshot_shows inv.remembers shown
  obtain ⟨last, _, boot, observed, continues⟩ := inv.remembers.evidence evidence current
  exact ⟨recent, fun edge has => ⟨last, continues edge has, boot.symm, observed.symm⟩⟩

theorem Inv.no_checkpoint {s : Deadlines} {holder : Holder} {update : Persistence} (inv : s.Inv)
    (free : s.process.free = true) (owed : s.Owes holder update) : update.checkpoint = none := by
  by_contra some_
  obtain ⟨checkpoint, has⟩ := Option.ne_none_iff_exists'.mp some_
  have mine := (inv.jobs holder update checkpoint owed has).1
  simp only [Process.free, Bool.and_eq_true, List.all_eq_true, Option.all_eq_true,
    decide_eq_true_eq] at free
  rcases owed with waiting | ⟨storing, held, _⟩
  · exact free.1 _ waiting mine
  · exact free.2 _ held mine

theorem Inv.not_fresh {s : Deadlines} {job : Holder × Storing} (inv : s.Inv)
    (held : s.process.storing = some job) : ¬s.Fresh := by
  intro fresh
  rw [(inv.untouched fresh).storing] at held
  cases held

theorem Inv.release {s : Deadlines} (inv : s.Inv) : s.release.Inv where
  remembers := inv.remembers
  jobs holder update checkpoint owed := by
    rcases owed with waiting | ⟨storing, held, _⟩
    · exact inv.jobs holder update checkpoint (.inl waiting)
    · cases held
  pending := inv.pending
  file := inv.file
  free flushed persisting := by
    have before := inv.free flushed persisting
    simp only [Process.free, Bool.and_eq_true] at before
    simp only [Deadlines.release, Process.free, before.1, Option.all_none, Bool.and_self]
  applied := inv.applied
  untouched fresh :=
    let before := inv.untouched fresh
    ⟨before.previous, before.evidence, before.pending, before.waiting, rfl, before.applied,
      before.current⟩
  applying := inv.applying
  loaded := inv.loaded
  loading := inv.loading

theorem Inv.goto {s : Deadlines} {holder : Holder} {before after : Storing} (inv : s.Inv)
    (held : s.process.storing = some (holder, before))
    (same : ∀ update, after.update = some update → before.update = some update) :
    (s.goto holder after).Inv where
  remembers := inv.remembers
  jobs other update checkpoint owed := by
    rcases owed with waiting | ⟨storing, now, carries⟩
    · exact inv.jobs other update checkpoint (.inl waiting)
    · cases now
      exact inv.jobs _ update checkpoint (.inr ⟨before, held, same update carries⟩)
  pending := inv.pending
  file := inv.file
  free flushed persisting := by
    have free := inv.free flushed persisting
    simpa [Deadlines.goto, Process.free, held] using free
  applied := inv.applied
  untouched fresh := absurd fresh (inv.not_fresh held)
  applying := inv.applying
  loaded := inv.loaded
  loading := inv.loading

theorem Inv.erase {s : Deadlines} (inv : s.Inv) : Inv { s with file := none } where
  remembers := inv.remembers
  jobs := inv.jobs
  pending := inv.pending
  file checkpoint there := by cases there
  free := inv.free
  applied := inv.applied
  untouched fresh :=
    let before := inv.untouched fresh
    ⟨before.previous, before.evidence, before.pending, before.waiting, before.storing,
      before.applied, fun there => by cases there⟩
  applying := inv.applying
  loaded := inv.loaded
  loading := inv.loading

theorem Inv.invalidated {s : Deadlines} {job : Holder × Storing} (inv : s.Inv)
    (held : s.process.storing = some job) :
    Inv { s with process := { s.process with tracker := s.process.tracker.invalidate.1 } } where
  remembers := SleepDeadlineTracker.invalidate_remembers _ _
  jobs := inv.jobs
  pending update there := inv.pending update (by simpa using there)
  file := inv.file
  free := inv.free
  applied := inv.applied
  untouched fresh := by
    refine absurd ?_ (inv.not_fresh held)
    rcases fresh with loads | phase
    · simp at loads
    · exact .inr phase
  applying := inv.applying
  loaded _ _ _ _ := by simp
  loading _ _ := by simp

theorem Inv.commit {s : Deadlines} {holder : Holder} {storing : Storing} {update : Persistence}
    {checkpoint : SleepDeadlineCheckpoint} (inv : s.Inv)
    (held : s.process.storing = some (holder, storing)) (carries : storing.update = some update)
    (has : update.checkpoint = some checkpoint) : (s.commit checkpoint).Inv := by
  have same : (s.commit checkpoint).history = s.history := by
    simp [history, Deadlines.commit]
  obtain ⟨mine, stored⟩ := inv.jobs holder update checkpoint (.inr ⟨storing, held, carries⟩) has
  refine ⟨?_, ?_, inv.pending, ?_, ?_, fun _ => rfl, fun fresh => ?_, ?_, inv.loaded,
    inv.loading⟩
  · rw [same]
    exact inv.remembers
  · intro other owed cp waits there
    rw [same]
    rcases waits with waiting | ⟨_, now, _⟩
    · exact inv.jobs other owed cp (.inl waiting) there
    · cases now
  · intro cp there
    cases there
    refine ⟨le_refl _, ?_⟩
    simp only [Deadlines.commit, List.take_length]
    exact stored
  · intro flushed persisting
    have before := inv.free flushed persisting
    simp only [Process.free, Bool.and_eq_true] at before
    simp only [Deadlines.commit, Process.free, before.1, Option.all_none, Bool.and_self]
  · exact absurd fresh (inv.not_fresh held)
  · intro o cp applying
    exact absurd (.inr (.inr ⟨o, cp, applying⟩)) (inv.not_fresh held)

theorem Inv.store {s t : Deadlines} {fails : Bool} (inv : s.Inv)
    (stepped : s.store fails = some t) : t.Inv := by
  simp only [Deadlines.store] at stepped
  split at stepped
  · cases stepped
  next holder update held =>
    cases stepped
    split
    · exact inv.goto held fun _ same => same
    · exact inv.release
  next holder update held =>
    cases stepped
    split
    · exact inv.erase.goto held fun _ same => same
    next checkpoint has =>
      split
      · exact inv.goto held fun _ same => same
      · split
        · exact inv.goto held fun _ same => same
        · exact inv.commit held rfl has
  next holder update held =>
    cases stepped
    split
    · exact inv.goto held fun _ same => same
    · exact inv.release
  next holder update held =>
    cases stepped
    exact inv.erase.goto held fun _ same => same
  next holder update held =>
    cases stepped
    split
    · exact (inv.invalidated held).goto held (by simp [Storing.update])
    · exact inv.goto held (by simp [Storing.update])
  next holder held =>
    cases stepped
    exact inv.erase.release

theorem Inv.snapshot {s : Deadlines} (now : ℤ) (inv : s.Inv) :
    Inv { s with process := { s.process with
      tracker := (s.process.tracker.snapshot now).1 } } := by
  cases known : s.process.tracker.previous with
  | none =>
    have same : (s.process.tracker.snapshot now).1 = s.process.tracker := by
      simp [SleepDeadlineTracker.snapshot, known]
    rw [same]
    exact inv
  | some last =>
    have touched : ¬s.Fresh := by
      intro fresh
      rw [(inv.untouched fresh).previous] at known
      cases known
    have not_loading (before : s.process.tracker.loadCheckpoint = false) :
        (s.process.tracker.snapshot now).1.loadCheckpoint = false := by
      simp only [SleepDeadlineTracker.snapshot, known]
      split
      · simp
      · exact before
    refine ⟨SleepDeadlineTracker.snapshot_remembers now inv.remembers, inv.jobs, ?_, inv.file,
      inv.free, inv.applied, fun fresh => absurd ?_ touched, inv.applying,
      fun o shouldLoad checkpoint phase => not_loading (inv.loaded o shouldLoad checkpoint phase),
      fun o phase => not_loading (inv.loading o phase)⟩
    · intro update there
      simp only [SleepDeadlineTracker.snapshot, known] at there
      split at there
      · exact SleepDeadlineTracker.invalidate_update there
      · exact inv.pending update there
    · rcases fresh with loads | phase
      · simp only [SleepDeadlineTracker.snapshot, known] at loads
        split at loads
        · simp at loads
        · exact .inl loads
      · exact .inr phase

theorem Inv.owes_flush {s : Deadlines} {taker holder : Holder} {update : Persistence}
    {checkpoint : SleepDeadlineCheckpoint} (inv : s.Inv)
    (owed : Owes { s with process := s.process.flush taker } holder update)
    (has : update.checkpoint = some checkpoint) : s.Owes holder update := by
  rcases owed with waiting | held
  · rcases List.mem_append.mp waiting with before | added
    · exact .inl before
    · simp only [Option.mem_toList, Option.map_eq_some_iff] at added
      obtain ⟨taken, there, same⟩ := added
      cases same
      rw [inv.pending _ there] at has
      cases has
  · exact .inr held

theorem Untouched.flush {s : Deadlines} (taker : Holder) (untouched : s.Untouched) :
    Untouched { s with process := s.process.flush taker } :=
  ⟨untouched.previous, untouched.evidence, rfl,
    by simp [Process.flush, Process.persist, untouched.waiting, untouched.pending],
    untouched.storing, untouched.applied, untouched.current⟩

theorem Inv.flush {s : Deadlines} (inv : s.Inv) :
    Inv { s with process := s.process.flush .flusher } := by
  refine ⟨inv.remembers.congr rfl rfl, ?_, fun update there => (by cases there), inv.file, ?_,
    inv.applied, fun fresh => (inv.untouched fresh).flush _, inv.applying, inv.loaded,
    inv.loading⟩
  · intro holder update checkpoint owed has
    exact inv.jobs holder update checkpoint (inv.owes_flush owed has) has
  · intro flushed persisting
    have before := inv.free flushed persisting
    cases pending : s.process.tracker.pendingSnapshotInvalidation <;>
      simpa [Process.free, Process.flush, Process.persist, pending] using before

theorem Inv.enter {s : Deadlines} {index : ℕ} {holder : Holder} {update : Persistence}
    (inv : s.Inv) (unheld : s.process.storing = none)
    (waits : s.process.waiting[index]? = some (holder, update)) :
    Inv { s with process := { s.process with
      waiting := s.process.waiting.eraseIdx index
      storing := some (holder, .checking update) } } := by
  have member : (holder, update) ∈ s.process.waiting := List.mem_of_getElem? waits
  refine ⟨inv.remembers, ?_, inv.pending, inv.file, ?_, inv.applied, fun fresh => ?_,
    inv.applying, inv.loaded, inv.loading⟩
  · intro other owed checkpoint owes has
    rcases owes with waiting | ⟨storing, held, carries⟩
    · exact inv.jobs other owed checkpoint (.inl (List.mem_of_mem_eraseIdx waiting)) has
    · cases held
      cases carries
      exact inv.jobs _ _ checkpoint (.inl member) has
  · intro flushed persisting
    have before := inv.free flushed persisting
    simp only [Process.free, unheld, Bool.and_eq_true, List.all_eq_true, decide_eq_true_eq,
      Option.all_none, and_true] at before
    simp only [Process.free, Bool.and_eq_true, List.all_eq_true, decide_eq_true_eq,
      Option.all_some]
    exact ⟨fun job kept => before job (List.mem_of_mem_eraseIdx kept), before _ member⟩
  · rw [(inv.untouched fresh).waiting] at member
    cases member

theorem Inv.flushing {s : Deadlines} {o : Observation} (inv : s.Inv)
    (phase : s.process.observing = .flushing o) :
    Inv { s with process := { s.process.flush .observer with observing := .flushed o } } := by
  have unapplied := inv.applied (by simp [phase])
  refine ⟨inv.remembers.congr rfl rfl, ?_, fun update there => (by cases there), inv.file,
    fun flushed => absurd rfl (flushed o), fun _ => unapplied, fun fresh => ?_,
    fun o checkpoint there => (by cases there), fun _ _ _ there => (by cases there),
    fun _ there => (by cases there)⟩
  · intro holder update checkpoint owed has
    exact inv.jobs holder update checkpoint (inv.owes_flush owed has) has
  · rcases fresh with loads | ⟨_, other⟩ | ⟨_, _, other⟩
    · exact ((inv.untouched (.inl loads)).flush _).same
    · cases other
    · cases other

theorem Inv.goes_on {s : Deadlines} {observing : Observing} (inv : s.Inv)
    (free : s.process.free = true) (unapplied : s.applied = none)
    (fresh : Fresh { s with process := { s.process with observing } } → s.Untouched)
    (applying : ∀ o checkpoint, observing = .applying o true checkpoint →
      ∀ stored ∈ checkpoint, Stored s.log stored)
    (loaded : (∃ o, observing = .reading o) ∨
        (∃ o shouldLoad checkpoint, observing = .applying o shouldLoad checkpoint) →
      s.process.tracker.loadCheckpoint = false) :
    Inv { s with process := { s.process with observing } } :=
  ⟨inv.remembers, inv.jobs, inv.pending, inv.file, fun _ _ => free, fun _ => unapplied,
    fun begun => (fresh begun).same, applying,
    fun o shouldLoad checkpoint phase => loaded (.inr ⟨o, shouldLoad, checkpoint, phase⟩),
    fun o phase => loaded (.inl ⟨o, phase⟩)⟩

theorem Inv.stored {s : Deadlines} {checkpoint : SleepDeadlineCheckpoint} (inv : s.Inv)
    (current : s.Current) (there : s.file = some checkpoint) : Stored s.log checkpoint := by
  have stored := (inv.file checkpoint there).2
  rwa [current (by simp [there]), List.take_length] at stored

theorem Inv.apply {s : Deadlines} {o : Observation} {shouldLoad : Bool}
    {checkpoint : Option SleepDeadlineCheckpoint} (inv : s.Inv)
    (phase : s.process.observing = .applying o shouldLoad checkpoint) :
    Inv { s with
      process := Process.persist { s.process with
        tracker := (s.process.tracker.observeLocked o shouldLoad checkpoint).1
        observing := .persisting } .observer
          (s.process.tracker.observeLocked o shouldLoad checkpoint).2
      applied := some o } := by
  have unapplied := inv.applied (by simp [phase])
  have free := inv.free (by simp [phase]) (by simp [phase])
  have before : s.history = s.log := by simp [history, unapplied]
  have known : shouldLoad = false → Remembers s.process.tracker s.log :=
    fun _ => before ▸ inv.remembers
  have stored : shouldLoad = true → ∀ cp ∈ checkpoint, Stored s.log cp := by
    rintro rfl
    exact inv.applying o checkpoint phase
  obtain ⟨remembers, own⟩ := SleepDeadlineTracker.observeLocked_spec (o := o) known stored
  obtain ⟨loaded, same⟩ := SleepDeadlineTracker.observeLocked_rest o shouldLoad checkpoint
    (inv.loaded _ _ _ phase)
  refine ⟨remembers, ?_, ?_, inv.file, fun _ persisting => absurd rfl persisting,
    fun persisting => absurd rfl persisting, fun fresh => ?_,
    fun o checkpoint there => (by cases there), fun _ _ _ there => (by cases there),
    fun _ there => (by cases there)⟩
  · intro holder update cp owed has
    rcases owed with waiting | held
    · rcases List.mem_append.mp waiting with earlier | added
      · rw [inv.no_checkpoint free (.inl earlier)] at has
        cases has
      · simp only [Option.mem_toList, Option.map_eq_some_iff] at added
        obtain ⟨queued, there, same⟩ := added
        cases same
        exact ⟨rfl, own _ cp there has⟩
    · rw [inv.no_checkpoint free (.inr held)] at has
      cases has
  · intro update there
    exact inv.pending update (same ▸ there)
  · rcases fresh with loads | ⟨_, other⟩ | ⟨_, _, other⟩
    · exact absurd (loads.symm.trans loaded) (by simp)
    · cases other
    · cases other

theorem Inv.complete {s : Deadlines} (inv : s.Inv) (free : s.process.free = true) :
    Inv { s with
      process := { s.process with observing := .idle }
      log := s.log ++ s.applied.toList
      applied := none } := by
  have same : s.log ++ s.applied.toList = s.history := rfl
  refine ⟨?_, ?_, inv.pending, ?_, fun _ _ => free, fun _ => rfl, fun fresh => ?_,
    fun _ _ there => (by cases there), fun _ _ _ there => (by cases there),
    fun _ there => (by cases there)⟩
  · simpa only [history, Option.toList_none, List.append_nil] using inv.remembers
  · intro holder update checkpoint owed has
    have stored := inv.jobs holder update checkpoint owed has
    simpa only [history, Option.toList_none, List.append_nil] using stored
  · intro checkpoint there
    obtain ⟨within, stored⟩ := inv.file checkpoint there
    refine ⟨le_trans within (by simp), ?_⟩
    rwa [List.take_append_of_le_length within]
  · rcases fresh with loads | ⟨_, other⟩ | ⟨_, _, other⟩
    · have before := inv.untouched (.inl loads)
      refine ⟨before.previous, before.evidence, before.pending, before.waiting, before.storing,
        rfl, fun there => ?_⟩
      simpa [before.applied] using before.current there
    · cases other
    · cases other

theorem Inv.advance {s t : Deadlines} {unreadable : Bool} (inv : s.Inv)
    (stepped : s.advance unreadable = some t) : t.Inv := by
  simp only [Deadlines.advance] at stepped
  split at stepped
  · cases stepped
  next o phase =>
    cases stepped
    exact inv.flushing phase
  next o phase =>
    split at stepped
    next free =>
      cases stepped
      refine inv.goes_on free (inv.applied (by simp [phase])) ?_ (by simp) (by simp)
      rintro (loads | ⟨_, other⟩ | ⟨_, _, other⟩)
      · exact inv.untouched (.inl loads)
      · cases other
      · cases other
    · cases stepped
  next o phase =>
    have free := inv.free (by simp [phase]) (by simp [phase])
    split at stepped
    next loads =>
      cases stepped
      have untouched := inv.untouched (.inl loads)
      exact ⟨inv.remembers.congr rfl rfl, inv.jobs, inv.pending, inv.file, fun _ _ => free,
        fun _ => untouched.applied,
        fun _ => ⟨untouched.previous, untouched.evidence, untouched.pending, untouched.waiting,
          untouched.storing, untouched.applied, untouched.current⟩,
        fun _ _ there => (by cases there), fun _ _ _ there => (by cases there), fun _ _ => rfl⟩
    next loads =>
      cases stepped
      refine inv.goes_on free (inv.applied (by simp [phase])) ?_ (by simp)
        (fun _ => by simpa using loads)
      rintro (loads' | ⟨_, other⟩ | ⟨_, _, other⟩)
      · exact absurd loads' loads
      · cases other
      · cases other
  next o phase =>
    have free := inv.free (by simp [phase]) (by simp [phase])
    have untouched := inv.untouched (.inr (.inl ⟨o, phase⟩))
    split at stepped
    · cases stepped
      refine inv.goes_on free (inv.applied (by simp [phase])) (fun _ => untouched) ?_
        (fun _ => inv.loading o phase)
      intro other checkpoint same stored there
      cases same
      cases unreadable with
      | true => cases there
      | false => exact inv.stored untouched.current there
    · cases stepped
  next o shouldLoad checkpoint phase =>
    cases stepped
    exact inv.apply phase
  next phase =>
    split at stepped
    next free =>
      cases stepped
      exact inv.complete free
    · cases stepped

theorem Inv.step {s t : Deadlines} {e : DeadlineEvent} (inv : s.Inv) (careful : s.Careful e)
    (stepped : Deadlines.step s e t) : t.Inv := by
  cases e with
  | observe o =>
    simp only [Deadlines.step, next] at stepped
    split at stepped
    next idle =>
      cases stepped
      have free := inv.free (by simp [idle]) (by simp [idle])
      have unapplied := inv.applied (by simp [idle])
      refine ⟨inv.remembers, inv.jobs, inv.pending, inv.file, fun _ _ => free,
        fun _ => unapplied, fun fresh => ?_, fun o checkpoint there => (by cases there),
        fun _ _ _ there => (by cases there), fun _ there => (by cases there)⟩
      rcases fresh with loads | ⟨_, phase⟩ | ⟨_, _, phase⟩
      · exact (inv.untouched (.inl loads)).same
      · cases phase
      · cases phase
    · cases stepped
  | advance unreadable => exact inv.advance stepped
  | snapshot now =>
    cases stepped
    exact inv.snapshot now
  | flushPendingInvalidation =>
    cases stepped
    exact inv.flush
  | enter index =>
    simp only [Deadlines.step, next] at stepped
    split at stepped
    next holder update unheld waits =>
      cases stepped
      exact inv.enter unheld waits
    · cases stepped
  | store fails => exact inv.store stepped
  | die =>
    cases stepped
    refine ⟨remembers_nothing rfl rfl, ?_, fun update there => (by cases there), inv.file,
      fun _ _ => rfl, fun _ => rfl, fun _ => ⟨rfl, rfl, rfl, rfl, rfl, rfl, careful⟩,
      fun o checkpoint there => (by cases there), fun _ _ _ there => (by cases there),
      fun _ there => (by cases there)⟩
    intro holder update checkpoint owed
    simp [Owes, Process.new] at owed

end Deadlines

/-- As long as no process dies with a stale checkpoint, every OFF edge that a snapshot shows is
one of the observations, continued by all that followed it. -/
theorem Deadlines.sound_of_careful (es : List DeadlineEvent) (t : Deadlines)
    (run : Run step Careful start es t) : t.Sound :=
  (run.invariant Inv (fun _ _ _ inv careful stepped => inv.step careful stepped) inv_start).sound

def seen (elapsed : ℤ) (on : Bool) : Observation where
  boot := { bootId := some "00000000-0000-0000-0000-000000000000", bootCount := some 1 }
  startedElapsedMillis := elapsed
  finishedElapsedMillis := elapsed
  ignitionOn := some on
  windowSeconds := some 300

-- The calls of `observe` up to the edge that is stored, and after a restart the next one.
def storing : List DeadlineEvent :=
  .observe (seen 1000 true) :: List.replicate 5 (.advance false) ++
    [.enter 0, .store false, .store false, .store false, .advance false] ++
    .observe (seen 2000 false) :: List.replicate 4 (.advance false) ++
    [.enter 0, .store false, .store false, .advance false]

def reloading : List DeadlineEvent :=
  .die :: .observe (seen 8000 false) :: List.replicate 5 (.advance false)

theorem Deadlines.sound_of_careful_reloading :
    ∃ last, Continues [seen 1000 true, seen 2000 false, seen 8000 false]
      { lower := 1000, upper := 2000, window := 300 } last := by
  have traced : ∃ t, trace next Careful start (storing ++ reloading) = some t ∧
      t.history = [seen 1000 true, seen 2000 false, seen 8000 false] ∧
      (t.process.tracker.snapshot 8000).2 = some {
        boot := (seen 8000 false).boot
        observedElapsedMillis := 8000
        ignitionOn := false
        edge := some { lower := 1000, upper := 2000, window := 300 } } := by
    refine ⟨(trace next Careful start (storing ++ reloading)).getD start, ?_, ?_, ?_⟩ <;>
      decide +kernel
  obtain ⟨t, traced, history, shown⟩ := traced
  obtain ⟨last, continues, _⟩ :=
    (sound_of_careful _ t (run_of_trace next Careful traced) 8000 _ shown).2 _ rfl
  exact ⟨last, history ▸ continues⟩

theorem Continues.off {log : List Observation} {edge : OffEdge} {last : Sample}
    (continues : Continues log edge last) : last.on = false := by
  cases continues with
  | edge _ _ _ _ ended => exact ended
  | next _ _ off => exact off

theorem Continues.lower_eq {log before : List Observation} {edge : OffEdge} {last first : Sample}
    {on o : Observation} (continues : Continues log edge last) (ends : log = before ++ [on, o])
    (was : on.sample = some first) (started : first.on = true) : edge.lower = first.started := by
  cases continues with
  | edge earlier was' =>
    obtain ⟨_, same⟩ := List.append_inj' ends rfl
    obtain ⟨rfl, _⟩ := List.cons.inj same
    rw [was] at was'
    cases was'
    rfl
  | @next earlier _ sample _ _ row =>
    have split_ : before ++ [on, o] = (before ++ [on]) ++ [o] := by simp
    rw [split_] at ends
    obtain ⟨rfl, _⟩ := List.append_inj' ends rfl
    obtain ⟨_, p, same, accepted⟩ := row.last
    obtain ⟨_, last_⟩ := List.append_inj' same rfl
    obtain rfl : on = p := (List.cons.inj last_).1
    rw [was] at accepted
    cases accepted
    rw [row.off] at started
    cases started

/-- A snapshot whose clock was read before the last observation ended invalidates it between the
flush and the lock of the next one, an ON observation whose own invalidation then is a duplicate;
the old checkpoint outlives the process. -/
theorem Deadlines.not_always_sound :
    ¬∀ (es : List DeadlineEvent) (t : Deadlines), Run step anyStep start es t → t.Sound := by
  intro sound
  have traced : ∃ t, trace next anyStep start (storing ++ [.observe (seen 5000 true),
      .advance false, .snapshot 1500] ++ List.replicate 4 (.advance false) ++ reloading) =
        some t ∧
      t.history = [seen 1000 true, seen 2000 false] ++ [seen 5000 true, seen 8000 false] ∧
      (t.process.tracker.snapshot 8000).2 = some {
        boot := (seen 8000 false).boot
        observedElapsedMillis := 8000
        ignitionOn := false
        edge := some { lower := 1000, upper := 2000, window := 300 } } := by
    refine ⟨(trace next anyStep start (storing ++ [.observe (seen 5000 true),
      .advance false, .snapshot 1500] ++ List.replicate 4 (.advance false) ++
        reloading)).getD start, ?_, ?_, ?_⟩ <;> decide +kernel
  obtain ⟨t, traced, history, shown⟩ := traced
  obtain ⟨last, continues, _⟩ :=
    (sound _ t (run_of_trace next anyStep traced) 8000 _ shown).2 _ rfl
  have lower := continues.lower_eq history rfl rfl
  cases lower

end DashcamStats.Sleep
