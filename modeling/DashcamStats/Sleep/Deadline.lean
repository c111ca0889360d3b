import Mathlib.Algebra.Group.Int.Defs
import DashcamStats.Library.Run

namespace DashcamStats.Sleep

def observationMaxAgeMs : ℤ := 15000
def captureMaxMs : ℤ := 6000

-- A `Long` keeps the lowest 64 bits.
def wrapLong (n : ℤ) : ℤ := (n + 2 ^ 63) % 2 ^ 64 - 2 ^ 63

structure SleepBootIdentity where
  bootId : Option String
  bootCount : Option ℤ
deriving DecidableEq, Repr

def SleepBootIdentity.valid (boot : SleepBootIdentity) : Bool :=
  boot.bootId.isSome || boot.bootCount.isSome

-- `[0-9a-f]{8}(?:-[0-9a-f]{4}){3}-[0-9a-f]{12}`
def isBootId (text : String) : Bool :=
  text.toList.length = 36 && text.toList.zipIdx.all fun (char, index) =>
    if index = 8 ∨ index = 13 ∨ index = 18 ∨ index = 23 then char = '-'
    else char.isDigit || ('a'.toNat ≤ char.toNat && char.toNat ≤ 'f'.toNat)

structure OffEdge where
  lower : ℤ
  upper : ℤ
  window : ℤ
deriving DecidableEq, Repr

def OffEdge.expired (edge : OffEdge) (finished : ℤ) : Bool :=
  decide (wrapLong (edge.lower + edge.window * 1000) ≤ finished)

structure Sample where
  boot : SleepBootIdentity
  started : ℤ
  finished : ℤ
  on : Bool
  window : ℤ
deriving DecidableEq, Repr

structure SleepDeadlineEvidence where
  boot : SleepBootIdentity
  observedElapsedMillis : ℤ
  ignitionOn : Bool
  edge : Option OffEdge
deriving DecidableEq, Repr

structure SleepDeadlineCheckpoint where
  sample : Sample
  edge : Option OffEdge
deriving DecidableEq, Repr

-- The part of `valid` about the observation.
def Sample.storable (sample : Sample) : Bool :=
  sample.boot.bootId.any isBootId && sample.boot.bootCount.all (0 ≤ ·) &&
    decide (0 ≤ sample.started ∧ sample.started ≤ sample.finished ∧
      sample.finished - sample.started ≤ captureMaxMs ∧
      1 ≤ sample.window ∧ sample.window ≤ 3600)

def SleepDeadlineCheckpoint.valid (checkpoint : SleepDeadlineCheckpoint) : Bool :=
  checkpoint.sample.storable &&
    match checkpoint.edge with
    | none => false
    | some edge =>
      !checkpoint.sample.on &&
        decide (0 ≤ edge.lower ∧ edge.lower ≤ edge.upper ∧
          edge.upper ≤ checkpoint.sample.finished ∧
          edge.upper - edge.lower ≤ observationMaxAgeMs + captureMaxMs ∧
          1 ≤ edge.window ∧ edge.window ≤ 3600 ∧
          edge.lower ≤ 2 ^ 63 - 1 - edge.window * 1000 ∧
          checkpoint.sample.finished < edge.lower + edge.window * 1000)

def SleepDeadlineCheckpoint.evidence (checkpoint : SleepDeadlineCheckpoint) :
    SleepDeadlineEvidence where
  boot := checkpoint.sample.boot
  observedElapsedMillis := checkpoint.sample.finished
  ignitionOn := checkpoint.sample.on
  edge := checkpoint.edge

/-- The arguments of `observe`. -/
structure Observation where
  boot : SleepBootIdentity
  startedElapsedMillis : ℤ
  finishedElapsedMillis : ℤ
  ignitionOn : Option Bool
  windowSeconds : Option ℤ
deriving DecidableEq, Repr

def Observation.sample (o : Observation) : Option Sample :=
  match o.ignitionOn, o.windowSeconds with
  | some on, some window =>
    if o.boot.valid ∧ 0 ≤ o.startedElapsedMillis ∧
        o.startedElapsedMillis ≤ o.finishedElapsedMillis ∧
        o.finishedElapsedMillis - o.startedElapsedMillis ≤ captureMaxMs ∧
        1 ≤ window ∧ window ≤ 3600 then
      some {
        boot := o.boot
        started := o.startedElapsedMillis
        finished := o.finishedElapsedMillis
        on := on
        window := window }
    else none
  | _, _ => none

structure Persistence where
  generation : ℕ
  checkpoint : Option SleepDeadlineCheckpoint
deriving DecidableEq, Repr

structure SleepDeadlineTracker where
  previous : Option Sample
  evidence : Option SleepDeadlineEvidence
  loadCheckpoint : Bool
  generation : ℕ
  persistenceRequested : Bool
  lastQueuedCheckpoint : Option SleepDeadlineCheckpoint
  pendingSnapshotInvalidation : Option Persistence
deriving DecidableEq, Repr

def Sample.follows (sample before : Sample) : Bool :=
  decide (before.boot = sample.boot ∧ before.finished ≤ sample.started ∧
    sample.finished - before.finished ≤ observationMaxAgeMs)

def SleepDeadlineCheckpoint.admits (checkpoint : SleepDeadlineCheckpoint) (sample : Sample) :
    Bool :=
  checkpoint.valid && sample.follows checkpoint.sample &&
    decide (sample.window = checkpoint.sample.window) &&
    checkpoint.edge.all fun edge => !edge.expired sample.finished

namespace SleepDeadlineTracker

def new : SleepDeadlineTracker where
  previous := none
  evidence := none
  loadCheckpoint := true
  generation := 0
  persistenceRequested := false
  lastQueuedCheckpoint := none
  pendingSnapshotInvalidation := none

def queuePersistence (t : SleepDeadlineTracker) (checkpoint : Option SleepDeadlineCheckpoint) :
    SleepDeadlineTracker × Option Persistence :=
  if t.persistenceRequested ∧ checkpoint = t.lastQueuedCheckpoint then (t, none)
  else
    ({ t with
        persistenceRequested := true
        lastQueuedCheckpoint := checkpoint
        generation := t.generation + 1 },
      some { generation := t.generation + 1, checkpoint })

def invalidate (t : SleepDeadlineTracker) : SleepDeadlineTracker × Option Persistence :=
  queuePersistence { t with loadCheckpoint := false, previous := none, evidence := none } none

def load (t : SleepDeadlineTracker) (sample : Sample)
    (checkpoint : Option SleepDeadlineCheckpoint) : SleepDeadlineTracker × Option Persistence :=
  match checkpoint.filter (·.admits sample) with
  | some stored => ({ t with previous := some stored.sample, evidence := some stored.evidence }, none)
  | none => t.invalidate

def edgeAfter (t : SleepDeadlineTracker) (sample : Sample) : Option OffEdge :=
  let old := t.previous.filter sample.follows
  let edge :=
    if sample.on then none
    else
      match old with
      | none => none
      | some before =>
        if before.on then
          some {
            lower := before.started
            upper := sample.finished
            window := min before.window sample.window }
        else t.evidence.bind SleepDeadlineEvidence.edge
  edge.filter fun edge => !edge.expired sample.finished

def observeLocked (t : SleepDeadlineTracker) (o : Observation) (shouldLoad : Bool)
    (checkpoint : Option SleepDeadlineCheckpoint) : SleepDeadlineTracker × Option Persistence :=
  match o.sample with
  | none => t.invalidate
  | some sample =>
    let (t, invalidation) := if shouldLoad then t.load sample checkpoint else (t, none)
    let edge := t.edgeAfter sample
    let next := { t with
      evidence := some {
        boot := sample.boot
        observedElapsedMillis := sample.finished
        ignitionOn := sample.on
        edge := edge }
      previous := some sample }
    let (queued, update) := next.queuePersistence
      (if sample.boot.bootId.isSome ∧ edge.isSome then some { sample, edge } else none)
    (queued, update.or invalidation)

def snapshot (t : SleepDeadlineTracker) (nowElapsedMillis : ℤ) :
    SleepDeadlineTracker × Option SleepDeadlineEvidence :=
  match t.previous with
  | none => (t, none)
  | some last =>
    if nowElapsedMillis < last.finished ∨
        observationMaxAgeMs < nowElapsedMillis - last.finished then
      let (invalid, invalidation) := t.invalidate
      ({ invalid with pendingSnapshotInvalidation := invalidation }, invalid.evidence)
    else (t, t.evidence)

end SleepDeadlineTracker

inductive Holder where
  | observer | flusher
deriving DecidableEq, Repr

/-- What `persist` does next under the store lock. -/
inductive Storing where
  | checking (update : Persistence)
  | writing (update : Persistence)
  -- An invalidation has removed the files and commits its tombstone.
  | entombing (update : Persistence)
  -- The write has failed and removes the files.
  | removing (update : Persistence)
  | failing (update : Persistence)
  -- The second attempt to revoke.
  | revoking
deriving DecidableEq, Repr

/-- What `observe` does next. -/
inductive Observing where
  | idle
  | flushing (o : Observation)
  -- It waits for its first `persist`.
  | flushed (o : Observation)
  | loading (o : Observation)
  | reading (o : Observation)
  | applying (o : Observation) (shouldLoad : Bool)
      (checkpoint : Option SleepDeadlineCheckpoint)
  | persisting
deriving DecidableEq, Repr

structure Process where
  tracker : SleepDeadlineTracker
  observing : Observing
  -- Writes whose thread waits for the store lock.
  waiting : List (Holder × Persistence)
  storing : Option (Holder × Storing)
deriving DecidableEq, Repr

def Process.new : Process where
  tracker := .new
  observing := .idle
  waiting := []
  storing := none

structure Deadlines where
  process : Process
  -- What a new process would read.
  file : Option SleepDeadlineCheckpoint
  -- History: the observations whose call has completed or whose checkpoint is stored.
  log : List Observation
  -- History: an observation that is in force and not in the log.
  applied : Option Observation
  -- History: the length of the log when the checkpoint was stored.
  storedAt : ℕ
deriving DecidableEq, Repr

inductive DeadlineEvent where
  | observe (o : Observation)
  -- The observer goes on; what it reads of the store may be unreadable.
  | advance (unreadable : Bool)
  | snapshot (nowElapsedMillis : ℤ)
  | flushPendingInvalidation
  -- A waiting write enters the store lock.
  | enter (index : ℕ)
  -- The write goes on; its next file operation may fail.
  | store (fails : Bool)
  | die
deriving DecidableEq, Repr

namespace Process

-- A thread hands its update to `persist`; without one it is done at once.
def persist (p : Process) (holder : Holder) (update : Option Persistence) : Process :=
  { p with waiting := p.waiting ++ (update.map fun u => (holder, u)).toList }

-- `flushPendingInvalidation` up to its `persist`.
def flush (p : Process) (holder : Holder) : Process :=
  let taken := { p with tracker := { p.tracker with pendingSnapshotInvalidation := none } }
  taken.persist holder p.tracker.pendingSnapshotInvalidation

def free (p : Process) : Bool :=
  p.waiting.all (fun job => job.1 ≠ .observer) && p.storing.all fun job => job.1 ≠ .observer

end Process

namespace Deadlines

def start : Deadlines where
  process := .new
  file := none
  log := []
  applied := none
  storedAt := 0

def advance (s : Deadlines) (unreadable : Bool) : Option Deadlines :=
  let p := s.process
  match p.observing with
  | .idle => none
  | .flushing o => some { s with process := { p.flush .observer with observing := .flushed o } }
  | .flushed o =>
    if p.free then some { s with process := { p with observing := .loading o } } else none
  | .loading o =>
    if p.tracker.loadCheckpoint then
      some { s with process := { p with
        tracker := { p.tracker with loadCheckpoint := false }
        observing := .reading o } }
    else some { s with process := { p with observing := .applying o false none } }
  | .reading o =>
    if p.storing.isNone then
      some { s with process := { p with
        observing := .applying o true (if unreadable then none else s.file) } }
    else none
  | .applying o shouldLoad checkpoint =>
    let (tracker, update) := p.tracker.observeLocked o shouldLoad checkpoint
    some { s with
      process := { p with tracker, observing := .persisting }.persist .observer update
      applied := some o }
  | .persisting =>
    if p.free then
      some { s with
        process := { p with observing := .idle }
        log := s.log ++ s.applied.toList
        applied := none }
    else none

def commit (s : Deadlines) (checkpoint : SleepDeadlineCheckpoint) : Deadlines :=
  { s with
    process := { s.process with storing := none }
    file := some checkpoint
    log := s.log ++ s.applied.toList
    applied := none
    storedAt := (s.log ++ s.applied.toList).length }

def goto (s : Deadlines) (holder : Holder) (storing : Storing) : Deadlines :=
  { s with process := { s.process with storing := some (holder, storing) } }

def release (s : Deadlines) : Deadlines :=
  { s with process := { s.process with storing := none } }

def store (s : Deadlines) (fails : Bool) : Option Deadlines :=
  match s.process.storing with
  | none => none
  | some (holder, .checking update) =>
    some (if s.process.tracker.generation = update.generation then s.goto holder (.writing update)
      else s.release)
  | some (holder, .writing update) =>
    some (match update.checkpoint with
      | none => { s with file := none }.goto holder (.entombing update)
      | some checkpoint =>
        if !checkpoint.valid then s.goto holder (.failing update)
        else if fails then s.goto holder (.removing update)
        else s.commit checkpoint)
  | some (holder, .entombing update) =>
    some (if fails then s.goto holder (.removing update) else s.release)
  | some (holder, .removing update) => some ({ s with file := none }.goto holder (.failing update))
  | some (holder, .failing update) =>
    let s := if s.process.tracker.generation = update.generation then
        { s with process := { s.process with tracker := s.process.tracker.invalidate.1 } }
      else s
    some (s.goto holder .revoking)
  | some (_, .revoking) => some { s with file := none }.release

def next (s : Deadlines) : DeadlineEvent → Option Deadlines
  | .observe o =>
    if s.process.observing = .idle then
      some { s with process := { s.process with observing := .flushing o } }
    else none
  | .advance unreadable => s.advance unreadable
  | .snapshot now =>
    some { s with process := { s.process with tracker := (s.process.tracker.snapshot now).1 } }
  | .flushPendingInvalidation => some { s with process := s.process.flush .flusher }
  | .enter index =>
    match s.process.storing, s.process.waiting[index]? with
    | none, some (holder, update) =>
      some { s with process := { s.process with
        waiting := s.process.waiting.eraseIdx index
        storing := some (holder, .checking update) } }
    | _, _ => none
  | .store fails => s.store fails
  | .die => some { s with process := .new, applied := none }

def step (s : Deadlines) (e : DeadlineEvent) (t : Deadlines) : Prop := s.next e = some t

end Deadlines

end DashcamStats.Sleep
