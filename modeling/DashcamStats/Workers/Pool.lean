import DashcamStats.Queue.Reset

namespace DashcamStats.Workers

open DashcamStats.Queue

/-- A value of `_active`. -/
structure ActiveJob where
  jobId : JobId
  recordingId : Option RecordingId
  cancelled : Bool
  deriving DecidableEq

def ActiveJob.flagged (a : ActiveJob) : ActiveJob := { a with cancelled := true }

@[simp] theorem ActiveJob.flagged_jobId (a : ActiveJob) : a.flagged.jobId = a.jobId := rfl

@[simp] theorem ActiveJob.flagged_recordingId (a : ActiveJob) :
    a.flagged.recordingId = a.recordingId := rfl

structure Claimed where
  jobId : JobId
  recordingId : Option RecordingId
  deriving DecidableEq

/-- How far the task of a run has come. `closing` is its `finally` block. -/
inductive RunPhase where
  | created
  | working
  | recording
  | outcome
  | closing
  deriving DecidableEq

/-- A worker loop. A worker that claims keeps the recordings it saw in `_active` and the workers
whose runs had already ended then. A worker whose run has ended is `waking` until the event loop
resumes it. -/
inductive Worker where
  | idle
  | waiting
  | claiming (seen : List RecordingId) (owed : Nat → Prop)
  | claimed (run : Claimed)
  | running (run : Claimed) (phase : RunPhase)
  | waking (run : Claimed)

def Worker.held : Worker → Option Claimed
  | .claimed run | .running run _ | .waking run => some run
  | .idle | .waiting | .claiming _ _ => none

def Worker.inFlight : Worker → Option Claimed
  | .running run _ => some run
  | _ => none

def Worker.isWaking : Worker → Prop
  | .waking _ => True
  | _ => False

inductive Holder where
  | worker (w : Nat)
  | outcome (w : Nat)
  | reset
  deriving DecidableEq

def Worker.holds (w : Nat) : Worker → Option Holder
  | .claiming _ _ | .claimed _ => some (.worker w)
  | .running _ .outcome => some (.outcome w)
  | _ => none

/-- `reset_and_rebuild`; `aborting` waits for the runs of these entries. -/
inductive ResetTask where
  | idle
  | entered
  | cleared
  | aborting (interrupted : List ActiveJob)
  | committing

structure Pool where
  db : Db
  active : Table ActiveJob ActiveJob.jobId
  barrier : Option Holder
  workers : Nat → Worker
  reset : ResetTask

namespace Pool

def set (p : Pool) (w : Nat) (worker : Worker) : Pool :=
  { p with workers := Function.update p.workers w worker }

-- `active_recording_ids`
def activeRecordings (p : Pool) : List RecordingId := p.active.rows.filterMap ActiveJob.recordingId

def markCancelled (p : Pool) (job : JobId) : Pool :=
  { p with
    active := p.active.update (fun a => a.jobId = job) ActiveJob.flagged ActiveJob.flagged_jobId }

def markAllCancelled (p : Pool) : Pool :=
  { p with
    active := p.active.update (fun _ => true) ActiveJob.flagged ActiveJob.flagged_jobId }

-- `self._active.get(job_id) or ActiveJob(job_id, recording_id, filename)`
def entry (p : Pool) (run : Claimed) : ActiveJob :=
  (p.active.find? run.jobId).getD ⟨run.jobId, run.recordingId, false⟩

end Pool

inductive Event where
  | call (call : Call)
  | askBarrier (w : Nat)
  | enter (w : Nat)
  | claim (w : Nat) (now : Time) (workerId : String) (job : Job)
  | leave (w : Nat)
  | register (w : Nat)
  | begin (w : Nat)
  | heartbeat (w : Nat) (call : Call)
  | finishWork (w : Nat)
  | interrupt (w : Nat)
  | enterOutcome (w : Nat)
  | recordOutcome (w : Nat) (call : Option Call)
  | endRun (w : Nat)
  | wake (w : Nat)
  | resetEnter
  | resetClear (now : Time)
  | resetAbort
  | resetRaise
  | resetStopped
  | resetCommit (inputs : ResetInputs)

variable (settings : Settings)

def applyCall (call : Call) (db : Db) : Db :=
  call.op.apply settings call.now db

-- The calls that are not made by a worker for itself: `claim_next` has one caller.
def outside (call : Call) : Prop :=
  ∀ workerId active job, call.op ≠ .claimNext workerId active job

def outcomeOf (call : Call) (job : JobId) : Prop :=
  (∃ result speed decoder device, call.op = .complete job result speed decoder device) ∨
    ∃ message permanent transient, call.op = .fail job message permanent transient

inductive Step : Pool → Event → Pool → Prop
  | call {p : Pool} {call : Call} (other : outside call) :
      Step p (.call call) { p with db := applyCall settings call p.db }
  | askBarrier {p : Pool} {w : Nat} (idle : p.workers w = .idle) :
      Step p (.askBarrier w) (p.set w .waiting)
  | enter {p : Pool} {w : Nat} (waiting : p.workers w = .waiting) (free : p.barrier = none) :
      Step p (.enter w) { p.set w (.claiming p.activeRecordings fun v => (p.workers v).isWaking) with
        barrier := some (.worker w) }
  /-- The claim's transaction takes the loop at least one turn, so every worker whose run had ended
  when the claim began has been resumed by then. -/
  | claim {p : Pool} {w : Nat} {seen : List RecordingId} {owed : Nat → Prop} {now : Time}
      {workerId : String} {job : Job} (claiming : p.workers w = .claiming seen owed)
      (resumed : ∀ v, owed v → ¬ (p.workers v).isWaking) (stored : job ∈ p.db.jobs)
      (next : isNext now seen p.db job) :
      Step p (.claim w now workerId job) { p.set w (.claimed ⟨job.id, job.recordingId⟩) with
        db := applyCall settings ⟨now, .claimNext workerId seen job.id⟩ p.db }
  -- Nothing to claim, or the claim raised.
  | leave {p : Pool} {w : Nat} (inside : (p.workers w).holds w = some (.worker w)) :
      Step p (.leave w) { p.set w .idle with barrier := none }
  | register {p : Pool} {w : Nat} {run : Claimed} (claimed : p.workers w = .claimed run) :
      Step p (.register w) { p.set w (.running run .created) with
        active := p.active.put ⟨run.jobId, run.recordingId, false⟩
        barrier := none }
  | begin {p : Pool} {w : Nat} {run : Claimed} (created : p.workers w = .running run .created) :
      Step p (.begin w) { p.set w (.running run .working) with
        active := p.active.put (p.entry run) }
  | heartbeat {p : Pool} {w : Nat} {run : Claimed} {phase : RunPhase} {call : Call}
      {progress speed : Option Rat} {stage decoder device resource : Option String}
      (running : p.workers w = .running run phase)
      (beat : call.op = .heartbeat run.jobId progress stage speed decoder device resource) :
      Step p (.heartbeat w call)
        (if (heartbeat call.now run.jobId progress stage speed decoder device resource p.db).2 =
            some .cancelled
          then { p.markCancelled run.jobId with db := applyCall settings call p.db }
          else { p with db := applyCall settings call p.db })
  | finishWork {p : Pool} {w : Nat} {run : Claimed}
      (working : p.workers w = .running run .working) :
      Step p (.finishWork w) (p.set w (.running run .recording))
  -- A cancellation before the task's first step ends it at once.
  | interruptNew {p : Pool} {w : Nat} {run : Claimed}
      (created : p.workers w = .running run .created) :
      Step p (.interrupt w) (p.set w (.waking run))
  -- A cancellation, or an outcome that was given up.
  | interrupt {p : Pool} {w : Nat} {run : Claimed} {phase : RunPhase}
      (running : p.workers w = .running run phase) (begun : phase ≠ .created) :
      Step p (.interrupt w) { p.set w (.running run .closing) with
        barrier := if phase = .outcome then none else p.barrier }
  | enterOutcome {p : Pool} {w : Nat} {run : Claimed}
      (recording : p.workers w = .running run .recording) (free : p.barrier = none) :
      Step p (.enterOutcome w) { p.set w (.running run .outcome) with
        barrier := some (.outcome w) }
  | recordOutcome {p : Pool} {w : Nat} {run : Claimed} {call : Option Call}
      (outcome : p.workers w = .running run .outcome)
      (own : ∀ c ∈ call, outcomeOf c run.jobId) :
      Step p (.recordOutcome w call) { p.set w (.running run .closing) with
        db := (call.map fun c => applyCall settings c p.db).getD p.db
        barrier := none }
  | endRun {p : Pool} {w : Nat} {run : Claimed} (closing : p.workers w = .running run .closing) :
      Step p (.endRun w) { p.set w (.waking run) with active := p.active.erase run.jobId }
  | wake {p : Pool} {w : Nat} {run : Claimed} (waking : p.workers w = .waking run) :
      Step p (.wake w) { p.set w .idle with active := p.active.erase run.jobId }
  | resetEnter {p : Pool} (idle : p.reset = .idle) (free : p.barrier = none) :
      Step p .resetEnter { p with barrier := some .reset, reset := .entered }
  | resetClear {p : Pool} {now : Time} (entered : p.reset = .entered) :
      Step p (.resetClear now) { p with
        db := applyCall settings ⟨now, .clear resetReason⟩ p.db
        reset := .cleared }
  | resetAbort {p : Pool} (cleared : p.reset = .cleared) :
      Step p .resetAbort { p.markAllCancelled with reset := .aborting p.active.rows }
  -- `ProcessingStillRunningError`
  | resetRaise {p : Pool} {interrupted : List ActiveJob}
      (aborting : p.reset = .aborting interrupted) :
      Step p .resetRaise { p with barrier := none, reset := .idle }
  | resetStopped {p : Pool} {interrupted : List ActiveJob}
      (aborting : p.reset = .aborting interrupted)
      (stopped : ∀ w, ∀ run ∈ (p.workers w).inFlight, run.jobId ∉ interrupted.map ActiveJob.jobId) :
      Step p .resetStopped { p with barrier := none, reset := .committing }
  -- The caller commits the rebuilt queue, after the barrier has been left.
  | resetCommit {p : Pool} {inputs : ResetInputs} (committing : p.reset = .committing) :
      Step p (.resetCommit inputs) { p with
        db := (releaseStrandedRecordings (rebuild settings inputs p.db)).1
        reset := .idle }

end DashcamStats.Workers
