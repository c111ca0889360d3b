import DashcamStats.Queue.Operations

namespace DashcamStats.Queue

-- The states `clear` retires.
def Job.retired (j : Job) : Prop := j.state = .queued ∨ j.state = .running ∨ j.state = .failed

instance (j : Job) : Decidable j.retired := inferInstanceAs (Decidable (_ ∨ _))

def countState (s : JobState) (db : Db) : Nat := db.jobs.rows.countP fun j => j.state = s

def clearedCounts (db : Db) : List (JobState × Nat) :=
  ([.queued, .running, .failed].map fun s => (s, countState s db)).filter fun c => c.2 ≠ 0

def clearRow (now : Time) (reason : String) (j : Job) : Job :=
  { j with
    state := .cancelled
    finishedAt := some now
    workerId := none
    progress := 0
    stageCurrent := none
    resourceState := none
    notBefore := none
    heartbeatAt := none
    errorMessage := some reason }

def clear (now : Time) (reason : String) (db : Db) : Db × List (JobState × Nat) :=
  (db.updateJobs Job.retired (clearRow now reason) (fun _ => rfl), clearedCounts db)

def Db.otherLive (db : Db) (job : Job) (r : RecordingId) : Prop :=
  ∃ k ∈ db.jobs.rows, k.recordingId = some r ∧ k.id ≠ job.id ∧ k.live

instance (db : Db) (job : Job) (r : RecordingId) : Decidable (db.otherLive job r) :=
  inferInstanceAs (Decidable (∃ k ∈ db.jobs.rows, _))

def settleCancelled (r : RecordingId) (db : Db) : Db :=
  db.updateRecordings
    (fun rec => rec.id = r ∧ (rec.state = .queued ∨ rec.state = .processing))
    (fun rec => { rec with state := .failed, errorMessage := some "processing was cancelled" })
    (fun _ => rfl)

def cancelRow (now : Time) (j : Job) : Job :=
  { j with state := .cancelled, finishedAt := some now, workerId := none }

def cancel (now : Time) (jobId : JobId) (db : Db) : Db × Bool :=
  match db.jobs.find? jobId with
  | none => (db, false)
  | some job =>
    if ¬ job.live then (db, false)
    else
      let stopped := db.updateJobs (fun j => j.id = jobId) (cancelRow now) (fun _ => rfl)
      match job.recordingId with
      | none => (stopped, true)
      | some r => (if stopped.otherLive job r then stopped else settleCancelled r stopped, true)

namespace Db

def hasLive (db : Db) (r : RecordingId) : Prop :=
  ∃ k ∈ db.jobs.rows, k.live ∧ k.recordingId = some r

def newerFailure (db : Db) (r : RecordingId) (job : Job) : Prop :=
  ∃ k ∈ db.jobs.rows, k.state = .failed ∧ k.recordingId = some r ∧ job.id < k.id

instance (db : Db) (r : RecordingId) : Decidable (db.hasLive r) :=
  inferInstanceAs (Decidable (∃ k ∈ db.jobs.rows, _))

instance (db : Db) (r : RecordingId) (job : Job) : Decidable (db.newerFailure r job) :=
  inferInstanceAs (Decidable (∃ k ∈ db.jobs.rows, _))

end Db

def retryable (db : Db) (j : Job) : Prop :=
  j.state = .failed ∧
    ∀ r ∈ j.recordingId, ¬ db.hasLive r ∧ ¬ db.newerFailure r j ∧ db.visible r

instance (db : Db) (j : Job) : Decidable (retryable db j) :=
  inferInstanceAs (Decidable (_ ∧ ∀ r ∈ j.recordingId, _))

def retryRow (j : Job) : Job :=
  { j with
    state := .queued
    attempts := 0
    notBefore := none
    errorMessage := none
    workerId := none
    finishedAt := none
    result := .jsonNull }

def retryFailed (db : Db) : Db × Nat :=
  (db.updateJobs (retryable db) retryRow (fun _ => rfl), db.jobs.rows.countP fun j => retryable db j)

def returnRecordings (ids : List RecordingId) (db : Db) : Db :=
  if ids.isEmpty then db
  else
    db.updateRecordings (fun rec => rec.id ∈ ids ∧ rec.state = .processing)
      Recording.requeued Recording.requeued_id

def stale (settings : Settings) (now : Time) (j : Job) : Prop :=
  j.state = .running ∧ ∀ t ∈ j.heartbeatAt, t < now - settings.jobHeartbeatTimeoutS

instance (settings : Settings) (now : Time) (j : Job) : Decidable (stale settings now j) :=
  inferInstanceAs (Decidable (_ ∧ ∀ t ∈ j.heartbeatAt, _))

def recordingsOf (p : Job → Prop) [DecidablePred p] (db : Db) : List RecordingId :=
  (db.jobs.rows.filter fun j => p j).filterMap Job.recordingId

def reclaimStaleRow (j : Job) : Job :=
  { j with state := .queued, workerId := none, progress := 0, stageCurrent := none }

def reclaimStale (settings : Settings) (now : Time) (db : Db) : Db × Nat :=
  let ids := recordingsOf (stale settings now) db
  let requeued := db.updateJobs (stale settings now) reclaimStaleRow (fun _ => rfl)
  (returnRecordings ids requeued, ids.length)

def reclaimInterruptedRow (j : Job) : Job :=
  { j with
    state := .queued
    workerId := none
    attempts := j.attempts - 1
    progress := 0
    stageCurrent := none
    resourceState := none
    notBefore := none
    startedAt := none
    heartbeatAt := none
    speedRealtime := none
    decoder := none
    inferenceDevice := none }

def reclaimInterrupted (db : Db) : Db × Nat :=
  let ids := recordingsOf (fun j => j.state = .running) db
  let requeued := db.updateJobs (fun j => j.state = .running) reclaimInterruptedRow (fun _ => rfl)
  (returnRecordings ids requeued, ids.length)

def Db.cancelledLast (db : Db) (r : RecordingId) : Prop :=
  ∃ j ∈ db.jobs.rows, j.state = .cancelled ∧ j.recordingId = some r ∧
    ∀ k ∈ db.jobs.rows, k.recordingId = some r → ¬ j.id < k.id

instance (db : Db) (r : RecordingId) : Decidable (db.cancelledLast r) :=
  inferInstanceAs (Decidable (∃ j ∈ db.jobs.rows, _ ∧ _ ∧ ∀ k ∈ db.jobs.rows, _))

def stranded (db : Db) (rec : Recording) : Prop :=
  (rec.state = .processing ∨ rec.state = .queued) ∧ ¬ db.hasLive rec.id ∧
    ¬ db.cancelledLast rec.id

instance (db : Db) (rec : Recording) : Decidable (stranded db rec) :=
  inferInstanceAs (Decidable (_ ∧ _))

def releaseStrandedRecordings (db : Db) : Db × Nat :=
  (db.updateRecordings (stranded db) (fun rec => { rec with state := .discovered })
    (fun _ => rfl), db.recordings.rows.countP fun rec => stranded db rec)

def lockMessage : String := "database is locked"
def probeMessage : String := "ffprobe produced no output for "

def legacyContention (j : Job) : Prop :=
  j.state = .failed ∧ j.result = .sqlNull ∧ ilikeContains lockMessage j.errorMessage

instance (j : Job) : Decidable (legacyContention j) := inferInstanceAs (Decidable (_ ∧ _))

def Db.newerKept (db : Db) (r : RecordingId) (job : Job) : Prop :=
  ∃ k ∈ db.jobs.rows, k.recordingId = some r ∧ job.id < k.id ∧ k.state ≠ .cancelled

instance (db : Db) (r : RecordingId) (job : Job) : Decidable (db.newerKept r job) :=
  inferInstanceAs (Decidable (∃ k ∈ db.jobs.rows, _))

-- `newer is not None`
def superseded (db : Db) (job : Job) : Prop := ∃ r ∈ job.recordingId, db.newerKept r job

-- `recording is not None and recording.ignored`
def blacklisted (db : Db) (job : Job) : Prop :=
  ∃ r ∈ job.recordingId, ∃ rec ∈ db.recordings.find? r, rec.ignored = true

instance (db : Db) (job : Job) : Decidable (superseded db job) :=
  inferInstanceAs (Decidable (∃ r ∈ job.recordingId, _))

instance (db : Db) (job : Job) : Decidable (blacklisted db job) :=
  inferInstanceAs (Decidable (∃ r ∈ job.recordingId, ∃ rec ∈ db.recordings.find? r, _))

def retireLegacyRow (newer : Prop) [Decidable newer] (j : Job) : Job :=
  { j with
    state := .cancelled
    workerId := none
    stageCurrent := none
    errorMessage := some
      (if newer then
        "superseded by a newer processing job after a historical database lock"
      else "recording was blacklisted after a historical database lock") }

def retireLegacy (db : Db) (job : Job) : Db :=
  (db.updateJobs (fun j => j.id = job.id) (retireLegacyRow (superseded db job))
    (fun _ => rfl)).updateRecordings
      (fun rec => some rec.id = job.recordingId ∧ ilikeContains lockMessage rec.errorMessage ∧
        (rec.state = .queued ∨ rec.state = .processing))
      Recording.errorCleared Recording.errorCleared_id

def requeueLegacyRow (j : Job) : Job :=
  { j with
    state := .queued
    attempts := 0
    progress := 0
    stageCurrent := none
    notBefore := none
    errorMessage := none
    workerId := none
    startedAt := none
    finishedAt := none }

def requeueLegacy (db : Db) (job : Job) : Db :=
  (db.updateJobs (fun j => j.id = job.id) requeueLegacyRow
    (fun _ => rfl)).updateRecordings (fun rec => some rec.id = job.recordingId)
      Recording.restarted Recording.restarted_id

def reconcileLegacyRow (acc : Db × Nat × Nat) (job : Job) : Db × Nat × Nat :=
  let (db, requeued, retired) := acc
  if superseded db job ∨ blacklisted db job then (retireLegacy db job, requeued, retired + 1)
  else (requeueLegacy db job, requeued + 1, retired)

-- `ORDER BY id DESC`
def newestFirst (jobs : List Job) : List Job := jobs.mergeSort fun a b => b.id ≤ a.id

-- Returns `(requeued, superseded)`.
def reconcileLegacyContentionFailures (db : Db) : Db × Nat × Nat :=
  (newestFirst (db.jobs.rows.filter fun j => legacyContention j)).foldl reconcileLegacyRow
    (db, 0, 0)

def misclassified (rec : Recording) : Prop :=
  rec.state = .invalid ∧ rec.fileMissing = false ∧ ilikePrefix probeMessage rec.errorMessage ∧
    (rec.probeJson.getD .empty).probeFailurePermanent ≠ some true

instance (rec : Recording) : Decidable (misclassified rec) := inferInstanceAs (Decidable (_ ∧ _))

def restoreProbe (probe : Probe) : Probe :=
  let policy := if probe.damagedPolicy = some true then none else probe.damagedPolicy
  if probe.sourceUnusable ≠ some true ∧ probe.warnings = [] then
    { probe with damagedPolicy := policy, sourceDamaged := none }
  else { probe with damagedPolicy := policy }

def restoreRecording (r : RecordingId) (db : Db) : Db :=
  db.updateRecordings (fun rec => rec.id = r)
    (fun rec => { rec with
      probeJson := some (restoreProbe (rec.probeJson.getD .empty))
      ignored := false
      state := .queued
      metadataState := .pending
      errorMessage := none })
    (fun _ => rfl)

def probeFailure (r : RecordingId) (j : Job) : Prop :=
  j.recordingId = some r ∧ j.state = .failed ∧ ilikePrefix probeMessage j.errorMessage

instance (r : RecordingId) (j : Job) : Decidable (probeFailure r j) :=
  inferInstanceAs (Decidable (_ ∧ _))

def Db.newestProbeFailure? (db : Db) (r : RecordingId) : Option Job :=
  (newestFirst (db.jobs.rows.filter fun j => probeFailure r j)).head?

def requeueProbeFailureRow (j : Job) : Job :=
  { j with
    state := .queued
    attempts := 0
    progress := 0
    stageCurrent := none
    notBefore := none
    errorMessage := none
    workerId := none
    startedAt := none
    finishedAt := none
    result := .jsonNull }

def requeueProbeFailure (job : Job) (db : Db) : Db :=
  db.updateJobs (fun j => j.id = job.id) requeueProbeFailureRow (fun _ => rfl)

def analysisPriority (rec : Recording) : Int :=
  if rec.processedAt.isSome then bulkPriority else newFootagePriority

def reconcileMisclassifiedRow (settings : Settings) (now : Time) (db : Db) (rec : Recording) :
    Db :=
  let restored := restoreRecording rec.id db
  match restored.newestProbeFailure? rec.id with
  | some job => requeueProbeFailure job restored
  | none =>
    (enqueue settings now (some rec.id) (analysisKind rec) none (analysisPriority rec) false
      restored).1

def reconcileMisclassifiedProbeCrashes (settings : Settings) (now : Time) (db : Db) : Db × Nat :=
  let found := db.recordings.rows.filter fun rec => misclassified rec
  (found.foldl (reconcileMisclassifiedRow settings now) db, found.length)

def hiddenByMediaFailure (rec : Recording) : Prop :=
  rec.ignored = true ∧ rec.fileMissing = false ∧
    (rec.probeJson.getD .empty).sourceUnusable = some true ∧
    (rec.probeJson.getD .empty).mediaFailureReviewed = none

instance (rec : Recording) : Decidable (hiddenByMediaFailure rec) :=
  inferInstanceAs (Decidable (_ ∧ _))

def reviewRecording (r : RecordingId) (db : Db) : Db :=
  db.updateRecordings (fun rec => rec.id = r)
    (fun rec => { rec with
      probeJson := some { rec.probeJson.getD .empty with
        damagedPolicy := none
        sourceDamaged := none
        sourceUnusable := none
        mediaFailureReviewed := some true }
      ignored := false
      errorMessage := none
      state := .queued
      metadataState := .pending
      thumbnailPath := none })
    (fun _ => rfl)

def reconcileMediaRow (settings : Settings) (now : Time) (db : Db) (rec : Recording) : Db :=
  (enqueue settings now (some rec.id) (analysisKind rec) none (analysisPriority rec) false
    (reviewRecording rec.id db)).1

def reconcileMediaFailureHides (settings : Settings) (now : Time) (db : Db) : Db × Nat :=
  let rows := db.recordings.rows.filter fun rec => hiddenByMediaFailure rec
  (rows.foldl (reconcileMediaRow settings now) db, rows.length)

end DashcamStats.Queue
