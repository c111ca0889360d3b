import DashcamStats.Queue.Model

namespace DashcamStats.Queue

-- `text[:2000]`
def clip (text : String) : String := String.ofList (text.toList.take 2000)

-- `ilike('%needle%')` for a lower-case needle.
def ilikeContains (needle : String) (text : Option String) : Prop :=
  ∃ t ∈ text, needle.toList <:+: t.toLower.toList

-- `ilike('needle%')` for a lower-case needle.
def ilikePrefix (needle : String) (text : Option String) : Prop :=
  ∃ t ∈ text, needle.toList <+: t.toLower.toList

instance (needle : String) (text : Option String) : Decidable (ilikeContains needle text) :=
  inferInstanceAs (Decidable (∃ t ∈ text, _))

instance (needle : String) (text : Option String) : Decidable (ilikePrefix needle text) :=
  inferInstanceAs (Decidable (∃ t ∈ text, _))

def freshJob (settings : Settings) (now : Time) (recordingId : Option RecordingId)
    (kind : JobKind) (stages : Option (List String)) (priority : Int) : Job where
  id := 0
  recordingId := recordingId
  kind := kind
  stages := stages
  state := .queued
  priority := priority
  attempts := 0
  maxAttempts := settings.retryMaxAttempts + 1
  progress := 0
  stageCurrent := none
  speedRealtime := none
  decoder := none
  inferenceDevice := none
  resourceState := none
  workerId := none
  heartbeatAt := none
  queuedAt := now
  startedAt := none
  finishedAt := none
  notBefore := none
  errorMessage := none
  result := .sqlNull

def markQueued (r : RecordingId) (db : Db) : Db :=
  db.updateRecordings
    (fun rec => rec.id = r ∧ rec.state ≠ .processing ∧ rec.state ≠ .queued)
    Recording.requeued Recording.requeued_id

def insertJob (settings : Settings) (now : Time) (recordingId : Option RecordingId)
    (kind : JobKind) (stages : Option (List String)) (priority : Int) (db : Db) : Db × Job :=
  let job := freshJob settings now recordingId kind stages priority
  let added := db.addJob job
  (match recordingId with
    | none => added
    | some r => markQueued r added,
   { job with id := db.jobs.nextKey })

def supersede (now : Time) (r : RecordingId) (db : Db) : Db :=
  db.updateJobs
    (fun j => j.recordingId = some r ∧ (j.state = .queued ∨ j.state = .failed))
    (fun j => { j with
      state := .cancelled
      finishedAt := some now
      workerId := none
      errorMessage := some "superseded by a newer request" })
    (fun _ => rfl)

def enqueue (settings : Settings) (now : Time) (recordingId : Option RecordingId)
    (kind : JobKind) (stages : Option (List String)) (priority : Int) (force : Bool)
    (db : Db) : Db × Job :=
  match recordingId with
  | none => insertJob settings now none kind stages priority db
  | some r =>
    if force then
      insertJob settings now (some r) kind stages priority (supersede now r db)
    else
      match db.liveJob? r with
      | some existing => (db, existing)
      | none => insertJob settings now (some r) kind stages priority db

namespace Db

def busy (db : Db) (r : RecordingId) : Prop :=
  ∃ j ∈ db.jobs.rows, j.state = .running ∧ j.recordingId = some r

instance (db : Db) (r : RecordingId) : Decidable (db.busy r) :=
  inferInstanceAs (Decidable (∃ j ∈ db.jobs.rows, _))

def startedAt (db : Db) (j : Job) : Option Time := do
  let r ← j.recordingId
  let rec ← db.recordings.find? r
  rec.startedAt

-- `ORDER BY priority, started_at IS NULL, started_at, queued_at`
def claimKey (db : Db) (j : Job) : Int ×ₗ Bool ×ₗ Time ×ₗ Time :=
  toLex (j.priority, toLex ((db.startedAt j).isNone, toLex ((db.startedAt j).getD 0, j.queuedAt)))

end Db

def due (now : Time) (j : Job) : Prop := ∀ t ∈ j.notBefore, t ≤ now

instance (now : Time) (j : Job) : Decidable (due now j) :=
  inferInstanceAs (Decidable (∀ t ∈ j.notBefore, t ≤ now))

def claimable (now : Time) (active : List RecordingId) (db : Db) (j : Job) : Prop :=
  j.state = .queued ∧ due now j ∧
    ∀ r ∈ j.recordingId, ¬ db.busy r ∧ r ∉ active ∧ db.visible r

instance (now : Time) (active : List RecordingId) (db : Db) (j : Job) :
    Decidable (claimable now active db j) :=
  inferInstanceAs (Decidable (_ ∧ _ ∧ ∀ r ∈ j.recordingId, _))

-- A row the claim's `ORDER BY ... LIMIT 1` may return; the order leaves ties open.
def isNext (now : Time) (active : List RecordingId) (db : Db) (j : Job) : Prop :=
  claimable now active db j ∧
    ∀ k ∈ db.jobs.rows, claimable now active db k → db.claimKey j ≤ db.claimKey k

instance (now : Time) (active : List RecordingId) (db : Db) (j : Job) :
    Decidable (isNext now active db j) :=
  inferInstanceAs (Decidable (_ ∧ ∀ k ∈ db.jobs.rows, _))

def claimRow (now : Time) (workerId : String) (j : Job) : Job :=
  { j with
    state := .running
    workerId := some workerId
    startedAt := some now
    heartbeatAt := some now
    attempts := j.attempts + 1
    progress := 0
    finishedAt := none
    errorMessage := none }

def claim (now : Time) (workerId : String) (job : Job) (db : Db) : Db :=
  (db.updateJobs (fun j => j.id = job.id) (claimRow now workerId) (fun _ => rfl)).updateRecordings
    (fun rec => some rec.id = job.recordingId)
    Recording.errorCleared Recording.errorCleared_id

def claimNext (paused : Bool) (now : Time) (workerId : String) (active : List RecordingId)
    (db : Db) : Db × Option Job :=
  if paused then (db, none)
  else if ¬ ∃ j ∈ db.jobs.rows, j.state = .queued ∧ due now j then (db, none)
  else
    match db.jobs.rows.find? (fun j => isNext now active db j) with
    | none => (db, none)
    | some job => (claim now workerId job db, some (claimRow now workerId job))

def heartbeat (now : Time) (jobId : JobId) (progress : Option Rat)
    (stage : Option String) (speed : Option Rat) (decoder device resource : Option String)
    (db : Db) : Db × Option JobState :=
  let beaten := db.updateJobs (fun j => j.id = jobId)
    (fun j => { j with
      heartbeatAt := some now
      progress := (progress.map fun p => max 0 (min 1 p)).getD j.progress
      stageCurrent := stage <|> j.stageCurrent
      speedRealtime := speed <|> j.speedRealtime
      decoder := decoder <|> j.decoder
      inferenceDevice := device <|> j.inferenceDevice
      resourceState := resource <|> j.resourceState })
    (fun _ => rfl)
  (beaten, (beaten.jobs.find? jobId).map Job.state)

def analysisKind (rec : Recording) : JobKind :=
  if rec.processedAt.isSome then .reprocess else .process

-- `list(job.stages) if job.stages else None`
def carriedStages : Option (List String) → Option (List String)
  | some (stage :: rest) => some (stage :: rest)
  | some [] | none => none

def followUpAfterThumbnail (settings : Settings) (now : Time) (job : Job) (db : Db) : Db :=
  if job.kind ≠ .thumbnail then db
  else
    match job.recordingId with
    | none => db
    | some r =>
      match db.recordings.find? r with
      | none => db
      | some rec =>
        if rec.ignored then db
        else
          (enqueue settings now (some r) (analysisKind rec) (carriedStages job.stages)
            bulkPriority false db).1

def completeRow (now : Time) (result : ResultJson) (speed : Option Rat)
    (decoder device : Option String) (j : Job) : Job :=
  { j with
    state := .completed
    finishedAt := some now
    progress := 1
    stageCurrent := none
    result := .value result
    errorMessage := none
    resourceState := none
    speedRealtime := speed <|> j.speedRealtime
    decoder := decoder <|> j.decoder
    inferenceDevice := device <|> j.inferenceDevice }

def complete (settings : Settings) (now : Time) (job : Job) (result : ResultJson)
    (speed : Option Rat) (decoder device : Option String) (db : Db) : Db :=
  followUpAfterThumbnail settings now job
    (db.updateJobs (fun j => j.id = job.id) (completeRow now result speed decoder device)
      (fun _ => rfl))

/-- How `fail` leaves the job: terminally failed, requeued without spending the attempt, or
requeued with a back-off. -/
inductive FailOutcome where
  | failed
  | refunded (granted : Nat)
  | retried (delay : Int)
  deriving DecidableEq

-- The free retry `fail` would grant now.
def Job.granted (job : Job) : Nat := job.result.orEmpty.contentionRetries.getD 0 + 1

def failOutcome (job : Job) (permanent transient : Bool) : FailOutcome :=
  if permanent then .failed
  else if transient ∧ job.granted ≤ maxContentionRetries then .refunded job.granted
  else if job.attempts < job.maxAttempts then
    .retried (backoffS.getD (min (job.attempts - 1) (backoffS.length - 1)) 0)
  else .failed

def failRow (now : Time) (message : String) (job : Job) (outcome : FailOutcome) (j : Job) : Job :=
  match outcome with
  | .failed =>
    { j with
      errorMessage := some (clip message)
      finishedAt := some now
      stageCurrent := none
      workerId := none
      state := .failed }
  | .refunded granted =>
    { j with
      errorMessage := some (clip message)
      finishedAt := some now
      stageCurrent := none
      workerId := none
      state := .queued
      attempts := job.attempts - 1
      notBefore := some (now + contentionBackoffS)
      result := .value { job.result.orEmpty with contentionRetries := some granted } }
  | .retried delay =>
    { j with
      errorMessage := none
      finishedAt := some now
      stageCurrent := none
      workerId := none
      state := .queued
      notBefore := some (now + delay)
      result := .value { job.result.orEmpty with lastError := some (clip message) } }

theorem failRow_id (now : Time) (message : String) (job : Job) (outcome : FailOutcome) (j : Job) :
    (failRow now message job outcome j).id = j.id := by
  cases outcome <;> rfl

def fail (settings : Settings) (now : Time) (job : Job) (message : String)
    (permanent transient : Bool) (db : Db) : Db :=
  let outcome := failOutcome job permanent transient
  let written := db.updateJobs (fun j => j.id = job.id) (failRow now message job outcome)
    (failRow_id now message job outcome)
  if outcome = .failed then followUpAfterThumbnail settings now job written else written

end DashcamStats.Queue
