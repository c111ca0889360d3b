import Mathlib.Algebra.Order.Ring.Unbundled.Rat
import Mathlib.Data.Prod.Lex
import DashcamStats.Library.Table

namespace DashcamStats.Queue

abbrev JobId := Nat
abbrev RecordingId := Nat

/-- Seconds since the epoch. -/
abbrev Time := Int

inductive JobState where
  | queued
  | running
  | completed
  | failed
  | cancelled
  deriving DecidableEq

inductive JobKind where
  | process
  | reprocess
  | scan
  | retention
  | thumbnail
  | journeyRebuild
  deriving DecidableEq

inductive RecordingState where
  | discovered
  | settling
  | metadataExtracted
  | queued
  | processing
  | completed
  | failed
  | invalid
  | ignored
  | deleted
  deriving DecidableEq

inductive StageState where
  | pending
  | running
  | done
  | failed
  | skipped
  deriving DecidableEq

def thumbnailPriority : Int := 0
def newFootagePriority : Int := 100
def bulkPriority : Int := 200

def resetReason : String := "cleared by a full reprocess reset"
def backoffS : List Int := [30, 300, 1800]
def contentionBackoffS : Int := 20
def maxContentionRetries : Nat := 6

/-- The keys of `processing_jobs.result`: two the queue keeps, the rest a run's report. -/
structure ResultJson where
  contentionRetries : Option Nat
  lastError : Option String
  report : List (String × String)
  deriving DecidableEq

def ResultJson.empty : ResultJson := ⟨none, none, []⟩

/-- A JSON column: a Python `None` that was assigned is stored as the JSON `null`, which is
not the SQL `NULL` of a row inserted without the column. -/
inductive ResultColumn where
  | sqlNull
  | jsonNull
  | value (json : ResultJson)
  deriving DecidableEq

-- `job.result or {}`
def ResultColumn.orEmpty : ResultColumn → ResultJson
  | .value json => json
  | .sqlNull | .jsonNull => .empty

structure Job where
  id : JobId
  recordingId : Option RecordingId
  kind : JobKind
  stages : Option (List String)
  state : JobState
  priority : Int
  attempts : Nat
  maxAttempts : Nat
  progress : Rat
  stageCurrent : Option String
  speedRealtime : Option Rat
  decoder : Option String
  inferenceDevice : Option String
  resourceState : Option String
  workerId : Option String
  heartbeatAt : Option Time
  queuedAt : Time
  startedAt : Option Time
  finishedAt : Option Time
  notBefore : Option Time
  errorMessage : Option String
  result : ResultColumn
  deriving DecidableEq

def Job.live (j : Job) : Prop := j.state = .queued ∨ j.state = .running

instance (j : Job) : Decidable j.live := inferInstanceAs (Decidable (_ ∨ _))

/-- The keys of `probe_json` the queue reads: whether `damaged_policy` is an object, and
whether `probe_failure` carries a permanent verdict. -/
structure Probe where
  damagedPolicy : Option Bool
  sourceDamaged : Option Bool
  sourceUnusable : Option Bool
  warnings : List String
  probeFailurePermanent : Option Bool
  mediaFailureReviewed : Option Bool
  deriving DecidableEq

def Probe.empty : Probe := ⟨none, none, none, [], none, none⟩

structure Recording where
  id : RecordingId
  startedAt : Option Time
  ignored : Bool
  fileMissing : Bool
  state : RecordingState
  metadataState : StageState
  errorMessage : Option String
  processedAt : Option Time
  fingerprint : Option String
  thumbnailPath : Option String
  probeJson : Option Probe
  deriving DecidableEq

-- `recording.state = RecordingState.QUEUED`
def Recording.requeued (rec : Recording) : Recording := { rec with state := .queued }

-- `recording.error_message = None`
def Recording.errorCleared (rec : Recording) : Recording := { rec with errorMessage := none }

def Recording.restarted (rec : Recording) : Recording := rec.requeued.errorCleared

@[simp] theorem Recording.requeued_id (rec : Recording) : rec.requeued.id = rec.id := rfl

@[simp] theorem Recording.errorCleared_id (rec : Recording) : rec.errorCleared.id = rec.id := rfl

@[simp] theorem Recording.restarted_id (rec : Recording) : rec.restarted.id = rec.id := rfl

structure Settings where
  retryMaxAttempts : Nat
  jobHeartbeatTimeoutS : Int

structure Db where
  jobs : Table Job Job.id
  recordings : Table Recording Recording.id

namespace Db

def updateJobs (db : Db) (p : Job → Prop) [DecidablePred p] (f : Job → Job)
    (keeps : ∀ j, (f j).id = j.id) : Db :=
  { db with jobs := db.jobs.update (fun j => decide (p j)) f keeps }

def updateRecordings (db : Db) (p : Recording → Prop) [DecidablePred p]
    (f : Recording → Recording) (keeps : ∀ r, (f r).id = r.id) : Db :=
  { db with recordings := db.recordings.update (fun r => decide (p r)) f keeps }

-- `session.add(job)` and a flush: the row gets the next primary key.
def addJob (db : Db) (j : Job) : Db :=
  { db with
    jobs := db.jobs.insert { j with id := db.jobs.nextKey }
      (fun _ member => Nat.ne_of_lt (Table.key_lt_nextKey member)) }

variable {db : Db} {p : Job → Prop} [DecidablePred p] {f : Job → Job}
  {keeps : ∀ j, (f j).id = j.id}
variable {q : Recording → Prop} [DecidablePred q] {g : Recording → Recording}
  {keepsRecording : ∀ r, (g r).id = r.id}

@[simp] theorem updateRecordings_jobs :
    (db.updateRecordings q g keepsRecording).jobs = db.jobs := rfl

theorem mem_updateJobs {b : Job} :
    b ∈ (db.updateJobs p f keeps).jobs ↔ ∃ a ∈ db.jobs, (if p a then f a else a) = b := by
  simp [updateJobs, Table.mem_update]

theorem mem_addJob {j b : Job} :
    b ∈ (db.addJob j).jobs ↔ b ∈ db.jobs ∨ b = { j with id := db.jobs.nextKey } := by
  simp [addJob, Table.mem_insert]

-- The rows of `processing_jobs` for a recording, live ones first in table order.
def liveJob? (db : Db) (r : RecordingId) : Option Job :=
  db.jobs.rows.find? fun j => j.recordingId = some r ∧ j.live

theorem liveJob?_none {r : RecordingId} (absent : db.liveJob? r = none) {j : Job}
    (member : j ∈ db.jobs) (same : j.recordingId = some r) : ¬ j.live := by
  have := List.find?_eq_none.mp absent j member
  simpa [same] using this

def visible (db : Db) (r : RecordingId) : Prop :=
  ∃ rec ∈ db.recordings.rows, rec.id = r ∧ rec.ignored = false

instance (r : RecordingId) : Decidable (db.visible r) :=
  inferInstanceAs (Decidable (∃ rec ∈ db.recordings.rows, _))

end Db

end DashcamStats.Queue
