import Mathlib.Data.List.Induction
import DashcamStats.Library.Run
import DashcamStats.Queue.Maintenance

namespace DashcamStats.Queue

inductive Op where
  | enqueue (recordingId : Option RecordingId) (kind : JobKind) (stages : Option (List String))
      (priority : Int) (force : Bool)
  | claimNext (workerId : String) (active : List RecordingId) (job : JobId)
  | heartbeat (job : JobId) (progress : Option Rat)
      (stage : Option String) (speed : Option Rat) (decoder device resource : Option String)
  | complete (job : JobId) (result : ResultJson) (speed : Option Rat)
      (decoder device : Option String)
  | fail (job : JobId) (message : String) (permanent transient : Bool)
  | cancel (job : JobId)
  | clear (reason : String)
  | retryFailed
  | reclaimStale
  | reclaimInterrupted
  | releaseStrandedRecordings
  | reconcileLegacyContentionFailures
  | reconcileMisclassifiedProbeCrashes
  | reconcileMediaFailureHides
  | recordings (table : Table Recording Recording.id)

variable (settings : Settings) (now : Time)

/-- A claim names the row the database picked, and changes nothing unless the claim's query
may return that row. An outcome is recorded only for a row that is not cancelled. -/
def Op.apply (db : Db) : Op → Db
  | .enqueue recordingId kind stages priority force =>
    (Queue.enqueue settings now recordingId kind stages priority force db).1
  | .claimNext workerId active job =>
    match db.jobs.find? job with
    | none => db
    | some j => if isNext now active db j then claim now workerId j db else db
  | .heartbeat job progress stage speed decoder device resource =>
    (Queue.heartbeat now job progress stage speed decoder device resource db).1
  | .complete job result speed decoder device =>
    match db.jobs.find? job with
    | none => db
    | some j =>
      if j.state = .cancelled then db
      else Queue.complete settings now j result speed decoder device db
  | .fail job message permanent transient =>
    match db.jobs.find? job with
    | none => db
    | some j =>
      if j.state = .cancelled then db
      else Queue.fail settings now j message permanent transient db
  | .cancel job => (Queue.cancel now job db).1
  | .clear reason => (Queue.clear now reason db).1
  | .retryFailed => (Queue.retryFailed db).1
  | .reclaimStale => (Queue.reclaimStale settings now db).1
  | .reclaimInterrupted => (Queue.reclaimInterrupted db).1
  | .releaseStrandedRecordings => (Queue.releaseStrandedRecordings db).1
  | .reconcileLegacyContentionFailures => (Queue.reconcileLegacyContentionFailures db).1
  | .reconcileMisclassifiedProbeCrashes =>
    (Queue.reconcileMisclassifiedProbeCrashes settings now db).1
  | .reconcileMediaFailureHides => (Queue.reconcileMediaFailureHides settings now db).1
  | .recordings table => { db with recordings := table }

structure Call where
  now : Time
  op : Op

def Step (settings : Settings) (db : Db) (call : Call) (next : Db) : Prop :=
  next = call.op.apply settings call.now db

def runCalls (settings : Settings) (db : Db) (calls : List Call) : Db :=
  calls.foldl (fun db call => call.op.apply settings call.now db) db

theorem run_of_calls (settings : Settings) (db : Db) (calls : List Call) :
    Run (Step settings) anyStep db calls (runCalls settings db calls) := by
  induction calls using List.reverseRecOn with
  | nil => exact .refl
  | append_singleton calls call ih =>
    rw [runCalls, List.foldl_append]
    exact .tail ih trivial rfl

theorem claimNext_apply (paused : Bool) (workerId : String) (active : List RecordingId) (db : Db) :
    (claimNext paused now workerId active db).1 = db ∨
      ∃ j ∈ db.jobs, isNext now active db j ∧ (claimNext paused now workerId active db).1 =
        (Op.claimNext workerId active j.id).apply settings now db := by
  unfold claimNext
  split
  · exact .inl rfl
  · split
    · exact .inl rfl
    · split
      · exact .inl rfl
      · rename_i job found
        have member : job ∈ db.jobs := List.mem_of_find?_eq_some found
        have next : isNext now active db job := by simpa using List.find?_some found
        exact .inr ⟨job, member, next, by simp [Op.apply, Table.find?_self member, next]⟩

-- Every row of `db` is still there, for the same recording and of the same kind.
def Db.Extends (db next : Db) : Prop :=
  ∀ j ∈ db.jobs, ∃ k ∈ next.jobs, k.id = j.id ∧ k.recordingId = j.recordingId ∧ k.kind = j.kind

theorem Db.Extends.refl (db : Db) : db.Extends db := fun j member => ⟨j, member, rfl, rfl, rfl⟩

theorem Db.Extends.trans {a b c : Db} (first : a.Extends b) (second : b.Extends c) :
    a.Extends c := by
  intro j member
  obtain ⟨k, memberK, id, rec, kind⟩ := first j member
  obtain ⟨l, memberL, id', rec', kind'⟩ := second k memberK
  exact ⟨l, memberL, id'.trans id, rec'.trans rec, kind'.trans kind⟩

theorem Db.Extends.of_jobs {db next : Db} (same : next.jobs = db.jobs) : db.Extends next := by
  intro j member
  exact ⟨j, same ▸ member, rfl, rfl, rfl⟩

theorem extends_updateJobs (db : Db) (p : Job → Prop) [DecidablePred p] (f : Job → Job)
    (keeps : ∀ j, (f j).id = j.id)
    (same : ∀ j, (f j).recordingId = j.recordingId ∧ (f j).kind = j.kind) :
    db.Extends (db.updateJobs p f keeps) := by
  intro j member
  refine ⟨_, Db.mem_updateJobs.mpr ⟨j, member, rfl⟩, ?_⟩
  split
  · exact ⟨keeps j, (same j).1, (same j).2⟩
  · exact ⟨rfl, rfl, rfl⟩

theorem extends_updateRecordings (db : Db) (q : Recording → Prop) [DecidablePred q]
    (g : Recording → Recording) (keeps : ∀ r, (g r).id = r.id) :
    db.Extends (db.updateRecordings q g keeps) :=
  .of_jobs rfl

theorem extends_addJob (db : Db) (j : Job) : db.Extends (db.addJob j) :=
  fun k member => ⟨k, Db.mem_addJob.mpr (.inl member), rfl, rfl, rfl⟩

theorem extends_insertJob (db : Db) (recordingId : Option RecordingId) (kind : JobKind)
    (stages : Option (List String)) (priority : Int) :
    db.Extends (insertJob settings now recordingId kind stages priority db).1 := by
  unfold insertJob
  cases recordingId with
  | none => exact extends_addJob _ _
  | some r => exact .trans (extends_addJob _ _) (extends_updateRecordings _ _ _ _)

theorem extends_enqueue (db : Db) (recordingId : Option RecordingId) (kind : JobKind)
    (stages : Option (List String)) (priority : Int) (force : Bool) :
    db.Extends (enqueue settings now recordingId kind stages priority force db).1 := by
  unfold enqueue
  split
  · exact extends_insertJob settings now _ _ _ _ _
  · split
    · refine .trans ?_ (extends_insertJob settings now _ _ _ _ _)
      exact extends_updateJobs _ _ _ _ (fun _ => ⟨rfl, rfl⟩)
    · split
      · exact .refl db
      · exact extends_insertJob settings now _ _ _ _ _

theorem extends_followUp (db : Db) (job : Job) :
    db.Extends (followUpAfterThumbnail settings now job db) := by
  unfold followUpAfterThumbnail
  split
  · exact .refl db
  · split
    · exact .refl db
    · split
      · exact .refl db
      · split
        · exact .refl db
        · exact extends_enqueue settings now _ _ _ _ _ _

theorem extends_complete (db : Db) (job : Job) (result : ResultJson) (speed : Option Rat)
    (decoder device : Option String) :
    db.Extends (complete settings now job result speed decoder device db) := by
  unfold complete
  refine .trans ?_ (extends_followUp settings now _ job)
  exact extends_updateJobs _ _ _ _ (fun _ => ⟨rfl, rfl⟩)

theorem failRow_recordingId (message : String) (job : Job) (outcome : FailOutcome) (j : Job) :
    (failRow now message job outcome j).recordingId = j.recordingId ∧
      (failRow now message job outcome j).kind = j.kind := by
  cases outcome <;> exact ⟨rfl, rfl⟩

theorem extends_fail (db : Db) (job : Job) (message : String) (permanent transient : Bool) :
    db.Extends (fail settings now job message permanent transient db) := by
  have written : db.Extends _ := extends_updateJobs db (fun j => j.id = job.id) _
    (failRow_id now message job (failOutcome job permanent transient))
    (failRow_recordingId now message job _)
  unfold fail
  dsimp only
  split
  · exact written.trans (extends_followUp settings now _ job)
  · exact written

theorem extends_cancel (db : Db) (job : JobId) : db.Extends (cancel now job db).1 := by
  unfold cancel settleCancelled
  split
  · exact .refl db
  · split
    · exact .refl db
    · dsimp only
      split
      · exact extends_updateJobs _ _ _ _ (fun _ => ⟨rfl, rfl⟩)
      · split
        · exact extends_updateJobs _ _ _ _ (fun _ => ⟨rfl, rfl⟩)
        · refine .trans ?_ (extends_updateRecordings _ _ _ _)
          exact extends_updateJobs _ _ _ _ (fun _ => ⟨rfl, rfl⟩)

theorem extends_returnRecordings (db : Db) (ids : List RecordingId) :
    db.Extends (returnRecordings ids db) := by
  unfold returnRecordings
  split
  · exact .refl db
  · exact extends_updateRecordings _ _ _ _

theorem extends_foldl {β γ : Type} (f : β → γ → β) (db : β → Db)
    (step : ∀ b c, Db.Extends (db b) (db (f b c))) (cs : List γ) (b : β) :
    (db b).Extends (db (cs.foldl f b)) := by
  induction cs generalizing b with
  | nil => exact .refl _
  | cons c rest ih => exact (step b c).trans (ih (f b c))

theorem extends_reconcileLegacyRow (acc : Db × Nat × Nat) (job : Job) :
    acc.1.Extends (reconcileLegacyRow acc job).1 := by
  unfold reconcileLegacyRow retireLegacy requeueLegacy
  dsimp only
  split
  · refine .trans ?_ (extends_updateRecordings _ _ _ _)
    exact extends_updateJobs _ _ _ _ (fun _ => ⟨rfl, rfl⟩)
  · refine .trans ?_ (extends_updateRecordings _ _ _ _)
    exact extends_updateJobs _ _ _ _ (fun _ => ⟨rfl, rfl⟩)

theorem extends_reconcileMisclassifiedRow (db : Db) (rec : Recording) :
    db.Extends (reconcileMisclassifiedRow settings now db rec) := by
  have restored : db.Extends (restoreRecording rec.id db) := extends_updateRecordings _ _ _ _
  unfold reconcileMisclassifiedRow
  dsimp only
  split
  · unfold requeueProbeFailure
    exact restored.trans (extends_updateJobs _ _ _ _ (fun _ => ⟨rfl, rfl⟩))
  · exact restored.trans (extends_enqueue settings now _ _ _ _ _ _)

theorem extends_reconcileMediaRow (db : Db) (rec : Recording) :
    db.Extends (reconcileMediaRow settings now db rec) := by
  unfold reconcileMediaRow reviewRecording
  exact .trans (extends_updateRecordings _ _ _ _) (extends_enqueue settings now _ _ _ _ _ _)

theorem extends_claim (db : Db) (workerId : String) (job : Job) :
    db.Extends (claim now workerId job db) := by
  unfold claim
  refine .trans ?_ (extends_updateRecordings _ _ _ _)
  exact extends_updateJobs _ _ _ _ (fun _ => ⟨rfl, rfl⟩)

theorem extends_apply (db : Db) (op : Op) : db.Extends (op.apply settings now db) := by
  cases op <;> simp only [Op.apply]
  case enqueue => exact extends_enqueue settings now db _ _ _ _ _
  case claimNext =>
    split
    · exact .refl db
    · split
      · exact extends_claim now db _ _
      · exact .refl db
  case heartbeat => exact extends_updateJobs _ _ _ _ (fun _ => ⟨rfl, rfl⟩)
  case complete =>
    split
    · exact .refl db
    · split
      · exact .refl db
      · exact extends_complete settings now db _ _ _ _ _
  case fail =>
    split
    · exact .refl db
    · split
      · exact .refl db
      · exact extends_fail settings now db _ _ _ _
  case cancel => exact extends_cancel now db _
  case clear => exact extends_updateJobs _ _ _ _ (fun _ => ⟨rfl, rfl⟩)
  case retryFailed => exact extends_updateJobs _ _ _ _ (fun _ => ⟨rfl, rfl⟩)
  case reclaimStale =>
    refine .trans ?_ (extends_returnRecordings _ _)
    exact extends_updateJobs _ _ _ _ (fun _ => ⟨rfl, rfl⟩)
  case reclaimInterrupted =>
    refine .trans ?_ (extends_returnRecordings _ _)
    exact extends_updateJobs _ _ _ _ (fun _ => ⟨rfl, rfl⟩)
  case releaseStrandedRecordings => exact extends_updateRecordings _ _ _ _
  case reconcileLegacyContentionFailures =>
    exact extends_foldl reconcileLegacyRow Prod.fst extends_reconcileLegacyRow _ (db, 0, 0)
  case reconcileMisclassifiedProbeCrashes =>
    exact extends_foldl _ id (extends_reconcileMisclassifiedRow settings now) _ db
  case reconcileMediaFailureHides =>
    exact extends_foldl _ id (extends_reconcileMediaRow settings now) _ db
  case recordings => exact .of_jobs rfl

end DashcamStats.Queue
