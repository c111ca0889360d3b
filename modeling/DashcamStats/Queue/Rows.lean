import DashcamStats.Queue.System

namespace DashcamStats.Queue

variable {db : Db} {r : RecordingId}

def Db.rowsOf (db : Db) (r : RecordingId) : List Job :=
  db.jobs.rows.filter fun j => j.recordingId = some r

theorem mem_rowsOf {j : Job} : j ∈ db.rowsOf r ↔ j ∈ db.jobs ∧ j.recordingId = some r := by
  simp [Db.rowsOf, Table.mem_rows]

theorem rowsOf_congr {next : Db} (same : next.jobs = db.jobs) : next.rowsOf r = db.rowsOf r := by
  rw [Db.rowsOf, same, Db.rowsOf]

theorem rowsOf_updateJobs (p : Job → Prop) [DecidablePred p] (f : Job → Job)
    (keeps : ∀ j, (f j).id = j.id) (same : ∀ j, (f j).recordingId = j.recordingId) :
    (db.updateJobs p f keeps).rowsOf r = (db.rowsOf r).map fun j => if p j then f j else j := by
  have unmoved : ((fun j : Job => decide (j.recordingId = some r)) ∘
      fun j => if decide (p j) = true then f j else j) =
        fun j : Job => decide (j.recordingId = some r) := by
    funext j
    by_cases hit : p j <;> simp [hit, same]
  simp only [Db.rowsOf, Db.updateJobs, Table.update, List.filter_map, unmoved]
  simp

theorem rowsOf_updateJobs_of_ne (p : Job → Prop) [DecidablePred p] (f : Job → Job)
    (keeps : ∀ j, (f j).id = j.id) (same : ∀ j, (f j).recordingId = j.recordingId)
    (elsewhere : ∀ j ∈ db.jobs, p j → j.recordingId ≠ some r) :
    (db.updateJobs p f keeps).rowsOf r = db.rowsOf r := by
  rw [rowsOf_updateJobs p f keeps same]
  refine (List.map_congr_left ?_).trans (List.map_id _)
  intro j member
  obtain ⟨stored, here⟩ := mem_rowsOf.mp member
  have untouched : ¬ p j := fun hit => elsewhere j stored hit here
  simp [untouched]

theorem rowsOf_addJob (j : Job) :
    (db.addJob j).rowsOf r =
      db.rowsOf r ++ if j.recordingId = some r then [{ j with id := db.jobs.nextKey }] else [] := by
  by_cases here : j.recordingId = some r <;> simp [Db.rowsOf, Db.addJob, Table.insert, here]

theorem hasLive_iff : db.hasLive r ↔ ∃ j ∈ db.rowsOf r, j.live := by
  constructor
  · rintro ⟨j, stored, live, here⟩
    exact ⟨j, mem_rowsOf.mpr ⟨stored, here⟩, live⟩
  · rintro ⟨j, member, live⟩
    obtain ⟨stored, here⟩ := mem_rowsOf.mp member
    exact ⟨j, stored, live, here⟩

theorem cancelledLast_iff : db.cancelledLast r ↔ ∃ j ∈ db.rowsOf r, j.state = .cancelled ∧
    ∀ k ∈ db.rowsOf r, ¬ j.id < k.id := by
  constructor
  · rintro ⟨j, stored, cancelled, here, last⟩
    refine ⟨j, mem_rowsOf.mpr ⟨stored, here⟩, cancelled, ?_⟩
    intro k member
    exact last k (mem_rowsOf.mp member).1 (mem_rowsOf.mp member).2
  · rintro ⟨j, member, cancelled, last⟩
    obtain ⟨stored, here⟩ := mem_rowsOf.mp member
    exact ⟨j, stored, cancelled, here, fun k storedK hereK => last k (mem_rowsOf.mpr ⟨storedK, hereK⟩)⟩

theorem liveJob?_eq (db : Db) (r : RecordingId) :
    db.liveJob? r = (db.rowsOf r).find? fun j => j.live := by
  rw [Db.liveJob?, Db.rowsOf, List.find?_filter]
  congr 1
  funext j
  simp

variable (settings : Settings) (now : Time)

theorem rowsOf_insertJob (r' : RecordingId) (kind : JobKind) (stages : Option (List String))
    (priority : Int) :
    (insertJob settings now (some r') kind stages priority db).1.rowsOf r =
      db.rowsOf r ++ if r' = r then
        [{ freshJob settings now (some r') kind stages priority with id := db.jobs.nextKey }]
      else [] := by
  have added := @rowsOf_addJob db r (freshJob settings now (some r') kind stages priority)
  simp only [freshJob, Option.some.injEq] at added
  exact added

theorem rowsOf_enqueue_of_ne {r' : RecordingId} (ne : r' ≠ r) (kind : JobKind)
    (stages : Option (List String)) (priority : Int) :
    (enqueue settings now (some r') kind stages priority false db).1.rowsOf r = db.rowsOf r := by
  simp only [enqueue, Bool.false_eq_true, if_false]
  split
  · rfl
  · simp [rowsOf_insertJob, ne]

theorem rowsOf_enqueue_of_idle (idle : ∀ j ∈ db.rowsOf r, ¬ j.live) (kind : JobKind)
    (stages : Option (List String)) (priority : Int) :
    (enqueue settings now (some r) kind stages priority false db).1.rowsOf r =
      db.rowsOf r ++
        [{ freshJob settings now (some r) kind stages priority with id := db.jobs.nextKey }] := by
  have none_ : db.liveJob? r = none := by
    rw [liveJob?_eq, List.find?_eq_none]
    intro j member
    simpa using idle j member
  simp only [enqueue, Bool.false_eq_true, if_false, none_]
  simp [rowsOf_insertJob]

def footage (rec : Recording) : Option Time × Bool × Option Time :=
  (rec.startedAt, rec.ignored, rec.processedAt)

def Db.footage (db : Db) (r : RecordingId) : Option (Option Time × Bool × Option Time) :=
  (db.recordings.find? r).map Queue.footage

variable {settings now}

theorem find?_updateRecordings {q : Recording → Prop} [DecidablePred q]
    {f : Recording → Recording} {keeps : ∀ rec, (f rec).id = rec.id} :
    (db.updateRecordings q f keeps).recordings.find? r =
      (db.recordings.find? r).map fun rec => if q rec then f rec else rec := by
  simp [Db.updateRecordings, Table.find?_update]

-- A write that leaves recording `r` alone.
theorem find?_updateRecordings_of_ne {q : Recording → Prop} [DecidablePred q]
    {f : Recording → Recording} {keeps : ∀ rec, (f rec).id = rec.id}
    (spared : ∀ rec, rec.id = r → ¬ q rec) :
    (db.updateRecordings q f keeps).recordings.find? r = db.recordings.find? r := by
  rw [find?_updateRecordings]
  cases found : db.recordings.find? r with
  | none => rfl
  | some rec => simp [spared rec (Table.find?_mem found).2]

theorem footage_updateRecordings {q : Recording → Prop} [DecidablePred q]
    {f : Recording → Recording} {keeps : ∀ rec, (f rec).id = rec.id}
    (same : ∀ rec, Queue.footage (f rec) = Queue.footage rec) :
    (db.updateRecordings q f keeps).footage r = db.footage r := by
  rw [Db.footage, find?_updateRecordings, Option.map_map, Db.footage]
  congr 1
  funext rec
  by_cases hit : q rec <;> simp [hit, same]

theorem footage_insertJob (recordingId : Option RecordingId) (kind : JobKind)
    (stages : Option (List String)) (priority : Int) :
    (insertJob settings now recordingId kind stages priority db).1.footage r = db.footage r := by
  cases recordingId with
  | none => rfl
  | some r' => exact footage_updateRecordings fun _ => rfl

theorem footage_enqueue (r' : RecordingId) (kind : JobKind) (stages : Option (List String))
    (priority : Int) :
    (enqueue settings now (some r') kind stages priority false db).1.footage r = db.footage r := by
  simp only [enqueue, Bool.false_eq_true, if_false]
  split
  · rfl
  · exact footage_insertJob _ _ _ _

end DashcamStats.Queue
