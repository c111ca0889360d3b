import Mathlib.Data.List.Sort
import DashcamStats.Queue.Rows

namespace DashcamStats.Queue

/-- How `abort_active` ended: it stopped that many runs, or a run outlived the grace period. -/
inductive Abort where
  | stopped (runs : Nat)
  | stillRunning
  deriving DecidableEq

inductive ResetError where
  | processingStillRunning
  deriving DecidableEq

structure RebuildSummary where
  cleared : List (JobState × Nat)
  aborted : Nat
  recordings : Nat
  thumbnails : Nat
  analysis : Nat
  released : Nat
  stages : List String
  startedAt : Option Time

/-- What a reset meets on its way: the clock, the media volume, the stage table, the runs it
interrupts and the recordings as those runs leave them. -/
structure ResetInputs where
  clearedAt : Time
  openedAt : Time
  queuedAt : RecordingId → Time
  expandStages : Option (List String) → List String
  thumbnailIsUsable : Option String → Bool
  stages : Option (List String)
  abort : Abort
  recordings : Table Recording Recording.id

def eligible (rec : Recording) : Prop :=
  rec.ignored = false ∧ rec.fileMissing = false ∧
    (rec.state ≠ .invalid ∧ rec.state ≠ .settling) ∧
    (rec.fingerprint.isSome ∨ rec.processedAt.isSome)

instance (rec : Recording) : Decidable (eligible rec) := inferInstanceAs (Decidable (_ ∧ _))

-- `started_at IS NULL, started_at, id`
def startKey (rec : Recording) : Bool ×ₗ Time ×ₗ RecordingId :=
  toLex (rec.startedAt.isNone, toLex (rec.startedAt.getD 0, rec.id))

def discovered (recordings : Table Recording Recording.id) : List Recording :=
  (recordings.rows.filter fun rec => eligible rec).insertionSort fun a b => startKey a ≤ startKey b

namespace ResetInputs

variable (inputs : ResetInputs)

def needsThumbnail (rec : Recording) : Prop := inputs.thumbnailIsUsable rec.thumbnailPath = false

instance (rec : Recording) : Decidable (inputs.needsThumbnail rec) :=
  inferInstanceAs (Decidable (_ = false))

def stagesFor (rec : Recording) : Option (List String) :=
  if rec.processedAt.isSome then inputs.stages else none

def firstKind (rec : Recording) : JobKind :=
  if inputs.needsThumbnail rec then .thumbnail else analysisKind rec

def firstPriority (rec : Recording) : Int :=
  if inputs.needsThumbnail rec then thumbnailPriority else bulkPriority

end ResetInputs

-- The stage columns are reset; of them the queue keeps `metadata_state`.
def invalidateRecordings (ids : List RecordingId) (selected : List String) (db : Db) : Db :=
  db.updateRecordings (fun rec => rec.id ∈ ids ∧ "metadata" ∈ selected)
    (fun rec => { rec with metadataState := .pending }) (fun _ => rfl)

def queueRecording (settings : Settings) (inputs : ResetInputs) (db : Db) (rec : Recording) : Db :=
  (enqueue settings (inputs.queuedAt rec.id) (some rec.id) (inputs.firstKind rec)
    (inputs.stagesFor rec) (inputs.firstPriority rec) false db).1

def markAllQueued (ids : List RecordingId) (db : Db) : Db :=
  db.updateRecordings (fun rec => rec.id ∈ ids) Recording.restarted Recording.restarted_id

def rebuild (settings : Settings) (inputs : ResetInputs) (db : Db) : Db :=
  let recordings := discovered db.recordings
  let ids := recordings.map Recording.id
  let selected := inputs.expandStages inputs.stages
  markAllQueued ids
    (recordings.foldl (queueRecording settings inputs) (invalidateRecordings ids selected db))

def resetUnderBarrier (settings : Settings) (inputs : ResetInputs) (db : Db) :
    Db × Except ResetError RebuildSummary :=
  let (wiped, cleared) := clear inputs.clearedAt resetReason db
  let interrupted : Db := { wiped with recordings := inputs.recordings }
  match inputs.abort with
  | .stillRunning => (interrupted, .error .processingStillRunning)
  | .stopped runs =>
    let recordings := discovered inputs.recordings
    let selected := if recordings = [] then [] else inputs.expandStages inputs.stages
    let thumbnails := recordings.countP fun rec => inputs.needsThumbnail rec
    let (released, count) := releaseStrandedRecordings (rebuild settings inputs interrupted)
    (released, .ok {
      cleared := cleared
      aborted := runs
      recordings := recordings.length
      thumbnails := thumbnails
      analysis := recordings.length - thumbnails
      released := count
      stages :=
        if selected = [] then inputs.stages.getD []
        else selected.dedup.insertionSort fun a b => a ≤ b
      startedAt := some inputs.openedAt })

variable (settings : Settings) (inputs : ResetInputs) {db : Db} {r : RecordingId}

theorem mem_discovered {recordings : Table Recording Recording.id} {rec : Recording} :
    rec ∈ discovered recordings ↔ rec ∈ recordings ∧ eligible rec := by
  simp [discovered, List.mem_insertionSort, Table.mem_rows]

theorem discovered_nodup (recordings : Table Recording Recording.id) :
    ((discovered recordings).map Recording.id).Nodup := by
  have sorted := (List.perm_insertionSort (fun a b => startKey a ≤ startKey b)
    (recordings.rows.filter fun rec => eligible rec)).map Recording.id
  exact sorted.nodup_iff.mpr (recordings.distinct.sublist (List.filter_sublist.map _))

theorem footage_invalidate (ids : List RecordingId) (selected : List String) :
    (invalidateRecordings ids selected db).footage r = db.footage r :=
  footage_updateRecordings fun _ => rfl

theorem footage_markAllQueued (ids : List RecordingId) :
    (markAllQueued ids db).footage r = db.footage r :=
  footage_updateRecordings fun _ => rfl

theorem footage_release : (releaseStrandedRecordings db).1.footage r = db.footage r :=
  footage_updateRecordings fun _ => rfl

theorem footage_rebuild : (rebuild settings inputs db).footage r = db.footage r := by
  have fold (recordings : List Recording) (current : Db) :
      (recordings.foldl (queueRecording settings inputs) current).footage r =
        current.footage r := by
    induction recordings generalizing current with
    | nil => rfl
    | cons rec rest ih => rw [List.foldl_cons, ih, queueRecording, footage_enqueue]
  rw [rebuild, footage_markAllQueued, fold, footage_invalidate]

theorem find?_queueRecording {rec : Recording} (ne : rec.id ≠ r) :
    (queueRecording settings inputs db rec).recordings.find? r = db.recordings.find? r := by
  simp only [queueRecording, enqueue, Bool.false_eq_true, if_false]
  split
  · rfl
  · refine find?_updateRecordings_of_ne ?_
    rintro other rfl hit
    exact ne hit.1.symm

theorem extends_rebuild (db : Db) :
    db.Extends (releaseStrandedRecordings (rebuild settings inputs db)).1 := by
  have queued : db.Extends ((discovered db.recordings).foldl (queueRecording settings inputs)
      (invalidateRecordings ((discovered db.recordings).map Recording.id)
        (inputs.expandStages inputs.stages) db)) :=
    extends_foldl (queueRecording settings inputs) id
      (fun current rec => extends_enqueue settings _ current _ _ _ _ _) _
      (invalidateRecordings _ _ db)
  exact queued.trans (.of_jobs rfl)

theorem find?_rebuild_of_not_mem (outside : r ∉ (discovered db.recordings).map Recording.id) :
    (rebuild settings inputs db).recordings.find? r = db.recordings.find? r := by
  have fold (recordings : List Recording) (current : Db)
      (outside : r ∉ recordings.map Recording.id) :
      (recordings.foldl (queueRecording settings inputs) current).recordings.find? r =
        current.recordings.find? r := by
    induction recordings generalizing current with
    | nil => rfl
    | cons rec rest ih =>
      simp only [List.map_cons, List.mem_cons, not_or] at outside
      rw [List.foldl_cons, ih _ outside.2, find?_queueRecording settings inputs (Ne.symm outside.1)]
  rw [rebuild, markAllQueued, find?_updateRecordings_of_ne, fold _ _ outside,
    invalidateRecordings, find?_updateRecordings_of_ne]
  · rintro rec rfl hit
    exact outside hit.1
  · rintro rec rfl hit
    exact outside hit

structure FirstJob (settings : Settings) (inputs : ResetInputs) (rec : Recording) (j : Job) :
    Prop where
  state : j.state = .queued
  kind : j.kind = inputs.firstKind rec
  stages : j.stages = inputs.stagesFor rec
  priority : j.priority = inputs.firstPriority rec
  attempts : j.attempts = 0
  notBefore : j.notBefore = none
  recordingId : j.recordingId = some rec.id

theorem rowsOf_queueRecordings (recordings : List Recording)
    (distinct : (recordings.map Recording.id).Nodup)
    (idle : ∀ rec ∈ recordings, ∀ j ∈ db.rowsOf rec.id, ¬ j.live) :
    (∀ r ∉ recordings.map Recording.id,
      (recordings.foldl (queueRecording settings inputs) db).rowsOf r = db.rowsOf r) ∧
    ∀ rec ∈ recordings, ∃ j, FirstJob settings inputs rec j ∧
      (recordings.foldl (queueRecording settings inputs) db).rowsOf rec.id =
        db.rowsOf rec.id ++ [j] := by
  induction recordings generalizing db with
  | nil => simp
  | cons rec rest ih =>
    obtain ⟨absent, distinct⟩ := List.nodup_cons.mp distinct
    have away (r : RecordingId) (ne : rec.id ≠ r) :
        (queueRecording settings inputs db rec).rowsOf r = db.rowsOf r :=
      rowsOf_enqueue_of_ne settings _ ne _ _ _
    have apart (other : Recording) (inRest : other ∈ rest) : rec.id ≠ other.id :=
      fun eq => absent (eq ▸ List.mem_map_of_mem inRest)
    have still : ∀ other ∈ rest,
        ∀ j ∈ (queueRecording settings inputs db rec).rowsOf other.id, ¬ j.live := by
      intro other inRest
      rw [away other.id (apart other inRest)]
      exact idle other (by simp [inRest])
    obtain ⟨elsewhere, queued⟩ := ih distinct still
    rw [List.foldl_cons]
    constructor
    · intro r outside
      simp only [List.map_cons, List.mem_cons, not_or] at outside
      rw [elsewhere r outside.2, away r (Ne.symm outside.1)]
    · intro other member
      rcases List.mem_cons.mp member with same | inRest
      · subst same
        have inserted := rowsOf_enqueue_of_idle settings (inputs.queuedAt other.id)
          (idle other (by simp)) (inputs.firstKind other) (inputs.stagesFor other)
          (inputs.firstPriority other)
        exact ⟨_, ⟨rfl, rfl, rfl, rfl, rfl, rfl, rfl⟩, (elsewhere other.id absent).trans inserted⟩
      · obtain ⟨j, first, rows⟩ := queued other inRest
        exact ⟨j, first, by rw [rows, away other.id (apart other inRest)]⟩

theorem rowsOf_rebuild (idle : ∀ j ∈ db.jobs, ¬ j.live) :
    (∀ r, (¬ ∃ rec ∈ db.recordings, rec.id = r ∧ eligible rec) →
      (rebuild settings inputs db).rowsOf r = db.rowsOf r) ∧
    ∀ rec ∈ db.recordings, eligible rec → ∃ j, FirstJob settings inputs rec j ∧
      (rebuild settings inputs db).rowsOf rec.id = db.rowsOf rec.id ++ [j] := by
  let invalidated := invalidateRecordings ((discovered db.recordings).map Recording.id)
    (inputs.expandStages inputs.stages) db
  have still : ∀ rec ∈ discovered db.recordings, ∀ j ∈ invalidated.rowsOf rec.id, ¬ j.live :=
    fun _ _ j member => idle j (mem_rowsOf.mp member).1
  have rows : (∀ r ∉ (discovered db.recordings).map Recording.id,
        (rebuild settings inputs db).rowsOf r = db.rowsOf r) ∧
      ∀ rec ∈ discovered db.recordings, ∃ j, FirstJob settings inputs rec j ∧
        (rebuild settings inputs db).rowsOf rec.id = db.rowsOf rec.id ++ [j] :=
    rowsOf_queueRecordings settings inputs (discovered db.recordings)
      (discovered_nodup db.recordings) still
  constructor
  · intro r outside
    refine rows.1 r ?_
    intro member
    obtain ⟨rec, found, rfl⟩ := List.mem_map.mp member
    obtain ⟨stored, chosen⟩ := mem_discovered.mp found
    exact outside ⟨rec, stored, rfl, chosen⟩
  · intro rec stored chosen
    exact rows.2 rec (mem_discovered.mpr ⟨stored, chosen⟩)

def Recording.waiting (rec : Recording) : Prop := rec.state = .queued ∨ rec.state = .processing

-- The newest row of the recording is one `clear` leaves cancelled.
def Db.unfinishedLast (db : Db) (r : RecordingId) : Prop :=
  ∃ j ∈ db.jobs, j.recordingId = some r ∧ j.state ≠ .completed ∧
    ∀ k ∈ db.jobs, k.recordingId = some r → ¬ j.id < k.id

theorem clearRow_not_live (now : Time) (reason : String) (j : Job) :
    ¬ (if j.retired then clearRow now reason j else j).live := by
  by_cases hit : j.retired
  · simp [hit, Job.live, clearRow]
  · have open_ : ¬ j.live := fun live => hit (live.elim .inl fun running => .inr (.inl running))
    simpa [hit] using open_

theorem clear_idle (now : Time) (reason : String) :
    ∀ j ∈ (clear now reason db).1.jobs, ¬ j.live := by
  intro j member
  obtain ⟨i, _, rfl⟩ := Db.mem_updateJobs.mp member
  exact clearRow_not_live now reason i

theorem clear_cancelledLast (now : Time) (reason : String) :
    (clear now reason db).1.cancelledLast r ↔ db.unfinishedLast r := by
  have ids (i : Job) : (if i.retired then clearRow now reason i else i).id = i.id := by
    split <;> rfl
  have groups (i : Job) :
      (if i.retired then clearRow now reason i else i).recordingId = i.recordingId := by
    split <;> rfl
  have states (i : Job) :
      (if i.retired then clearRow now reason i else i).state = .cancelled ↔
        i.state ≠ .completed := by
    cases state : i.state <;> simp [Job.retired, state, clearRow]
  constructor
  · rintro ⟨j, member, cancelled, here, last⟩
    obtain ⟨i, stored, rfl⟩ := Db.mem_updateJobs.mp member
    refine ⟨i, stored, groups i ▸ here, (states i).mp cancelled, ?_⟩
    intro k storedK hereK
    have later := last _ (Db.mem_updateJobs.mpr ⟨k, storedK, rfl⟩) ((groups k).trans hereK)
    rwa [ids, ids] at later
  · rintro ⟨i, stored, here, state, last⟩
    refine ⟨_, Db.mem_updateJobs.mpr ⟨i, stored, rfl⟩, (states i).mpr state,
      (groups i).trans here, ?_⟩
    intro k member hereK
    obtain ⟨k, storedK, rfl⟩ := Db.mem_updateJobs.mp member
    rw [ids, ids]
    exact last k storedK (groups k ▸ hereK)

theorem find?_release : (releaseStrandedRecordings db).1.recordings.find? r =
    (db.recordings.find? r).map fun rec =>
      if stranded db rec then { rec with state := .discovered } else rec :=
  find?_updateRecordings

theorem release_waiting {rec : Recording}
    (found : (releaseStrandedRecordings db).1.recordings.find? r = some rec)
    (waiting : rec.waiting) :
    db.recordings.find? r = some rec ∧ (db.hasLive r ∨ db.cancelledLast r) := by
  rw [find?_release] at found
  obtain ⟨before, foundBefore, rfl⟩ := Option.map_eq_some_iff.mp found
  obtain ⟨_, rfl⟩ := Table.find?_mem foundBefore
  by_cases hit : stranded db before
  · simp [hit, Recording.waiting] at waiting
  · simp only [hit, if_false] at waiting ⊢
    refine ⟨foundBefore, ?_⟩
    by_contra neither
    simp only [not_or] at neither
    exact hit ⟨waiting.symm, neither⟩

theorem release_keeps {rec : Recording} (found : db.recordings.find? r = some rec)
    (kept : db.hasLive r ∨ db.cancelledLast r) :
    (releaseStrandedRecordings db).1.recordings.find? r = some rec := by
  obtain ⟨_, rfl⟩ := Table.find?_mem found
  have not : ¬ stranded db rec := fun hit => kept.elim hit.2.1 hit.2.2
  simp [find?_release, found, not]

namespace ResetInputs

def requeued (inputs : ResetInputs) (rec : Recording) : Prop :=
  inputs.abort ≠ .stillRunning ∧ eligible rec

def wiped (inputs : ResetInputs) (db : Db) : Db :=
  { (clear inputs.clearedAt resetReason db).1 with recordings := inputs.recordings }

end ResetInputs

theorem wiped_idle (db : Db) : ∀ j ∈ (inputs.wiped db).jobs, ¬ j.live := clear_idle _ _

theorem wiped_cancelledLast (db : Db) : (inputs.wiped db).cancelledLast r ↔ db.unfinishedLast r :=
  clear_cancelledLast _ _

theorem not_hasLive_of_idle (idle : ∀ j ∈ db.jobs, ¬ j.live) : ¬ db.hasLive r := by
  rintro ⟨j, stored, live, _⟩
  exact idle j stored live

theorem reset_stillRunning (abort : inputs.abort = .stillRunning) :
    (resetUnderBarrier settings inputs db).1 = inputs.wiped db := by
  simp [resetUnderBarrier, abort, ResetInputs.wiped]

theorem reset_stopped {runs : Nat} (abort : inputs.abort = .stopped runs) :
    (resetUnderBarrier settings inputs db).1 =
      (releaseStrandedRecordings (rebuild settings inputs (inputs.wiped db))).1 := by
  simp [resetUnderBarrier, abort, ResetInputs.wiped]

theorem reset_requeued {rec : Recording} (stored : rec ∈ inputs.recordings)
    (requeued : inputs.requeued rec) :
    (resetUnderBarrier settings inputs db).1.hasLive rec.id := by
  obtain ⟨returned, chosen⟩ := requeued
  cases abort : inputs.abort with
  | stillRunning => exact absurd abort returned
  | stopped runs =>
    obtain ⟨j, first, rows⟩ := (rowsOf_rebuild settings inputs
      (wiped_idle inputs db)).2 rec stored chosen
    rw [reset_stopped settings inputs abort]
    have member : j ∈ (rebuild settings inputs (inputs.wiped db)).rowsOf rec.id := by simp [rows]
    exact hasLive_iff.mpr ⟨j, member, .inl first.state⟩

theorem footage_reset (db : Db) : (resetUnderBarrier settings inputs db).1.footage r =
    (inputs.recordings.find? r).map footage := by
  cases abort : inputs.abort with
  | stillRunning => rw [reset_stillRunning settings inputs abort]; rfl
  | stopped runs =>
    rw [reset_stopped settings inputs abort, footage_release, footage_rebuild]
    rfl

theorem reset_others (db : Db) {rec : Recording} (stored : rec ∈ inputs.recordings)
    (others : ¬ inputs.requeued rec) :
    (resetUnderBarrier settings inputs db).1.rowsOf rec.id = (inputs.wiped db).rowsOf rec.id ∧
    ((inputs.wiped db).cancelledLast rec.id →
      (resetUnderBarrier settings inputs db).1.recordings.find? rec.id = some rec) ∧
    ∀ after, (resetUnderBarrier settings inputs db).1.recordings.find? rec.id = some after →
      after.waiting → after = rec := by
  have found : inputs.recordings.find? rec.id = some rec := Table.find?_self stored
  cases abort : inputs.abort with
  | stillRunning =>
    rw [reset_stillRunning settings inputs abort]
    exact ⟨rfl, fun _ => found, fun after same _ => Option.some.inj (same.symm.trans found)⟩
  | stopped runs =>
    have passed : ¬ eligible rec := fun chosen => others ⟨by simp [abort], chosen⟩
    have outside : rec.id ∉ (discovered (inputs.wiped db).recordings).map Recording.id := by
      intro member
      obtain ⟨other, foundOther, same⟩ := List.mem_map.mp member
      obtain ⟨storedOther, chosen⟩ := mem_discovered.mp foundOther
      exact passed (Table.eq_of_key storedOther stored same ▸ chosen)
    have kept : (rebuild settings inputs (inputs.wiped db)).recordings.find? rec.id = some rec :=
      (find?_rebuild_of_not_mem settings inputs outside).trans found
    have rows := (rowsOf_rebuild settings inputs
      (wiped_idle inputs db)).1 rec.id (by
        rintro ⟨other, storedOther, same, chosen⟩
        exact passed (Table.eq_of_key storedOther stored same ▸ chosen))
    rw [reset_stopped settings inputs abort]
    refine ⟨rows, ?_, ?_⟩
    · intro cancelled
      refine release_keeps kept (.inr ?_)
      rwa [cancelledLast_iff, rows, ← cancelledLast_iff]
    · intro after foundAfter waiting
      have before := (release_waiting foundAfter waiting).1
      exact Option.some.inj (before.symm.trans kept)

theorem reset_strands {rec : Recording} (stored : rec ∈ inputs.recordings)
    (others : ¬ inputs.requeued rec) (unfinished : db.unfinishedLast rec.id) :
    let after := (releaseStrandedRecordings (resetUnderBarrier settings inputs db).1).1
    after.recordings.find? rec.id = some rec ∧ ¬ after.hasLive rec.id := by
  obtain ⟨rows, keeps, _⟩ := reset_others settings inputs db stored others
  have cancelled : (inputs.wiped db).cancelledLast rec.id :=
    (wiped_cancelledLast inputs db).mpr unfinished
  have last : (resetUnderBarrier settings inputs db).1.cancelledLast rec.id := by
    rwa [cancelledLast_iff, rows, ← cancelledLast_iff]
  have none_ : ¬ (resetUnderBarrier settings inputs db).1.hasLive rec.id := by
    rw [hasLive_iff, rows, ← hasLive_iff]
    exact not_hasLive_of_idle (wiped_idle inputs db)
  exact ⟨release_keeps (keeps cancelled) (.inr last), none_⟩

/-- Which recordings a reset leaves waiting for nobody, whoever is excused. -/
theorem reset_strands_none_iff (settings : Settings) (inputs : ResetInputs) (db : Db)
    (stopped : RecordingId → Prop) :
    (∀ rec ∈ (releaseStrandedRecordings (resetUnderBarrier settings inputs db).1).1.recordings,
      rec.waiting → ¬ stopped rec.id →
        (releaseStrandedRecordings (resetUnderBarrier settings inputs db).1).1.hasLive rec.id) ↔
    ∀ rec ∈ inputs.recordings, rec.waiting → ¬ stopped rec.id →
      inputs.requeued rec ∨ ¬ db.unfinishedLast rec.id := by
  constructor
  · intro served rec stored waiting free
    by_contra neither
    simp only [not_or, not_not] at neither
    obtain ⟨found, none_⟩ := reset_strands settings inputs stored neither.1 neither.2
    exact none_ (served rec (Table.find?_mem found).1 waiting free)
  · intro served after member waiting free
    obtain ⟨found, kept⟩ := release_waiting (Table.find?_self member) waiting
    rcases kept with live | cancelled
    · exact live
    · obtain ⟨rec, stored, same⟩ : ∃ rec ∈ inputs.recordings, rec.id = after.id := by
        have known := footage_reset settings inputs db (r := after.id)
        rw [Db.footage, found] at known
        obtain ⟨rec, before, _⟩ := Option.map_eq_some_iff.mp known.symm
        exact ⟨rec, (Table.find?_mem before).1, (Table.find?_mem before).2⟩
      by_cases requeued : inputs.requeued rec
      · exact same ▸ reset_requeued settings inputs stored requeued
      · obtain ⟨rows, _, unchanged⟩ := reset_others settings inputs db stored requeued
        rw [same] at rows unchanged
        obtain rfl : after = rec := unchanged after found waiting
        rw [cancelledLast_iff, rows, ← cancelledLast_iff, wiped_cancelledLast inputs db] at cancelled
        rcases served after stored waiting free with again | finished
        · exact absurd again requeued
        · exact absurd cancelled finished

def vanishedClip : Db where
  jobs := ⟨[{ freshJob ⟨3, 300⟩ 0 (some 1) .process none bulkPriority with id := 1 }], by simp⟩
  recordings := ⟨[{
    id := 1
    startedAt := some 0
    ignored := false
    fileMissing := true
    state := .queued
    metadataState := .done
    errorMessage := none
    processedAt := none
    fingerprint := some "f"
    thumbnailPath := none
    probeJson := none }], by simp⟩

theorem reset_strands_vanished :
    ¬ ∀ (settings : Settings) (inputs : ResetInputs) (db : Db) (stopped : RecordingId → Prop),
      inputs.recordings = db.recordings →
      (∀ rec ∈ db.recordings, rec.waiting → db.hasLive rec.id) →
      ∀ rec ∈ (releaseStrandedRecordings (resetUnderBarrier settings inputs db).1).1.recordings,
        rec.waiting → ¬ stopped rec.id →
          (releaseStrandedRecordings (resetUnderBarrier settings inputs db).1).1.hasLive rec.id := by
  intro served
  let inputs : ResetInputs := {
    clearedAt := 1
    openedAt := 2
    queuedAt := fun _ => 2
    expandStages := fun _ => ["metadata", "telemetry", "detection", "plates", "summarise"]
    thumbnailIsUsable := Option.isSome
    stages := none
    abort := .stopped 0
    recordings := vanishedClip.recordings }
  have live : ∀ rec ∈ vanishedClip.recordings.rows, vanishedClip.hasLive rec.id := by decide
  have every := served ⟨3, 300⟩ inputs vanishedClip (fun _ => False) rfl
    (fun rec stored _ => live rec stored)
  have unfinished : ∀ rec ∈ vanishedClip.recordings.rows, ∃ j ∈ vanishedClip.jobs.rows,
      j.recordingId = some rec.id ∧ j.state ≠ .completed ∧
        ∀ k ∈ vanishedClip.jobs.rows, k.recordingId = some rec.id → ¬ j.id < k.id := by decide
  have missing : ∀ rec ∈ vanishedClip.recordings.rows, rec.state = .queued ∧ ¬ eligible rec := by
    decide
  obtain ⟨rec, stored⟩ : ∃ rec, rec ∈ vanishedClip.recordings := ⟨_, List.mem_singleton.mpr rfl⟩
  obtain ⟨found, none_⟩ := reset_strands ⟨3, 300⟩ inputs stored
    (fun requeued => (missing rec stored).2 requeued.2) (unfinished rec stored)
  exact none_ (every rec (Table.find?_mem found).1 (.inl (missing rec stored).1) not_false)

end DashcamStats.Queue
