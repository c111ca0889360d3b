import DashcamStats.Queue.Changes
import DashcamStats.Queue.Reset

namespace DashcamStats.Queue

def Job.ended (j : Job) : Prop := j.state = .completed ∨ j.state = .failed

theorem Job.ended.not_live {j : Job} (ended : j.ended) : ¬ j.live := by
  rcases ended with state | state <;> simp [Job.live, state]

def Job.inTurn (j : Job) : Prop := j.startedAt = none → j.state = .queued ∧ j.notBefore = none

structure IsThumbnail (inputs : ResetInputs) (rec : Recording) (t : Job) : Prop where
  kind : t.kind = .thumbnail
  stages : t.stages = inputs.stagesFor rec
  priority : t.priority = thumbnailPriority
  inTurn : t.inTurn

structure IsAnalysis (rec : Recording) (stages : Option (List String)) (a : Job) : Prop where
  kind : a.kind = analysisKind rec
  stages : a.stages = stages
  priority : a.priority = bulkPriority
  state : a.live ∨ a.ended
  inTurn : a.inTurn

/-- The rows a recording has been given since the reset: its thumbnail job while that lasts, and
then its analysis; or its analysis alone. -/
inductive Course (inputs : ResetInputs) (rec : Recording) : List Job → Prop
  | thumbnail {t : Job} (missing : inputs.needsThumbnail rec) (first : IsThumbnail inputs rec t)
      (live : t.live) : Course inputs rec [t]
  | afterThumbnail {t a : Job} (missing : inputs.needsThumbnail rec)
      (first : IsThumbnail inputs rec t) (ended : t.ended)
      (then_ : IsAnalysis rec (carriedStages (inputs.stagesFor rec)) a) : Course inputs rec [t, a]
  | analysis {a : Job} (present : ¬ inputs.needsThumbnail rec)
      (only : IsAnalysis rec (inputs.stagesFor rec) a) : Course inputs rec [a]

def drains (db : Db) (call : Call) : Prop :=
  match call.op with
  | .claimNext _ _ _ => True
  | .complete job _ _ _ _ => ∀ j ∈ db.jobs, j.id = job → j.state = .running
  | .fail job _ _ _ => ∀ j ∈ db.jobs, j.id = job → j.state = .running
  | _ => False

variable (settings : Settings) (inputs : ResetInputs)
variable {rec : Recording}

theorem analysisKind_ne_thumbnail (rec : Recording) : analysisKind rec ≠ .thumbnail := by
  unfold analysisKind
  split <;> simp

/-- The invariant of a run that works off the queue a reset rebuilt from `start`. -/
structure Draining (start db : Db) : Prop where
  course : ∀ rec ∈ inputs.recordings, eligible rec → ∃ new,
    db.rowsOf rec.id = (inputs.wiped start).rowsOf rec.id ++ new ∧ Course inputs rec new
  owned : ∀ j ∈ db.jobs, j.live → ∃ rec ∈ inputs.recordings, eligible rec ∧
    j.recordingId = some rec.id
  footage : ∀ r, db.footage r = (inputs.recordings.find? r).map footage

theorem mem_enqueue {settings : Settings} {now : Time} {db : Db} {r : RecordingId} {kind : JobKind}
    {stages : Option (List String)} {priority : Int} {j : Job}
    (member : j ∈ (enqueue settings now (some r) kind stages priority false db).1.jobs) :
    j ∈ db.jobs ∨ j.recordingId = some r := by
  simp only [enqueue, Bool.false_eq_true, if_false] at member
  split at member
  · exact .inl member
  · rcases Db.mem_addJob.mp member with old | rfl
    · exact .inl old
    · exact .inr rfl

theorem mem_rebuild {db : Db} {j : Job} (member : j ∈ (rebuild settings inputs db).jobs) :
    j ∈ db.jobs ∨ ∃ rec ∈ db.recordings, eligible rec ∧ j.recordingId = some rec.id := by
  have fold (recordings : List Recording) (current : Db)
      (member : j ∈ (recordings.foldl (queueRecording settings inputs) current).jobs) :
      j ∈ current.jobs ∨ ∃ rec ∈ recordings, j.recordingId = some rec.id := by
    induction recordings generalizing current with
    | nil => exact .inl member
    | cons rec rest ih =>
      rcases ih _ member with before | ⟨other, inRest, here⟩
      · rcases mem_enqueue before with old | here
        · exact .inl old
        · exact .inr ⟨rec, by simp, here⟩
      · exact .inr ⟨other, by simp [inRest], here⟩
  rcases fold _ _ member with old | ⟨rec, found, here⟩
  · exact .inl old
  · obtain ⟨stored, chosen⟩ := mem_discovered.mp found
    exact .inr ⟨rec, stored, chosen, here⟩

theorem FirstJob.course {j : Job} (first : FirstJob settings inputs rec j) :
    Course inputs rec [j] := by
  have inTurn : j.inTurn := fun _ => ⟨first.state, first.notBefore⟩
  by_cases missing : inputs.needsThumbnail rec
  · have kind := first.kind
    have priority := first.priority
    simp only [ResetInputs.firstKind, ResetInputs.firstPriority, missing, if_true] at kind priority
    exact .thumbnail missing ⟨kind, first.stages, priority, inTurn⟩ (.inl first.state)
  · have kind := first.kind
    have priority := first.priority
    simp only [ResetInputs.firstKind, ResetInputs.firstPriority, missing, if_false] at kind priority
    exact .analysis missing ⟨kind, first.stages, priority, .inl (.inl first.state), inTurn⟩

theorem draining_reset (db : Db) {runs : Nat} (abort : inputs.abort = .stopped runs) :
    Draining inputs db (resetUnderBarrier settings inputs db).1 := by
  have idle := wiped_idle inputs db
  constructor
  · intro rec stored chosen
    obtain ⟨j, first, rows⟩ := (rowsOf_rebuild settings inputs idle).2 rec stored chosen
    rw [reset_stopped settings inputs abort]
    exact ⟨[j], rows, first.course⟩
  · intro j member live
    rw [reset_stopped settings inputs abort] at member
    rcases mem_rebuild settings inputs member with old | ⟨rec, stored, chosen, here⟩
    · exact absurd live (idle j old)
    · exact ⟨rec, stored, chosen, here⟩
  · exact fun r => footage_reset settings inputs db

structure Moves (j k : Job) : Prop where
  kind : k.kind = j.kind
  stages : k.stages = j.stages
  priority : k.priority = j.priority
  live : j.live
  started : k.startedAt ≠ none
  state : k.live ∨ j.kind ≠ .thumbnail ∧ k.ended

theorem Moves.isAnalysis {stages : Option (List String)} {j k : Job} (moves : Moves j k)
    (analysis : IsAnalysis rec stages j) : IsAnalysis rec stages k where
  kind := moves.kind.trans analysis.kind
  stages := moves.stages.trans analysis.stages
  priority := moves.priority.trans analysis.priority
  state := moves.state.imp id And.right
  inTurn := fun unclaimed => absurd unclaimed moves.started

theorem Moves.isThumbnail {j k : Job} (moves : Moves j k) (thumbnail : IsThumbnail inputs rec j) :
    IsThumbnail inputs rec k ∧ k.live := by
  refine ⟨⟨moves.kind.trans thumbnail.kind, moves.stages.trans thumbnail.stages,
    moves.priority.trans thumbnail.priority, fun unclaimed => absurd unclaimed moves.started⟩, ?_⟩
  rcases moves.state with live | ⟨other, _⟩
  · exact live
  · exact absurd thumbnail.kind other

theorem Course.map {new : List Job} (course : Course inputs rec new) (g : Job → Job)
    (step : ∀ j ∈ new, g j = j ∨ Moves j (g j)) : Course inputs rec (new.map g) := by
  cases course with
  | @thumbnail t missing first live =>
    rcases step t (by simp) with same | moves
    · simpa [same] using Course.thumbnail missing first live
    · obtain ⟨first, live⟩ := moves.isThumbnail inputs first
      exact .thumbnail missing first live
  | @afterThumbnail t a missing first ended then_ =>
    have same : g t = t := by
      rcases step t (by simp) with same | moves
      · exact same
      · exact absurd moves.live ended.not_live
    rcases step a (by simp) with sameA | moves
    · simpa [same, sameA] using Course.afterThumbnail missing first ended then_
    · simpa [same] using Course.afterThumbnail missing first ended (moves.isAnalysis then_)
  | @analysis a present only =>
    rcases step a (by simp) with same | moves
    · simpa [same] using Course.analysis present only
    · exact .analysis present (moves.isAnalysis only)

section Step

variable {start db : Db}

theorem rowsOf_update_live {job : Job} (stored : job ∈ db.jobs) (live : job.live)
    (f : Job → Job) (keeps : ∀ j, (f j).id = j.id)
    (same : ∀ j, (f j).recordingId = j.recordingId) {r : RecordingId} {new : List Job}
    (rows : db.rowsOf r = (inputs.wiped start).rowsOf r ++ new) :
    (db.updateJobs (fun j => j.id = job.id) f keeps).rowsOf r =
      (inputs.wiped start).rowsOf r ++ new.map fun j => if j.id = job.id then f j else j := by
  rw [rowsOf_updateJobs _ f keeps same, rows, List.map_append]
  congr 1
  refine (List.map_congr_left ?_).trans (List.map_id _)
  intro j old
  have ne : j.id ≠ job.id := by
    intro eq
    have storedJ : j ∈ db.jobs := (mem_rowsOf.mp (rows ▸ List.mem_append_left new old)).1
    obtain rfl : j = job := Table.eq_of_key storedJ stored eq
    exact wiped_idle inputs start j (mem_rowsOf.mp old).1 live
  simp [ne]

theorem Draining.live_row (held : Draining inputs start db) {job : Job}
    (stored : job ∈ db.jobs) (live : job.live) :
    ∃ rec ∈ inputs.recordings, eligible rec ∧ job.recordingId = some rec.id ∧
      ∃ new, db.rowsOf rec.id = (inputs.wiped start).rowsOf rec.id ++ new ∧
        Course inputs rec new ∧ job ∈ new := by
  obtain ⟨rec, storedRec, chosen, here⟩ := held.owned job stored live
  obtain ⟨new, rows, course⟩ := held.course rec storedRec chosen
  refine ⟨rec, storedRec, chosen, here, new, rows, course, ?_⟩
  have member : job ∈ (inputs.wiped start).rowsOf rec.id ++ new :=
    rows ▸ mem_rowsOf.mpr ⟨stored, here⟩
  rcases List.mem_append.mp member with old | inNew
  · exact absurd live (wiped_idle inputs start job (mem_rowsOf.mp old).1)
  · exact inNew

theorem Course.inTurn {new : List Job} (course : Course inputs rec new) {j : Job}
    (member : j ∈ new) : j.inTurn := by
  cases course with
  | thumbnail missing first live => simpa using List.mem_singleton.mp member ▸ first.inTurn
  | afterThumbnail missing first ended then_ =>
    rcases List.mem_cons.mp member with rfl | rest
    · exact first.inTurn
    · exact List.mem_singleton.mp rest ▸ then_.inTurn
  | analysis present only => exact List.mem_singleton.mp member ▸ only.inTurn

theorem Draining.started (held : Draining inputs start db) {job : Job}
    (stored : job ∈ db.jobs) (running : job.state = .running) :
    job.startedAt ≠ none := by
  obtain ⟨rec, _, _, _, new, _, course, member⟩ := held.live_row inputs stored (.inr running)
  intro unclaimed
  have waiting := (course.inTurn inputs member unclaimed).1
  simp [running] at waiting

theorem Draining.update (held : Draining inputs start db) {job : Job}
    (stored : job ∈ db.jobs) (f : Job → Job)
    (keeps : ∀ j, (f j).id = j.id) (same : ∀ j, (f j).recordingId = j.recordingId)
    (moves : Moves job (f job)) :
    Draining inputs start (db.updateJobs (fun j => j.id = job.id) f keeps) := by
  constructor
  · intro rec storedRec chosen
    obtain ⟨new, rows, course⟩ := held.course rec storedRec chosen
    refine ⟨_, rowsOf_update_live inputs stored moves.live f keeps same rows,
      course.map inputs _ ?_⟩
    intro j member
    by_cases hit : j.id = job.id
    · have storedJ : j ∈ db.jobs := (mem_rowsOf.mp (rows ▸ List.mem_append_right _ member)).1
      obtain rfl : j = job := Table.eq_of_key storedJ stored hit
      exact .inr (by simpa using moves)
    · exact .inl (by simp [hit])
  · intro k member live
    obtain ⟨j, storedJ, rfl⟩ := Db.mem_updateJobs.mp member
    by_cases hit : j.id = job.id
    · obtain rfl : j = job := Table.eq_of_key storedJ stored hit
      obtain ⟨rec, storedRec, chosen, here⟩ := held.owned j storedJ moves.live
      exact ⟨rec, storedRec, chosen, by simpa [same] using here⟩
    · simp only [hit, if_false] at live ⊢
      exact held.owned j storedJ live
  · exact held.footage

theorem Draining.finish_thumbnail (held : Draining inputs start db) (now : Time) {job : Job}
    (stored : job ∈ db.jobs) (live : job.live) (kind : job.kind = .thumbnail) (f : Job → Job)
    (keeps : ∀ j, (f j).id = j.id) (same : ∀ j, (f j).recordingId = j.recordingId)
    (ended : (f job).ended) (first : ∀ rec, IsThumbnail inputs rec job →
      IsThumbnail inputs rec (f job)) :
    Draining inputs start (followUpAfterThumbnail settings now job
      (db.updateJobs (fun j => j.id = job.id) f keeps)) := by
  obtain ⟨rec, storedRec, chosen, here, new, rows, course, member⟩ :=
    held.live_row inputs stored live
  obtain ⟨rfl, missing, thumbnail⟩ : new = [job] ∧ inputs.needsThumbnail rec ∧
      IsThumbnail inputs rec job := by
    cases course with
    | thumbnail missing thumbnail =>
      obtain rfl := List.mem_singleton.mp member
      exact ⟨rfl, missing, thumbnail⟩
    | afterThumbnail missing thumbnail closed then_ =>
      rcases List.mem_cons.mp member with rfl | rest
      · exact absurd live closed.not_live
      · obtain rfl := List.mem_singleton.mp rest
        exact absurd (then_.kind.symm.trans kind) (analysisKind_ne_thumbnail rec)
    | analysis present only =>
      obtain rfl := List.mem_singleton.mp member
      exact absurd (only.kind.symm.trans kind) (analysisKind_ne_thumbnail rec)
  let mid := db.updateJobs (fun j => j.id = job.id) f keeps
  have rowsMid : mid.rowsOf rec.id = (inputs.wiped start).rowsOf rec.id ++ [f job] := by
    simpa using rowsOf_update_live inputs stored live f keeps same rows
  have idle : ∀ j ∈ mid.rowsOf rec.id, ¬ j.live := by
    intro j inRows
    rw [rowsMid] at inRows
    rcases List.mem_append.mp inRows with old | last
    · exact wiped_idle inputs start j (mem_rowsOf.mp old).1
    · exact List.mem_singleton.mp last ▸ ended.not_live
  obtain ⟨rec', found, sameFootage⟩ : ∃ rec', mid.recordings.find? rec.id = some rec' ∧
      Queue.footage rec' = Queue.footage rec := by
    have known := held.footage rec.id
    rw [Table.find?_self storedRec, Db.footage] at known
    exact Option.map_eq_some_iff.mp known
  simp only [Queue.footage, Prod.mk.injEq] at sameFootage
  have queued : followUpAfterThumbnail settings now job mid =
      (enqueue settings now (some rec.id) (analysisKind rec) (carriedStages job.stages)
        bulkPriority false mid).1 := by
    have white : rec'.ignored = false := sameFootage.2.1.trans chosen.1
    have sameKind : analysisKind rec' = analysisKind rec := by
      simp only [analysisKind, sameFootage.2.2]
    simp [followUpAfterThumbnail, kind, here, found, white, sameKind]
  rw [queued]
  constructor
  · intro other storedOther chosenOther
    by_cases eq : other.id = rec.id
    · obtain rfl : other = rec := Table.eq_of_key storedOther storedRec eq
      have inserted := rowsOf_enqueue_of_idle settings now idle (analysisKind other)
        (carriedStages job.stages) bulkPriority
      rw [rowsMid, List.append_assoc] at inserted
      refine ⟨_, inserted, ?_⟩
      refine .afterThumbnail missing (first other thumbnail) ended ⟨rfl, ?_, rfl, ?_, ?_⟩
      · rw [← thumbnail.stages]; rfl
      · exact .inl (.inl rfl)
      · exact fun _ => ⟨rfl, rfl⟩
    · obtain ⟨new, rowsOther, courseOther⟩ := held.course other storedOther chosenOther
      refine ⟨new, ?_, courseOther⟩
      rw [rowsOf_enqueue_of_ne settings now (Ne.symm eq), ← rowsOther]
      refine rowsOf_updateJobs_of_ne _ f keeps same ?_
      intro j storedJ hit
      obtain rfl : j = job := Table.eq_of_key storedJ stored hit
      simpa [here] using Ne.symm eq
  · intro k memberK liveK
    rcases mem_enqueue memberK with before | here
    · obtain ⟨j, storedJ, rfl⟩ := Db.mem_updateJobs.mp before
      by_cases hit : j.id = job.id
      · obtain rfl : j = job := Table.eq_of_key storedJ stored hit
        simp only [if_true] at liveK
        exact absurd liveK ended.not_live
      · simp only [hit, if_false] at liveK ⊢
        exact held.owned j storedJ liveK
    · exact ⟨rec, storedRec, chosen, here⟩
  · intro r
    rw [footage_enqueue]
    exact held.footage r

theorem Draining.of_recordings (held : Draining inputs start db) {next : Db}
    (jobs : next.jobs = db.jobs) (same : ∀ r, next.footage r = db.footage r) :
    Draining inputs start next := by
  refine ⟨?_, ?_, fun r => (same r).trans (held.footage r)⟩
  · intro rec stored chosen
    rw [rowsOf_congr jobs]
    exact held.course rec stored chosen
  · rw [jobs]
    exact held.owned

theorem Draining.claim (held : Draining inputs start db) (now : Time) (workerId : String)
    {job : Job} (stored : job ∈ db.jobs) (waiting : job.state = .queued) :
    Draining inputs start (Queue.claim now workerId job db) := by
  have moved := held.update inputs stored (claimRow now workerId) (fun _ => rfl) (fun _ => rfl)
    { kind := rfl
      stages := rfl
      priority := rfl
      live := .inl waiting
      started := by simp [claimRow]
      state := .inl (.inr rfl) }
  exact moved.of_recordings inputs rfl fun r => footage_updateRecordings fun _ => rfl

theorem Draining.finish (held : Draining inputs start db) (now : Time) {job : Job}
    (stored : job ∈ db.jobs) (running : job.state = .running) (f : Job → Job)
    (keeps : ∀ j, (f j).id = j.id) (same : ∀ j, (f j).recordingId = j.recordingId)
    (ended : (f job).ended) (kept : (f job).kind = job.kind ∧ (f job).stages = job.stages ∧
      (f job).priority = job.priority ∧ (f job).startedAt = job.startedAt) :
    Draining inputs start (followUpAfterThumbnail settings now job
      (db.updateJobs (fun j => j.id = job.id) f keeps)) := by
  have started : (f job).startedAt ≠ none := by
    rw [kept.2.2.2]
    exact held.started inputs stored running
  by_cases kind : job.kind = .thumbnail
  · refine held.finish_thumbnail settings inputs now stored (.inr running) kind f keeps same ended
      ?_
    intro rec first
    exact ⟨kept.1.trans first.kind, kept.2.1.trans first.stages,
      kept.2.2.1.trans first.priority, fun unclaimed => absurd unclaimed started⟩
  · have moved := held.update inputs stored f keeps same
      ⟨kept.1, kept.2.1, kept.2.2.1, .inr running, started, .inr ⟨kind, ended⟩⟩
    simpa [followUpAfterThumbnail, kind] using moved

theorem Draining.fail (held : Draining inputs start db) (now : Time) {job : Job}
    (stored : job ∈ db.jobs) (running : job.state = .running) (message : String)
    (permanent transient : Bool) :
    Draining inputs start (Queue.fail settings now job message permanent transient db) := by
  have started := held.started inputs stored running
  unfold Queue.fail
  cases outcome : failOutcome job permanent transient with
  | failed =>
    exact held.finish settings inputs now stored running (failRow now message job .failed)
      (failRow_id now message job .failed) (fun _ => rfl) (.inr rfl) ⟨rfl, rfl, rfl, rfl⟩
  | refunded granted =>
    exact held.update inputs stored (failRow now message job (.refunded granted))
      (failRow_id now message job _) (fun _ => rfl)
      ⟨rfl, rfl, rfl, .inr running, started, .inl (.inl rfl)⟩
  | retried delay =>
    exact held.update inputs stored (failRow now message job (.retried delay))
      (failRow_id now message job _) (fun _ => rfl)
      ⟨rfl, rfl, rfl, .inr running, started, .inl (.inl rfl)⟩

theorem Draining.apply (held : Draining inputs start db) (call : Call) (allowed : drains db call) :
    Draining inputs start (call.op.apply settings call.now db) := by
  obtain ⟨now, op⟩ := call
  cases op <;> simp only [drains] at allowed <;> simp only [Op.apply]
  case claimNext =>
    split
    · exact held
    · rename_i found
      split
      · rename_i next
        exact held.claim inputs now _ (Table.find?_mem found).1 next.1.1
      · exact held
  case complete =>
    split
    · exact held
    · rename_i found
      obtain ⟨stored, rfl⟩ := Table.find?_mem found
      split
      · exact held
      · exact held.finish settings inputs now stored (allowed _ stored rfl)
          (completeRow now _ _ _ _) (fun _ => rfl) (fun _ => rfl) (.inl rfl) ⟨rfl, rfl, rfl, rfl⟩
  case fail =>
    split
    · exact held
    · rename_i found
      obtain ⟨stored, rfl⟩ := Table.find?_mem found
      split
      · exact held
      · exact held.fail settings inputs now stored (allowed _ stored rfl) _ _ _

theorem Course.live_unique {new : List Job} (course : Course inputs rec new) :
    (∃ j ∈ new, j.live ∧ ∀ k ∈ new, k.live → k = j) ∨
      ∃ a ∈ new, a.kind = analysisKind rec ∧ a.ended := by
  cases course with
  | @thumbnail t missing first live =>
    exact .inl ⟨t, by simp, live, fun k member _ => List.mem_singleton.mp member⟩
  | @afterThumbnail t a missing first ended then_ =>
    rcases then_.state with live | closed
    · refine .inl ⟨a, by simp, live, ?_⟩
      intro k member liveK
      rcases List.mem_cons.mp member with rfl | rest
      · exact absurd liveK ended.not_live
      · exact List.mem_singleton.mp rest
    · exact .inr ⟨a, by simp, then_.kind, closed⟩
  | @analysis a present only =>
    rcases only.state with live | closed
    · exact .inl ⟨a, by simp, live, fun k member _ => List.mem_singleton.mp member⟩
    · exact .inr ⟨a, by simp, only.kind, closed⟩

theorem Course.eq_of_live {new : List Job} (course : Course inputs rec new) {j k : Job}
    (memberJ : j ∈ new) (liveJ : j.live) (memberK : k ∈ new) (liveK : k.live) : j = k := by
  have one (a : Job) (inJ : j ∈ [a]) (inK : k ∈ [a]) : j = k :=
    (List.mem_singleton.mp inJ).trans (List.mem_singleton.mp inK).symm
  cases course with
  | @thumbnail t missing first live => exact one t memberJ memberK
  | @afterThumbnail t a missing first ended then_ =>
    have last (i : Job) (member : i ∈ [t, a]) (live : i.live) : i ∈ [a] := by
      rcases List.mem_cons.mp member with rfl | rest
      · exact absurd live ended.not_live
      · exact rest
    exact one a (last j memberJ liveJ) (last k memberK liveK)
  | @analysis a present only => exact one a memberJ memberK

theorem Course.of_live {new : List Job} (course : Course inputs rec new) {j : Job}
    (member : j ∈ new) (live : j.live) :
    (j.kind = .thumbnail ∧ j.priority = thumbnailPriority ∧ new = [j]) ∨
      (j.kind = analysisKind rec ∧ j.priority = bulkPriority) := by
  cases course with
  | thumbnail missing first _ =>
    obtain rfl := List.mem_singleton.mp member
    exact .inl ⟨first.kind, first.priority, rfl⟩
  | afterThumbnail missing first ended then_ =>
    rcases List.mem_cons.mp member with rfl | rest
    · exact absurd live ended.not_live
    · obtain rfl := List.mem_singleton.mp rest
      exact .inr ⟨then_.kind, then_.priority⟩
  | analysis present only =>
    obtain rfl := List.mem_singleton.mp member
    exact .inr ⟨only.kind, only.priority⟩

end Step

-- `started_at IS NULL, started_at`
def Recording.startOrder (rec : Recording) : Bool ×ₗ Time :=
  toLex (rec.startedAt.isNone, rec.startedAt.getD 0)

theorem claimKey_le {db : Db} {j k : Job} (le : db.claimKey j ≤ db.claimKey k) :
    j.priority ≤ k.priority ∧ (j.priority = k.priority →
      toLex ((db.startedAt j).isNone, (db.startedAt j).getD 0) ≤
        toLex ((db.startedAt k).isNone, (db.startedAt k).getD 0)) := by
  obtain ⟨priority, rest⟩ := Prod.Lex.toLex_le_toLex'.mp le
  refine ⟨priority, fun same => ?_⟩
  obtain ⟨known, later⟩ := Prod.Lex.toLex_le_toLex'.mp (rest same)
  exact Prod.Lex.toLex_le_toLex'.mpr ⟨known, fun eq => (Prod.Lex.toLex_le_toLex'.mp (later eq)).1⟩

section Order

variable {start db : Db}

theorem Draining.startedAt (held : Draining inputs start db) {j : Job}
    (storedRec : rec ∈ inputs.recordings) (here : j.recordingId = some rec.id) :
    db.startedAt j = rec.startedAt := by
  have known := held.footage rec.id
  rw [Table.find?_self storedRec, Db.footage] at known
  obtain ⟨rec', found, same⟩ := Option.map_eq_some_iff.mp known
  simp only [Queue.footage, Prod.mk.injEq] at same
  simp [Db.startedAt, here, found, same.1]

theorem Draining.visible (held : Draining inputs start db) (storedRec : rec ∈ inputs.recordings)
    (chosen : eligible rec) : db.visible rec.id := by
  have known := held.footage rec.id
  rw [Table.find?_self storedRec, Db.footage] at known
  obtain ⟨rec', found, same⟩ := Option.map_eq_some_iff.mp known
  simp only [Queue.footage, Prod.mk.injEq] at same
  obtain ⟨stored, sameId⟩ := Table.find?_mem found
  exact ⟨rec', stored, sameId, same.2.1.trans chosen.1⟩

theorem Draining.thumbnails_first (held : Draining inputs start db) {now : Time}
    {active : List RecordingId} {j t : Job} (stored : j ∈ db.jobs) (next : isNext now active db j)
    (analysis : j.kind ≠ .thumbnail) (storedT : t ∈ db.jobs) (kind : t.kind = .thumbnail) :
    ¬ claimable now active db t := by
  intro could
  obtain ⟨rec, _, _, _, new, _, course, member⟩ := held.live_row inputs stored (.inl next.1.1)
  obtain ⟨rec', _, _, _, new', _, course', member'⟩ := held.live_row inputs storedT (.inl could.1)
  have bulk : j.priority = bulkPriority := by
    rcases course.of_live inputs member (.inl next.1.1) with ⟨kindJ, _⟩ | ⟨_, priority⟩
    · exact absurd kindJ analysis
    · exact priority
  have first : t.priority = thumbnailPriority := by
    rcases course'.of_live inputs member' (.inl could.1) with ⟨_, priority, _⟩ | ⟨kindT, _⟩
    · exact priority
    · exact absurd (kindT.symm.trans kind) (analysisKind_ne_thumbnail rec')
  have le := (claimKey_le (next.2 t storedT could)).1
  simp [bulk, first, bulkPriority, thumbnailPriority] at le

theorem Draining.oldest_first (held : Draining inputs start db) {now : Time}
    {active : List RecordingId} {j a : Job} (stored : j ∈ db.jobs) (next : isNext now active db j)
    (analysis : j.kind ≠ .thumbnail) (storedA : a ∈ db.jobs) (liveA : a.live)
    (analysisA : a.kind ≠ .thumbnail) (unclaimed : a.startedAt = none) {rec rec' : Recording}
    (storedRec : rec ∈ inputs.recordings) (here : a.recordingId = some rec.id)
    (storedRec' : rec' ∈ inputs.recordings) (here' : j.recordingId = some rec'.id)
    (earlier : rec.startOrder < rec'.startOrder) : rec.id ∈ active := by
  by_contra passed
  obtain ⟨other, storedOther, chosen, hereOther, new, rows, course, member⟩ :=
    held.live_row inputs storedA liveA
  obtain rfl : other = rec := Table.eq_of_key storedOther storedRec
    (Option.some.inj (hereOther.symm.trans here))
  obtain ⟨_, _, _, _, _, _, course', member'⟩ := held.live_row inputs stored (.inl next.1.1)
  obtain ⟨waiting, free⟩ := course.inTurn inputs member unclaimed
  have idle : ¬ db.busy other.id := by
    rintro ⟨k, storedK, running, hereK⟩
    have inRows : k ∈ (inputs.wiped start).rowsOf other.id ++ new :=
      rows ▸ mem_rowsOf.mpr ⟨storedK, hereK⟩
    rcases List.mem_append.mp inRows with old | inNew
    · exact wiped_idle inputs start k (mem_rowsOf.mp old).1 (.inr running)
    · have same : k = a := course.eq_of_live inputs inNew (.inr running) member liveA
      simp [same, waiting] at running
  have could : claimable now active db a := by
    refine ⟨waiting, by simp [due, free], ?_⟩
    intro r at_
    obtain rfl : other.id = r := Option.some.inj (here.symm.trans at_)
    exact ⟨idle, passed, held.visible inputs storedRec chosen⟩
  have bulk (k : Job) (kind : k.kind ≠ .thumbnail) (course : ∃ rec new, Course inputs rec new ∧
      k ∈ new) (live : k.live) : k.priority = bulkPriority := by
    obtain ⟨rec, new, course, member⟩ := course
    rcases course.of_live inputs member live with ⟨thumbnail, _⟩ | ⟨_, priority⟩
    · exact absurd thumbnail kind
    · exact priority
  have same : j.priority = a.priority :=
    (bulk j analysis ⟨_, _, course', member'⟩ (.inl next.1.1)).trans
      (bulk a analysisA ⟨_, _, course, member⟩ liveA).symm
  have le := (claimKey_le (next.2 a storedA could)).2 same
  rw [held.startedAt inputs storedRec' here', held.startedAt inputs storedRec here] at le
  exact absurd earlier (not_lt.mpr le)

end Order

section HandOver

variable {start db : Db}

theorem rowsOf_nodup (db : Db) (r : RecordingId) : (db.rowsOf r).Nodup :=
  (List.Nodup.of_map _ db.jobs.distinct).filter _

theorem Draining.hands_over (held : Draining inputs start db) (call : Call)
    (allowed : drains db call) (storedRec : rec ∈ inputs.recordings) (chosen : eligible rec)
    {t : Job} (member : t ∈ db.rowsOf rec.id) (live : t.live) (kind : t.kind = .thumbnail) :
    ∃ t' ∈ (call.op.apply settings call.now db).rowsOf rec.id, t'.id = t.id ∧ (t'.live ∨
      t'.ended ∧ ∃ a ∈ (call.op.apply settings call.now db).rowsOf rec.id, a.state = .queued ∧
        IsAnalysis rec (carriedStages (inputs.stagesFor rec)) a) := by
  obtain ⟨stored, here⟩ := mem_rowsOf.mp member
  obtain ⟨other, storedOther, _, hereOther, new, rows, course, inNew⟩ :=
    held.live_row inputs stored live
  obtain rfl : other = rec := Table.eq_of_key storedOther storedRec
    (Option.some.inj (hereOther.symm.trans here))
  have alone : new = [t] := by
    rcases course.of_live inputs inNew live with ⟨_, _, alone⟩ | ⟨analysis, _⟩
    · exact alone
    · exact absurd (analysis.symm.trans kind) (analysisKind_ne_thumbnail other)
  subst alone
  obtain ⟨t', memberT', sameId, sameRec, sameKind⟩ :=
    extends_apply settings call.now db call.op t stored
  obtain ⟨new', rows', course'⟩ :=
    (held.apply settings inputs call allowed).course other storedOther chosen
  have inRows : t' ∈ (inputs.wiped start).rowsOf other.id ++ new' :=
    rows' ▸ mem_rowsOf.mpr ⟨memberT', sameRec.trans here⟩
  have oldRow (k : Job) (old : k ∈ (inputs.wiped start).rowsOf other.id) : k ∈ db.jobs ∧ ¬ k.live :=
    ⟨(mem_rowsOf.mp (rows ▸ List.mem_append_left _ old)).1,
      wiped_idle inputs start k (mem_rowsOf.mp old).1⟩
  have inNew' : t' ∈ new' := by
    rcases List.mem_append.mp inRows with old | inNew'
    · obtain rfl : t' = t := Table.eq_of_key (oldRow t' old).1 stored sameId
      exact absurd live (oldRow t' old).2
    · exact inNew'
  have inNext (k : Job) (inNew' : k ∈ new') :
      k ∈ (call.op.apply settings call.now db).rowsOf other.id :=
    rows' ▸ List.mem_append_right _ inNew'
  refine ⟨t', inNext t' inNew', sameId, ?_⟩
  cases course' with
  | thumbnail missing first live' => exact .inl (List.mem_singleton.mp inNew' ▸ live')
  | analysis present only =>
    obtain rfl := List.mem_singleton.mp inNew'
    exact absurd (only.kind.symm.trans (sameKind.trans kind)) (analysisKind_ne_thumbnail other)
  | @afterThumbnail t'' a missing first ended then_ =>
    obtain rfl : t' = t'' := by
      rcases List.mem_cons.mp inNew' with same | rest
      · exact same
      · obtain rfl := List.mem_singleton.mp rest
        exact absurd (then_.kind.symm.trans (sameKind.trans kind)) (analysisKind_ne_thumbnail other)
    refine .inr ⟨ended, a, inNext a (by simp), ?_, then_⟩
    -- The analysis row is not one of the rows before the step, so the step inserted it.
    obtain ⟨memberA, hereA⟩ := mem_rowsOf.mp (inNext a (by simp))
    rcases changes_apply settings call.now db call.op a memberA with
      ⟨j, storedJ, sameIdJ, _⟩ | ⟨_, inserted⟩
    · exfalso
      obtain ⟨k, memberK, idK, recK, _⟩ := extends_apply settings call.now db call.op j storedJ
      obtain rfl : k = a := Table.eq_of_key memberK memberA (idK.trans sameIdJ)
      have before : j ∈ (inputs.wiped start).rowsOf other.id ++ [t] :=
        rows ▸ mem_rowsOf.mpr ⟨storedJ, recK.symm.trans hereA⟩
      rcases List.mem_append.mp before with old | isT
      · have stays : j ∈ (call.op.apply settings call.now db).jobs :=
          (mem_rowsOf.mp (rows' ▸ List.mem_append_left _ old)).1
        obtain rfl : j = k := Table.eq_of_key stays memberA sameIdJ
        have distinct := rowsOf_nodup (call.op.apply settings call.now db) other.id
        rw [rows'] at distinct
        exact (List.nodup_append.mp distinct).2.2 j old j (by simp) rfl
      · obtain rfl := List.mem_singleton.mp isT
        obtain rfl : k = t' := Table.eq_of_key memberA memberT' (sameIdJ.symm.trans sameId.symm)
        exact absurd (then_.kind.symm.trans first.kind) (analysisKind_ne_thumbnail other)
    · exact inserted.state

end HandOver

theorem rebuilt_queue_drains (settings : Settings) (inputs : ResetInputs) (db last : Db)
    (runs : Nat) (abort : inputs.abort = .stopped runs) (calls : List Call)
    (run : Run (Step settings) drains (resetUnderBarrier settings inputs db).1 calls last) :
    (∀ rec ∈ inputs.recordings, eligible rec → ∃ new,
      last.rowsOf rec.id = (inputs.wiped db).rowsOf rec.id ++ new ∧ Course inputs rec new ∧
        ((∃ j ∈ last.rowsOf rec.id, j.live ∧ ∀ k ∈ last.rowsOf rec.id, k.live → k = j) ∨
          ∃ a ∈ new, a.kind = analysisKind rec ∧ a.ended)) ∧
    (∀ call, drains last call → ∀ rec ∈ inputs.recordings, eligible rec →
      ∀ t ∈ last.rowsOf rec.id, t.live → t.kind = .thumbnail →
        ∃ t' ∈ (call.op.apply settings call.now last).rowsOf rec.id, t'.id = t.id ∧ (t'.live ∨
          t'.ended ∧ ∃ a ∈ (call.op.apply settings call.now last).rowsOf rec.id,
            a.state = .queued ∧ IsAnalysis rec (carriedStages (inputs.stagesFor rec)) a)) ∧
    ∀ now active, ∀ j ∈ last.jobs, isNext now active last j → j.kind ≠ .thumbnail →
      (∀ t ∈ last.jobs, t.kind = .thumbnail → ¬ claimable now active last t) ∧
      ∀ rec ∈ inputs.recordings, ∀ rec' ∈ inputs.recordings, rec.startOrder < rec'.startOrder →
        j.recordingId = some rec'.id → ∀ a ∈ last.jobs, a.live → a.kind ≠ .thumbnail →
          a.startedAt = none → a.recordingId = some rec.id → rec.id ∈ active := by
  have held : Draining inputs db last := by
    refine run.invariant (Draining inputs db) ?_ (draining_reset settings inputs db abort)
    rintro current call next sound allowed rfl
    exact sound.apply settings inputs call allowed
  refine ⟨?_, ?_, ?_⟩
  · intro rec stored chosen
    obtain ⟨new, rows, course⟩ := held.course rec stored chosen
    refine ⟨new, rows, course, ?_⟩
    rcases course.live_unique inputs with ⟨j, inNew, live, only⟩ | closed
    · refine .inl ⟨j, rows ▸ List.mem_append_right _ inNew, live, ?_⟩
      intro k member liveK
      rw [rows] at member
      rcases List.mem_append.mp member with old | inNewK
      · exact absurd liveK (wiped_idle inputs db k (mem_rowsOf.mp old).1)
      · exact only k inNewK liveK
    · exact .inr closed
  · intro call allowed rec stored chosen t member live kind
    exact held.hands_over settings inputs call allowed stored chosen member live kind
  · intro now active j stored next analysis
    refine ⟨fun t storedT kind => held.thumbnails_first inputs stored next analysis storedT kind, ?_⟩
    intro rec storedRec rec' storedRec' earlier here' a storedA live kindA unclaimed here
    exact held.oldest_first inputs stored next analysis storedA live kindA unclaimed storedRec here
      storedRec' here' earlier

def analysedClip (id : RecordingId) (start : Time) (thumbnail : Option String) : Recording where
  id := id
  startedAt := some start
  ignored := false
  fileMissing := false
  state := .completed
  metadataState := .done
  errorMessage := none
  processedAt := some 0
  fingerprint := some "f"
  thumbnailPath := thumbnail
  probeJson := none

def twoClips : Db where
  jobs := Table.empty
  recordings := ⟨[analysedClip 1 10 none, analysedClip 2 20 (some "b.jpg")], by simp [analysedClip]⟩

def twoClipsReset : ResetInputs where
  clearedAt := 100
  openedAt := 100
  queuedAt := fun _ => 100
  expandStages := fun _ => ["metadata", "telemetry", "detection", "plates", "summarise"]
  thumbnailIsUsable := Option.isSome
  stages := some ["everything"]
  abort := .stopped 0
  recordings := twoClips.recordings

def overtakingCalls : List Call :=
  [⟨101, .claimNext "a" [] 1⟩, ⟨102, .claimNext "b" [1] 2⟩,
    ⟨103, .complete 1 .empty none none none⟩, ⟨104, .claimNext "a" [2] 3⟩]

def overtaken (n : Nat) : Db :=
  runCalls ⟨3, 300⟩ (resetUnderBarrier ⟨3, 300⟩ twoClipsReset twoClips).1 (overtakingCalls.take n)

theorem run_overtaken :
    Run (Step ⟨3, 300⟩) drains (resetUnderBarrier ⟨3, 300⟩ twoClipsReset twoClips).1
      overtakingCalls (overtaken 4) := by
  let Reach (n : Nat) := Run (Step ⟨3, 300⟩) drains
    (resetUnderBarrier ⟨3, 300⟩ twoClipsReset twoClips).1 (overtakingCalls.take n) (overtaken n)
  have one : Reach 1 := .tail .refl trivial rfl
  have two : Reach 2 := .tail one trivial rfl
  have three : Reach 3 := by
    refine .tail two ?_ rfl
    have running : ∀ j ∈ (overtaken 2).jobs.rows, j.id = 1 → j.state = .running := by
      decide
    exact running
  have four : Reach 4 := .tail three trivial rfl
  exact four

theorem rebuilt_queue_overtaken :
    (overtaken 4).jobs.rows.map (fun j => (j.recordingId, j.kind, j.state)) =
      [(some 1, .thumbnail, .completed), (some 2, .reprocess, .running),
        (some 1, .reprocess, .running)] ∧
    ∀ rec ∈ twoClipsReset.recordings, eligible rec → ∃ new,
      (overtaken 4).rowsOf rec.id = (twoClipsReset.wiped twoClips).rowsOf rec.id ++ new ∧
        Course twoClipsReset rec new := by
  refine ⟨by decide, fun rec stored chosen => ?_⟩
  obtain ⟨courses, _⟩ := rebuilt_queue_drains ⟨3, 300⟩ twoClipsReset twoClips (overtaken 4) 0 rfl
    overtakingCalls run_overtaken
  obtain ⟨new, rows, course, _⟩ := courses rec stored chosen
  exact ⟨new, rows, course⟩

theorem not_oldest_first :
    ¬ ∀ (settings : Settings) (inputs : ResetInputs) (db last : Db) (runs : Nat)
      (calls : List Call), inputs.abort = .stopped runs → db.jobs = Table.empty →
      Run (Step settings) drains (resetUnderBarrier settings inputs db).1 calls last →
      calls.Pairwise (fun a b => a.now ≤ b.now) →
      ∀ a ∈ last.jobs, ∀ b ∈ last.jobs, a.kind ≠ .thumbnail → b.kind ≠ .thumbnail →
        a.attempts = 1 → b.attempts = 1 →
        ∀ rec ∈ inputs.recordings, ∀ rec' ∈ inputs.recordings, eligible rec → eligible rec' →
          a.recordingId = some rec.id → b.recordingId = some rec'.id →
          rec.startOrder < rec'.startOrder →
          ∀ s ∈ a.startedAt, ∀ s' ∈ b.startedAt, s ≤ s' := by
  intro ordered
  have all := ordered ⟨3, 300⟩ twoClipsReset twoClips (overtaken 4) 0 overtakingCalls rfl rfl
    run_overtaken (by decide)
  have broken : ¬ ∀ a ∈ (overtaken 4).jobs.rows, ∀ b ∈ (overtaken 4).jobs.rows,
      a.kind ≠ .thumbnail → b.kind ≠ .thumbnail → a.attempts = 1 → b.attempts = 1 →
        ∀ rec ∈ twoClips.recordings.rows, ∀ rec' ∈ twoClips.recordings.rows,
          eligible rec → eligible rec' → a.recordingId = some rec.id →
          b.recordingId = some rec'.id → rec.startOrder < rec'.startOrder →
          ∀ s ∈ a.startedAt, ∀ s' ∈ b.startedAt, s ≤ s' := by decide +kernel
  exact broken all

end DashcamStats.Queue
