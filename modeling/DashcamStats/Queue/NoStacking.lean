import DashcamStats.Queue.Rows

namespace DashcamStats.Queue

def AtMostOneQueued (db : Db) : Prop :=
  db.jobs.Exclusive (fun j => j.state = .queued) Job.recordingId

def AtMostOneRunning (db : Db) : Prop :=
  db.jobs.Exclusive (fun j => j.state = .running) Job.recordingId

structure NoStacking (db : Db) : Prop where
  queued : AtMostOneQueued db
  running : AtMostOneRunning db

theorem NoStacking.of_jobs {db next : Db} (held : NoStacking db) (same : next.jobs = db.jobs) :
    NoStacking next :=
  ⟨by simpa [AtMostOneQueued, same] using held.queued,
    by simpa [AtMostOneRunning, same] using held.running⟩

theorem NoStacking.settle {db : Db} (held : NoStacking db) (p : Job → Prop) [DecidablePred p]
    (f : Job → Job) (keeps : ∀ j, (f j).id = j.id)
    (same : ∀ j, (f j).recordingId = j.recordingId)
    (settles : ∀ j, (f j).live → (f j).state = j.state) :
    NoStacking (db.updateJobs p f keeps) := by
  constructor
  · refine Table.Exclusive.update keeps held.queued same ?_
    intro a _ _ now not
    exact absurd (settles a (.inl now) ▸ now) not
  · refine Table.Exclusive.update keeps held.running same ?_
    intro a _ _ now not
    exact absurd (settles a (.inr now) ▸ now) not

theorem NoStacking.requeue {db : Db} (held : NoStacking db) (p : Job → Prop) [DecidablePred p]
    (f : Job → Job) (keeps : ∀ j, (f j).id = j.id)
    (same : ∀ j, (f j).recordingId = j.recordingId)
    (waits : ∀ j, (f j).state = .queued)
    (alone : ∀ a ∈ db.jobs, p a → ∀ r, a.recordingId = some r →
      ∀ b ∈ db.jobs, b.recordingId = some r → p b ∨ b.state = .queued → b = a) :
    NoStacking (db.updateJobs p f keeps) := by
  constructor
  · refine Table.Exclusive.update keeps held.queued same ?_
    intro a memberA chosen _ _ r recA b memberB recB queuedB
    refine alone a memberA (by simpa using chosen) r recA b memberB recB ?_
    by_cases h : p b
    · exact .inl h
    · exact .inr (by simpa [h] using queuedB)
  · refine Table.Exclusive.update keeps held.running same ?_
    intro a _ _ now
    simp [waits a] at now

theorem NoStacking.addJob {db : Db} (held : NoStacking db) (j : Job) (waiting : j.state = .queued)
    (free : ∀ r, j.recordingId = some r → ∀ b ∈ db.jobs, b.recordingId = some r →
      b.state ≠ .queued) : NoStacking (db.addJob j) := by
  have fresh : ∀ b ∈ db.jobs, b.id ≠ db.jobs.nextKey :=
    fun _ member => Nat.ne_of_lt (Table.key_lt_nextKey member)
  constructor
  · exact Table.Exclusive.insert fresh held.queued (fun _ => free)
  · refine Table.Exclusive.insert fresh held.running ?_
    intro now
    simp [waiting] at now

variable (settings : Settings) (now : Time)

theorem NoStacking.insertJob {db : Db} (held : NoStacking db) (recordingId : Option RecordingId)
    (kind : JobKind) (stages : Option (List String)) (priority : Int)
    (free : ∀ r, recordingId = some r → ∀ b ∈ db.jobs, b.recordingId = some r →
      b.state ≠ .queued) :
    NoStacking (Queue.insertJob settings now recordingId kind stages priority db).1 := by
  have added := held.addJob (freshJob settings now recordingId kind stages priority) rfl free
  unfold Queue.insertJob
  cases recordingId with
  | none => exact added
  | some r => exact added.of_jobs rfl

theorem supersede_frees (db : Db) (r : RecordingId) {b : Job}
    (member : b ∈ (supersede now r db).jobs) (same : b.recordingId = some r) :
    b.state ≠ .queued := by
  obtain ⟨a, _, rfl⟩ := Db.mem_updateJobs.mp member
  split
  · simp
  · rename_i kept
    intro queued
    exact kept ⟨by simpa [kept] using same, .inl (by simpa [kept] using queued)⟩

theorem NoStacking.enqueue {db : Db} (held : NoStacking db) (recordingId : Option RecordingId)
    (kind : JobKind) (stages : Option (List String)) (priority : Int) (force : Bool) :
    NoStacking (Queue.enqueue settings now recordingId kind stages priority force db).1 := by
  unfold Queue.enqueue
  split
  · exact held.insertJob settings now none kind stages priority (by simp)
  · rename_i r
    split
    · have retired : NoStacking (supersede now r db) :=
        held.settle _ _ _ (fun _ => rfl) (by simp [Job.live])
      refine retired.insertJob settings now (some r) kind stages priority ?_
      rintro r' ⟨⟩ b member same
      exact supersede_frees now db r member same
    · split
      · exact held
      · rename_i absent
        refine held.insertJob settings now (some r) kind stages priority ?_
        rintro r' ⟨⟩ b member same queued
        exact Db.liveJob?_none absent member same (.inl queued)

theorem NoStacking.followUp {db : Db} (held : NoStacking db) (job : Job) :
    NoStacking (followUpAfterThumbnail settings now job db) := by
  unfold followUpAfterThumbnail
  split
  · exact held
  · split
    · exact held
    · split
      · exact held
      · split
        · exact held
        · exact held.enqueue settings now _ _ _ _ _

theorem NoStacking.claim {db : Db} (held : NoStacking db) (workerId : String)
    (active : List RecordingId) {job : Job} (member : job ∈ db.jobs)
    (next : isNext now active db job) : NoStacking (Queue.claim now workerId job db) := by
  have claimed : NoStacking (db.updateJobs (fun j => j.id = job.id) (claimRow now workerId)
      (fun _ => rfl)) := by
    have keeps (j : Job) : (claimRow now workerId j).id = j.id := rfl
    constructor
    · refine Table.Exclusive.update keeps held.queued (fun _ => rfl) ?_
      intro a _ _ now
      simp [claimRow] at now
    · refine Table.Exclusive.update keeps held.running (fun _ => rfl) ?_
      intro a memberA chosen _ _ r recA b memberB recB runningB
      have same : a = job := Table.eq_of_key memberA member (by simpa using chosen)
      subst same
      by_cases hit : b.id = a.id
      · exact Table.eq_of_key memberB memberA hit
      · -- The claim's NOT EXISTS saw no RUNNING row of this recording.
        exact absurd ⟨b, memberB, by simpa [hit] using runningB, recB⟩ (next.1.2.2 r recA).1
  exact claimed.of_jobs rfl

theorem NoStacking.complete {db : Db} (held : NoStacking db) (job : Job) (result : ResultJson)
    (speed : Option Rat) (decoder device : Option String) :
    NoStacking (Queue.complete settings now job result speed decoder device db) := by
  have completed := held.settle (fun j => j.id = job.id)
    (completeRow now result speed decoder device) (fun _ => rfl) (fun _ => rfl)
    (by simp [Job.live, completeRow])
  exact completed.followUp settings now job

theorem failRow_queued {job : Job} {permanent transient : Bool} (message : String)
    (requeued : failOutcome job permanent transient ≠ .failed) (j : Job) :
    (failRow now message job (failOutcome job permanent transient) j).state = .queued := by
  cases outcome : failOutcome job permanent transient with
  | failed => exact absurd outcome requeued
  | refunded granted => rfl
  | retried delay => rfl

theorem NoStacking.fail {db : Db} (held : NoStacking db) {job : Job} (member : job ∈ db.jobs)
    (message : String) (permanent transient : Bool)
    (alone : failOutcome job permanent transient ≠ .failed → ∀ r, job.recordingId = some r →
      ∀ k ∈ db.jobs, k.recordingId = some r → k.state = .queued → k = job) :
    NoStacking (Queue.fail settings now job message permanent transient db) := by
  unfold Queue.fail
  dsimp only
  split
  · rename_i failed
    refine NoStacking.followUp settings now ?_ job
    refine held.settle _ _ _ (fun j => (failRow_recordingId now message job _ j).1) ?_
    simp [failed, failRow, Job.live]
  · rename_i requeued
    refine held.requeue _ _ _ (fun j => (failRow_recordingId now message job _ j).1)
      (failRow_queued now message requeued) ?_
    intro a memberA chosen r recA b memberB recB hit
    have same : a = job := Table.eq_of_key memberA member chosen
    subst same
    rcases hit with hit | queuedB
    · exact Table.eq_of_key memberB memberA hit
    · exact alone requeued r recA b memberB recB queuedB

theorem NoStacking.returnRecordings {db : Db} (ids : List RecordingId) (held : NoStacking db) :
    NoStacking (Queue.returnRecordings ids db) := by
  unfold Queue.returnRecordings
  split
  · exact held
  · exact held.of_jobs rfl

theorem NoStacking.reclaim {db : Db} (held : NoStacking db) (p : Job → Prop) [DecidablePred p]
    (f : Job → Job) (keeps : ∀ j, (f j).id = j.id)
    (same : ∀ j, (f j).recordingId = j.recordingId) (waits : ∀ j, (f j).state = .queued)
    (runs : ∀ j, p j → j.state = .running)
    (alone : ∀ a ∈ db.jobs, p a → ∀ k ∈ db.jobs, ∀ r, a.recordingId = some r →
      k.recordingId = some r → k.state = .queued → k = a) (ids : List RecordingId) :
    NoStacking (Queue.returnRecordings ids (db.updateJobs p f keeps)) := by
  refine NoStacking.returnRecordings ids (held.requeue p f keeps same waits ?_)
  intro a memberA chosen r recA b memberB recB hit
  rcases hit with hit | queuedB
  · exact held.running b memberB a memberA (runs b hit) (runs a chosen) r recB recA
  · exact alone a memberA chosen b memberB r recA recB queuedB

theorem NoStacking.retryFailed {db : Db} (held : NoStacking db) :
    NoStacking (Queue.retryFailed db).1 := by
  refine held.requeue _ _ _ (fun _ => rfl) (fun _ => rfl) ?_
  intro a memberA retryA r recA b memberB recB hit
  obtain ⟨failedA, openA⟩ := retryA
  obtain ⟨notLive, notNewer, _⟩ := openA r recA
  rcases hit with ⟨failedB, openB⟩ | queuedB
  · obtain ⟨_, notNewerB, _⟩ := openB r recB
    -- Two FAILED rows of one recording: only the newest is retried.
    have le : b.id ≤ a.id := by
      by_contra above
      exact notNewer ⟨b, memberB, failedB, recB, Nat.lt_of_not_le above⟩
    have ge : a.id ≤ b.id := by
      by_contra above
      exact notNewerB ⟨a, memberA, failedA, recA, Nat.lt_of_not_le above⟩
    exact Table.eq_of_key memberB memberA (le_antisymm le ge)
  · exact absurd ⟨b, memberB, .inl queuedB, recB⟩ notLive

theorem NoStacking.cancel {db : Db} (held : NoStacking db) (job : JobId) :
    NoStacking (Queue.cancel now job db).1 := by
  have stopped : NoStacking (db.updateJobs (fun j => j.id = job)
      (cancelRow now) (fun _ => rfl)) :=
    held.settle _ _ _ (fun _ => rfl) (by simp [Job.live, cancelRow])
  unfold Queue.cancel
  split
  · exact held
  · split
    · exact held
    · dsimp only
      split
      · exact stopped
      · split
        · exact stopped
        · exact stopped.of_jobs rfl

theorem newestFirst_pairwise (db : Db) (p : Job → Prop) [DecidablePred p] :
    (newestFirst (db.jobs.rows.filter fun j => p j)).Pairwise fun a b => b.id < a.id := by
  have sorted : (newestFirst (db.jobs.rows.filter fun j => p j)).Pairwise
      fun a b => (decide (b.id ≤ a.id)) = true := by
    apply List.pairwise_mergeSort
    · intro a b c ab bc
      simp only [decide_eq_true_eq] at ab bc ⊢
      exact le_trans bc ab
    · intro a b
      simpa using le_total b.id a.id
  have distinct : (newestFirst (db.jobs.rows.filter fun j => p j)).Pairwise
      fun a b => a.id ≠ b.id := by
    have nodup : ((db.jobs.rows.filter fun j => p j).map Job.id).Nodup :=
      db.jobs.distinct.sublist (List.filter_sublist.map _)
    have perm := (List.mergeSort_perm (db.jobs.rows.filter fun j => p j)
      fun a b => decide (b.id ≤ a.id)).map Job.id
    exact List.pairwise_map.mp (perm.nodup_iff.mpr nodup)
  refine (sorted.and distinct).imp ?_
  rintro a b ⟨le, ne⟩
  exact lt_of_le_of_ne (by simpa using le) (Ne.symm ne)

theorem blacklisted_updateRecordings (db : Db) (q : Recording → Prop) [DecidablePred q]
    (g : Recording → Recording) (keeps : ∀ r, (g r).id = r.id)
    (same : ∀ r, (g r).ignored = r.ignored) (job : Job) :
    blacklisted (db.updateRecordings q g keeps) job ↔ blacklisted db job := by
  simp only [blacklisted, Db.updateRecordings, Table.find?_update, Option.mem_def,
    Option.map_eq_some_iff, exists_exists_and_eq_and, decide_eq_true_eq]
  have ignored (rec : Recording) : (if q rec then g rec else rec).ignored = rec.ignored := by
    split <;> simp [same]
  simp only [ignored]

structure LegacyLoop (start db : Db) (rest : List Job) : Prop where
  sound : NoStacking db
  rows : ∀ j ∈ rest, j ∈ db.jobs
  kept : ∀ j ∈ rest, superseded start j → superseded db j ∨ blacklisted start j
  black : ∀ j, blacklisted db j ↔ blacklisted start j
  waiting : ∀ j ∈ rest, ∀ k ∈ db.jobs, ∀ r, j.recordingId = some r → k.recordingId = some r →
    k.state = .queued → k ∈ start.jobs ∨ j.id < k.id

theorem LegacyLoop.advance {start db : Db} {job : Job} {rest : List Job}
    (loop : LegacyLoop start db (job :: rest)) (older : ∀ j ∈ rest, j.id < job.id)
    (f : Job → Job) (keeps : ∀ j, (f j).id = j.id)
    (same : ∀ j, (f j).recordingId = j.recordingId) (next : Db)
    (jobs : next.jobs = (db.updateJobs (fun j => j.id = job.id) f keeps).jobs)
    (black : ∀ j, blacklisted next j ↔ blacklisted db j)
    (retires : (f job).state = .cancelled → superseded db job ∨ blacklisted db job)
    (sound : NoStacking next) : LegacyLoop start next rest := by
  have here : job ∈ db.jobs := loop.rows job (by simp)
  have other {k : Job} (member : k ∈ db.jobs) (ne : k.id ≠ job.id) : k ∈ next.jobs := by
    rw [jobs]
    exact Db.mem_updateJobs.mpr ⟨k, member, by simp [ne]⟩
  have changed : f job ∈ next.jobs := by
    rw [jobs]
    exact Db.mem_updateJobs.mpr ⟨job, here, by simp⟩
  refine ⟨sound, ?_, ?_, fun j => (black j).trans (loop.black j), ?_⟩
  · intro j member
    exact other (loop.rows j (by simp [member])) (ne_of_lt (older j member))
  · intro j member was
    rcases loop.kept j (by simp [member]) was with ⟨r, recJ, k, memberK, recK, newer, keptK⟩ | black
    · by_cases hit : k.id = job.id
      · obtain rfl : k = job := Table.eq_of_key memberK here hit
        by_cases gone : (f k).state = .cancelled
        · rcases retires gone with ⟨r', recR, m, memberM, recM, above, keptM⟩ | ⟨r', recR, black⟩
          · obtain rfl : r = r' := Option.some.inj (recK.symm.trans recR)
            exact .inl ⟨r, recJ, m, other memberM (ne_of_gt above), recM,
              lt_trans newer above, keptM⟩
          · obtain rfl : r = r' := Option.some.inj (recK.symm.trans recR)
            exact .inr ((loop.black j).mp ⟨r, recJ, black⟩)
        · exact .inl ⟨r, recJ, f k, changed, (same k).trans recK, by rw [keeps]; exact newer, gone⟩
      · exact .inl ⟨r, recJ, k, other memberK hit, recK, newer, keptK⟩
    · exact .inr black
  · intro j member k memberK r recJ recK queued
    rw [jobs] at memberK
    obtain ⟨a, memberA, rfl⟩ := Db.mem_updateJobs.mp memberK
    by_cases hit : a.id = job.id
    · refine .inr ?_
      simpa [hit, keeps] using older j member
    · simp only [hit, if_false] at recK queued ⊢
      exact loop.waiting j (by simp [member]) a memberA r recJ recK queued

theorem LegacyLoop.row {start db : Db} {job : Job} {rest : List Job}
    (loop : LegacyLoop start db (job :: rest)) (older : ∀ j ∈ rest, j.id < job.id)
    (failed : job.state = .failed)
    (alone : ¬ superseded start job → ¬ blacklisted start job → ∀ r, job.recordingId = some r →
      ∀ k ∈ start.jobs, k.recordingId = some r → k.state = .queued → k = job)
    (counts : Nat × Nat) :
    LegacyLoop start (reconcileLegacyRow (db, counts) job).1 rest := by
  have here : job ∈ db.jobs := loop.rows job (by simp)
  unfold reconcileLegacyRow
  dsimp only
  split
  · rename_i retired
    refine loop.advance older (retireLegacyRow (superseded db job)) (fun _ => rfl) (fun _ => rfl) _
      rfl (blacklisted_updateRecordings _ _ _ _ (fun _ => rfl)) (fun _ => retired) ?_
    have settled := loop.sound.settle (fun j => j.id = job.id)
      (retireLegacyRow (superseded db job)) (fun _ => rfl) (fun _ => rfl)
      (by simp [Job.live, retireLegacyRow])
    exact settled.of_jobs rfl
  · rename_i open_
    simp only [not_or] at open_
    refine loop.advance older requeueLegacyRow (fun _ => rfl) (fun _ => rfl) _ rfl
      (blacklisted_updateRecordings _ _ _ _ (fun _ => rfl)) (by simp [requeueLegacyRow]) ?_
    suffices requeued : NoStacking (db.updateJobs (fun j => j.id = job.id) requeueLegacyRow
        (fun _ => rfl)) from requeued.of_jobs rfl
    refine loop.sound.requeue _ _ _ (fun _ => rfl) (fun _ => rfl) ?_
    intro a memberA chosen r recA b memberB recB hit
    obtain rfl : a = job := Table.eq_of_key memberA here chosen
    rcases hit with hit | queued
    · exact Table.eq_of_key memberB memberA hit
    · rcases loop.waiting a (by simp) b memberB r recA recB queued with old | newer
      · have notBlack : ¬ blacklisted start a := fun black => open_.2 ((loop.black a).mpr black)
        have notKept : ¬ superseded start a := fun was =>
          (loop.kept a (by simp) was).elim open_.1 notBlack
        exact alone notKept notBlack r recA b old recB queued
      · exact absurd ⟨r, recA, b, memberB, recB, newer, by simp [queued]⟩ open_.1

theorem NoStacking.reconcileLegacy {db : Db} (held : NoStacking db)
    (alone : ∀ j ∈ db.jobs, legacyContention j → ¬ superseded db j → ¬ blacklisted db j →
      ∀ k ∈ db.jobs, ∀ r, j.recordingId = some r → k.recordingId = some r →
        k.state = .queued → k = j) :
    NoStacking (reconcileLegacyContentionFailures db).1 := by
  have fold (rest : List Job) (current : Db) (counts : Nat × Nat)
      (loop : LegacyLoop db current rest) (sorted : rest.Pairwise fun a b => b.id < a.id)
      (candidates : ∀ j ∈ rest, j ∈ db.jobs ∧ legacyContention j) :
      NoStacking (rest.foldl reconcileLegacyRow (current, counts)).1 := by
    induction rest generalizing current counts with
    | nil => exact loop.sound
    | cons job rest ih =>
      obtain ⟨older, sorted⟩ := List.pairwise_cons.mp sorted
      obtain ⟨member, legacy⟩ := candidates job (by simp)
      have next := loop.row older legacy.1
        (fun open_ white r rec k memberK recK => alone job member legacy open_ white k memberK r
          rec recK) counts
      exact ih _ _ next sorted (fun j inRest => candidates j (by simp [inRest]))
  have candidates (j : Job)
      (member : j ∈ newestFirst (db.jobs.rows.filter fun j => legacyContention j)) :
      j ∈ db.jobs ∧ legacyContention j := by
    have filtered := List.mem_filter.mp (List.mem_mergeSort.mp member)
    exact ⟨filtered.1, by simpa using filtered.2⟩
  refine fold _ db (0, 0) ⟨held, fun j member => (candidates j member).1, ?_, fun _ => Iff.rfl, ?_⟩
    (newestFirst_pairwise db legacyContention) candidates
  · intro j _ was
    exact .inl was
  · intro j _ k member r _ _ _
    exact .inl member

theorem newestProbeFailure?_congr {db db' : Db} {r : RecordingId}
    (same : db.rowsOf r = db'.rowsOf r) :
    db.newestProbeFailure? r = db'.newestProbeFailure? r := by
  have rows (d : Db) : (d.jobs.rows.filter fun j => probeFailure r j) =
      (d.rowsOf r).filter fun j => j.state = .failed ∧ ilikePrefix probeMessage j.errorMessage := by
    rw [Db.rowsOf, List.filter_filter]
    congr 1
    funext j
    rw [Bool.eq_iff_iff, decide_eq_true_eq]
    simp only [probeFailure, Bool.and_eq_true, decide_eq_true_eq]
    tauto
  simp only [Db.newestProbeFailure?, rows, same]

theorem newestProbeFailure?_mem {db : Db} {r : RecordingId} {job : Job}
    (found : db.newestProbeFailure? r = some job) : job ∈ db.jobs ∧ probeFailure r job := by
  have filtered := List.mem_filter.mp (List.mem_mergeSort.mp (List.mem_of_head? found))
  exact ⟨filtered.1, by simpa using filtered.2⟩

theorem rowsOf_reconcileMisclassifiedRow {db : Db} {rec : Recording} {r : RecordingId}
    (ne : rec.id ≠ r) :
    (reconcileMisclassifiedRow settings now db rec).rowsOf r = db.rowsOf r := by
  unfold reconcileMisclassifiedRow
  dsimp only
  split
  · rename_i job found
    have failed := newestProbeFailure?_mem found
    refine rowsOf_updateJobs_of_ne _ _ _ (fun _ => rfl) ?_
    rintro j member chosen
    obtain rfl : j = job := Table.eq_of_key member failed.1 chosen
    rw [failed.2.1]
    simpa using ne
  · exact rowsOf_enqueue_of_ne settings now ne _ _ _

theorem NoStacking.reconcileMisclassifiedRow {db : Db} (held : NoStacking db) (rec : Recording)
    (alone : ∀ j, db.newestProbeFailure? rec.id = some j →
      ∀ k ∈ db.rowsOf rec.id, k.state = .queued → k = j) :
    NoStacking (Queue.reconcileMisclassifiedRow settings now db rec) := by
  have restored : NoStacking (restoreRecording rec.id db) := held.of_jobs rfl
  unfold Queue.reconcileMisclassifiedRow
  dsimp only
  split
  · rename_i job found
    have failed := newestProbeFailure?_mem found
    refine restored.requeue _ requeueProbeFailureRow _ (fun _ => rfl) (fun _ => rfl) ?_
    intro a memberA chosen r recA b memberB recB hit
    obtain rfl : a = job := Table.eq_of_key memberA failed.1 chosen
    rcases hit with hit | queued
    · exact Table.eq_of_key memberB memberA hit
    · obtain rfl : r = rec.id := Option.some.inj (recA.symm.trans failed.2.1)
      exact alone a found b (List.mem_filter.mpr ⟨memberB, by simpa using recB⟩) queued
  · exact restored.enqueue settings now _ _ _ _ _

theorem NoStacking.reconcileMisclassified {db : Db} (held : NoStacking db)
    (alone : ∀ rec ∈ db.recordings, misclassified rec → ∀ j,
      db.newestProbeFailure? rec.id = some j →
        ∀ k ∈ db.rowsOf rec.id, k.state = .queued → k = j) :
    NoStacking (reconcileMisclassifiedProbeCrashes settings now db).1 := by
  have fold (rest : List Recording) (current : Db) (sound : NoStacking current)
      (distinct : (rest.map Recording.id).Nodup)
      (rows : ∀ rec ∈ rest, current.rowsOf rec.id = db.rowsOf rec.id)
      (found : ∀ rec ∈ rest, rec ∈ db.recordings ∧ misclassified rec) :
      NoStacking (rest.foldl (Queue.reconcileMisclassifiedRow settings now) current) := by
    induction rest generalizing current with
    | nil => exact sound
    | cons rec rest ih =>
      obtain ⟨absent, distinct⟩ := List.nodup_cons.mp distinct
      refine ih _ ?_ distinct ?_ (fun other member => found other (by simp [member]))
      · refine sound.reconcileMisclassifiedRow settings now rec ?_
        have same := rows rec (by simp)
        rw [newestProbeFailure?_congr same, same]
        exact alone rec (found rec (by simp)).1 (found rec (by simp)).2
      · intro other member
        have ne : rec.id ≠ other.id := by
          intro eq
          exact absent (eq ▸ List.mem_map_of_mem member)
        rw [rowsOf_reconcileMisclassifiedRow settings now ne]
        exact rows other (by simp [member])
  refine fold _ db held ?_ (fun _ _ => rfl) ?_
  · exact db.recordings.distinct.sublist (List.filter_sublist.map _)
  · intro rec member
    have filtered := List.mem_filter.mp member
    exact ⟨filtered.1, by simpa using filtered.2⟩

theorem NoStacking.reconcileMedia {db : Db} (held : NoStacking db) :
    NoStacking (reconcileMediaFailureHides settings now db).1 := by
  have fold (rest : List Recording) (current : Db) (sound : NoStacking current) :
      NoStacking (rest.foldl (reconcileMediaRow settings now) current) := by
    induction rest generalizing current with
    | nil => exact sound
    | cons rec rest ih =>
      have reviewed : NoStacking (reviewRecording rec.id current) := sound.of_jobs rfl
      exact ih _ (reviewed.enqueue settings now _ _ _ _ _)
  exact fold _ db held

def requeues (db : Db) : Op → Job → Prop
  | .fail job _ permanent transient, j =>
    j.id = job ∧ j.state ≠ .cancelled ∧ failOutcome j permanent transient ≠ .failed
  | .reclaimStale, j => stale settings now j
  | .reclaimInterrupted, j => j.state = .running
  | .reconcileLegacyContentionFailures, j =>
    legacyContention j ∧ ¬ superseded db j ∧ ¬ blacklisted db j
  | .reconcileMisclassifiedProbeCrashes, j =>
    ∃ rec ∈ db.recordings, misclassified rec ∧ db.newestProbeFailure? rec.id = some j
  | _, _ => False

def requeuesAlone (db : Db) (op : Op) : Prop :=
  ∀ j ∈ db.jobs, requeues settings now db op j → ∀ k ∈ db.jobs, ∀ r, j.recordingId = some r →
    k.recordingId = some r → k.state = .queued → k = j

theorem NoStacking.apply {db : Db} (held : NoStacking db) (op : Op)
    (alone : requeuesAlone settings now db op) : NoStacking (op.apply settings now db) := by
  cases op <;> simp only [Op.apply]
  case enqueue => exact held.enqueue settings now _ _ _ _ _
  case claimNext =>
    split
    · exact held
    · rename_i found
      split
      · rename_i next
        exact held.claim now _ _ (Table.find?_mem found).1 next
      · exact held
  case heartbeat job progress stage speed decoder device resource =>
    exact held.settle _ _ _ (fun _ => rfl) (fun _ _ => rfl)
  case complete =>
    split
    · exact held
    · split
      · exact held
      · exact held.complete settings now _ _ _ _ _
  case fail =>
    split
    · exact held
    · rename_i found
      obtain ⟨member, rfl⟩ := Table.find?_mem found
      split
      · exact held
      · rename_i kept
        refine held.fail settings now member _ _ _ ?_
        intro requeued r rec k memberK recK
        exact alone _ member ⟨rfl, kept, requeued⟩ k memberK r rec recK
  case cancel => exact held.cancel now _
  case clear => exact held.settle _ _ _ (fun _ => rfl) (by simp [Job.live, clearRow])
  case retryFailed => exact held.retryFailed
  case reclaimStale =>
    exact held.reclaim (stale settings now) reclaimStaleRow _ (fun _ => rfl) (fun _ => rfl)
      (fun _ chosen => chosen.1) alone _
  case reclaimInterrupted =>
    exact held.reclaim (fun j => j.state = .running) reclaimInterruptedRow _ (fun _ => rfl)
      (fun _ => rfl) (fun _ chosen => chosen) alone _
  case releaseStrandedRecordings => exact held.of_jobs rfl
  case reconcileLegacyContentionFailures =>
    exact held.reconcileLegacy fun j member legacy open_ white =>
      alone j member ⟨legacy, open_, white⟩
  case reconcileMisclassifiedProbeCrashes =>
    refine held.reconcileMisclassified settings now ?_
    intro rec member hidden j found k memberK queued
    obtain ⟨memberJ, failed⟩ := newestProbeFailure?_mem found
    have filtered := List.mem_filter.mp memberK
    exact alone j memberJ ⟨rec, member, hidden, found⟩ k filtered.1 rec.id failed.1
      (by simpa using filtered.2) queued
  case reconcileMediaFailureHides => exact held.reconcileMedia settings now
  case recordings => exact held.of_jobs rfl

theorem atMostOneQueued_of_requeuesAlone (settings : Settings) (start db : Db)
    (calls : List Call) (noJobs : start.jobs = Table.empty)
    (run : Run (Step settings) (fun db call => requeuesAlone settings call.now db call.op)
      start calls db) :
    ∀ r, ∀ a ∈ db.jobs, ∀ b ∈ db.jobs, a.recordingId = some r → b.recordingId = some r →
      a.state = .queued → b.state = .queued → a = b := by
  have begin_ : NoStacking start := by
    constructor
    · rw [AtMostOneQueued, noJobs]
      exact Table.exclusive_empty
    · rw [AtMostOneRunning, noJobs]
      exact Table.exclusive_empty
  have held : NoStacking db := run.invariant NoStacking
    (by
      rintro db call next sound alone rfl
      exact sound.apply settings call.now call.op alone)
    begin_
  intro r a memberA b memberB recA recB queuedA queuedB
  exact held.queued a memberA b memberB queuedA queuedB r recA recB

def oneClip : Db where
  jobs := Table.empty
  recordings := ⟨[{
    id := 1
    startedAt := some 0
    ignored := false
    fileMissing := false
    state := .discovered
    metadataState := .done
    errorMessage := none
    processedAt := none
    fingerprint := some "f"
    thumbnailPath := none
    probeJson := none }], by simp⟩

def retriedCalls : List Call :=
  [⟨0, .enqueue (some 1) .process none 100 false⟩,
    ⟨1, .claimNext "worker" [] 1⟩,
    ⟨2, .fail 1 "decoder stopped" false false⟩]

theorem atMostOneQueued_retried :
    (runCalls ⟨3, 300⟩ oneClip retriedCalls).jobs.rows.map Job.state = [.queued] ∧
      ∀ r, ∀ a ∈ (runCalls ⟨3, 300⟩ oneClip retriedCalls).jobs,
        ∀ b ∈ (runCalls ⟨3, 300⟩ oneClip retriedCalls).jobs, a.recordingId = some r →
          b.recordingId = some r → a.state = .queued → b.state = .queued → a = b := by
  let reached (n : Nat) := runCalls ⟨3, 300⟩ oneClip (retriedCalls.take n)
  let Reach (n : Nat) := Run (Step ⟨3, 300⟩)
    (fun db call => requeuesAlone ⟨3, 300⟩ call.now db call.op) oneClip (retriedCalls.take n)
    (reached n)
  have queued : Reach 1 := .tail .refl (fun _ _ put => put.elim) rfl
  have claimed : Reach 2 := .tail queued (fun _ _ put => put.elim) rfl
  have failed : Reach 3 := by
    refine .tail claimed ?_ rfl
    intro j _ _ k memberK r _ _ waiting
    have running : ∀ k ∈ (reached 2).jobs.rows, k.state = .running := by decide
    simp [running k memberK] at waiting
  exact ⟨by decide, atMostOneQueued_of_requeuesAlone ⟨3, 300⟩ oneClip _ retriedCalls rfl failed⟩

/-- A forced request beside a RUNNING row, and then the loss of its worker. -/
theorem not_atMostOneQueued :
    ¬ ∀ (settings : Settings) (start db : Db) (calls : List Call), start.jobs = Table.empty →
      Run (Step settings) anyStep start calls db →
        ∀ r, ∀ a ∈ db.jobs, ∀ b ∈ db.jobs, a.recordingId = some r → b.recordingId = some r →
          a.state = .queued → b.state = .queued → a = b := by
  intro single
  let calls : List Call := [⟨0, .enqueue (some 1) .process none 100 false⟩,
    ⟨1, .claimNext "worker" [] 1⟩, ⟨2, .enqueue (some 1) .process none 200 true⟩,
    ⟨400, .reclaimStale⟩]
  have same := single ⟨3, 300⟩ oneClip _ calls rfl (run_of_calls _ _ _) 1
  have stacked : ¬ ∀ a ∈ (runCalls ⟨3, 300⟩ oneClip calls).jobs.rows,
      ∀ b ∈ (runCalls ⟨3, 300⟩ oneClip calls).jobs.rows, a.recordingId = some 1 →
        b.recordingId = some 1 → a.state = .queued → b.state = .queued → a = b := by decide
  exact stacked same

end DashcamStats.Queue
