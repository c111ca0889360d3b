import DashcamStats.Queue.NoStacking

namespace DashcamStats.Queue

variable (settings : Settings) (now : Time)

inductive RowChange (db : Db) : Op → Job → Job → Prop
  | quiet {op : Op} {j k : Job} (state : k.state = j.state) (attempts : k.attempts = j.attempts)
      (maxAttempts : k.maxAttempts = j.maxAttempts) (result : k.result = j.result) :
      RowChange db op j k
  | stopped {op : Op} {j k : Job} (state : k.state = .cancelled)
      (attempts : k.attempts = j.attempts) (maxAttempts : k.maxAttempts = j.maxAttempts)
      (result : k.result = j.result) : RowChange db op j k
  | claimed {workerId : String} {active : List RecordingId} {j : Job}
      (next : isNext now active db j) :
      RowChange db (.claimNext workerId active j.id) j (claimRow now workerId j)
  | completed {result : ResultJson} {speed : Option Rat} {decoder device : Option String}
      {j : Job} (kept : j.state ≠ .cancelled) :
      RowChange db (.complete j.id result speed decoder device) j
        (completeRow now result speed decoder device j)
  | failed {message : String} {permanent transient : Bool} {j : Job}
      (kept : j.state ≠ .cancelled) :
      RowChange db (.fail j.id message permanent transient) j
        (failRow now message j (failOutcome j permanent transient) j)
  | retried {j : Job} (chosen : retryable db j) : RowChange db .retryFailed j (retryRow j)
  | reclaimed {j : Job} (chosen : stale settings now j) :
      RowChange db .reclaimStale j (reclaimStaleRow j)
  | interrupted {j : Job} (chosen : j.state = .running) :
      RowChange db .reclaimInterrupted j (reclaimInterruptedRow j)
  | legacy {j : Job} (chosen : legacyContention j) :
      RowChange db .reconcileLegacyContentionFailures j (requeueLegacyRow j)
  | probe {rec : Recording} {j : Job} (member : rec ∈ db.recordings) (hidden : misclassified rec)
      (chosen : probeFailure rec.id j) :
      RowChange db .reconcileMisclassifiedProbeCrashes j (requeueProbeFailureRow j)

theorem RowChange.refl (db : Db) (op : Op) (j : Job) : RowChange settings now db op j j :=
  .quiet rfl rfl rfl rfl

structure Job.Inserted (j : Job) : Prop where
  state : j.state = .queued
  attempts : j.attempts = 0
  maxAttempts : j.maxAttempts = settings.retryMaxAttempts + 1
  result : j.result = .sqlNull

abbrev Db.Grows (db next : Db) : Prop :=
  db.jobs.Evolves Eq (Job.Inserted settings) next.jobs

theorem Db.Extends.stays {db next : Db} (extends_ : db.Extends next) :
    ∀ a ∈ db.jobs, ∃ b ∈ next.jobs, b.id = a.id := by
  intro a member
  obtain ⟨b, memberB, same, _⟩ := extends_ a member
  exact ⟨b, memberB, same⟩

variable {settings now}
variable {db mid next : Db} {R : Job → Job → Prop}

theorem evolves_updateJobs {p : Job → Prop} [DecidablePred p] {f : Job → Job}
    (keeps : ∀ j, (f j).id = j.id) (same : ∀ j, R j j) (changed : ∀ j ∈ db.jobs, p j → R j (f j)) :
    db.jobs.Evolves R (Job.Inserted settings) (db.updateJobs p f keeps).jobs :=
  Table.Evolves.update keeps (fun j member chosen => changed j member (by simpa using chosen))
    (fun j _ _ => same j)

theorem stays_updateJobs {p : Job → Prop} [DecidablePred p] {f : Job → Job}
    (keeps : ∀ j, (f j).id = j.id) : ∀ a ∈ db.jobs, ∃ b ∈ (db.updateJobs p f keeps).jobs, b.id = a.id :=
  fun a member => ⟨_, Db.mem_updateJobs.mpr ⟨a, member, rfl⟩, by split <;> simp [keeps]⟩

theorem Db.Grows.refl (db : Db) : db.Grows settings db := Table.Evolves.refl _ fun _ => rfl

theorem Db.Grows.trans (first : db.Grows settings mid) (extends_ : db.Extends mid)
    (second : mid.Grows settings next) : db.Grows settings next :=
  Table.Evolves.trans_eq first extends_.stays second

theorem grows_insertJob (recordingId : Option RecordingId) (kind : JobKind)
    (stages : Option (List String)) (priority : Int) :
    db.Grows settings (insertJob settings now recordingId kind stages priority db).1 := by
  have added : db.Grows settings
      (db.addJob (freshJob settings now recordingId kind stages priority)) :=
    fun k member => by
      rcases Db.mem_addJob.mp member with old | rfl
      · exact .inl ⟨k, old, rfl, rfl⟩
      · exact .inr ⟨fun _ old => Nat.ne_of_lt (Table.key_lt_nextKey old), rfl, rfl, rfl, rfl⟩
  cases recordingId <;> exact added

theorem grows_enqueue (db : Db) (recordingId : Option RecordingId) (kind : JobKind)
    (stages : Option (List String)) (priority : Int) :
    db.Grows settings (enqueue settings now recordingId kind stages priority false db).1 := by
  simp only [enqueue, Bool.false_eq_true, if_false]
  split
  · exact grows_insertJob _ _ _ _
  · split
    · exact .refl db
    · exact grows_insertJob _ _ _ _

theorem grows_followUp (job : Job) :
    db.Grows settings (followUpAfterThumbnail settings now job db) := by
  unfold followUpAfterThumbnail
  split
  · exact .refl db
  · split
    · exact .refl db
    · split
      · exact .refl db
      · split
        · exact .refl db
        · exact grows_enqueue db _ _ _ _

theorem changes_enqueue {op : Op} (recordingId : Option RecordingId) (kind : JobKind)
    (stages : Option (List String)) (priority : Int) (force : Bool) :
    db.jobs.Evolves (RowChange settings now db op) (Job.Inserted settings)
      (enqueue settings now recordingId kind stages priority force db).1.jobs := by
  cases force with
  | false =>
    refine (grows_enqueue db recordingId kind stages priority).mono ?_
    rintro j k rfl
    exact .refl _ _ _ _ _
  | true =>
    cases recordingId with
    | none =>
      refine (grows_insertJob none kind stages priority).mono ?_
      rintro j k rfl
      exact .refl _ _ _ _ _
    | some r =>
      refine Table.Evolves.trans_eq (u := (supersede now r db).jobs) ?_ ?_
        (grows_insertJob (some r) kind stages priority)
      · exact evolves_updateJobs _ (.refl _ _ _ _) fun _ _ _ => .stopped rfl rfl rfl rfl
      · exact stays_updateJobs _

-- The row `job` is stored, and a call writes only on it.
theorem changes_row {op : Op} {job : Job} (stored : job ∈ db.jobs) (f : Job → Job)
    (keeps : ∀ j, (f j).id = j.id) (change : RowChange settings now db op job (f job)) :
    db.jobs.Evolves (RowChange settings now db op) (Job.Inserted settings)
      (db.updateJobs (fun j => j.id = job.id) f keeps).jobs :=
  (Table.Evolves.refl db.jobs (.refl _ _ db op)).update_row stored stored f keeps change

theorem changes_reconcileLegacy :
    db.jobs.Evolves (RowChange settings now db .reconcileLegacyContentionFailures)
      (Job.Inserted settings) (reconcileLegacyContentionFailures db).1.jobs := by
  have fold (rest : List Job) (current : Db) (counts : Nat × Nat)
      (evolves : db.jobs.Evolves (RowChange settings now db .reconcileLegacyContentionFailures)
        (Job.Inserted settings) current.jobs)
      (sorted : rest.Pairwise fun a b => b.id < a.id)
      (left : ∀ j ∈ rest, j ∈ db.jobs ∧ j ∈ current.jobs ∧ legacyContention j) :
      db.jobs.Evolves (RowChange settings now db .reconcileLegacyContentionFailures)
        (Job.Inserted settings) (rest.foldl reconcileLegacyRow (current, counts)).1.jobs := by
    induction rest generalizing current counts with
    | nil => exact evolves
    | cons job rest ih =>
      obtain ⟨older, sorted⟩ := List.pairwise_cons.mp sorted
      obtain ⟨before, here, legacy⟩ := left job (by simp)
      have others (f : Job → Job) (keeps : ∀ j, (f j).id = j.id) :
          ∀ j ∈ rest, j ∈ db.jobs ∧
            j ∈ (current.updateJobs (fun j => j.id = job.id) f keeps).jobs ∧
            legacyContention j := by
        intro j inRest
        obtain ⟨beforeJ, hereJ, legacyJ⟩ := left j (by simp [inRest])
        have ne := Nat.ne_of_lt (older j inRest)
        exact ⟨beforeJ, Db.mem_updateJobs.mpr ⟨j, hereJ, by simp [ne]⟩, legacyJ⟩
      simp only [List.foldl_cons, reconcileLegacyRow]
      split
      · exact ih (retireLegacy current job) _
          (evolves.update_row before here (retireLegacyRow (superseded current job))
            (fun _ => rfl) (.stopped rfl rfl rfl rfl)) sorted
            (others (retireLegacyRow (superseded current job)) fun _ => rfl)
      · exact ih (requeueLegacy current job) _
          (evolves.update_row before here requeueLegacyRow (fun _ => rfl) (.legacy legacy)) sorted
            (others requeueLegacyRow fun _ => rfl)
  refine fold _ db (0, 0) (.refl _ (.refl _ _ _ _)) (newestFirst_pairwise db legacyContention) ?_
  intro j member
  have filtered := List.mem_filter.mp (List.mem_mergeSort.mp member)
  exact ⟨filtered.1, filtered.1, by simpa using filtered.2⟩

theorem changes_reconcileMisclassified :
    db.jobs.Evolves (RowChange settings now db .reconcileMisclassifiedProbeCrashes)
      (Job.Inserted settings) (reconcileMisclassifiedProbeCrashes settings now db).1.jobs := by
  have fold (rest : List Recording) (current : Db)
      (evolves : db.jobs.Evolves (RowChange settings now db .reconcileMisclassifiedProbeCrashes)
        (Job.Inserted settings) current.jobs)
      (stays : db.Extends current)
      (distinct : (rest.map Recording.id).Nodup)
      (rows : ∀ rec ∈ rest, current.rowsOf rec.id = db.rowsOf rec.id)
      (found : ∀ rec ∈ rest, rec ∈ db.recordings ∧ misclassified rec) :
      db.jobs.Evolves (RowChange settings now db .reconcileMisclassifiedProbeCrashes)
        (Job.Inserted settings)
        (rest.foldl (reconcileMisclassifiedRow settings now) current).jobs := by
    induction rest generalizing current with
    | nil => exact evolves
    | cons rec rest ih =>
      obtain ⟨absent, distinct⟩ := List.nodup_cons.mp distinct
      obtain ⟨member, hidden⟩ := found rec (by simp)
      refine ih _ ?_ (stays.trans (extends_reconcileMisclassifiedRow settings now _ _)) distinct
        ?_ (fun other inRest => found other (by simp [inRest]))
      · unfold reconcileMisclassifiedRow
        dsimp only
        split
        · rename_i job chosen
          obtain ⟨here, failure⟩ := newestProbeFailure?_mem chosen
          have before : job ∈ db.rowsOf rec.id := by
            rw [← rows rec (by simp)]
            exact List.mem_filter.mpr ⟨here, by simpa using failure.1⟩
          exact evolves.update_row (List.mem_filter.mp before).1 here
            requeueProbeFailureRow (fun _ => rfl) (.probe member hidden failure)
        · exact Table.Evolves.trans_eq (u := current.jobs) evolves stays.stays
            (grows_enqueue (restoreRecording rec.id current) _ _ _ _)
      · intro other inRest
        have ne : rec.id ≠ other.id := by
          intro eq
          exact absent (eq ▸ List.mem_map_of_mem inRest)
        rw [rowsOf_reconcileMisclassifiedRow settings now ne]
        exact rows other (by simp [inRest])
  refine fold _ db (.refl _ (.refl _ _ _ _)) (.refl db) ?_ (fun _ _ => rfl) ?_
  · exact db.recordings.distinct.sublist (List.filter_sublist.map _)
  · intro rec member
    have filtered := List.mem_filter.mp member
    exact ⟨filtered.1, by simpa using filtered.2⟩

theorem grows_reconcileMedia : db.Grows settings (reconcileMediaFailureHides settings now db).1 := by
  have fold (rest : List Recording) (current : Db) (grows : db.Grows settings current)
      (stays : db.Extends current) :
      db.Grows settings (rest.foldl (reconcileMediaRow settings now) current) := by
    induction rest generalizing current with
    | nil => exact grows
    | cons rec rest ih =>
      refine ih _ (grows.trans stays ?_) (stays.trans (extends_reconcileMediaRow settings now _ _))
      exact grows_enqueue (reviewRecording rec.id current) _ _ _ _
  exact fold _ db (.refl db) (.refl db)

theorem changes_apply (settings : Settings) (now : Time) (db : Db) (op : Op) :
    db.jobs.Evolves (RowChange settings now db op) (Job.Inserted settings)
      (op.apply settings now db).jobs := by
  have unchanged : db.jobs.Evolves (RowChange settings now db op) (Job.Inserted settings) db.jobs :=
    .refl _ (.refl _ _ _ _)
  have grown {next : Db} (grows : db.Grows settings next) :
      db.jobs.Evolves (RowChange settings now db op) (Job.Inserted settings) next.jobs :=
    grows.mono fun j k same => same ▸ .refl _ _ _ _ _
  cases op <;> simp only [Op.apply]
  case enqueue => exact changes_enqueue _ _ _ _ _
  case claimNext =>
    split
    · exact unchanged
    · rename_i found
      obtain ⟨stored, rfl⟩ := Table.find?_mem found
      split
      · rename_i next
        exact changes_row stored (claimRow now _) (fun _ => rfl) (.claimed next)
      · exact unchanged
  case heartbeat =>
    exact evolves_updateJobs _ (.refl _ _ _ _) fun _ _ _ => .quiet rfl rfl rfl rfl
  case complete =>
    split
    · exact unchanged
    · rename_i found
      obtain ⟨stored, rfl⟩ := Table.find?_mem found
      split
      · exact unchanged
      · rename_i kept
        exact Table.Evolves.trans_eq
          (changes_row stored (completeRow now _ _ _ _) (fun _ => rfl) (.completed kept))
          (stays_updateJobs _) (grows_followUp _)
  case fail job message permanent transient =>
    split
    · exact unchanged
    · rename_i j found
      obtain ⟨stored, rfl⟩ := Table.find?_mem found
      split
      · exact unchanged
      · rename_i kept
        have written : db.jobs.Evolves (RowChange settings now db _) (Job.Inserted settings) _ :=
          changes_row stored (failRow now message j (failOutcome j permanent transient))
            (failRow_id now _ _ _) (.failed kept)
        unfold fail
        dsimp only
        split
        · exact Table.Evolves.trans_eq written (stays_updateJobs _) (grows_followUp _)
        · exact written
  case cancel =>
    have cancelled (job : JobId) : db.jobs.Evolves (RowChange settings now db (.cancel job))
        (Job.Inserted settings)
        (db.updateJobs (fun j => j.id = job) (cancelRow now) (fun _ => rfl)).jobs :=
      evolves_updateJobs _ (.refl _ _ _ _) fun _ _ _ => .stopped rfl rfl rfl rfl
    unfold cancel
    split
    · exact unchanged
    · split
      · exact unchanged
      · dsimp only
        split
        · exact cancelled _
        · split <;> exact cancelled _
  case clear =>
    exact evolves_updateJobs _ (.refl _ _ _ _) fun _ _ _ => .stopped rfl rfl rfl rfl
  case retryFailed => exact evolves_updateJobs _ (.refl _ _ _ _) fun _ _ chosen => .retried chosen
  case reclaimStale =>
    have requeued : db.jobs.Evolves (RowChange settings now db .reclaimStale)
        (Job.Inserted settings)
        (db.updateJobs (stale settings now) reclaimStaleRow (fun _ => rfl)).jobs :=
      evolves_updateJobs _ (.refl _ _ _ _) fun _ _ chosen => .reclaimed chosen
    unfold reclaimStale returnRecordings
    dsimp only
    split <;> exact requeued
  case reclaimInterrupted =>
    have requeued : db.jobs.Evolves (RowChange settings now db .reclaimInterrupted)
        (Job.Inserted settings)
        (db.updateJobs (fun j => j.state = .running) reclaimInterruptedRow (fun _ => rfl)).jobs :=
      evolves_updateJobs _ (.refl _ _ _ _) fun _ _ chosen => .interrupted chosen
    unfold reclaimInterrupted returnRecordings
    dsimp only
    split <;> exact requeued
  case releaseStrandedRecordings => exact unchanged
  case reconcileLegacyContentionFailures => exact changes_reconcileLegacy
  case reconcileMisclassifiedProbeCrashes => exact changes_reconcileMisclassified
  case reconcileMediaFailureHides => exact grown grows_reconcileMedia
  case recordings => exact unchanged

end DashcamStats.Queue
