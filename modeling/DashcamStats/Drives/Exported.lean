import DashcamStats.Drives.Bundle
import DashcamStats.Drives.Lifecycle

namespace DashcamStats.Drives

section Rows

theorem samplesOf_mem {db : Database} {driveId : String} {row : Sample}
    (mem : row ∈ db.samplesOf driveId) : row ∈ db.samples ∧ row.driveId = driveId := by
  unfold Database.samplesOf at mem
  rw [List.mem_mergeSort, List.mem_filter, decide_eq_true_iff] at mem
  exact mem

theorem samplesOf_sorted (db : Database) (driveId : String) :
    (db.samplesOf driveId).Pairwise fun a b => a.sequence < b.sequence := by
  have sorted : (db.samplesOf driveId).Pairwise fun a b => a.sequence ≤ b.sequence := by
    have pairs : (db.samplesOf driveId).Pairwise
        fun a b => decide (a.sequence ≤ b.sequence) = true := by
      refine List.pairwise_mergeSort (fun a b c first second => ?_) (fun a b => ?_) _
      · simp only [decide_eq_true_eq] at first second ⊢
        exact first.trans second
      · simpa using Int.le_total a.sequence b.sequence
    exact pairs.imp fun le => by simpa using le
  have distinct : (db.samplesOf driveId).Pairwise fun a b => a.sampleId ≠ b.sampleId := by
    have nodup : ((db.samplesOf driveId).map Sample.sampleId).Nodup := by
      unfold Database.samplesOf
      rw [((List.mergeSort_perm _ _).map Sample.sampleId).nodup_iff]
      exact db.samples.distinct.sublist (List.filter_sublist.map _)
    exact List.pairwise_map.mp nodup
  refine (sorted.and distinct).imp_of_mem fun {a b} isRow isRow' both => ?_
  refine lt_of_le_of_ne both.1 fun same => both.2 ?_
  unfold Sample.sampleId
  rw [(samplesOf_mem isRow).2, (samplesOf_mem isRow').2, same]

theorem validateSamples_ok_iff (manifest : Manifest) (rows : List Sample)
    (previous : Option (ℤ × ℤ)) (sorted : rows.Pairwise fun a b => a.sequence < b.sequence)
    (later : ∀ before, previous = some before → ∀ row ∈ rows, before.1 < row.sequence) :
    validateSamples manifest previous rows = .ok () ↔
      (∀ row ∈ rows, utc manifest.startTime ≤ utc row.timestamp ∧
        utc row.timestamp ≤ utc manifest.finishTime) ∧
      (∀ before, previous = some before → ∀ row ∈ rows, before.2 ≤ utc row.timestamp) ∧
      rows.Pairwise fun a b => utc a.timestamp ≤ utc b.timestamp := by
  induction rows generalizing previous with
  | nil => simp [validateSamples, pure, Except.pure]
  | cons row rows ih =>
    obtain ⟨first, sorted⟩ := List.pairwise_cons.mp sorted
    have rest := ih (some (row.sequence, utc row.timestamp)) sorted (by
      rintro _ ⟨⟩
      exact first)
    have increasing : previous.all (fun before => before.1 < row.sequence) = true := by
      rw [Option.all_eq_true]
      intro before isPrevious
      simpa using later before isPrevious row List.mem_cons_self
    simp only [validateSamples, check_bind_eq_ok, rest, increasing, true_and, Option.all_eq_true,
      decide_eq_true_eq, List.forall_mem_cons, List.pairwise_cons, Option.some.injEq,
      forall_eq']
    constructor
    · rintro ⟨window, ordered, windows, head, tail⟩
      refine ⟨⟨window, windows⟩, fun before isPrevious => ⟨ordered before isPrevious, ?_⟩, head,
        tail⟩
      exact fun row mem => (ordered before isPrevious).trans (head row mem)
    · rintro ⟨⟨window, windows⟩, ordered, head, tail⟩
      exact ⟨window, fun before isPrevious => (ordered before isPrevious).1, windows, head, tail⟩

end Rows

section Terminal

variable (drive : Drive) (rows : List Sample) (finish : Finish)

def endReason : String :=
  drive.effectiveReason finish.stopReason

def endTime (last : Sample) : Instant :=
  if endReason drive finish = "engine_stopped" then
    max drive.startTime (finish.requestedFinish.getD finish.noticed)
  else last.timestamp

theorem driveTerminalPolicy_cases (reason : String) :
    reason = "engine_stopped" ∧ driveTerminalPolicy reason = ⟨.complete, true, false⟩ ∨
      reason ≠ "engine_stopped" ∧ (driveTerminalPolicy reason = ⟨.recovered, false, true⟩ ∨
        driveTerminalPolicy reason = ⟨.interrupted, false, true⟩) := by
  unfold driveTerminalPolicy
  by_cases stopped : reason = "engine_stopped"
  · exact .inl ⟨stopped, if_pos stopped⟩
  · rw [if_neg stopped]
    refine .inr ⟨stopped, ?_⟩
    split
    · exact .inl rfl
    · exact .inr rfl

theorem driveTerminalPolicy_useLast (reason : String) :
    (driveTerminalPolicy reason).useLastValidSampleAsEnd = true ↔ reason ≠ "engine_stopped" := by
  rcases driveTerminalPolicy_cases reason with ⟨stopped, policy⟩ | ⟨other, policy | policy⟩
  · rw [policy]
    simp [stopped]
  · simp [policy, other]
  · simp [policy, other]

theorem completionStatus_policy (stopReason : Option String) (reason : String) :
    completionStatus stopReason (driveTerminalPolicy reason).status =
      (driveTerminalPolicy reason).status := by
  rcases driveTerminalPolicy_cases reason with ⟨_, policy⟩ | ⟨_, policy | policy⟩ <;>
    rw [policy] <;> rfl

variable {drive rows finish}
variable {last : Sample}

theorem finalized_lastSampleAt (isLast : rows.getLast? = some last) :
    (drive.finalized rows finish).lastSampleAt = some last.timestamp := by
  simp [Drive.finalized, isLast]

theorem finalized_finishTime (isLast : rows.getLast? = some last) :
    (drive.finalized rows finish).finishTime =
      some (max drive.startTime (endTime drive finish last)) := by
  simp only [Drive.finalized, endTime, endReason, isLast, Option.map_some, Option.some_or,
    Option.getD_some, driveTerminalPolicy_useLast]
  by_cases stopped : drive.effectiveReason finish.stopReason = "engine_stopped"
  · simp [stopped]
  · simp [stopped]

theorem finalized_lastResponse {response : Instant}
    (isResponse : (drive.finalized rows finish).lastSuccessfulResponseAt = some response) :
    drive.startTime ≤ response ∧
      ∀ noticed, (drive.finalized rows finish).terminationNoticedAt = some noticed →
        response ≤ noticed := by
  refine ⟨by simpa using List.find?_some isResponse, fun noticed isNoticed => ?_⟩
  simp only [Drive.finalized, Option.some.injEq] at isNoticed
  rw [← isNoticed]
  refine (le_max_right _ _).trans' ?_
  have same : (([finish.lastSuccessfulResponse, drive.lastSuccessfulResponseAt,
      lastResponseFallback rows].filterMap id).find? fun at_ => drive.startTime ≤ at_) =
      some response := isResponse
  rw [same]
  rfl

theorem exportCreatedAt_ge {at_ finishTime now : Instant}
    (mem : drive.finalisedAt = some at_) : at_ ≤ exportCreatedAt drive finishTime now := by
  have grows : ∀ (instants : List Instant) (start : Instant), start ≤ instants.foldl max start := by
    intro instants
    induction instants with
    | nil => exact fun start => le_refl start
    | cons first rest ih => exact fun start => (le_max_left _ _).trans (ih _)
  have bound : ∀ (instants : List Instant) (start : Instant), at_ ∈ instants →
      at_ ≤ instants.foldl max start := by
    intro instants
    induction instants with
    | nil => exact fun start mem => absurd mem List.not_mem_nil
    | cons first rest ih =>
      intro start mem
      rcases List.mem_cons.mp mem with rfl | mem
      · exact (le_max_right _ _).trans (grows rest _)
      · exact ih _ mem
  refine bound _ _ ?_
  simp [mem]

theorem validateLifecycleShape_finalized {whitespace : Char → Bool} {now : Instant} {plan : ℤ}
    (isPlan : drive.pollPlanVersion = some plan)
    (supported : 2 ≤ plan ∧ plan ≤ pollTrialPlanVersion)
    (isLast : rows.getLast? = some last) :
    validateLifecycleShape whitespace
        (manifestOf (drive.finalized rows finish)
          (max drive.startTime (endTime drive finish last)) rows now)
        (summaryOf (drive.finalized rows finish)
          (max drive.startTime (endTime drive finish last)) rows) = .ok () ↔
      (drive.startTime ≤ last.timestamp ∧
        last.timestamp ≤ max drive.startTime (endTime drive finish last)) ∧
      (endReason drive finish ≠ "engine_stopped" →
        isNullOrBlank whitespace (some (endReason drive finish)) = false) := by
  obtain ⟨finished, noticed, finalised, _, isFinished, isNoticed, isFinalised, _, ordered,
    afterFinish, afterNotice⟩ := finalized_ended drive rows finish
  rw [finalized_finishTime isLast] at isFinished
  cases isFinished
  have start : (drive.finalized rows finish).startTime = drive.startTime := rfl
  have plans : (drive.finalized rows finish).pollPlanVersion = some plan := isPlan
  have response : ∀ at_, (drive.finalized rows finish).lastSuccessfulResponseAt = some at_ →
      drive.startTime ≤ at_ ∧ at_ ≤ noticed := fun at_ isResponse =>
    ⟨(finalized_lastResponse isResponse).1, (finalized_lastResponse isResponse).2 _ isNoticed⟩
  have created : finalised ≤ exportCreatedAt (drive.finalized rows finish)
      (max drive.startTime (endTime drive finish last)) now := exportCreatedAt_ge isFinalised
  have status : (drive.finalized rows finish).status =
      (driveTerminalPolicy (endReason drive finish)).status := rfl
  have clean : (drive.finalized rows finish).cleanEnd =
      (driveTerminalPolicy (endReason drive finish)).cleanEnd := rfl
  have interruption : (drive.finalized rows finish).interruptionReason =
      if (driveTerminalPolicy (endReason drive finish)).status = .complete then none
      else some (endReason drive finish) := rfl
  have responses : (drive.finalized rows finish).lastSuccessfulResponseAt.all
      (fun at_ => drive.startTime ≤ at_ ∧ at_ ≤ noticed) = true := by
    rw [Option.all_eq_true]
    intro at_ isResponse
    simpa using response at_ isResponse
  simp only [validateLifecycleShape, manifestOf, summaryOf, start, plans, status, clean,
    interruption, completionStatus_policy, isNoticed, isFinalised, finalized_lastSampleAt isLast,
    check_bind_eq_ok, Option.all_some, Option.some_or, Option.getD_some, supported,
    decide_eq_true_eq, responses, created, afterFinish, afterNotice, true_and,
    and_self]
  rcases driveTerminalPolicy_cases (endReason drive finish) with
    ⟨stopped, policy⟩ | ⟨other, policy | policy⟩
  · simp only [policy]
    simp [stopped]
  · simp [policy, other]
  · simp [policy, other]

end Terminal

section Ending

inductive Ending where
  | finalize (finish : Finish)
  | recover (recordingReason : String) (now : Instant) (clock : String → Instant)

-- `recoverInterrupted` takes only the reasons of an interruption.
def Ending.allowed : Ending → Prop
  | .finalize _ => True
  | .recover reason _ _ =>
    reason = "device_restart" ∨ (driveTerminalPolicy reason).status = .interrupted

def Ending.call (driveId : String) : Ending → Call
  | .finalize finish => .finalizeDrive driveId finish
  | .recover reason now clock => .recoverInterrupted reason now clock

def Ending.finish (drive : Drive) : Ending → Finish
  | .finalize finish => finish
  | .recover reason now clock =>
    { stopReason := drive.stopReason.getD reason
      noticed := now
      finalised := clock drive.driveId }

variable {db : Database} {driveId : String} {drive : Drive}

theorem find?_modifyDrive_ne {other : String} {change : Drive → Drive}
    {keeps : ∀ drive, (change drive).driveId = drive.driveId} (apart : other ≠ driveId) :
    (db.modifyDrive driveId change keeps).drives.find? other = db.drives.find? other := by
  unfold Database.modifyDrive
  rw [Table.find?_update]
  cases found : db.drives.find? other with
  | none => rfl
  | some row =>
    have isOther := (Table.find?_mem found).2
    simp [isOther, apart]

theorem finalizeDrive_pending (found : db.drives.find? driveId = some drive)
    (pending : drive.status.terminal = false) (finish : Finish) :
    ∃ result, finalizeDrive db driveId finish =
      .ok (db.modifyDrive driveId (·.finalized (db.samplesOf driveId) finish)
        (fun drive => drive.finalized_driveId _ finish), result) := by
  simp [finalizeDrive, found, pending, Drive.finalization?, Drive.finalized]

theorem finalizeDrive_samples (finish : Finish) :
    (db.after (finalizeDrive db driveId finish)).samples = db.samples := by
  cases returns : finalizeDrive db driveId finish with
  | error message => rfl
  | ok result =>
    obtain ⟨_, _, ⟨_, unchanged, _⟩ | ⟨_, changed, _⟩⟩ := finalizeDrive_cases returns
    · simp only [Database.after, unchanged]
    · simp only [Database.after, changed]
      rfl

theorem finalizeDrive_other {other : String} (finish : Finish) (apart : other ≠ driveId) :
    (db.after (finalizeDrive db driveId finish)).drives.find? other = db.drives.find? other := by
  cases returns : finalizeDrive db driveId finish with
  | error message => rfl
  | ok result =>
    obtain ⟨_, _, ⟨_, unchanged, _⟩ | ⟨_, changed, _⟩⟩ := finalizeDrive_cases returns
    · simp only [Database.after, unchanged]
    · simp only [Database.after, changed]
      exact find?_modifyDrive_ne apart

theorem finalizeDrive_self (found : db.drives.find? driveId = some drive)
    (pending : drive.status.terminal = false) (finish : Finish) :
    (db.after (finalizeDrive db driveId finish)).drives.find? driveId =
      some (drive.finalized (db.samplesOf driveId) finish) := by
  obtain ⟨result, returns⟩ := finalizeDrive_pending found pending finish
  simp only [returns, Database.after]
  rw [find?_modifyDrive, found]
  rfl

theorem finalizeEach_cons (now : Instant) (clock : String → Instant) (first : String × String)
    (pending : List (String × String)) :
    (finalizeEach now clock db (first :: pending)).1 =
      if (finalizeDrive db first.1
          { stopReason := first.2, noticed := now, finalised := clock first.1 }).isOk then
        (finalizeEach now clock (db.after (finalizeDrive db first.1
          { stopReason := first.2, noticed := now, finalised := clock first.1 })) pending).1
      else db := by
  cases returns : finalizeDrive db first.1
      { stopReason := first.2, noticed := now, finalised := clock first.1 } with
  | error message => simp [finalizeEach, returns, Except.isOk, Except.toBool]
  | ok result => simp [finalizeEach, returns, Except.isOk, Except.toBool, Database.after]

theorem finalizeEach_samples (now : Instant) (clock : String → Instant)
    (pending : List (String × String)) :
    (finalizeEach now clock db pending).1.samples = db.samples :=
  @finalizeEach_invariant db (fun next => next.samples = db.samples)
    (fun _ _ finish same => (finalizeDrive_samples finish).trans same) now clock pending rfl

theorem finalizeEach_other {now : Instant} {clock : String → Instant}
    {pending : List (String × String)} (absent : driveId ∉ pending.map (·.1)) :
    (finalizeEach now clock db pending).1.drives.find? driveId = db.drives.find? driveId := by
  induction pending generalizing db with
  | nil => rfl
  | cons first pending ih =>
    rw [List.map_cons, List.mem_cons, not_or] at absent
    rw [finalizeEach_cons]
    split
    · rw [ih absent.2, finalizeDrive_other _ absent.1]
    · rfl

theorem finalizeEach_row {now : Instant} {clock : String → Instant}
    {pending : List (String × String)} {reason : String}
    (distinct : (pending.map (·.1)).Nodup)
    (isPending : ∀ one ∈ pending, ∃ row, db.drives.find? one.1 = some row ∧
      row.status.terminal = false)
    (mem : (driveId, reason) ∈ pending) (found : db.drives.find? driveId = some drive) :
    (finalizeEach now clock db pending).1.drives.find? driveId =
      some (drive.finalized (db.samplesOf driveId)
        { stopReason := reason, noticed := now, finalised := clock driveId }) := by
  induction pending generalizing db with
  | nil => cases mem
  | cons first pending ih =>
    rw [List.map_cons, List.nodup_cons] at distinct
    obtain ⟨row, isRow, rowPending⟩ := isPending first List.mem_cons_self
    obtain ⟨result, returns⟩ := finalizeDrive_pending isRow rowPending
      { stopReason := first.2, noticed := now, finalised := clock first.1 }
    have isOk : (finalizeDrive db first.1
        { stopReason := first.2, noticed := now, finalised := clock first.1 }).isOk = true := by
      rw [returns]
      rfl
    rw [finalizeEach_cons, if_pos isOk]
    rcases List.mem_cons.mp mem with rfl | mem
    · rw [isRow] at found
      cases found
      rw [finalizeEach_other distinct.1, finalizeDrive_self isRow rowPending]
    · have apart : driveId ≠ first.1 := by
        intro same
        exact distinct.1 (same ▸ List.mem_map_of_mem mem)
      have rows : (db.after (finalizeDrive db first.1
          { stopReason := first.2, noticed := now, finalised := clock first.1 })).samplesOf
            driveId = db.samplesOf driveId := by
        unfold Database.samplesOf
        rw [finalizeDrive_samples]
      rw [← rows]
      refine ih distinct.2 (fun one isOne => ?_) mem ?_
      · obtain ⟨other, isOther, otherPending⟩ := isPending one (List.mem_cons_of_mem _ isOne)
        refine ⟨other, ?_, otherPending⟩
        rw [finalizeDrive_other, isOther]
        intro same
        exact distinct.1 (same ▸ List.mem_map_of_mem isOne)
      · rw [finalizeDrive_other _ apart, found]

theorem ended_row {ending : Ending} (allowed : ending.allowed)
    (found : db.drives.find? driveId = some drive) (pending : drive.status.terminal = false) :
    (db.call (ending.call driveId)).drives.find? driveId =
        some (drive.finalized (db.samplesOf driveId) (ending.finish drive)) ∧
      (db.call (ending.call driveId)).samplesOf driveId = db.samplesOf driveId := by
  have isId := (Table.find?_mem found).2
  cases ending with
  | finalize finish =>
    refine ⟨finalizeDrive_self found pending finish, ?_⟩
    simp only [Ending.call, Database.call, Database.samplesOf, finalizeDrive_samples]
  | recover reason now clock =>
    have perm := List.mergeSort_perm (db.drives.rows.filter fun drive => !drive.status.terminal)
      fun a b => a.startTime < b.startTime ∨ a.startTime = b.startTime ∧ a.driveId ≤ b.driveId
    have names : (pendingDrives db reason).map (·.1) = ((db.drives.rows.filter fun drive =>
        !drive.status.terminal).mergeSort fun a b => a.startTime < b.startTime ∨
          a.startTime = b.startTime ∧ a.driveId ≤ b.driveId).map (·.driveId) := by
      simp [pendingDrives, List.map_map, Function.comp_def]
    have distinct : ((pendingDrives db reason).map (·.1)).Nodup := by
      rw [names, (perm.map _).nodup_iff]
      exact db.drives.distinct.sublist (List.filter_sublist.map _)
    have isPending : ∀ one ∈ pendingDrives db reason, ∃ row,
        db.drives.find? one.1 = some row ∧ row.status.terminal = false := by
      intro one mem
      obtain ⟨row, isRow, rfl⟩ := List.mem_map.mp mem
      rw [List.mem_mergeSort, List.mem_filter] at isRow
      exact ⟨row, Table.find?_self isRow.1, by simpa using isRow.2⟩
    have mem : (driveId, drive.stopReason.getD reason) ∈ pendingDrives db reason := by
      refine List.mem_map.mpr ⟨drive, ?_, by rw [isId]⟩
      rw [List.mem_mergeSort, List.mem_filter]
      exact ⟨(Table.find?_mem found).1, by simp [pending]⟩
    have final := @finalizeEach_row db driveId drive now clock _ _ distinct isPending mem found
    simp only [Ending.call, Ending.finish, Database.call, recoverInterrupted]
    rw [isId, if_pos (by simpa [Ending.allowed] using allowed)]
    refine ⟨final, ?_⟩
    unfold Database.samplesOf
    rw [finalizeEach_samples]

end Ending

section Accepted

theorem utc_mono {a b : Instant} (le : a ≤ b) : utc a ≤ utc b :=
  Int.ediv_le_ediv (by decide) le

variable {drive : Drive} {rows : List Sample} {finish : Finish} {last : Sample}

/-- The clock has not gone back between the start of the drive, its rows and its end, and the
drive is not too long. -/
def ClockForward (drive : Drive) (rows : List Sample) (finish : Finish) : Prop :=
  ∀ last, rows.getLast? = some last →
    drive.startTime ≤ last.timestamp ∧
    last.timestamp ≤ max drive.startTime (endTime drive finish last) ∧
    (∀ row ∈ rows, utc drive.startTime ≤ utc row.timestamp) ∧
    (rows.Pairwise fun a b => utc a.timestamp ≤ utc b.timestamp) ∧
    utc (max drive.startTime (endTime drive finish last)) - utc drive.startTime ≤ maxDriveSpan

theorem validateManifest_finalized {now : Instant} (isLast : rows.getLast? = some last)
    (first : drive.startTime ≤ last.timestamp)
    (inside : last.timestamp ≤ max drive.startTime (endTime drive finish last)) :
    validateManifest (manifestOf (drive.finalized rows finish)
        (max drive.startTime (endTime drive finish last)) rows now) = .ok () ↔
      utc (max drive.startTime (endTime drive finish last)) - utc drive.startTime ≤
        maxDriveSpan := by
  obtain ⟨finished, noticed, finalised, _, isFinished, isNoticed, isFinalised, _, ordered,
    afterFinish, afterNotice⟩ := finalized_ended drive rows finish
  rw [finalized_finishTime isLast] at isFinished
  cases isFinished
  have start : (drive.finalized rows finish).startTime = drive.startTime := rfl
  rw [start] at ordered
  have responses : (drive.finalized rows finish).lastSuccessfulResponseAt.all
      (fun at_ => utc drive.startTime ≤ utc at_ ∧ utc at_ ≤ utc noticed) = true := by
    rw [Option.all_eq_true]
    intro at_ isResponse
    have bounds := finalized_lastResponse isResponse
    simpa using ⟨utc_mono bounds.1, utc_mono (bounds.2 _ isNoticed)⟩
  have notReversed := Int.not_lt.mpr (utc_mono ordered)
  simp only [validateManifest, manifestOf, start, isNoticed, isFinalised,
    finalized_lastSampleAt isLast, check_bind_eq_ok, Option.all_some, Option.some_or,
    Option.getD_some, responses, utc_mono first, utc_mono inside, utc_mono afterFinish,
    utc_mono afterNotice, notReversed, false_or, and_self, Int.not_lt, decide_true]
  split
  · simp [pure, Except.pure]
  · simp

variable {db : Database} {driveId : String}

-- What `export` returns of a drive that has been finalised.
theorem exportDrive_finalized {whitespace : Char → Bool} {now : Instant} {plan : ℤ}
    {bundle : Bundle} (isId : drive.driveId = driveId)
    (row : db.drives.find? driveId = some (drive.finalized (db.samplesOf driveId) finish))
    (isPlan : drive.pollPlanVersion = some plan) (supported : 2 ≤ plan ∧ plan ≤ 7)
    (isLast : (db.samplesOf driveId).getLast? = some last) :
    exportDrive whitespace db driveId now = .ok bundle ↔
      isSafeDriveId driveId = true ∧ 0 < drive.sampleCount ∧
        ((drive.startTime ≤ last.timestamp ∧
            last.timestamp ≤ max drive.startTime (endTime drive finish last)) ∧
          (endReason drive finish ≠ "engine_stopped" →
            isNullOrBlank whitespace (some (endReason drive finish)) = false)) ∧
        bundle = ⟨manifestOf (drive.finalized (db.samplesOf driveId) finish)
            (max drive.startTime (endTime drive finish last)) (db.samplesOf driveId) now,
          summaryOf (drive.finalized (db.samplesOf driveId) finish)
            (max drive.startTime (endTime drive finish last)) (db.samplesOf driveId),
          db.samplesOf driveId⟩ := by
  have supported' : 2 ≤ plan ∧ plan ≤ pollTrialPlanVersion :=
    ⟨supported.1, supported.2.trans (by decide)⟩
  have notTrial : drive.pollPlanVersion ≠ some pollTrialPlanVersion := by
    rw [isPlan]
    rintro ⟨⟩
    exact absurd supported.2 (by decide)
  have terminal := finalized_terminal drive (db.samplesOf driveId) finish
  have count : (drive.finalized (db.samplesOf driveId) finish).sampleCount =
      drive.sampleCount := rfl
  have plans : (drive.finalized (db.samplesOf driveId) finish).pollPlanVersion =
      drive.pollPlanVersion := rfl
  have shape := @validateLifecycleShape_finalized drive (db.samplesOf driveId) finish last
    whitespace now plan isPlan supported' isLast
  simp only [exportDrive, row, check_bind_eq_ok, terminal, count, plans, notTrial, true_and,
    false_implies, finalized_finishTime isLast]
  rw [bind_unit_eq_ok]
  have ids : (drive.finalized (db.samplesOf driveId) finish).driveId = driveId := isId
  have valid : ∀ f, validate whitespace
      ⟨manifestOf (drive.finalized (db.samplesOf driveId) finish) f (db.samplesOf driveId) now,
        summaryOf (drive.finalized (db.samplesOf driveId) finish) f (db.samplesOf driveId),
        db.samplesOf driveId⟩ driveId =
      validateLifecycleShape whitespace
        (manifestOf (drive.finalized (db.samplesOf driveId) finish) f (db.samplesOf driveId) now)
        (summaryOf (drive.finalized (db.samplesOf driveId) finish) f
          (db.samplesOf driveId)) := by
    intro f
    simp only [validate, manifestOf, summaryOf, ids]
    rfl
  rw [valid, shape]
  simp only [pure, Except.pure, Except.ok.injEq, eq_comm]

theorem export_accepted_iff (whitespace : Char → Bool) {plan : ℤ} {ending : Ending}
    (found : db.drives.find? driveId = some drive) (pending : drive.status.terminal = false)
    (isPlan : drive.pollPlanVersion = some plan) (supported : 2 ≤ plan ∧ plan ≤ 7)
    (holds : db.samplesOf driveId ≠ []) (allowed : ending.allowed) (now : Instant) :
    (∃ bundle, exportDrive whitespace (db.call (ending.call driveId)) driveId now = .ok bundle ∧
        serverValidates bundle = .ok ()) ↔
      isSafeDriveId driveId = true ∧ 0 < drive.sampleCount ∧
        (endReason drive (ending.finish drive) ≠ "engine_stopped" →
          isNullOrBlank whitespace (some (endReason drive (ending.finish drive))) = false) ∧
        ClockForward drive (db.samplesOf driveId) (ending.finish drive) := by
  obtain ⟨row, samples⟩ := ended_row allowed found pending
  obtain ⟨last, isLast⟩ : ∃ last, (db.samplesOf driveId).getLast? = some last :=
    ⟨_, List.getLast?_eq_getLast_of_ne_nil holds⟩
  have isId := (Table.find?_mem found).2
  rw [← samples] at row isLast ⊢
  have sorted := samplesOf_sorted (db.call (ending.call driveId)) driveId
  generalize db.call (ending.call driveId) = next at row isLast sorted
  generalize ending.finish drive = finish at row
  simp only [exportDrive_finalized isId row isPlan supported isLast]
  have server : ∀ manifest, validateSamples manifest none (next.samplesOf driveId) = .ok () ↔
      (∀ row ∈ next.samplesOf driveId, utc manifest.startTime ≤ utc row.timestamp ∧
        utc row.timestamp ≤ utc manifest.finishTime) ∧
      (next.samplesOf driveId).Pairwise fun a b => utc a.timestamp ≤ utc b.timestamp := by
    intro manifest
    have rows := validateSamples_ok_iff manifest _ none sorted (by simp)
    simpa using rows
  have inOrder : (next.samplesOf driveId).Pairwise
      (fun a b => utc a.timestamp ≤ utc b.timestamp) →
      ∀ row ∈ next.samplesOf driveId, utc row.timestamp ≤ utc last.timestamp := by
    intro ordered row mem
    obtain ⟨front, isFront⟩ := List.getLast?_eq_some_iff.mp isLast
    rw [isFront] at ordered mem
    rcases List.mem_append.mp mem with mem | mem
    · exact (List.pairwise_append.mp ordered).2.2 row mem last (List.mem_singleton_self _)
    · rw [List.mem_singleton.mp mem]
  constructor
  · rintro ⟨bundle, ⟨safe, counted, ⟨⟨first, inside⟩, blank⟩, rfl⟩, accepted⟩
    unfold serverValidates at accepted
    rw [bind_unit_eq_ok, validateManifest_finalized isLast first inside, server] at accepted
    obtain ⟨span, window, ordered⟩ := accepted
    refine ⟨safe, counted, blank, fun other isOther => ?_⟩
    rw [isLast] at isOther
    cases isOther
    exact ⟨first, inside, fun row mem => (window row mem).1, ordered, span⟩
  · rintro ⟨safe, counted, blank, forward⟩
    obtain ⟨first, inside, starts, ordered, span⟩ := forward last isLast
    refine ⟨_, ⟨safe, counted, ⟨⟨first, inside⟩, blank⟩, rfl⟩, ?_⟩
    unfold serverValidates
    rw [bind_unit_eq_ok, validateManifest_finalized isLast first inside, server]
    refine ⟨span, fun row mem => ⟨starts row mem, ?_⟩, ordered⟩
    exact (inOrder ordered row mem).trans (utc_mono inside)

end Accepted

end DashcamStats.Drives
