import Mathlib.Data.List.Induction
import Mathlib.Data.List.Sort
import DashcamStats.Drives.Database

namespace DashcamStats.Drives

def Drive.Ended (drive : Drive) : Prop :=
  ∃ finish noticed finalised reason, drive.finishTime = some finish ∧
    drive.terminationNoticedAt = some noticed ∧ drive.finalisedAt = some finalised ∧
    drive.stopReason = some reason ∧
    drive.startTime ≤ finish ∧ finish ≤ noticed ∧ noticed ≤ finalised

structure Drive.Consistent (rows : List Sample) (drive : Drive) : Prop where
  ended : drive.status.terminal = true → drive.Ended
  counted : drive.sampleCount = rows.length
  quarantined : drive.exportStatus = .notExportableZeroSamples →
    drive.status.terminal = true ∧ drive.sampleCount = 0
  exported : drive.exportStatus = .exported → drive.status.terminal = true ∧
    0 < drive.sampleCount ∧ ∃ sha256, drive.bundleSha256 = some sha256 ∧ sha256Pattern sha256

def Database.Consistent (db : Database) : Prop :=
  ∀ drive ∈ db.drives, drive.Consistent (db.samplesOf drive.driveId)

def Drive.ending (drive : Drive) :
    DriveStatus × Option Instant × Option Instant × Option Instant × Option String × Bool :=
  (drive.status, drive.finishTime, drive.terminationNoticedAt, drive.finalisedAt,
    drive.stopReason, drive.cleanEnd)

-- Every terminal row of `db` is in `later`, with its end.
def Frozen (db later : Database) : Prop :=
  ∀ drive ∈ db.drives, drive.status.terminal = true →
    ∃ kept ∈ later.drives, kept.driveId = drive.driveId ∧ kept.ending = drive.ending

attribute [local simp] Database.call

theorem Frozen.refl (db : Database) : Frozen db db :=
  fun drive mem _ => ⟨drive, mem, rfl, rfl⟩

theorem Frozen.trans {first second third : Database} (a : Frozen first second)
    (b : Frozen second third) : Frozen first third := by
  intro drive mem terminal
  obtain ⟨kept, mem', same, ending⟩ := a drive mem terminal
  have status : kept.status = drive.status := congrArg Prod.fst ending
  obtain ⟨last, mem'', same', ending'⟩ := b kept mem' (by rw [status]; exact terminal)
  exact ⟨last, mem'', same'.trans same, ending'.trans ending⟩

section Rows

theorem finalized_ended (drive : Drive) (rows : List Sample) (finish : Finish) :
    (drive.finalized rows finish).Ended := by
  refine ⟨_, _, _, _, rfl, rfl, rfl, rfl, le_max_left _ _, ?_, le_max_right _ _⟩
  exact (le_max_right _ _).trans ((le_max_left _ _).trans (le_max_left _ _))

theorem finalized_terminal (drive : Drive) (rows : List Sample) (finish : Finish) :
    (drive.finalized rows finish).status.terminal = true :=
  driveTerminalPolicy_terminal _

variable {rows : List Sample} {drive : Drive}

theorem finalized_consistent (finish : Finish) (pending : drive.status.terminal = false)
    (held : drive.Consistent rows) : (drive.finalized rows finish).Consistent rows where
  ended _ := finalized_ended drive rows finish
  counted := held.counted
  quarantined isQuarantined := by
    have before := (held.quarantined isQuarantined).1
    rw [pending] at before
    cases before
  exported isExported := by
    have before := (held.exported isExported).1
    rw [pending] at before
    cases before

theorem finalising_consistent (reason : String) (noticed : Instant) (response : Option Instant)
    (held : drive.Consistent rows) :
    (drive.finalising reason noticed response).Consistent rows := by
  unfold Drive.finalising
  split
  · rename_i isRecording
    refine ⟨fun terminal => (by cases terminal), held.counted, fun isQuarantined => ?_,
      fun isExported => ?_⟩
    · have before := (held.quarantined isQuarantined).1
      rw [isRecording] at before
      cases before
    · have before := (held.exported isExported).1
      rw [isRecording] at before
      cases before
  · exact held

theorem sampled_consistent {more : List Sample} (quality : String) (last : Option Instant)
    (isRecording : drive.status = .recording) (length : more.length = rows.length + 1)
    (held : drive.Consistent rows) : (drive.sampled quality last).Consistent more := by
  unfold Drive.sampled
  rw [if_pos isRecording]
  refine ⟨fun terminal => ?_, ?_, fun isQuarantined => ?_, fun isExported => ?_⟩
  · rw [isRecording] at terminal
    cases terminal
  · rw [length, ← held.counted]
  · have before := (held.quarantined isQuarantined).1
    rw [isRecording] at before
    cases before
  · have before := (held.exported isExported).1
    rw [isRecording] at before
    cases before

end Rows

section Samples

theorem samplesOf_insert (db : Database) (sample : Sample)
    (fresh : ∀ other ∈ db.samples.rows, other.sampleId ≠ sample.sampleId) (driveId : String) :
    ({ db with samples := db.samples.insert sample fresh } : Database).samplesOf driveId =
      if driveId = sample.driveId then
        ((db.samples.rows.filter fun row => row.driveId = driveId) ++ [sample]).mergeSort
          fun a b => a.sequence ≤ b.sequence
      else db.samplesOf driveId := by
  unfold Database.samplesOf
  simp only [Table.insert, List.filter_append]
  by_cases same : driveId = sample.driveId
  · subst same
    simp
  · simp [same, Ne.symm same]

theorem samplesOf_insert_length (db : Database) (sample : Sample)
    (fresh : ∀ other ∈ db.samples.rows, other.sampleId ≠ sample.sampleId) :
    (({ db with samples := db.samples.insert sample fresh } : Database).samplesOf
      sample.driveId).length = (db.samplesOf sample.driveId).length + 1 := by
  rw [samplesOf_insert, if_pos rfl]
  simp [Database.samplesOf]

end Samples

section Modify

variable {db : Database} {driveId : String} {change : Drive → Drive}
variable {keeps : ∀ drive, (change drive).driveId = drive.driveId}

theorem mem_modifyDrive {drive : Drive} :
    drive ∈ (db.modifyDrive driveId change keeps).drives ↔
      ∃ before ∈ db.drives,
        (if before.driveId = driveId then change before else before) = drive := by
  unfold Database.modifyDrive
  rw [Table.mem_update]
  simp only [decide_eq_true_eq]

theorem find?_modifyDrive :
    (db.modifyDrive driveId change keeps).drives.find? driveId =
      (db.drives.find? driveId).map change := by
  unfold Database.modifyDrive
  rw [Table.find?_update]
  cases found : db.drives.find? driveId with
  | none => rfl
  | some drive => simp [(Table.find?_mem found).2]

theorem mem_prepareCompletedExports {drive : Drive} :
    drive ∈ (prepareCompletedExports db).1.drives ↔
      ∃ before ∈ db.drives, (if before.emptyExport then before.quarantined else before) = drive :=
  @Table.mem_update _ _ _ db.drives Drive.emptyExport Drive.quarantined (fun _ => rfl) drive

theorem quarantined_driveId (drive : Drive) :
    (if drive.emptyExport then drive.quarantined else drive).driveId = drive.driveId := by
  split <;> rfl

theorem modifyDrive_consistent
    (kept : ∀ drive ∈ db.drives, drive.driveId = driveId →
      drive.Consistent (db.samplesOf driveId) → (change drive).Consistent (db.samplesOf driveId))
    (held : db.Consistent) : (db.modifyDrive driveId change keeps).Consistent := by
  intro drive isRow
  obtain ⟨before, mem, rfl⟩ := mem_modifyDrive.mp isRow
  have same : (db.modifyDrive driveId change keeps).samplesOf = db.samplesOf := rfl
  rw [same]
  split
  · rename_i isDrive
    rw [keeps, isDrive]
    exact kept before mem isDrive (isDrive ▸ held before mem)
  · exact held before mem

theorem modifyDrive_frozen
    (kept : ∀ drive ∈ db.drives, drive.driveId = driveId → drive.status.terminal = true →
      (change drive).ending = drive.ending) :
    Frozen db (db.modifyDrive driveId change keeps) := by
  intro drive mem terminal
  refine ⟨_, mem_modifyDrive.mpr ⟨drive, mem, rfl⟩, ?_, ?_⟩
  · split
    · exact keeps drive
    · rfl
  · split
    · exact kept drive mem ‹_› terminal
    · rfl

end Modify

section Calls

variable {db next : Database} {driveId : String}

-- The row that `finalizeDrive` finds, and what becomes of it.
theorem finalizeDrive_cases {finish : Finish} {result : DriveFinalization}
    (returns : finalizeDrive db driveId finish = .ok (next, result)) :
    ∃ drive, db.drives.find? driveId = some drive ∧
      (drive.status.terminal = true ∧ next = db ∧ drive.finalization? false = some result ∨
        drive.status.terminal = false ∧
          next = db.modifyDrive driveId (·.finalized (db.samplesOf driveId) finish)
            (fun drive => drive.finalized_driveId _ finish) ∧
          (drive.finalized (db.samplesOf driveId) finish).finalization? true = some result) := by
  unfold finalizeDrive at returns
  split at returns
  · cases returns
  · rename_i drive found
    refine ⟨drive, found, ?_⟩
    split at returns
    · rename_i terminal
      split at returns
      · rename_i result' isResult
        cases returns
        exact .inl ⟨terminal, rfl, isResult⟩
      · cases returns
    · rename_i pending
      simp only at returns
      split at returns
      · rename_i result' isResult
        cases returns
        exact .inr ⟨by simpa using pending, rfl, isResult⟩
      · cases returns

theorem eq_of_find? {drive found : Drive} (isFound : db.drives.find? driveId = some found)
    (mem : drive ∈ db.drives) (same : drive.driveId = driveId) : drive = found := by
  obtain ⟨mem', same'⟩ := Table.find?_mem isFound
  exact Table.eq_of_key mem mem' (same.trans same'.symm)

theorem finalizeDrive_consistent (finish : Finish) (held : db.Consistent) :
    (db.after (finalizeDrive db driveId finish)).Consistent := by
  cases returns : finalizeDrive db driveId finish with
  | error message => exact held
  | ok result =>
    obtain ⟨drive, found, ⟨_, same, _⟩ | ⟨pending, changed, _⟩⟩ := finalizeDrive_cases returns
    · simpa only [Database.after, same] using held
    · simp only [Database.after, changed]
      refine modifyDrive_consistent (fun row mem same before => ?_) held
      have isDrive := eq_of_find? found mem same
      exact finalized_consistent finish (isDrive ▸ pending) before

theorem finalizeDrive_frozen (finish : Finish) :
    Frozen db (db.after (finalizeDrive db driveId finish)) := by
  cases returns : finalizeDrive db driveId finish with
  | error message => exact .refl db
  | ok result =>
    obtain ⟨drive, found, ⟨_, same, _⟩ | ⟨pending, changed, _⟩⟩ := finalizeDrive_cases returns
    · simpa only [Database.after, same] using Frozen.refl db
    · simp only [Database.after, changed]
      refine modifyDrive_frozen fun row mem same terminal => ?_
      have isDrive := eq_of_find? found mem same
      rw [isDrive, pending] at terminal
      cases terminal

theorem finalizeEach_invariant {Inv : Database → Prop}
    (preserved : ∀ db driveId finish, Inv db → Inv (db.after (finalizeDrive db driveId finish)))
    (now : Instant) (clock : String → Instant) (pending : List (String × String))
    (start : Inv db) : Inv (finalizeEach now clock db pending).1 := by
  induction pending generalizing db with
  | nil => exact start
  | cons first pending ih =>
    obtain ⟨driveId, reason⟩ := first
    have stepped := preserved db driveId
      { stopReason := reason, noticed := now, finalised := clock driveId } start
    unfold finalizeEach
    cases returns : finalizeDrive db driveId
      { stopReason := reason, noticed := now, finalised := clock driveId } with
    | error message => exact start
    | ok result =>
      rw [returns] at stepped
      exact ih stepped

theorem startDrive_cases {startedAt : Instant} {plan : ℤ}
    (returns : startDrive db driveId startedAt plan = .ok next) :
    2 ≤ plan ∧ plan ≤ pollTrialPlanVersion ∧
      ∃ fresh, next = { db with
        drives := db.drives.insert
          { driveId := driveId, pollPlanVersion := some plan, startTime := startedAt } fresh } := by
  unfold startDrive at returns
  split at returns
  · cases returns
  · rename_i supported
    simp only at returns
    split at returns
    · rename_i fresh
      cases returns
      exact ⟨(not_not.mp supported).1, (not_not.mp supported).2, fresh, rfl⟩
    · cases returns

theorem addSample_cases {sample : Sample} {inserted : Bool}
    (returns : addSample db sample = .ok (next, inserted)) :
    inserted = false ∧ next = db ∨
      ∃ fresh drive, db.drives.find? sample.driveId = some drive ∧ inserted = true ∧
        next = ({ db with samples := db.samples.insert sample fresh } : Database).modifyDrive
          sample.driveId
          (·.sampled sample.transportQuality
            (({ db with samples := db.samples.insert sample fresh } : Database).lastTimestamp
              sample.driveId))
          (fun drive => drive.sampled_driveId _ _) := by
  unfold addSample at returns
  split at returns
  · rename_i fresh
    split at returns
    · cases returns
    · rename_i drive found
      cases returns
      exact .inr ⟨fresh, drive, found, rfl, rfl⟩
  · cases returns
    exact .inl ⟨rfl, rfl⟩

def Recorded (db : Database) : Call → Prop
  | .addSample sample => (∀ other ∈ db.samples.rows, other.sampleId ≠ sample.sampleId) →
    ∀ drive, db.drives.find? sample.driveId = some drive → drive.status = .recording
  | _ => True

def Database.Referenced (db : Database) : Prop :=
  ∀ sample ∈ db.samples, ∃ drive ∈ db.drives, drive.driveId = sample.driveId

theorem samplesOf_eq_nil (unused : ∀ drive ∈ db.drives, drive.driveId ≠ driveId)
    (referenced : db.Referenced) : db.samplesOf driveId = [] := by
  have none : (db.samples.rows.filter fun sample => sample.driveId = driveId) = [] := by
    rw [List.filter_eq_nil_iff]
    intro sample mem same
    obtain ⟨drive, isDrive, owner⟩ := referenced sample mem
    exact unused drive isDrive (owner.trans (by simpa using same))
  simp [Database.samplesOf, none]

theorem modifyDrive_referenced {change : Drive → Drive}
    {keeps : ∀ drive, (change drive).driveId = drive.driveId} (held : db.Referenced) :
    (db.modifyDrive driveId change keeps).Referenced := by
  intro sample mem
  obtain ⟨drive, isDrive, owner⟩ := held sample mem
  refine ⟨_, mem_modifyDrive.mpr ⟨drive, isDrive, rfl⟩, ?_⟩
  split
  · rw [keeps, owner]
  · exact owner

theorem finalizeDrive_referenced (finish : Finish) (held : db.Referenced) :
    (db.after (finalizeDrive db driveId finish)).Referenced := by
  cases returns : finalizeDrive db driveId finish with
  | error message => exact held
  | ok result =>
    obtain ⟨drive, _, ⟨_, same, _⟩ | ⟨_, changed, _⟩⟩ := finalizeDrive_cases returns
    · simpa only [Database.after, same] using held
    · simpa only [Database.after, changed] using modifyDrive_referenced held

theorem call_referenced (call : Call) (held : db.Referenced) : (db.call call).Referenced := by
  cases call with
  | startDrive driveId startedAt plan =>
    cases returns : startDrive db driveId startedAt plan with
    | error message => simpa [Database.call, returns, Except.toOption] using held
    | ok next =>
      obtain ⟨_, _, fresh, rfl⟩ := startDrive_cases returns
      simp only [Database.call, returns, Except.toOption, Option.getD_some]
      intro sample mem
      obtain ⟨drive, isDrive, owner⟩ := held sample mem
      exact ⟨drive, Table.mem_insert_of_mem fresh isDrive, owner⟩
  | addSample sample =>
    cases returns : addSample db sample with
    | error message => simpa [Database.call, returns, Database.after] using held
    | ok result =>
      obtain ⟨_, same⟩ | ⟨fresh, drive, found, _, changed⟩ := addSample_cases returns
      · simpa only [Database.call, returns, Database.after, same] using held
      · simp only [Database.call, returns, Database.after, changed]
        refine modifyDrive_referenced fun row mem => ?_
        rcases Table.of_mem_insert fresh mem with mem | rfl
        · exact held row mem
        · exact ⟨drive, (Table.find?_mem found).1, (Table.find?_mem found).2⟩
  | markFinalising driveId reason noticed response =>
    simp only [Database.call, markFinalising]
    split
    · exact modifyDrive_referenced held
    · exact held
  | finalizeDrive driveId finish => exact finalizeDrive_referenced finish held
  | recoverInterrupted reason now clock =>
    simp only [Database.call, recoverInterrupted]
    split
    · exact finalizeEach_invariant (fun _ _ finish => finalizeDrive_referenced finish) now clock _
        held
    · exact held
  | prepareCompletedExports =>
    intro sample mem
    obtain ⟨drive, isDrive, owner⟩ := held sample mem
    refine ⟨_, mem_prepareCompletedExports.mpr ⟨drive, isDrive, rfl⟩, ?_⟩
    rw [quarantined_driveId]
    exact owner
  | recordVerifiedExport driveId sha256 =>
    simp only [Database.call, recordVerifiedExport]
    split
    · exact held
    · split
      · exact modifyDrive_referenced held
      · exact held
  | resetMissingExport driveId sha256 =>
    simp only [Database.call, resetMissingExport]
    split
    · exact modifyDrive_referenced held
    · exact held

theorem call_consistent (call : Call) (recorded : Recorded db call) (referenced : db.Referenced)
    (held : db.Consistent) : (db.call call).Consistent := by
  cases call with
  | startDrive driveId startedAt plan =>
    cases returns : startDrive db driveId startedAt plan with
    | error message => simpa [Database.call, returns, Except.toOption] using held
    | ok next =>
      obtain ⟨_, _, fresh, rfl⟩ := startDrive_cases returns
      simp only [Database.call, returns, Except.toOption, Option.getD_some]
      intro drive mem
      rcases Table.of_mem_insert fresh mem with mem | rfl
      · exact held drive mem
      · have noRows : db.samplesOf driveId = [] :=
          samplesOf_eq_nil (fun other mem => fresh other mem) referenced
        refine ⟨fun terminal => (by cases terminal), ?_, fun h => (by cases h),
          fun h => (by cases h)⟩
        exact (congrArg List.length noRows).symm
  | addSample sample =>
    cases returns : addSample db sample with
    | error message => simpa [Database.call, returns, Database.after] using held
    | ok result =>
      obtain ⟨_, same⟩ | ⟨fresh, drive, found, _, changed⟩ := addSample_cases returns
      · simpa only [Database.call, returns, Database.after, same] using held
      · simp only [Database.call, returns, Database.after, changed]
        intro row isRow
        obtain ⟨before, mem, rfl⟩ := mem_modifyDrive.mp isRow
        have isRecording := recorded fresh drive found
        by_cases isDrive : before.driveId = sample.driveId
        · have same := eq_of_find? found mem isDrive
          rw [if_pos isDrive, Drive.sampled_driveId, isDrive]
          refine sampled_consistent _ _ (same ▸ isRecording)
            (samplesOf_insert_length db sample fresh) ?_
          rw [← isDrive]
          exact held before mem
        · rw [if_neg isDrive]
          have others := samplesOf_insert db sample fresh before.driveId
          rw [if_neg isDrive] at others
          have rows := held before mem
          rw [← others] at rows
          exact rows
  | markFinalising driveId reason noticed response =>
    simp only [Database.call, markFinalising]
    split
    · exact modifyDrive_consistent
        (fun _ _ _ before => finalising_consistent reason noticed response before) held
    · exact held
  | finalizeDrive driveId finish => exact finalizeDrive_consistent finish held
  | recoverInterrupted reason now clock =>
    simp only [Database.call, recoverInterrupted]
    split
    · exact finalizeEach_invariant (fun _ _ finish => finalizeDrive_consistent finish) now clock _
        held
    · exact held
  | prepareCompletedExports =>
    intro drive isRow
    obtain ⟨before, mem, rfl⟩ := mem_prepareCompletedExports.mp isRow
    rw [quarantined_driveId]
    have rows := held before mem
    split
    · rename_i isEmpty
      simp only [Drive.emptyExport, Bool.and_eq_true, decide_eq_true_eq] at isEmpty
      obtain ⟨⟨terminal, _⟩, action⟩ := isEmpty
      refine ⟨rows.ended, rows.counted, fun _ => ⟨terminal, ?_⟩, fun h => (by cases h)⟩
      unfold exportRecoveryAction at action
      split at action
      · cases action
      · split at action
        · assumption
        · cases action
    · exact rows
  | recordVerifiedExport driveId sha256 =>
    simp only [Database.call, recordVerifiedExport]
    split
    · exact held
    · rename_i isHash
      split
      · rename_i exportable
        refine modifyDrive_consistent (fun drive mem same before => ?_) held
        obtain ⟨found, isFound, terminal, more⟩ : ∃ found, db.drives.find? driveId = some found ∧
            found.status.terminal = true ∧ 0 < found.sampleCount := by
          simpa [Option.any_eq_true, Drive.exportable] using exportable
        have isDrive := eq_of_find? isFound mem same
        subst isDrive
        exact ⟨before.ended, before.counted, fun h => (by cases h),
          fun _ => ⟨terminal, more, sha256, rfl, by simpa using isHash⟩⟩
      · exact held
  | resetMissingExport driveId sha256 =>
    simp only [Database.call, resetMissingExport]
    split
    · exact modifyDrive_consistent (fun drive _ _ before =>
        ⟨before.ended, before.counted, fun h => (by cases h), fun h => (by cases h)⟩) held
    · exact held

theorem call_frozen (call : Call) : Frozen db (db.call call) := by
  cases call with
  | startDrive driveId startedAt plan =>
    cases returns : startDrive db driveId startedAt plan with
    | error message => simpa [Database.call, returns, Except.toOption] using Frozen.refl db
    | ok next =>
      obtain ⟨_, _, fresh, rfl⟩ := startDrive_cases returns
      simp only [Database.call, returns, Except.toOption, Option.getD_some]
      exact fun drive mem _ => ⟨drive, Table.mem_insert_of_mem fresh mem, rfl, rfl⟩
  | addSample sample =>
    cases returns : addSample db sample with
    | error message => simpa [Database.call, returns, Database.after] using Frozen.refl db
    | ok result =>
      obtain ⟨_, same⟩ | ⟨fresh, drive, found, _, changed⟩ := addSample_cases returns
      · simpa only [Database.call, returns, Database.after, same] using Frozen.refl db
      · simp only [Database.call, returns, Database.after, changed]
        refine modifyDrive_frozen fun row mem same terminal => ?_
        unfold Drive.sampled
        split
        · rename_i isRecording
          rw [isRecording] at terminal
          cases terminal
        · rfl
  | markFinalising driveId reason noticed response =>
    simp only [Database.call, markFinalising]
    split
    · refine modifyDrive_frozen fun row mem same terminal => ?_
      unfold Drive.finalising
      split
      · rename_i isRecording
        rw [isRecording] at terminal
        cases terminal
      · rfl
    · exact .refl db
  | finalizeDrive driveId finish => exact finalizeDrive_frozen finish
  | recoverInterrupted reason now clock =>
    simp only [Database.call, recoverInterrupted]
    split
    · exact @finalizeEach_invariant db (Frozen db)
        (fun _ _ finish before => before.trans (finalizeDrive_frozen finish)) now clock _
        (.refl db)
    · exact .refl db
  | prepareCompletedExports =>
    intro drive mem terminal
    refine ⟨_, mem_prepareCompletedExports.mpr ⟨drive, mem, rfl⟩, quarantined_driveId drive, ?_⟩
    split <;> rfl
  | recordVerifiedExport driveId sha256 =>
    simp only [Database.call, recordVerifiedExport]
    split
    · exact .refl db
    · split
      · exact modifyDrive_frozen fun _ _ _ _ => rfl
      · exact .refl db
  | resetMissingExport driveId sha256 =>
    simp only [Database.call, resetMissingExport]
    split
    · exact modifyDrive_frozen fun _ _ _ _ => rfl
    · exact .refl db

end Calls

section Runs

def Database.run (calls : List Call) : Database :=
  calls.foldl Database.call .empty

theorem run_append (earlier : List Call) (call : Call) :
    Database.run (earlier ++ [call]) = (Database.run earlier).call call := by
  simp [Database.run]

/-- What a reader of the database finds: a terminal drive has ended in order, the counter is the
number of rows, no drive with rows is quarantined, and what is exported is a terminal drive with
rows and the hash of its bundle. -/
def Database.Sound (db : Database) : Prop :=
  ∀ drive ∈ db.drives,
    (drive.status.terminal = true → drive.Ended) ∧
    drive.sampleCount = (db.samplesOf drive.driveId).length ∧
    (drive.exportStatus = .notExportableZeroSamples → db.samplesOf drive.driveId = []) ∧
    (drive.exportStatus = .exported → drive.status.terminal = true ∧
      db.samplesOf drive.driveId ≠ [] ∧
      ∃ sha256, drive.bundleSha256 = some sha256 ∧ sha256Pattern sha256)

-- `finalizeDrive` of a terminal drive answers with what is stored, and changes nothing.
def Database.AnswersAsStored (db : Database) : Prop :=
  ∀ drive ∈ db.drives, drive.status.terminal = true → ∀ finish,
    ∃ result, finalizeDrive db drive.driveId finish = .ok (db, result) ∧
      drive.finalization? false = some result

def Lifecycle (calls : List Call) : Prop :=
  ∀ earlier later, earlier ++ later <+: calls →
    (Database.run (earlier ++ later)).Sound ∧
    Frozen (Database.run earlier) (Database.run (earlier ++ later)) ∧
    (Database.run (earlier ++ later)).AnswersAsStored

def SamplesRecorded (calls : List Call) : Prop :=
  ∀ earlier call, earlier ++ [call] <+: calls → Recorded (Database.run earlier) call

theorem sound_of_consistent {db : Database} (held : db.Consistent) : db.Sound := by
  intro drive mem
  have row := held drive mem
  refine ⟨row.ended, row.counted, fun isQuarantined => ?_, fun isExported => ?_⟩
  · have none := (row.quarantined isQuarantined).2
    rw [row.counted] at none
    exact List.length_eq_zero_iff.mp none
  · obtain ⟨terminal, more, hash⟩ := row.exported isExported
    rw [row.counted] at more
    exact ⟨terminal, List.length_pos_iff.mp more, hash⟩

theorem answersAsStored_of_ended {db : Database}
    (ended : ∀ drive ∈ db.drives, drive.status.terminal = true → drive.Ended) :
    db.AnswersAsStored := by
  intro drive mem terminal finish
  obtain ⟨finished, noticed, finalised, reason, isFinished, isNoticed, isFinalised, isReason, _⟩ :=
    ended drive mem terminal
  have found := Table.find?_self mem
  simp [finalizeDrive, found, terminal, Drive.finalization?, isFinished, isNoticed, isFinalised,
    isReason]

theorem run_frozen (earlier later : List Call) :
    Frozen (Database.run earlier) (Database.run (earlier ++ later)) := by
  induction later using List.reverseRecOn with
  | nil => simpa using Frozen.refl _
  | append_singleton later call ih =>
    rw [← List.append_assoc, run_append]
    exact ih.trans (call_frozen call)

theorem run_consistent {calls : List Call} (recorded : SamplesRecorded calls) :
    (Database.run calls).Consistent ∧ (Database.run calls).Referenced := by
  induction calls using List.reverseRecOn with
  | nil =>
    refine ⟨fun drive mem => ?_, fun sample mem => ?_⟩
    · exact absurd mem (Table.not_mem_empty drive)
    · exact absurd mem (Table.not_mem_empty sample)
  | append_singleton calls call ih =>
    obtain ⟨consistent, referenced⟩ := ih fun earlier call isPrefix =>
      recorded earlier call (isPrefix.trans (List.prefix_append _ _))
    rw [run_append]
    exact ⟨call_consistent call (recorded calls call (List.prefix_refl _)) referenced consistent,
      call_referenced call referenced⟩

theorem not_sound_of_unrecorded {db : Database} {call : Call} (sound : db.Sound)
    (unrecorded : ¬Recorded db call) : ¬(db.call call).Sound := by
  intro after
  cases call with
  | addSample sample =>
    unfold Recorded at unrecorded
    push Not at unrecorded
    obtain ⟨fresh, drive, found, notRecording⟩ := unrecorded
    obtain ⟨mem, same⟩ := Table.find?_mem found
    have same' : drive.sampled sample.transportQuality
        (({ db with samples := db.samples.insert sample fresh } : Database).lastTimestamp
          sample.driveId) = drive := by
      unfold Drive.sampled
      rw [if_neg notRecording]
    have returns : db.call (.addSample sample) =
        ({ db with samples := db.samples.insert sample fresh } : Database).modifyDrive
          sample.driveId
          (·.sampled sample.transportQuality
            (({ db with samples := db.samples.insert sample fresh } : Database).lastTimestamp
              sample.driveId))
          (fun drive => drive.sampled_driveId _ _) := by
      simp only [Database.call, addSample, found]
      rw [dif_pos fresh]
      rfl
    have stays : drive ∈ (db.call (.addSample sample)).drives := by
      rw [returns]
      exact mem_modifyDrive.mpr ⟨drive, mem, by rw [if_pos same, same']⟩
    have counted := (after drive stays).2.1
    have rows : (db.call (.addSample sample)).samplesOf drive.driveId =
        ({ db with samples := db.samples.insert sample fresh } : Database).samplesOf
          sample.driveId := by
      rw [returns, same]
      rfl
    rw [rows, samplesOf_insert_length, (sound drive mem).2.1, same] at counted
    exact absurd counted (Nat.ne_of_lt (Nat.lt_succ_self _))
  | _ => exact unrecorded trivial

/-- The lifecycle holds in every state of a run exactly where each stored sample finds its drive
recording. -/
theorem lifecycle_iff (calls : List Call) : Lifecycle calls ↔ SamplesRecorded calls := by
  constructor
  · intro lifecycle earlier call isPrefix
    by_contra unrecorded
    have before := (lifecycle [] earlier ((List.prefix_append _ _).trans isPrefix)).1
    have after := (lifecycle [] (earlier ++ [call]) isPrefix).1
    rw [List.nil_append] at before after
    rw [run_append] at after
    exact not_sound_of_unrecorded before unrecorded after
  · intro recorded earlier later isPrefix
    obtain ⟨consistent, _⟩ := run_consistent
      fun first call inside => recorded first call (List.IsPrefix.trans inside isPrefix)
    refine ⟨sound_of_consistent consistent, run_frozen earlier later, ?_⟩
    exact answersAsStored_of_ended fun drive mem => (consistent drive mem).ended

private def lateSample : List Call :=
  [.startDrive "d" 0 5, .markFinalising "d" "engine_stopped" 10 none,
    .addSample { driveId := "d", sequence := 1, timestamp := 10 },
    .finalizeDrive "d" { stopReason := "engine_stopped", noticed := 10, finalised := 11 },
    .prepareCompletedExports]

/-- The drive has a row, and is quarantined for having none. -/
theorem not_lifecycle_lateSample : ¬Lifecycle lateSample := by
  intro lifecycle
  have sound := (lifecycle [] lateSample (List.prefix_refl _)).1
  rw [List.nil_append] at sound
  have row : ∃ drive ∈ (Database.run lateSample).drives.rows,
      drive.exportStatus = .notExportableZeroSamples ∧
        (Database.run lateSample).samplesOf drive.driveId ≠ [] := by
    decide +kernel
  obtain ⟨drive, mem, isQuarantined, rows⟩ := row
  exact rows ((sound drive mem).2.2.1 isQuarantined)

end Runs

end DashcamStats.Drives
