import DashcamStats.Library.Table

namespace DashcamStats.Drives

/-- Nanoseconds. -/
abbrev Instant := ℤ

inductive DriveStatus where
  | recording | finalising | complete | interrupted | recovered | failed
deriving DecidableEq, Repr

-- `TERMINAL_DRIVE_STATUSES`
def DriveStatus.terminal : DriveStatus → Bool
  | .complete | .interrupted | .recovered | .failed => true
  | .recording | .finalising => false

inductive ExportStatus where
  | waitingForBackup | exported | notExportableZeroSamples
deriving DecidableEq, Repr

structure Drive where
  driveId : String
  pollPlanVersion : Option ℤ
  startTime : Instant
  finishTime : Option Instant := none
  stopReason : Option String := none
  status : DriveStatus := .recording
  exportStatus : ExportStatus := .waitingForBackup
  bundleSha256 : Option String := none
  sampleCount : ℕ := 0
  cleanEnd : Bool := false
  lastSampleAt : Option Instant := none
  lastSuccessfulResponseAt : Option Instant := none
  terminationNoticedAt : Option Instant := none
  finalisedAt : Option Instant := none
  interruptionReason : Option String := none
deriving DecidableEq, Repr

structure Sample where
  driveId : String
  sequence : ℤ
  timestamp : Instant
  transportQuality : String := "ok"
  -- The row has the response ages of its PIDs.
  timed : Bool := false
deriving DecidableEq, Repr

def Sample.sampleId (sample : Sample) : String :=
  sample.driveId ++ "-" ++ toString sample.sequence

structure Database where
  drives : Table Drive Drive.driveId
  samples : Table Sample Sample.sampleId

def Database.empty : Database := ⟨.empty, .empty⟩

-- The rows of a drive, `ORDER BY sequence`
def Database.samplesOf (db : Database) (driveId : String) : List Sample :=
  (db.samples.rows.filter fun sample => sample.driveId = driveId).mergeSort
    fun a b => a.sequence ≤ b.sequence

-- `ORDER BY sequence DESC LIMIT 1`
def Database.lastTimestamp (db : Database) (driveId : String) : Option Instant :=
  (db.samplesOf driveId).getLast?.map (·.timestamp)

def Database.modifyDrive (db : Database) (driveId : String) (change : Drive → Drive)
    (keeps : ∀ drive, (change drive).driveId = drive.driveId) : Database :=
  { db with drives := db.drives.update (fun drive => drive.driveId = driveId) change keeps }

section Policy

structure DriveTerminalPolicy where
  status : DriveStatus
  cleanEnd : Bool
  useLastValidSampleAsEnd : Bool
deriving DecidableEq, Repr

def driveTerminalPolicy (stopReason : String) : DriveTerminalPolicy :=
  if stopReason = "engine_stopped" then ⟨.complete, true, false⟩
  else if stopReason = "device_restart" then ⟨.recovered, false, true⟩
  else ⟨.interrupted, false, true⟩

theorem driveTerminalPolicy_terminal (stopReason : String) :
    (driveTerminalPolicy stopReason).status.terminal = true := by
  unfold driveTerminalPolicy
  split
  · rfl
  · split <;> rfl

end Policy

section Recording

def pollTrialPlanVersion : ℤ := 8

def startDrive (db : Database) (driveId : String) (startedAt : Instant) (pollPlanVersion : ℤ) :
    Except String Database :=
  if ¬(2 ≤ pollPlanVersion ∧ pollPlanVersion ≤ pollTrialPlanVersion) then
    .error "unsupported recording poll plan"
  else
    let drive : Drive :=
      { driveId := driveId, pollPlanVersion := some pollPlanVersion, startTime := startedAt }
    if fresh : ∀ other ∈ db.drives.rows, other.driveId ≠ drive.driveId then
      .ok { db with drives := db.drives.insert drive fresh }
    else .error "UNIQUE constraint failed: drives.drive_id"

-- The drive's row after the insert of a sample, of which `last` is the last timestamp.
def Drive.sampled (drive : Drive) (transportQuality : String) (last : Option Instant) : Drive :=
  if drive.status = .recording then
    { drive with
      sampleCount := drive.sampleCount + 1
      lastSampleAt := last
      lastSuccessfulResponseAt :=
        if transportQuality = "failed_after_partial" then drive.lastSuccessfulResponseAt
        else last }
  else drive

theorem Drive.sampled_driveId (drive : Drive) (transportQuality : String)
    (last : Option Instant) : (drive.sampled transportQuality last).driveId = drive.driveId := by
  unfold Drive.sampled
  split <;> rfl

-- Whether the sample was new. `UNIQUE(drive_id, sequence)` is part of its key.
def addSample (db : Database) (sample : Sample) : Except String (Database × Bool) :=
  if fresh : ∀ other ∈ db.samples.rows, other.sampleId ≠ sample.sampleId then
    match db.drives.find? sample.driveId with
    | none => .error "FOREIGN KEY constraint failed"
    | some _ =>
      let db := { db with samples := db.samples.insert sample fresh }
      let last := db.lastTimestamp sample.driveId
      .ok (db.modifyDrive sample.driveId (·.sampled sample.transportQuality last)
        fun drive => drive.sampled_driveId _ _, true)
  else .ok (db, false)

def Drive.finalising (drive : Drive) (stopReason : String) (noticed : Instant)
    (lastResponse : Option Instant) : Drive :=
  if drive.status = .recording then
    { drive with
      status := .finalising
      stopReason := some stopReason
      terminationNoticedAt := some noticed
      lastSuccessfulResponseAt := lastResponse.or drive.lastSuccessfulResponseAt
      interruptionReason :=
        if (driveTerminalPolicy stopReason).status ≠ .complete then some stopReason
        else drive.interruptionReason }
  else drive

theorem Drive.finalising_driveId (drive : Drive) (stopReason : String) (noticed : Instant)
    (lastResponse : Option Instant) :
    (drive.finalising stopReason noticed lastResponse).driveId = drive.driveId := by
  unfold Drive.finalising
  split <;> rfl

def markFinalising (db : Database) (driveId stopReason : String) (noticed : Instant)
    (lastResponse : Option Instant) : Except String (Database × Bool) :=
  if lastResponse.all (· ≤ noticed) then
    .ok (db.modifyDrive driveId (·.finalising stopReason noticed lastResponse)
        (fun drive => drive.finalising_driveId _ _ _),
      (db.drives.find? driveId).any (·.status = .recording))
  else .error "last successful response follows termination notice"

end Recording

section Finalisation

structure DriveFinalization where
  driveId : String
  status : DriveStatus
  finishTime : Instant
  lastSampleAt : Option Instant
  lastSuccessfulResponseAt : Option Instant
  terminationNoticedAt : Instant
  finalisedAt : Instant
  stopReason : String
  sampleCount : ℕ
  changed : Bool
deriving DecidableEq, Repr

/-- What the caller of `finalizeDrive` passes; `finalised` is its `finalisedAtUtc`, or the clock. -/
structure Finish where
  stopReason : String
  noticed : Instant
  requestedFinish : Option Instant := none
  lastSuccessfulResponse : Option Instant := none
  finalised : Instant
deriving DecidableEq, Repr

def lastResponseFallback (rows : List Sample) : Option Instant :=
  (rows.reverse.find? fun row => row.transportQuality ≠ "failed_after_partial").map (·.timestamp)

def Drive.effectiveReason (drive : Drive) (stopReason : String) : String :=
  if drive.status = .finalising then drive.stopReason.getD stopReason else stopReason

def Drive.finalized (drive : Drive) (rows : List Sample) (finish : Finish) : Drive :=
  let lastSample := (rows.getLast?.map (·.timestamp)).or drive.lastSampleAt
  let start := drive.startTime
  let effectiveReason := drive.effectiveReason finish.stopReason
  let effectivePolicy := driveTerminalPolicy effectiveReason
  let rawFinish :=
    if effectivePolicy.useLastValidSampleAsEnd then lastSample.getD start
    else finish.requestedFinish.getD finish.noticed
  let finishTime := max start rawFinish
  let effectiveLastResponse :=
    ([finish.lastSuccessfulResponse, drive.lastSuccessfulResponseAt,
      lastResponseFallback rows].filterMap id).find? fun at_ => start ≤ at_
  let noticedOrGiven := drive.terminationNoticedAt.getD finish.noticed
  let effectiveNoticed :=
    max (max (max start finishTime) noticedOrGiven) (effectiveLastResponse.getD start)
  { drive with
    finishTime := some finishTime
    lastSampleAt := lastSample
    lastSuccessfulResponseAt := effectiveLastResponse
    terminationNoticedAt := some effectiveNoticed
    finalisedAt := some (max finish.finalised effectiveNoticed)
    stopReason := some effectiveReason
    status := effectivePolicy.status
    cleanEnd := effectivePolicy.cleanEnd
    interruptionReason :=
      if effectivePolicy.status = .complete then none else some effectiveReason }

theorem Drive.finalized_driveId (drive : Drive) (rows : List Sample) (finish : Finish) :
    (drive.finalized rows finish).driveId = drive.driveId := rfl

def Drive.finalization? (drive : Drive) (changed : Bool) : Option DriveFinalization :=
  match drive.finishTime, drive.terminationNoticedAt, drive.finalisedAt, drive.stopReason with
  | some finish, some noticed, some finalised, some reason =>
    some ⟨drive.driveId, drive.status, finish, drive.lastSampleAt, drive.lastSuccessfulResponseAt,
      noticed, finalised, reason, drive.sampleCount, changed⟩
  | _, _, _, _ => none

def finalizeDrive (db : Database) (driveId : String) (finish : Finish) :
    Except String (Database × DriveFinalization) :=
  match db.drives.find? driveId with
  | none => .error "drive not found"
  | some existing =>
    if existing.status.terminal then
      match existing.finalization? false with
      | some result => .ok (db, result)
      | none => .error "Required value was null."
    else
      let rows := db.samplesOf driveId
      match (existing.finalized rows finish).finalization? true with
      | some result =>
        .ok (db.modifyDrive driveId (·.finalized rows finish)
          (fun drive => drive.finalized_driveId rows finish), result)
      | none => .error "drive finalisation lost its lifecycle race"

def pendingDrives (db : Database) (recordingReason : String) : List (String × String) :=
  ((db.drives.rows.filter fun drive => !drive.status.terminal).mergeSort fun a b =>
      a.startTime < b.startTime ∨ a.startTime = b.startTime ∧ a.driveId ≤ b.driveId).map
    fun drive => (drive.driveId, drive.stopReason.getD recordingReason)

def finalizeEach (now : Instant) (clock : String → Instant) :
    Database → List (String × String) → Database × Except String (List DriveFinalization)
  | db, [] => (db, .ok [])
  | db, (driveId, reason) :: pending =>
    match finalizeDrive db driveId
        { stopReason := reason, noticed := now, finalised := clock driveId } with
    | .error message => (db, .error message)
    | .ok (next, result) =>
      let (last, results) := finalizeEach now clock next pending
      (last, results.map (result :: ·))

-- `clock` is what the clock shows when each drive is finalised.
def recoverInterrupted (db : Database) (recordingReason : String) (now : Instant)
    (clock : String → Instant) : Database × Except String (List DriveFinalization) :=
  if recordingReason = "device_restart" ∨
      (driveTerminalPolicy recordingReason).status = .interrupted then
    finalizeEach now clock db (pendingDrives db recordingReason)
  else (db, .error "Failed requirement.")

end Finalisation

section Export

inductive ExportRecoveryAction where
  | export | quarantineZeroSamples | skip
deriving DecidableEq, Repr

-- `ExportRecoveryPlanner.action`
def exportRecoveryAction (sampleCount : ℕ) (exportStatus : ExportStatus) : ExportRecoveryAction :=
  if exportStatus ≠ .waitingForBackup then .skip
  else if sampleCount = 0 then .quarantineZeroSamples
  else .export

def completedDriveIds (db : Database) : List String :=
  ((db.drives.rows.filter fun drive => drive.status.terminal &&
      drive.exportStatus = .waitingForBackup && decide (0 < drive.sampleCount)).mergeSort
    fun a b => a.startTime < b.startTime ∨ a.startTime = b.startTime ∧ a.driveId ≤ b.driveId).map
    (·.driveId)

def Drive.emptyExport (drive : Drive) : Bool :=
  drive.status.terminal && drive.exportStatus ≠ .exported &&
    exportRecoveryAction drive.sampleCount drive.exportStatus = .quarantineZeroSamples

def Drive.quarantined (drive : Drive) : Drive :=
  { drive with exportStatus := .notExportableZeroSamples }

def prepareCompletedExports (db : Database) : Database × List String :=
  let db := { db with
    drives := db.drives.update Drive.emptyExport Drive.quarantined fun _ => rfl }
  (db, completedDriveIds db)

-- `^[0-9a-f]{64}$`
def sha256Pattern (text : String) : Bool :=
  text.length = 64 && text.toList.all fun c => c ∈ "0123456789abcdef".toList

def Drive.exportable (drive : Drive) : Bool :=
  drive.status.terminal && decide (0 < drive.sampleCount)

def recordVerifiedExport (db : Database) (driveId bundleSha256 : String) :
    Except String Database :=
  if !sha256Pattern bundleSha256 then .error "bundle SHA-256 is invalid"
  else if (db.drives.find? driveId).any Drive.exportable then
    .ok (db.modifyDrive driveId
      (fun drive => { drive with exportStatus := .exported, bundleSha256 := some bundleSha256 })
      fun _ => rfl)
  else .error "only a completed non-empty drive can be marked exported"

def Drive.exportedAs (drive : Drive) (bundleSha256 : String) : Bool :=
  drive.status.terminal && drive.exportStatus = .exported &&
    drive.bundleSha256 = some bundleSha256

def resetMissingExport (db : Database) (driveId bundleSha256 : String) : Database × Bool :=
  if (db.drives.find? driveId).any (·.exportedAs bundleSha256) then
    (db.modifyDrive driveId
      (fun drive => { drive with exportStatus := .waitingForBackup, bundleSha256 := none })
      (fun _ => rfl), true)
  else (db, false)

end Export

section Calls

inductive Call where
  | startDrive (driveId : String) (startedAt : Instant) (pollPlanVersion : ℤ)
  | addSample (sample : Sample)
  | markFinalising (driveId stopReason : String) (noticed : Instant)
      (lastResponse : Option Instant)
  | finalizeDrive (driveId : String) (finish : Finish)
  | recoverInterrupted (recordingReason : String) (now : Instant) (clock : String → Instant)
  | prepareCompletedExports
  | recordVerifiedExport (driveId bundleSha256 : String)
  | resetMissingExport (driveId bundleSha256 : String)

def Database.after {α : Type} (db : Database) : Except String (Database × α) → Database
  | .ok (next, _) => next
  | .error _ => db

def Database.call (db : Database) : Call → Database
  | .startDrive driveId startedAt plan =>
    (startDrive db driveId startedAt plan).toOption.getD db
  | .addSample sample => db.after (addSample db sample)
  | .markFinalising driveId reason noticed response =>
    db.after (markFinalising db driveId reason noticed response)
  | .finalizeDrive driveId finish => db.after (finalizeDrive db driveId finish)
  | .recoverInterrupted reason now clock => (recoverInterrupted db reason now clock).1
  | .prepareCompletedExports => (prepareCompletedExports db).1
  | .recordVerifiedExport driveId sha256 =>
    (recordVerifiedExport db driveId sha256).toOption.getD db
  | .resetMissingExport driveId sha256 => (resetMissingExport db driveId sha256).1

end Calls

end DashcamStats.Drives
