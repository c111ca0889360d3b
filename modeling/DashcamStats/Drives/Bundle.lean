import DashcamStats.Drives.Database

namespace DashcamStats.Drives

/-- The lifecycle of the manifest; the fields after `cleanEnd` are those of the hardened shape. -/
structure Manifest where
  driveId : String
  startTime : Instant
  finishTime : Instant
  sampleCount : ℕ
  createdAt : Instant
  completionStatus : DriveStatus
  cleanEnd : Bool
  pollPlanVersion : Option ℤ
  lastSampleAt : Option Instant
  lastSuccessfulObdResponseAt : Option Instant
  terminationNoticedAt : Option Instant
  finalisedAt : Option Instant
  interruptionReason : Option String
deriving DecidableEq, Repr

structure Summary where
  driveId : String
  startTime : Instant
  finishTime : Instant
  sampleCount : ℕ
  cleanEnd : Bool
  lastSampleAt : Option Instant
  terminationNoticedAt : Option Instant
  finalisedAt : Option Instant
  completionStatus : DriveStatus
  interruptionReason : Option String
deriving DecidableEq, Repr

structure Bundle where
  manifest : Manifest
  summary : Summary
  samples : List Sample
deriving DecidableEq, Repr

section Check

-- `check` and `require`, and a test that raises on the server
def check (condition : Prop) [Decidable condition] (message : String) : Except String Unit :=
  if condition then .ok () else .error message

def checkFailed : String := "Check failed."

@[simp] theorem check_eq_ok (condition : Prop) [Decidable condition] (message : String) :
    check condition message = .ok () ↔ condition := by
  unfold check
  split <;> simp_all

@[simp] theorem check_bind_eq_ok {α : Type} (condition : Prop) [Decidable condition]
    (message : String) (next : Unit → Except String α) (value : α) :
    (check condition message >>= next) = .ok value ↔ condition ∧ next () = .ok value := by
  unfold check
  split
  · rename_i holds
    simp [holds, bind, Except.bind]
  · rename_i fails
    simp [fails, bind, Except.bind]

theorem bind_unit_eq_ok {α : Type} (first : Except String Unit) (next : Unit → Except String α)
    (value : α) : (first >>= next) = .ok value ↔ first = .ok () ∧ next () = .ok value := by
  cases first with
  | error message => simp [bind, Except.bind]
  | ok done => simp [bind, Except.bind]

end Check

section Export

-- `^[A-Za-z0-9][A-Za-z0-9_-]{0,63}$`
def isSafeDriveId (value : String) : Bool :=
  let alphanumeric (c : Char) : Bool := c.isAlpha || c.isDigit
  match value.toList with
  | [] => false
  | first :: rest =>
    alphanumeric first && decide (rest.length ≤ 63) &&
      rest.all fun c => alphanumeric c || c = '_' || c = '-'

def completionStatus (stopReason : Option String) (persisted : DriveStatus) : DriveStatus :=
  if persisted = .failed then .interrupted
  else if persisted.terminal then persisted
  else match stopReason with
    | none => .complete
    | some reason => (driveTerminalPolicy reason).status

-- `isNullOrBlank`, for the white space of `Char.isWhitespace`
def isNullOrBlank (whitespace : Char → Bool) (text : Option String) : Bool :=
  text.all fun text => text.toList.all whitespace

def exportCreatedAt (drive : Drive) (finishTime now : Instant) : Instant :=
  ([some finishTime, drive.lastSampleAt, drive.lastSuccessfulResponseAt,
    drive.terminationNoticedAt, drive.finalisedAt].filterMap id).foldl max
      (max now drive.startTime)

def manifestOf (drive : Drive) (finishTime : Instant) (rows : List Sample) (now : Instant) :
    Manifest where
  driveId := drive.driveId
  startTime := drive.startTime
  finishTime := finishTime
  sampleCount := rows.length
  createdAt := exportCreatedAt drive finishTime now
  completionStatus := completionStatus drive.stopReason drive.status
  cleanEnd := drive.cleanEnd
  pollPlanVersion := drive.pollPlanVersion
  lastSampleAt := drive.lastSampleAt
  lastSuccessfulObdResponseAt := drive.lastSuccessfulResponseAt
  terminationNoticedAt := drive.terminationNoticedAt
  finalisedAt := drive.finalisedAt
  interruptionReason := drive.interruptionReason

def summaryOf (drive : Drive) (finishTime : Instant) (rows : List Sample) : Summary where
  driveId := drive.driveId
  startTime := drive.startTime
  finishTime := finishTime
  sampleCount := rows.length
  cleanEnd := drive.cleanEnd
  lastSampleAt := drive.lastSampleAt
  terminationNoticedAt := drive.terminationNoticedAt
  finalisedAt := drive.finalisedAt
  completionStatus := completionStatus drive.stopReason drive.status
  interruptionReason := drive.interruptionReason

def validateLifecycleShape (whitespace : Char → Bool) (manifest : Manifest) (summary : Summary) :
    Except String Unit := do
  let start := manifest.startTime
  let finish := manifest.finishTime
  check (start ≤ finish) "manifest drive time range is reversed"
  match manifest.pollPlanVersion with
  | none => return ()
  | some pollPlan =>
    check (2 ≤ pollPlan ∧ pollPlan ≤ pollTrialPlanVersion)
      "manifest poll plan must be a supported integer version"
    check (manifest.lastSampleAt.all fun at_ => start ≤ at_ ∧ at_ ≤ finish) checkFailed
    let responseUpper :=
      (manifest.terminationNoticedAt.or manifest.finalisedAt).getD manifest.createdAt
    check (manifest.lastSuccessfulObdResponseAt.all fun at_ => start ≤ at_ ∧ at_ ≤ responseUpper)
      checkFailed
    check (manifest.terminationNoticedAt.all fun noticed => finish ≤ noticed) checkFailed
    check (manifest.finalisedAt.all fun finalised =>
      manifest.terminationNoticedAt.all fun noticed => noticed ≤ finalised) checkFailed
    check (manifest.finalisedAt.all fun finalised => finalised ≤ manifest.createdAt) checkFailed
    check (manifest.completionStatus ∈ [DriveStatus.complete, .interrupted, .recovered])
      checkFailed
    if manifest.cleanEnd then
      check (manifest.completionStatus = .complete ∧ manifest.interruptionReason = none)
        checkFailed
    else
      check (manifest.completionStatus ≠ .complete ∧
        isNullOrBlank whitespace manifest.interruptionReason = false) checkFailed
    check (summary.lastSampleAt = manifest.lastSampleAt)
      "summary last_sample_at_utc does not match manifest"
    check (summary.terminationNoticedAt = manifest.terminationNoticedAt)
      "summary termination_noticed_at_utc does not match manifest"
    check (summary.finalisedAt = manifest.finalisedAt)
      "summary finalised_at_utc does not match manifest"
    check (summary.completionStatus = manifest.completionStatus)
      "summary completion_status does not match manifest"
    check (summary.interruptionReason = manifest.interruptionReason)
      "summary interruption_reason does not match manifest"

-- `validate`, of the members that `export` has just written
def validate (whitespace : Char → Bool) (bundle : Bundle) (expectedDriveId : String) :
    Except String Unit := do
  let manifest := bundle.manifest
  let summary := bundle.summary
  check (manifest.driveId = expectedDriveId) checkFailed
  check (summary.driveId = expectedDriveId) checkFailed
  check (summary.startTime = manifest.startTime) checkFailed
  check (summary.finishTime = manifest.finishTime) checkFailed
  check (summary.sampleCount = manifest.sampleCount) checkFailed
  check (summary.cleanEnd = manifest.cleanEnd) checkFailed
  validateLifecycleShape whitespace manifest summary

-- `export`, where no archive of the drive is there and every file is written
def exportDrive (whitespace : Char → Bool) (db : Database) (driveId : String) (now : Instant) :
    Except String Bundle := do
  check (isSafeDriveId driveId) "drive ID does not match the v1 filename contract"
  match db.drives.find? driveId with
  | none => throw "drive not found"
  | some drive =>
    check drive.status.terminal "only terminal drives can be exported"
    check (0 < drive.sampleCount) "zero-sample drives are retained locally and cannot be exported"
    let rows := db.samplesOf driveId
    check (drive.pollPlanVersion = some pollTrialPlanVersion → ∀ row ∈ rows, row.timed = true)
      "trial sample has no valid response timing object"
    match drive.finishTime with
    | none => throw "No value for finish_time_utc"
    | some finish =>
      let bundle := ⟨manifestOf drive finish rows now, summaryOf drive finish rows, rows⟩
      validate whitespace bundle driveId
      return bundle

end Export

section Server

def utc (instant : Instant) : ℤ :=
  instant / 1000

def maxDriveSpan : ℤ := 31 * 24 * 60 * 60 * 1000000

-- The rules of time and order of `_validate_manifest`
def validateManifest (manifest : Manifest) : Except String Unit := do
  let started := utc manifest.startTime
  let finished := utc manifest.finishTime
  check (¬(finished < started ∨ maxDriveSpan < finished - started))
    "manifest drive time range is reversed or exceeds 31 days"
  if manifest.pollPlanVersion = none then
    return ()
  check (manifest.lastSampleAt.all fun at_ => started ≤ utc at_ ∧ utc at_ ≤ finished)
    "manifest.last_sample_at_utc lies outside the drive window"
  let responseUpper :=
    (manifest.terminationNoticedAt.or manifest.finalisedAt).getD manifest.createdAt
  check (manifest.lastSuccessfulObdResponseAt.all fun at_ =>
      started ≤ utc at_ ∧ utc at_ ≤ utc responseUpper)
    "manifest.last_successful_obd_response_at_utc lies outside the observed session"
  check (manifest.terminationNoticedAt.all fun noticed => finished ≤ utc noticed)
    "manifest.termination_noticed_at_utc precedes the effective end"
  check (manifest.finalisedAt.all fun finalised =>
      manifest.terminationNoticedAt.all fun noticed => utc noticed ≤ utc finalised)
    "manifest.finalised_at_utc precedes termination observation"

-- The rules of time and order of `_validate_sample`, from one row to the next
def validateSamples (manifest : Manifest) : Option (ℤ × ℤ) → List Sample → Except String Unit
  | _, [] => return ()
  | previous, row :: rows => do
    let captured := utc row.timestamp
    check (utc manifest.startTime ≤ captured ∧ captured ≤ utc manifest.finishTime)
      "sample timestamp lies outside the manifest drive window"
    check (previous.all fun before => before.1 < row.sequence)
      "sample sequence numbers must be strictly increasing"
    check (previous.all fun before => before.2 ≤ captured)
      "samples must be ordered by their original UTC timestamp"
    validateSamples manifest (some (row.sequence, captured)) rows

def serverValidates (bundle : Bundle) : Except String Unit := do
  validateManifest bundle.manifest
  validateSamples bundle.manifest none bundle.samples

end Server

end DashcamStats.Drives
