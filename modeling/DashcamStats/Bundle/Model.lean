import Mathlib.Data.Rat.Defs
import DashcamStats.Library.Table

namespace DashcamStats.Bundle

abbrev Time := Int

abbrev Digest := String

def schemaVersion : Nat := 1

def bundleSuffix : String := ".obd2.zip"

def partialSuffix : String := ".partial"

def isAsciiAlnum (c : Char) : Bool :=
  ('A' ≤ c && c ≤ 'Z') || ('a' ≤ c && c ≤ 'z') || ('0' ≤ c && c ≤ '9')

def safeDriveId : List Char → Bool
  | [] => false
  | c :: cs =>
    isAsciiAlnum c && cs.length ≤ 63 && cs.all fun c => isAsciiAlnum c || c = '_' || c = '-'

-- `name[: -len(BUNDLE_SUFFIX)]`
def stem (name : String) : List Char :=
  name.toList.take (name.toList.length - bundleSuffix.toList.length)

def endsWith (name suffix : String) : Bool := suffix.toList.isSuffixOf name.toList

-- `".." in name`
def hasDots : List Char → Bool
  | '.' :: '.' :: _ => true
  | _ :: cs => hasDots cs
  | [] => false

def isBundleName (name : String) : Bool :=
  endsWith name bundleSuffix && !endsWith name (bundleSuffix ++ partialSuffix) &&
    safeDriveId (stem name) && !hasDots name.toList

-- `drive_id_from_name`; `none` where it raises.
def driveIdFromName (name : String) : Option String :=
  if isBundleName name then some (String.ofList (stem name)) else none

theorem driveIdFromName_eq {name driveId : String} (named : driveIdFromName name = some driveId) :
    name = driveId ++ bundleSuffix := by
  unfold driveIdFromName at named
  split at named
  next safe =>
    simp only [isBundleName, Bool.and_eq_true, endsWith] at safe
    obtain ⟨front, split⟩ := List.isSuffixOf_iff_suffix.mp safe.1.1.1
    have taken : stem name = front := by simp [stem, ← split]
    cases named
    rw [taken, ← String.toList_inj]
    simp [← split]
  next _ => cases named

-- `SHA256_RE`
def isSha256 (digest : String) : Bool :=
  digest.toList.length = 64 &&
    digest.toList.all fun c => ('0' ≤ c && c ≤ '9') || ('a' ≤ c && c ≤ 'f')

inductive CompletionStatus where
  | complete
  | interrupted
  | recovered
  deriving DecidableEq

structure Manifest where
  schemaVersion : Nat
  driveId : String
  vehicleId : String
  adapterId : Option String
  loggerId : String
  loggerVersion : String
  startTimeUtc : Time
  finishTimeUtc : Time
  originalTimezone : Option String
  startReason : String
  stopReason : Option String
  obdProtocol : Option String
  completionStatus : CompletionStatus
  cleanEnd : Bool
  sampleCount : Nat
  diagnosticCount : Nat
  errorCount : Nat
  pollPlanVersion : Option Nat
  deriving DecidableEq

inductive EcuDataStatus where
  | live
  | lastKnown
  deriving DecidableEq

/-- `SAMPLE_TELEMETRY_FIELDS` -/
structure Telemetry where
  engineRpm : Option ℚ := none
  vehicleSpeed : Option ℚ := none
  coolantTemperature : Option ℚ := none
  intakeAirTemperature : Option ℚ := none
  engineLoad : Option ℚ := none
  throttlePosition : Option ℚ := none
  timingAdvance : Option ℚ := none
  massAirFlow : Option ℚ := none
  shortTermFuelTrimBank1 : Option ℚ := none
  longTermFuelTrimBank1 : Option ℚ := none
  oxygenSensor1Voltage : Option ℚ := none
  oxygenSensor1ShortTermFuelTrim : Option ℚ := none
  oxygenSensor2Voltage : Option ℚ := none
  oxygenSensor2ShortTermFuelTrim : Option ℚ := none
  adapterVoltage : Option ℚ := none
  estimatedFuelRate : Option ℚ := none
  estimatedFuelConsumption : Option ℚ := none
  distanceWithMil : Option ℚ := none
  fuelSystem1 : Option String := none
  oxygenSensorsPresent : Option (List Nat) := none
  obdStandard : Option String := none
  milOn : Option Bool := none
  dtcCount : Option Nat := none
  deriving DecidableEq

structure Quality where
  transport : String
  parser : String
  missingPids : List Nat
  pidResponseAgeMs : Option (List (Nat × Nat)) := none
  deriving DecidableEq

structure Sample where
  sampleId : String
  sequence : Nat
  timestampUtc : Time
  ecuDataStatus : EcuDataStatus
  telemetry : Telemetry
  quality : Quality
  deriving DecidableEq

/-- `eventHash` is the digest of the event's canonical text. -/
structure DiagnosticEvent where
  eventHash : Digest
  timestampUtc : Time
  kind : String
  payload : String
  deriving DecidableEq

structure Summary where
  durationS : Option ℚ
  distanceKm : Option ℚ
  averageSpeedKmh : Option ℚ
  maximumSpeedKmh : Option ℚ
  averageRpm : Option ℚ
  maximumRpm : Option ℚ
  idleDurationS : Option ℚ
  estimatedFuelUsedL : Option ℚ
  averageFuelConsumptionLPer100km : Option ℚ
  maximumCoolantTemperatureC : Option ℚ
  maximumEngineLoadPct : Option ℚ
  dtcsObserved : Option (List String)
  sampleCount : Nat
  missingDataDurationS : Option ℚ
  expectedSampleCount : Nat
  receivedSamplePercentage : Option ℚ
  deriving DecidableEq

structure Archive where
  sizeBytes : Nat
  manifest : Manifest
  samples : List Sample
  events : List DiagnosticEvent

inductive BundleState where
  | waitingForBackup
  | copying
  | validating
  | stored
  | failed
  | quarantined
  deriving DecidableEq

inductive FailureKind where
  | integrity
  | localPath
  | quarantineIo
  | registration
  | interrupted
  deriving DecidableEq

structure OBDBundle where
  id : Nat
  driveId : String
  bundleHash : Digest
  schemaVersion : Nat
  filename : String
  sizeBytes : Nat
  vehicleId : String
  adapterId : Option String
  loggerId : String
  loggerVersion : String
  driveStartedAt : Time
  driveFinishedAt : Time
  sampleCount : Nat
  diagnosticCount : Nat
  metadataTrusted : Bool
  state : BundleState
  lastError : Option String
  failureKind : Option FailureKind
  copiedAt : Option Time
  verifiedAt : Option Time
  updatedAt : Time
  validationWarnings : Option (List String)
  deriving DecidableEq

def OBDBundle.identity (row : OBDBundle) : String × Digest × Nat :=
  (row.driveId, row.bundleHash, row.schemaVersion)

inductive LifecycleStatus where
  | complete
  | recovered
  | interrupted
  | shutdownDetected
  | noVehicleData
  deriving DecidableEq

inductive ProcessingStatus where
  | pending
  | ready
  | error
  deriving DecidableEq

inductive SummarySource where
  | producer
  | derived
  deriving DecidableEq

/-- The columns that `reconcile_drive_projection` rebuilds. -/
structure Projection where
  finishedAt : Time
  lifecycleStatus : LifecycleStatus
  interruptionReason : Option String
  finalizationObservedAt : Option Time
  processingStatus : ProcessingStatus
  summarySource : SummarySource
  summary : Summary
  deriving DecidableEq

structure OBDDrive where
  id : Nat
  bundleId : Nat
  driveId : String
  startedAt : Time
  manifest : Manifest
  projection : Projection
  deriving DecidableEq

structure OBDSample where
  driveDbId : Nat
  sampleId : String
  sequence : Nat
  capturedAt : Time
  ecuDataStatus : EcuDataStatus
  telemetry : Telemetry
  quality : Quality
  deriving DecidableEq

structure OBDDiagnostic where
  driveDbId : Nat
  eventHash : Digest
  observedAt : Time
  kind : String
  payload : String
  deriving DecidableEq

def sampleRow (driveDbId : Nat) (sample : Sample) : OBDSample where
  driveDbId := driveDbId
  sampleId := sample.sampleId
  sequence := sample.sequence
  capturedAt := sample.timestampUtc
  ecuDataStatus := sample.ecuDataStatus
  telemetry := sample.telemetry
  quality := sample.quality

def diagnosticRow (driveDbId : Nat) (event : DiagnosticEvent) : OBDDiagnostic where
  driveDbId := driveDbId
  eventHash := event.eventHash
  observedAt := event.timestampUtc
  kind := event.kind
  payload := event.payload

end DashcamStats.Bundle
