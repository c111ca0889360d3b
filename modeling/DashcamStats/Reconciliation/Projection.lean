import DashcamStats.Reconciliation.Documents
import DashcamStats.Reconciliation.Streams

namespace DashcamStats.Reconciliation

open Bundle Obd

def PROJECTION_VERSION : ℤ := 6

abbrev rnd : ℚ → ℚ := Binary64.round

structure Library where
  -- `datetime.fromisoformat` of a text with `+00:00` for `Z`; none too where it raises, or has no
  -- time zone
  fromisoformat : String → Option Time
  isoformat : Time → String
  -- `isoformat`, with `Z` for `+00:00`
  summaryTime : Time → String
  -- SHA-256 of `json.dumps`
  sha256 : Json → String

structure Diagnostic where
  kind : String
  payload : Json

structure Stored where
  driveFinishedAt : Option Time
  samples : List Sample
  diagnostics : List Diagnostic

structure Imported where
  driveId : String
  startedAt : Time
  stopReason : Option String
  completionStatus : String
  cleanEnd : Bool
  manifest : Json
  deriving DecidableEq

/-- `canonical_values`, but for the two columns that a failure writes too -/
structure Canonical where
  finishedAt : Time
  lifecycleStatus : String
  interruptionReason : Option String
  firstSampleAt : Option Time
  lastSampleAt : Option Time
  lastSuccessfulResponseAt : Option Time
  finalizationObservedAt : Option Time
  connectionLossCount : ℕ
  gapCount : ℕ
  longestGapS : Option ℚ
  dataCompletenessPercentage : Option ℚ
  gapAnalysis : Json
  summarySource : String
  durationS : Option ℚ
  distanceKm : Option ℚ
  averageSpeedKmh : Option ℚ
  maximumSpeedKmh : Option ℚ
  averageRpm : Option ℚ
  maximumRpm : Option ℚ
  idleDurationS : Option ℚ
  estimatedFuelUsedL : Option ℚ
  averageFuelConsumptionL100km : Option ℚ
  maximumCoolantTemperatureC : Option ℚ
  maximumEngineLoadPct : Option ℚ
  missingDataDurationS : Option ℚ
  expectedSampleCount : ℕ
  receivedSamplePercentage : Option ℚ
  sampleCount : ℕ
  dtcsObserved : List String
  summary : Json
  deriving DecidableEq

structure Drive where
  imported : Imported
  canonical : Canonical
  processingStatus : String
  lastProcessingError : Option String
  summaryGeneratedAt : Option Time

def number : Option ℚ → Json
  | some value => .float value
  | none => .null

def natural (n : ℕ) : Json := .int n

def count : Option ℕ → Json
  | some n => natural n
  | none => .null

def text : Option String → Json
  | some value => .str value
  | none => .null

section

variable (lib : Library)

-- `f"{value:02X}"`
def formatHex (value : ℤ) : String :=
  let digits := (Nat.toDigits 16 value.natAbs).map Char.toUpper
  if value < 0 then String.ofList ('-' :: digits)
  else String.ofList (List.replicate (2 - digits.length) '0' ++ digits)

def iso (at_ : Option Time) : Json := text (at_.map lib.isoformat)

def Cadence.result (cadence : Cadence) (expectedS : ℚ) : Members :=
  [("observation_count", natural cadence.count),
   ("first_observed_at", iso lib cadence.firstAt),
   ("last_observed_at", iso lib cadence.lastAt),
   ("expected_cadence_s", .float expectedS),
   ("gap_threshold_s", .float (rnd (expectedS * GAP_TOLERANCE))),
   ("median_cadence_s", number (percentile rnd cadence.values (rnd (1 / 2)))),
   ("p95_cadence_s", number (percentile rnd cadence.values (rnd (95 / 100)))),
   ("p99_cadence_s", number (percentile rnd cadence.values (rnd (99 / 100)))),
   ("maximum_cadence_s", number cadence.maximumIntervalS),
   ("cadence_is_sampled", .bool (decide (1 < cadence.stride))),
   ("gap_count", natural cadence.gapCount),
   ("total_gap_duration_s", .float cadence.totalGapDurationS),
   ("longest_gap_s", number cadence.longestGapS),
   ("out_of_order_count", natural cadence.outOfOrderCount),
   ("gaps", .arr (cadence.gaps.map fun gap => .obj
     [("start_at", .str (lib.isoformat gap.startAt)), ("end_at", .str (lib.isoformat gap.endAt)),
      ("duration_s", .float gap.durationS), ("excess_s", .float gap.excessS)])),
   ("gaps_truncated", .bool (decide (cadence.gaps.length < cadence.gapCount)))]

def SignalResult.document (result : SignalResult) : Json := .obj
  ([("name", .str result.spec.name), ("label", .str result.spec.label),
    ("pid", text (result.spec.pid.map hex2)), ("tier", .str result.spec.tier),
    ("provenance", .str result.spec.provenance), ("discrete", .bool result.spec.discrete),
    ("supported", .bool result.supported),
    ("expected_observation_count", natural result.expected),
    ("received_observation_count", natural result.received),
    ("missing_observation_count", natural result.missing),
    ("missing_run_count", count result.missingRunCount),
    ("longest_missing_run", count result.longestMissingRun),
    ("coverage_percentage", number result.coveragePercentage)] ++
    result.cadence.result lib result.spec.cadenceS)

end

def supportedPids (diagnostics : List Diagnostic) : Bool × List ℤ :=
  let scans := diagnostics.filter fun row => row.kind = "mode01_support"
  let values := scans.flatMap fun row => match row.payload with
    | .obj payload => match itemOrNull payload "supported_pids" with
      | .arr values => values.filterMap fun
        | .int n => some n
        | _ => none
      | _ => []
    | _ => []
  (!scans.isEmpty, values.dedup)

def recoveredOptionalTimeoutCategories : List String :=
  [0x01, 0x03, 0x04, 0x05, 0x06, 0x07, 0x0E, 0x0F, 0x11, 0x13, 0x14, 0x15, 0x1C, 0x20, 0x21].map
    fun pid => "optional_pid_" ++ hex2 pid ++ "_timeout_recovered"

def connectionFailureIsLoss (row : Diagnostic) : Bool :=
  row.kind = "connection_failure" && !match row.payload with
    | .obj payload => (itemOrNull payload "category").asString.any
        fun category => decide (category ∈ recoveredOptionalTimeoutCategories)
    | _ => false

def observedDtcs (diagnostics : List Diagnostic) : List String :=
  let codes := diagnostics.flatMap fun row =>
    if row.kind ∈ ["confirmed_dtcs", "pending_dtcs", "permanent_dtcs"] then
      match row.payload with
      | .obj payload => match itemOrNull payload "codes" with
        | .arr codes => codes.filterMap Json.asString
        | _ => []
      | _ => []
    else []
  codes.dedup.mergeSort fun a b => decide (a ≤ b)

-- `value.get(name)` of a document that may be no object
def member (document : Json) (name : String) : Json :=
  match document with
  | .obj members => itemOrNull members name
  | _ => .null

/-- `producer_summary`; an integer beyond the floats raises -/
def producerSummary (drive : Drive) : Except String Json :=
  let kept := member drive.canonical.gapAnalysis "producer_summary"
  if drive.canonical.summarySource = "producer" then
    match member drive.canonical.summary "missing_data_duration_s" with
    | .int n => match toFloat n with
      | .ok _ => .ok (if 0 ≤ n then .obj [("missing_data_duration_s", .int n)] else kept)
      | .error _ => .error "OverflowError: int too large to convert to float"
    | .float q => .ok (if 0 ≤ q then .obj [("missing_data_duration_s", .float q)] else kept)
    | _ => .ok kept
  else .ok kept

structure Coverage where
  results : List SignalResult
  receivedTotal : ℕ
  expectedTotal : ℕ

def signalSupported (scanned : Bool) (advertised : List ℤ) (missing : List ℕ)
    (state : SignalState) : Bool :=
  match state.spec.pid with
  | none => state.spec.name = "adapter_voltage" || decide (0 < state.cadence.count)
  | some pid =>
    if scanned then decide ((pid : ℤ) ∈ advertised)
    else decide (0 < state.cadence.count) || decide (pid ∈ missing)

def cover (streams : Streams) (scanned : Bool) (advertised : List ℤ)
    (phases : Phases) (cycles : ℕ) : Coverage :=
  let results := streams.signals.map fun state =>
    state.finish rnd (signalSupported scanned advertised streams.missingPids state) cycles
      (signalPhase state.spec phases)
  let measured := results.filter fun result =>
    result.supported && result.spec.provenance = "measured"
  { results
    receivedTotal := (measured.map (·.received)).sum
    expectedTotal := (measured.map (·.expected)).sum }

def completeness (coverage : Coverage) : Option ℚ :=
  if coverage.expectedTotal = 0 then none
  else some (percentage rnd coverage.receivedTotal coverage.expectedTotal)

def receivedPercentage (received expected : ℕ) : ℚ :=
  if expected = 0 then 0 else min 100 (percentage rnd received expected)

def phasesOf (plan : ℤ) : Phases := ((_POLL_PLAN_SPECS.lookup plan).map (·.2)).getD []

structure Evidence where
  plan : ℤ
  streams : Streams
  lifecycle : String
  effectiveFinished : Time
  successfulResponse : Option Time
  cycles : ℕ × Bool
  coverage : Coverage

section

variable (lib : Library)

def manifestTime (manifest : Json) (name : String) : Option Time :=
  (member manifest name).asString.bind lib.fromisoformat

def streamsOf (plan : Json) (stored : Stored) : Streams :=
  let specs := specsForPollPlan plan
  let cycleS := nominalCycleS (some specs.1)
  stored.samples.foldl
    (Streams.observe rnd cycleS specs.2 (phasesOf specs.1))
    { rollup := .start cycleS (mafCadenceS (some specs.1)) (specs.1 = 8)
      signals := specs.2.map fun spec => { spec, deadlineScheduled := specs.1 = 8 } }

def gather (drive : Imported) (finishedAt : Time) (stored : Stored) : Evidence :=
  let planValue := member drive.manifest "poll_plan_version"
  let plan := (specsForPollPlan planValue).1
  let cycleS := nominalCycleS (some plan)
  let streams := streamsOf planValue stored
  let support := supportedPids stored.diagnostics
  let lifecycle := lifecycleStatus drive.cleanEnd drive.stopReason drive.completionStatus
    (streams.shutdown.detected finishedAt)
  let successfulResponse := latestTime streams.lastSuccess
    (manifestTime lib drive.manifest "last_successful_obd_response_at_utc")
  let finished := if lifecycle = "complete" then finishedAt
    else (streams.lastSample.orElse fun _ => successfulResponse).getD finishedAt
  let finished := max finished drive.startedAt
  let cycles := expectedCycles rnd drive.startedAt finished streams.rollup.sampleCount
    streams.maximumSequence cycleS
  { plan
    streams
    lifecycle
    effectiveFinished := finished
    successfulResponse
    cycles
    coverage := cover streams support.1 support.2 (phasesOf plan) cycles.1 }

def interruptionReason (drive : Imported) (lifecycle : String) : Option String :=
  if lifecycle = "complete" then none
  else
    -- An empty text counts as none.
    let given := ((member drive.manifest "interruption_reason").asString.filter (· ≠ "")).orElse
      fun _ => drive.stopReason.filter (· ≠ "")
    some (given.getD "unclean_end")

def average (sum : ℚ) (n : ℕ) : Option ℚ := if n = 0 then none else some (rnd (sum / n))

def distanceKm (rollup : Rollup) : Option ℚ :=
  if rollup.motion.distanceIntervals = 0 then none else some rollup.motion.distanceKm

def fuelUsedL (rollup : Rollup) : Option ℚ :=
  if rollup.fuelEstimate.hasEvidence then some rollup.fuelEstimate.litres else none

def fuelConsumption (rollup : Rollup) : Option ℚ :=
  match fuelUsedL rollup, distanceKm rollup with
  | some fuel, some distance =>
    if 0 < distance then some (rnd (rnd (fuel * 100) / distance)) else none
  | _, _ => none

def durationOf (drive : Imported) (e : Evidence) : ℚ :=
  max 0 (totalSeconds rnd (e.effectiveFinished - drive.startedAt))

def receivedOf (e : Evidence) : ℚ :=
  receivedPercentage e.streams.transport.count e.cycles.1

def summaryOf (drive : Imported) (e : Evidence) (dtcs : List String) : Members :=
  let rollup := e.streams.rollup
  [("schema_version", .int 1), ("drive_id", .str drive.driveId),
   ("start_time_utc", .str (lib.summaryTime drive.startedAt)),
   ("finish_time_utc", .str (lib.summaryTime e.effectiveFinished)),
   ("duration_s", .float (durationOf drive e)),
   ("distance_km", number (distanceKm rollup)),
   ("average_speed_kmh", number (average rollup.speedSum rollup.speedCount)),
   ("maximum_speed_kmh", number rollup.maximumSpeedKmh),
   ("average_rpm", number (average rollup.rpmSum rollup.rpmCount)),
   ("maximum_rpm", number rollup.maximumRpm),
   ("idle_duration_s", number (if rollup.motion.idleEvidence then some rollup.motion.idleS
     else none)),
   ("estimated_fuel_used_l", number (fuelUsedL rollup)),
   ("average_fuel_consumption_l_per_100km", number (fuelConsumption rollup)),
   ("maximum_coolant_temperature_c", number rollup.maximumCoolantTemperatureC),
   ("maximum_engine_load_pct", number rollup.maximumEngineLoadPct),
   ("dtcs_observed", .arr (dtcs.map .str)), ("sample_count", natural rollup.sampleCount),
   ("missing_data_duration_s", .float e.streams.transport.totalGapDurationS),
   ("expected_sample_count", natural e.cycles.1),
   ("received_sample_percentage", .float (receivedOf e)),
   ("clean_end", .bool drive.cleanEnd)] ++
  if (_POLL_PLAN_SPECS.lookup e.plan).isSome then
    [("last_sample_at_utc", text (e.streams.lastSample.map lib.summaryTime)),
     ("termination_noticed_at_utc",
       text ((manifestTime lib drive.manifest "termination_noticed_at_utc").map lib.summaryTime)),
     ("finalised_at_utc",
       text ((manifestTime lib drive.manifest "finalised_at_utc").map lib.summaryTime)),
     ("completion_status", .str e.lifecycle),
     ("interruption_reason", text (interruptionReason drive e.lifecycle))]
  else []

def vehicleDataPresent (rollup : Rollup) : Bool :=
  (distanceKm rollup).isSome || decide (0 < rollup.speedCount) || rollup.maximumSpeedKmh.isSome ||
    rollup.maximumRpm.any (0 < ·)

def gapAnalysisOf (drive : Imported) (e : Evidence) (stored : Stored) (producer : Json) : Members :=
  let support := supportedPids stored.diagnostics
  let cycleS := nominalCycleS (some e.plan)
  let manifestLast := manifestTime lib drive.manifest "last_sample_at_utc"
  [("schema_version", .int 1), ("projection_version", .int PROJECTION_VERSION),
   ("poll_plan_version", .int e.plan), ("nominal_cycle_s", .float cycleS),
   ("gap_tolerance", .float GAP_TOLERANCE), ("expected_cycle_count", natural e.cycles.1),
   ("expected_cycle_count_capped", .bool e.cycles.2),
   ("supported_pid_source", .str (if support.1 then "mode01_support" else "inferred")),
   ("supported_pids", .arr ((support.2.mergeSort fun a b => decide (a ≤ b)).map
     fun pid => .str (formatHex pid))),
   ("transport", .obj (e.streams.transport.result lib cycleS ++
     [("expected_observation_count", natural e.cycles.1),
      ("received_observation_count", natural e.streams.transport.count),
      ("missing_observation_count", natural (e.cycles.1 - e.streams.transport.count)),
      ("sequence_gap_count", natural e.streams.sequenceGaps),
      ("coverage_percentage", .float (receivedOf e))])),
   ("signals", .arr (e.coverage.results.map (·.document lib))),
   ("aggregate_signal_completeness_percentage", number (completeness e.coverage)),
   ("manifest_consistency", .obj
     [("manifest_last_sample_at", iso lib manifestLast),
      ("raw_last_sample_at", iso lib e.streams.lastSample),
      ("last_sample_matches_manifest", match manifestLast with
        | none => .null
        | some at_ => .bool (decide (some at_ = e.streams.lastSample)))]),
   ("lifecycle_evidence", .obj
     [("producer_stop_reason", text drive.stopReason),
      ("shutdown_inferred", .bool (decide (e.lifecycle = "shutdown_detected"))),
      ("shutdown_sample_at", iso lib e.streams.shutdown.stoppedAt)])] ++
  match producer with
  | .obj members => [("producer_summary", .obj members)]
  | _ => []

def project (drive : Drive) (stored : Stored) : Except String (Canonical × String) := do
  let producer ← producerSummary drive
  let finishedAt ← match stored.driveFinishedAt with
    | some at_ => .ok at_
    | none => .error "ValueError: drive references a missing OBD bundle"
  let e := gather lib drive.imported finishedAt stored
  let rollup := e.streams.rollup
  let dtcs := observedDtcs stored.diagnostics
  let losses := max (stored.diagnostics.countP connectionFailureIsLoss)
    (if drive.imported.stopReason = some "connection_lost" then 1 else 0)
  let finalization := ((manifestTime lib drive.imported.manifest "finalised_at_utc").orElse
    fun _ => manifestTime lib drive.imported.manifest "termination_noticed_at_utc").getD finishedAt
  let summary := summaryOf lib drive.imported e dtcs
  let gapAnalysis := gapAnalysisOf lib drive.imported e stored producer
  let reason := interruptionReason drive.imported e.lifecycle
  -- A drive without bus data is one whatever its ending was.
  let lifecycle := if vehicleDataPresent rollup then e.lifecycle else "no_vehicle_data"
  let reason := if vehicleDataPresent rollup then reason else some (reason.getD "bus_silent")
  let document : Json := .obj
    [("projection_version", .int PROJECTION_VERSION), ("lifecycle_status", .str lifecycle),
     ("interruption_reason", text reason), ("first_sample_at", iso lib e.streams.firstSample),
     ("last_sample_at", iso lib e.streams.lastSample),
     ("last_successful_response_at", iso lib e.successfulResponse),
     ("finalization_observed_at", iso lib (some finalization)),
     ("connection_loss_count", natural losses), ("summary", .obj summary),
     ("gap_analysis", .obj gapAnalysis)]
  if !document.isFinite then
    .error "ValueError: Out of range float values are not JSON compliant"
  else
    let fingerprint := lib.sha256 document
    .ok ({
      finishedAt := e.effectiveFinished
      lifecycleStatus := lifecycle
      interruptionReason := reason
      firstSampleAt := e.streams.firstSample
      lastSampleAt := e.streams.lastSample
      lastSuccessfulResponseAt := e.successfulResponse
      finalizationObservedAt := some finalization
      connectionLossCount := losses
      gapCount := e.streams.transport.gapCount
      longestGapS := e.streams.transport.longestGapS
      dataCompletenessPercentage := completeness e.coverage
      gapAnalysis := .obj (gapAnalysis ++ [("projection_fingerprint", .str fingerprint)])
      summarySource := "derived"
      durationS := some (durationOf drive.imported e)
      distanceKm := distanceKm rollup
      averageSpeedKmh := average rollup.speedSum rollup.speedCount
      maximumSpeedKmh := rollup.maximumSpeedKmh
      averageRpm := average rollup.rpmSum rollup.rpmCount
      maximumRpm := rollup.maximumRpm
      idleDurationS := if rollup.motion.idleEvidence then some rollup.motion.idleS else none
      estimatedFuelUsedL := fuelUsedL rollup
      averageFuelConsumptionL100km := fuelConsumption rollup
      maximumCoolantTemperatureC := rollup.maximumCoolantTemperatureC
      maximumEngineLoadPct := rollup.maximumEngineLoadPct
      missingDataDurationS := some e.streams.transport.totalGapDurationS
      expectedSampleCount := e.cycles.1
      receivedSamplePercentage := some (receivedOf e)
      sampleCount := rollup.sampleCount
      dtcsObserved := dtcs
      summary := .obj summary }, fingerprint)

inductive Report where
  | ready (changed : Bool) (fingerprint : String)
  | error (error : String)
  -- The flush has raised, and the transaction is rolled back.
  | raised
  deriving DecidableEq

structure Faults where
  raises : Option String := none
  flushFails : Bool := false

def reconcileDriveProjection (faults : Faults) (now : Time) (drive : Drive) (stored : Stored) :
    Drive × Report :=
  let projected : Except String (Canonical × String) := match faults.raises with
    | some error => .error error
    | none => project lib drive stored
  if faults.flushFails then (drive, .raised)
  else match projected with
    | .error error =>
      let error := (error.take 2048).toString
      ({ drive with
        processingStatus := "error"
        lastProcessingError := some error }, .error error)
    | .ok (canonical, fingerprint) =>
      let changed := member drive.canonical.gapAnalysis "projection_fingerprint" ≠
          Json.str fingerprint ∨ drive.summaryGeneratedAt = none ∨ drive.canonical ≠ canonical ∨
        drive.processingStatus ≠ "ready" ∨ drive.lastProcessingError ≠ none
      ({ drive with
        canonical := canonical
        processingStatus := "ready"
        lastProcessingError := none
        summaryGeneratedAt := if changed then some now else drive.summaryGeneratedAt },
        .ready (decide changed) fingerprint)

end

end DashcamStats.Reconciliation
