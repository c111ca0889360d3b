import DashcamStats.Obd.Fuel
import DashcamStats.Reconciliation.Signals

namespace DashcamStats.Reconciliation

open Bundle Obd

def GAP_TOLERANCE : ℚ := 3 / 2

def MAX_RECORDED_GAPS : ℕ := 100

def MAX_CADENCE_VALUES : ℕ := 20000

def MAX_EXPECTED_CYCLES : ℕ := 2 ^ 63 - 1

/-- A row of `obd_samples`; the value of a column is `null` where there is none -/
structure Sample where
  drive : String
  sequence : ℕ
  capturedAt : Time
  ecuDataStatus : Option String
  value : String → Json
  quality : Json

-- `getattr(row, column) is not None`
def Sample.has (row : Sample) (column : String) : Bool := decide ¬(row.value column).IsNull

def Sample.number (row : Sample) (column : String) : Option ℚ := (row.value column).asNumber

def atLeast (least : Option ℚ) (value : ℚ) : Option ℚ := some (least.elim value (max value))

structure Gap where
  startAt : Time
  endAt : Time
  durationS : ℚ
  excessS : ℚ

structure Cadence where
  count : ℕ := 0
  values : List ℚ := []
  stride : ℕ := 1
  lastAt : Option Time := none
  firstAt : Option Time := none
  gapCount : ℕ := 0
  totalGapDurationS : ℚ := 0
  longestGapS : Option ℚ := none
  maximumIntervalS : Option ℚ := none
  outOfOrderCount : ℕ := 0
  gaps : List Gap := []

-- `values[::2]`
def everyOther : List ℚ → List ℚ
  | value :: _ :: rest => value :: everyOther rest
  | values => values

namespace Cadence

variable (rnd : ℚ → ℚ) (c : Cadence)

def addValue (interval : ℚ) : Cadence :=
  let values := if c.count % c.stride = 0 then c.values ++ [interval] else c.values
  if MAX_CADENCE_VALUES < values.length then
    { c with
      values := everyOther values
      stride := c.stride * 2 }
  else { c with values := values }

def addGap (lastAt capturedAt : Time) (interval expectedS : ℚ) : Cadence :=
  if rnd (expectedS * GAP_TOLERANCE) < interval then
    let excess := max 0 (rnd (interval - expectedS))
    { c with
      gapCount := c.gapCount + 1
      totalGapDurationS := rnd (c.totalGapDurationS + excess)
      longestGapS := atLeast c.longestGapS interval
      gaps := if c.gaps.length < MAX_RECORDED_GAPS then
          c.gaps ++ [⟨lastAt, capturedAt, interval, excess⟩]
        else c.gaps }
  else c

def observe (capturedAt : Time) (expectedS : ℚ) : Cadence :=
  let c := { c with
    count := c.count + 1
    firstAt := some (c.firstAt.getD capturedAt) }
  let seen := match c.lastAt with
    | none => c
    | some lastAt =>
      let interval := totalSeconds rnd (capturedAt - lastAt)
      if interval < 0 then { c with outOfOrderCount := c.outOfOrderCount + 1 }
      else
        let c := { c with maximumIntervalS := atLeast c.maximumIntervalS interval }
        (c.addValue interval).addGap rnd lastAt capturedAt interval expectedS
  { seen with lastAt := some capturedAt }

end Cadence

def percentile (rnd : ℚ → ℚ) (values : List ℚ) (fraction : ℚ) : Option ℚ :=
  if values = [] then none
  else
    let ordered := values.mergeSort fun a b => decide (a ≤ b)
    let position := rnd ((ordered.length - 1 : ℕ) * fraction)
    let lower := ⌊position⌋.toNat
    let upper := min (ordered.length - 1) (lower + 1)
    let weight := rnd (position - lower)
    some (rnd (rnd (ordered.getD lower 0 * rnd (1 - weight)) + rnd (ordered.getD upper 0 * weight)))

structure SignalState where
  spec : SignalSpec
  deadlineScheduled : Bool
  cadence : Cadence := {}
  receivedCount : ℕ := 0
  missingRunCount : ℕ := 0
  longestMissingRun : ℕ := 0
  currentMissingRun : ℕ := 0
  nextOpportunity : ℕ := 0

structure SignalResult where
  spec : SignalSpec
  supported : Bool
  expected : ℕ
  received : ℕ
  missing : ℕ
  missingRunCount : Option ℕ
  longestMissingRun : Option ℕ
  coveragePercentage : Option ℚ
  cadence : Cadence

def phaseOpportunities (cycles every phase : ℕ) : ℕ :=
  if cycles ≤ phase then 0 else 1 + (cycles - 1 - phase) / every

def percentage (rnd : ℚ → ℚ) (received expected : ℕ) : ℚ :=
  rnd (rnd (100 * received) / rnd expected)

def SignalState.readAt (state : SignalState) (row : Sample) : Option Time :=
  let at_ := match state.spec.sourcePid with
    | some pid => if state.spec.provenance = "static" then some row.capturedAt
        else responseTime row.capturedAt row.quality pid state.deadlineScheduled
    | none => some row.capturedAt
  if row.has state.spec.column then at_ else none

namespace SignalState

variable (rnd : ℚ → ℚ) (state : SignalState)

def addMissing (count : ℕ) : SignalState :=
  if count = 0 then state
  else
    let current := min MAX_EXPECTED_CYCLES (state.currentMissingRun + count)
    { state with
      missingRunCount := if state.currentMissingRun = 0 then state.missingRunCount + 1
        else state.missingRunCount
      currentMissingRun := current
      longestMissingRun := max state.longestMissingRun current }

def add (row : Sample) (phase : ℕ) : SignalState :=
  let readAt := state.readAt row
  let state := match readAt with
    | some at_ => { state with cadence := state.cadence.observe rnd at_ state.spec.cadenceS }
    | none => state
  if state.deadlineScheduled then
    if readAt.isSome then { state with receivedCount := state.receivedCount + 1 } else state
  else if row.sequence < phase ∨ row.sequence % state.spec.every ≠ phase then state
  else
    let opportunity := (row.sequence - phase) / state.spec.every
    if MAX_EXPECTED_CYCLES ≤ opportunity then state
    else
      let state := state.addMissing (opportunity - state.nextOpportunity)
      let state :=
        if readAt.isSome then { state with
          receivedCount := state.receivedCount + 1
          currentMissingRun := 0 }
        else state.addMissing 1
      { state with nextOpportunity := opportunity + 1 }

def finish (supported : Bool) (expectedCycles phase : ℕ) : SignalResult :=
  let expected :=
    if supported then phaseOpportunities expectedCycles state.spec.every phase else 0
  let state := if supported && !state.deadlineScheduled then
      state.addMissing (expected - state.nextOpportunity)
    else state
  let received := if supported then state.receivedCount else state.cadence.count
  let received := if state.deadlineScheduled && supported then min received expected else received
  { spec := state.spec
    supported
    expected
    received
    missing := expected - received
    missingRunCount := if state.deadlineScheduled then none
      else some (if supported then state.missingRunCount else 0)
    longestMissingRun := if state.deadlineScheduled then none
      else some (if supported then state.longestMissingRun else 0)
    coveragePercentage := if expected = 0 then none else some (percentage rnd received expected)
    cadence := state.cadence }

end SignalState

structure Rollup where
  sampleCount : ℕ := 0
  speedSum : ℚ := 0
  speedCount : ℕ := 0
  rpmSum : ℚ := 0
  rpmCount : ℕ := 0
  maximumSpeedKmh : Option ℚ := none
  maximumRpm : Option ℚ := none
  maximumCoolantTemperatureC : Option ℚ := none
  maximumEngineLoadPct : Option ℚ := none
  fuelEstimate : EstimatedFuelAccumulator
  motion : MotionAccumulator

def Rollup.start (cycleS cadenceS : ℚ) (requireTiming : Bool) : Rollup where
  fuelEstimate := { nominalCycleS := cycleS, mafCadenceS := cadenceS, requireTiming }
  motion := { cycleS, requireTiming }

def Sample.observation (row : Sample) : Observation where
  drive := some row.drive
  sequence := some row.sequence
  capturedAt := row.capturedAt
  speed := row.number "vehicle_speed_kmh"
  rpm := row.number "engine_rpm"
  estimatedRate := row.number "estimated_fuel_rate_l_h"
  status := row.ecuDataStatus
  quality := row.quality

def largest (maximum reading : Option ℚ) : Option ℚ := reading.elim maximum (atLeast maximum)

def Rollup.observe (rnd : ℚ → ℚ) (rollup : Rollup) (row : Sample) : Rollup :=
  let speed := row.number "vehicle_speed_kmh"
  let rpm := row.number "engine_rpm"
  { sampleCount := rollup.sampleCount + 1
    speedSum := speed.elim rollup.speedSum fun speed => rnd (rollup.speedSum + speed)
    speedCount := rollup.speedCount + speed.toList.length
    rpmSum := rpm.elim rollup.rpmSum fun rpm => rnd (rollup.rpmSum + rpm)
    rpmCount := rollup.rpmCount + rpm.toList.length
    maximumSpeedKmh := largest rollup.maximumSpeedKmh speed
    maximumRpm := largest rollup.maximumRpm rpm
    maximumCoolantTemperatureC :=
      largest rollup.maximumCoolantTemperatureC (row.number "coolant_temperature_c")
    maximumEngineLoadPct := largest rollup.maximumEngineLoadPct (row.number "engine_load_pct")
    fuelEstimate := rollup.fuelEstimate.observe rnd row.observation
    motion := rollup.motion.observe rnd row.observation }

structure ShutdownEvidence where
  runningAt : Option Time := none
  stoppedAt : Option Time := none
  lastAt : Option Time := none

def ShutdownEvidence.observe (evidence : ShutdownEvidence) (row : Sample) : ShutdownEvidence :=
  let at_ := row.capturedAt
  let rpm := row.number "engine_rpm"
  let speed := row.number "vehicle_speed_kmh"
  let voltage := row.number "adapter_voltage_v"
  let evidence : ShutdownEvidence := if evidence.lastAt.any (at_ ≤ ·) then
      ⟨none, none, some at_⟩
    else { evidence with lastAt := some at_ }
  if rpm.any (300 < ·) then { evidence with
    runningAt := if voltage.any (13 ≤ ·) then some at_ else none
    stoppedAt := none }
  else if speed.any (0 < ·) || voltage.any (13 ≤ ·) then { evidence with stoppedAt := none }
  else if evidence.runningAt.any (fun since => decide (0 < at_ - since ∧ at_ - since ≤ 30000000)) &&
      rpm.any (fun rpm => decide (0 ≤ rpm ∧ rpm ≤ 300)) && decide (speed = some 0) &&
      voltage.any (fun voltage => decide (10 ≤ voltage ∧ voltage < 13)) then
    { evidence with stoppedAt := some at_ }
  else evidence

def ShutdownEvidence.detected (evidence : ShutdownEvidence) (finishedAt : Time) : Bool :=
  evidence.stoppedAt.any fun stopped =>
    decide (0 ≤ finishedAt - stopped ∧ finishedAt - stopped ≤ 30000000)

def lifecycleStatus (cleanEnd : Bool) (stopReason : Option String) (producer : String)
    (shutdownDetected : Bool) : String :=
  if cleanEnd then "complete"
  else if stopReason = some "device_restart" ∨ producer = "recovered" then "recovered"
  else if stopReason = some "ingestion_requested" then "saved_for_backup"
  else if stopReason = some "connection_lost" ∧ shutdownDetected then "shutdown_detected"
  else "interrupted"

structure Streams where
  firstSample : Option Time := none
  lastSample : Option Time := none
  lastSuccess : Option Time := none
  sequenceGaps : ℕ := 0
  previousSequence : Option ℕ := none
  maximumSequence : Option ℕ := none
  missingPids : List ℕ := []
  transport : Cadence := {}
  rollup : Rollup
  shutdown : ShutdownEvidence := {}
  signals : List SignalState

-- `isinstance(value, int) and not isinstance(value, bool) and 0 <= value <= 255`
def byteOf : Json → Option ℕ
  | .int n => if 0 ≤ n ∧ n ≤ 255 then some n.toNat else none
  | _ => none

def missingOf : Json → List ℕ
  | .obj quality => match itemOrNull quality "missing_pids" with
    | .arr values => values.filterMap byteOf
    | _ => []
  | _ => []

def hasSuccessfulMeasurement (row : Sample) (specs : List SignalSpec) : Bool :=
  specs.any fun spec => spec.provenance = "measured" && row.has spec.column

def latestTime (a b : Option Time) : Option Time :=
  match a, b with
  | some a, some b => some (max a b)
  | some a, none => some a
  | none, b => b

def Streams.observe (rnd : ℚ → ℚ) (cycleS : ℚ) (specs : List SignalSpec) (phases : Phases)
    (s : Streams) (row : Sample) : Streams where
  firstSample := some (s.firstSample.elim row.capturedAt (min · row.capturedAt))
  lastSample := some (s.lastSample.elim row.capturedAt (max · row.capturedAt))
  lastSuccess := if hasSuccessfulMeasurement row specs then
      latestTime s.lastSuccess (some row.capturedAt)
    else s.lastSuccess
  sequenceGaps := match s.previousSequence with
    | none => if 0 < row.sequence then min MAX_EXPECTED_CYCLES row.sequence else s.sequenceGaps
    | some previous => if previous + 1 < row.sequence then
        min MAX_EXPECTED_CYCLES (s.sequenceGaps + (row.sequence - previous - 1))
      else s.sequenceGaps
  previousSequence := some row.sequence
  maximumSequence := some (s.maximumSequence.elim row.sequence (max · row.sequence))
  missingPids := s.missingPids ++ missingOf row.quality
  transport := s.transport.observe rnd row.capturedAt cycleS
  rollup := s.rollup.observe rnd row
  shutdown := s.shutdown.observe row
  signals := s.signals.map fun state => state.add rnd row (signalPhase state.spec phases)

def expectedCycles (rnd : ℚ → ℚ) (startedAt finishedAt : Time) (sampleCount : ℕ)
    (maximumSequence : Option ℕ) (cycleS : ℚ) : ℕ × Bool :=
  let durationS := max 0 (totalSeconds rnd (finishedAt - startedAt))
  let fromTime := if 0 < durationS then ⌊durationS / cycleS⌋.toNat + 1 else 0
  let fromSequence := maximumSequence.elim 0 (· + 1)
  let uncapped := max (max sampleCount fromTime) fromSequence
  (min uncapped MAX_EXPECTED_CYCLES, decide (MAX_EXPECTED_CYCLES < uncapped))

end DashcamStats.Reconciliation
