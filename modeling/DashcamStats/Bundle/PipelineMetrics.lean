import Mathlib.Data.List.Sort
import DashcamStats.Bundle.Json

namespace DashcamStats.Bundle

def pipelineMetricFieldsV1 : List String :=
  ["commands_requested", "commands_completed", "command_timeouts", "notifications_received",
    "notification_fragments_received", "frames_assembled", "checksum_failures", "parse_failures",
    "samples_created", "samples_queued", "samples_persisted", "samples_dropped",
    "database_write_failures", "ble_disconnects", "reconnect_attempts", "radio_shutdowns",
    "queue_depth", "maximum_queue_depth"]

def pipelineMetricCounterFieldsCurrent : List String :=
  ["commands_requested", "commands_blocked", "commands_sent", "commands_completed",
    "command_timeouts", "adapter_local_commands", "vehicle_bus_commands",
    "ble_connection_attempts", "adapter_targets_resolved", "gatt_connections_established",
    "notification_subscriptions_enabled", "ble_connection_successes", "ble_connection_failures",
    "voltage_reads_successful", "voltage_reads_failed", "invalid_voltage_responses",
    "notifications_received", "notification_fragments_received", "frames_assembled",
    "checksum_failures", "parse_failures", "samples_created", "samples_queued",
    "samples_persisted", "samples_dropped", "database_write_failures", "ble_disconnects",
    "reconnect_attempts", "radio_shutdowns"]

def pipelineMetricTimingNamesCurrent : List String :=
  ["connection_time", "command_response_time", "voltage_response_time", "connected_time"]

def queueFields : List String := ["queue_depth", "maximum_queue_depth"]

def samplesField (name : String) : String := name ++ "_samples"
def medianField (name : String) : String := "median_" ++ name ++ "_ms"
def maximumField (name : String) : String := "maximum_" ++ name ++ "_ms"
def totalField (name : String) : String := "total_" ++ name ++ "_ms"

def pipelineMetricFieldsCurrentRequired : List String :=
  pipelineMetricCounterFieldsCurrent ++
    ["queue_depth", "maximum_queue_depth", "observation_window_ms", "polling_duty_cycle_percent"] ++
    pipelineMetricTimingNamesCurrent.flatMap fun name =>
      [samplesField name, maximumField name, totalField name]

def pipelineMetricFieldsCurrentOptional : List String :=
  pipelineMetricTimingNamesCurrent.map medianField

def pipelineMetricCounterMaximum : ℤ := 2 ^ 31 - 1

def pipelineMetricTimingMaximumMs : ℤ := 1000000000000

def pipelineMetricTimingSampleLimit : ℤ := 256

def printSorted (names : List String) : String :=
  "[" ++ ", ".intercalate ((names.insertionSort (· ≤ ·)).map fun name => "'" ++ name ++ "'") ++ "]"

def metric (payload : Members) (name : String) (minimum maximum : ℤ) : Checked ℤ := do
  integer (← item payload name) s!"diagnostic.pipeline_metrics.{name}" minimum maximum

def metrics (payload : Members) (maximum : String → ℤ) : List String → Checked Unit
  | [] => return
  | name :: names => do
    let _ ← metric payload name 0 (maximum name)
    metrics payload maximum names

structure TimingValue where
  sampleCount : ℤ
  totalMs : ℤ

def timingMedian (payload : Members) (name : String) (sampleCount maximumMs totalMs : ℤ) :
    Checked Unit :=
  if sampleCount = 0 then do
    refuse (medianField name ∈ memberNames payload)
      s!"diagnostic pipeline_metrics {name} median requires timing samples"
    refuse (maximumMs ≠ 0 ∨ totalMs ≠ 0)
      s!"diagnostic pipeline_metrics {name} empty timing is inconsistent"
  else do
    refuse (medianField name ∉ memberNames payload)
      s!"diagnostic pipeline_metrics {name} median is missing"
    let median ← present (← number (← item payload (medianField name))
      ("diagnostic.pipeline_metrics." ++ medianField name) (some 0)
      (some pipelineMetricTimingMaximumMs) false)
    refuse (maximumMs < median ∨ totalMs < maximumMs)
      s!"diagnostic pipeline_metrics {name} timing is inconsistent"

def timingValue (payload : Members) (name : String) : Checked TimingValue := do
  let sampleCount ← metric payload (samplesField name) 0 pipelineMetricTimingSampleLimit
  let maximumMs ← metric payload (maximumField name) 0 pipelineMetricTimingMaximumMs
  let totalMs ← metric payload (totalField name) 0 pipelineMetricTimingMaximumMs
  timingMedian payload name sampleCount maximumMs totalMs
  return { sampleCount, totalMs }

def IsClose (a b relTol absTol : ℚ) : Prop :=
  a = b ∨ Binary64.round |a - b| ≤ Binary64.round |relTol * b| ∨
    Binary64.round |a - b| ≤ Binary64.round |relTol * a| ∨ Binary64.round |a - b| ≤ absTol

instance (a b relTol absTol : ℚ) : Decidable (IsClose a b relTol absTol) :=
  inferInstanceAs (Decidable (_ ∨ _))

def counted (payload : Members) (name : String) : Checked ℤ :=
  metric payload name 0 pipelineMetricCounterMaximum

def validateCurrentMetrics (payload : Members) : Checked Unit := do
  let fields := memberNames payload
  let missing := pipelineMetricFieldsCurrentRequired.filter (· ∉ fields)
  let extras := fields.filter
    (· ∉ pipelineMetricFieldsCurrentRequired ++ pipelineMetricFieldsCurrentOptional)
  refuse (missing ≠ [] ∨ extras ≠ [])
    ("diagnostic pipeline_metrics fields do not match a supported shape (missing=" ++
      printSorted missing ++ ", extras=" ++ printSorted extras ++ ")")
  metrics payload (fun _ => pipelineMetricCounterMaximum) pipelineMetricCounterFieldsCurrent
  metrics payload (fun _ => 1) queueFields
  let observationWindowMs ← metric payload "observation_window_ms" 1 pipelineMetricTimingMaximumMs
  let dutyCycle ← present (← number (← item payload "polling_duty_cycle_percent")
    "diagnostic.pipeline_metrics.polling_duty_cycle_percent" (some 0) (some 100) false)
  let connectionTime ← timingValue payload "connection_time"
  let commandResponseTime ← timingValue payload "command_response_time"
  let voltageResponseTime ← timingValue payload "voltage_response_time"
  let connectedTime ← timingValue payload "connected_time"
  let requested ← counted payload "commands_requested"
  let sent ← counted payload "commands_sent"
  let completed ← counted payload "commands_completed"
  refuse (requested < sent ∨ sent < completed)
    "diagnostic pipeline_metrics command counts are inconsistent"
  refuse (sent < (← counted payload "command_timeouts"))
    "diagnostic pipeline_metrics timeout count is inconsistent"
  refuse (requested < (← counted payload "adapter_local_commands") ∨
      requested < (← counted payload "vehicle_bus_commands"))
    "diagnostic pipeline_metrics command categories are inconsistent"
  refuse ((← counted payload "parse_failures") < (← counted payload "checksum_failures"))
    "diagnostic pipeline_metrics parser counts are inconsistent"
  refuse ((← counted payload "samples_created") < (← counted payload "samples_queued"))
    "diagnostic pipeline_metrics sample creation counts are inconsistent"
  let successes ← counted payload "ble_connection_successes"
  refuse (successes < connectionTime.sampleCount)
    "diagnostic pipeline_metrics connection_time sample count is inconsistent"
  refuse (completed < commandResponseTime.sampleCount)
    "diagnostic pipeline_metrics command_response_time sample count is inconsistent"
  refuse (successes < connectedTime.sampleCount)
    "diagnostic pipeline_metrics connected_time sample count is inconsistent"
  refuse (commandResponseTime.sampleCount < voltageResponseTime.sampleCount)
    "diagnostic pipeline_metrics voltage timing sample count is inconsistent"
  let expectedDutyCycle := min 100
    (Binary64.round (Binary64.round (connectedTime.totalMs / observationWindowMs) * 100))
  refuse (¬IsClose dutyCycle expectedDutyCycle (Binary64.round (1 / 10 ^ 12))
      (Binary64.round (1 / 10 ^ 9)))
    "diagnostic pipeline_metrics polling duty cycle is inconsistent"

def validateV1Metrics (payload : Members) : Checked Unit :=
  metrics payload (fun name => if name ∈ queueFields then 1 else pipelineMetricCounterMaximum)
    pipelineMetricFieldsV1

def validatePipelineMetrics (payload : Members) : Checked Unit := do
  if KeysAre payload pipelineMetricFieldsV1 then validateV1Metrics payload
  else validateCurrentMetrics payload
  refuse ((← metric payload "maximum_queue_depth" 0 1) < (← metric payload "queue_depth" 0 1))
    "diagnostic pipeline_metrics queue depth is inconsistent"
  refuse ((← counted payload "commands_requested") < (← counted payload "commands_completed"))
    "diagnostic pipeline_metrics command counts are inconsistent"
  refuse ((← counted payload "samples_queued") <
      (← counted payload "samples_persisted") + (← counted payload "samples_dropped"))
    "diagnostic pipeline_metrics sample counts are inconsistent"

end DashcamStats.Bundle
