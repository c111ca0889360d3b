import DashcamStats.Bundle.Json

namespace DashcamStats.Bundle

structure Timing where
  count : ℤ
  maximum : ℤ
  total : ℤ

def timingFields : List String := ["count", "retained", "median_ms", "p95_ms", "max_ms", "total_ms"]

def timingBounds (fields : Members) (name : String) (count maximum total : ℤ) : Checked Unit := do
  let median ← item fields "median_ms"
  let p95 ← item fields "p95_ms"
  if count = 0 then
    refuse (maximum ≠ 0 ∨ total ≠ 0 ∨ ¬median.IsNull ∨ ¬p95.IsNull)
      s!"diagnostic poll_timing {name} empty timing is inconsistent"
  else
    let median ← present (← number median s!"{name}.median_ms" (some 0) (some maximum) false)
    let p95 ← present (← number p95 s!"{name}.p95_ms" (some 0) (some maximum) false)
    refuse (p95 < median ∨ ¬(maximum ≤ total ∧ total ≤ maximum * count))
      s!"diagnostic poll_timing {name} timing bounds are inconsistent"

-- `timing`; the count it returns, with the maximum and the total that its callers read again.
def timing (value : Json) (name : String) : Checked Timing :=
  match value with
  | .obj fields => do
    refuse (¬KeysAre fields timingFields) s!"diagnostic poll_timing {name} timing shape is invalid"
    let count ← integer (← item fields "count") s!"{name}.count" 0 1000000
    let retained ← integer (← item fields "retained") s!"{name}.retained" 0 256
    let maximum ← integer (← item fields "max_ms") s!"{name}.max_ms" 0 86400000
    let total ← integer (← item fields "total_ms") s!"{name}.total_ms" 0 1000000000000
    refuse (retained ≠ min count 256)
      s!"diagnostic poll_timing {name} retained count is inconsistent"
    timingBounds fields name count maximum total
    return { count, maximum, total }
  | _ => throw (.bundleError s!"diagnostic poll_timing {name} timing shape is invalid")

def stageNames : List String :=
  ["critical_requests", "auxiliary_requests", "quiesce_checks", "persistence", "diagnostics",
    "status_publish", "scheduler_other"]

def validateStages (work : Timing) : Members → Checked ℤ
  | [] => return 0
  | (name, value) :: rest => do
    let stage ← timing value name
    refuse (stage.count ≠ work.count) "diagnostic poll_timing stage count is inconsistent"
    refuse (work.maximum < stage.maximum ∨ work.total < stage.total)
      "diagnostic poll_timing stage exceeds cycle work"
    return stage.total + (← validateStages work rest)

def outcomeNames : List String :=
  ["successes", "missing", "malformed", "timeouts", "transport_errors", "cancelled"]

def pidFields : List String :=
  outcomeNames ++ ["pid", "attempts", "cooldown_skips", "request_ms", "value_age_at_row_ms"]

def pidCount (row : Members) (name : String) : Checked ℤ := do
  integer (← item row name) s!"poll_timing.pid.{name}" 0 1000000

def validatePid (seen : List ℤ) (row : Json) : Checked ℤ :=
  match row with
  | .obj row => do
    refuse (¬KeysAre row pidFields) "diagnostic poll_timing PID shape is invalid"
    let pid ← integer (← item row "pid") "poll_timing.pid" 0 255
    refuse (pid ∈ seen) "diagnostic poll_timing PIDs must be unique"
    let counts ← outcomeNames.mapM (pidCount row)
    let attempts ← pidCount row "attempts"
    let _ ← pidCount row "cooldown_skips"
    refuse (counts.sum ≠ attempts) "diagnostic poll_timing PID outcomes are inconsistent"
    let request ← timing (← item row "request_ms") "request_ms"
    refuse (request.count ≠ attempts) "diagnostic poll_timing request count is inconsistent"
    let ages ← timing (← item row "value_age_at_row_ms") "value_age_at_row_ms"
    refuse ((← pidCount row "successes") < ages.count)
      "diagnostic poll_timing value ages require successful reads"
    return pid
  | _ => throw (.bundleError "diagnostic poll_timing PID shape is invalid")

def validatePids : List ℤ → List Json → Checked Unit
  | _, [] => return
  | seen, row :: rest => do
    let pid ← validatePid seen row
    validatePids (pid :: seen) rest

def pollTimingFields (version : ℤ) : List String :=
  ["schema_version", "window_index", "window_start_elapsed_ms", "window_duration_ms",
    "flush_reason", "target_cycle_ms", "cycles_started", "cycles_completed", "overrun_count",
    "cycle_work_ms", "cycle_start_interval_ms", "pids"] ++
  if version = 2 then ["cycle_stages_ms"] else []

def validateCycleStages (payload : Members) (work : Timing) : Checked Unit := do
  match ← item payload "cycle_stages_ms" with
  | .obj stages =>
    refuse (¬KeysAre stages stageNames) "diagnostic poll_timing stage names are invalid"
    let total ← validateStages work stages
    refuse (min total 1000000000000 ≠ work.total)
      "diagnostic poll_timing stages do not account for cycle work"
  | _ => throw (.bundleError "diagnostic poll_timing stage names are invalid")

def validatePidList (payload : Members) : Checked Unit := do
  match ← item payload "pids" with
  | .arr pids =>
    refuse (18 < pids.length) "diagnostic poll_timing PID list exceeds its bound"
    validatePids [] pids
  | _ => throw (.bundleError "diagnostic poll_timing PID list exceeds its bound")

def flushReasons : List String := ["periodic", "drive_end", "partial_failure"]

def validatePollTiming (payload : Members) (targetCycleMs : ℤ) : Checked Unit := do
  let version ← integer (itemOrNull payload "schema_version") "poll_timing.schema_version" 1 2
  refuse (¬KeysAre payload (pollTimingFields version))
    "diagnostic poll_timing fields do not match their version"
  let _ ← integer (← item payload "target_cycle_ms") "poll_timing.target_cycle_ms"
    targetCycleMs targetCycleMs
  refuse (¬(← item payload "flush_reason").IsOneOf flushReasons)
    "diagnostic poll_timing flush reason is invalid"
  let _ ← integer (← item payload "window_index") "poll_timing.window_index" 0 1000000
  let started ← integer (← item payload "cycles_started") "poll_timing.cycles_started" 0 1000000
  let completed ← integer (← item payload "cycles_completed") "poll_timing.cycles_completed"
    0 1000000
  let overruns ← integer (← item payload "overrun_count") "poll_timing.overrun_count" 0 1000000
  let _ ← integer (← item payload "window_start_elapsed_ms")
    "poll_timing.window_start_elapsed_ms" 0 1000000000000
  let _ ← integer (← item payload "window_duration_ms") "poll_timing.window_duration_ms"
    0 1000000000000
  refuse (started < completed ∨ started < overruns)
    "diagnostic poll_timing cycle counts are inconsistent"
  let work ← timing (← item payload "cycle_work_ms") "cycle_work_ms"
  refuse (started < work.count) "diagnostic poll_timing cycle timing count is inconsistent"
  let intervals ← timing (← item payload "cycle_start_interval_ms") "cycle_start_interval_ms"
  refuse (started < intervals.count) "diagnostic poll_timing cycle timing count is inconsistent"
  if version = 2 then
    validateCycleStages payload work
  validatePidList payload

end DashcamStats.Bundle
