import DashcamStats.Bundle.Json
import DashcamStats.Library.Observed
import DashcamStats.Library.Table

namespace DashcamStats.Logger

open DashcamStats.Bundle (Json Members)

-- The `Long` that an integer wraps to.
def long (x : ℤ) : ℤ := x.bmod (2 ^ 64)

def coerceIn (x low high : ℤ) : ℤ := if x < low then low else if high < x then high else x

def pollTimingCountLimit : ℕ := 1000000

def pollTimingTimeLimit : ℕ := 1000000000000

def pollTimingObservationLimit : ℕ := 86400000

structure PollTimingDistribution where
  count : ℕ
  recent : List ℕ
  maximum : ℕ
  total : ℕ

namespace PollTimingDistribution

def empty : PollTimingDistribution := { count := 0, recent := [], maximum := 0, total := 0 }

def observe (d : PollTimingDistribution) (value : ℤ) : PollTimingDistribution :=
  if pollTimingCountLimit ≤ d.count then d
  else
    let bounded := (coerceIn value 0 pollTimingObservationLimit).toNat
    { count := d.count + 1
      recent := (if d.recent.length = 256 then d.recent.tail else d.recent) ++ [bounded]
      maximum := max d.maximum bounded
      total := min (d.total + bounded) pollTimingTimeLimit }

-- The median of the sorted recent values, in the arithmetic of `Double`.
def median (recent : List ℕ) : Json :=
  if recent.length = 0 then .null
  else if recent.length % 2 = 1 then
    .double (Binary64.round (Observed.ranked recent (recent.length / 2)))
  else
    let both := Observed.ranked recent (recent.length / 2 - 1) +
      Observed.ranked recent (recent.length / 2)
    .double (Binary64.round (Binary64.round both / 2))

/-- `ceil(size * 0.95) - 1`: the binary64 product of a size up to 256 and 0.95 is never above the
integer the exact product is, nor as low as the one before it. -/
def p95Index (size : ℕ) : ℕ := (size * 95 + 99) / 100 - 1

def p95 (recent : List ℕ) : Json :=
  if recent.length = 0 then .null else .int (Observed.ranked recent (p95Index recent.length))

def members (d : PollTimingDistribution) : Members :=
  [("count", .int d.count),
    ("retained", .int d.recent.length),
    ("median_ms", median d.recent),
    ("p95_ms", p95 d.recent),
    ("max_ms", .int d.maximum),
    ("total_ms", .int d.total)]

def json (d : PollTimingDistribution) : Json := .obj d.members

end PollTimingDistribution

inductive PollOutcome
  | success | missing | malformed | timeout | transportError | cancelled
  deriving DecidableEq

namespace PollOutcome

def entries : List PollOutcome := [success, missing, malformed, timeout, transportError, cancelled]

def field : PollOutcome → String
  | success => "successes"
  | missing => "missing"
  | malformed => "malformed"
  | timeout => "timeouts"
  | transportError => "transport_errors"
  | cancelled => "cancelled"

end PollOutcome

inductive PollCycleStage
  | criticalRequests | auxiliaryRequests | quiesceChecks | persistence | diagnostics
  | statusPublish | schedulerOther
  deriving DecidableEq

namespace PollCycleStage

def entries : List PollCycleStage :=
  [criticalRequests, auxiliaryRequests, quiesceChecks, persistence, diagnostics, statusPublish,
    schedulerOther]

def field : PollCycleStage → String
  | criticalRequests => "critical_requests"
  | auxiliaryRequests => "auxiliary_requests"
  | quiesceChecks => "quiesce_checks"
  | persistence => "persistence"
  | diagnostics => "diagnostics"
  | statusPublish => "status_publish"
  | schedulerOther => "scheduler_other"

end PollCycleStage

structure PidTiming where
  pid : ℤ
  outcomes : PollOutcome → ℕ
  skips : ℕ
  requests : PollTimingDistribution
  ages : PollTimingDistribution

namespace PidTiming

def create (pid : ℤ) : PidTiming :=
  { pid, outcomes := fun _ => 0, skips := 0, requests := .empty, ages := .empty }

def members (stats : PidTiming) : Members :=
  [("pid", .int stats.pid), ("attempts", .int stats.requests.count)] ++
    PollOutcome.entries.map (fun outcome => (outcome.field, .int (stats.outcomes outcome))) ++
    [("cooldown_skips", .int stats.skips),
      ("request_ms", stats.requests.json),
      ("value_age_at_row_ms", stats.ages.json)]

def json (stats : PidTiming) : Json := .obj stats.members

end PidTiming

structure PollTiming where
  targetCycleMillis : ℤ
  highWater : ℤ
  origin : ℤ
  windowStart : ℤ
  windowIndex : ℕ
  cyclesStarted : ℕ
  cyclesCompleted : ℕ
  overruns : ℕ
  activeCycle : Option ℤ
  previousCycle : Option ℤ
  work : PollTimingDistribution
  intervals : PollTimingDistribution
  pids : Table PidTiming PidTiming.pid
  rowCompletions : List (ℤ × ℤ)
  -- What the active stages sum to; a stage that was not observed reads as zero.
  activeStages : PollCycleStage → ℤ
  stages : PollCycleStage → PollTimingDistribution

namespace PollTiming

def knownPids : List ℤ :=
  [0x01, 0x03, 0x04, 0x05, 0x06, 0x07, 0x0C, 0x0D, 0x0E, 0x0F, 0x10, 0x11, 0x13, 0x14, 0x15, 0x1C,
    0x20, 0x21]

def create (driveOriginMillis : Option ℤ) (targetCycleMillis reading : ℤ) : PollTiming :=
  let highWater := max (long reading) 0
  { targetCycleMillis
    highWater
    origin := coerceIn ((driveOriginMillis.map long).getD highWater) 0 highWater
    windowStart := highWater
    windowIndex := 0
    cyclesStarted := 0
    cyclesCompleted := 0
    overruns := 0
    activeCycle := none
    previousCycle := none
    work := .empty
    intervals := .empty
    pids := .empty
    rowCompletions := []
    activeStages := fun _ => 0
    stages := fun _ => .empty }

def now (t : PollTiming) (reading : ℤ) : PollTiming :=
  { t with highWater := max t.highWater (max (long reading) 0) }

-- `none` where the call throws, before it has changed anything.
def startCycle (t : PollTiming) (reading : ℤ) : Option PollTiming :=
  if t.activeCycle.isSome then none
  else
    let t := { t.now reading with rowCompletions := [], activeStages := fun _ => 0 }
    if pollTimingCountLimit ≤ t.cyclesStarted then some t
    else
      some
        { t with
          intervals :=
            match t.previousCycle with
            | some previous => t.intervals.observe (long (t.highWater - previous))
            | none => t.intervals
          previousCycle := some t.highWater
          activeCycle := some t.highWater
          cyclesStarted := t.cyclesStarted + 1 }

-- The loop of `finishCycle`: each stage takes what is left of the cycle, at most.
def finishStages (activeStages : PollCycleStage → ℤ) :
    List PollCycleStage → ℤ → (PollCycleStage → PollTimingDistribution) →
      ℤ × (PollCycleStage → PollTimingDistribution)
  | [], remaining, stages => (remaining, stages)
  | stage :: rest, remaining, stages =>
    let elapsed := coerceIn (activeStages stage) 0 remaining
    finishStages activeStages rest (remaining - elapsed)
      (Function.update stages stage ((stages stage).observe elapsed))

def finishCycle (t : PollTiming) (reading : ℤ) (completed : Bool) : PollTiming :=
  match t.activeCycle with
  | none => t
  | some start =>
    let t := t.now reading
    let duration := min (long (t.highWater - start)) pollTimingObservationLimit
    let finished := finishStages t.activeStages
      (PollCycleStage.entries.filter (· ≠ .schedulerOther)) duration t.stages
    { t with
      work := t.work.observe duration
      stages := Function.update finished.2 .schedulerOther
        ((finished.2 .schedulerOther).observe finished.1)
      cyclesCompleted := if completed then t.cyclesCompleted + 1 else t.cyclesCompleted
      overruns := if t.targetCycleMillis < duration then t.overruns + 1 else t.overruns
      activeCycle := none
      activeStages := fun _ => 0 }

def observeStage (t : PollTiming) (stage : PollCycleStage) (startedAt reading : ℤ) :
    Option PollTiming :=
  if stage = .schedulerOther then none
  else if t.activeCycle.isNone then some t
  else
    let t := t.now reading
    let elapsed := coerceIn (long (t.highWater - startedAt)) 0 pollTimingObservationLimit
    some
      { t with
        activeStages := Function.update t.activeStages stage
          (min (t.activeStages stage + elapsed) pollTimingObservationLimit) }

-- `pids.getOrPut(pid) { PidTiming() }`
def stats (t : PollTiming) (pid : ℤ) : PidTiming := (t.pids.find? pid).getD (.create pid)

def recordRequest (t : PollTiming) (pid startedAt reading : ℤ) (outcome : PollOutcome) :
    PollTiming :=
  if pid ∈ knownPids then
    let stats := t.stats pid
    let t := t.now reading
    if pollTimingCountLimit ≤ stats.requests.count then { t with pids := t.pids.put stats }
    else
      { t with
        pids := t.pids.put
          { stats with
            requests := stats.requests.observe (long (t.highWater - startedAt))
            outcomes := Function.update stats.outcomes outcome (stats.outcomes outcome + 1) }
        rowCompletions :=
          if outcome = .success then
            t.rowCompletions.filter (·.1 ≠ pid) ++ [(pid, t.highWater)]
          else t.rowCompletions }
  else t

def cooldownSkip (t : PollTiming) (pid : ℤ) : PollTiming :=
  if pid ∈ knownPids then
    let stats := t.stats pid
    { t with pids := t.pids.put { stats with skips := min (stats.skips + 1) pollTimingCountLimit } }
  else t

-- The default of `at` is the clock, which is then read.
def takeRowAges (t : PollTiming) (moment : Option ℤ) (reading : ℤ) :
    PollTiming × List (ℤ × ℤ) :=
  match moment with
  | some moment =>
    ({ t with rowCompletions := [] },
      t.rowCompletions.map fun entry => (entry.1, long (moment - entry.2)))
  | none =>
    let t := t.now reading
    ({ t with rowCompletions := [] },
      t.rowCompletions.map fun entry => (entry.1, long (t.highWater - entry.2)))

def rowPersistedOne (t : PollTiming) (entry : ℤ × ℤ) : PollTiming :=
  match t.pids.find? entry.1 with
  | none => t
  | some stats =>
    if stats.ages.count < stats.outcomes .success then
      { t with pids := t.pids.put { stats with ages := stats.ages.observe entry.2 } }
    else t

def rowPersisted (t : PollTiming) (ages : List (ℤ × ℤ)) : PollTiming :=
  ages.foldl rowPersistedOne t

def stagesJson (stages : PollCycleStage → PollTimingDistribution) : Members :=
  PollCycleStage.entries.map fun stage => (stage.field, (stages stage).json)

-- `pids.toSortedMap()`
def sortedPids (t : PollTiming) : List PidTiming :=
  t.pids.rows.insertionSort fun a b => a.pid ≤ b.pid

def document (t : PollTiming) (reason : String) : Members :=
  [("schema_version", .int 2),
    ("window_index", .int t.windowIndex),
    ("window_start_elapsed_ms", .int (min (t.windowStart - t.origin) pollTimingTimeLimit)),
    ("window_duration_ms", .int (min (t.highWater - t.windowStart) pollTimingTimeLimit)),
    ("flush_reason", .str reason),
    ("target_cycle_ms", .int t.targetCycleMillis),
    ("cycles_started", .int t.cyclesStarted),
    ("cycles_completed", .int t.cyclesCompleted),
    ("overrun_count", .int t.overruns),
    ("cycle_work_ms", t.work.json),
    ("cycle_start_interval_ms", t.intervals.json),
    ("cycle_stages_ms", .obj (stagesJson t.stages)),
    ("pids", .arr (t.sortedPids.map PidTiming.json))]

-- What `drain` starts the next window from.
def nextWindow (t : PollTiming) : PollTiming :=
  { t with
    windowIndex := min (t.windowIndex + 1) pollTimingCountLimit
    windowStart := t.highWater
    cyclesStarted := 0
    cyclesCompleted := 0
    overruns := 0
    work := .empty
    intervals := .empty
    stages := fun _ => .empty
    pids := .empty
    rowCompletions := [] }

-- `none` where the call throws; else the state after it and the document, if there is one.
def drain (t : PollTiming) (reason : String) (reading : ℤ) :
    Option (PollTiming × Option Members) :=
  if reason ∉ ["periodic", "drive_end", "partial_failure"] then none
  else if t.activeCycle.isSome then none
  else
    let t := t.now reading
    if reason = "periodic" ∧ 64 ≤ t.windowIndex then some (t, none)
    else if reason = "periodic" ∧ t.highWater - t.windowStart < 60000 then some (t, none)
    else if t.cyclesStarted = 0 ∧ t.pids.rows = [] then some (t, none)
    else some (t.nextWindow, some (t.document reason))

inductive Call
  | now (reading : ℤ)
  | startCycle (reading : ℤ)
  | finishCycle (reading : ℤ) (completed : Bool)
  | observeStage (stage : PollCycleStage) (startedAt reading : ℤ)
  | recordRequest (pid startedAt reading : ℤ) (outcome : PollOutcome)
  | cooldownSkip (pid : ℤ)
  | takeRowAges (moment : Option ℤ) (reading : ℤ)
  | rowPersisted (ages : List (ℤ × ℤ))
  | drain (reason : String) (reading : ℤ)

def step (t : PollTiming) : Call → PollTiming × Option Members
  | .now reading => (t.now reading, none)
  | .startCycle reading => ((t.startCycle reading).getD t, none)
  | .finishCycle reading completed => (t.finishCycle reading completed, none)
  | .observeStage stage startedAt reading => ((t.observeStage stage startedAt reading).getD t, none)
  | .recordRequest pid startedAt reading outcome =>
    (t.recordRequest pid startedAt reading outcome, none)
  | .cooldownSkip pid => (t.cooldownSkip pid, none)
  | .takeRowAges moment reading => ((t.takeRowAges moment reading).1, none)
  | .rowPersisted ages => (t.rowPersisted ages, none)
  | .drain reason reading => (t.drain reason reading).getD (t, none)

def documents : PollTiming → List Call → List Members
  | _, [] => []
  | t, call :: calls => (t.step call).2.toList ++ documents (t.step call).1 calls

end PollTiming

end DashcamStats.Logger
