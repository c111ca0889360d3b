import DashcamStats.Bundle.Json
import DashcamStats.Bundle.Model

namespace DashcamStats.Obd

open Bundle

def responseAgesKey : String := "pid_response_age_ms"

def hexDigits : List Char := "0123456789ABCDEF".toList

-- `f"{pid:02X}"` of a byte.
def hex2 (pid : ℕ) : String :=
  String.ofList [hexDigits.getD (pid / 16) '0', hexDigits.getD (pid % 16) '0']

def nominalCycleS (plan : Option ℤ) : ℚ := if plan = some 8 then 3 else 5

def mafCadenceS (plan : Option ℤ) : ℚ := if plan = some 8 then 3 else 15

def hasResponseTimes : Json → Bool
  | .obj quality => responseAgesKey ∈ memberNames quality
  | _ => false

-- The age that the map gives a PID; `none` unless it is an integer of at most a minute.
def responseAge (ages : Json) (pid : ℕ) : Option ℤ :=
  match ages with
  | .obj ages =>
    match itemOrNull ages (hex2 pid) with
    | .int age => if 0 ≤ age ∧ age ≤ 60000 then some age else none
    | _ => none
  | _ => none

-- The time at which the value of a PID was read; `none` where it is not known.
def responseTime (capturedAt : Time) (quality : Json) (pid : ℕ) (requireTiming : Bool) :
    Option Time :=
  match quality with
  | .obj fields =>
    if responseAgesKey ∈ memberNames fields then
      (responseAge (itemOrNull fields responseAgesKey) pid).map fun age => capturedAt - 1000 * age
    else if requireTiming then none else some capturedAt
  | _ => if requireTiming then none else some capturedAt

-- `quality.get("transport", "ok") == "ok"`
def transportIsOk (quality : Members) : Bool :=
  (quality.lookup "transport").all fun transport => transport.asString = some "ok"

def rowIsLive (status : Option String) (quality : Json) : Bool :=
  status = some "live" && match quality with
    | .obj fields => transportIsOk fields
    | _ => true

def pidIsMissing (quality : Json) (pid : ℕ) : Bool :=
  match quality with
  | .obj fields =>
    match itemOrNull fields "missing_pids" with
    | .arr missing => missing.any fun other => other.asNumber = some (pid : ℚ)
    | _ => false
  | _ => false

def totalSeconds (rnd : ℚ → ℚ) (delta : Time) : ℚ := rnd (delta / 1000000)

structure Observation where
  drive : Option String
  sequence : Option ℤ
  capturedAt : Time
  speed : Option ℚ
  rpm : Option ℚ
  estimatedRate : Option ℚ
  status : Option String
  quality : Json

/-- What `MotionAccumulator` keeps of a row. -/
structure MotionRow where
  drive : Option String
  sequence : Option ℤ
  rowAt : Time
  speedAt : Option Time
  speed : Option ℚ
  rpm : Option ℚ
  timed : Bool
  live : Bool

structure MotionAccumulator where
  cycleS : ℚ
  requireTiming : Bool
  distanceKm : ℚ := 0
  distanceIntervals : ℕ := 0
  idleS : ℚ := 0
  idleEvidence : Bool := false
  previous : Option MotionRow := none

def motionRow (requireTiming : Bool) (o : Observation) : MotionRow :=
  let timed := hasResponseTimes o.quality || requireTiming
  let live := rowIsLive o.status o.quality
  let speedAt :=
    if o.speed.isSome || !timed then responseTime o.capturedAt o.quality 0x0D requireTiming
    else none
  let rpmAt :=
    if o.rpm.isSome then responseTime o.capturedAt o.quality 0x0C requireTiming else none
  { drive := o.drive
    sequence := o.sequence
    rowAt := o.capturedAt
    speedAt := if timed && (!live || pidIsMissing o.quality 0x0D) then none else speedAt
    speed := o.speed
    rpm :=
      if timed && (!live || rpmAt.isNone || pidIsMissing o.quality 0x0C) then none else o.rpm
    timed
    live }

def continuousRows (rnd : ℚ → ℚ) (cycleS : ℚ) (prev row : MotionRow) : Bool :=
  let rowGap := totalSeconds rnd (row.rowAt - prev.rowAt)
  (!row.timed && !prev.timed) ||
    (row.timed && prev.timed && row.live && prev.live && row.drive = prev.drive &&
      prev.sequence.isSome && row.sequence = prev.sequence.map (· + 1) &&
      0 < rowGap && rowGap ≤ rnd (cycleS * (3 / 2)))

-- `(now - before).total_seconds()` where both are known, else 0.
def secondsBetween (rnd : ℚ → ℚ) (before now : Option Time) : ℚ :=
  match before, now with
  | some before, some now => totalSeconds rnd (now - before)
  | _, _ => 0

-- `(prev_speed + speed) / 2 * gap / 3600`
def distanceOver (rnd : ℚ → ℚ) (prevSpeed speed gap : ℚ) : ℚ :=
  rnd (rnd (rnd (rnd (prevSpeed + speed) / 2) * gap) / 3600)

namespace MotionAccumulator

variable (rnd : ℚ → ℚ) (acc : MotionAccumulator)

def addDistance (prev row : MotionRow) (gap : ℚ) : MotionAccumulator :=
  match prev.speed, row.speed with
  | some before, some speed =>
    { acc with
      distanceKm := rnd (acc.distanceKm + distanceOver rnd before speed gap)
      distanceIntervals := acc.distanceIntervals + 1 }
  | _, _ => acc

def addIdle (prev : MotionRow) (gap : ℚ) : MotionAccumulator :=
  match prev.rpm, prev.speed with
  | some rpm, some speed =>
    { acc with
      idleEvidence := true
      idleS := if 300 < rpm ∧ speed < 1 then rnd (acc.idleS + gap) else acc.idleS }
  | _, _ => acc

def join (row prev : MotionRow) : MotionAccumulator :=
  let gap := secondsBetween rnd prev.speedAt row.speedAt
  let limit := rnd (acc.cycleS * if row.timed then 3 / 2 else 3)
  if continuousRows rnd acc.cycleS prev row ∧ 0 < gap ∧ gap ≤ limit then
    (acc.addDistance rnd prev row gap).addIdle rnd prev gap
  else acc

def observe (o : Observation) : MotionAccumulator :=
  let row := motionRow acc.requireTiming o
  { (acc.previous.elim acc (acc.join rnd row)) with previous := some row }

end MotionAccumulator

end DashcamStats.Obd
