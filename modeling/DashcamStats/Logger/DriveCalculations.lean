import DashcamStats.Obd.Fuel

namespace DashcamStats.Logger

open Bundle

/-- A row of the logger's database. Both validators refuse a negative sequence number and a
missing PID that is not a byte. -/
structure Row where
  drive : String
  sequence : ℤ
  rowAt : ℤ
  speed : Option ℚ
  rpm : Option ℚ
  estimatedRate : Option ℚ
  status : String
  quality : Members
  sequence_nonneg : 0 ≤ sequence
  sequence_long : sequence < 2 ^ 63
  missing_bytes : ∀ missing, itemOrNull quality "missing_pids" = .arr missing →
    ∀ entry ∈ missing, ∃ pid : ℤ, entry = .int pid ∧ 0 ≤ pid ∧ pid < 256

-- `sequence + 1` on a `Long`
def nextLong (sequence : ℤ) : ℤ := (sequence + 1 + 2 ^ 63) % 2 ^ 64 - 2 ^ 63

def pidResponseAgesKey : String := "pid_response_age_ms"

def obdResponseAgeMillis (quality : Members) (pid : ℕ) : Option ℤ :=
  match itemOrNull quality pidResponseAgesKey with
  | .obj ages =>
    match itemOrNull ages (Obd.hex2 pid) with
    | .int age => if 0 ≤ age ∧ age ≤ 60000 then some age else none
    | _ => none
  | _ => none

def obdResponseTime (rowAt : ℤ) (quality : Members) (pid : ℕ) (requireTiming : Bool) : Option ℤ :=
  if pidResponseAgesKey ∉ memberNames quality then
    if requireTiming then none else some rowAt
  else (obdResponseAgeMillis quality pid).map (rowAt - ·)

-- `quality.has(PID_RESPONSE_AGES_KEY)`
def hasResponseAges (quality : Members) : Bool := pidResponseAgesKey ∈ memberNames quality

-- `quality.optString("transport", "ok") == "ok"`; no other value prints as `ok`.
def transportOk (quality : Members) : Bool :=
  match quality.lookup "transport" with
  | none => true
  | some (.str transport) => transport = "ok"
  | some _ => false

def isLive (status : String) (quality : Members) : Bool :=
  status = "live" && transportOk quality

-- `Number.intValue` of a `Long`
def intValue (n : ℤ) : ℤ := (n + 2 ^ 31) % 2 ^ 32 - 2 ^ 31

-- `optInt(index, -1)`, where `textInt` reads an integer out of a text.
def optInt (textInt : String → Option ℤ) : Json → ℤ
  | .int n => intValue n
  | .float q => max (-2 ^ 31) (min (2 ^ 31 - 1) (if 0 ≤ q then ⌊q⌋ else ⌈q⌉))
  | .infinity negative => if negative then -2 ^ 31 else 2 ^ 31 - 1
  | .str s => (textInt s).getD (-1)
  | .null | .bool _ | .arr _ | .obj _ => -1

def missingPid (textInt : String → Option ℤ) (quality : Members) (pid : ℕ) : Bool :=
  match itemOrNull quality "missing_pids" with
  | .arr missing => missing.any fun entry => optInt textInt entry = (pid : ℤ)
  | _ => false

-- `Duration.between(before, now).toMillis() / 1000.0` where both are known, else 0.
def secondsBetween (rnd : ℚ → ℚ) (before now : Option ℤ) : ℚ :=
  match before, now with
  | some before, some now => rnd (((now - before : ℤ) : ℚ) / 1000)
  | _, _ => 0

/-- `TimedMotionAccumulator.Observation` -/
structure MotionObservation where
  drive : String
  sequence : ℤ
  rowAt : ℤ
  speedAt : Option ℤ
  speed : Option ℚ
  rpm : Option ℚ
  timed : Bool
  live : Bool

structure TimedMotionAccumulator where
  nominalCycleSeconds : ℚ
  requireTiming : Bool
  distanceKm : ℚ := 0
  distanceIntervals : ℕ := 0
  idleSeconds : ℚ := 0
  idleEvidence : Bool := false
  previous : Option MotionObservation := none

def motionObservation (textInt : String → Option ℤ) (requireTiming : Bool) (row : Row) :
    MotionObservation :=
  let timed := hasResponseAges row.quality || requireTiming
  let live := isLive row.status row.quality
  let speedAt :=
    if row.speed.isSome || !timed then obdResponseTime row.rowAt row.quality 0x0D requireTiming
    else none
  let rpmAt :=
    if row.rpm.isSome then obdResponseTime row.rowAt row.quality 0x0C requireTiming else none
  { drive := row.drive
    sequence := row.sequence
    rowAt := row.rowAt
    speedAt := if timed && (!live || missingPid textInt row.quality 0x0D) then none else speedAt
    speed := row.speed
    rpm :=
      if timed && (!live || rpmAt.isNone || missingPid textInt row.quality 0x0C) then none
      else row.rpm
    timed
    live }

def contiguousRows (rnd : ℚ → ℚ) (nominalCycleSeconds : ℚ) (first row : MotionObservation) : Bool :=
  let rowGap := secondsBetween rnd (some first.rowAt) (some row.rowAt)
  (!row.timed && !first.timed) ||
    (row.timed && first.timed && row.live && first.live && row.drive = first.drive &&
      row.sequence = nextLong first.sequence && 0 < rowGap &&
      rowGap ≤ rnd (nominalCycleSeconds * (3 / 2)))

namespace TimedMotionAccumulator

variable (textInt : String → Option ℤ) (rnd : ℚ → ℚ) (acc : TimedMotionAccumulator)

def addDistance (first row : MotionObservation) (gap : ℚ) : TimedMotionAccumulator :=
  match first.speed, row.speed with
  | some before, some speed =>
    { acc with
      distanceKm :=
        rnd (acc.distanceKm + rnd (rnd (rnd (rnd (before + speed) / 2) * gap) / 3600))
      distanceIntervals := acc.distanceIntervals + 1 }
  | _, _ => acc

def addIdle (first : MotionObservation) (gap : ℚ) : TimedMotionAccumulator :=
  match first.rpm, first.speed with
  | some rpm, some speed =>
    { acc with
      idleEvidence := true
      idleSeconds :=
        if 300 < rpm ∧ speed < 1 then rnd (acc.idleSeconds + gap) else acc.idleSeconds }
  | _, _ => acc

def join (row first : MotionObservation) : TimedMotionAccumulator :=
  let gap := secondsBetween rnd first.speedAt row.speedAt
  let maximumGap := rnd (acc.nominalCycleSeconds * if row.timed then 3 / 2 else 3)
  if contiguousRows rnd acc.nominalCycleSeconds first row ∧ 0 < gap ∧ gap ≤ maximumGap then
    (acc.addDistance rnd first row gap).addIdle rnd first gap
  else acc

def observe (row : Row) : TimedMotionAccumulator :=
  let observation := motionObservation textInt acc.requireTiming row
  { (acc.previous.elim acc (acc.join rnd observation)) with previous := some observation }

end TimedMotionAccumulator

/-- The arguments of `observe`. -/
structure FuelRow where
  driveId : String
  sequence : ℤ
  capturedAt : ℤ
  estimatedRate : Option ℚ
  invalid : Bool
  responseAgeMillis : Option ℤ
  timed : Bool

structure EstimatedFuelAccumulator where
  nominalCycleSeconds : ℚ
  nominalMafSeconds : ℚ
  requireTiming : Bool
  litres : ℚ := 0
  hasEvidence : Bool := false
  previousAt : Option ℤ := none
  previousSequence : Option ℤ := none
  previousDriveId : Option String := none
  rateAt : Option ℤ := none
  rate : Option ℚ := none
  previousEffectiveAt : Option ℤ := none
  previousTimed : Option Bool := none

namespace EstimatedFuelAccumulator

variable (rnd : ℚ → ℚ) (acc : EstimatedFuelAccumulator) (row : FuelRow)

def gap : ℚ := secondsBetween rnd acc.previousAt (some row.capturedAt)

def contiguous : Bool :=
  0 < acc.gap rnd row && acc.gap rnd row ≤ rnd (acc.nominalCycleSeconds * (3 / 2)) &&
    acc.previousDriveId = some row.driveId &&
    acc.previousSequence.any fun before => row.sequence = nextLong before

def unusable : Bool :=
  row.invalid || (acc.requireTiming && !row.timed) || row.estimatedRate.any (· < 0)

-- Cover what the kept rate still holds for from `since` on, or drop the rate.
def cover (drop : Bool) (since : Option ℤ) (gap hold : ℚ) : EstimatedFuelAccumulator :=
  if drop then { acc with rate := none, rateAt := none }
  else
    match acc.rate, acc.rateAt with
    | some rate, some rateAt =>
      let ageAtStart := secondsBetween rnd (some rateAt) since
      let covered := min gap (max (rnd (hold - ageAtStart)) 0)
      if 0 < covered then
        { acc with
          hasEvidence := true
          litres := rnd (acc.litres + rnd (rnd (rate * covered) / 3600)) }
      else acc
    | _, _ => acc

def keepRate (unusable : Bool) (since : Option ℤ) : EstimatedFuelAccumulator :=
  match row.estimatedRate with
  | some rate => if unusable then acc else { acc with rate := some rate, rateAt := since }
  | none => acc

def observeTimed : EstimatedFuelAccumulator :=
  let effectiveAt := match row.estimatedRate with
    | some _ =>
      (row.responseAgeMillis.filter fun age => 0 ≤ age ∧ age ≤ 60000).map (row.capturedAt - ·)
    | none => some row.capturedAt
  let contiguous := acc.contiguous rnd row && acc.previousTimed ≠ some false
  let effectiveGap := secondsBetween rnd acc.previousEffectiveAt effectiveAt
  let reversed := acc.previousEffectiveAt.isSome && effectiveGap ≤ 0
  let unusable := acc.unusable row || effectiveAt.isNone || reversed
  let effectiveAt := if reversed then some row.capturedAt else effectiveAt
  let covered := acc.cover rnd (unusable || !contiguous || effectiveGap ≤ 0)
    acc.previousEffectiveAt effectiveGap (rnd (acc.nominalMafSeconds * (3 / 2)))
  { covered.keepRate row unusable effectiveAt with
    previousEffectiveAt := effectiveAt
    previousTimed := some true
    previousAt := some row.capturedAt
    previousSequence := some row.sequence
    previousDriveId := some row.driveId }

def observeUntimed : EstimatedFuelAccumulator :=
  let contiguous := acc.contiguous rnd row && acc.previousTimed ≠ some true
  let unusable := acc.unusable row
  let covered := acc.cover rnd (unusable || !contiguous) acc.previousAt (acc.gap rnd row)
    (rnd (rnd (acc.nominalCycleSeconds * 3) * (3 / 2)))
  { covered.keepRate row unusable (some row.capturedAt) with
    previousAt := some row.capturedAt
    previousSequence := some row.sequence
    previousDriveId := some row.driveId
    previousEffectiveAt := some row.capturedAt
    previousTimed := some false }

def observe : EstimatedFuelAccumulator :=
  if row.timed || acc.requireTiming then acc.observeTimed rnd row else acc.observeUntimed rnd row

end EstimatedFuelAccumulator

end DashcamStats.Logger
