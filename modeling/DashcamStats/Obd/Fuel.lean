import DashcamStats.Obd.Timing

namespace DashcamStats.Obd

open Bundle

structure EstimatedFuelAccumulator where
  nominalCycleS : ℚ
  mafCadenceS : ℚ
  requireTiming : Bool
  litres : ℚ := 0
  hasEvidence : Bool := false
  previousAt : Option Time := none
  previousSequence : Option ℤ := none
  previousDrive : Option String := none
  rateAt : Option Time := none
  rate : Option ℚ := none
  previousEffectiveAt : Option Time := none
  previousTimed : Option Bool := none

def fuelInvalid (o : Observation) : Bool :=
  o.status ≠ some "live" ||
    (match o.quality with
      | .obj fields => !transportIsOk fields
      | _ => false) ||
    pidIsMissing o.quality 0x10 ||
    o.estimatedRate.any (· < 0)

-- `isinstance(quality.get(RESPONSE_AGES_KEY), dict)`
def hasAgeMap : Json → Bool
  | .obj fields =>
    match itemOrNull fields responseAgesKey with
    | .obj _ => true
    | _ => false
  | _ => false

namespace EstimatedFuelAccumulator

variable (rnd : ℚ → ℚ) (acc : EstimatedFuelAccumulator) (o : Observation)

def interval : ℚ := secondsBetween rnd acc.previousAt (some o.capturedAt)

def contiguous : Bool :=
  0 < acc.interval rnd o && acc.interval rnd o ≤ rnd (acc.nominalCycleS * (3 / 2)) &&
    acc.previousDrive = o.drive && acc.previousSequence.isSome &&
    o.sequence = acc.previousSequence.map (· + 1)

def clearRate : EstimatedFuelAccumulator := { acc with rate := none, rateAt := none }

def burn (interval hold ageAtStart rate : ℚ) : EstimatedFuelAccumulator :=
  let covered := min interval (max 0 (rnd (hold - ageAtStart)))
  if 0 < covered then
    { acc with
      hasEvidence := true
      litres := rnd (acc.litres + rnd (rnd (rate * covered) / 3600)) }
  else acc

def burnFrom (since : Option Time) (interval hold : ℚ) : EstimatedFuelAccumulator :=
  match acc.rate, acc.rateAt with
  | some rate, some rateAt =>
    acc.burn rnd interval hold (secondsBetween rnd (some rateAt) since) rate
  | _, _ => acc

def keepRate (invalid : Bool) (since : Option Time) : EstimatedFuelAccumulator :=
  match o.estimatedRate with
  | some rate => if invalid then acc else { acc with rate := some rate, rateAt := since }
  | none => acc

def observeTimed : EstimatedFuelAccumulator :=
  let effectiveAt := match o.estimatedRate with
    | some _ => responseTime o.capturedAt o.quality 0x10 acc.requireTiming
    | none => some o.capturedAt
  let contiguous := acc.contiguous rnd o && acc.previousTimed ≠ some false
  let effectiveInterval := secondsBetween rnd acc.previousEffectiveAt effectiveAt
  let reversed := acc.previousEffectiveAt.isSome && effectiveInterval ≤ 0
  let invalid := fuelInvalid o || !hasAgeMap o.quality || effectiveAt.isNone || reversed
  let effectiveAt := if reversed then some o.capturedAt else effectiveAt
  let burned :=
    if invalid || !contiguous || effectiveInterval ≤ 0 then acc.clearRate
    else acc.burnFrom rnd acc.previousEffectiveAt effectiveInterval (rnd (acc.mafCadenceS * (3 / 2)))
  { (burned.keepRate o invalid effectiveAt) with
    previousEffectiveAt := effectiveAt
    previousTimed := some true
    previousAt := some o.capturedAt
    previousSequence := o.sequence
    previousDrive := o.drive }

def observeUntimed : EstimatedFuelAccumulator :=
  let contiguous := acc.contiguous rnd o && acc.previousTimed ≠ some true
  let invalid := fuelInvalid o
  let burned :=
    if invalid || !contiguous then acc.clearRate
    else
      acc.burnFrom rnd acc.previousAt (acc.interval rnd o)
        (rnd (rnd (acc.nominalCycleS * 3) * (3 / 2)))
  { (burned.keepRate o invalid (some o.capturedAt)) with
    previousAt := some o.capturedAt
    previousSequence := o.sequence
    previousDrive := o.drive
    previousEffectiveAt := some o.capturedAt
    previousTimed := some false }

def observe : EstimatedFuelAccumulator :=
  if hasResponseTimes o.quality || acc.requireTiming then acc.observeTimed rnd o
  else acc.observeUntimed rnd o

end EstimatedFuelAccumulator

end DashcamStats.Obd
