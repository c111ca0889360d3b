import Mathlib.Algebra.Order.Field.Rat
import DashcamStats.Library.Run

namespace DashcamStats.Status

inductive Ignition where
  | on | off | unknown
deriving DecidableEq, Repr

def unitObservationTtl : ℚ := 30
def runtimeObservationTimeout : ℚ := 3
def radioQuietMinRemaining : ℚ := 60
def radioQuietObservationMargin : ℚ := unitObservationTtl + runtimeObservationTimeout
def sleepDeadlineEvidenceTtl : ℚ := 20

structure Bracket where
  offLower : ℤ
  offUpper : ℤ
  window : ℤ
deriving DecidableEq, Repr

structure SleepDeadlineEvidence where
  bootId : Option String
  bootCount : Option ℤ
  observedElapsedMs : ℤ
  ignitionOn : Bool
  bracket : Option Bracket
deriving DecidableEq, Repr

structure RuntimeObservation where
  bootId : Option String
  uptime : ℚ
  ignitionState : Ignition
  sleepWindow : Option ℤ
  bootCount : Option ℤ
  sleepDeadlineEvidence : Option SleepDeadlineEvidence
deriving DecidableEq, Repr

-- `validated_sleep_deadline`: the bracket and the elapsed time of its document.
def RuntimeObservation.validatedSleepDeadline (o : RuntimeObservation) : Option (Bracket × ℤ) :=
  match o.sleepDeadlineEvidence with
  | none => none
  | some evidence =>
    if o.ignitionState ≠ .off ∨ evidence.ignitionOn then none
    else if evidence.bootId.isSome ∧ evidence.bootId ≠ o.bootId then none
    else if evidence.bootCount.isSome ∧ evidence.bootCount ≠ o.bootCount then none
    else if 0 ≤ o.uptime * 1000 - evidence.observedElapsedMs ∧
        o.uptime * 1000 - evidence.observedElapsedMs ≤ sleepDeadlineEvidenceTtl * 1000 then
      evidence.bracket.map fun bracket => (bracket, evidence.observedElapsedMs)
    else none

structure IngestStatus where
  unitOnline : Bool
  observationFailed : Bool
  unitObserved : Option ℚ
  bootId : Option String
  bootCount : Option ℤ
  unitUptime : Option ℚ
  observedIgnitionState : Ignition
  observedWindow : Option ℤ
  observedOff : Option ℚ
  observedOffQuietWindow : Option ℤ
  unitDeadline : Option ℚ
  unitDeadlineFreshUntil : Option ℚ
  unitEdgeBounds : Option (ℤ × ℤ)
  operationalDeadline : Option ℚ
  operationalDeadlineFromUnit : Bool
  lastObservedOnUptime : Option ℚ
deriving DecidableEq, Repr

namespace IngestStatus

def new : IngestStatus where
  unitOnline := false
  observationFailed := false
  unitObserved := none
  bootId := none
  bootCount := none
  unitUptime := none
  observedIgnitionState := .unknown
  observedWindow := none
  observedOff := none
  observedOffQuietWindow := none
  unitDeadline := none
  unitDeadlineFreshUntil := none
  unitEdgeBounds := none
  operationalDeadline := none
  operationalDeadlineFromUnit := false
  lastObservedOnUptime := none

def observationFresh (s : IngestStatus) (now : ℚ) : Bool :=
  s.unitOnline && !s.observationFailed &&
    s.unitObserved.any fun observed => now - observed ≤ unitObservationTtl

def unitObservationFailed (s : IngestStatus) : IngestStatus :=
  { s with
    observationFailed := true
    unitUptime := none
    observedIgnitionState := .unknown
    observedOff := none
    observedOffQuietWindow := none
    unitDeadline := none
    unitDeadlineFreshUntil := none }

def setUnitOnline (s : IngestStatus) (online : Bool) : IngestStatus :=
  if online then { s with unitOnline := true }
  else { s.unitObservationFailed with unitOnline := false }

def unitCountdownRemaining (s : IngestStatus) (now : ℚ) : Option ℚ :=
  match s.unitDeadline, s.unitDeadlineFreshUntil with
  | some deadline, some fresh => if fresh ≤ now then none else some (max 0 (deadline - now))
  | _, _ => none

def serverCountdownRemaining (s : IngestStatus) (now : ℚ) : Option ℚ :=
  match s.observedOff, s.observedOffQuietWindow with
  | some off, some window => some (max 0 (off + window - now - radioQuietObservationMargin))
  | _, _ => none

def credibleCountdownRemaining (s : IngestStatus) (now : ℚ) : Option ℚ :=
  if !s.observationFresh now ∨ s.observedIgnitionState ≠ .off then none
  else
    let candidates := (s.unitCountdownRemaining now).toList ++ (s.serverCountdownRemaining now).toList
    let ceiling := s.operationalDeadline.map fun deadline => max 0 (deadline - now)
    (if candidates.isEmpty then [] else candidates ++ ceiling.toList).min?

def changedBoot (s : IngestStatus) (o : RuntimeObservation) : Bool :=
  decide ((s.bootId.isSome ∧ s.bootId ≠ o.bootId ∧ o.bootId.isSome) ∨
    (s.bootCount.isSome ∧ o.bootCount.isSome ∧ s.bootCount ≠ o.bootCount)) ||
  (s.bootId.isNone && s.unitUptime.any fun uptime => o.uptime + 5 < uptime)

def sameBoot (s : IngestStatus) (o : RuntimeObservation) : Bool :=
  !s.changedBoot o &&
    decide ((s.bootId.isSome ∧ s.bootId = o.bootId) ∨
      (s.bootCount.isSome ∧ s.bootCount = o.bootCount))

def clearObservedOff (s : IngestStatus) : IngestStatus :=
  { s with observedOff := none, observedOffQuietWindow := none }

def clearBoot (s : IngestStatus) : IngestStatus :=
  { s with
    operationalDeadline := none
    operationalDeadlineFromUnit := false
    unitEdgeBounds := none
    lastObservedOnUptime := none }

def publish (s : IngestStatus) (now : ℚ) (o : RuntimeObservation) : IngestStatus :=
  { s with
    unitOnline := true
    observationFailed := false
    unitObserved := some now
    bootId := o.bootId
    bootCount := o.bootCount
    unitUptime := some o.uptime
    observedIgnitionState := o.ignitionState
    observedWindow := o.sleepWindow
    unitDeadline := none
    unitDeadlineFreshUntil := none }

def pairOff (s : IngestStatus) (now : ℚ) (o : RuntimeObservation)
    (previousWindow : Option ℤ) : IngestStatus :=
  { s with
    observedOff := some now
    observedOffQuietWindow :=
      match previousWindow, o.sleepWindow with
      | some previous, some window => some (min previous window)
      | _, _ => none }

def precedesOn (s : IngestStatus) (bracket : Bracket) : Bool :=
  s.lastObservedOnUptime.any fun uptime => (bracket.offUpper : ℚ) / 1000 ≤ uptime

def nextEdge (s : IngestStatus) (bracket : Bracket) : Option IngestStatus :=
  match s.unitEdgeBounds with
  | none => some s
  | some bounds =>
    if (bracket.offLower, bracket.offUpper) = bounds then some s
    else if bounds.2 < bracket.offLower then
      some { s.clearObservedOff with
        operationalDeadline := none
        operationalDeadlineFromUnit := false }
    else none

def acceptEvidence (s : IngestStatus) (now : ℚ) (o : RuntimeObservation) (bracket : Bracket)
    (observedElapsedMs : ℤ) : IngestStatus :=
  let elapsed := o.uptime - (bracket.offLower : ℚ) / 1000
  let age := o.uptime - (observedElapsedMs : ℚ) / 1000
  { s.clearObservedOff with
    operationalDeadline := if s.operationalDeadlineFromUnit then s.operationalDeadline else none
    operationalDeadlineFromUnit := true
    unitEdgeBounds := some (bracket.offLower, bracket.offUpper)
    unitDeadline := some (now + bracket.window - elapsed - runtimeObservationTimeout)
    unitDeadlineFreshUntil := some (now + sleepDeadlineEvidenceTtl - age) }

def observeOff (s : IngestStatus) (now : ℚ) (o : RuntimeObservation) : IngestStatus :=
  match o.validatedSleepDeadline with
  | none => s
  | some (bracket, observedElapsedMs) =>
    if s.precedesOn bracket then s
    else
      match s.nextEdge bracket with
      | none => s
      | some next => next.acceptEvidence now o bracket observedElapsedMs

def observeOther (s : IngestStatus) (o : RuntimeObservation) : IngestStatus :=
  let s :=
    if o.ignitionState = .on then
      { s with lastObservedOnUptime := some (max o.uptime (s.lastObservedOnUptime.getD 0)) }
    else s
  if o.ignitionState = .on ∨ !s.operationalDeadlineFromUnit then
    { s.clearObservedOff with operationalDeadline := none, operationalDeadlineFromUnit := false }
  else s.clearObservedOff

def lowerCeiling (s : IngestStatus) (now : ℚ) : IngestStatus :=
  match s.credibleCountdownRemaining now with
  | none => s
  | some credible =>
    { s with
      operationalDeadline :=
        match s.operationalDeadline with
        | some ceiling => some (min ceiling (now + credible))
        | none => some (now + credible) }

-- `observe_unit_runtime` up to its last step.
def published (s : IngestStatus) (now : ℚ) (o : RuntimeObservation) : IngestStatus :=
  let same := s.sameBoot o
  let previousFresh := s.observationFresh now
  let kept := if !same || !previousFresh then s.clearObservedOff else s
  let known := if !same then kept.clearBoot else kept
  let current := known.publish now o
  if o.ignitionState = .off then
    let paired :=
      if same && previousFresh && s.observedIgnitionState = .on then
        current.pairOff now o s.observedWindow
      else current
    paired.observeOff now o
  else current.observeOther o

def observeUnitRuntime (s : IngestStatus) (now : ℚ) (o : RuntimeObservation) : IngestStatus :=
  (s.published now o).lowerCeiling now

def radioQuietingAllowed (s : IngestStatus) (now : ℚ) : Bool :=
  match s.credibleCountdownRemaining now with
  | some remaining => s.operationalDeadline.isSome && radioQuietMinRemaining < remaining
  | none => false

end IngestStatus

end DashcamStats.Status
