import Mathlib.Algebra.Order.Ring.Unbundled.Rat

namespace DashcamStats.Scheduling

def SETTLING_SCAN_LIMIT : ℕ := 3

def SETTLING_SCAN_MIN_DELAY_S : ℚ := 30

def INGEST_SCAN_DEBOUNCE_S : ℚ := 2

inductive Trigger where
  | scheduled
  | ingest
  | manual
  | followUp (generation : ℕ)
  deriving DecidableEq

structure Walk where
  trigger : Trigger
  ingestGeneration : ℕ
  deriving DecidableEq

inductive LoopPhase where
  | idle
  | walking
  | resting (trigger : Trigger)
  deriving DecidableEq

/-- `covered` is the last notification that came before the beginning of a walk which has completed,
and `followUps` counts those since the last other walk. -/
structure Scheduler where
  ingestScanDueAt : Option ℚ
  ingestScanGeneration : ℕ
  settlingScanDueAt : Option ℚ
  settlingScanRemaining : ℕ
  settlingScanGeneration : ℕ
  walk : Option Walk
  loop : LoopPhase
  covered : ℕ
  followUps : ℕ
  deriving DecidableEq

structure ScanSummary where
  unsettled : ℕ
  errors : ℕ
  errorMessage : Bool

structure Settings where
  scanEnabled : Bool
  autoProcess : Bool
  settleSeconds : ℚ

namespace Scheduler

def fresh : Scheduler := ⟨none, 0, none, 0, 0, none, .idle, 0, 0⟩

def requestIngestScan (now : ℚ) (s : Scheduler) : Scheduler :=
  let due := now + INGEST_SCAN_DEBOUNCE_S
  { s with
    ingestScanGeneration := s.ingestScanGeneration + 1
    ingestScanDueAt := some (s.ingestScanDueAt.elim due (min · due)) }

-- `Scanner.scan` up to its walk, where it does not raise `AlreadyScanning`
def scan (trigger : Trigger) (s : Scheduler) : Option Scheduler :=
  if s.walk ≠ none then none
  else some { s with
    walk := some ⟨trigger, s.ingestScanGeneration⟩
    followUps := match trigger with
      | .followUp _ => s.followUps + 1
      | _ => s.followUps }

def runDueIngestScan (moment : ℚ) (settings : Settings) (s : Scheduler) : Scheduler :=
  if s.ingestScanDueAt.all (moment < ·) then s
  else
    let consumed := { s with ingestScanDueAt := none }
    if !settings.scanEnabled then consumed
    else match consumed.scan .ingest with
      | some walking => { walking with loop := .walking }
      | none => consumed

def abandon (generation : ℕ) (s : Scheduler) : Scheduler :=
  if generation = s.settlingScanGeneration then
    { s with settlingScanDueAt := none, settlingScanRemaining := 0 }
  else s

def runDueSettlingScan (moment : ℚ) (settings : Settings) (s : Scheduler) : Scheduler :=
  if s.settlingScanDueAt.all (moment < ·) then s
  else
    let consumed := { s with settlingScanDueAt := none }
    if !settings.scanEnabled || !settings.autoProcess || s.settlingScanRemaining = 0 then
      { consumed with settlingScanRemaining := 0 }
    else
      let counted := { consumed with settlingScanRemaining := s.settlingScanRemaining - 1 }
      match counted.scan (.followUp s.settlingScanGeneration) with
      | some walking => { walking with loop := .walking }
      | none => counted.abandon s.settlingScanGeneration

def scheduleSettlingScan (summary : ScanSummary) (settings : Settings) (now : ℚ) (generation : ℕ)
    (earlierDue : Option ℚ) (s : Scheduler) : Scheduler :=
  if generation ≠ s.settlingScanGeneration then s
  else if !settings.scanEnabled || !settings.autoProcess || summary.unsettled = 0 ||
      summary.errors ≠ 0 || summary.errorMessage || s.settlingScanRemaining = 0 then
    { s with settlingScanDueAt := none, settlingScanRemaining := 0 }
  else
    let due := now + max SETTLING_SCAN_MIN_DELAY_S settings.settleSeconds
    { s with settlingScanDueAt := some (earlierDue.elim due (min · due)) }

def hear (walk : Walk) (s : Scheduler) : Scheduler :=
  if walk.ingestGeneration = s.ingestScanGeneration then { s with ingestScanDueAt := none } else s

def restart (s : Scheduler) : Scheduler :=
  { s with
    settlingScanGeneration := s.settlingScanGeneration + 1
    settlingScanRemaining := SETTLING_SCAN_LIMIT
    settlingScanDueAt := none
    followUps := 0 }

-- `_scan_with_followup` from the end of the walk on
def afterWalk (walk : Walk) (summary : ScanSummary) (settings : Settings) (now : ℚ)
    (s : Scheduler) : Scheduler :=
  let heard := hear walk { s with walk := none, covered := max s.covered walk.ingestGeneration }
  match walk.trigger with
  | .followUp generation => heard.scheduleSettlingScan summary settings now generation none
  | trigger =>
    let earlierDue := if trigger = .manual then heard.settlingScanDueAt else none
    heard.restart.scheduleSettlingScan summary settings now (heard.settlingScanGeneration + 1)
      earlierDue

end Scheduler

inductive Event where
  | request (now : ℚ)
  | ingestTick (moment : ℚ) (settings : Settings)
  | settlingTick (moment : ℚ) (settings : Settings)
  | scheduledScan
  | manualScan
  -- A walk ends.
  | walked (summary : ScanSummary) (settings : Settings) (now : ℚ)
  -- What the loop does after a walk of its own ends, or fails.
  | rested (failed : Bool)

namespace Scheduler

def step (event : Event) (s : Scheduler) : Option Scheduler :=
  match event with
  | .request now => some (s.requestIngestScan now)
  | .ingestTick moment settings =>
    if s.loop = .idle then some (s.runDueIngestScan moment settings) else none
  | .settlingTick moment settings =>
    if s.loop = .idle then some (s.runDueSettlingScan moment settings) else none
  | .scheduledScan =>
    if s.loop = .idle then (s.scan .scheduled).map fun walking => { walking with loop := .walking }
    else none
  | .manualScan => s.scan .manual
  | .walked summary settings now =>
    s.walk.map fun walk =>
      let after := s.afterWalk walk summary settings now
      if walk.trigger = .manual then after else { after with loop := .resting walk.trigger }
  | .rested failed =>
    match s.loop with
    | .resting trigger =>
      let rested := { s with loop := .idle }
      match trigger, failed with
      | .followUp generation, true => some (rested.abandon generation)
      | _, _ => some rested
    | _ => none

def Covering (s : Scheduler) : Prop :=
  ∀ walk ∈ s.walk, walk.ingestGeneration = s.ingestScanGeneration

end Scheduler

def Event.Enabled : Event → Prop
  | .ingestTick _ settings | .settlingTick _ settings | .walked _ settings _ =>
    settings.scanEnabled = true
  | _ => True

def Event.Timely (s : Scheduler) : Event → Prop
  | .ingestTick moment _ => s.ingestScanDueAt.all (moment < ·) = true ∨ s.Covering
  | _ => True

def Step (s s' : Scheduler) : Prop := ∃ event : Event, event.Enabled ∧ s.step event = some s'

def TimelyStep (s s' : Scheduler) : Prop :=
  ∃ event : Event, event.Enabled ∧ event.Timely s ∧ s.step event = some s'

/-- Nothing is pending or in progress without a walk for the last notification, and the chains of
follow-ups are bounded. -/
structure Scheduler.Notified (s : Scheduler) : Prop where
  walked : s.walk = none → s.ingestScanDueAt = none → s.ingestScanGeneration ≤ s.covered
  bounded : s.followUps ≤ SETTLING_SCAN_LIMIT

end DashcamStats.Scheduling
