import Mathlib.Data.List.Sort
import DashcamStats.Library.Binary64

namespace DashcamStats.Clips

inductive ObservationKind
  | acc | obd | gps
  deriving DecidableEq, Repr

structure MotionObservation where
  wallMs : ℤ
  elapsedMs : ℤ
  sessionId : String
  segmentId : String
  kind : ObservationKind
  acc : Option Bool
  speed : Option ℚ
  accuracy : Option ℚ
  ageMs : Option ℤ
  horizontalAccuracy : Option ℚ
  timezone : String
  deriving DecidableEq

def confidentGps (value : MotionObservation) : Bool :=
  match value.speed, value.accuracy, value.ageMs, value.horizontalAccuracy with
  | some speed, some accuracy, some age, some horizontal =>
    decide (value.kind = .gps ∧ 0 ≤ age ∧ age ≤ 5000 ∧ 0 ≤ horizontal ∧ horizontal ≤ 15 ∧
      0 ≤ accuracy ∧ accuracy ≤ 2 ∧
      3 / 2 < Binary64.round (speed - Binary64.round (2 * accuracy)))
  | _, _, _, _ => false

/-- The report of `ParkedGuard.assess`. -/
structure GuardProof where
  startUtc : Option ℤ
  endUtc : Option ℤ
  windowMs : ℤ
  accOffMs : ℤ
  unknownMs : ℤ
  maxGapMs : ℤ
  observationCount : ℕ
  onSamples : ℕ
  unknownSamples : ℕ
  segmentCount : ℕ
  positiveSpeedSamples : ℕ
  deriving DecidableEq

namespace ParkedGuard

structure Tally where
  off : ℤ
  through : ℤ
  maxGap : ℤ
  segments : Finset (String × String)

def tally (lower upper : ℤ) (healthy : Bool) (timezone : String) (t : Tally)
    (pair : MotionObservation × MotionObservation) : Tally :=
  let (a, b) := pair
  let lo := max lower a.wallMs
  let hi := min upper b.wallMs
  if hi ≤ lo then t
  else
    let segments := insert (b.sessionId, b.segmentId) (insert (a.sessionId, a.segmentId) t.segments)
    let elapsed := b.elapsedMs - a.elapsedMs
    let gap := if t.through < lo then max t.maxGap (lo - t.through) else t.maxGap
    let safe := healthy ∧ a.acc = some false ∧ b.acc = some false ∧
      a.sessionId = b.sessionId ∧ a.segmentId = b.segmentId ∧
      a.timezone = timezone ∧ b.timezone = timezone ∧ 1 ≤ elapsed ∧ elapsed ≤ 7500 ∧
      |elapsed - (b.wallMs - a.wallMs)| ≤ 2000
    if safe then
      { off := t.off + max (hi - max t.through lo) 0
        through := max t.through hi
        maxGap := max gap (max elapsed 0)
        segments := segments }
    else { t with maxGap := max (max gap (hi - lo)) (max elapsed 0), segments := segments }

def assess (start stop : Option ℤ) (values : List MotionObservation) (healthy : Bool)
    (timezone : String) : GuardProof :=
  let bounds : Option (ℤ × ℤ) :=
    match start, stop with
    | some s, some e => if s < e ∧ e - s ≤ 86400000 then some (s, e) else none
    | _, _ => none
  let lower := start.getD 0
  let upper := (bounds.map Prod.snd).getD lower
  let window := upper - lower
  let relevant := values.filter fun v => lower ≤ v.wallMs ∧ v.wallMs ≤ upper
  let acc := (values.filter fun v => v.kind = .acc).insertionSort fun a b => a.wallMs ≤ b.wallMs
  let t := (acc.zip acc.tail).foldl (tally lower upper healthy timezone)
    { off := 0, through := lower, maxGap := 0, segments := ∅ }
  let segments := t.segments ∪ (relevant.map fun v => (v.sessionId, v.segmentId)).toFinset
  { startUtc := bounds.map Prod.fst
    endUtc := bounds.map Prod.snd
    windowMs := window
    accOffMs := min t.off window
    unknownMs := max 0 (min (window - t.off) window)
    maxGapMs := max 0 (min (max t.maxGap (upper - t.through)) 86400000)
    observationCount := relevant.countP fun v => v.kind = .acc
    onSamples := relevant.countP fun v => v.kind = .acc ∧ v.acc = some true
    unknownSamples := relevant.countP fun v =>
      (v.kind = .acc ∧ v.acc = none) ∨ v.timezone ≠ timezone
    segmentCount := segments.card
    positiveSpeedSamples := (relevant.countP fun v => v.kind = .obd ∧ 0 < v.speed.getD 0) +
      relevant.countP fun v => confidentGps v }

def valid (proof : GuardProof) : Bool :=
  decide (0 < proof.windowMs ∧ proof.accOffMs = proof.windowMs ∧ proof.unknownMs = 0 ∧
    proof.maxGapMs ≤ 7500 ∧ 2 ≤ proof.observationCount ∧ proof.onSamples = 0 ∧
    proof.unknownSamples = 0 ∧ proof.segmentCount = 1 ∧ proof.positiveSpeedSamples = 0)

end ParkedGuard

inductive VisualStatus
  | notAnalyzed | quiet | activity | unavailable | error | incomplete
  deriving DecidableEq, Repr

/-- The record of `VisualQuietAnalyzer` about one clip, as far as it is read again. -/
structure VisualProof where
  algorithmVersion : ℕ
  status : VisualStatus
  reason : Option String
  inputEos : Bool
  decoderEos : Bool
  firstPtsUs : Option ℤ
  lastPtsUs : Option ℤ
  inputFrames : ℕ
  decodedFrames : ℕ
  sampledFrames : ℕ
  durationMs : ℤ
  coveredMs : ℤ
  maxGapMs : ℤ
  motionFrames : ℕ
  maxCoherentPixels : ℕ
  maxRollingCoherentPixels : ℕ
  maxConsecutiveCoherentFrames : ℕ
  motionMetric : String
  rollingFrames : ℕ
  roiProfile : String
  roiRows : ℕ
  minMeanLuma : ℚ
  maxMeanLuma : ℚ
  maxDarkFraction : ℚ
  maxBrightFraction : ℚ
  minContrastSpan : ℕ
  gridWidth : ℕ
  gridHeight : ℕ
  deriving DecidableEq

def quietAlgorithmVersion : ℕ := 2

def quietMotionMetric : String := "adjacent_rolling6_coherent3x3_v1"

def quietRoiProfile : String := "dashcam_osd_bottom4_v1"

def emptyVisual (status : VisualStatus) (reason : String) : VisualProof :=
  { algorithmVersion := quietAlgorithmVersion, status := status, reason := some reason
    inputEos := false, decoderEos := false, firstPtsUs := none, lastPtsUs := none
    inputFrames := 0, decodedFrames := 0, sampledFrames := 0
    durationMs := 0, coveredMs := 0, maxGapMs := 0, motionFrames := 0
    maxCoherentPixels := 0, maxRollingCoherentPixels := 0, maxConsecutiveCoherentFrames := 0
    motionMetric := quietMotionMetric, rollingFrames := 6
    roiProfile := quietRoiProfile, roiRows := 86
    minMeanLuma := 0, maxMeanLuma := 0, maxDarkFraction := 0, maxBrightFraction := 0
    minContrastSpan := 0, gridWidth := 160, gridHeight := 90 }

def validVisual (proof : VisualProof) : Bool :=
  let first := proof.firstPtsUs.getD (-1)
  let last := proof.lastPtsUs.getD (-1)
  decide (proof.algorithmVersion = quietAlgorithmVersion ∧ proof.status = .quiet ∧
    proof.reason = none ∧ proof.inputEos ∧ proof.decoderEos ∧ 0 ≤ first ∧ first < last ∧
    proof.inputFrames = proof.decodedFrames ∧ proof.sampledFrames = proof.decodedFrames ∧
    20 ≤ proof.decodedFrames ∧ 30000 ≤ proof.durationMs ∧ proof.durationMs ≤ 120000 ∧
    |(last - first).tdiv 1000 - proof.durationMs| ≤ 150 ∧
    proof.durationMs - 150 ≤ proof.coveredMs ∧ proof.maxGapMs ≤ 150 ∧ proof.motionFrames = 0 ∧
    proof.maxCoherentPixels < 16 ∧ proof.maxRollingCoherentPixels < 128 ∧
    proof.maxConsecutiveCoherentFrames < 2 ∧ proof.motionMetric = quietMotionMetric ∧
    proof.rollingFrames = 6 ∧ proof.roiProfile = quietRoiProfile ∧ proof.roiRows = 86 ∧
    40 ≤ proof.minMeanLuma ∧ proof.maxMeanLuma ≤ 215 ∧
    proof.maxDarkFraction ≤ Binary64.round (11 / 20) ∧
    proof.maxBrightFraction ≤ Binary64.round (2 / 5) ∧ 24 ≤ proof.minContrastSpan ∧
    proof.gridWidth = 160 ∧ proof.gridHeight = 90)

theorem emptyVisual_not_valid (status : VisualStatus) (reason : String) :
    validVisual (emptyVisual status reason) = false := by
  simp [validVisual, emptyVisual]

end DashcamStats.Clips
