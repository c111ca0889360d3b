import DashcamStats.Clips.TransferPolicy

namespace DashcamStats.Parked

open DashcamStats.Clips (Reason Classification VisualStatus quietMotionMetric quietRoiProfile)

abbrev Verdict := Clips.Decision

def seconds (n : ℤ) : ℤ := n * 1000000

-- `timedelta.total_seconds() * 1000`
def millis (elapsed : ℤ) : ℚ :=
  Binary64.round (Binary64.round (elapsed / 1000000) * 1000)

-- `window * 0.9`
def nineTenths (window : ℤ) : ℚ := Binary64.round (window * Binary64.round (9 / 10))

inductive ClipReason
  | validatedSpeedPositive | gpsConfidentMovement | zeroSpeedSamples | accOffObserved | lockedClip
  | orphanPartial | incompleteTimeBounds | noObservationCoverage | observationGap
  | clockAmbiguous | fileUnstable | fileUnreadable | durationUnknown | reportOnly
  deriving DecidableEq, Repr

def unsafeClipReasons : List ClipReason :=
  [.lockedClip, .orphanPartial, .incompleteTimeBounds, .noObservationCoverage, .observationGap,
    .clockAmbiguous, .fileUnstable, .fileUnreadable, .durationUnknown, .validatedSpeedPositive,
    .gpsConfidentMovement]

inductive Folder
  | video | lockVideo | orphan
  deriving DecidableEq, Repr

structure ClipPath where
  folder : Folder
  stamp : List Char
  camera : Char
  deriving DecidableEq

-- The part of `_PATH` behind the folder.
def matchName (folder : Folder) (name : List Char) : Option ClipPath :=
  let stamp := name.take 14
  let rest := name.drop 14
  if stamp.length = 14 ∧ stamp.all Char.isDigit then
    if rest = "_camera_0.ts".toList then some ⟨folder, stamp, '0'⟩
    else if rest = "_camera_1.ts".toList then some ⟨folder, stamp, '1'⟩
    else none
  else none

def dropPrefix (start text : List Char) : Option (List Char) :=
  if start.isPrefixOf text then some (text.drop start.length) else none

-- `_PATH.fullmatch`
def matchPath (path : String) : Option ClipPath :=
  (dropPrefix "DCIM/Video/".toList path.toList).bind (matchName .video) <|>
    (dropPrefix "DCIM/LockVideo/".toList path.toList).bind (matchName .lockVideo) <|>
    (dropPrefix "DCIM/pre_".toList path.toList).bind (matchName .orphan)

def decimal (digits : List Char) : ℕ :=
  digits.foldl (fun n c => 10 * n + (c.toNat - '0'.toNat)) 0

def daysInMonth (year month : ℕ) : ℕ :=
  if month = 2 then
    if year % 4 = 0 ∧ (year % 100 ≠ 0 ∨ year % 400 = 0) then 29 else 28
  else if month = 4 ∨ month = 6 ∨ month = 9 ∨ month = 11 then 30 else 31

def ordinal (year month day : ℕ) : ℕ :=
  let before := year - 1
  before * 365 + before / 4 - before / 100 + before / 400 +
    ((List.range (month - 1)).map fun i => daysInMonth year (i + 1)).sum + day

-- `datetime.strptime(stamp, "%Y%m%d%H%M%S")` for fourteen digits; `none` is its `ValueError`.
def strptime (stamp : List Char) : Option ℤ :=
  let year := decimal (stamp.take 4)
  let month := decimal ((stamp.drop 4).take 2)
  let day := decimal ((stamp.drop 6).take 2)
  let hour := decimal ((stamp.drop 8).take 2)
  let minute := decimal ((stamp.drop 10).take 2)
  let second := decimal ((stamp.drop 12).take 2)
  if 1 ≤ year ∧ 1 ≤ month ∧ month ≤ 12 ∧ 1 ≤ day ∧ day ≤ daysInMonth year month ∧ hour ≤ 23 ∧
      minute ≤ 59 ∧ second ≤ 59 then
    some (seconds (((ordinal year month day * 24 + hour) * 60 + minute) * 60 + second))
  else none

structure Coverage where
  windowMs : ℤ
  accMs : ℤ
  speedMs : ℤ
  gpsMs : ℤ
  unknownMs : ℤ
  maxGapMs : ℤ
  deriving DecidableEq

structure Evidence where
  accOnMs : ℤ
  accOffMs : ℤ
  validSpeedSamples : ℤ
  movingSamples : ℤ
  maxSpeedKmh : Option ℚ
  gpsSpeedSamples : ℤ
  gpsMovingSamples : ℤ
  maxGpsSpeedMS : Option ℚ
  deriving DecidableEq

structure Clip where
  clipId : String
  relativePath : String
  cameraKey : String
  locked : Bool
  sizeBytes : ℤ
  mtimeMs : ℤ
  -- The digest; the algorithm and the sample size are fixed.
  fingerprint : Option String
  localStart : ℤ
  timezone : String
  startUtc : Option ℤ
  endUtc : Option ℤ
  durationMs : Option ℤ
  bounded : Bool
  classification : Classification
  reasons : List ClipReason
  complete : Bool
  coverage : Coverage
  evidence : Evidence
  deriving DecidableEq

structure Guard where
  startUtc : Option ℤ
  endUtc : Option ℤ
  windowMs : ℤ
  accOffMs : ℤ
  unknownMs : ℤ
  maxGapMs : ℤ
  observationCount : ℤ
  onSamples : ℤ
  unknownSamples : ℤ
  segmentCount : ℤ
  positiveSpeedSamples : ℤ
  deriving DecidableEq

structure Visual where
  algorithmVersion : ℤ
  status : VisualStatus
  reason : Option String
  inputFrames : ℤ
  decodedFrames : ℤ
  sampledFrames : ℤ
  durationMs : ℤ
  coveredMs : ℤ
  maxGapMs : ℤ
  motionFrames : ℤ
  analysisCompletedAtUtc : Option ℤ
  firstPtsUs : Option ℤ
  lastPtsUs : Option ℤ
  inputEos : Bool
  decoderEos : Bool
  gridWidth : ℤ
  gridHeight : ℤ
  maxChangedPixels : ℤ
  motionMetric : String
  rollingFrames : ℤ
  maxCoherentPixels : ℤ
  maxRollingCoherentPixels : ℤ
  maxConsecutiveCoherentFrames : ℤ
  roiProfile : String
  roiRows : ℤ
  minMeanLuma : ℚ
  maxMeanLuma : ℚ
  maxDarkFraction : ℚ
  maxBrightFraction : ℚ
  minContrastSpan : ℤ
  deriving DecidableEq

structure Decision where
  clip : Clip
  decision : Verdict
  reason : Reason
  guard : Guard
  visual : Visual
  deferUntilUtc : Option ℤ
  deriving DecidableEq

inductive ReportStatus
  | ready | directoryRequired | directoryUnavailable | storageUnavailable | scanFailed
  | drivingOrPowerUnknown | ingestionDeferred
  deriving DecidableEq, Repr

def integer (value maximum : ℤ) : Bool := decide (0 ≤ value ∧ value ≤ maximum)

def number (value maximum : ℚ) : Bool := decide (0 ≤ value ∧ value ≤ maximum)

-- `movement._validate_clip`
def validClip (clip : Clip) : Bool :=
  (match matchPath clip.relativePath with
  | none => false
  | some path =>
    decide (clip.cameraKey = "camera_" ++ String.ofList [path.camera] ∧
      clip.locked = decide (path.folder = .lockVideo)) &&
    (match strptime path.stamp with
    | none => false
    | some start => decide (start ≤ clip.localStart ∧ clip.localStart < start + seconds 1)) &&
    decide (path.folder = .orphan → clip.classification = .unknown ∧ clip.bounded = false)) &&
  clip.fingerprint.all (fun digest => digest.toList.length = 64 ∧
    digest.toList.all fun c => c.isDigit ∨ c ∈ "abcdef".toList) &&
  integer clip.sizeBytes (1024 ^ 4) && integer clip.mtimeMs 4102444800000 &&
  (match clip.startUtc, clip.endUtc with
  | some start, some stop => decide (0 < stop - start ∧ stop - start ≤ seconds 86400)
  | _, _ => true) &&
  (match clip.durationMs with
  | none => true
  | some duration => integer duration 86400000 && decide (1 ≤ duration)) &&
  decide clip.reasons.Nodup &&
  [clip.coverage.windowMs, clip.coverage.accMs, clip.coverage.speedMs, clip.coverage.gpsMs,
    clip.coverage.unknownMs, clip.coverage.maxGapMs, clip.evidence.accOnMs,
    clip.evidence.accOffMs].all (fun ms => integer ms 86400000) &&
  [clip.evidence.validSpeedSamples, clip.evidence.movingSamples, clip.evidence.gpsSpeedSamples,
    clip.evidence.gpsMovingSamples].all (fun count => integer count 1000000) &&
  clip.evidence.maxSpeedKmh.all (fun speed => number speed 255) &&
  clip.evidence.maxGpsSpeedMS.all fun speed => number speed 150

-- `_validate_decision`
def validDecision (d : Decision) : Bool :=
  validClip d.clip && decide (d.decision = .defer ↔ d.deferUntilUtc ≠ none) &&
  [d.guard.windowMs, d.guard.accOffMs, d.guard.unknownMs, d.guard.maxGapMs, d.visual.durationMs,
    d.visual.coveredMs, d.visual.maxGapMs].all (fun ms => integer ms 86400000) &&
  [d.guard.observationCount, d.guard.onSamples, d.guard.unknownSamples, d.guard.segmentCount,
    d.guard.positiveSpeedSamples, d.visual.inputFrames, d.visual.decodedFrames,
    d.visual.sampledFrames, d.visual.motionFrames, d.visual.gridWidth, d.visual.gridHeight,
    d.visual.maxChangedPixels, d.visual.rollingFrames, d.visual.maxCoherentPixels,
    d.visual.maxRollingCoherentPixels, d.visual.maxConsecutiveCoherentFrames, d.visual.roiRows,
    d.visual.minContrastSpan].all (fun count => integer count 1000000) &&
  decide (d.visual.algorithmVersion = 2 ∧ d.visual.motionMetric = quietMotionMetric ∧
    d.visual.roiProfile = quietRoiProfile) &&
  [d.visual.firstPtsUs, d.visual.lastPtsUs].all (fun pts =>
    pts.all fun pts => integer pts (2 ^ 63 - 1)) &&
  number d.visual.minMeanLuma 255 && number d.visual.maxMeanLuma 255 &&
  number d.visual.maxDarkFraction 1 && number d.visual.maxBrightFraction 1

def timelyProof (generated : ℤ) (d : Decision) : Bool :=
  let retainedProof := d.decision = .upload ∧
    (d.reason = .peerCoverageRequired ∨ d.reason = .peerAnalysisPending)
  if d.decision = .skip ∨ d.decision = .defer ∨ retainedProof then
    d.guard.endUtc.any (fun last => last ≤ generated) &&
      (if d.decision = .skip ∨ d.reason = .peerCoverageRequired then
        d.visual.analysisCompletedAtUtc.isSome else true) &&
      d.visual.analysisCompletedAtUtc.all fun completed => completed ≤ generated
  else true

/-- What the parser hands to the checks of `validate_policy_manifest`. -/
structure RawDocument where
  cardId : Option String
  generatedAtUtc : ℤ
  enabled : Bool
  status : ReportStatus
  truncated : Bool
  decisions : List Decision

structure PolicyDocument extends RawDocument where
  bounded : decisions.length ≤ 512
  valid : ∀ d ∈ decisions, validDecision d = true ∧ timelyProof generatedAtUtc d = true
  identities : (decisions.map fun d => d.clip.clipId).Nodup
  paths : (decisions.map fun d => d.clip.relativePath).Nodup

def validatePolicyManifest (doc : RawDocument) : Option PolicyDocument :=
  if bounded : doc.decisions.length ≤ 512 then
    if valid : ∀ d ∈ doc.decisions,
        validDecision d = true ∧ timelyProof doc.generatedAtUtc d = true then
      if identities : (doc.decisions.map fun d => d.clip.clipId).Nodup then
        if paths : (doc.decisions.map fun d => d.clip.relativePath).Nodup then
          some { toRawDocument := doc, bounded, valid, identities, paths }
        else none
      else none
    else none
  else none

/-- The time zones: the instant of a local time, where it is known and neither skipped nor
repeated. -/
abbrev Zones := String → ℤ → Option ℤ

-- `(?:GMT|UTC)([+-])(\d{2}):(\d{2})`, in seconds; `some none` is an offset out of range.
def fixedOffset (name : String) : Option (Option ℤ) :=
  match name.toList with
  | [a, b, c, sign, h, h', ':', m, m'] =>
    let hours := decimal [h, h']
    let minutes := decimal [m, m']
    if ([a, b, c] = "GMT".toList ∨ [a, b, c] = "UTC".toList) ∧ (sign = '+' ∨ sign = '-') ∧
        [h, h', m, m'].all Char.isDigit then
      if hours > 18 ∨ minutes > 59 then some none
      else some (some ((if sign = '+' then 1 else -1) * ((hours * 60 + minutes) * 60)))
    else none
  | _ => none

def timeAgrees (zones : Zones) (clip : Clip) : Bool :=
  match clip.startUtc, clip.endUtc with
  | some start, some stop =>
    let expected := match fixedOffset clip.timezone with
      | some offset => offset.map fun offset => clip.localStart - seconds offset
      | none => zones clip.timezone clip.localStart
    decide (clip.bounded ∧ clip.complete) &&
      expected.any (fun expected => |expected - start| ≤ seconds 2) &&
      decide (0 < clip.coverage.windowMs ∧
        |Binary64.round (millis (stop - start) - clip.coverage.windowMs)| ≤ 2000)
  | _, _ => false

def effectiveClass (zones : Zones) (clip : Clip) : Classification :=
  let coverage := clip.coverage
  let evidence := clip.evidence
  let window := coverage.windowMs
  let fast := evidence.maxSpeedKmh.any fun speed => 0 < speed
  let obdPositive := 0 < evidence.movingSamples ∧ fast
  let gpsPositive := 0 < evidence.gpsMovingSamples ∧ 2 ≤ evidence.gpsSpeedSamples ∧
    evidence.maxGpsSpeedMS.any fun speed => 3 / 2 < speed
  if timeAgrees zones clip = false then .unknown
  else if window < coverage.accMs ∨ window < coverage.speedMs ∨ window < coverage.gpsMs ∨
      window < coverage.unknownMs then .unknown
  else if coverage.accMs < evidence.accOnMs + evidence.accOffMs then .unknown
  else if evidence.validSpeedSamples < evidence.movingSamples ∨
      evidence.gpsSpeedSamples < evidence.gpsMovingSamples then .unknown
  else match clip.classification with
  | .movingObserved => if obdPositive ∨ gpsPositive then .movingObserved else .unknown
  | .sampledStationary =>
    if obdPositive ∨ gpsPositive ∨ 0 < evidence.movingSamples ∨
        0 < evidence.gpsMovingSamples ∨ fast then .unknown
    else if 0 < evidence.validSpeedSamples ∧ evidence.maxSpeedKmh = some 0 ∧
        nineTenths window ≤ coverage.speedMs ∧ coverage.maxGapMs ≤ 10000 then .sampledStationary
    else .unknown
  | .accOffCandidate =>
    if obdPositive ∨ gpsPositive ∨ 0 < evidence.movingSamples ∨
        0 < evidence.gpsMovingSamples ∨ fast then .unknown
    else if nineTenths window ≤ coverage.accMs ∧ nineTenths window ≤ evidence.accOffMs then
      .accOffCandidate
    else .unknown
  | .unknown => .unknown

def quietVisual (visual : Visual) (duration : ℤ) : Bool :=
  decide (visual.status = .quiet ∧ visual.reason = none ∧ visual.inputEos ∧ visual.decoderEos ∧
    visual.inputFrames = visual.decodedFrames ∧ visual.decodedFrames = visual.sampledFrames ∧
    20 ≤ visual.sampledFrames ∧ visual.motionFrames = 0 ∧ visual.gridWidth = 160 ∧
    visual.gridHeight = 90 ∧ visual.rollingFrames = 6 ∧ visual.roiRows = 86 ∧
    visual.maxCoherentPixels < 16 ∧ visual.maxRollingCoherentPixels < 128 ∧
    visual.maxConsecutiveCoherentFrames < 2 ∧ 40 ≤ visual.minMeanLuma ∧
    visual.minMeanLuma ≤ visual.maxMeanLuma ∧ visual.maxMeanLuma ≤ 215 ∧
    visual.maxDarkFraction ≤ Binary64.round (11 / 20) ∧
    visual.maxBrightFraction ≤ Binary64.round (2 / 5) ∧ 24 ≤ visual.minContrastSpan ∧
    0 < visual.maxGapMs ∧ visual.maxGapMs ≤ 150 ∧
    visual.coveredMs - 150 ≤ (visual.sampledFrames - 1) * visual.maxGapMs ∧
    |visual.durationMs - duration| ≤ 150 ∧ duration - 150 ≤ visual.coveredMs ∧
    visual.coveredMs ≤ duration + 150) &&
  match visual.firstPtsUs, visual.lastPtsUs with
  | some first, some last => decide (|last - first - duration * 1000| ≤ 150000)
  | _, _ => false

def guardOff (guard : Guard) : Bool :=
  match guard.startUtc, guard.endUtc with
  | some first, some last =>
    decide (guard.windowMs = Binary64.nearestEven (millis (last - first)) ∧ 0 < guard.windowMs ∧
      guard.accOffMs = guard.windowMs ∧ guard.unknownMs = 0 ∧ 0 < guard.maxGapMs ∧
      guard.maxGapMs ≤ 7500 ∧ 2 ≤ guard.observationCount ∧
      guard.windowMs ≤ (guard.observationCount + 1) * guard.maxGapMs ∧ guard.onSamples = 0 ∧
      guard.unknownSamples = 0 ∧ guard.positiveSpeedSamples = 0 ∧ guard.segmentCount = 1)
  | _, _ => false

def noMovement (clip : Clip) : Bool :=
  decide (clip.evidence.accOnMs = 0 ∧ clip.evidence.movingSamples = 0 ∧
    clip.evidence.gpsMovingSamples = 0) &&
  clip.evidence.maxSpeedKmh.all (fun speed => speed = 0) &&
  clip.evidence.maxGpsSpeedMS.all fun speed => speed ≤ 3 / 2

def eligibleQuiet (zones : Zones) (witness : Bool) (d : Decision) : Bool :=
  let clip := d.clip
  let guard := d.guard
  let visual := d.visual
  let allowed := (d.decision = .skip ∧ d.reason = .parkedVisualQuiet) ∨
    (witness ∧ ((d.decision = .upload ∧ d.reason = .peerCoverageRequired) ∨
      (d.decision = .defer ∧ d.reason = .analysisPending)))
  match clip.startUtc, clip.endUtc, guard.startUtc, guard.endUtc, visual.analysisCompletedAtUtc,
      clip.durationMs with
  | some start, some stop, some first, some last, some completed, some duration =>
    validDecision d &&
    decide (allowed ∧ Clips.inVideo clip.relativePath ∧ clip.locked = false ∧
      clip.fingerprint ≠ none ∧ 0 < clip.sizeBytes ∧ clip.bounded ∧ clip.complete ∧
      effectiveClass zones clip = .accOffCandidate ∧
      (∀ reason ∈ clip.reasons, reason ∉ unsafeClipReasons) ∧
      30000 ≤ duration ∧ duration ≤ 120000 ∧
      |Binary64.round (millis (stop - start) - duration)| ≤ 250 ∧
      first ≤ start - seconds 120 ∧ stop + seconds 120 ≤ last ∧ stop ≤ completed) &&
    guardOff guard && quietVisual visual duration && noMovement clip
  | _, _, _, _, _, _ => false

def eligibleSkip (zones : Zones) (d : Decision) : Bool := eligibleQuiet zones false d

def quietWitness (zones : Zones) (d : Decision) : Bool := eligibleQuiet zones true d

def eligibleDefer (zones : Zones) (now : ℤ) (nativeRemaining : Option ℚ) (d : Decision) : Bool :=
  let clip := d.clip
  let guard := d.guard
  let visual := d.visual
  match clip.startUtc, clip.endUtc, d.deferUntilUtc, guard.startUtc, guard.endUtc,
      nativeRemaining with
  | some start, some stop, some deadline, some first, some last, some remaining =>
    let duration := Binary64.nearestEven (millis (stop - start))
    let unanalyzed := visual.status = .notAnalyzed ∧
      (visual.reason = none ∨ visual.reason = some "analysis_pending" ∨
        visual.reason = some "resource_cooldown") ∧
      visual.inputFrames = visual.decodedFrames ∧ visual.decodedFrames = visual.sampledFrames ∧
      visual.sampledFrames = 0 ∧ visual.inputEos = false ∧ visual.decoderEos = false ∧
      visual.firstPtsUs = none ∧ visual.lastPtsUs = none ∧ visual.analysisCompletedAtUtc = none
    let analyzed := visual.status = .quiet ∧
      (∃ measured ∈ clip.durationMs, quietVisual visual measured = true ∧
        |duration - measured| ≤ 250) ∧
      ∃ completed ∈ visual.analysisCompletedAtUtc, stop ≤ completed
    validDecision d &&
    decide (d.decision = .defer ∧
      (d.reason = .awaitingPostGuard ∨ d.reason = .fileSettling ∨ d.reason = .analysisPending) ∧
      Clips.inVideo clip.relativePath ∧ clip.locked = false ∧ 0 < clip.sizeBytes ∧
      effectiveClass zones clip = .accOffCandidate ∧
      (∀ reason ∈ clip.reasons, reason ∈ unsafeClipReasons →
        reason = .fileUnstable ∨ reason = .durationUnknown) ∧
      30000 ≤ duration ∧ duration ≤ 120000 ∧ stop ≤ now ∧ now < deadline ∧
      deadline = stop + seconds 360 ∧
      Binary64.round (Binary64.round ((deadline - now : ℤ) / 1000000) + 120) < remaining ∧
      first ≤ start - seconds 120 ∧ stop ≤ last ∧ last ≤ now ∧ visual.motionFrames = 0 ∧
      visual.maxCoherentPixels < 16 ∧ visual.maxRollingCoherentPixels < 128 ∧
      visual.maxConsecutiveCoherentFrames < 2 ∧ (unanalyzed ∨ analyzed)) &&
    noMovement clip && guardOff guard
  | _, _, _, _, _, _ => false

def pendingWitness (zones : Zones) (now : ℤ) (nativeRemaining : Option ℚ) (d : Decision) : Bool :=
  quietWitness zones d ||
    if d.decision = .upload ∧ d.reason = .peerAnalysisPending then
      match d.clip.endUtc with
      | none => false
      | some stop =>
        eligibleDefer zones now nativeRemaining
          { d with
            decision := .defer
            reason := .analysisPending
            deferUntilUtc := some (stop + seconds 360) }
    else eligibleDefer zones now nativeRemaining d

end DashcamStats.Parked
