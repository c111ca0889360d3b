import Mathlib.Data.Finset.Sort
import DashcamStats.Tracking.Greedy

namespace DashcamStats.Tracking

def HIGH_CONFIDENCE : ℚ := 1 / 2
def MATCH_IOU_HIGH : Score := ((1 / 4 : ℚ) : WithTop ℚ)
def MATCH_IOU_LOW : Score := ((3 / 20 : ℚ) : WithTop ℚ)

structure Detection2D where
  classLabel : String
  confidence : ℚ
  x : ℚ
  y : ℚ
  w : ℚ
  h : ℚ
  deriving DecidableEq

-- A detection object of one update: what it says, and which one it is (the number of the update
-- and the place in its list), since two objects may say the same.
structure Sighting where
  detection : Detection2D
  seen : Nat × Nat

-- The row kept for the timeline, with the object it was written for.
structure Sample where
  offsetS : ℚ
  confidence : ℚ
  x : ℚ
  y : ℚ
  w : ℚ
  h : ℚ
  seen : Nat × Nat

def Sighting.sample (sighting : Sighting) (offsetS : ℚ) : Sample :=
  { offsetS := offsetS
    confidence := sighting.detection.confidence
    x := sighting.detection.x
    y := sighting.detection.y
    w := sighting.detection.w
    h := sighting.detection.h
    seen := sighting.seen }

/-- The box arithmetic, the crop's sharpness and the float sum are parameters: nothing that is
proved here depends on them. -/
structure Geometry (Filter Frame : Type) where
  start : Detection2D → Filter
  predict : Filter → Filter
  update : Filter → Detection2D → Filter
  iou : Filter → Detection2D → Score
  usability : Option Frame → Detection2D → ℚ
  plus : ℚ → ℚ → ℚ

structure Track (Filter : Type) where
  trackKey : Nat
  classLabel : String
  firstOffsetS : ℚ
  lastOffsetS : ℚ
  frameCount : Nat := 1
  confidenceMax : ℚ
  confidenceSum : ℚ
  bestOffsetS : Option ℚ := none
  bestScore : ℚ := -1
  bestBox : Option (ℚ × ℚ × ℚ × ℚ) := none
  samples : List Sample := []
  kalman : Filter
  misses : Nat := 0

structure Update (Frame : Type) where
  detections : List Detection2D
  offsetS : ℚ
  frame : Option Frame := none

-- `updates` counts the calls so far; the source has no such field.
structure ByteTracker (Filter : Type) where
  active : List (Track Filter) := []
  finished : List (Track Filter) := []
  nextKey : Nat := 1
  updates : Nat := 0

variable {Filter Frame : Type} (geometry : Geometry Filter Frame)

def Track.considerBest (track : Track Filter) (u : Update Frame) (detection : Detection2D) :
    Track Filter :=
  let score := geometry.usability u.frame detection
  if track.bestScore < score then
    { track with
      bestScore := score
      bestOffsetS := some u.offsetS
      bestBox := some (detection.x, detection.y, detection.x + detection.w,
        detection.y + detection.h) }
  else track

def absorbed (u : Update Frame) (sighting : Sighting) (track : Track Filter) : Track Filter :=
  Track.considerBest geometry
    { track with
      lastOffsetS := u.offsetS
      frameCount := track.frameCount + 1
      confidenceSum := geometry.plus track.confidenceSum sighting.detection.confidence
      confidenceMax := max track.confidenceMax sighting.detection.confidence
      misses := 0
      kalman := geometry.update track.kalman sighting.detection
      samples := track.samples ++ [sighting.sample u.offsetS] }
    u sighting.detection

def started (u : Update Frame) (sighting : Sighting) (key : Nat) : Track Filter :=
  Track.considerBest geometry
    { trackKey := key
      classLabel := sighting.detection.classLabel
      firstOffsetS := u.offsetS
      lastOffsetS := u.offsetS
      confidenceMax := sighting.detection.confidence
      confidenceSum := sighting.detection.confidence
      kalman := geometry.start sighting.detection
      samples := [sighting.sample u.offsetS] }
    u sighting.detection

namespace ByteTracker

def absorb (s : ByteTracker Filter) (u : Update Frame) (index : Nat) (sighting : Sighting) :
    ByteTracker Filter :=
  { s with active := s.active.modify index (absorbed geometry u sighting) }

def start (s : ByteTracker Filter) (u : Update Frame) (sighting : Sighting) :
    ByteTracker Filter :=
  { s with
    active := s.active ++ [started geometry u sighting s.nextKey]
    nextKey := s.nextKey + 1 }

def scores (active : List (Track Filter)) (candidates : List Nat) (detections : List Sighting) :
    Scores :=
  { rows := candidates.length
    cols := detections.length
    cell := fun row col =>
      match candidates[row]? >>= fun index => active[index]?, detections[col]? with
      | some track, some sighting =>
        if track.classLabel ≠ sighting.detection.classLabel then masked
        else geometry.iou track.kalman sighting.detection
      | _, _ => masked }

-- What the loop over the pairs updates; none is an index that is out of range.
structure Associating (Filter : Type) where
  tracker : ByteTracker Filter
  matchedDets : List Nat
  stillUnmatched : Finset Nat

def associatePair (u : Update Frame) (detections : List Sighting) (candidates : List Nat)
    (sofar : Associating Filter) (pair : Nat × Nat) : Option (Associating Filter) :=
  match candidates[pair.1]?, detections[pair.2]? with
  | some index, some sighting =>
    some
      { tracker := sofar.tracker.absorb geometry u index sighting
        matchedDets := pair.2 :: sofar.matchedDets
        stillUnmatched := sofar.stillUnmatched.erase index }
  | _, _ => none

def startRest (u : Update Frame) (detections : List Sighting) (matchedDets : List Nat)
    (s : ByteTracker Filter) : ByteTracker Filter :=
  detections.zipIdx.foldl
    (fun s entry => if entry.2 ∈ matchedDets then s else s.start geometry u entry.1) s

def associate (u : Update Frame) (allowNew : Bool) (threshold : Score)
    (detections : List Sighting) (s : ByteTracker Filter) (candidates : List Nat) :
    Option (ByteTracker Filter × List Nat) :=
  if detections.isEmpty then some (s, candidates)
  else do
    let pairs ← greedyMatch (scores geometry s.active candidates detections) threshold
    let done ← pairs.foldlM (associatePair geometry u detections candidates)
      ⟨s, [], candidates.toFinset⟩
    let tracker :=
      if allowNew then startRest geometry u detections done.matchedDets done.tracker
      else done.tracker
    return (tracker, done.stillUnmatched.sort (· ≤ ·))

def missed (track : Track Filter) : Track Filter :=
  { track with misses := track.misses + 1 }

def predicted (track : Track Filter) : Track Filter :=
  { track with kalman := geometry.predict track.kalman }

def sightings (s : ByteTracker Filter) (u : Update Frame) : List Sighting :=
  u.detections.zipIdx.map fun entry => ⟨entry.1, (s.updates, entry.2)⟩

def high (detections : List Sighting) : List Sighting :=
  detections.filter fun sighting => HIGH_CONFIDENCE ≤ sighting.detection.confidence

def low (detections : List Sighting) : List Sighting :=
  detections.filter fun sighting => sighting.detection.confidence < HIGH_CONFIDENCE

def retire (trackBuffer : ℤ) (s : ByteTracker Filter) (unmatched : List Nat) :
    ByteTracker Filter :=
  let active := unmatched.foldl (fun active index => active.modify index missed) s.active
  { s with
    active := active.filter fun track => ¬ trackBuffer < track.misses
    finished := s.finished ++ active.filter fun track => trackBuffer < track.misses
    updates := s.updates + 1 }

def update (trackBuffer : ℤ) (s : ByteTracker Filter) (u : Update Frame) :
    Option (ByteTracker Filter) := do
  let detections := s.sightings u
  let moved := { s with active := s.active.map (predicted geometry) }
  let first ← associate geometry u true MATCH_IOU_HIGH (high detections) moved
    (List.range moved.active.length)
  let second ← associate geometry u false MATCH_IOU_LOW (low detections) first.1 first.2
  return retire trackBuffer second.1 second.2

def run (trackBuffer : ℤ) (updates : List (Update Frame)) : Option (ByteTracker Filter) :=
  updates.foldlM (update geometry trackBuffer) {}

def finish (s : ByteTracker Filter) (minFrames : Nat) : List (Track Filter) :=
  (s.finished ++ s.active).filter fun track => minFrames ≤ track.frameCount

end ByteTracker

end DashcamStats.Tracking
