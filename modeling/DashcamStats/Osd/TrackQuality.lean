import DashcamStats.Library.Median
import DashcamStats.Osd.Validate

namespace DashcamStats.Osd

def MAX_ROAD_SPEED_KMH : ℚ := 160

def MAX_ROAD_SPEED_MS : ℚ := MAX_ROAD_SPEED_KMH * 1000 / 3600

def QUANTISATION_M : ℚ := 17

def NEIGHBOURHOOD : ℕ := 4

def MIN_NEIGHBOURS : ℕ := 3

def MAX_GAP_S : ℚ := 10

def MAX_GAP_M : ℚ := 250

inductive GpsReason where
  | COORDINATE_PARSE_FAILURE
  | INVALID_LAT_LON
  | NO_FIX
  | IMPLIED_SPEED_OUTLIER
  | ISOLATED_POSITION_OUTLIER
  | GPS_GAP
  deriving DecidableEq

inductive GpsQuality where
  | VALID
  | INTERPOLATED
  | REJECTED
  | NO_FIX
  deriving DecidableEq

-- The sentences of `detail`, with what they print
inductive Detail where
  | empty
  | noSatelliteLock
  | coordinate (problem : CoordinateProblem)
  | awayFromMedian (distance radius : ℚ)
  | sinceLastTrusted (dt distance : ℚ)
  | implies (distance dt : ℚ)
  | impliesButTooFew (distance dt : ℚ)
  deriving DecidableEq

structure Verdict where
  quality : GpsQuality
  reasons : List GpsReason
  detail : Detail
  breaksSegment : Bool
  deriving DecidableEq

def Verdict.drawable (verdict : Verdict) : Bool :=
  decide (verdict.quality = .VALID) || decide (verdict.quality = .INTERPOLATED)

structure Fix where
  tS : ℚ
  lat : Option Number
  lon : Option Number
  synthetic : Bool
  noFix : Bool
  deriving DecidableEq

-- `float(fix.lat), float(fix.lon)`, of a fix that passed the first pass
def Fix.position (fix : Fix) : ℚ × ℚ :=
  match fix.lat, fix.lon with
  | some (.finite lat), some (.finite lon) => (lat, lon)
  | _, _ => (0, 0)

def reachableRadiusM (dtS : ℚ) : ℚ := MAX_ROAD_SPEED_MS * max 1 |dtS| + QUANTISATION_M

def placeRefusal (fix : Fix) : GpsQuality × GpsReason :=
  match fix.lat, fix.lon with
  | some lat, some lon =>
    if isNoFixPlaceholder lat lon then (.NO_FIX, .NO_FIX) else (.REJECTED, .INVALID_LAT_LON)
  | _, _ => (.REJECTED, .COORDINATE_PARSE_FAILURE)

def placeVerdict (fix : Fix) : Verdict :=
  if fix.noFix then
    { quality := .NO_FIX, reasons := [.NO_FIX], detail := .noSatelliteLock, breaksSegment := false }
  else
    match coordinateProblem fix.lat fix.lon with
    | some problem =>
      { quality := (placeRefusal fix).1
        reasons := [(placeRefusal fix).2]
        detail := .coordinate problem
        breaksSegment := false }
    | none =>
      { quality := if fix.synthetic then .INTERPOLATED else .VALID
        reasons := []
        detail := .empty
        breaksSegment := false }

section

variable (haversineM : ℚ → ℚ → ℚ → ℚ → ℚ)

def distanceBetween (a b : ℚ × ℚ) : ℚ := haversineM a.1 a.2 b.1 b.2

def usableIndices (verdicts : List Verdict) : List ℕ :=
  (List.range verdicts.length).filter fun index => (verdicts[index]?).any (·.drawable)

def neighbourhoodCentre (fixes : List Fix) (index : ℕ) (usable : List ℕ) :
    Option ((ℚ × ℚ) × ℚ) :=
  match usable.idxOf? index with
  | none => none
  | some position =>
    let lo := position - NEIGHBOURHOOD
    let hi := min usable.length (position + NEIGHBOURHOOD + 1)
    let neighbours : List Fix :=
      (((usable.take hi).drop lo).filter (· ≠ index)).filterMap fun slot => fixes[slot]?
    if neighbours.length < MIN_NEIGHBOURS then none
    else
      let centreLat : ℚ := Median.median (neighbours.map (·.position.1))
      let centreLon : ℚ := Median.median (neighbours.map (·.position.2))
      let t := ((fixes[index]?).map (·.tS)).getD 0
      let spanS := (neighbours.map fun neighbour => |t - neighbour.tS|).foldl max 0
      some ((centreLat, centreLon), spanS)

def condemn (fixes : List Fix) (usable : List ℕ) (index : ℕ) : Option (ℚ × ℚ) :=
  match neighbourhoodCentre fixes index usable, fixes[index]? with
  | some (centre, spanS), some fix =>
    let distance := distanceBetween haversineM centre fix.position
    let radius := reachableRadiusM spanS
    if radius < distance then some (distance, radius) else none
  | _, _ => none

def neighbourhoodRound (fixes : List Fix) (verdicts : List Verdict) : List Verdict :=
  let usable := usableIndices verdicts
  if usable.length ≤ MIN_NEIGHBOURS then verdicts
  else
    let condemned := usable.filter fun index => (condemn haversineM fixes usable index).isSome
    if condemned.isEmpty || decide (usable.length ≤ condemned.length * 2) then verdicts
    else
      verdicts.mapIdx fun index verdict =>
        if index ∈ usable then
          match condemn haversineM fixes usable index with
          | some (distance, radius) =>
            { quality := .REJECTED
              reasons := [.ISOLATED_POSITION_OUTLIER]
              detail := .awayFromMedian distance radius
              breaksSegment := false }
          | none => verdict
        else verdict

def neighbourhoodPass (fixes : List Fix) (verdicts : List Verdict) : List Verdict :=
  neighbourhoodRound haversineM fixes (neighbourhoodRound haversineM fixes verdicts)

-- `unreachable` is the distance and the time of an entry of that list.
structure Walked where
  fix : Fix
  verdict : Verdict
  unreachable : Option (ℚ × ℚ)

def Walked.trusted (walked : Walked) : Bool := walked.verdict.drawable && walked.unreachable.isNone

def walkOne (anchor : Option Fix) (fix : Fix) (verdict : Verdict) : Walked :=
  if verdict.drawable then
    match anchor with
    | none => { fix, verdict := { verdict with breaksSegment := true }, unreachable := none }
    | some previous =>
      let dt := fix.tS - previous.tS
      let distance := distanceBetween haversineM previous.position fix.position
      if reachableRadiusM dt < distance then { fix, verdict, unreachable := some (distance, dt) }
      else if MAX_GAP_S < dt ∨ MAX_GAP_M < distance then
        { fix
          verdict :=
            { verdict with
              breaksSegment := true
              reasons := verdict.reasons ++ [.GPS_GAP]
              detail := .sinceLastTrusted dt distance }
          unreachable := none }
      else { fix, verdict, unreachable := none }
  else { fix, verdict, unreachable := none }

def walk : Option Fix → List (Fix × Verdict) → List Walked
  | _, [] => []
  | anchor, (fix, verdict) :: rest =>
    let walked := walkOne haversineM anchor fix verdict
    walked :: walk (if walked.trusted then some fix else anchor) rest

def decisive (walked : List Walked) : Bool :=
  decide (MIN_NEIGHBOURS < (walked.filter (·.verdict.drawable)).length) ||
    decide ((walked.filter (·.unreachable.isSome)).length < 2)

def settleOne (decisive : Bool) (walked : Walked) : Verdict :=
  match walked.unreachable with
  | none => walked.verdict
  | some (distance, dt) =>
    if decisive then
      { quality := .REJECTED
        reasons := [.IMPLIED_SPEED_OUTLIER]
        detail := .implies distance dt
        breaksSegment := false }
    else
      { walked.verdict with
        breaksSegment := true
        reasons := walked.verdict.reasons ++ [.GPS_GAP]
        detail := .impliesButTooFew distance dt }

def settle (walked : List Walked) : List Verdict := walked.map (settleOne (decisive walked))

def classify (fixes : List Fix) : List Verdict :=
  settle (walk haversineM none (fixes.zip (neighbourhoodPass haversineM fixes
    (fixes.map placeVerdict))))

end

structure Runs where
  runs : List (List ℕ)
  current : List ℕ

def Runs.add (state : Runs) (index : ℕ) (verdict : Verdict) : Runs :=
  if verdict.drawable then
    if verdict.breaksSegment && !state.current.isEmpty then
      { runs := state.runs ++ [state.current], current := [index] }
    else { state with current := state.current ++ [index] }
  else state

def Runs.all (state : Runs) : List (List ℕ) :=
  if state.current.isEmpty then state.runs else state.runs ++ [state.current]

def collectRuns (verdicts : List Verdict) : Runs :=
  verdicts.zipIdx.foldl (fun state entry => state.add entry.2 entry.1) { runs := [], current := [] }

def segments (verdicts : List Verdict) : List (List ℕ) :=
  (collectRuns verdicts).all.filter fun run => decide (1 < run.length)

end DashcamStats.Osd
