import DashcamStats.Library.Datetime

namespace DashcamStats.Osd

def MAX_PLAUSIBLE_SPEED_KMH : ℚ := 400

def MAX_PLAUSIBLE_SPEED_MS : ℚ := MAX_PLAUSIBLE_SPEED_KMH * 1000 / 3600

-- `math.inf` is the top.
def impliedSpeedMs (distanceM seconds : ℚ) : WithTop ℚ :=
  if seconds ≤ 0 then (if distanceM ≤ 0 then (0 : ℚ) else ⊤) else (distanceM / seconds : ℚ)

def isPlausibleStep (distanceM seconds : ℚ) : Bool :=
  decide (impliedSpeedMs distanceM (max 1 seconds) ≤ (MAX_PLAUSIBLE_SPEED_MS : ℚ))

def MAX_CLOCK_DRIFT_S : ℚ := 15 * 60

def clockIsPlausible (capturedAt expectedAt : Option ℤ) : Bool :=
  match capturedAt, expectedAt with
  | some captured, some expected =>
    decide (|Datetime.totalSeconds (captured - expected)| ≤ MAX_CLOCK_DRIFT_S)
  | _, _ => true

-- A `float` that is read or computed, which may be `nan` or `inf`
inductive Number where
  | finite (value : ℚ)
  | notFinite
  deriving DecidableEq

def Number.absLe : Number → ℚ → Bool
  | .finite value, bound => decide (|value| ≤ bound)
  | .notFinite, _ => false

def NO_FIX_EPSILON : ℚ := 1 / 10

def MAX_LATITUDE : ℚ := 90

def MAX_LONGITUDE : ℚ := 180

-- The sentences of `coordinate_problem`, with what they print
inductive CoordinateProblem where
  | noCoordinate
  | notFinite (lat lon : Number)
  | outOfRange (lat lon : ℚ)
  | noSatelliteFix
  deriving DecidableEq

def isNoFixPlaceholder (lat lon : Number) : Bool :=
  lat.absLe NO_FIX_EPSILON && lon.absLe NO_FIX_EPSILON

def coordinateProblem : Option Number → Option Number → Option CoordinateProblem
  | none, _ => some .noCoordinate
  | _, none => some .noCoordinate
  | some (.finite lat), some (.finite lon) =>
    if MAX_LATITUDE < |lat| ∨ MAX_LONGITUDE < |lon| then some (.outOfRange lat lon)
    else if isNoFixPlaceholder (.finite lat) (.finite lon) then some .noSatelliteFix
    else none
  | some lat, some lon => some (.notFinite lat lon)

theorem coordinateProblem_none {lat lon : Option Number} (h : coordinateProblem lat lon = none) :
    ∃ y x, lat = some (.finite y) ∧ lon = some (.finite x) := by
  unfold coordinateProblem at h
  split at h
  · cases h
  · cases h
  · exact ⟨_, _, rfl, rfl⟩
  · cases h

end DashcamStats.Osd
