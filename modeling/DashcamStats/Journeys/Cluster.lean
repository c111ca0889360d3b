import DashcamStats.Journeys.Barriers
import DashcamStats.Library.Grouping
import DashcamStats.Osd.Validate

namespace DashcamStats.Journeys

open Grouping

structure Recording where
  startedAt : ℤ
  endedAt : Option ℤ
  startLat : Option ℚ
  startLon : Option ℚ
  deriving DecidableEq

-- `ended_at or started_at`
def Recording.ends (recording : Recording) : ℤ := recording.endedAt.getD recording.startedAt

structure Clustering where
  gap : ℤ
  useGps : Bool
  maxJumpM : ℚ
  intentionalGaps : Option (IntentionalGapBarriers ℤ)

section

variable (haversineM : ℚ → ℚ → ℚ → ℚ → ℚ) (clustering : Clustering)

def jumped (maxJumpM : ℚ) (previous candidate : Recording) : Bool :=
  match previous.startLat, candidate.startLat, previous.startLon, candidate.startLon with
  | some previousLat, some candidateLat, some previousLon, some candidateLon =>
    let jump := haversineM previousLat previousLon candidateLat candidateLon
    let elapsed : ℚ := (candidate.startedAt - previous.ends : ℤ) / 1000000
    decide (maxJumpM < jump) && Osd.isPlausibleStep jump elapsed
  | _, _, _, _ => false

def sameJourney (previous candidate : Recording) : Bool :=
  if clustering.gap < candidate.startedAt - previous.ends then false
  else if clustering.intentionalGaps.any (·.blocks previous.ends candidate.startedAt) then false
  else if clustering.useGps && decide (0 < clustering.maxJumpM) then
    !jumped haversineM clustering.maxJumpM previous candidate
  else true

-- `previous` is the recording that extends furthest.
def cluster (recordings : List Recording) : List (List Recording) :=
  groups (sameJourney haversineM clustering) (latest Recording.ends) recordings

end

end DashcamStats.Journeys
