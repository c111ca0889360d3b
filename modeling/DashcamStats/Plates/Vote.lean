import Mathlib.Algebra.Order.Ring.Rat
import DashcamStats.Library.Representatives

namespace DashcamStats.Plates

def MIN_FRAME_SEPARATION_S : ℚ := 1 / 2

structure PlateReading where
  rawText : String
  ocrConfidence : ℚ
  detectionConfidence : ℚ
  offsetS : ℚ
  deriving DecidableEq

def PlateReading.usable (reading : PlateReading) : Bool :=
  !reading.rawText.isEmpty && decide (0 < reading.ocrConfidence)

-- The fields of a normalised plate that the vote reads.
structure NormalisedPlate where
  normalised : String
  matched : Bool
  plausibleStates : List String

-- One region's rules and the call's thresholds. What `normalise` makes of a text is a parameter,
-- and so are the float sum and the rounded mean.
structure Rules where
  hasPatterns : Bool
  normalise : String → NormalisedPlate
  minConfidence : ℚ
  storeUnmatched : Bool
  sum : List ℚ → ℚ
  mean : List ℚ → ℚ

structure PlateVote where
  text : String
  ocrConfidence : ℚ
  detectionConfidence : ℚ
  voteCount : Nat
  best : PlateReading
  alternatives : List (String × Nat)
  supportingOffsets : List ℚ

def near (a b : PlateReading) : Bool :=
  decide (|a.offsetS - b.offsetS| < MIN_FRAME_SEPARATION_S)

namespace Rules

variable (rules : Rules)

def named (result : NormalisedPlate) : Bool :=
  !result.plausibleStates.isEmpty || !rules.hasPatterns || rules.storeUnmatched

def floor (result : NormalisedPlate) : ℚ :=
  max rules.minConfidence (if rules.named result then 4 / 5 else 9 / 10)

def ballot (reading : PlateReading) : Option String :=
  if !reading.usable then none
  else
    let result := rules.normalise reading.rawText
    if rules.hasPatterns && !result.matched && !rules.storeUnmatched then none
    else if reading.ocrConfidence < rules.floor result then none
    else some result.normalised

def enter : List (String × List PlateReading) → String → PlateReading →
    List (String × List PlateReading)
  | [], text, reading => [(text, represent near PlateReading.ocrConfidence [] reading)]
  | entry :: rest, text, reading =>
    if entry.1 = text then
      (text, represent near PlateReading.ocrConfidence entry.2 reading) :: rest
    else entry :: enter rest text reading

def receive (groups : List (String × List PlateReading)) (reading : PlateReading) :
    List (String × List PlateReading) :=
  match rules.ballot reading with
  | none => groups
  | some text => enter groups text reading

def groupsOf (readings : List PlateReading) : List (String × List PlateReading) :=
  readings.foldl rules.receive []

def weight (entry : String × List PlateReading) : ℚ :=
  rules.sum (entry.2.map PlateReading.ocrConfidence)

def ahead (a b : String × List PlateReading) : Bool :=
  decide (b.2.length < a.2.length ∨
    b.2.length = a.2.length ∧ rules.weight b ≤ rules.weight a)

def ranked (readings : List PlateReading) : List (String × List PlateReading) :=
  (rules.groupsOf readings).mergeSort rules.ahead

def bestOf : PlateReading → List PlateReading → PlateReading
  | best, [] => best
  | best, reading :: rest =>
    bestOf (if best.ocrConfidence < reading.ocrConfidence then reading else best) rest

def strong (reading : PlateReading) : Bool :=
  rules.named (rules.normalise reading.rawText) &&
    !decide (reading.ocrConfidence < max rules.minConfidence (23 / 25))

def conflicting (supporters : List PlateReading) : List (String × List PlateReading) → Bool
  | [] => false
  | other :: _ => decide (supporters.length ≤ 2 * other.2.length)

def temporalVote (readings : List PlateReading) : Option PlateVote :=
  match rules.ranked readings with
  | [] => none
  | (_, []) :: _ => none
  | (text, first :: more) :: rest =>
    let supporters := first :: more
    let best := bestOf first more
    if supporters.length = 1 && !rules.strong best then none
    else if conflicting supporters rest then none
    else
      some
        { text := text
          ocrConfidence := rules.mean (supporters.map PlateReading.ocrConfidence)
          detectionConfidence := rules.mean (supporters.map PlateReading.detectionConfidence)
          voteCount := supporters.length
          best := best
          alternatives := (rest.take 3).map fun other => (other.1, other.2.length)
          supportingOffsets :=
            (supporters.map PlateReading.offsetS).mergeSort fun a b => decide (a ≤ b) }

end Rules

end DashcamStats.Plates
