import DashcamStats.Library.Strings
import DashcamStats.Queue.Model

namespace DashcamStats.Pipeline

open Queue (RecordingState StageState)
open Strings (strip lower)

inductive Stage where
  | metadata
  | telemetry
  | detection
  | plates
  | summarise
  deriving DecidableEq

def STAGE_ORDER : List Stage := [.metadata, .telemetry, .detection, .plates, .summarise]

def STAGE_DEPENDENTS : Stage → List Stage
  | .telemetry => [.detection, .plates]
  | .detection => [.plates]
  | _ => []

def STAGES (key : String) : Option Stage :=
  [("metadata", Stage.metadata), ("telemetry", .telemetry), ("detection", .detection),
    ("plates", .plates), ("summarise", .summarise)].lookup key

def Stage.name : Stage → String
  | .metadata => "metadata"
  | .telemetry => "telemetry"
  | .detection => "detection"
  | .plates => "plates"
  | .summarise => "summarise"

def REPROCESS_PRESETS (key : String) : Option (List Stage) :=
  [("metadata", [Stage.metadata, .summarise]), ("telemetry", [.telemetry, .summarise]),
    ("detection", [.detection, .summarise]), ("plates", [.plates, .summarise]),
    ("everything", STAGE_ORDER)].lookup key

-- The stages with a state of their own: `_STAGE_FIELDS`
def Stage.hasField : Stage → Bool
  | .summarise => false
  | _ => true

section Selection

def addDependents (resolved : Stage → Bool) (stage : Stage) : Bool :=
  resolved stage || STAGE_ORDER.any fun name =>
    resolved name && (STAGE_DEPENDENTS name).contains stage

def withDependents (stages : Stage → Bool) : Stage → Bool :=
  STAGE_ORDER.foldl (fun resolved _ => addDependents resolved) stages

def requestedStages (item : String) : List Stage :=
  let key := String.ofList (lower (strip item.toList))
  match REPROCESS_PRESETS key with
  | some stages => stages
  | none => (STAGES key).toList

def ordered (wanted : Stage → Bool) : List Stage :=
  STAGE_ORDER.filter fun name => withDependents wanted name || name = .summarise

def expandStages (requested : List String) : List Stage :=
  if requested = [] then STAGE_ORDER
  else
    let wanted := requested.flatMap requestedStages
    if wanted = [] then STAGE_ORDER else ordered fun name => wanted.contains name

end Selection

/-- A recording and what is stored for it. `written` says when the results of a stage were
replaced last, in replacements since the start, and is `0` while there are none. -/
structure Recording where
  state : RecordingState
  stages : Stage → StageState
  written : Stage → ℕ
  clock : ℕ

namespace Recording

def fresh : Recording where
  state := .discovered
  stages _ := .pending
  written _ := 0
  clock := 0

def mark (r : Recording) (name : Stage) (stage : StageState) : Recording :=
  { r with stages := Function.update r.stages name stage }

def replace (r : Recording) (name : Stage) : Recording :=
  { r with written := Function.update r.written name (r.clock + 1), clock := r.clock + 1 }

end Recording

section Selection

def needs (r : Recording) (name : Stage) : Bool :=
  name.hasField && (r.stages name = .pending || r.stages name = .failed || r.stages name = .running)

def pendingStages (r : Recording) : List Stage :=
  if STAGE_ORDER.all fun name => !needs r name then []
  else if needs r .metadata then STAGE_ORDER
  else ordered (needs r)

def invalidateRecordings (r : Recording) (requested : List String) : Recording :=
  let selected := expandStages requested
  { r with stages := fun name =>
      if name.hasField && selected.contains name then .pending else r.stages name }

end Selection

section Run

inductive Outcome where
  | done
  | skipped
  | retryable
  | failed (replaced : Bool) (permanent : Bool)

def Stage.hasWritePhase : Stage → Bool
  | .telemetry | .detection | .plates => true
  | _ => false

structure Commits where
  rows : List Recording
  ok : Bool
  last : Recording

def Recording.start (r : Recording) (name : Stage) : Recording :=
  if name.hasField then r.mark name .running else r

def Recording.finish (r : Recording) (name : Stage) : Recording :=
  if name.hasField then r.mark name .done else { r with state := .completed }

def Recording.fail (r : Recording) (name : Stage) (permanent : Bool) : Recording :=
  let failed := if name.hasField then r.mark name .failed else r
  { failed with state := if permanent then .invalid else .failed }

def runStage (name : Stage) (outcome : Outcome) (r : Recording) : Commits :=
  let running := r.start name
  match outcome with
  | .done =>
    let stored := running.replace name
    let done := stored.finish name
    ⟨if name.hasWritePhase then [running, stored, done] else [running, done], true, done⟩
  | .skipped => ⟨[running, running.mark name .skipped], true, running.mark name .skipped⟩
  | .retryable => ⟨[running, running.mark name .pending], true, running.mark name .pending⟩
  | .failed replaced permanent =>
    -- The rollback takes back what is not committed, which the write phase is.
    let left := if replaced && name.hasWritePhase then running.replace name else running
    ⟨[running, left, left.fail name permanent], false, left.fail name permanent⟩

def runEach (outcome : Stage → Outcome) : List Stage → Recording → Commits
  | [], r => ⟨[], true, r⟩
  | name :: rest, r =>
    let commits := runStage name (outcome name) r
    if commits.ok then
      let others := runEach outcome rest commits.last
      ⟨commits.rows ++ others.rows, others.ok, others.last⟩
    else commits

def runStages (outcome : Stage → Outcome) (selected : List Stage) (r : Recording) : Commits :=
  let processing := { r with state := .processing }
  let commits := runEach outcome selected processing
  ⟨processing :: commits.rows, commits.ok, commits.last⟩

/-- What a job runs: the stages that it names or, where it names none, those that are pending,
or all of them. -/
def jobStages (stages : List String) (r : Recording) : List Stage :=
  expandStages (if stages ≠ [] then stages else (pendingStages r).map Stage.name)

end Run

inductive Reached (allowed : List Stage → Recording → Prop) : Recording → Prop
  | fresh : Reached allowed .fresh
  | invalidated {r : Recording} (requested : List String) :
      Reached allowed r → Reached allowed (invalidateRecordings r requested)
  | ran {r r' : Recording} (stages : List String) (outcome : Stage → Outcome) :
      Reached allowed r → allowed (jobStages stages r) r →
        r' ∈ (runStages outcome (jobStages stages r) r).rows → Reached allowed r'

end DashcamStats.Pipeline
