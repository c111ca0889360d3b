import Mathlib.Data.Nat.Notation
import Mathlib.Logic.Function.Basic
import Mathlib.Logic.Relation

namespace DashcamStats.Retention

inductive RecordingState where
  | discovered
  | settling
  | metadataExtracted
  | queued
  | processing
  | completed
  | failed
  | invalid
  | ignored
  | deleted
  deriving DecidableEq

structure SafetyReport where
  ok : Bool
  writable : Bool

structure RetentionCandidate where
  recordingId : ℕ
  relPath : List Char

/-- What `execute` reads of a plan, whichever planner made it -/
structure RetentionPlan where
  candidates : List RetentionCandidate
  blocked : Bool
  deletionEnabled : Bool
  excludeFromStats : Bool
  safety : Option SafetyReport

-- `active_job` is whether a job of the recording is queued or running.
structure Row where
  relPath : List Char
  state : RecordingState
  fileMissing : Bool
  protected_ : Bool
  eventType : Bool
  activeJob : Bool
  ignored : Bool

def Row.isEvent (row : Row) : Bool := row.protected_ || row.eventType

def canDelete (report : SafetyReport) (deletionEnabled : Bool) : Bool :=
  if !report.ok then false else if !deletionEnabled then false else report.writable

def isSeparator (c : Char) : Bool := c == '/' || c == '\\'

def validatePart (raw : List Char) : Option (List (List Char)) :=
  if raw.contains (Char.ofNat 0) then none
  else if raw.head?.any isSeparator then none
  else if raw[1]? = some ':' then none
  else
    let segments := (raw.splitOnP isSeparator).filter fun segment =>
      !segment.isEmpty && segment != ['.']
    if segments.contains ['.', '.'] then none else some segments

abbrev Path := List (List Char)

/-- `resolve` follows the links there are now, or fails. -/
def safeJoin (resolve : Path → Option Path) (root : Path) (part : List Char) : Option Path :=
  match resolve root with
  | none => none
  | some rootResolved =>
    match validatePart part with
    | none => none
    | some segments =>
      match resolve (rootResolved ++ segments) with
      | none => none
      | some resolved => if rootResolved.isPrefixOf resolved then some resolved else none

structure World where
  rows : ℕ → Option Row
  files : Path → Option ℕ
  resolve : Path → Option Path

inductive Stage where
  | called
  | reading (rest : List RetentionCandidate)
  | unlinking (candidate : RetentionCandidate) (row : Row) (rest : List RetentionCandidate)
  | marking
  | finished

structure Unlink where
  candidate : RetentionCandidate
  row : Row
  root : Path
  target : Path
  size : ℕ

structure Execution where
  world : World
  stage : Stage
  root : Path
  spareEvents : Bool
  removedIds : List ℕ
  bytes : ℕ
  deletedCount : ℕ
  deletedBytes : ℕ
  /-- History -/
  unlinks : List Unlink

/-- The call: what it is given, and the report that `evaluate_safety` would give it -/
structure Call where
  plan : RetentionPlan
  dryRun : Bool
  evaluated : SafetyReport

def Call.report (call : Call) : SafetyReport := call.plan.safety.getD call.evaluated

def Call.reallyDelete (call : Call) : Bool :=
  canDelete call.report call.plan.deletionEnabled && !call.dryRun && !call.plan.blocked

def Row.markDeleted (excludeFromStats : Bool) (row : Row) : Row :=
  { row with
    fileMissing := true
    state := .deleted
    ignored := excludeFromStats || row.ignored }

def RetentionCandidate.passed (candidate : RetentionCandidate) (spareEvents : Bool) (row : Row) :
    Bool :=
  row.relPath != candidate.relPath || row.fileMissing || row.state == .deleted ||
    row.state == .processing || row.activeJob || (spareEvents && row.isEvent)

inductive Event where
  -- `footage_dir` and `keep_events` are read as the removal begins.
  | begin (root : Path) (keepEvents : Bool)
  | read
  | unlink (osError : Bool)
  | mark
  | other (world : World)

def start (world : World) : Execution where
  world := world
  stage := .called
  root := []
  spareEvents := false
  removedIds := []
  bytes := 0
  deletedCount := 0
  deletedBytes := 0
  unlinks := []

namespace Execution

variable (call : Call) (s : Execution)

/-- `unlink_candidate`, and what is kept of its answer -/
def unlink (candidate : RetentionCandidate) (row : Row) (rest : List RetentionCandidate)
    (osError : Bool) : Execution :=
  let next := { s with stage := .reading rest }
  match safeJoin s.world.resolve s.root candidate.relPath with
  | none => next
  | some target =>
    match s.world.files target with
    | none => next
    | some size =>
      if osError then next
      else { next with
        world := { s.world with files := Function.update s.world.files target none }
        removedIds := s.removedIds ++ [candidate.recordingId]
        bytes := s.bytes + size
        unlinks := s.unlinks ++ [⟨candidate, row, s.root, target, size⟩] }

def mark : Execution :=
  { s with
    world := { s.world with
      rows := fun id => if id ∈ s.removedIds then
        (s.world.rows id).map (Row.markDeleted call.plan.excludeFromStats) else s.world.rows id }
    stage := .finished
    deletedCount := s.removedIds.length
    deletedBytes := s.bytes }

def step (event : Event) : Option Execution :=
  match event, s.stage with
  | .begin root keepEvents, .called => some (if call.reallyDelete then
      { s with
        stage := .reading call.plan.candidates
        root := root
        spareEvents := call.plan.excludeFromStats || keepEvents }
      else { s with stage := .finished })
  | .read, .reading [] => some { s with stage := .marking }
  | .read, .reading (candidate :: rest) => some (match s.world.rows candidate.recordingId with
      | none => { s with stage := .reading rest }
      | some row => if candidate.passed s.spareEvents row then { s with stage := .reading rest }
          else { s with stage := .unlinking candidate row rest })
  | .unlink osError, .unlinking candidate row rest => some (s.unlink candidate row rest osError)
  | .mark, .marking => some (s.mark call)
  | .other world, _ => some { s with world }
  | _, _ => none

end Execution

def Event.Fair (s : Execution) : Event → Prop
  | .other world => ∀ id, (s.world.rows id).isSome → (world.rows id).isSome
  | _ => True

def Step (call : Call) (s s' : Execution) : Prop :=
  ∃ event : Event, event.Fair s ∧ s.step call event = some s'

end DashcamStats.Retention
