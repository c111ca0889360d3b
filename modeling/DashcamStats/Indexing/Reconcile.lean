import DashcamStats.Queue.Model

namespace DashcamStats.Indexing

open Queue (RecordingState StageState)

structure Stat where
  size : ℕ
  mtimeNs : ℤ
  deriving DecidableEq

inductive Readiness where
  | ready
  | settling
  | invalid
  deriving DecidableEq

def assess (entry : Stat) (nowNs settleNs : ℤ) (previous : Option Stat) : Readiness :=
  let ageNs := nowNs - entry.mtimeNs
  if 0 < settleNs ∧ 0 ≤ ageNs ∧ ageNs < settleNs then .settling
  else if previous.any (· ≠ entry) then .settling
  else if entry.size = 0 then .invalid
  else .ready

def emptyReason : String := "the file is empty (0 bytes)"

structure Stages where
  metadata : StageState
  telemetry : StageState
  detection : StageState
  plate : StageState
  deriving DecidableEq

def Stages.pending : Stages := ⟨.pending, .pending, .pending, .pending⟩

inductive PolicyStatus where
  | hidden
  | deleteBlocked
  | deleted
  deriving DecidableEq

structure Policy where
  previousState : RecordingState
  status : PolicyStatus
  deriving DecidableEq

/-- `probe_json`, with whether one of its warnings says that no usable frame could be decoded -/
structure Probe where
  sourceDamaged : Bool
  sourceUnusable : Bool
  noUsableFrame : Bool
  policy : Option Policy
  deriving DecidableEq

def Probe.empty : Probe := ⟨false, false, false, none⟩

section Row

variable {Digest : Type}

/-- `seen` has `size_bytes` and `mtime_ns`, `fingerprinted` the stat that the fingerprint is of. -/
structure Row (Digest : Type) where
  state : RecordingState
  seen : Stat
  fingerprint : Option Digest
  fingerprinted : Option Stat
  missing : Bool
  ignored : Bool
  probe : Probe
  stages : Stages
  error : Option String
  errorCount : ℕ

structure Reading (Digest : Type) where
  digest : Option Digest
  after : Option Stat

def QUEUEABLE_STATES : List RecordingState := [.discovered, .metadataExtracted]

def markInvalid (row : Row Digest) : Row Digest :=
  { row with
    state := .invalid
    error := some emptyReason
    fingerprint := none
    fingerprinted := none }

def newRow (entry : Stat) : Row Digest where
  state := .discovered
  seen := entry
  fingerprint := none
  fingerprinted := none
  missing := false
  ignored := false
  probe := .empty
  stages := .pending
  error := none
  errorCount := 0

def discover (entry : Stat) (verdict : Readiness) (reading : Reading Digest) :
    Option (Row Digest) :=
  match verdict with
  | .invalid => some (markInvalid (newRow entry))
  | .settling => some { (newRow entry : Row Digest) with state := .settling }
  | .ready =>
    match reading.digest, reading.after with
    | some digest, some after =>
      if after = entry then
        some { (newRow entry : Row Digest) with
          fingerprint := some digest
          fingerprinted := some entry }
      else some { (newRow after : Row Digest) with state := .settling }
    | _, _ => none

def reappear (row : Row Digest) : Row Digest :=
  if row.missing then
    if row.state = .failed then { row with missing := false, state := .discovered, error := none }
    else { row with missing := false }
  else row

def hold (row : Row Digest) : Row Digest :=
  if row.state ∈ QUEUEABLE_STATES ∨ (row.state = .invalid ∧ row.fingerprint = none) then
    { row with state := .settling, error := none }
  else row

def unsettle (row : Row Digest) : Row Digest :=
  if row.state = .settling ∧ row.fingerprint ≠ none then { row with state := .discovered } else row

def defer (after : Stat) (row : Row Digest) : Row Digest :=
  if row.state ∈ QUEUEABLE_STATES ∨ row.state = .settling then
    { row with seen := after, state := .settling, error := none }
  else { row with seen := after }

variable [DecidableEq Digest]

-- What was read is what `digest` is of.
def record (entry : Stat) (digest : Digest) (row : Row Digest) : Row Digest :=
  if row.fingerprint = some digest then
    { row with
      fingerprinted := some entry
      state := if row.state = .settling then .discovered else row.state }
  else
    { row with
      fingerprinted := some entry
      fingerprint := some digest
      state := .discovered
      stages := .pending
      error := none
      errorCount := 0 }

def refresh (entry : Stat) (reading : Reading Digest) (row : Row Digest) : Row Digest :=
  if row.fingerprint ≠ none ∧ row.fingerprinted = some entry then row
  else
    match reading.digest, reading.after with
    | some digest, some after => if after = entry then record entry digest row else defer after row
    | _, _ => row

def reconcile (entry : Stat) (nowNs settleNs : ℤ) (reading : Reading Digest) :
    Option (Row Digest) → Option (Row Digest)
  | none => discover entry (assess entry nowNs settleNs none) reading
  | some row =>
    let now := { reappear row with seen := entry }
    match assess entry nowNs settleNs (some row.seen) with
    | .settling => some (hold now)
    | .invalid =>
      some (if now.state ≠ .invalid ∨ row.seen ≠ entry then markInvalid now else now)
    | .ready => some (refresh entry reading (unsettle now))

def written {α : Type} [DecidableEq α] (before after stored : α) : α :=
  if before = after then stored else after

-- The row that a session leaves which has loaded `before` and made `after` of it
def Row.write (before after stored : Row Digest) : Row Digest where
  state := written before.state after.state stored.state
  seen := written before.seen after.seen stored.seen
  fingerprint := written before.fingerprint after.fingerprint stored.fingerprint
  fingerprinted := written before.fingerprinted after.fingerprinted stored.fingerprinted
  missing := written before.missing after.missing stored.missing
  ignored := written before.ignored after.ignored stored.ignored
  probe := written before.probe after.probe stored.probe
  stages := written before.stages after.stages stored.stages
  error := written before.error after.error stored.error
  errorCount := written before.errorCount after.errorCount stored.errorCount

end Row

end DashcamStats.Indexing
