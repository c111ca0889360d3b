import DashcamStats.Indexing.Reconcile

namespace DashcamStats.Indexing

open Queue (RecordingState)

section Policy

variable {Digest : Type}

def isDamaged (row : Row Digest) : Bool :=
  row.state = .invalid || row.probe.sourceUnusable || row.probe.noUsableFrame

def rememberOriginalState (row : Row Digest) : RecordingState :=
  match row.probe.policy with
  | some policy => policy.previousState
  | none => row.state

def Row.marked (status : PolicyStatus) (row : Row Digest) : Row Digest :=
  { row with
    ignored := true
    probe := { row.probe with
      sourceDamaged := true
      policy := some ⟨rememberOriginalState row, status⟩ } }

def restorePolicyHidden (row : Row Digest) : Row Digest :=
  match row.probe.policy with
  | none => row
  | some policy =>
    if row.state = .deleted then row
    else { row with
      probe := { row.probe with policy := none }
      ignored := false
      state := if row.state = .ignored then policy.previousState else row.state }

inductive Action where
  | keep
  | hide
  | delete
  deriving DecidableEq

/-- Whether the policy may delete: the report of the safety checks, the path under the root, a
regular file there, and an `unlink` that succeeds -/
structure Deletable where
  safe : Bool
  regular : Bool
  unlinks : Bool

structure Outcome (Digest : Type) where
  row : Row Digest
  unlinked : Bool

def applyDamagedPolicy (action : Action) (deletable : Deletable) (row : Row Digest) :
    Outcome Digest :=
  if action = .keep ∨ isDamaged row = false then ⟨restorePolicyHidden row, false⟩
  else if row.missing then ⟨row, false⟩
  else if action = .hide then
    if row.ignored ∧ row.probe.policy.map Policy.status = some .hidden then ⟨row, false⟩
    else ⟨row.marked .hidden, false⟩
  else if deletable.safe ∧ deletable.regular ∧ deletable.unlinks then
    ⟨{ row.marked .deleted with missing := true, state := .deleted }, true⟩
  else ⟨row.marked .deleteBlocked, false⟩

-- The rows that `apply_known_damaged_policy` selects
def isKnown (action : Action) (row : Row Digest) : Bool :=
  !row.missing && (if action = .keep then row.ignored
    else row.state = .invalid || row.state = .ignored || row.probe.sourceDamaged)

end Policy

section System

structure File where
  bytes : List UInt8
  mtimeNs : ℤ

def File.stat (file : File) : Stat := ⟨file.bytes.length, file.mtimeNs⟩

inductive ScanPhase (Digest : Type) where
  | idle
  | looked (entry : Stat) (copy : Option (Row Digest))
  | scanned
  | policing (copy : Row Digest)

inductive RunPhase (Digest : Type) where
  | idle
  | running (copy : Row Digest) (bytes : Option (List UInt8))
  | ended (copy : Row Digest)

/-- `judged` has the bytes that the last verdict of an unusable file was about, and `deletions` what
was deleted with what had been judged. -/
structure World (Digest : Type) where
  file : File
  present : Bool
  row : Option (Row Digest)
  scan : ScanPhase Digest
  run : RunPhase Digest
  judged : List UInt8
  deletions : List (List UInt8 × List UInt8)

variable {Digest : Type} [DecidableEq Digest]

def World.store (before after : Row Digest) (w : World Digest) : World Digest :=
  { w with row := w.row.map (Row.write before after) }

def World.unlink (w : World Digest) : World Digest :=
  { w with present := false, deletions := (w.file.bytes, w.judged) :: w.deletions }

def World.police (action : Action) (deletable : Deletable) (copy : Row Digest) (w : World Digest) :
    World Digest :=
  let outcome := applyDamagedPolicy action deletable copy
  let stored := w.store copy outcome.row
  if outcome.unlinked then stored.unlink else stored

-- The row that a scan leaves which has loaded `copy`
def adopt (copy : Option (Row Digest)) (after : Row Digest) (stored : Option (Row Digest)) :
    Option (Row Digest) :=
  match copy with
  | none => some after
  | some before => stored.map (Row.write before after)

def judgedBy (verdict : Readiness) (judged : List UInt8) : List UInt8 :=
  if verdict = .invalid then [] else judged

inductive Scans : World Digest → World Digest → Prop
  | looks {w : World Digest} (idle : w.scan = .idle) (here : w.present = true) :
      Scans w { w with scan := .looked w.file.stat w.row }
  | reconciles {w : World Digest} {entry : Stat} {copy : Option (Row Digest)}
      (at_ : w.scan = .looked entry copy) (nowNs settleNs : ℤ) (reading : Reading Digest)
      {after : Row Digest} (made : reconcile entry nowNs settleNs reading copy = some after) :
      Scans w { w with
        row := adopt copy after w.row
        judged := judgedBy (assess entry nowNs settleNs (copy.map Row.seen)) w.judged
        scan := .scanned }
  | raises {w : World Digest} {entry : Stat} {copy : Option (Row Digest)}
      (at_ : w.scan = .looked entry copy) : Scans w { w with scan := .scanned }
  -- The walk has not found the file.
  | misses {w : World Digest} (idle : w.scan = .idle) (gone : w.present = false) :
      Scans w { w with
        row := w.row.map fun row => { row with missing := true }
        scan := .scanned }
  | selects {w : World Digest} {row : Row Digest} (at_ : w.scan = .scanned)
      (stored : w.row = some row) (action : Action) (known : isKnown action row = true) :
      Scans w { w with scan := .policing row }
  | polices {w : World Digest} {copy : Row Digest} (at_ : w.scan = .policing copy)
      (action : Action) (deletable : Deletable) (real : deletable.regular = true → w.present) :
      Scans w { w.police action deletable copy with scan := .idle }
  | ends {w : World Digest} : Scans w { w with scan := .idle }

inductive Runs : World Digest → World Digest → Prop
  | begins {w : World Digest} {row : Row Digest} (idle : w.run = .idle)
      (stored : w.row = some row) :
      Runs w { w.store row { row with state := .processing } with
        run := .running { row with state := .processing } none }
  | reads {w : World Digest} {copy : Row Digest} {bytes : Option (List UInt8)}
      (at_ : w.run = .running copy bytes) (here : w.present = true) :
      Runs w { w with run := .running copy (some w.file.bytes) }
  -- `stage_inspect` writes `probe_json`.
  | inspects {w : World Digest} {copy : Row Digest} {bytes : List UInt8}
      (at_ : w.run = .running copy (some bytes)) (warned unusable noUsableFrame : Bool) :
      Runs w { w.store copy { copy with
          probe := ⟨warned, unusable, noUsableFrame, copy.probe.policy⟩ } with
        run := .running { copy with
          probe := ⟨warned, unusable, noUsableFrame, copy.probe.policy⟩ } (some bytes)
        judged := if unusable || noUsableFrame then bytes else w.judged }
  | ends {w : World Digest} {copy : Row Digest} {bytes : Option (List UInt8)}
      (at_ : w.run = .running copy bytes) (state : RecordingState)
      (verdict : state = .completed ∨ state = .failed) :
      Runs w { w.store copy { copy with state := state } with
        run := .ended { copy with state := state } }
  | condemns {w : World Digest} {copy : Row Digest} {bytes : List UInt8}
      (at_ : w.run = .running copy (some bytes)) :
      Runs w { w.store copy { copy with state := .invalid } with
        run := .ended { copy with state := .invalid }
        judged := bytes }
  | polices {w : World Digest} {copy : Row Digest} (at_ : w.run = .ended copy) (action : Action)
      (deletable : Deletable) (real : deletable.regular = true → w.present) :
      Runs w { w.police action deletable copy with run := .idle }
  | dies {w : World Digest} : Runs w { w with run := .idle }

inductive Step : World Digest → World Digest → Prop
  | scans {w w' : World Digest} : Scans w w' → Step w w'
  | runs {w w' : World Digest} : Runs w w' → Step w w'
  -- `queue_unprocessed` and the queue
  | queues {w : World Digest} {row : Row Digest} (stored : w.row = some row)
      (state : RecordingState) (waits : state = .queued ∨ state = .discovered ∨ state = .failed) :
      Step w { w with row := some { row with state := state } }
  -- The file is replaced, or put back.
  | replaces {w : World Digest} (file : File) : Step w { w with file := file, present := true }
  | vanishes {w : World Digest} : Step w { w with present := false }

def World.Calm (w : World Digest) : Prop :=
  w.scan = .idle ∧ w.run = .idle ∧ ∀ row ∈ w.row, isDamaged row = false

def Settled (w w' : World Digest) : Prop :=
  Step w w' ∧ (w'.file.bytes ≠ w.file.bytes → w.Calm)

def World.Just (w : World Digest) : Prop :=
  ∀ deletion ∈ w.deletions, deletion.1 = deletion.2

def World.fresh (file : File) : World Digest := ⟨file, true, none, .idle, .idle, [], []⟩

end System

end DashcamStats.Indexing
