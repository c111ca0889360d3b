import DashcamStats.Duplicates.Preservation
import DashcamStats.Library.Run

namespace DashcamStats.Duplicates

def maxFiles : ℕ := 4
def maxBytes : ℤ := 256 * 1024 * 1024

structure DuplicateCleanupResult where
  attemptedFiles : ℕ
  verifiedFiles : ℕ
  deletedFiles : ℕ
  deletedBytes : ℤ
  retainedPreservations : ℕ
  skippedFiles : ℕ
  stopReason : Option String
deriving DecidableEq, Repr

def DuplicateCleanupResult.new : DuplicateCleanupResult := ⟨0, 0, 0, 0, 0, 0, none⟩

inductive Stage where
  | ended
  | looping
  | entering (item : RemoteFile)
  | preparing (item : RemoteFile)
  | parking (copy : Preservation)
  | verifying (copy : Preservation)
  | checking (copy : Preservation)
  | parkingAgain (copy : Preservation)
  | arming (copy : Preservation)
  | admitting (copy : Preservation)
  | deleting (copy : Preservation)
  | rechecking (copy : Preservation)
  | discarding (copy : Preservation)
  -- The discard of a cancelled pass.
  | cancelling (copy : Preservation)
  -- The discard after a failure.
  | clearing (copy : Preservation) (reason : String)
  -- The receipt after a failure of or behind the deletion.
  | retaining (copy : Preservation) (reason : String)
deriving DecidableEq, Repr

namespace Stage

def copy : Stage → Option Preservation
  | .parking copy => some copy
  | .verifying copy => some copy
  | .checking copy => some copy
  | .parkingAgain copy => some copy
  | .arming copy => some copy
  | .admitting copy => some copy
  | .deleting copy => some copy
  | .rechecking copy => some copy
  | .discarding copy => some copy
  | .cancelling copy => some copy
  | .clearing copy _ => some copy
  | .retaining copy _ => some copy
  | _ => none

def destructive : Stage → Bool
  | .deleting _ => true
  | .rechecking _ => true
  | .discarding _ => true
  | .retaining _ _ => true
  | _ => false

-- What `_local_io` is called with.
def work : Stage → Option Work
  | .preparing item => some (.opening item)
  | .checking copy => some (.hashing copy [])
  | .arming copy => some (.verifying copy)
  | .rechecking copy => some (.hashing copy [])
  | .discarding copy => some (.discarding copy .checking none)
  | .cancelling copy => some (.discarding copy .checking none)
  | .clearing copy _ => some (.discarding copy .checking none)
  | .retaining copy _ => some (.writing copy .retained .checking)
  | _ => none

-- Whether `_local_io` is called with a `late_cleanup`.
def late : Stage → Bool
  | .preparing _ => true
  | _ => false

end Stage

structure Worker where
  work : Work
  abandoned : Bool
  late : Bool
deriving DecidableEq, Repr

structure State where
  area : Area
  -- The threads of `_local_io` that run.
  workers : List Worker
  -- `_local_io_slot` is taken.
  slot : Bool
  stage : Stage
  -- The stage awaits its `_local_io`.
  waiting : Bool
  -- What the awaited thread has returned.
  reply : Option Result
  rest : List RemoteFile
  collisions : List String
  attemptedBytes : ℤ
  result : DuplicateCleanupResult
  -- History: the copies whose deletion was issued.
  issued : List Preservation
  -- History: the copies whose deletion was confirmed.
  confirmed : List Preservation
  -- History: the copies whose canonical file had the checksum after that.
  rehashed : List Preservation

inductive Event where
  | begin (candidates : List RemoteFile)
  | loop
  -- An operation other than `_local_io` comes back, or the next check holds.
  | proceed (answer : Bool)
  -- `_local_io` is called.
  | start
  -- The awaited `_local_io` comes back.
  | receive
  | fail (failure : Failure)
  | timeout
  | cancel
  -- A thread makes its next file operation.
  | work (thread : ℕ) (answer : Answer)
deriving DecidableEq, Repr

namespace State

def start (area : Area) : State where
  area := area
  workers := []
  slot := false
  stage := .ended
  waiting := false
  reply := none
  rest := []
  collisions := []
  attemptedBytes := 0
  result := .new
  issued := []
  confirmed := []
  rehashed := []

def enter (s : State) (stage : Stage) : State :=
  { s with stage := stage, waiting := false, reply := none }

-- `abandoned.set()`
def abandon (s : State) : State :=
  { s with workers := s.workers.map fun worker => { worker with abandoned := true } }

def retain (s : State) : State :=
  { s with
    result := { s.result with retainedPreservations := s.result.retainedPreservations + 1 } }

def continues (reason : String) : Bool :=
  reason = "preservation_pending" || reason = "local_not_regular_or_size_changed" ||
    reason = "local_identity_changed"

def conclude (s : State) (destructive : Bool) (reason : String) : State :=
  if !destructive && continues reason && !s.slot then
    { s with result := { s.result with stopReason := none } }.enter .looping
  else s.enter .ended

-- `except Exception`
def handle (s : State) (failure : Failure) : State :=
  let reason := failure.reason
  let t := { s with
    result := { s.result with
      skippedFiles := s.result.skippedFiles + 1
      stopReason := some reason } }
  match s.stage.copy with
  | none => t.conclude s.stage.destructive reason
  | some copy =>
    if s.stage.destructive ∨ s.slot then
      if s.slot then t.retain.conclude s.stage.destructive reason
      else t.retain.enter (.retaining copy reason)
    else t.enter (.clearing copy reason)

def raise (s : State) (failure : Failure) : State :=
  match s.stage with
  | .cancelling _ => s.enter .ended
  | .clearing _ reason => s.retain.conclude false reason
  | .retaining _ reason => s.conclude true reason
  | _ => s.handle failure

-- `except asyncio.CancelledError`
def handleCancelled (s : State) : State :=
  match s.stage with
  | .cancelling _ => s.enter .ended
  | .clearing _ _ => s.enter .ended
  | .retaining _ _ => s.enter .ended
  | stage =>
    match stage.copy with
    | none => s.enter .ended
    | some copy =>
      if stage.destructive ∨ s.slot then s.enter .ended else s.enter (.cancelling copy)

section Next

variable (hashes : Hashes) (safeName : String → Bool)

-- `begin` of a call.
def begin (s : State) (candidates : List RemoteFile) : State :=
  if s.slot then
    { s with result := { DuplicateCleanupResult.new with stopReason := some "local_io_pending" } }
  else
    { s with
      rest := candidates
      collisions :=
        (candidates.map RemoteFile.name).filter fun name =>
          1 < (candidates.map RemoteFile.name).count name
      attemptedBytes := 0
      result := .new }.enter .looping

def loop (s : State) : State :=
  match s.rest with
  | [] => s.enter .ended
  | item :: rest =>
    if maxFiles ≤ s.result.attemptedFiles then
      { s with result := { s.result with stopReason := some "file_budget" } }.enter .ended
    else if item.name ∈ s.collisions ∨ safeName item.name = false ∨ item.size ≤ 0 ∨
        maxBytes - s.attemptedBytes < item.size then
      { s with
        rest := rest
        result := { s.result with skippedFiles := s.result.skippedFiles + 1 } }
    else { s with rest := rest }.enter (.entering item)

def proceed (s : State) (answer : Bool) : Option State :=
  match s.stage with
  | .entering item =>
    some ({ s with
      attemptedBytes := s.attemptedBytes + item.size
      result := { s.result with attemptedFiles := s.result.attemptedFiles + 1 } }.enter
        (.preparing item))
  | .parking copy =>
    some (if answer then s.enter (.verifying copy) else s.handle (.refused "ignition_not_off"))
  | .verifying copy =>
    some (if answer then s.enter (.checking copy) else s.handle (.refused "remote_not_verified"))
  | .parkingAgain copy =>
    some (if answer then s.enter (.arming copy) else s.handle (.refused "ignition_not_off"))
  | .admitting copy => some ({ s with issued := copy :: s.issued }.enter (.deleting copy))
  | .deleting copy =>
    some (
      if answer then
        { s with
          confirmed := copy :: s.confirmed
          result := { s.result with
            deletedFiles := s.result.deletedFiles + 1
            deletedBytes := s.result.deletedBytes + copy.size } }.enter (.rechecking copy)
      else s.handle (.refused "delete_unconfirmed"))
  | _ => none

-- `_local_io` up to its await.
def startLocal (s : State) : Option State :=
  s.stage.work.map fun work =>
    if s.slot then s.raise (.refused "local_io_pending")
    else
      { s with
        slot := true
        workers := s.workers ++ [⟨work, false, s.stage.late⟩]
        waiting := true
        reply := none }

-- The await of `_local_io` is over.
def receive (s : State) (result : Result) : Option State :=
  match s.stage, result with
  | _, .raised failure => some (s.raise failure)
  | .preparing _, .copy copy => some (s.enter (.parking copy))
  | .checking copy, .matches_ true =>
    some ({ s with
      result := { s.result with verifiedFiles := s.result.verifiedFiles + 1 } }.enter
        (.parkingAgain copy))
  | .checking _, .matches_ false => some (s.handle (.refused "local_identity_changed"))
  | .arming copy, .done => some (s.enter (.admitting copy))
  | .rechecking copy, .matches_ true =>
    some ({ s with rehashed := copy :: s.rehashed }.enter (.discarding copy))
  | .rechecking _, .matches_ false => some (s.handle (.refused "canonical_changed_after_delete"))
  | .discarding _, .done => some (s.enter .looping)
  | .cancelling _, .done => some (s.enter .ended)
  | .clearing _ reason, .done => some (s.conclude false reason)
  | .retaining _ reason, .done => some (s.conclude true reason)
  | _, _ => none

def finish (s : State) (thread : ℕ) (worker : Worker) (result : Result) : State :=
  let released :=
    { s with
      workers := s.workers.eraseIdx thread
      slot := false
      reply := if worker.abandoned then s.reply else some result }
  match result with
  | .copy copy =>
    if worker.abandoned && worker.late then
      { s with
        workers := s.workers.set thread
          { worker with work := .discarding copy .checking none, late := false } }
    else released
  | _ => released

def workThread (s : State) (thread : ℕ) (answer : Answer) : Option State :=
  match s.workers[thread]? with
  | none => none
  | some worker =>
    (operate hashes s.area worker.work answer).map fun (area, outcome) =>
      match outcome with
      | .inl work =>
        { s with area := area, workers := s.workers.set thread { worker with work := work } }
      | .inr result => { s with area := area }.finish thread worker result

def next (s : State) : Event → Option State
  | .begin candidates => if s.stage = .ended then some (s.begin candidates) else none
  | .loop => if s.stage = .looping then some (s.loop safeName) else none
  | .proceed answer => s.proceed answer
  | .start => if s.waiting then none else s.startLocal
  | .receive => if s.waiting then s.reply.bind s.receive else none
  | .fail failure =>
    if s.waiting ∨ s.stage = .ended ∨ s.stage = .looping then none else some (s.raise failure)
  | .timeout => if s.waiting then some (s.abandon.raise .timeout) else none
  | .cancel =>
    if s.stage = .ended ∨ s.stage = .looping then none
    else if s.waiting then some s.abandon.handleCancelled
    else some s.handleCancelled
  | .work thread answer => s.workThread hashes thread answer

def step (s : State) (e : Event) (t : State) : Prop := s.next hashes safeName e = some t

end Next

end State

end DashcamStats.Duplicates
