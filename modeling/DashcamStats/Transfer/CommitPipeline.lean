import DashcamStats.Library.Run

namespace DashcamStats.Transfer.CommitPipeline

inductive Exc where
  | cancelled
  | failure (text : String)
  deriving DecidableEq

-- The worker waits for a chunk, is inside the handler, has been cancelled, or has ended.
inductive Worker where
  | waiting
  | handling (chunk : ℕ)
  | stopping
  | ended
  deriving DecidableEq

-- A submit waits for room, or runs the handler itself where there is no worker.
inductive Submitter where
  | idle
  | putting
  | inline (chunk : ℕ)
  deriving DecidableEq

inductive Closer where
  | notYet
  | joining
  | joined
  | stopping
  | closed
  deriving DecidableEq

-- Chunks are numbered as they are accepted. From `accepted` on the fields are history.
structure Pipeline where
  maxsize : ℕ
  queue : List ℕ := []
  unfinished : ℕ := 0
  worker : Worker := .waiting
  attached : Bool := true
  error : Option String := none
  failed : Bool := false
  submitter : Submitter := .idle
  closer : Closer := .notYet
  discard : Bool := false
  cancelled : Bool := false
  accepted : ℕ := 0
  begun : List ℕ := []
  completed : List ℕ := []
  dropped : List ℕ := []
  reported : Option ℕ := none
  struck : Bool := false
  late : Bool := false
  deriving DecidableEq

inductive Event where
  | submits
  | puts
  | abandons
  | takes
  | returns
  | raises (exc : Exc)
  | inlineReturns
  | inlineRaises (exc : Exc)
  | closes (discard : Bool)
  | cancelsCloser
  | joins
  | cancelsWorker
  | workerStops
  | closeEnds
  deriving DecidableEq

namespace Pipeline

def started (depth : ℤ) : Pipeline := { maxsize := (max 1 depth).toNat }

-- A handler begins; `late` is that one had failed before.
def begin_ (s : Pipeline) (chunk : ℕ) : Pipeline :=
  { s with begun := s.begun ++ [chunk], late := s.late || s.struck }

-- `_raise_if_failed` with an error: it is reported once.
def report (s : Pipeline) : Pipeline :=
  { s with error := none, reported := s.reported.or (some s.accepted) }

def submit (s : Pipeline) : Pipeline :=
  if s.attached then
    match s.error with
    | some _ => s.report
    | none => { s with submitter := .putting }
  else
    { s.begin_ s.accepted with submitter := .inline s.accepted, accepted := s.accepted + 1 }

def put (s : Pipeline) : Pipeline :=
  { s with
    queue := s.queue ++ [s.accepted]
    unfinished := s.unfinished + 1
    accepted := s.accepted + 1
    submitter := .idle }

def take (s : Pipeline) (chunk : ℕ) (rest : List ℕ) : Pipeline :=
  if s.failed then { s with queue := rest, unfinished := s.unfinished - 1 }
  else { s.begin_ chunk with queue := rest, worker := .handling chunk }

def handlerRaises (s : Pipeline) : Exc → Pipeline
  | .cancelled => { s with unfinished := s.unfinished - 1, worker := .ended, struck := true }
  | .failure text =>
    { s with
      failed := true
      error := s.error.or (some text)
      unfinished := s.unfinished - 1
      worker := .waiting
      struck := true }

def close (s : Pipeline) (discard : Bool) : Pipeline :=
  if s.closer = .notYet then
    { s with
      attached := false
      closer := .joining
      discard := discard
      queue := if discard then [] else s.queue
      unfinished := if discard then s.unfinished - s.queue.length else s.unfinished
      dropped := if discard then s.dropped ++ s.queue else s.dropped }
  else s

def cancelWorker (s : Pipeline) : Pipeline :=
  match s.worker with
  | .waiting => { s with closer := .stopping, worker := .stopping }
  | .handling _ => { s.handlerRaises .cancelled with closer := .stopping }
  | _ => { s with closer := .stopping }

def closeEnd (s : Pipeline) : Pipeline :=
  if s.cancelled || s.discard then { s with closer := .closed }
  else
    match s.error with
    | some _ => { s.report with closer := .closed }
    | none => { s with closer := .closed }

def next (s : Pipeline) : Event → Option Pipeline
  | .submits => if s.submitter = .idle then some s.submit else none
  | .puts =>
    if s.submitter = .putting ∧ s.queue.length < s.maxsize then some s.put else none
  | .abandons => if s.submitter = .putting then some { s with submitter := .idle } else none
  | .takes =>
    match s.worker, s.queue with
    | .waiting, chunk :: rest => some (s.take chunk rest)
    | _, _ => none
  | .returns =>
    match s.worker with
    | .handling chunk =>
      some
        { s with
          completed := s.completed ++ [chunk]
          unfinished := s.unfinished - 1
          worker := .waiting }
    | _ => none
  | .raises exc =>
    match s.worker with
    | .handling _ => some (s.handlerRaises exc)
    | _ => none
  | .inlineReturns =>
    match s.submitter with
    | .inline chunk => some { s with completed := s.completed ++ [chunk], submitter := .idle }
    | _ => none
  | .inlineRaises _ =>
    match s.submitter with
    | .inline _ => some { s with submitter := .idle, struck := true }
    | _ => none
  | .closes discard => some (s.close discard)
  | .cancelsCloser =>
    if s.closer = .notYet ∨ s.closer = .closed then none else some { s with cancelled := true }
  | .joins =>
    if s.closer = .joining ∧ s.unfinished = 0 then some { s with closer := .joined } else none
  | .cancelsWorker => if s.closer = .joined then some s.cancelWorker else none
  | .workerStops => if s.worker = .stopping then some { s with worker := .ended } else none
  | .closeEnds =>
    if s.closer = .stopping ∧ s.worker = .ended then some s.closeEnd else none

end Pipeline

def Steps (s : Pipeline) (e : Event) (t : Pipeline) : Prop := s.next e = some t

def Early (s : Pipeline) (chunk : ℕ) : Prop :=
  chunk < s.accepted ∧ ∀ told, s.reported = some told → chunk < told

/-- What is promised of every state: one handler in the order of submission, none after a failure,
every chunk accounted for, and nobody waiting on a worker that has ended. -/
structure Safe (s : Pipeline) : Prop where
  single : ∀ chunk other, s.worker = .handling chunk → s.submitter ≠ .inline other
  ordered : s.begun.Pairwise (· < ·)
  stopped : s.late = false
  accounted : ∀ chunk, Early s chunk →
    chunk ∈ s.completed ∨ chunk ∈ s.queue ∨ s.worker = .handling chunk ∨ chunk ∈ s.dropped ∨
      s.struck = true ∧ (s.reported.isSome ∨ s.error.isSome ∧ s.closer ≠ .closed)
  waited : s.worker = .ended → s.unfinished ≠ 0 →
    s.submitter ≠ .putting ∧ s.closer ≠ .joining

/-- The handler raises no CancelledError, close is called when no submit is under way and no submit
after it, and a close that is cancelled or discards does not end on a failure nobody was told. -/
def Allowed (s : Pipeline) : Event → Prop
  | .submits => s.closer = .notYet
  | .raises exc => exc ≠ .cancelled
  | .closes _ => s.closer = .notYet → s.submitter = .idle
  | .closeEnds => s.error = none ∨ s.cancelled = false ∧ s.discard = false
  | _ => True

instance (s : Pipeline) : (e : Event) → Decidable (Allowed s e)
  | .submits => inferInstanceAs (Decidable (_ = _))
  | .raises _ => inferInstanceAs (Decidable (_ ≠ _))
  | .closes _ => inferInstanceAs (Decidable (_ → _))
  | .closeEnds => inferInstanceAs (Decidable (_ ∨ _))
  | .puts | .abandons | .takes | .returns | .inlineReturns | .inlineRaises _ | .cancelsCloser
  | .joins | .cancelsWorker | .workerStops => .isTrue trivial

end DashcamStats.Transfer.CommitPipeline
