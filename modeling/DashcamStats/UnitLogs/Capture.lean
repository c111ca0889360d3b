import Mathlib.Data.Nat.Notation
import Mathlib.Logic.Function.Basic

namespace DashcamStats.UnitLogs.Capture

/-- A detached capture, from its shell to its `logcat` -/
inductive Writer where
  | absent
  -- The pid file is still to be written.
  | starting
  | ready
  | writing
  | dead
  deriving DecidableEq

def Writer.alive : Writer → Bool
  | .absent | .dead => false
  | _ => true

inductive Stage (Line : Type) where
  | absent
  | created
  -- The consuming read looks for the pid file.
  | stopping
  | waiting (writer : ℕ)
  | reading
  | storing (lines : List Line)
  | ensuring
  | killing
  | removing
  | launching
  | replying
  | finished
  -- The done callback has run.
  | called
  deriving DecidableEq

structure Task (Line : Type) where
  arrival : Bool
  stage : Stage Line
  -- No distinct request has been made since it was created.
  fresh : Bool

def Stage.unfinished {Line : Type} : Stage Line → Bool
  | .absent | .finished | .called => false
  | _ => true

/-- `request` is the last one of `_arrival_requests`, `current` that of `_tasks_by_address`. What was
imported, dropped as silenced, and is owed to a request is history. -/
structure Logs (Line Hash Request Policy : Type) where
  pidFile : Option ℕ
  files : List Line
  writer : ℕ → Writer
  launched : ℕ
  task : ℕ → Task Line
  created : ℕ
  current : Option ℕ
  pending : Bool
  needs : Bool
  request : Option Request
  enabled : Bool
  shutting : Bool
  policy : Policy
  imported : List Hash
  dropped : List Line
  owed : Bool

inductive Event (Line Request Policy : Type) where
  /-- `on_unit_seen`, without a request for a caller without a token or an invalid policy; `due` if
  the last refresh is long enough ago -/
  | seen (request : Option Request) (due : Bool)
  | present (due : Bool)
  | advance (task : ℕ) (choice : Bool)
  | callback (task : ℕ)
  | enable (enabled : Bool)
  | silence (policy : Policy)
  | shutdown
  | writePid (writer : ℕ)
  | exec (writer : ℕ)
  | write (writer : ℕ) (line : Line)
  | die (writer : ℕ)

section

variable {Line Hash Request Policy : Type} [DecidableEq Request]
  (hash : Line → Hash) (silenced : Policy → Line → Bool)

namespace Logs

def fresh (policy : Policy) : Logs Line Hash Request Policy where
  pidFile := none
  files := []
  writer := fun _ => .absent
  launched := 0
  task := fun _ => ⟨false, .absent, false⟩
  created := 0
  current := none
  pending := false
  needs := false
  request := none
  enabled := true
  shutting := false
  policy := policy
  imported := []
  dropped := []
  owed := false

variable (s : Logs Line Hash Request Policy)

def busy : Bool := s.current.any fun number => (s.task number).stage.unfinished

def startTask (arrival : Bool) : Logs Line Hash Request Policy :=
  { s with
    task := Function.update s.task s.created ⟨arrival, .created, true⟩
    created := s.created + 1
    current := some s.created }

def go (number : ℕ) (stage : Stage Line) : Logs Line Hash Request Policy :=
  { s with task := Function.update s.task number { s.task number with stage } }

def become (number : ℕ) (writer : Writer) : Logs Line Hash Request Policy :=
  { s with writer := Function.update s.writer number writer }

def onUnitPresent (due : Bool) : Logs Line Hash Request Policy :=
  if s.shutting || !s.enabled || s.busy || !due then s else s.startTask s.needs

def ask (request : Request) : Logs Line Hash Request Policy :=
  { s with
    request := some request
    owed := true
    task := fun number => { s.task number with fresh := false } }

-- The end of `on_unit_seen`
def arrive : Logs Line Hash Request Policy :=
  if s.busy then { s with pending := true } else s.startTask true

def onUnitSeen (request : Option Request) (due : Bool) : Logs Line Hash Request Policy :=
  if s.shutting || !s.enabled then s
  else match request with
    | none => s.arrive
    | some request =>
      if s.request = some request then
        if s.needs then s.onUnitPresent due else s
      else (s.ask request).arrive

-- `store` of what is not silenced
def store (lines : List Line) : Logs Line Hash Request Policy :=
  { s with
    imported := (lines.filter fun line => !silenced s.policy line).map hash ++ s.imported
    dropped := lines.filter (silenced s.policy) ++ s.dropped }

def advance (number : ℕ) (choice : Bool) : Option (Logs Line Hash Request Policy) :=
  let task := s.task number
  match task.stage with
  | .absent | .finished | .called => none
  | .created => some (if task.arrival then { s with needs := true }.go number .stopping
      else s.go number .reading)
  | .stopping => some (if choice then
      match s.pidFile with
      | none => s.go number .reading
      | some writer => if (s.writer writer).alive then s.go number (.waiting writer)
          else s.go number .reading
      else s.go number .finished)
  | .waiting writer => some (s.go number
      (if choice && !(s.writer writer).alive then .reading else .finished))
  | .reading => some (s.go number (if choice then .storing s.files else .finished))
  | .storing lines => some (if choice then
      (s.store hash silenced lines).go number (if task.arrival then .ensuring else .finished)
      else s.go number .finished)
  | .ensuring => some (s.go number (if choice then .killing else .finished))
  -- A writer that gets the signal dies by an event of its own.
  | .killing => some (s.go number (if choice then .removing else .finished))
  | .removing => some (if choice then
      { s with files := [], pidFile := none }.go number .launching else s.go number .finished)
  | .launching => some (if choice then
      { s.become s.launched .starting with launched := s.launched + 1 }.go number .replying
      else s.go number .finished)
  | .replying => some (if choice then
      { s with needs := false, owed := s.owed && !task.fresh }.go number .finished
      else s.go number .finished)

-- `_task_finished`
def callback (number : ℕ) : Option (Logs Line Hash Request Policy) :=
  match (s.task number).stage with
  | .finished =>
    let owns := decide (s.current = some number)
    let popped := { s with current := if owns then none else s.current }.go number .called
    some (if owns && popped.pending && !popped.shutting then
      let taken := { popped with pending := false }
      if taken.enabled then taken.startTask true else taken
      else popped)
  | _ => none

def step (event : Event Line Request Policy) : Option (Logs Line Hash Request Policy) :=
  match event with
  | .seen request due => some (s.onUnitSeen request due)
  | .present due => some (s.onUnitPresent due)
  | .advance number choice => s.advance hash silenced number choice
  | .callback number => s.callback number
  | .enable enabled => some { s with enabled }
  | .silence policy => some { s with policy }
  | .shutdown => some { s with shutting := true }
  | .writePid number =>
    if s.writer number = .starting then
      some { s.become number .ready with pidFile := some number }
    else none
  | .exec number => if s.writer number = .ready then some (s.become number .writing) else none
  | .write number line =>
    if s.writer number = .writing then some { s with files := s.files ++ [line] } else none
  | .die number => if (s.writer number).alive then some (s.become number .dead) else none

/-- The arm command is about to remove the capture files, and every line in them has been imported
or was dropped as silenced. -/
def Acknowledged : Prop := ∀ number, (s.task number).stage = .removing →
  ∀ line ∈ s.files, hash line ∈ s.imported ∨ line ∈ s.dropped

def Remembered : Prop :=
  (∀ number, (s.task number).stage = .absent ∨ (s.task number).stage = .called) →
    s.enabled = true → s.shutting = false → s.owed = true → s.needs = true

end Logs

/-- No capture is still starting when a consuming read looks for the pid file, and the setting is on
when a done callback takes up a pending arrival that is owed. -/
def Event.Orderly (s : Logs Line Hash Request Policy) : Event Line Request Policy → Prop
  | .advance number choice => choice = true → (s.task number).stage = .stopping →
    ∀ writer, s.writer writer ≠ .starting
  | .callback number => s.current = some number → s.pending = true → s.owed = true →
    s.shutting = false → s.enabled = true
  | _ => True

def Step (s s' : Logs Line Hash Request Policy) : Prop :=
  ∃ event, s.step hash silenced event = some s'

def OrderlyStep (s s' : Logs Line Hash Request Policy) : Prop :=
  ∃ event : Event Line Request Policy, event.Orderly s ∧ s.step hash silenced event = some s'

end

end DashcamStats.UnitLogs.Capture
