import DashcamStats.Ble.Session

namespace DashcamStats.Ble

open Elm (Text normalize)

inductive Outcome where
  | returned (response : Text)
  -- with `promptRecovered`
  | recovered
  | thrown
  deriving DecidableEq

/-- The three `requirePromptBoundary` of the recovery -/
inductive Boundary where
  | first
  | second
  | third
  deriving DecidableEq

/-- Where `executeCommand` is; a number is that of its writing -/
inductive Stage where
  -- before `beginCommand`
  | gap
  | begun (n : ℕ)
  -- its deferred is the `response`
  | assigned (n : ℕ)
  | awaiting (n : ℕ)
  | checking (n : ℕ)
  | aborting (n : ℕ)
  | draining (n : ℕ)
  | bounding (n : ℕ) (boundary : Boundary)
  -- the delay before a boundary
  | settling (n : ℕ) (boundary : Boundary)
  -- a call of its own is above it
  | confirming (n : ℕ)
  | tainting (n : ℕ)
  | leaving (n : ℕ) (outcome : Outcome)
  deriving DecidableEq

structure Frame where
  command : Text
  recoverOptionalTimeout : Bool
  stage : Stage
  deriving DecidableEq

inductive Deferred where
  | pending
  | completed (response : Text)
  | failed
  deriving DecidableEq

inductive Callback where
  | idle
  | noticed (fragment : List UInt8)
  -- `pending` has been read.
  | held (fragment : List UInt8) (pending : Option ℕ)
  | completing (pending : Option ℕ) (response : Text)
  | failing (pending : Option ℕ)
  -- `onConnectionStateChange`
  | losing
  | lost
  deriving DecidableEq

inductive Input where
  | command (n : ℕ) (command : Text)
  | space
  deriving DecidableEq

structure Link where
  session : Session
  response : Option ℕ
  deferred : ℕ → Deferred
  -- The call that has the mutex, the innermost first
  stack : List Frame
  callback : Callback
  -- Neither closed nor, later, forgotten
  isOpen : Bool
  gatt : Bool
  -- What the adapter has not read yet, and what has not been notified yet
  queue : List Input
  answering : Option ℕ
  air : List UInt8
  writings : ℕ
  sent : List (ℕ × Text)
  answers : ℕ → List UInt8
  returned : List (ℕ × Text × Text)

inductive Written where
  | accepted
  | rejected
  | thrown
  deriving DecidableEq

inductive Signal where
  | go
  | timeout
  -- also by the limit of the recovery around it
  | cancel
  | write (written : Written) (arrives : Bool)

inductive Event where
  | enter (command : Text) (recoverOptionalTimeout : Bool)
  | call (signal : Signal)
  | notify (length : ℕ)
  | lose
  | callback
  | read
  | emit (byte : UInt8)
  -- a reply that cannot be what was asked for
  | taint
  | close
  | forget
  | disconnected

def connected : Link where
  session := .freshConnection
  response := none
  deferred _ := .pending
  stack := []
  callback := .idle
  isOpen := true
  gatt := true
  queue := []
  answering := none
  air := []
  writings := 0
  sent := []
  answers _ := []
  returned := []

namespace Link

variable (s : Link)

def throwTo (below : List Frame) : Link :=
  match below with
  | [] => { s with stack := [] }
  | outer :: rest => match outer.stage with
    | .confirming n => { s with stack := { outer with stage := .tainting n } :: rest }
    | _ => { s with stack := outer :: rest }

def returnTo (n : ℕ) (command response : Text) (below : List Frame) : Link :=
  let s := { s with returned := s.returned ++ [(n, command, response)] }
  match below with
  | [] => { s with stack := [] }
  | outer :: rest => match outer.stage with
    | .confirming m => { s with
        stack := { outer with
          stage := if isOptionalRecoveryConfirmation response then .settling m .third
            else .tainting m } :: rest }
    | _ => { s with stack := outer :: rest }

def writeTo (input : Input) (arrives : Bool) : Link :=
  if arrives then { s with queue := s.queue ++ [input] } else s

/-- `executeCommand`, from what it awaits or has done to the next -/
def advance (frame : Frame) (below : List Frame) (signal : Signal) : Option Link :=
  let at_ (s : Link) (stage : Stage) : Link := { s with stack := { frame with stage } :: below }
  match frame.stage, signal with
  | .gap, .cancel => some (s.throwTo below)
  | .gap, .go => match s.session.beginCommand with
    | none => some (s.throwTo below)
    | some session =>
      some (at_ { s with
        session := session
        writings := s.writings + 1 } (.begun s.writings))
  | .begun n, .go => some (at_ { s with response := some n } (.assigned n))
  | .assigned n, .write written arrives =>
    if (arrives || decide (written = .accepted)) && !s.isOpen then none
    else
      let s := s.writeTo (.command n frame.command) arrives
      match written with
      | .accepted => some (at_ { s with sent := s.sent ++ [(n, frame.command)] } (.awaiting n))
      | .rejected => some (at_ s (.tainting n))
      | .thrown => some (at_ s (.leaving n .thrown))
  | .awaiting n, .go => match s.deferred n with
    | .pending => none
    | .completed response => some (at_ s (.leaving n (.returned response)))
    | .failed => some (at_ s (.tainting n))
  | .awaiting n, .timeout =>
    some (at_ s (if frame.recoverOptionalTimeout then .checking n else .tainting n))
  | .awaiting n, .cancel => some (at_ s (.tainting n))
  | .checking n, .go =>
    some (at_ s (if s.deferred n = .pending then .aborting n else .draining n))
  | .aborting n, .write written arrives =>
    if (arrives || decide (written = .accepted)) && !s.isOpen then none
    else
      some (at_ (s.writeTo .space arrives)
        (if written = .accepted then .draining n else .tainting n))
  | .draining n, .go => match s.deferred n with
    | .pending => none
    | .completed _ => some (at_ s (.bounding n .first))
    | .failed => some (at_ s (.tainting n))
  | .bounding n boundary, .go =>
    if !s.session.atBoundary then some (at_ s (.tainting n))
    else match boundary with
      | .first => some (at_ s (.settling n .second))
      | .second =>
        if s.gatt then
          let s := at_ s (.confirming n)
          some { s with stack := ⟨normalize "ATE0".toList, false, .gap⟩ :: s.stack }
        else some (at_ s (.tainting n))
      | .third => some (at_ s (.leaving n .recovered))
  | .settling n boundary, .go => some (at_ s (.bounding n boundary))
  | .draining n, .cancel | .bounding n _, .cancel | .settling n _, .cancel =>
    some (at_ s (.tainting n))
  | .tainting n, .go => some (at_ { s with session := s.session.taint } (.leaving n .thrown))
  | .leaving n outcome, .go =>
    let s := { s with response := none }
    match outcome with
    | .returned response => some (s.returnTo n frame.command response below)
    | .recovered | .thrown => some (s.throwTo below)
  | _, _ => none

def complete (pending : Option ℕ) (deferred : Deferred) : Link :=
  match pending with
  | none => s
  | some n =>
    if s.deferred n = .pending then
      { s with deferred := Function.update s.deferred n deferred }
    else s

/-- The callbacks, the private `accept` among them -/
def callBack (maximumBytes : ℕ) : Option Link :=
  match s.callback with
  | .idle => none
  | .noticed fragment => some { s with callback := .held fragment s.response }
  | .held fragment pending =>
    let accepted := s.session.accept maximumBytes fragment
    some { s with
      session := accepted.2
      callback := match accepted.1 with
        | .complete response => .completing pending response
        | .overflow | .trailingData | .unexpectedData => .failing pending
        | .ignored | .pending => .idle }
  | .completing pending response =>
    some { s.complete pending (.completed response) with callback := .idle }
  | .failing pending => some { s.complete pending .failed with callback := .idle }
  | .losing => some { s with
      session := s.session.taint
      callback := .lost }
  | .lost => some { s with callback := .failing s.response }

/-- The adapter takes a command when it has answered the one before. What it answers to a command
that a space interrupts may be anything too, so that the space changes nothing here. -/
def read : Option Link :=
  match s.queue, s.answering with
  | .space :: rest, _ => some { s with queue := rest }
  | .command n _ :: rest, none => some { s with
      queue := rest
      answering := some n }
  | _, _ => none

def emit (byte : UInt8) : Option Link :=
  s.answering.map fun n => { s with
    answers := Function.update s.answers n (s.answers n ++ [byte])
    air := s.air ++ [byte]
    answering := if byte = prompt then none else some n }

def step (maximumBytes : ℕ) : Event → Option Link
  | .enter command recoverOptionalTimeout =>
    if s.stack = [] ∧ s.gatt then
      some { s with stack := [⟨normalize command, recoverOptionalTimeout, .gap⟩] }
    else none
  | .call signal => match s.stack with
    | [] => none
    | frame :: below => s.advance frame below signal
  | .notify length => if s.callback = .idle then
      some { s with
        callback := .noticed (s.air.take length)
        air := s.air.drop length }
    else none
  | .lose => if s.callback = .idle then some { s with callback := .losing } else none
  | .callback => s.callBack maximumBytes
  | .read => s.read
  | .emit byte => s.emit byte
  | .taint => some { s with session := s.session.taint }
  | .close => some { s with isOpen := false }
  | .forget => if s.isOpen then none else some { s with gatt := false }
  | .disconnected =>
    if s.isOpen || s.gatt then none else some { s with session := s.session.disconnected }

end Link

def Step (maximumBytes : ℕ) (s s' : Link) : Prop := ∃ event, s.step maximumBytes event = some s'

end DashcamStats.Ble
