import DashcamStats.Library.Run

namespace DashcamStats.Sleep

inductive SleepWindowEvent where
  | started | wifiBecamePresent | wifiLost
  | ingestionStarted | ingestionAbsenceObserved | ingestionEnded
  | accBecameOn | accBecameOff
deriving DecidableEq, Repr

inductive Policy where
  | managedActive | awaitingIngestionState | managedIdle
deriving DecidableEq, Repr

structure SleepWindowCommand where
  policy : Policy
  targetSeconds : Option ℕ
deriving DecidableEq, Repr

/-- `LoggerPreferences` as far as the controller reads them. -/
structure Config where
  backupAwakeSeconds : ℕ
  idleAwakeSeconds : ℕ
deriving DecidableEq, Repr

structure ControllerState where
  wifiConnected : Bool
  accStateKnown : Bool
  accOn : Bool
  ingestionStateKnown : Bool
  ingestionRequestActive : Bool
  ingestionCompleted : Bool
deriving DecidableEq, Repr

def active (config : Config) : SleepWindowCommand where
  policy := .managedActive
  targetSeconds := some config.backupAwakeSeconds

def idle (config : Config) : SleepWindowCommand where
  policy := .managedIdle
  targetSeconds := some config.idleAwakeSeconds

def awaiting : SleepWindowCommand where
  policy := .awaitingIngestionState
  targetSeconds := none

def sleepWindowCommand (event : SleepWindowEvent) (state : ControllerState) (config : Config) :
    SleepWindowCommand :=
  match event with
  | .started =>
    if state.wifiConnected || state.ingestionRequestActive then active config
    else if !state.ingestionStateKnown then awaiting
    else idle config
  | .wifiBecamePresent => active config
  | .ingestionStarted => active config
  | .wifiLost =>
    if state.ingestionRequestActive then active config
    else if !state.ingestionStateKnown then awaiting
    else idle config
  | .ingestionAbsenceObserved =>
    -- a request that is active by now is not looked at
    if state.wifiConnected then active config
    else if !state.ingestionStateKnown then awaiting
    else idle config
  | .ingestionEnded =>
    if !state.wifiConnected then idle config
    else if state.accStateKnown && !state.accOn then idle config
    else active config
  | .accBecameOn =>
    if state.wifiConnected || state.ingestionRequestActive then active config
    else if !state.ingestionStateKnown then awaiting
    else idle config
  | .accBecameOff =>
    if state.ingestionRequestActive then active config
    else if !state.wifiConnected then
      if state.ingestionStateKnown then idle config else awaiting
    else if state.ingestionCompleted then idle config
    else active config

def SleepWindowEvent.released : SleepWindowEvent → Bool
  | .ingestionEnded => true
  | .ingestionAbsenceObserved => true
  | _ => false

theorem command_of_active {event : SleepWindowEvent} {state : ControllerState} (config : Config)
    (requested : state.ingestionRequestActive = true) (other : event.released = false) :
    sleepWindowCommand event state config = active config := by
  cases event <;> simp_all [sleepWindowCommand, SleepWindowEvent.released]

/-- What `refreshAccState` does next. -/
inductive Refresh where
  | reading
  | noting (observed : Option Bool)
  | telling (event : SleepWindowEvent)
deriving DecidableEq, Repr

structure Job where
  event : SleepWindowEvent
  state : ControllerState
  command : SleepWindowCommand
deriving DecidableEq, Repr

inductive Work where
  | receiving
  | refreshing (event : SleepWindowEvent) (refresh : Refresh)
  | taking (event : SleepWindowEvent)
  | loading (event : SleepWindowEvent) (state : ControllerState)
  -- The transactions of `SleepWindowReconciler.reconcile`.
  | before (job : Job) (attempt : ℕ) (refresh : Refresh)
  | reading (job : Job) (attempt : ℕ)
  | writing (job : Job) (attempt : ℕ)
  | rereading (job : Job) (attempt : ℕ)
  | after (job : Job) (attempt : ℕ) (observed : Option ℕ) (refresh : Refresh)
  | pausing (job : Job) (attempt : ℕ)
deriving DecidableEq, Repr

structure Transaction where
  command : SleepWindowCommand
  observedSeconds : Option ℕ
deriving DecidableEq, Repr

def Transaction.verified (t : Transaction) : Bool :=
  t.command.targetSeconds.isSome && decide (t.observedSeconds = t.command.targetSeconds)

inductive Starter where
  | probing | announcing | done
deriving DecidableEq, Repr

structure World where
  state : ControllerState
  currentDefaultNetwork : Option ℕ
  changes : List SleepWindowEvent
  starter : Starter
  -- What a thread has decided under the lock and not yet sent.
  caller : Option SleepWindowEvent
  callback : Option SleepWindowEvent
  poller : Option Refresh
  worker : Work
  evidence : Option Transaction
deriving DecidableEq, Repr

inductive Event where
  | probe (network : Option ℕ) (wifi : Bool)
  | announce
  | setIngestionRequestActive (active : Bool)
  | sendRequest
  | onAvailable (network : ℕ)
  | onCapabilitiesChanged (network : ℕ) (wifi : Bool)
  | onLost (network : ℕ)
  | sendNetwork
  -- The poller goes on; `acc` is what the setting reads.
  | poll (acc : Option Bool)
  | receive
  | timeout
  -- The worker goes on; `acc` and `seconds` are what the setting and the property read.
  | work (acc : Option Bool) (seconds : Option ℕ) (config : Config)
deriving DecidableEq, Repr

def retryDelays : ℕ := 3

namespace World

def start : World where
  state := {
    wifiConnected := false
    accStateKnown := false
    accOn := false
    ingestionStateKnown := false
    ingestionRequestActive := false
    ingestionCompleted := false }
  currentDefaultNetwork := none
  changes := []
  starter := .probing
  caller := none
  callback := none
  poller := some .reading
  worker := .receiving
  evidence := none

-- The section of `setIngestionRequestActive` under the lock.
def request (state : ControllerState) (active : Bool) :
    ControllerState × Option SleepWindowEvent :=
  let known := { state with ingestionStateKnown := true }
  if !state.ingestionStateKnown then
    ({ known with
        ingestionRequestActive := active
        ingestionCompleted := if active then false else state.ingestionCompleted },
      some (if active then .ingestionStarted else .ingestionAbsenceObserved))
  else if state.ingestionRequestActive != active then
    ({ known with ingestionRequestActive := active, ingestionCompleted := !active },
      some (if active then .ingestionStarted else .ingestionEnded))
  else (known, none)

-- The section of `onCapabilitiesChanged` under the lock.
def capabilities (state : ControllerState) (wifi : Bool) :
    ControllerState × Option SleepWindowEvent :=
  if !state.wifiConnected && wifi then
    ({ state with wifiConnected := wifi, ingestionCompleted := false }, some .wifiBecamePresent)
  else if state.wifiConnected && !wifi then
    ({ state with wifiConnected := wifi, ingestionCompleted := false }, some .wifiLost)
  else ({ state with wifiConnected := wifi }, none)

-- The section of `refreshAccState` under the lock.
def note (state : ControllerState) : Option Bool → ControllerState × Option SleepWindowEvent
  | none => ({ state with accStateKnown := false }, none)
  | some observed =>
    ({ state with accStateKnown := true, accOn := observed },
      if !state.accStateKnown || state.accOn != observed then
        some (if observed then .accBecameOn else .accBecameOff)
      else none)

-- One step of `refreshAccState`: the world after it and what is left to do.
def refresh (s : World) (acc : Option Bool) : Refresh → World × Option Refresh
  | .reading => (s, some (.noting acc))
  | .noting observed =>
    ({ s with state := (note s.state observed).1 }, (note s.state observed).2.map .telling)
  | .telling event => ({ s with changes := s.changes ++ [event] }, none)

def begin (event : SleepWindowEvent) : Work :=
  if event = .started ∨ event = .wifiBecamePresent ∨ event = .ingestionEnded then
    .refreshing event .reading
  else .taking event

def settle (job : Job) (attempt : ℕ) (observed : Option ℕ) : Work :=
  if job.command.targetSeconds = none ∨
      Transaction.verified { command := job.command, observedSeconds := observed } ∨
      attempt = retryDelays then
    .receiving
  else .pausing job attempt

def work (s : World) (acc : Option Bool) (seconds : Option ℕ) (config : Config) : Option World :=
  match s.worker with
  | .receiving => none
  | .pausing _ _ => none
  | .refreshing event left =>
    let (t, rest) := s.refresh acc left
    some { t with worker := (rest.map (Work.refreshing event)).getD (.taking event) }
  | .taking event => some { s with worker := .loading event s.state }
  | .loading event state =>
    let command := sleepWindowCommand event state config
    some { s with worker := .before { event, state, command } 0 .reading }
  | .before job attempt left =>
    let (t, rest) := s.refresh acc left
    some { t with worker := (rest.map (Work.before job attempt)).getD (.reading job attempt) }
  | .reading job attempt =>
    some { s with
      worker :=
        if job.command.targetSeconds.isSome ∧ seconds ≠ job.command.targetSeconds then
          .writing job attempt
        else .after job attempt seconds .reading }
  | .writing job attempt => some { s with worker := .rereading job attempt }
  | .rereading job attempt => some { s with worker := .after job attempt seconds .reading }
  | .after job attempt observed left =>
    let (t, rest) := s.refresh acc left
    match rest with
    | some more => some { t with worker := .after job attempt observed more }
    | none =>
      some { t with
        evidence := some { command := job.command, observedSeconds := observed }
        worker := settle job attempt observed }

def next (s : World) : Event → Option World
  | .probe network wifi =>
    if s.starter = .probing then
      some { s with
        state := { s.state with wifiConnected := wifi }
        currentDefaultNetwork := network
        starter := .announcing }
    else none
  | .announce =>
    if s.starter = .announcing then
      some { s with changes := s.changes ++ [.started], starter := .done }
    else none
  | .setIngestionRequestActive active =>
    if s.caller = none then
      some { s with state := (request s.state active).1, caller := (request s.state active).2 }
    else none
  | .sendRequest =>
    s.caller.map fun event => { s with changes := s.changes ++ [event], caller := none }
  | .onAvailable network =>
    if s.callback = none then some { s with currentDefaultNetwork := some network } else none
  | .onCapabilitiesChanged network wifi =>
    if s.callback = none then
      some { s with
        state := (capabilities s.state wifi).1
        currentDefaultNetwork := some network
        callback := (capabilities s.state wifi).2 }
    else none
  | .onLost network =>
    if s.callback = none then
      if s.currentDefaultNetwork = some network then
        some { s with
          state := { s.state with wifiConnected := false, ingestionCompleted := false }
          currentDefaultNetwork := none
          callback := some .wifiLost }
      else some s
    else none
  | .sendNetwork =>
    s.callback.map fun event => { s with changes := s.changes ++ [event], callback := none }
  | .poll acc =>
    match s.poller with
    | none => some { s with poller := some .reading }
    | some left => some { (s.refresh acc left).1 with poller := (s.refresh acc left).2 }
  | .receive =>
    match s.worker, s.changes with
    | .receiving, event :: rest => some { s with changes := rest, worker := begin event }
    | .pausing _ _, event :: rest => some { s with changes := rest, worker := begin event }
    | _, _ => none
  | .timeout =>
    match s.worker with
    | .pausing job attempt => some { s with worker := .before job (attempt + 1) .reading }
    | _ => none
  | .work acc seconds config => s.work acc seconds config

def step (s : World) (e : Event) (t : World) : Prop := s.next e = some t

end World

end DashcamStats.Sleep
