import DashcamStats.Ingest.Coordinator

namespace DashcamStats.Ingest.Ownership

-- `CHECKPOINT_MAX_RETRY_S`
def checkpointMaxRetry : Time := 25

-- `CHECKPOINT_RECOVERY_HEADROOM_S`
def checkpointRecoveryHeadroom : Time := 10

inductive Claim where
  | begin (input : BeginInput)
  | adopt (row : IngestRadioTransition) (address : String) (bootId : Option String)

/-- Where a call stands; from `fenced` to `claimed` it holds the fence without an object yet. -/
inductive Point where
  | idle
  | fenced (claim : Claim)
  | timed (claim : Claim) (now : Time)
  | started (claim : Claim) (now leaseStarted : Time)
  | due (claim : Claim) (now leaseStarted deadline : Time)
  | claimed (leaseStarted : Time)
  | owner
  | ended

/-- What one task of the object's process is doing: the locals of `checkpoint` and
`_checkpoint_once`, and of `_persist_restore_failure`. -/
inductive Task where
  | idle
  | asking (values : Values) (cleanup : Bool) (retryUntil : Time)
  | opened (values : Values) (cleanup : Bool) (retryUntil : Time)
  | started (values : Values) (cleanup : Bool) (leaseStarted : Time)
  | updated (values : Values) (cleanup : Bool) (leaseStarted now : Time)
  | committed (explicit : Bool) (confirmedUntil : Time)
  | expiring (now : Time)

structure Call where
  point : Point
  row : Nat
  leaseValidUntil : Time
  closed : Bool
  restoringTask : Option Nat
  tasks : Nat → Task
  -- History: the expiry last committed under this owner.
  durable : Time
  -- History: the owner has committed an expiry of its own lease.
  handedOver : Bool

structure State where
  rows : Transitions
  clock : Time
  fence : Option Nat
  writer : Option (Nat × Nat)
  calls : Nat → Call

inductive Event where
  | tick (seconds : Nat)
  | acquire (c : Nat) (claim : Claim)
  | readNow (c : Nat)
  | readLeaseStarted (c : Nat)
  | readDeadline (c : Nat)
  | claim (c : Nat)
  | abandon (c : Nat)
  | construct (c : Nat)
  | ask (c k : Nat) (values : Values)
  | beginImmediate (c k : Nat)
  | start (c k : Nat)
  | update (c k : Nat)
  | commit (c k : Nat)
  | assign (c k : Nat)
  | giveUp (c k : Nat)
  | restore (c k : Nat)
  | readExpiry (c k : Nat)
  | persistRestoreFailure (c k : Nat) (error : String)
  | finish (c k : Nat) (error : Option String) (errors : List String)
  | endRestore (c k : Nat)
  | close (c : Nat)
  | release (c : Nat)
  | crash (process : Nat)
  | report (id : Nat) (values : Values)

namespace Task

def inTransaction : Task → Bool
  | .opened .. | .started .. | .updated .. => true
  | _ => false

def cleanup : Task → Option (Values × Bool)
  | .asking values cleanup _ | .opened values cleanup _ | .started values cleanup _
  | .updated values cleanup _ _ => some (values, cleanup)
  | _ => none

end Task

namespace Point

def claiming : Point → Bool
  | .fenced _ | .timed .. | .started .. | .due .. | .claimed _ => true
  | _ => false

def hasClaimed : Point → Bool
  | .claimed _ | .owner | .ended => true
  | _ => false

def isOwner : Point → Bool
  | .owner => true
  | _ => false

def isIdle : Point → Bool
  | .idle => true
  | _ => false

end Point

def Call.initial : Call where
  point := .idle
  row := 0
  leaseValidUntil := 0
  closed := false
  restoringTask := none
  tasks := fun _ => .idle
  durable := 0
  handedOver := false

namespace Call

variable (call : Call)

def live : Bool := call.point.isOwner && !call.closed

def setTask (k : Nat) (task : Task) : Call :=
  { call with tasks := Function.update call.tasks k task }

def crashed : Call :=
  { call with
    point := if call.point.isIdle then .idle else .ended
    restoringTask := none
    tasks := fun _ => .idle }

end Call

namespace State

variable (s : State)

def initial (clock : Time) : State where
  rows := Table.empty
  clock := clock
  fence := none
  writer := none
  calls := fun _ => .initial

def setCall (c : Nat) (call : Call) : State :=
  { s with calls := Function.update s.calls c call }

-- `try_acquire`, for a call that has not run yet.
def acquire (c : Nat) (claim : Claim) : Option State :=
  if (s.calls c).point.isIdle ∧ s.fence = none then
    some ({ s with fence := some c }.setCall c { s.calls c with point := .fenced claim })
  else none

def readNow (c : Nat) : Option State :=
  match (s.calls c).point with
  | .fenced claim => some (s.setCall c { s.calls c with point := .timed claim s.clock })
  | _ => none

def readLeaseStarted (c : Nat) : Option State :=
  match (s.calls c).point with
  | .timed claim now => some (s.setCall c { s.calls c with point := .started claim now s.clock })
  | _ => none

-- `_lease_deadline`
def readDeadline (c : Nat) : Option State :=
  match (s.calls c).point with
  | .started claim now leaseStarted =>
    some (s.setCall c
      { s.calls c with point := .due claim now leaseStarted (s.clock + leaseTtl) })
  | _ => none

def claimedBy (c id : Nat) (leaseStarted deadline : Time) (rows : Transitions) : State :=
  { s with rows := rows }.setCall c
    { s.calls c with point := .claimed leaseStarted, row := id, durable := deadline }

def freeToBegin (input : BeginInput) : Prop :=
  (∀ row ∈ s.rows.rows, row.active = false) ∧
    ∀ row ∈ s.rows.rows, row.transitionId ≠ input.transitionId

instance (input : BeginInput) : Decidable (s.freeToBegin input) :=
  inferInstanceAs (Decidable (_ ∧ _))

/-- The INSERT of `begin`, under the unique index of active rows, or the UPDATE of
`_adopt_expired`; otherwise the call ends with `abandon`. -/
def claim (c : Nat) : Option State :=
  match (s.calls c).point with
  | .due (.begin input) now leaseStarted deadline =>
    if s.writer = none ∧ s.freeToBegin input then
      some (s.claimedBy c s.rows.nextKey leaseStarted deadline
        (s.rows.insert
          { input.row s.rows.nextKey now with leaseOwner := c, leaseExpiresAt := deadline }
          fun _ member => (Table.key_lt_nextKey member).ne))
    else none
  | .due (.adopt row address bootId) now leaseStarted deadline =>
    if s.writer = none then
      (writeIf s.rows row.id (adoptable now)
        { adoptionValues row now c address bootId with leaseExpiresAt := some deadline }).map
        (s.claimedBy c row.id leaseStarted deadline)
    else none
  | _ => none

def abandon (c : Nat) : Option State :=
  if (s.calls c).point.claiming then
    some ({ s with fence := none }.setCall c { s.calls c with point := .ended })
  else none

def construct (c : Nat) : Option State :=
  match (s.calls c).point with
  | .claimed leaseStarted =>
    some (s.setCall c
      { s.calls c with point := .owner, leaseValidUntil := leaseStarted + leaseTtl })
  | _ => none

/-- The entry of `checkpoint`. No caller names the owner or `active`, and an expiry a caller names
is the clock at the call. -/
def ask (c k : Nat) (values : Values) : Option State :=
  match (s.calls c).point, (s.calls c).tasks k with
  | .owner, .idle =>
    if values.leaseOwner = none ∧ values.active = none ∧
        (values.leaseExpiresAt = none ∨ values.leaseExpiresAt = some s.clock) then
      let cleanup := (s.calls c).restoringTask = some k || values.leaseExpiresAt.isSome
      let retryUntil := if cleanup then s.clock + checkpointMaxRetry
        else min (s.clock + checkpointMaxRetry)
          ((s.calls c).leaseValidUntil - checkpointRecoveryHeadroom)
      some (s.setCall c ((s.calls c).setTask k (.asking values cleanup retryUntil)))
    else none
  | _, _ => none

def beginImmediate (c k : Nat) : Option State :=
  match (s.calls c).tasks k with
  | .asking values cleanup retryUntil =>
    if s.writer = none then
      some ({ s with writer := some (c, k) }.setCall c
        ((s.calls c).setTask k (.opened values cleanup retryUntil)))
    else none
  | _ => none

def start (c k : Nat) : Option State :=
  match (s.calls c).tasks k with
  | .opened values cleanup retryUntil =>
    if s.clock < retryUntil then
      some (s.setCall c ((s.calls c).setTask k (.started values cleanup s.clock)))
    else none
  | _ => none

-- The guard of the UPDATE of `_checkpoint_once`.
def renewable (c : Nat) (cleanup : Bool) (row : IngestRadioTransition) : Bool :=
  row.heldBy c && (cleanup || s.clock < row.leaseExpiresAt)

-- The clock is read under the write lock; `rowcount` other than 1 raises.
def update (c k : Nat) : Option State :=
  match (s.calls c).tasks k with
  | .started values cleanup leaseStarted =>
    if (s.rows.find? (s.calls c).row).any (s.renewable c cleanup) then
      some (s.setCall c ((s.calls c).setTask k (.updated values cleanup leaseStarted s.clock)))
    else none
  | _ => none

-- `lease_expires_at` as the UPDATE sets it.
def freshExpiry (values : Values) (now : Time) : Time := values.leaseExpiresAt.getD (now + leaseTtl)

def commit (c k : Nat) : Option State :=
  match (s.calls c).tasks k with
  | .updated values _ leaseStarted now =>
    let call := s.calls c
    some ({ s with rows := write s.rows call.row (values.renewing now), writer := none }.setCall c
      { call.setTask k (.committed values.leaseExpiresAt.isSome
          (leaseStarted + max 0 (freshExpiry values now - now))) with
        durable := freshExpiry values now
        handedOver := call.handedOver || values.leaseExpiresAt.isSome })
  | _ => none

def assign (c k : Nat) : Option State :=
  match (s.calls c).tasks k with
  | .committed explicit confirmedUntil =>
    let call := s.calls c
    some (s.setCall c
      { call.setTask k .idle with
        leaseValidUntil :=
          if explicit then confirmedUntil else max call.leaseValidUntil confirmedUntil })
  | _ => none

def giveUp (c k : Nat) : Option State :=
  some ({ s with writer := if s.writer = some (c, k) then none else s.writer }.setCall c
    ((s.calls c).setTask k .idle))

-- `restore`, under its lock; a closed object returns at once.
def restore (c k : Nat) : Option State :=
  match (s.calls c).tasks k with
  | .idle =>
    if (s.calls c).live ∧ (s.calls c).restoringTask = none then
      some (s.setCall c { s.calls c with restoringTask := some k })
    else none
  | _ => none

-- `_persist_restore_failure` reads the clock, and writes it later.
def readExpiry (c k : Nat) : Option State :=
  match (s.calls c).tasks k with
  | .idle =>
    if (s.calls c).restoringTask = some k then
      some (s.setCall c ((s.calls c).setTask k (.expiring s.clock)))
    else none
  | _ => none

def persistRestoreFailure (c k : Nat) (error : String) : Option State :=
  match (s.calls c).tasks k with
  | .expiring now =>
    if s.writer = none then
      match writeIf s.rows (s.calls c).row (·.heldBy c) (recoveryValues now error) with
      | some rows =>
        some ({ s with rows := rows }.setCall c
          { (s.calls c).setTask k .idle with durable := now, handedOver := true })
      | none => some (s.setCall c ((s.calls c).setTask k .idle))
    else none
  | _ => none

-- `_finish_transition`
def finish (c k : Nat) (error : Option String) (errors : List String) : Option State :=
  match (s.calls c).tasks k with
  | .idle =>
    if (s.calls c).restoringTask = some k ∧ s.writer = none then
      some { s with rows := (writeIf s.rows (s.calls c).row (·.heldBy c)
        (finishValues s.clock error errors)).getD s.rows }
    else none
  | _ => none

-- The `finally` of `restore`, up to the first await of `close`.
def endRestore (c k : Nat) : Option State :=
  match (s.calls c).tasks k with
  | .idle =>
    if (s.calls c).restoringTask = some k then
      some (s.setCall c { s.calls c with restoringTask := none, closed := true })
    else none
  | _ => none

def close (c : Nat) : Option State :=
  if (s.calls c).live then some (s.setCall c { s.calls c with closed := true }) else none

-- The last statement of `close`.
def release (c : Nat) : Option State :=
  if (s.calls c).point.isOwner ∧ (s.calls c).closed = true ∧ s.fence = some c then
    some { s with fence := none }
  else none

variable (process : Nat → Nat)

def crash (p : Nat) : State :=
  { s with
    fence := s.fence.filter fun c => process c ≠ p
    writer := s.writer.filter fun w => process w.1 ≠ p
    calls := fun c => if process c = p then (s.calls c).crashed else s.calls c }

def report (id : Nat) (values : Values) : Option State :=
  if s.writer = none ∧ values.leaseOwner = none ∧ values.leaseExpiresAt = none ∧
      values.active ≠ some true then
    some { s with rows := write s.rows id values }
  else none

-- `process c` is the process in which call `c` runs.
def step : Event → Option State
  | .tick seconds => some { s with clock := s.clock + seconds }
  | .acquire c claim => s.acquire c claim
  | .readNow c => s.readNow c
  | .readLeaseStarted c => s.readLeaseStarted c
  | .readDeadline c => s.readDeadline c
  | .claim c => s.claim c
  | .abandon c => s.abandon c
  | .construct c => s.construct c
  | .ask c k values => s.ask c k values
  | .beginImmediate c k => s.beginImmediate c k
  | .start c k => s.start c k
  | .update c k => s.update c k
  | .commit c k => s.commit c k
  | .assign c k => s.assign c k
  | .giveUp c k => s.giveUp c k
  | .restore c k => s.restore c k
  | .readExpiry c k => s.readExpiry c k
  | .persistRestoreFailure c k error => s.persistRestoreFailure c k error
  | .finish c k error errors => s.finish c k error errors
  | .endRestore c k => s.endRestore c k
  | .close c => s.close c
  | .release c => s.release c
  | .crash p => some (s.crash process p)
  | .report id values => s.report id values

def Stepped (s : State) (e : Event) (t : State) : Prop := s.step process e = some t

end State

end DashcamStats.Ingest.Ownership
