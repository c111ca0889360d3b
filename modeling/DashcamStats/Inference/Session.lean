import DashcamStats.Library.Monitor

namespace DashcamStats.Inference

open Monitor (Phase)

inductive Device where
  | gpu
  | npu
  | cpu
  deriving DecidableEq

inductive Native where
  | enumerate
  | read
  | compile (target : Device)
  | ports (target : Device)
  | property (target : Device)
  | request (device : Device)
  | infer (device : Device)
  deriving DecidableEq

def Native.exclusive : Native → Prop
  | .request device | .infer device => device = .gpu
  | _ => True

inductive Outcome where
  | returned
  | contextFailure
  | failed

inductive Answer where
  | native
  | plain
  | raised
  deriving DecidableEq

inductive Call where
  | construct (device : Device)
  | run (session : ℕ)
  | ensureCpu (session : ℕ)
  | disable (durable : Bool)

/-- Within `disable_gpu_backend`; the last two are about a verdict that could not be written. -/
inductive Publishing where
  | locking
  | locked
  | persisting
  | relocking
  | relocked
  deriving DecidableEq

inductive Task where
  | build (device : Device)
  | infer (session : ℕ)
  deriving DecidableEq

/-- Within a lane; `locking`, `rechecking` and `unlocking` belong to the inner `with`. -/
inductive Stage where
  | begun
  | ready (native : Native)
  | calling (native : Native)
  | locking
  | rechecking
  | unlocking (built : Option Device)
  | publishing (inner : Bool) (point : Publishing)
  | ended (answer : Answer)
  deriving DecidableEq

inductive ExclusivePoint where
  | entering
  | testing
  | asleep (notified : Bool)
  | within (stage : Stage)
  | leaving (answer : Answer)
  deriving DecidableEq

inductive CpuPoint where
  | entering
  | testing
  | asleep (notified : Bool)
  | releasing (usable : Bool)
  | within (stage : Stage)
  | left (answer : Answer)
  deriving DecidableEq

/-- What a thread is about to do; `running` tells `run` from `ensure_cpu`. -/
inductive Activity where
  | idle
  | reading (session : ℕ)
  | choosing (session : ℕ)
  | rereading (session : ℕ)
  | exclusive (task : Task) (point : ExclusivePoint)
  | cpu (session : ℕ) (point : CpuPoint)
  | ensuring (session : ℕ)
  | demanding (session : ℕ)
  | disabling (durable : Bool) (point : Publishing) (session : Option ℕ)
  | moving (session : ℕ) (running : Bool)
  | rebuilding (session : ℕ) (running : Bool)
  | demoting (session : ℕ) (running : Bool)
  | recovered (session : ℕ)
  deriving DecidableEq

variable {T : Type} [DecidableEq T]

/-- `cpuSession` tells whether there is a plain one. -/
structure Session (T : Type) where
  compiled : Device
  device : Device
  cpuSession : Bool
  rebuildLock : Option T
  requests : T → Bool

/-- What the threads share. `late` tells of a thread whose `run` began after a context failure had
been published, `served` has the answers of `run`, and `outside` tells that somebody called
`disable_gpu_backend(durable=True)` himself. -/
structure Shared (T : Type) where
  owner : Option T
  depth : ℕ
  nativeWriters : ℕ
  activeCpuInference : ℕ
  stateLock : Option T
  disabled : Bool
  failed : Bool
  persisted : Bool
  created : ℕ
  session : ℕ → Session T
  late : T → Bool
  served : List (Bool × Answer)
  outside : Bool

structure Choice where
  call : Call
  outcome : Outcome
  succeeds : Bool

namespace Shared

def take (t : T) (x : Shared T) : Shared T :=
  { x with owner := some t, depth := if x.owner = some t then x.depth + 1 else 1 }

def release (x : Shared T) : Shared T :=
  if x.depth = 1 then { x with owner := none, depth := 0 } else { x with depth := x.depth - 1 }

-- What `Condition.wait` releases
def releaseAll (x : Shared T) : Shared T := { x with owner := none, depth := 0 }

def modify (session : ℕ) (change : Session T → Session T) (x : Shared T) : Shared T :=
  { x with session := Function.update x.session session (change (x.session session)) }

def serve (t : T) (answer : Answer) (x : Shared T) : Shared T :=
  { x with served := (x.late t, answer) :: x.served }

-- One operation of `disable_gpu_backend`, and the next one
def publish (t : T) (durable written : Bool) (x : Shared T) :
    Publishing → Option (Shared T × Option Publishing)
  | .locking =>
    if x.stateLock = none then some ({ x with stateLock := some t }, some .locked) else none
  | .locked =>
    let shouldPersist := durable && !x.persisted
    some ({ x with
      failed := x.failed || durable
      disabled := true
      persisted := x.persisted || shouldPersist
      stateLock := none }, if shouldPersist then some .persisting else none)
  | .persisting => some (x, if written then none else some .relocking)
  | .relocking =>
    if x.stateLock = none then some ({ x with stateLock := some t }, some .relocked) else none
  | .relocked => some ({ x with persisted := false, stateLock := none }, none)

def plain (choice : Choice) : Answer := if choice.succeeds then .plain else .raised

def request (t : T) (session : ℕ) (x : Shared T) : Stage :=
  let device := (x.session session).compiled
  if (x.session session).requests t then .ready (.infer device) else .ready (.request device)

def returned (t : T) (task : Task) (outcome : Outcome) (x : Shared T) : Native → Shared T × Stage
  | .enumerate => (x, match outcome with
    | .returned => .ready .read
    | _ => .ended .raised)
  | .read => (x, match outcome with
    | .returned => .locking
    | _ => .ended .raised)
  | .compile target => (x, match outcome with
    | .returned => .unlocking (some target)
    | .contextFailure =>
      if target = .gpu then .publishing true .locking
      else if target = .cpu then .unlocking none else .ready (.compile .cpu)
    | .failed => if target = .cpu then .unlocking none else .ready (.compile .cpu))
  | .ports target => (x, match outcome with
    | .returned => .ready (.property target)
    | _ => .ended .raised)
  | .property target => match outcome, target with
    | .contextFailure, .gpu => (x, .publishing false .locking)
    | _, _ => ({ x with
      session := Function.update x.session x.created ⟨target, target, false, none, fun _ => false⟩
      created := x.created + 1 }, .ended .native)
  | .request device => match outcome, task with
    | .returned, .infer session =>
      (x.modify session fun s => { s with requests := Function.update s.requests t true },
        .ready (.infer device))
    | .contextFailure, _ => (x, .publishing false .locking)
    | _, _ => (x, .ended .raised)
  | .infer _ => (x, match outcome with
    | .returned => .ended .native
    | .contextFailure => .publishing false .locking
    | .failed => .ended .raised)

def within (t : T) (choice : Choice) (task : Task) (x : Shared T) :
    Stage → Option (Shared T × Stage)
  | .begun => match task with
    | .build _ => some (x, if x.failed then .ended .raised else .ready .enumerate)
    | .infer session =>
      if (x.session session).cpuSession then some (x, .ended (plain choice))
      else if x.disabled then some (x, .ended .raised)
      else some (x, x.request t session)
  | .ready native => some (x, .calling native)
  | .calling native => some (x.returned t task choice.outcome native)
  | .locking =>
    if x.owner = none ∨ x.owner = some t then some (x.take t, .rechecking) else none
  | .rechecking => match task with
    | .build target =>
      some (x, if x.failed || (target = .gpu && x.disabled) then .unlocking none
        else .ready (.compile target))
    | .infer _ => none
  | .unlocking built => some (x.release, match built with
    | some target => .ready (.ports target)
    | none => .ended .raised)
  | .publishing inner point =>
    (x.publish t true choice.succeeds point).map fun (x, next) => (x, match next with
      | some point => .publishing inner point
      | none => if inner then .unlocking none else .ended .raised)
  | .ended _ => none

def cpuWithin (t : T) (choice : Choice) (session : ℕ) (x : Shared T) :
    Stage → Option (Shared T × Stage)
  | .begun => some (x, x.request t session)
  | .ready native => some (x, .calling native)
  | .calling native => some (match choice.outcome, native with
    | .returned, .request device =>
      (x.modify session fun s => { s with requests := Function.update s.requests t true },
        .ready (.infer device))
    | .returned, _ => (x, .ended .native)
    | _, _ => (x, .ended .raised))
  | _ => none

-- `_exclusive_native_lane`; the last part of the result tells whether all are notified.
def exclusive (t : T) (choice : Choice) (task : Task) (x : Shared T) :
    ExclusivePoint → Option (Shared T × Activity × Bool)
  | .entering =>
    if x.owner = none then
      some ({ x with nativeWriters := x.nativeWriters + 1 }.take t, .exclusive task .testing, false)
    else none
  | .testing =>
    if x.activeCpuInference ≠ 0 then
      some (x.releaseAll, .exclusive task (.asleep false), false)
    else some (x, .exclusive task (.within .begun), false)
  | .asleep notified =>
    if notified ∧ x.owner = none then some (x.take t, .exclusive task .testing, false) else none
  | .within (.ended answer) =>
    some ({ x with nativeWriters := x.nativeWriters - 1 }, .exclusive task (.leaving answer), true)
  | .within stage =>
    (x.within t choice task stage).map fun (x, stage) =>
      (x, .exclusive task (.within stage), false)
  | .leaving answer => match task with
    | .build _ => some (x.release, .idle, false)
    | .infer _ => some (x.release.serve t answer, .idle, false)

-- `_cpu_native_lane`
def cpu (t : T) (choice : Choice) (session : ℕ) (x : Shared T) :
    CpuPoint → Option (Shared T × Activity × Bool)
  | .entering =>
    if x.owner = none then some (x.take t, .cpu session .testing, false) else none
  | .testing =>
    if x.nativeWriters ≠ 0 then some (x.releaseAll, .cpu session (.asleep false), false)
    else
      let usable := !x.failed
      some ({ x with activeCpuInference := x.activeCpuInference + usable.toNat },
        .cpu session (.releasing usable), false)
  | .asleep notified =>
    if notified ∧ x.owner = none then some (x.take t, .cpu session .testing, false) else none
  | .releasing usable =>
    some (x.release, if usable then .cpu session (.within .begun) else .moving session true, false)
  | .within (.ended answer) =>
    if x.owner = none then
      some ({ x with activeCpuInference := x.activeCpuInference - 1 }.take t,
        .cpu session (.left answer), true)
    else none
  | .within stage =>
    (x.cpuWithin t choice session stage).map fun (x, stage) =>
      (x, .cpu session (.within stage), false)
  | .left answer => some (x.release.serve t answer, .idle, false)

def start (t : T) (x : Shared T) : Call → Option (Shared T × Activity × Bool)
  | .construct device => some (x, .exclusive (.build device) .entering, false)
  | .run session =>
    if session < x.created then
      some ({ x with late := Function.update x.late t x.failed }, .reading session, false)
    else none
  | .ensureCpu session => if session < x.created then some (x, .ensuring session, false) else none
  | .disable durable =>
    some ({ x with outside := x.outside || durable }, .disabling durable .locking none, false)

def after (session : ℕ) (running : Bool) : Activity :=
  if running then .recovered session else .idle

def act (t : T) (choice : Choice) (x : Shared T) :
    Activity → Option (Shared T × Activity × Bool)
  | .idle => x.start t choice.call
  | .reading session =>
    if (x.session session).cpuSession then some (x.serve t (plain choice), .idle, false)
    else some (x, .choosing session, false)
  | .choosing session =>
    some (x, if (x.session session).device = .gpu then .exclusive (.infer session) .entering
      else .rereading session, false)
  | .rereading session =>
    if (x.session session).cpuSession then some (x.serve t (plain choice), .idle, false)
    else some (x, .cpu session .entering, false)
  | .exclusive task point => x.exclusive t choice task point
  | .cpu session point => x.cpu t choice session point
  | .ensuring session =>
    some (x, if (x.session session).cpuSession then .idle else .demanding session, false)
  | .demanding session =>
    some (x, if (x.session session).device ≠ .gpu ∧ !x.failed then .idle
      else .disabling false .locking (some session), false)
  | .disabling durable point session =>
    (x.publish t durable choice.succeeds point).map fun (x, next) => (x, match next, session with
      | some point, _ => .disabling durable point session
      | none, some session => .moving session false
      | none, none => .idle, false)
  | .moving session running =>
    if (x.session session).rebuildLock = none then
      some (x.modify session fun s => { s with rebuildLock := some t },
        .rebuilding session running, false)
    else none
  | .rebuilding session running =>
    let unlocked := x.modify session fun s => { s with rebuildLock := none }
    if (x.session session).cpuSession ∨ (x.session session).device ≠ .gpu ∧ !x.failed then
      some (unlocked, after session running, false)
    else if choice.succeeds then
      some (x.modify session fun s => { s with cpuSession := true },
        .demoting session running, false)
    else some (if running then unlocked.serve t .raised else unlocked, .idle, false)
  | .demoting session running =>
    some (x.modify session fun s => { s with device := .cpu, rebuildLock := none },
      after session running, false)
  | .recovered session =>
    let answer := if (x.session session).cpuSession then plain choice else .raised
    some (x.serve t answer, .idle, false)

end Shared

def Activity.notified : Activity → Activity
  | .exclusive task (.asleep _) => .exclusive task (.asleep true)
  | .cpu session (.asleep _) => .cpu session (.asleep true)
  | activity => activity

structure State (T : Type) where
  shared : Shared T
  activity : T → Activity

namespace State

def step (t : T) (choice : Choice) (s : State T) : Option (State T) :=
  (s.shared.act t choice (s.activity t)).map fun (x, activity, notify) =>
    let activities := Function.update s.activity t activity
    ⟨x, if notify then fun u => (activities u).notified else activities⟩

-- `saved` is the verdict of an earlier process.
def start (saved : Bool) : State T where
  shared :=
    { owner := none
      depth := 0
      nativeWriters := 0
      activeCpuInference := 0
      stateLock := none
      disabled := saved
      failed := false
      persisted := false
      created := 0
      session := fun _ => ⟨.cpu, .cpu, false, none, fun _ => false⟩
      late := fun _ => false
      served := []
      outside := false }
  activity := fun _ => .idle

end State

def Activity.native : Activity → Option Native
  | .exclusive _ (.within (.calling native)) | .cpu _ (.within (.calling native)) => some native
  | _ => none

def Activity.begins : Activity → Option Native
  | .exclusive _ (.within (.ready native)) | .cpu _ (.within (.ready native)) => some native
  | _ => none

/-- A call that builds a model or uses the GPU is alone. Unless somebody called
`disable_gpu_backend(durable=True)` himself, nothing native begins after a context failure, and no
run that began after it has a native result. The counters count nothing when nothing goes on, and
not everybody waits. -/
structure State.Orderly (s : State T) : Prop where
  alone : ∀ t u native, t ≠ u → (s.activity t).native = some native → native.exclusive →
    (s.activity u).native = none
  quiet : s.shared.outside = false → s.shared.failed = true → ∀ t, (s.activity t).begins = none
  served : s.shared.outside = false → (true, Answer.native) ∉ s.shared.served
  counters : (∀ t, s.activity t = .idle) →
    s.shared.nativeWriters = 0 ∧ s.shared.activeCpuInference = 0
  live : (∃ t, s.activity t ≠ .idle) →
    ∃ t choice s', s.activity t ≠ .idle ∧ s.step t choice = some s'

def Step (s s' : State T) : Prop := ∃ t choice, s.step t choice = some s'

end DashcamStats.Inference
