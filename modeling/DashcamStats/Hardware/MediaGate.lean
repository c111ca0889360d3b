import Mathlib.Algebra.Ring.Nat
import Mathlib.Logic.Function.Basic

namespace DashcamStats.Hardware

inductive Work where
  | decode
  | thumbnail
  | probe
  | detect
  | load
  deriving DecidableEq

inductive Stage where
  | idle
  -- for the lock
  | waiting (work : Work)
  -- for the children of earlier holders
  | settling (work : Work) (pending : List ℕ)
  | inside (work : Work)
  -- in `_spawn_media`, with the child launched
  | launching (work : Work) (child : ℕ)
  | running (work : Work) (child : ℕ)
  -- in `_close_child`
  | closing (work : Work) (child : ℕ)
  -- for the thread of a GPU call, in the slot
  | inferring (call : ℕ)
  -- for the thread that compiles a GPU graph
  | compiling (call : ℕ)
  deriving DecidableEq

structure Beginning where
  childAlive : Bool
  callRunning : Bool
  unhealthy : Bool
  deriving DecidableEq

/-- `children` are the registered ones, and `launched` and `called` number the next child and the
next GPU call. -/
structure MediaGate where
  lock : Option ℕ
  children : List ℕ
  reaping : List ℕ
  unhealthy : Bool
  engaged : Bool
  launched : ℕ
  alive : ℕ → Bool
  called : ℕ
  calling : ℕ → Bool
  stage : ℕ → Stage
  beginnings : List Beginning

inductive Event where
  | begin (task : ℕ) (work : Work)
  -- Of a decode on the GPU that failed before its first frame
  | retry (task : ℕ)
  | acquire (task : ℕ)
  | settled (task : ℕ)
  -- `MEDIA_SETTLE_TIMEOUT_S` is over.
  | giveUp (task : ℕ)
  | launch (task : ℕ)
  | infer (task : ℕ)
  | register (task : ℕ)
  | close (task : ℕ)
  -- `_wait_for_exit` has seen the exit, or has not within its grace.
  | closed (task : ℕ)
  -- A call has returned to its task.
  | returned (task : ℕ)
  | leave (task : ℕ)
  | cancel (task : ℕ)
  | exit (child : ℕ)
  | reap (child : ℕ)
  | callEnds (call : ℕ)
  -- The answer of `gpu_inference_engaged` changes.
  | engage (engaged : Bool)

namespace MediaGate

def fresh : MediaGate where
  lock := none
  children := []
  reaping := []
  unhealthy := false
  engaged := false
  launched := 0
  alive := fun _ => false
  called := 0
  calling := fun _ => false
  stage := fun _ => .idle
  beginnings := []

def go (task : ℕ) (stage : Stage) (s : MediaGate) : MediaGate :=
  { s with stage := Function.update s.stage task stage }

-- `__aexit__`, and the task is done
def release (task : ℕ) (s : MediaGate) : MediaGate := { s with lock := none }.go task .idle

def retire (child : ℕ) (s : MediaGate) : MediaGate :=
  let children := s.children.filter (· ≠ child)
  { s with children, unhealthy := s.unhealthy && !children.isEmpty }

def softwareDecodeReason (s : MediaGate) : Bool := s.unhealthy || s.engaged

-- The first `n` children or calls are asked.
def any (of : ℕ → Bool) (n : ℕ) : Bool := (List.range n).any of

def beginning (s : MediaGate) : Beginning :=
  ⟨any s.alive s.launched, any s.calling s.called, s.unhealthy⟩

def launch (task : ℕ) (work : Work) (s : MediaGate) : MediaGate :=
  { s with
    launched := s.launched + 1
    alive := Function.update s.alive s.launched true }.go task (.launching work s.launched)

def call (task : ℕ) (stage : Stage) (s : MediaGate) : MediaGate :=
  { s with
    called := s.called + 1
    calling := Function.update s.calling s.called true
    beginnings := s.beginning :: s.beginnings }.go task stage

def step (event : Event) (s : MediaGate) : Option MediaGate :=
  match event with
  | .begin task work =>
    if s.stage task ≠ .idle then none
    else match work with
      | .decode => if s.softwareDecodeReason then none else some (s.go task (.waiting .decode))
      | .detect => if s.unhealthy then none else some (s.go task (.waiting .detect))
      | .load => some (s.call task (.compiling s.called))
      | work => some (s.go task (.waiting work))
  | .retry task =>
    if s.stage task ≠ .idle then none else some (s.go task (.waiting .decode))
  | .acquire task =>
    match s.stage task with
    | .waiting work =>
      if s.lock ≠ none then none
      else some ({ s with lock := some task }.go task
        (if s.children.isEmpty then .inside work else .settling work s.children))
    | _ => none
  | .settled task =>
    match s.stage task with
    | .settling work pending =>
      if pending.all fun child => !s.children.contains child then some (s.go task (.inside work))
      else none
    | _ => none
  | .giveUp task =>
    match s.stage task with
    | .settling work _ => some ({ s with unhealthy := true }.go task (.inside work))
    | _ => none
  | .launch task =>
    match s.stage task with
    | .inside .probe => some (s.launch task .probe)
    | .inside .decode | .inside .thumbnail =>
      if s.softwareDecodeReason then none
      else some ({ s with beginnings := s.beginning :: s.beginnings }.launch task .decode)
    | _ => none
  | .infer task =>
    match s.stage task with
    | .inside .detect => some (s.call task (.inferring s.called))
    | _ => none
  | .register task =>
    match s.stage task with
    | .launching work child =>
      some ({ s with children := s.children ++ [child] }.go task (.running work child))
    | _ => none
  | .close task =>
    match s.stage task with
    | .running work child => some (s.go task (.closing work child))
    | _ => none
  | .closed task =>
    match s.stage task with
    | .closing _ child =>
      some (if s.alive child then { s with reaping := s.reaping ++ [child] }.release task
        else (s.retire child).release task)
    | _ => none
  | .returned task =>
    match s.stage task with
    | .inferring call => if s.calling call then none else some (s.release task)
    | .compiling call => if s.calling call then none else some (s.go task .idle)
    | _ => none
  | .leave task =>
    match s.stage task with
    | .inside _ => some (s.release task)
    | _ => none
  | .cancel task =>
    match s.stage task with
    | .waiting _ | .compiling _ => some (s.go task .idle)
    | .settling _ _ | .inside _ | .launching _ _ | .inferring _ => some (s.release task)
    | .running work child => some (s.go task (.closing work child))
    | _ => none
  | .exit child => some { s with alive := Function.update s.alive child false }
  | .reap child =>
    if s.reaping.contains child && !s.alive child then
      some ({ s with reaping := s.reaping.filter (· ≠ child) }.retire child)
    else none
  | .callEnds call => some { s with calling := Function.update s.calling call false }
  | .engage engaged => some { s with engaged }

end MediaGate

def Stage.inSlot : Stage → Bool
  | .idle | .waiting _ | .compiling _ => false
  | _ => true

/-- The events that the slot is made for: no task is cancelled in the launch delay, no inference
begins after the task's own wait has been given up, nobody enters while a GPU call runs, and a graph
is compiled while nobody else is about. -/
def Event.Orderly (s : MediaGate) : Event → Prop
  | .cancel task => ∀ work child, s.stage task ≠ .launching work child
  | .infer _ => s.unhealthy = false
  | .begin _ .load => s.lock = none ∧ s.unhealthy = false ∧
    (∀ child, s.alive child = false) ∧ ∀ call, s.calling call = false
  | .acquire _ => ∀ call, s.calling call = false
  | _ => True

def Step (s s' : MediaGate) : Prop := ∃ event : Event, s.step event = some s'

def OrderlyStep (s s' : MediaGate) : Prop :=
  ∃ event : Event, event.Orderly s ∧ s.step event = some s'

/-- A VAAPI child was launched and a GPU call began only alone and in a sound slot, and a child that
is alive is registered, or its launcher still has the slot. -/
structure MediaGate.Exclusive (s : MediaGate) : Prop where
  alone : ∀ beginning ∈ s.beginnings, beginning = ⟨false, false, false⟩
  registered : ∀ child, s.alive child = true → child ∈ s.children ∨
    ∃ task work, s.stage task = .launching work child ∧ s.lock = some task

end DashcamStats.Hardware
