import Mathlib.Data.Nat.Notation
import Mathlib.Logic.Function.Basic

namespace DashcamStats.Radios

/-- What the active record names: a generation and its process, or `cleanup:` and a generation -/
inductive Owner where
  | generation (token : ℕ)
  | cleanup (token : ℕ)
  deriving DecidableEq

inductive Place where
  | absent
  -- `set -C`
  | starting
  | arming
  | top
  | flagged
  | armed
  | waiting
  | claiming
  | claimed
  | claimedFlagged
  | rereading
  | ending
  | ended
  | endedOwned
  | restoring
  -- `cleanup_owned`
  | leaving
  -- its `rm`
  | removing
  | gone
  deriving DecidableEq

inductive Task where
  | idle
  -- The owner cleanup, or the discard of a candidate
  | owner (token : ℕ) (unpublished : Bool)
  | killing (token : ℕ)
  | rechecking (token : ℕ)
  | removing (token : ℕ)
  | claiming (token : ℕ)
  | marked (token : ℕ)
  | clearing (token : ℕ)
  -- The trap on `EXIT`
  | trapping (token : ℕ)
  | untrapping (token : ℕ)
  -- The unconditional cleanup, with the generations whose probes had reported when it began
  | unconditional (known : List ℕ)
  | reaping (known : List ℕ) (read : Option Owner)
  | wiping (known : List ℕ) (read : Option Owner)
  | sweeping (read : Option Owner)
  | probing (token : ℕ)
  | probingFlag (token : ℕ)
  | probingReady (token : ℕ)
  deriving DecidableEq

structure Unit where
  active : Option Owner
  flag : Bool
  place : ℕ → Place
  ready : ℕ → Bool
  -- The readiness that an expiry has claimed
  claim : ℕ → Bool
  task : ℕ → Task
  reported : List ℕ

inductive Event where
  -- A launch starts the script, at once or late.
  | start (token : ℕ)
  | run (token : ℕ) (choice : Bool)
  | die (token : ℕ)
  | owner (task token : ℕ) (unpublished : Bool)
  | unconditional (task : ℕ)
  | probe (task token : ℕ)
  | touch
  | advance (task : ℕ) (choice : Bool)
  -- A command line ends before its last command, by a signal that is trapped or otherwise.
  | drop (task : ℕ) (trapped : Bool)

namespace Unit

def fresh : Unit where
  active := none
  flag := false
  place := fun _ => .absent
  ready := fun _ => false
  claim := fun _ => false
  task := fun _ => .idle
  reported := []

def go (token : ℕ) (place : Place) (s : Unit) : Unit :=
  { s with place := Function.update s.place token place }

def next (number : ℕ) (task : Task) (s : Unit) : Unit :=
  { s with task := Function.update s.task number task }

def discard (token : ℕ) (s : Unit) : Unit :=
  { s with
    ready := Function.update s.ready token false
    claim := Function.update s.claim token false }

def arm (token : ℕ) (s : Unit) : Unit :=
  { s with
    ready := Function.update s.ready token true
    claim := Function.update s.claim token false }

def expire (token : ℕ) (s : Unit) : Unit :=
  { s with
    ready := Function.update s.ready token false
    claim := Function.update s.claim token true }

def owns (token : ℕ) (s : Unit) : Bool := s.active = some (.generation token)

def alive (token : ℕ) (s : Unit) : Bool := s.place token ≠ .absent ∧ s.place token ≠ .gone

def run (token : ℕ) (choice : Bool) (s : Unit) : Option Unit :=
  match s.place token with
  | .absent | .gone => none
  | .starting => some (if s.active = none then
      { s with active := some (.generation token) }.go token .arming else s.go token .gone)
  | .arming => some (if choice then (s.arm token).go token .top else s.go token .leaving)
  | .top => some (s.go token (if s.owns token then .flagged else .gone))
  | .flagged => some (s.go token (if s.flag then .armed else .leaving))
  | .armed => some (s.go token (if s.ready token then .waiting else .leaving))
  | .waiting => some (s.go token (if choice then .top else .claiming))
  | .claiming =>
    some (if s.ready token then (s.expire token).go token .claimed else s.go token .gone)
  | .claimed => some (s.go token (if s.owns token then .claimedFlagged else .gone))
  | .claimedFlagged => some (s.go token (if s.flag then .rereading else .leaving))
  | .rereading =>
    -- With time left the claim is taken back, if a cleanup has left it there.
    some (if choice then
        if s.claim token then (s.arm token).go token .top else s.go token .gone
      else s.go token .ending)
  | .ending => some ((s.discard token).go token .ended)
  | .ended => some (s.go token (if s.flag then .endedOwned else .leaving))
  | .endedOwned => some (s.go token (if s.owns token then .restoring else .leaving))
  | .restoring => some (s.go token .leaving)
  | .leaving => some (s.go token (if s.owns token then .removing else .gone))
  | .removing => some ({ s.discard token with active := none }.go token .gone)

def advance (number : ℕ) (choice : Bool) (s : Unit) : Option Unit :=
  match s.task number with
  | .idle => none
  | .owner token unpublished => some (
    if s.owns token then s.next number (.killing token)
    else if unpublished && s.active.isNone then s.next number (.claiming token)
    else (s.discard token).next number .idle)
  | .killing token => some (
    if s.alive token then if choice then s.go token .gone else s.next number .idle
    else s.next number (.rechecking token))
  | .rechecking token => some (s.next number (if s.owns token then .removing token else .idle))
  | .removing token =>
    some ({ s.discard token with active := none, flag := false }.next number .idle)
  | .claiming token => some (
    if s.active = none then { s with active := some (.cleanup token) }.next number (.marked token)
    else (s.discard token).next number .idle)
  | .marked token => some (s.next number
    (if s.active = some (.cleanup token) then .clearing token else .trapping token))
  | .clearing token => some ({ s.discard token with flag := false }.next number (.trapping token))
  | .trapping token => some (s.next number
    (if s.active = some (.cleanup token) then .untrapping token else .idle))
  | .untrapping _ => some ({ s with active := none }.next number .idle)
  | .unconditional known => some (s.next number (.reaping known s.active))
  | .reaping known read =>
    let reaped := match read with
      | some (.generation token) => if choice then s.go token .gone else s
      | _ => s
    some (reaped.next number (.wiping known read))
  | .wiping _ read => some ({ s with active := none, flag := false }.next number (.sweeping read))
  | .sweeping read =>
    let swept := match read with
      | some (.generation token) => s.discard token
      | _ => s
    some (swept.next number .idle)
  | .probing token => some (s.next number (if s.owns token then .probingFlag token else .idle))
  | .probingFlag token =>
    some (s.next number (if s.flag && s.alive token then .probingReady token else .idle))
  | .probingReady token => some (
    -- The choice is the lease and the deadline.
    if s.ready token && choice then { s with reported := token :: s.reported }.next number .idle
    else s.next number .idle)

def step (event : Event) (s : Unit) : Option Unit :=
  match event with
  | .start token => if s.place token = .absent then some (s.go token .starting) else none
  | .run token choice => s.run token choice
  | .die token => if s.alive token then some (s.go token .gone) else none
  | .owner number token unpublished =>
    if s.task number = .idle then some (s.next number (.owner token unpublished)) else none
  | .unconditional number =>
    if s.task number = .idle then some (s.next number (.unconditional s.reported)) else none
  | .probe number token =>
    if s.task number = .idle then some (s.next number (.probing token)) else none
  | .touch => some { s with flag := true }
  | .advance number choice => s.advance number choice
  | .drop number trapped =>
    match s.task number with
    | .marked token | .clearing token | .trapping token | .untrapping token =>
      some (s.next number (if trapped then .trapping token else .idle))
    | _ => some (s.next number .idle)

def Passes (token : ℕ) (s : Unit) : Prop :=
  s.active = some (.generation token) ∧ s.flag = true ∧ s.alive token = true ∧ s.ready token = true

end Unit

def Task.Threatens (token : ℕ) : Task → Prop
  | .removing other | .clearing other | .untrapping other => other ≠ token
  | .unconditional _ | .reaping .. | .wiping .. => True
  | _ => False

def Task.Wipes : Task → Prop
  | .unconditional _ | .reaping .. | .wiping .. => True
  | _ => False

/-- No watchdog publishes its record while another's cleanup is between its look and its removal, or
an unconditional cleanup is under way, and no probe reports during an unconditional cleanup. -/
def Event.Orderly (s : Unit) : Event → Prop
  | .run token _ => s.place token = .starting →
    (∀ number, ¬ (s.task number).Threatens token) ∧
      ∀ other, other ≠ token → s.place other ≠ .removing
  | .advance number _ => ∀ token, s.task number = .probingReady token →
    ∀ other, ¬ (s.task other).Wipes
  | _ => True

def Step (s s' : Unit) : Prop := ∃ event : Event, s.step event = some s'

def OrderlyStep (s s' : Unit) : Prop :=
  ∃ event : Event, event.Orderly s ∧ s.step event = some s'

def Unit.Removed (token : ℕ) (s s' : Unit) : Prop :=
  token ∈ s.reported ∧ s.active = some (.generation token) ∧
    (s'.active ≠ some (.generation token) ∨ (s.flag = true ∧ s'.flag = false))

/-- By the generation itself, by an owner cleanup or a discard for it, or by an unconditional
cleanup that began after the probe -/
def Event.Entitled (token : ℕ) (s : Unit) : Event → Prop
  | .run other _ => other = token
  | .advance number _ => match s.task number with
    | .removing other | .clearing other | .untrapping other => other = token
    | .wiping known _ => token ∈ known
    | _ => False
  | _ => False

structure Unit.Guarded (s : Unit) : Prop where
  entitled : ∀ (event : Event) (s' : Unit), s.step event = some s' →
    ∀ token, s.Removed token s' → event.Entitled token s
  single : ∀ first second, s.Passes first → s.Passes second → first = second

end DashcamStats.Radios
