import DashcamStats.Inference.Orderly

namespace DashcamStats.Inference

def Native.Serves (native : Native) : Task → Prop
  | .build _ => True
  | .infer _ => ∃ device, native = .request device ∨ native = .infer device

def Stage.Fits (task : Task) : Stage → Prop
  | .ready native | .calling native => native.Serves task
  | .locking | .rechecking | .unlocking (some _) => ∃ device, task = .build device
  | _ => True

def Stage.CpuFits (device : Device) : Stage → Prop
  | .begun | .ended _ => True
  | .ready native | .calling native => native = .request device ∨ native = .infer device
  | _ => False

def Stage.cleared : Stage → Bool
  | .ready _ | .calling _ | .locking | .rechecking | .unlocking (some _) => true
  | _ => false

def CpuPoint.cleared : CpuPoint → Bool
  | .releasing usable => usable
  | .within .begun => true
  | .within stage => stage.cleared
  | _ => false

def Activity.cleared : Activity → Bool
  | .exclusive _ (.within stage) => stage.cleared
  | .cpu _ point => point.cleared
  | _ => false

def Activity.answersNative : Activity → Bool
  | .exclusive (.infer _) (.within (.ended .native)) => true
  | .exclusive (.infer _) (.leaving .native) => true
  | .cpu _ (.within (.ended .native)) => true
  | .cpu _ (.left .native) => true
  | _ => false

def Publishing.holds : Publishing → Bool
  | .locked | .relocked => true
  | _ => false

-- It has `_gpu_state_lock`.
def Activity.publishes : Activity → Bool
  | .exclusive _ (.within (.publishing _ point)) => point.holds
  | .disabling _ point _ => point.holds
  | _ => false

-- It has the `_rebuild_lock` of this session.
def Activity.rebuilds : Activity → Option ℕ
  | .rebuilding session _ | .demoting session _ => some session
  | _ => none

def Activity.session : Activity → Option ℕ
  | .reading session | .choosing session | .rereading session => some session
  | .exclusive (.infer session) _ | .cpu session _ => some session
  | .ensuring session | .demanding session => some session
  | .disabling _ _ session => session
  | .moving session _ | .rebuilding session _ | .demoting session _ => some session
  | .recovered session => some session
  | _ => none

theorem Activity.session_of_rebuilds {activity : Activity} {session : ℕ}
    (rebuilds : activity.rebuilds = some session) : activity.session = some session := by
  cases activity <;> first | exact rebuilds | cases rebuilds

-- Somebody who called `disable_gpu_backend(durable=True)` himself
def Activity.condemns : Activity → Bool
  | .disabling durable _ _ => durable
  | _ => false

variable {T : Type} [DecidableEq T]

namespace Shared

variable {x x' : Shared T} {t : T} {choice : Choice}

def Fits (x : Shared T) : Activity → Prop
  | .exclusive task (.within stage) => stage.Fits task
  | .rereading session =>
    (x.session session).compiled ≠ .gpu ∨ (x.session session).cpuSession = true
  | .cpu session (.within stage) =>
    (x.session session).compiled ≠ .gpu ∧ stage.CpuFits (x.session session).compiled
  | .cpu session _ => (x.session session).compiled ≠ .gpu
  | .demoting session _ => (x.session session).cpuSession = true
  | _ => True

def Demoted (x : Shared T) : Prop :=
  ∀ session, (x.session session).device = .gpu ∨ (x.session session).compiled ≠ .gpu ∨
    (x.session session).cpuSession = true

structure SameVerdict (x x' : Shared T) : Prop where
  stateLock : x'.stateLock = x.stateLock
  failed : x'.failed = x.failed
  disabled : x'.disabled = x.disabled

structure SameSessions (x x' : Shared T) : Prop where
  created : x'.created = x.created
  session : x'.session = x.session

structure SameHistory (x x' : Shared T) : Prop where
  late : x'.late = x.late
  served : x'.served = x.served
  outside : x'.outside = x.outside

structure Grows (x x' : Shared T) : Prop where
  created : x.created ≤ x'.created
  compiled : ∀ session < x.created, (x'.session session).compiled = (x.session session).compiled
  cpuSession : ∀ session < x.created, (x.session session).cpuSession = true →
    (x'.session session).cpuSession = true

omit [DecidableEq T] in
theorem Grows.refl (x : Shared T) : Grows x x := ⟨le_rfl, fun _ _ => rfl, fun _ _ => id⟩

omit [DecidableEq T] in
theorem SameSessions.grows (same : SameSessions x x') : Grows x x' := by
  refine ⟨Nat.le_of_eq same.created.symm, fun session _ => ?_, fun session _ plain => ?_⟩
  · rw [same.session]
  · rwa [same.session]

omit [DecidableEq T] in
theorem SameSessions.demoted (same : SameSessions x x') (demoted : x.Demoted) : x'.Demoted := by
  rw [Demoted, same.session]
  exact demoted

omit [DecidableEq T] in
theorem Fits.grow {activity : Activity} (fits : x.Fits activity) (grows : Grows x x')
    (used : ∀ session, activity.session = some session → session < x.created) :
    x'.Fits activity := by
  cases activity with
  | rereading session =>
    have bound := used session rfl
    exact fits.imp (fun other => grows.compiled session bound ▸ other)
      (grows.cpuSession session bound)
  | cpu session point =>
    have same := grows.compiled session (used session rfl)
    cases point with
    | within stage =>
      rw [Fits, same]
      exact fits
    | _ => exact fun is => fits (same ▸ is)
  | demoting session running => exact grows.cpuSession session (used session rfl) fits
  | exclusive task point =>
    cases point with
    | within stage => exact fits
    | _ => trivial
  | _ => trivial

def LockStep (t : T) (lock lock' : Option T) (had has : Bool) : Prop :=
  (lock' = lock ∧ has = had) ∨ (lock = none ∧ lock' = some t ∧ has = true) ∨
    (had = true ∧ lock' = none ∧ has = false)

theorem lock_step {lock lock' : Option T} {held : T → Bool} {has : Bool}
    (right : ∀ u, held u = true ↔ lock = some u) (step : LockStep t lock lock' (held t) has)
    (u : T) : Function.update held t has u = true ↔ lock' = some u := by
  rcases step with ⟨same, kept⟩ | ⟨free, taken, has⟩ | ⟨had, released, hasNot⟩
  · rw [same, kept, Function.update_eq_self]
    exact right u
  · rw [taken, has]
    by_cases same : u = t
    · rw [same, Function.update_self]
      exact iff_of_true rfl rfl
    · rw [Function.update_of_ne same, right u, free]
      exact iff_of_false (fun none => by cases none) fun other => same (Option.some.inj other).symm
  · rw [released, hasNot]
    by_cases same : u = t
    · rw [same, Function.update_self]
      exact iff_of_false Bool.false_ne_true fun none => by cases none
    · rw [Function.update_of_ne same, right u, (right t).mp had]
      exact iff_of_false (fun other => same (Option.some.inj other).symm) fun none => by cases none

/-- What an operation of the thread `t` does to the sessions, the verdict and the answers -/
structure Effect (t : T) (x x' : Shared T) (a a' : Activity) : Prop where
  grows : Grows x x'
  demoted : x'.Demoted
  fits : x'.Fits a'
  used : ∀ session, a'.session = some session → session < x'.created
  stateLock : LockStep t x.stateLock x'.stateLock a.publishes a'.publishes
  rebuildLock : ∀ session < x.created, LockStep t (x.session session).rebuildLock
    (x'.session session).rebuildLock (a.rebuilds == some session) (a'.rebuilds == some session)
  fresh : (∀ session, x.created ≤ session → (x.session session).rebuildLock = none) →
    ∀ session, x.created ≤ session → (x'.session session).rebuildLock = none
  rebuilds : ∀ session, a'.rebuilds = some session → session < x.created
  failed : x.failed = true → x'.failed = true
  published : x'.failed = x.failed ∨ a.condemns = true ∨
    ∃ task inner point, a = .exclusive task (.within (.publishing inner point))
  disabled : (x.failed = true → x.disabled = true) → x'.failed = true → x'.disabled = true
  cleared : a'.cleared = true →
    x'.failed = x.failed ∧ (a.cleared = true ∨ x.failed = false ∨ x.disabled = false)
  native : a'.answersNative = true → a.answersNative = true ∨ a.cleared = true
  late : x'.late = x.late ∨ (a = .idle ∧ x'.late = Function.update x.late t x.failed)
  served : x'.served = x.served ∨ ∃ answer, x'.served = (x.late t, answer) :: x.served ∧
    (answer = .native → a.answersNative = true)
  outside : x'.outside = false → x.outside = false ∧ (a'.condemns = true → a.condemns = true)

structure Follows (x : Shared T) (a a' : Activity) : Prop where
  fits : x.Fits a'
  session : ∀ session, a'.session = some session → a.session = some session
  publishes : a'.publishes = a.publishes
  rebuilds : a'.rebuilds = a.rebuilds
  cleared : a'.cleared = true → a.cleared = true ∨ x.failed = false ∨ x.disabled = false
  native : a'.answersNative = true → a.answersNative = true ∨ a.cleared = true
  condemns : a'.condemns = true → a.condemns = true

omit [DecidableEq T] in
theorem Fits.of_same {activity : Activity} (fits : x.Fits activity) (same : SameSessions x x') :
    x'.Fits activity := by
  cases activity with
  | rereading session => rwa [Fits, same.session]
  | cpu session point =>
    cases point <;> simpa only [Fits, same.session] using fits
  | demoting session running => rwa [Fits, same.session]
  | exclusive task point => cases point <;> exact fits
  | _ => trivial

theorem Effect.still {a a' : Activity} (demoted : x.Demoted)
    (used : ∀ session, a.session = some session → session < x.created)
    (follows : Follows x a a') (sessions : SameSessions x x') (verdict : SameVerdict x x')
    (late : x'.late = x.late ∨ (a = .idle ∧ x'.late = Function.update x.late t x.failed))
    (served : x'.served = x.served ∨ ∃ answer, x'.served = (x.late t, answer) :: x.served ∧
      (answer = .native → a.answersNative = true)) (outside : x'.outside = x.outside) :
    Effect t x x' a a' where
  grows := sessions.grows
  demoted := sessions.demoted demoted
  fits := follows.fits.of_same sessions
  used session uses := sessions.created ▸ used session (follows.session session uses)
  stateLock := .inl ⟨verdict.stateLock, follows.publishes⟩
  rebuildLock session _ := .inl ⟨by rw [sessions.session], by rw [follows.rebuilds]⟩
  fresh none session above := by
    rw [sessions.session]
    exact none session above
  rebuilds session is := used session (by
    rw [follows.rebuilds] at is
    exact Activity.session_of_rebuilds is)
  failed := by rw [verdict.failed]; exact id
  published := .inl verdict.failed
  disabled := by rw [verdict.failed, verdict.disabled]; exact id
  cleared clear := ⟨verdict.failed, follows.cleared clear⟩
  native := follows.native
  late := late
  served := served
  outside is := ⟨outside ▸ is, follows.condemns⟩

theorem Effect.quiet {a a' : Activity} (demoted : x.Demoted)
    (used : ∀ session, a.session = some session → session < x.created)
    (follows : Follows x a a') (sessions : SameSessions x x') (verdict : SameVerdict x x')
    (history : SameHistory x x') : Effect t x x' a a' :=
  .still demoted used follows sessions verdict (.inl history.late) (.inl history.served)
    history.outside

theorem Effect.answer {a : Activity} (answer : Answer) (demoted : x.Demoted)
    (used : ∀ session, a.session = some session → session < x.created)
    (publishes : a.publishes = false) (rebuilds : a.rebuilds = none)
    (sessions : SameSessions x x') (verdict : SameVerdict x x') (late : x'.late = x.late)
    (served : x'.served = (x.late t, answer) :: x.served) (outside : x'.outside = x.outside)
    (native : answer = .native → a.answersNative = true) : Effect t x x' a .idle :=
  .still demoted used
    { fits := trivial
      session := fun _ uses => by cases uses
      publishes := publishes.symm
      rebuilds := rebuilds.symm
      cleared := fun clear => by cases clear
      native := fun native => by cases native
      condemns := fun condemns => by cases condemns }
    sessions verdict (.inl late) (.inr ⟨answer, served, native⟩) outside

section Publish

variable {durable written : Bool} {point : Publishing} {next : Option Publishing}

def holds (next : Option Publishing) : Bool := next.elim false Publishing.holds

omit [DecidableEq T] in
theorem publish_lock (published : x.publish t durable written point = some (x', next)) :
    LockStep t x.stateLock x'.stateLock point.holds (holds next) := by
  cases point with
  | locking =>
    simp only [publish, Option.ite_none_right_eq_some, Option.some.injEq, Prod.mk.injEq]
      at published
    obtain ⟨free, rfl, rfl⟩ := published
    exact .inr (.inl ⟨free, rfl, rfl⟩)
  | locked =>
    cases published
    refine .inr (.inr ⟨rfl, rfl, ?_⟩)
    cases durable <;> cases x.persisted <;> rfl
  | persisting =>
    cases published
    exact .inl ⟨rfl, by cases written <;> rfl⟩
  | relocking =>
    simp only [publish, Option.ite_none_right_eq_some, Option.some.injEq, Prod.mk.injEq]
      at published
    obtain ⟨free, rfl, rfl⟩ := published
    exact .inr (.inl ⟨free, rfl, rfl⟩)
  | relocked =>
    cases published
    exact .inr (.inr ⟨rfl, rfl, rfl⟩)

structure Published (x x' : Shared T) (durable : Bool) : Prop where
  sessions : SameSessions x x'
  history : SameHistory x x'
  failed : x.failed = true → x'.failed = true
  durable : x'.failed = x.failed ∨ durable = true
  disabled : (x.failed = true → x.disabled = true) → x'.failed = true → x'.disabled = true

omit [DecidableEq T] in
theorem publish_published (published : x.publish t durable written point = some (x', next)) :
    Published x x' durable := by
  cases point with
  | locked =>
    cases published
    refine ⟨⟨rfl, rfl⟩, ⟨rfl, rfl, rfl⟩, fun failed => ?_, ?_, fun _ _ => rfl⟩
    · simp [failed]
    · cases durable
      · exact .inl (Bool.or_false _)
      · exact .inr rfl
  | persisting =>
    cases published
    exact ⟨⟨rfl, rfl⟩, ⟨rfl, rfl, rfl⟩, id, .inl rfl, id⟩
  | relocked =>
    cases published
    exact ⟨⟨rfl, rfl⟩, ⟨rfl, rfl, rfl⟩, id, .inl rfl, id⟩
  | _ =>
    simp only [publish, Option.ite_none_right_eq_some, Option.some.injEq, Prod.mk.injEq]
      at published
    obtain ⟨_, rfl, rfl⟩ := published
    exact ⟨⟨rfl, rfl⟩, ⟨rfl, rfl, rfl⟩, id, .inl rfl, id⟩

-- An operation of `disable_gpu_backend` between two activities
theorem Effect.publish {a a' : Activity} (demoted : x.Demoted)
    (used : ∀ session, a.session = some session → session < x.created)
    (published : x.publish t durable written point = some (x', next))
    (allowed : durable = true → a.condemns = true ∨
      ∃ task inner point, a = .exclusive task (.within (.publishing inner point)))
    (had : a.publishes = point.holds) (has : a'.publishes = holds next) (fits : x.Fits a')
    (session : ∀ session, a'.session = some session → a.session = some session)
    (rebuilds : a.rebuilds = none) (rebuilds' : a'.rebuilds = none) (cleared : a'.cleared = false)
    (native : a'.answersNative = false) (condemns : a'.condemns = true → a.condemns = true) :
    Effect t x x' a a' := by
  have ⟨sessions, history, failed, isDurable, disabled⟩ := publish_published published
  refine
    { grows := sessions.grows
      demoted := sessions.demoted demoted
      fits := fits.of_same sessions
      used := fun id uses => sessions.created ▸ used id (session id uses)
      stateLock := ?_
      rebuildLock := fun id _ => .inl ⟨by rw [sessions.session], by rw [rebuilds, rebuilds']⟩
      fresh := fun none id above => ?_
      rebuilds := fun id is => by rw [rebuilds'] at is; cases is
      failed := failed
      published := isDurable.imp id allowed
      disabled := disabled
      cleared := fun clear => ?_
      native := fun answers => ?_
      late := .inl history.late
      served := .inl history.served
      outside := fun is => ⟨history.outside ▸ is, condemns⟩ }
  · rw [had, has]
    exact publish_lock published
  · rw [sessions.session]
    exact none id above
  · rw [cleared] at clear
    cases clear
  · rw [native] at answers
    cases answers

end Publish

structure StageFollows (x : Shared T) (task : Task) (stage stage' : Stage) : Prop where
  fits : stage'.Fits task
  cleared : stage'.cleared = true →
    stage.cleared = true ∨ x.failed = false ∨ x.disabled = false
  native : stage' = .ended .native → stage.cleared = true
  holds : ∀ inner point, stage' = .publishing inner point → point.holds = false

omit [DecidableEq T] in
theorem StageFollows.follows {task : Task} {stage stage' : Stage}
    (follows : StageFollows x task stage stage')
    (free : ∀ inner point, stage = .publishing inner point → point.holds = false) :
    Follows x (.exclusive task (.within stage)) (.exclusive task (.within stage')) where
  fits := follows.fits
  session session uses := by cases task <;> exact uses
  publishes := by
    have none : ∀ {stage : Stage}, (∀ inner point, stage = .publishing inner point →
        point.holds = false) → (Activity.exclusive task (.within stage)).publishes = false := by
      intro stage free
      cases stage with
      | publishing inner point => exact free inner point rfl
      | _ => rfl
    rw [none follows.holds, none free]
  rebuilds := rfl
  cleared := follows.cleared
  native answers := by
    have ended : stage' = .ended .native := by
      cases task <;> cases stage' <;> try cases answers
      next answer => cases answer <;> first | rfl | cases answers
    exact .inr (follows.native ended)
  condemns condemns := by cases condemns

end Shared

end DashcamStats.Inference
