import DashcamStats.Inference.Known

namespace DashcamStats.Inference

open Relation (ReflTransGen)

variable {T : Type} [DecidableEq T]

namespace Shared

variable {x x' : Shared T} {t : T} {choice : Choice}

theorem Effect.create {task : Task} {stage : Stage} (target : Device) (demoted : x.Demoted)
    (used : ∀ session, (Activity.exclusive task (.within stage)).session = some session →
      session < x.created)
    (free : ∀ inner point, stage ≠ .publishing inner point) (cleared : stage.cleared = true) :
    Effect t x { x with
      session := Function.update x.session x.created ⟨target, target, false, none, fun _ => false⟩
      created := x.created + 1 }
      (.exclusive task (.within stage)) (.exclusive task (.within (.ended .native))) where
  grows := by
    refine ⟨Nat.le_succ _, fun session below => ?_, fun session below plain => ?_⟩
    · simp [Function.update_of_ne (Nat.ne_of_lt below)]
    · simpa [Function.update_of_ne (Nat.ne_of_lt below)] using plain
  demoted session := by
    by_cases new : session = x.created
    · subst new
      simp only [Function.update_self]
      cases target <;> simp
    · simpa [Function.update_of_ne new] using demoted session
  fits := trivial
  used session uses := Nat.lt_succ_of_lt (used session (by cases task <;> exact uses))
  stateLock := by
    refine .inl ⟨rfl, ?_⟩
    cases stage with
    | publishing inner point => exact absurd rfl (free inner point)
    | _ => rfl
  rebuildLock session below :=
    .inl ⟨by simp [Function.update_of_ne (Nat.ne_of_lt below)], rfl⟩
  fresh none session above := by
    by_cases new : session = x.created
    · simp [new]
    · simpa [Function.update_of_ne new] using none session above
  rebuilds _ is := by cases is
  failed := id
  published := .inl rfl
  disabled := id
  cleared clear := by cases clear
  native _ := .inr cleared
  late := .inl rfl
  served := .inl rfl
  outside is := ⟨is, fun condemns => by cases condemns⟩

theorem Effect.modify (session : ℕ) (change : Session T → Session T) {a a' : Activity}
    (demoted : x.Demoted)
    (used : ∀ session, a.session = some session → session < x.created)
    (same : ∀ s, (change s).compiled = s.compiled ∧ (change s).device = s.device ∧
      (change s).cpuSession = s.cpuSession ∧ (change s).rebuildLock = s.rebuildLock)
    (follows : Follows x a a') : Effect t x (x.modify session change) a a' := by
  have kept (other : ℕ) : ((x.modify session change).session other).compiled =
        (x.session other).compiled ∧
      ((x.modify session change).session other).device = (x.session other).device ∧
      ((x.modify session change).session other).cpuSession = (x.session other).cpuSession ∧
      ((x.modify session change).session other).rebuildLock = (x.session other).rebuildLock := by
    simp only [Shared.modify]
    by_cases is : other = session
    · subst is
      rw [Function.update_self]
      exact same _
    · rw [Function.update_of_ne is]
      exact ⟨rfl, rfl, rfl, rfl⟩
  have grows : Grows x (x.modify session change) :=
    ⟨le_rfl, fun other _ => (kept other).1, fun other _ plain => (kept other).2.2.1 ▸ plain⟩
  exact
    { grows
      demoted := fun other => by
        obtain ⟨compiled, device, plain, _⟩ := kept other
        rw [compiled, device, plain]
        exact demoted other
      fits := follows.fits.grow grows fun other uses => used other (follows.session other uses)
      used := fun other uses => used other (follows.session other uses)
      stateLock := .inl ⟨rfl, follows.publishes⟩
      rebuildLock := fun other _ => .inl ⟨(kept other).2.2.2, by rw [follows.rebuilds]⟩
      fresh := fun none other above => (kept other).2.2.2 ▸ none other above
      rebuilds := fun other is => used other (Activity.session_of_rebuilds (follows.rebuilds ▸ is))
      failed := id
      published := .inl rfl
      disabled := id
      cleared := fun clear => ⟨rfl, follows.cleared clear⟩
      native := follows.native
      late := .inl rfl
      served := .inl rfl
      outside := fun is => ⟨is, follows.condemns⟩ }

theorem returned_effect {task : Task} {native : Native} (outcome : Outcome) (demoted : x.Demoted)
    (used : ∀ session, (Activity.exclusive task (.within (.calling native))).session =
      some session → session < x.created)
    (fits : native.Serves task) :
    Effect t x (x.returned t task outcome native).1 (.exclusive task (.within (.calling native)))
      (.exclusive task (.within (x.returned t task outcome native).2)) := by
  -- Only the end of a construction and a new request change a session.
  have plain {stage : Stage} (follows : StageFollows x task (.calling native) stage) :
      Effect t x x (.exclusive task (.within (.calling native)))
        (.exclusive task (.within stage)) :=
    .quiet demoted used (follows.follows fun _ _ is => by cases is) ⟨rfl, rfl⟩ ⟨rfl, rfl, rfl⟩
      ⟨rfl, rfl, rfl⟩
  have ended : StageFollows x task (.calling native) (.ended .raised) :=
    ⟨trivial, fun _ => .inl rfl, fun _ => rfl, fun _ _ is => by cases is⟩
  have publishing (inner : Bool) :
      StageFollows x task (.calling native) (.publishing inner .locking) :=
    ⟨trivial, fun _ => .inl rfl, fun _ => rfl, fun _ _ is => by cases is; rfl⟩
  have unlocking (built : Option Device) (fits : (Stage.unlocking built).Fits task) :
      StageFollows x task (.calling native) (.unlocking built) :=
    ⟨fits, fun _ => .inl rfl, fun _ => rfl, fun _ _ is => by cases is⟩
  have ready {next : Native} (serves : next.Serves task) :
      StageFollows x task (.calling native) (.ready next) :=
    ⟨serves, fun _ => .inl rfl, fun _ => rfl, fun _ _ is => by cases is⟩
  cases task with
  | build device =>
    cases native with
    | enumerate => cases outcome <;> first | exact plain (ready trivial) | exact plain ended
    | read =>
      cases outcome with
      | returned =>
        exact plain ⟨⟨device, rfl⟩, fun _ => .inl rfl, fun _ => rfl, fun _ _ is => by cases is⟩
      | _ => exact plain ended
    | compile target =>
      cases outcome with
      | returned => exact plain (unlocking _ ⟨device, rfl⟩)
      | contextFailure =>
        cases target with
        | gpu => exact plain (publishing true)
        | npu => exact plain (ready trivial)
        | cpu => exact plain (unlocking none trivial)
      | failed =>
        cases target <;> first | exact plain (ready trivial) | exact plain (unlocking none trivial)
    | ports target => cases outcome <;> first | exact plain (ready trivial) | exact plain ended
    | property target =>
      have create : Effect t x _
          (.exclusive (.build device) (.within (.calling (.property target)))) _ := .create target demoted used (fun _ _ is => by cases is) rfl
      cases outcome with
      | contextFailure => cases target <;> first | exact plain (publishing false) | exact create
      | _ => exact create
    | request device' =>
      cases outcome <;> first | exact plain (publishing false) | exact plain ended
    | infer device' =>
      cases outcome with
      | returned =>
        exact plain ⟨trivial, fun _ => .inl rfl, fun _ => rfl, fun _ _ is => by cases is⟩
      | contextFailure => exact plain (publishing false)
      | failed => exact plain ended
  | infer session =>
    obtain ⟨device, rfl | rfl⟩ := fits
    · cases outcome with
      | returned =>
        exact .modify session (fun s => { s with requests := Function.update s.requests t true })
          demoted used (fun _ => ⟨rfl, rfl, rfl, rfl⟩)
          ((ready ⟨device, .inr rfl⟩).follows fun _ _ is => by cases is)
      | contextFailure => exact plain (publishing false)
      | failed => exact plain ended
    · cases outcome with
      | returned =>
        exact plain ⟨trivial, fun _ => .inl rfl, fun _ => rfl, fun _ _ is => by cases is⟩
      | contextFailure => exact plain (publishing false)
      | failed => exact plain ended

omit [DecidableEq T] in
theorem request_fits (x : Shared T) (t : T) (session : ℕ) :
    x.request t session = .ready (.infer (x.session session).compiled) ∨
      x.request t session = .ready (.request (x.session session).compiled) := by
  unfold request
  dsimp only
  split
  · exact .inl rfl
  · exact .inr rfl

omit [DecidableEq T] in
theorem release_same (x : Shared T) :
    SameSessions x x.release ∧ SameVerdict x x.release ∧ SameHistory x x.release := by
  unfold release
  split <;> exact ⟨⟨rfl, rfl⟩, ⟨rfl, rfl, rfl⟩, ⟨rfl, rfl, rfl⟩⟩

theorem within_effect {task : Task} {stage stage' : Stage} (demoted : x.Demoted)
    (used : ∀ session, (Activity.exclusive task (.within stage)).session = some session →
      session < x.created)
    (fits : stage.Fits task) (stepped : x.within t choice task stage = some (x', stage')) :
    Effect t x x' (.exclusive task (.within stage)) (.exclusive task (.within stage')) := by
  have plain {stage : Stage} (used : ∀ session,
      (Activity.exclusive task (.within stage)).session = some session → session < x.created)
      (free : ∀ inner point, stage = .publishing inner point → point.holds = false)
      {x' : Shared T} {stage' : Stage} (follows : StageFollows x task stage stage')
      (sessions : SameSessions x x') (verdict : SameVerdict x x') (history : SameHistory x x') :
      Effect t x x' (.exclusive task (.within stage)) (.exclusive task (.within stage')) :=
    .quiet demoted used (follows.follows free) sessions verdict history
  cases stage with
  | begun =>
    have free : ∀ inner point, Stage.begun = .publishing inner point → point.holds = false :=
      fun _ _ is => by cases is
    cases task with
    | build device =>
      cases stepped
      refine plain used free ⟨?_, fun clear => .inr (.inl ?_), fun native => ?_, fun _ _ is => ?_⟩
        ⟨rfl, rfl⟩ ⟨rfl, rfl, rfl⟩ ⟨rfl, rfl, rfl⟩
      · split <;> trivial
      · cases failed : x.failed with
        | false => rfl
        | true => simp [failed, Stage.cleared] at clear
      · split at native <;> cases native
      · split at is <;> cases is
    | infer session =>
      simp only [within] at stepped
      split at stepped
      · cases stepped
        refine plain used free ⟨trivial, (fun clear => by cases clear), fun native => ?_,
          fun _ _ is => by cases is⟩ ⟨rfl, rfl⟩ ⟨rfl, rfl, rfl⟩ ⟨rfl, rfl, rfl⟩
        cases choice with
        | mk call outcome succeeds => cases succeeds <;> cases native
      · split at stepped
        · cases stepped
          exact plain used free ⟨trivial, (fun clear => by cases clear), (fun native => by
            cases native), fun _ _ is => by cases is⟩ ⟨rfl, rfl⟩ ⟨rfl, rfl, rfl⟩ ⟨rfl, rfl, rfl⟩
        next enabled =>
          cases stepped
          have off : x.disabled = false := Bool.eq_false_iff.mpr enabled
          refine plain used free ⟨?_, fun _ => .inr (.inr off), fun native => ?_, fun _ _ is => ?_⟩
            ⟨rfl, rfl⟩ ⟨rfl, rfl, rfl⟩ ⟨rfl, rfl, rfl⟩
          all_goals rcases request_fits x t session with request | request
          · rw [request]
            exact ⟨_, .inr rfl⟩
          · rw [request]
            exact ⟨_, .inl rfl⟩
          · rw [request] at native
            cases native
          · rw [request] at native
            cases native
          · rw [request] at is
            cases is
          · rw [request] at is
            cases is
  | ready native =>
    cases stepped
    exact plain used (fun _ _ is => by cases is) ⟨fits, fun _ => .inl rfl, fun _ => rfl,
      fun _ _ is => by cases is⟩ ⟨rfl, rfl⟩ ⟨rfl, rfl, rfl⟩ ⟨rfl, rfl, rfl⟩
  | calling native =>
    simp only [within, Option.some.injEq] at stepped
    have effect := returned_effect (t := t) choice.outcome demoted used fits
    rw [stepped] at effect
    exact effect
  | locking =>
    simp only [within, Option.ite_none_right_eq_some, Option.some.injEq, Prod.mk.injEq] at stepped
    obtain ⟨_, rfl, rfl⟩ := stepped
    exact plain used (fun _ _ is => by cases is) ⟨fits, fun _ => .inl rfl, fun _ => rfl,
      fun _ _ is => by cases is⟩ ⟨rfl, rfl⟩ ⟨rfl, rfl, rfl⟩ ⟨rfl, rfl, rfl⟩
  | rechecking =>
    obtain ⟨device, rfl⟩ := fits
    cases stepped
    refine plain used (fun _ _ is => by cases is) ⟨?_, fun _ => .inl rfl, fun _ => rfl,
      fun _ _ is => ?_⟩ ⟨rfl, rfl⟩ ⟨rfl, rfl, rfl⟩ ⟨rfl, rfl, rfl⟩
    · split <;> trivial
    · split at is <;> cases is
  | unlocking built =>
    cases stepped
    have released := release_same x
    cases built with
    | none =>
      exact plain used (fun _ _ is => by cases is) ⟨trivial, (fun clear => by cases clear),
        (fun native => by cases native), fun _ _ is => by cases is⟩ released.1 released.2.1
        released.2.2
    | some target =>
      obtain ⟨device, rfl⟩ := fits
      exact plain used (fun _ _ is => by cases is) ⟨trivial, fun _ => .inl rfl, fun _ => rfl,
        fun _ _ is => by cases is⟩ released.1 released.2.1 released.2.2
  | publishing inner point =>
    obtain ⟨⟨published, next⟩, isPublished, same⟩ := Option.map_eq_some_iff.mp stepped
    cases same
    refine .publish demoted used isPublished (fun _ => .inr ⟨task, inner, point, rfl⟩) rfl ?_ ?_
      (fun session uses => ?_) rfl ?_ ?_ ?_ ?_
    · cases next <;> first | rfl | (cases inner <;> rfl)
    · cases next <;> first | trivial | (cases inner <;> trivial)
    · cases task <;> exact uses
    · rfl
    · cases next <;> first | rfl | (cases inner <;> rfl)
    · cases next <;> cases task <;> first | rfl | (cases inner <;> rfl)
    · exact fun condemns => by cases condemns
  | ended answer => cases stepped

theorem exclusive_effect {task : Task} {point : ExclusivePoint} {next : Activity} {notify : Bool}
    (demoted : x.Demoted)
    (used : ∀ session, (Activity.exclusive task point).session = some session →
      session < x.created)
    (fits : x.Fits (.exclusive task point))
    (stepped : x.exclusive t choice task point = some (x', next, notify)) :
    Effect t x x' (.exclusive task point) next := by
  have uses (session : ℕ) (point' : ExclusivePoint)
      (uses : (Activity.exclusive task point').session = some session) :
      (Activity.exclusive task point).session = some session := by
    cases task <;> exact uses
  -- In front of the lane nothing but the lane changes.
  have before {point' : ExclusivePoint} (x' : Shared T)
      (follows : Follows x (.exclusive task point) (.exclusive task point'))
      (sessions : SameSessions x x') (verdict : SameVerdict x x') (history : SameHistory x x') :
      Effect t x x' (.exclusive task point) (.exclusive task point') :=
    .quiet demoted used follows sessions verdict history
  cases point with
  | entering =>
    simp only [exclusive, Option.ite_none_right_eq_some, Option.some.injEq, Prod.mk.injEq]
      at stepped
    obtain ⟨_, rfl, rfl, _⟩ := stepped
    exact before _ ⟨trivial, fun session => uses session _, rfl, rfl, (fun clear => by cases clear),
      (fun native => by cases task <;> cases native), fun condemns => by cases condemns⟩
      ⟨rfl, rfl⟩ ⟨rfl, rfl, rfl⟩ ⟨rfl, rfl, rfl⟩
  | testing =>
    simp only [exclusive] at stepped
    split at stepped <;> cases stepped
    all_goals exact before _ ⟨trivial, fun session => uses session _, rfl, rfl,
      (fun clear => by cases clear), (fun native => by cases task <;> cases native),
      fun condemns => by cases condemns⟩ ⟨rfl, rfl⟩ ⟨rfl, rfl, rfl⟩ ⟨rfl, rfl, rfl⟩
  | asleep notified =>
    simp only [exclusive, Option.ite_none_right_eq_some, Option.some.injEq, Prod.mk.injEq]
      at stepped
    obtain ⟨_, rfl, rfl, _⟩ := stepped
    exact before _ ⟨trivial, fun session => uses session _, rfl, rfl, (fun clear => by cases clear),
      (fun native => by cases task <;> cases native), fun condemns => by cases condemns⟩
      ⟨rfl, rfl⟩ ⟨rfl, rfl, rfl⟩ ⟨rfl, rfl, rfl⟩
  | within stage =>
    by_cases finished : ∃ answer, stage = .ended answer
    · obtain ⟨answer, rfl⟩ := finished
      cases stepped
      refine before _ ⟨trivial, fun session => uses session _, rfl, rfl,
        (fun clear => by cases clear), fun native => .inl ?_, fun condemns => by cases condemns⟩
        ⟨rfl, rfl⟩ ⟨rfl, rfl, rfl⟩ ⟨rfl, rfl, rfl⟩
      cases task <;> cases answer <;> first | rfl | cases native
    · have inside : (x.within t choice task stage).map (fun after =>
          (after.1, Activity.exclusive task (.within after.2), false)) = some (x', next, notify) := by
        cases stage <;> first | exact stepped | exact absurd ⟨_, rfl⟩ finished
      obtain ⟨⟨after, stage'⟩, isWithin, same⟩ := Option.map_eq_some_iff.mp inside
      cases same
      exact within_effect demoted used fits isWithin
  | leaving answer =>
    obtain ⟨sessions, verdict, history⟩ := release_same x
    cases task with
    | build device =>
      cases stepped
      exact .quiet demoted used ⟨trivial, (fun _ uses => by cases uses), rfl, rfl,
        (fun clear => by cases clear), (fun native => by cases native),
        fun condemns => by cases condemns⟩ sessions verdict history
    | infer session =>
      cases stepped
      refine .answer answer demoted used rfl rfl ⟨sessions.created, sessions.session⟩
        ⟨verdict.stateLock, verdict.failed, verdict.disabled⟩ history.late ?_ history.outside ?_
      · rw [serve, history.late, history.served]
      · rintro rfl
        rfl

theorem cpuWithin_effect {session : ℕ} {stage stage' : Stage} (demoted : x.Demoted)
    (used : session < x.created) (fits : x.Fits (.cpu session (.within stage)))
    (stepped : x.cpuWithin t choice session stage = some (x', stage')) :
    Effect t x x' (.cpu session (.within stage)) (.cpu session (.within stage')) := by
  obtain ⟨device, stages⟩ := fits
  have bound : ∀ other, (Activity.cpu session (.within stage)).session = some other →
      other < x.created := by
    rintro _ ⟨⟩
    exact used
  have cleared (native : Native) : (Activity.cpu session (.within (.calling native))).cleared :=
    rfl
  cases stage with
  | begun =>
    cases stepped
    refine .quiet demoted bound ⟨⟨device, ?_⟩, fun _ uses => uses, ?_, rfl, fun _ => .inl rfl, ?_,
      fun condemns => by cases condemns⟩ ⟨rfl, rfl⟩ ⟨rfl, rfl, rfl⟩ ⟨rfl, rfl, rfl⟩
    all_goals rcases request_fits x t session with request | request <;> rw [request]
    · exact .inr rfl
    · exact .inl rfl
    · rfl
    · rfl
    · exact fun native => by cases native
    · exact fun native => by cases native
  | ready native =>
    cases stepped
    exact .quiet demoted bound ⟨⟨device, stages⟩, fun _ uses => uses, rfl, rfl, fun _ => .inl rfl,
      (fun native => by cases native), fun condemns => by cases condemns⟩ ⟨rfl, rfl⟩
      ⟨rfl, rfl, rfl⟩ ⟨rfl, rfl, rfl⟩
  | calling native =>
    have ended (answer : Answer) : Effect t x x (.cpu session (.within (.calling native)))
        (.cpu session (.within (.ended answer))) :=
      .quiet demoted bound ⟨⟨device, trivial⟩, fun _ uses => uses, rfl, rfl,
        (fun clear => by cases clear), fun _ => .inr rfl, fun condemns => by cases condemns⟩
        ⟨rfl, rfl⟩ ⟨rfl, rfl, rfl⟩ ⟨rfl, rfl, rfl⟩
    rcases stages with rfl | rfl
    · cases outcome : choice.outcome with
      | returned =>
        simp only [cpuWithin, outcome, Option.some.injEq, Prod.mk.injEq] at stepped
        obtain ⟨rfl, rfl⟩ := stepped
        exact .modify session (fun s => { s with requests := Function.update s.requests t true })
          demoted bound (fun _ => ⟨rfl, rfl, rfl, rfl⟩)
          ⟨⟨device, .inr rfl⟩, fun _ uses => uses, rfl, rfl, fun _ => .inl rfl,
            (fun native => by cases native), fun condemns => by cases condemns⟩
      | _ =>
        simp only [cpuWithin, outcome, Option.some.injEq, Prod.mk.injEq] at stepped
        obtain ⟨rfl, rfl⟩ := stepped
        exact ended .raised
    · cases outcome : choice.outcome with
      | returned =>
        simp only [cpuWithin, outcome, Option.some.injEq, Prod.mk.injEq] at stepped
        obtain ⟨rfl, rfl⟩ := stepped
        exact ended .native
      | _ =>
        simp only [cpuWithin, outcome, Option.some.injEq, Prod.mk.injEq] at stepped
        obtain ⟨rfl, rfl⟩ := stepped
        exact ended .raised
  | _ => cases stepped

theorem cpu_effect {session : ℕ} {point : CpuPoint} {next : Activity} {notify : Bool}
    (demoted : x.Demoted) (used : session < x.created) (fits : x.Fits (.cpu session point))
    (stepped : x.cpu t choice session point = some (x', next, notify)) :
    Effect t x x' (.cpu session point) next := by
  have bound : ∀ other, (Activity.cpu session point).session = some other →
      other < x.created := by
    rintro _ ⟨⟩
    exact used
  cases point with
  | entering =>
    simp only [cpu, Option.ite_none_right_eq_some, Option.some.injEq, Prod.mk.injEq] at stepped
    obtain ⟨_, rfl, rfl, _⟩ := stepped
    exact .quiet demoted bound ⟨fits, fun _ uses => uses, rfl, rfl, (fun clear => by cases clear),
      (fun native => by cases native), fun condemns => by cases condemns⟩ ⟨rfl, rfl⟩
      ⟨rfl, rfl, rfl⟩ ⟨rfl, rfl, rfl⟩
  | testing =>
    simp only [cpu] at stepped
    split at stepped
    · cases stepped
      exact .quiet demoted bound ⟨fits, fun _ uses => uses, rfl, rfl,
        (fun clear => by cases clear), (fun native => by cases native),
        fun condemns => by cases condemns⟩ ⟨rfl, rfl⟩ ⟨rfl, rfl, rfl⟩ ⟨rfl, rfl, rfl⟩
    · cases stepped
      refine .quiet demoted bound ⟨fits, fun _ uses => uses, rfl, rfl, fun clear => .inr (.inl ?_),
        (fun native => by cases native), fun condemns => by cases condemns⟩ ⟨rfl, rfl⟩
        ⟨rfl, rfl, rfl⟩ ⟨rfl, rfl, rfl⟩
      cases failed : x.failed with
      | false => rfl
      | true => simp [failed, Activity.cleared, CpuPoint.cleared] at clear
  | asleep notified =>
    simp only [cpu, Option.ite_none_right_eq_some, Option.some.injEq, Prod.mk.injEq] at stepped
    obtain ⟨_, rfl, rfl, _⟩ := stepped
    exact .quiet demoted bound ⟨fits, fun _ uses => uses, rfl, rfl, (fun clear => by cases clear),
      (fun native => by cases native), fun condemns => by cases condemns⟩ ⟨rfl, rfl⟩
      ⟨rfl, rfl, rfl⟩ ⟨rfl, rfl, rfl⟩
  | releasing usable =>
    obtain ⟨sessions, verdict, history⟩ := release_same x
    cases usable with
    | true =>
      cases stepped
      exact .quiet demoted bound ⟨⟨fits, trivial⟩, fun _ uses => uses, rfl, rfl, fun _ => .inl rfl,
        (fun native => by cases native), fun condemns => by cases condemns⟩ sessions verdict
        history
    | false =>
      cases stepped
      exact .quiet demoted bound ⟨trivial, fun _ uses => uses, rfl, rfl,
        (fun clear => by cases clear), (fun native => by cases native),
        fun condemns => by cases condemns⟩ sessions verdict history
  | within stage =>
    by_cases finished : ∃ answer, stage = .ended answer
    · obtain ⟨answer, rfl⟩ := finished
      simp only [cpu, Option.ite_none_right_eq_some, Option.some.injEq, Prod.mk.injEq] at stepped
      obtain ⟨_, rfl, rfl, _⟩ := stepped
      refine .quiet demoted bound ⟨fits.1, fun _ uses => uses, rfl, rfl,
        (fun clear => by cases clear), fun native => .inl ?_, fun condemns => by cases condemns⟩
        ⟨rfl, rfl⟩ ⟨rfl, rfl, rfl⟩ ⟨rfl, rfl, rfl⟩
      cases answer <;> first | rfl | cases native
    · have inside : (x.cpuWithin t choice session stage).map (fun after =>
          (after.1, Activity.cpu session (.within after.2), false)) = some (x', next, notify) := by
        cases stage <;> first | exact stepped | exact absurd ⟨_, rfl⟩ finished
      obtain ⟨⟨after, stage'⟩, isWithin, same⟩ := Option.map_eq_some_iff.mp inside
      cases same
      exact cpuWithin_effect demoted used fits isWithin
  | left answer =>
    obtain ⟨sessions, verdict, history⟩ := release_same x
    cases stepped
    refine .answer answer demoted bound rfl rfl ⟨sessions.created, sessions.session⟩
      ⟨verdict.stateLock, verdict.failed, verdict.disabled⟩ history.late ?_ history.outside ?_
    · rw [serve, history.late, history.served]
    · rintro rfl
      rfl

theorem Effect.rebuild {a : Activity} (session : ℕ) (change : Session T → Session T) (a' : Activity)
    (demoted : x.Demoted) (used : session < x.created)
    (compiled : (change (x.session session)).compiled = (x.session session).compiled)
    (grows : (x.session session).cpuSession = true → (change (x.session session)).cpuSession = true)
    (stays : (change (x.session session)).device = (x.session session).device ∨
      (change (x.session session)).cpuSession = true)
    (lock : LockStep t (x.session session).rebuildLock (change (x.session session)).rebuildLock
      (a.rebuilds == some session) (a'.rebuilds == some session))
    (others : ∀ other ≠ session, a.rebuilds ≠ some other ∧ a'.rebuilds ≠ some other)
    (fits : (x.modify session change).Fits a')
    (uses : ∀ other, a'.session = some other → other = session)
    (publishes : a.publishes = false) (publishes' : a'.publishes = false)
    (cleared : a'.cleared = false) (native : a'.answersNative = false)
    (condemns : a'.condemns = false) (served : List (Bool × Answer))
    (isServed : served = x.served ∨ ∃ answer, served = (x.late t, answer) :: x.served ∧
      answer ≠ .native) :
    Effect t x { x.modify session change with served } a a' := by
  have self : (x.modify session change).session session = change (x.session session) := by
    simp [Shared.modify]
  have kept (other : ℕ) (is : other ≠ session) :
      (x.modify session change).session other = x.session other := by
    simp [Shared.modify, Function.update_of_ne is]
  refine
    { grows := ⟨le_rfl, fun other _ => ?_, fun other _ plain => ?_⟩
      demoted := fun other => ?_
      fits := ?_
      used := fun other is => (uses other is).symm ▸ used
      stateLock := .inl ⟨rfl, by rw [publishes, publishes']⟩
      rebuildLock := fun other _ => ?_
      fresh := fun none other above => ?_
      rebuilds := fun other is => (uses other (Activity.session_of_rebuilds is)).symm ▸ used
      failed := id
      published := .inl rfl
      disabled := id
      cleared := fun clear => by rw [cleared] at clear; cases clear
      native := fun answers => by rw [native] at answers; cases answers
      late := .inl rfl
      served := isServed.imp id fun ⟨answer, same, other⟩ =>
        ⟨answer, same, fun is => absurd is other⟩
      outside := fun is => ⟨is, fun is => by rw [condemns] at is; cases is⟩ }
  · by_cases is : other = session
    · rw [is]
      exact self ▸ compiled
    · exact congrArg Session.compiled (kept other is)
  · by_cases is : other = session
    · rw [is] at plain ⊢
      exact self.symm ▸ grows plain
    · exact (congrArg Session.cpuSession (kept other is)).trans plain
  · by_cases is : other = session
    · rw [is]
      change ((x.modify session change).session session).device = _ ∨ _ ∨ _
      rw [self, compiled]
      rcases stays with same | plain
      · rw [same]
        exact (demoted session).imp_right (Or.imp_right grows)
      · exact .inr (.inr plain)
    · change ((x.modify session change).session other).device = _ ∨ _ ∨ _
      rw [kept other is]
      exact demoted other
  · exact fits.of_same ⟨rfl, rfl⟩
  · by_cases is : other = session
    · rw [is]
      exact self.symm ▸ lock
    · obtain ⟨before, after⟩ := others other is
      refine .inl ⟨congrArg Session.rebuildLock (kept other is), ?_⟩
      rw [beq_false_of_ne before, beq_false_of_ne after]
  · have is : other ≠ session := fun same => absurd used (Nat.not_lt.mpr (same ▸ above))
    exact (congrArg Session.rebuildLock (kept other is)).trans (none other above)

theorem Effect.begin {a' : Activity} (demoted : x.Demoted) (fits : x.Fits a')
    (used : ∀ session, a'.session = some session → session < x.created)
    (publishes : a'.publishes = false) (rebuilds : a'.rebuilds = none)
    (cleared : a'.cleared = false) (native : a'.answersNative = false) (sessions : SameSessions x x') (verdict : SameVerdict x x')
    (late : x'.late = x.late ∨ x'.late = Function.update x.late t x.failed)
    (served : x'.served = x.served)
    (outside : x'.outside = false → x.outside = false ∧ a'.condemns = false) :
    Effect t x x' .idle a' where
  grows := sessions.grows
  demoted := sessions.demoted demoted
  fits := fits.of_same sessions
  used session uses := sessions.created ▸ used session uses
  stateLock := .inl ⟨verdict.stateLock, publishes⟩
  rebuildLock session _ := .inl ⟨by rw [sessions.session], by rw [rebuilds]; rfl⟩
  fresh none session above := by
    rw [sessions.session]
    exact none session above
  rebuilds session is := by rw [rebuilds] at is; cases is
  failed := by rw [verdict.failed]; exact id
  published := .inl verdict.failed
  disabled := by rw [verdict.failed, verdict.disabled]; exact id
  cleared clear := by rw [cleared] at clear; cases clear
  native answers := by rw [native] at answers; cases answers
  late := late.imp id fun late => ⟨rfl, late⟩
  served := .inl served
  outside is := ⟨(outside is).1, fun condemns => by
    rw [(outside is).2] at condemns
    cases condemns⟩

theorem start_effect {call : Call} {next : Activity} {notify : Bool} (demoted : x.Demoted)
    (started : x.start t call = some (x', next, notify)) : Effect t x x' .idle next := by
  cases call with
  | construct device =>
    cases started
    exact .begin demoted trivial (fun _ uses => by cases uses) rfl rfl rfl rfl ⟨rfl, rfl⟩
      ⟨rfl, rfl, rfl⟩ (.inl rfl) rfl fun is => ⟨is, rfl⟩
  | run session =>
    simp only [start, Option.ite_none_right_eq_some, Option.some.injEq, Prod.mk.injEq] at started
    obtain ⟨bound, rfl, rfl, _⟩ := started
    exact .begin demoted trivial (fun _ uses => by cases uses; exact bound) rfl rfl rfl rfl
      ⟨rfl, rfl⟩ ⟨rfl, rfl, rfl⟩ (.inr rfl) rfl fun is => ⟨is, rfl⟩
  | ensureCpu session =>
    simp only [start, Option.ite_none_right_eq_some, Option.some.injEq, Prod.mk.injEq] at started
    obtain ⟨bound, rfl, rfl, _⟩ := started
    exact .begin demoted trivial (fun _ uses => by cases uses; exact bound) rfl rfl rfl rfl
      ⟨rfl, rfl⟩ ⟨rfl, rfl, rfl⟩ (.inl rfl) rfl fun is => ⟨is, rfl⟩
  | disable durable =>
    cases started
    exact .begin demoted trivial (fun _ uses => by cases uses) rfl rfl rfl rfl ⟨rfl, rfl⟩
      ⟨rfl, rfl, rfl⟩ (.inl rfl) rfl fun is => by simpa [Activity.condemns] using is

theorem plain_ne (choice : Choice) : plain choice ≠ .native := by
  unfold plain
  split <;> exact fun is => by cases is

theorem after_session {session other : ℕ} {running : Bool}
    (uses : (after session running).session = some other) : other = session := by
  cases running <;> cases uses
  rfl

theorem act_effect {a next : Activity} {notify : Bool} (demoted : x.Demoted)
    (used : ∀ session, a.session = some session → session < x.created) (fits : x.Fits a)
    (stepped : x.act t choice a = some (x', next, notify)) : Effect t x x' a next := by
  have quiet {next : Activity} (follows : Follows x a next) : Effect t x x a next :=
    .quiet demoted used follows ⟨rfl, rfl⟩ ⟨rfl, rfl, rfl⟩ ⟨rfl, rfl, rfl⟩
  have answer {answer : Answer} (publishes : a.publishes = false) (rebuilds : a.rebuilds = none)
      (plain : answer ≠ .native) : Effect t x (x.serve t answer) a .idle :=
    .answer answer demoted used publishes rebuilds ⟨rfl, rfl⟩ ⟨rfl, rfl, rfl⟩ rfl rfl rfl
      fun native => absurd native plain
  cases a with
  | idle => exact start_effect demoted stepped
  | reading session =>
    simp only [act] at stepped
    split at stepped <;> cases stepped
    · exact answer rfl rfl (plain_ne choice)
    · exact quiet ⟨trivial, fun _ uses => uses, rfl, rfl, (fun clear => by cases clear),
        (fun native => by cases native), fun condemns => by cases condemns⟩
  | choosing session =>
    cases stepped
    split
    · exact quiet ⟨trivial, fun _ uses => uses, rfl, rfl, (fun clear => by cases clear),
        (fun native => by cases native), fun condemns => by cases condemns⟩
    next other =>
      exact quiet ⟨(demoted session).resolve_left other, fun _ uses => uses, rfl, rfl,
        (fun clear => by cases clear), (fun native => by cases native),
        fun condemns => by cases condemns⟩
  | rereading session =>
    simp only [act] at stepped
    split at stepped
    · cases stepped
      exact answer rfl rfl (plain_ne choice)
    next none =>
      cases stepped
      exact quiet ⟨fits.resolve_right none, fun _ uses => uses, rfl, rfl,
        (fun clear => by cases clear), (fun native => by cases native),
        fun condemns => by cases condemns⟩
  | exclusive task point => exact exclusive_effect demoted used fits stepped
  | cpu session point => exact cpu_effect demoted (used session rfl) fits stepped
  | ensuring session =>
    cases stepped
    split
    · exact quiet ⟨trivial, (fun _ uses => by cases uses), rfl, rfl, (fun clear => by cases clear),
        (fun native => by cases native), fun condemns => by cases condemns⟩
    · exact quiet ⟨trivial, fun _ uses => uses, rfl, rfl, (fun clear => by cases clear),
        (fun native => by cases native), fun condemns => by cases condemns⟩
  | demanding session =>
    cases stepped
    split
    · exact quiet ⟨trivial, (fun _ uses => by cases uses), rfl, rfl, (fun clear => by cases clear),
        (fun native => by cases native), fun condemns => by cases condemns⟩
    · exact quiet ⟨trivial, fun _ uses => uses, rfl, rfl, (fun clear => by cases clear),
        (fun native => by cases native), fun condemns => by cases condemns⟩
  | disabling durable point session =>
    obtain ⟨⟨published, following⟩, isPublished, same⟩ := Option.map_eq_some_iff.mp stepped
    cases same
    refine .publish demoted used isPublished .inl rfl ?_ ?_ (fun other uses => ?_) rfl ?_ ?_ ?_ ?_
    all_goals cases following <;> cases session
    all_goals first | rfl | trivial | exact uses | cases uses | exact id |
      exact fun condemns => by cases condemns
  | moving session running =>
    simp only [act, Option.ite_none_right_eq_some, Option.some.injEq, Prod.mk.injEq] at stepped
    obtain ⟨free, rfl, rfl, _⟩ := stepped
    refine .rebuild session (fun s => { s with rebuildLock := some t })
      (.rebuilding session running) demoted (used session rfl) rfl id (.inl rfl)
      (.inr (.inl ⟨free, rfl, beq_self_eq_true _⟩)) (fun other is => ⟨by simp [Activity.rebuilds],
        by simpa [Activity.rebuilds] using is.symm⟩) trivial (fun other uses => ?_) rfl rfl rfl rfl
      rfl x.served (.inl rfl)
    cases uses
    rfl
  | rebuilding session running =>
    have others (other : ℕ) (is : other ≠ session) :
        (Activity.rebuilding session running).rebuilds ≠ some other := by
      simpa [Activity.rebuilds] using is.symm
    have unlocked {next : Activity} (idle : next.rebuilds = none) :
        LockStep t (x.session session).rebuildLock none
          ((Activity.rebuilding session running).rebuilds == some session)
          (next.rebuilds == some session) := by
      refine .inr (.inr ⟨beq_self_eq_true _, rfl, ?_⟩)
      rw [idle]
      rfl
    simp only [act] at stepped
    split at stepped
    · cases stepped
      refine .rebuild session (fun s => { s with rebuildLock := none }) (after session running)
        demoted (used session rfl) rfl id (.inl rfl) (unlocked ?_)
        (fun other is => ⟨others other is, ?_⟩) ?_ (fun _ => after_session) rfl ?_ ?_ ?_ ?_
        x.served (.inl rfl)
      all_goals cases running <;> first | rfl | trivial | exact fun is => by cases is
    · split at stepped
      · cases stepped
        refine .rebuild (a := .rebuilding session running) session
          (fun s => { s with cpuSession := true }) (.demoting session running) demoted
          (used session rfl) rfl (fun _ => rfl) (.inr rfl)
          (.inl ⟨rfl, rfl⟩) (fun other is => ⟨others other is, others other is⟩) ?_
          (fun other uses => ?_) rfl rfl rfl rfl rfl x.served (.inl rfl)
        · simp [Fits, Shared.modify]
        · cases uses
          rfl
      · cases stepped
        cases running with
        | true =>
          exact .rebuild session (fun s => { s with rebuildLock := none }) .idle demoted
            (used session rfl) rfl id (.inl rfl) (unlocked rfl)
            (fun other is => ⟨others other is, fun is => by cases is⟩) trivial
            (fun _ uses => by cases uses) rfl rfl rfl rfl rfl _
            (.inr ⟨.raised, rfl, fun is => by cases is⟩)
        | false =>
          exact .rebuild session (fun s => { s with rebuildLock := none }) .idle demoted
            (used session rfl) rfl id (.inl rfl) (unlocked rfl)
            (fun other is => ⟨others other is, fun is => by cases is⟩) trivial
            (fun _ uses => by cases uses) rfl rfl rfl rfl rfl x.served (.inl rfl)
  | demoting session running =>
    cases stepped
    refine .rebuild session (fun s => { s with device := .cpu, rebuildLock := none })
      (after session running) demoted (used session rfl) rfl id (.inr fits)
      (.inr (.inr ⟨?_, rfl, ?_⟩))
      (fun other is => ⟨?_, ?_⟩) ?_ (fun _ => after_session) rfl ?_ ?_ ?_ ?_ x.served (.inl rfl)
    · exact beq_self_eq_true _
    · cases running <;> rfl
    · simpa [Activity.rebuilds] using is.symm
    all_goals cases running <;> first | rfl | trivial | exact fun is => by cases is
  | recovered session =>
    cases stepped
    refine answer rfl rfl ?_
    split
    · exact plain_ne choice
    · exact fun is => by cases is

end Shared

theorem Activity.notified_facts (activity : Activity) :
    activity.notified.publishes = activity.publishes ∧
      activity.notified.rebuilds = activity.rebuilds ∧
      activity.notified.cleared = activity.cleared ∧
      activity.notified.answersNative = activity.answersNative ∧
      activity.notified.condemns = activity.condemns ∧
      activity.notified.session = activity.session := by
  cases activity with
  | exclusive task point =>
    cases point <;> refine ⟨rfl, rfl, rfl, ?_, rfl, ?_⟩ <;> first | rfl | (cases task <;> rfl)
  | cpu session point => cases point <;> exact ⟨rfl, rfl, rfl, rfl, rfl, rfl⟩
  | _ => exact ⟨rfl, rfl, rfl, rfl, rfl, rfl⟩

omit [DecidableEq T] in
theorem Shared.Fits.notified {x : Shared T} {activity : Activity} (fits : x.Fits activity) :
    x.Fits activity.notified := by
  cases activity with
  | exclusive task point => cases point <;> exact fits
  | cpu session point => cases point <;> exact fits
  | _ => exact fits

namespace State

variable {s s' : State T} {t : T} {choice : Choice}

structure Inv (s : State T) : Prop where
  demoted : s.shared.Demoted
  fits : ∀ t, s.shared.Fits (s.activity t)
  used : ∀ t session, (s.activity t).session = some session → session < s.shared.created
  stateLock : ∀ t, (s.activity t).publishes = true ↔ s.shared.stateLock = some t
  rebuildLock : ∀ session < s.shared.created, ∀ t,
    ((s.activity t).rebuilds == some session) = true ↔
      (s.shared.session session).rebuildLock = some t
  fresh : ∀ session, s.shared.created ≤ session → (s.shared.session session).rebuildLock = none
  disabled : s.shared.failed = true → s.shared.disabled = true
  late : ∀ t, s.shared.late t = true → s.shared.failed = true

theorem step_effect (inv : s.Inv) (stepped : s.step t choice = some s') :
    ∃ activity, s.shared.Effect t s'.shared (s.activity t) activity ∧
      ∀ u, s'.activity u = Function.update s.activity t activity u ∨
        s'.activity u = (Function.update s.activity t activity u).notified := by
  obtain ⟨x, activity, notify, acted, rfl, activities⟩ := step_cases stepped
  refine ⟨activity, Shared.act_effect inv.demoted (inv.used t) (inv.fits t) acted, fun u => ?_⟩
  rw [activities]
  cases notify
  · exact .inl rfl
  · exact .inr rfl

end State

end DashcamStats.Inference
