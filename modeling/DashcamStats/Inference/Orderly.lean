import DashcamStats.Inference.Session

namespace DashcamStats.Inference

open Monitor (Phase)

-- Within the inner `with`
def Stage.inner : Stage → Bool
  | .rechecking | .unlocking _ | .ready (.compile _) | .calling (.compile _) => true
  | .publishing inner _ => inner
  | _ => false

def ExclusivePoint.phase : ExclusivePoint → Phase
  | .entering => .writeEntering
  | .testing => .writeTesting
  | .asleep notified => .writeAsleep notified
  | .within stage => .writing stage.inner
  | .leaving _ => .writeLeaving

def CpuPoint.phase : CpuPoint → Phase
  | .entering => .readEntering
  | .testing => .readTesting
  | .asleep notified => .readAsleep notified
  | .releasing usable => .readReleasing usable
  | .within _ => .reading
  | .left _ => .readLeft

def Activity.phase : Activity → Phase
  | .exclusive _ point => point.phase
  | .cpu _ point => point.phase
  | _ => .out

theorem Activity.phase_notified (activity : Activity) :
    activity.notified.phase = activity.phase.notified := by
  cases activity with
  | exclusive task point => cases point <;> rfl
  | cpu session point => cases point <;> rfl
  | _ => rfl

variable {T : Type} [DecidableEq T]

namespace Shared

variable {x x' : Shared T} {t : T} {choice : Choice}

def monitor (x : Shared T) (phase : T → Phase) : Monitor T :=
  ⟨x.owner, x.depth, x.nativeWriters, x.activeCpuInference, phase⟩

structure SameLanes (x x' : Shared T) : Prop where
  owner : x'.owner = x.owner
  depth : x'.depth = x.depth
  writers : x'.nativeWriters = x.nativeWriters
  active : x'.activeCpuInference = x.activeCpuInference

omit [DecidableEq T] in
theorem SameLanes.refl (x : Shared T) : SameLanes x x := ⟨rfl, rfl, rfl, rfl⟩

omit [DecidableEq T] in
theorem SameLanes.monitor (same : SameLanes x x') (phase : T → Phase) :
    x'.monitor phase = x.monitor phase := by
  simp only [Shared.monitor, same.owner, same.depth, same.writers, same.active]

omit [DecidableEq T] in
theorem publish_lanes {durable written : Bool} {point : Publishing} {next : Option Publishing}
    (published : x.publish t durable written point = some (x', next)) : SameLanes x x' := by
  cases point <;> simp only [publish, Option.ite_none_right_eq_some, Option.some.injEq,
    Prod.mk.injEq] at published
  case locking => exact published.2.1 ▸ ⟨rfl, rfl, rfl, rfl⟩
  case locked => exact published.1 ▸ ⟨rfl, rfl, rfl, rfl⟩
  case persisting => exact published.1 ▸ ⟨rfl, rfl, rfl, rfl⟩
  case relocking => exact published.2.1 ▸ ⟨rfl, rfl, rfl, rfl⟩
  case relocked => exact published.1 ▸ ⟨rfl, rfl, rfl, rfl⟩

theorem returned_lanes (t : T) (task : Task) (outcome : Outcome) (x : Shared T) (native : Native) :
    SameLanes x (x.returned t task outcome native).1 ∧
      (x.returned t task outcome native).2.inner = (Stage.calling native).inner := by
  cases native with
  | compile target =>
    refine ⟨⟨rfl, rfl, rfl, rfl⟩, ?_⟩
    cases outcome <;> cases target <;> rfl
  | property target => cases outcome <;> cases target <;> exact ⟨⟨rfl, rfl, rfl, rfl⟩, rfl⟩
  | request device => cases outcome <;> cases task <;> exact ⟨⟨rfl, rfl, rfl, rfl⟩, rfl⟩
  | _ => cases outcome <;> exact ⟨⟨rfl, rfl, rfl, rfl⟩, rfl⟩

theorem within_lanes {task : Task} {stage stage' : Stage} (phase : T → Phase)
    (at_phase : phase t = .writing stage.inner)
    (held : x.owner = some t) (depth : x.depth = (Phase.writing stage.inner).depth)
    (stepped : x.within t choice task stage = some (x', stage')) :
    (SameLanes x x' ∧ stage'.inner = stage.inner) ∨
      (x.monitor phase).Moves (.writing stage.inner) (.writing stage'.inner) ∧
        x'.monitor (Function.update phase t (.writing stage'.inner)) =
          (x.monitor phase).move t (.writing stage'.inner) := by
  cases stage with
  | begun =>
    cases task with
    | build device =>
      cases stepped
      refine .inl ⟨.refl x, ?_⟩
      split <;> rfl
    | infer session =>
      simp only [within] at stepped
      split at stepped
      · cases stepped
        exact .inl ⟨.refl x, rfl⟩
      · split at stepped
        · cases stepped
          exact .inl ⟨.refl x, rfl⟩
        · cases stepped
          refine .inl ⟨.refl x, ?_⟩
          unfold request
          dsimp only
          split <;> rfl
  | ready native =>
    cases stepped
    exact .inl ⟨.refl x, by cases native <;> rfl⟩
  | calling native =>
    simp only [within, Option.some.injEq] at stepped
    have same := returned_lanes t task choice.outcome x native
    rw [stepped] at same
    exact .inl same
  | locking =>
    simp only [within, Option.ite_none_right_eq_some, Option.some.injEq, Prod.mk.injEq] at stepped
    obtain ⟨_, rfl, rfl⟩ := stepped
    refine .inr ⟨.inner, ?_⟩
    simp [monitor, Monitor.move, take, at_phase, held, depth, Phase.depth, Phase.writes,
      Phase.reads, Stage.inner]
  | rechecking =>
    cases task with
    | build target =>
      cases stepped
      refine .inl ⟨.refl x, ?_⟩
      split <;> rfl
    | infer session => cases stepped
  | unlocking built =>
    have two : x.depth = 2 := depth
    cases built <;>
    · cases stepped
      refine .inr ⟨.outer, ?_⟩
      simp [monitor, Monitor.move, release, two, at_phase, held, Phase.depth, Phase.writes,
        Phase.reads, Stage.inner]
  | publishing inner point =>
    obtain ⟨⟨published, next⟩, isPublished, same⟩ := Option.map_eq_some_iff.mp stepped
    cases same
    refine .inl ⟨publish_lanes isPublished, ?_⟩
    cases next with
    | some point => rfl
    | none => cases inner <;> rfl
  | ended answer => cases stepped

theorem exclusive_monitor {task : Task} {point : ExclusivePoint} {next : Activity} {notify : Bool}
    (phase : T → Phase) (at_phase : phase t = point.phase)
    (held : point.phase.depth ≠ 0 → x.owner = some t ∧ x.depth = point.phase.depth)
    (stepped : x.exclusive t choice task point = some (x', next, notify)) :
    (SameLanes x x' ∧ next.phase = point.phase ∧ notify = false) ∨
      (x.monitor phase).Moves point.phase next.phase ∧
        x'.monitor (Function.update phase t next.phase) = (x.monitor phase).move t next.phase ∧
        notify = decide (Monitor.Notifies next.phase) := by
  cases point with
  | entering =>
    simp only [exclusive, Option.ite_none_right_eq_some, Option.some.injEq, Prod.mk.injEq]
      at stepped
    obtain ⟨unowned, rfl, rfl, rfl⟩ := stepped
    refine .inr ⟨.count unowned, ?_, rfl⟩
    simp [monitor, Monitor.move, take, at_phase, unowned, Activity.phase, ExclusivePoint.phase,
      Phase.depth, Phase.writes, Phase.reads]
  | testing =>
    simp only [exclusive] at stepped
    split at stepped
    next busy =>
      cases stepped
      refine .inr ⟨.sleep busy, ?_, rfl⟩
      simp [monitor, Monitor.move, releaseAll, at_phase, Activity.phase, ExclusivePoint.phase,
        Phase.depth, Phase.writes, Phase.reads]
    next quiet =>
      cases stepped
      refine .inr ⟨.write (not_not.mp quiet), ?_, rfl⟩
      obtain ⟨owner, depth⟩ := held Nat.one_ne_zero
      have one : x.depth = 1 := depth
      simp [monitor, Monitor.move, owner, one, at_phase, Activity.phase, ExclusivePoint.phase,
        Stage.inner, Phase.depth, Phase.writes, Phase.reads]
  | asleep notified =>
    simp only [exclusive, Option.ite_none_right_eq_some, Option.some.injEq, Prod.mk.injEq]
      at stepped
    obtain ⟨⟨rfl, unowned⟩, rfl, rfl, rfl⟩ := stepped
    refine .inr ⟨.wake unowned, ?_, rfl⟩
    simp [monitor, Monitor.move, take, at_phase, unowned, Activity.phase, ExclusivePoint.phase,
      Phase.depth, Phase.writes, Phase.reads]
  | within stage =>
    by_cases finished : ∃ answer, stage = .ended answer
    · obtain ⟨answer, rfl⟩ := finished
      cases stepped
      refine .inr ⟨.leave, ?_, rfl⟩
      obtain ⟨owner, depth⟩ := held Nat.one_ne_zero
      have one : x.depth = 1 := depth
      simp [monitor, Monitor.move, owner, one, at_phase, Activity.phase, ExclusivePoint.phase,
        Stage.inner, Phase.depth, Phase.writes, Phase.reads]
    · have inside : (x.within t choice task stage).map (fun after =>
          (after.1, Activity.exclusive task (.within after.2), false)) = some (x', next, notify) := by
        cases stage <;> first | exact stepped | exact absurd ⟨_, rfl⟩ finished
      obtain ⟨⟨after, stage'⟩, isWithin, same⟩ := Option.map_eq_some_iff.mp inside
      cases same
      obtain ⟨owner, depth⟩ := held (by
        simp only [ExclusivePoint.phase]
        cases stage.inner <;> simp [Phase.depth])
      rcases within_lanes phase at_phase owner depth isWithin with ⟨lanes, inner⟩ | ⟨moves, moved⟩
      · exact .inl ⟨lanes, congrArg Phase.writing inner, rfl⟩
      · refine .inr ⟨moves, moved, ?_⟩
        simp [Activity.phase, ExclusivePoint.phase, Monitor.Notifies]
  | leaving answer =>
    obtain ⟨owner, depth⟩ := held Nat.one_ne_zero
    have one : x.depth = 1 := depth
    cases task <;>
    · cases stepped
      refine .inr ⟨.left, ?_, rfl⟩
      simp [monitor, Monitor.move, release, serve, one, at_phase, Activity.phase,
        ExclusivePoint.phase, Phase.depth, Phase.writes, Phase.reads]

theorem cpuWithin_lanes {session : ℕ} {stage stage' : Stage}
    (stepped : x.cpuWithin t choice session stage = some (x', stage')) : SameLanes x x' := by
  cases stage with
  | begun => cases stepped; exact .refl x
  | ready native => cases stepped; exact .refl x
  | calling native =>
    simp only [cpuWithin, Option.some.injEq] at stepped
    split at stepped <;> cases stepped <;> exact ⟨rfl, rfl, rfl, rfl⟩
  | _ => cases stepped

theorem cpu_monitor {session : ℕ} {point : CpuPoint} {next : Activity} {notify : Bool}
    (phase : T → Phase) (at_phase : phase t = point.phase)
    (held : point.phase.depth ≠ 0 → x.owner = some t ∧ x.depth = point.phase.depth)
    (stepped : x.cpu t choice session point = some (x', next, notify)) :
    (SameLanes x x' ∧ next.phase = point.phase ∧ notify = false) ∨
      (x.monitor phase).Moves point.phase next.phase ∧
        x'.monitor (Function.update phase t next.phase) = (x.monitor phase).move t next.phase ∧
        notify = decide (Monitor.Notifies next.phase) := by
  cases point with
  | entering =>
    simp only [cpu, Option.ite_none_right_eq_some, Option.some.injEq, Prod.mk.injEq] at stepped
    obtain ⟨unowned, rfl, rfl, rfl⟩ := stepped
    refine .inr ⟨.enter unowned, ?_, rfl⟩
    simp [monitor, Monitor.move, take, at_phase, unowned, Activity.phase, CpuPoint.phase,
      Phase.depth, Phase.writes, Phase.reads]
  | testing =>
    obtain ⟨owner, depth⟩ := held Nat.one_ne_zero
    have one : x.depth = 1 := depth
    simp only [cpu] at stepped
    split at stepped
    next busy =>
      cases stepped
      refine .inr ⟨.doze busy, ?_, rfl⟩
      simp [monitor, Monitor.move, releaseAll, at_phase, Activity.phase, CpuPoint.phase,
        Phase.depth, Phase.writes, Phase.reads]
    next quiet =>
      cases stepped
      refine .inr ⟨.grant (not_not.mp quiet) _, ?_, rfl⟩
      cases x.failed <;>
        simp [monitor, Monitor.move, owner, one, at_phase, Activity.phase, CpuPoint.phase,
          Phase.depth, Phase.writes, Phase.reads]
  | asleep notified =>
    simp only [cpu, Option.ite_none_right_eq_some, Option.some.injEq, Prod.mk.injEq] at stepped
    obtain ⟨⟨rfl, unowned⟩, rfl, rfl, rfl⟩ := stepped
    refine .inr ⟨.rouse unowned, ?_, rfl⟩
    simp [monitor, Monitor.move, take, at_phase, unowned, Activity.phase, CpuPoint.phase,
      Phase.depth, Phase.writes, Phase.reads]
  | releasing usable =>
    obtain ⟨owner, depth⟩ := held Nat.one_ne_zero
    have one : x.depth = 1 := depth
    cases usable with
    | true =>
      cases stepped
      refine .inr ⟨.read, ?_, rfl⟩
      simp [monitor, Monitor.move, release, one, at_phase, Activity.phase, CpuPoint.phase,
        Phase.depth, Phase.writes, Phase.reads]
    | false =>
      cases stepped
      refine .inr ⟨.turn, ?_, rfl⟩
      simp [monitor, Monitor.move, release, one, at_phase, Activity.phase, CpuPoint.phase,
        Phase.depth, Phase.writes, Phase.reads]
  | within stage =>
    by_cases finished : ∃ answer, stage = .ended answer
    · obtain ⟨answer, rfl⟩ := finished
      simp only [cpu, Option.ite_none_right_eq_some, Option.some.injEq, Prod.mk.injEq] at stepped
      obtain ⟨unowned, rfl, rfl, rfl⟩ := stepped
      refine .inr ⟨.finish unowned, ?_, rfl⟩
      simp [monitor, Monitor.move, take, at_phase, unowned, Activity.phase, CpuPoint.phase,
        Phase.depth, Phase.writes, Phase.reads]
    · have inside : (x.cpuWithin t choice session stage).map (fun after =>
          (after.1, Activity.cpu session (.within after.2), false)) = some (x', next, notify) := by
        cases stage <;> first | exact stepped | exact absurd ⟨_, rfl⟩ finished
      obtain ⟨⟨after, stage'⟩, isWithin, same⟩ := Option.map_eq_some_iff.mp inside
      cases same
      exact .inl ⟨cpuWithin_lanes isWithin, rfl, rfl⟩
  | left answer =>
    obtain ⟨owner, depth⟩ := held Nat.one_ne_zero
    have one : x.depth = 1 := depth
    cases stepped
    refine .inr ⟨.done, ?_, rfl⟩
    simp [monitor, Monitor.move, release, serve, one, at_phase, Activity.phase, CpuPoint.phase,
      Phase.depth, Phase.writes, Phase.reads]

theorem outside_lanes {activity next : Activity} {notify : Bool}
    (outside : activity.phase = .out)
    (stepped : x.act t choice activity = some (x', next, notify)) :
    SameLanes x x' ∧ notify = false ∧
      (next.phase = .out ∨ next.phase = .writeEntering ∨ next.phase = .readEntering) := by
  cases activity with
  | idle =>
    simp only [act, start] at stepped
    split at stepped
    · cases stepped
      exact ⟨.refl x, rfl, .inr (.inl rfl)⟩
    · split at stepped <;> cases stepped
      exact ⟨⟨rfl, rfl, rfl, rfl⟩, rfl, .inl rfl⟩
    · split at stepped <;> cases stepped
      exact ⟨.refl x, rfl, .inl rfl⟩
    · cases stepped
      exact ⟨⟨rfl, rfl, rfl, rfl⟩, rfl, .inl rfl⟩
  | reading session =>
    simp only [act] at stepped
    split at stepped <;> cases stepped <;> exact ⟨⟨rfl, rfl, rfl, rfl⟩, rfl, .inl rfl⟩
  | choosing session =>
    cases stepped
    refine ⟨.refl x, rfl, ?_⟩
    split
    · exact .inr (.inl rfl)
    · exact .inl rfl
  | rereading session =>
    simp only [act] at stepped
    split at stepped <;> cases stepped
    · exact ⟨⟨rfl, rfl, rfl, rfl⟩, rfl, .inl rfl⟩
    · exact ⟨.refl x, rfl, .inr (.inr rfl)⟩
  | exclusive task point => cases point <;> cases outside
  | cpu session point => cases point <;> cases outside
  | ensuring session =>
    cases stepped
    refine ⟨.refl x, rfl, .inl ?_⟩
    split <;> rfl
  | demanding session =>
    cases stepped
    refine ⟨.refl x, rfl, .inl ?_⟩
    split <;> rfl
  | disabling durable point session =>
    obtain ⟨⟨published, following⟩, isPublished, same⟩ := Option.map_eq_some_iff.mp stepped
    cases same
    refine ⟨publish_lanes isPublished, rfl, .inl ?_⟩
    cases following <;> cases session <;> rfl
  | moving session running =>
    simp only [act] at stepped
    split at stepped <;> cases stepped
    exact ⟨⟨rfl, rfl, rfl, rfl⟩, rfl, .inl rfl⟩
  | rebuilding session running =>
    simp only [act] at stepped
    split at stepped
    · cases stepped
      exact ⟨⟨rfl, rfl, rfl, rfl⟩, rfl, .inl (by cases running <;> rfl)⟩
    · split at stepped
      · cases stepped
        exact ⟨⟨rfl, rfl, rfl, rfl⟩, rfl, .inl rfl⟩
      · cases stepped
        exact ⟨by cases running <;> exact ⟨rfl, rfl, rfl, rfl⟩, rfl, .inl rfl⟩
  | demoting session running =>
    cases stepped
    exact ⟨⟨rfl, rfl, rfl, rfl⟩, rfl, .inl (by cases running <;> rfl)⟩
  | recovered session =>
    cases stepped
    exact ⟨⟨rfl, rfl, rfl, rfl⟩, rfl, .inl rfl⟩

end Shared

namespace State

variable {s s' : State T} {t : T} {choice : Choice}

def monitor (s : State T) : Monitor T := s.shared.monitor fun t => (s.activity t).phase

theorem step_cases (stepped : s.step t choice = some s') : ∃ x activity notify,
    s.shared.act t choice (s.activity t) = some (x, activity, notify) ∧ s'.shared = x ∧
      s'.activity = fun u => if notify then (Function.update s.activity t activity u).notified
        else Function.update s.activity t activity u := by
  obtain ⟨⟨x, activity, notify⟩, acted, rfl⟩ := Option.map_eq_some_iff.mp stepped
  refine ⟨x, activity, notify, acted, rfl, ?_⟩
  cases notify <;> rfl

theorem phase_update (activities : T → Activity) (t : T) (activity : Activity) :
    (fun u => (Function.update activities t activity u).phase) =
      Function.update (fun u => (activities u).phase) t activity.phase := by
  funext u
  by_cases same : u = t
  · rw [same, Function.update_self, Function.update_self]
  · rw [Function.update_of_ne same, Function.update_of_ne same]

variable [Fintype T]

theorem monitor_step (inv : s.monitor.Inv) (stepped : s.step t choice = some s') :
    s'.monitor = s.monitor ∨ Monitor.Step t s.monitor s'.monitor := by
  obtain ⟨x, activity, notify, acted, isShared, activities⟩ := step_cases stepped
  have held : (s.activity t).phase.depth ≠ 0 →
      s.shared.owner = some t ∧ s.shared.depth = (s.activity t).phase.depth := fun locked =>
    ⟨inv.owned t locked, (inv.depth t (inv.owned t locked)).1⟩
  have effect : (Shared.SameLanes s.shared x ∧ activity.phase = (s.activity t).phase ∧
      notify = false) ∨ s.monitor.Moves (s.activity t).phase activity.phase ∧
        x.monitor (Function.update (fun u => (s.activity u).phase) t activity.phase) =
          s.monitor.move t activity.phase ∧ notify = decide (Monitor.Notifies activity.phase) := by
    cases at_activity : s.activity t with
    | exclusive task point =>
      rw [at_activity] at acted held
      exact Shared.exclusive_monitor _ (congrArg Activity.phase at_activity) held acted
    | cpu session point =>
      rw [at_activity] at acted held
      exact Shared.cpu_monitor _ (congrArg Activity.phase at_activity) held acted
    | _ =>
      rw [at_activity] at acted
      obtain ⟨same, silent, phase⟩ := Shared.outside_lanes rfl acted
      have at_phase : s.monitor.phase t = .out := congrArg Activity.phase at_activity
      rcases phase with out | asks | asks
      · exact .inl ⟨same, out, silent⟩
      · rw [asks]
        refine .inr ⟨.askWrite, ?_, silent⟩
        rw [same.monitor]
        simp [monitor, Shared.monitor, Monitor.move, Phase.depth, Phase.writes, Phase.reads,
          at_activity, Activity.phase]
      · rw [asks]
        refine .inr ⟨.askRead, ?_, silent⟩
        rw [same.monitor]
        simp [monitor, Shared.monitor, Monitor.move, Phase.depth, Phase.writes, Phase.reads,
          at_activity, Activity.phase]
  rcases effect with ⟨same, phase, rfl⟩ | ⟨moves, moved, isNotify⟩
  · refine .inl ?_
    rw [monitor, isShared, activities, same.monitor]
    simp only [Bool.false_eq_true, if_false, phase_update, phase, monitor,
      Function.update_eq_self]
  · refine .inr ⟨activity.phase, moves, ?_⟩
    rw [monitor, isShared, activities, Monitor.next]
    by_cases notifies : Monitor.Notifies activity.phase
    · rw [if_pos notifies, isNotify, decide_eq_true notifies, ← moved]
      simp only [if_true, Activity.phase_notified, Shared.monitor, Monitor.notifyAll]
      rw [← phase_update]
    · rw [if_neg notifies, isNotify, decide_eq_false notifies, ← moved]
      simp only [Bool.false_eq_true, if_false, phase_update]

end State

end DashcamStats.Inference
