import DashcamStats.Inference.Verdict

namespace DashcamStats.Inference

open Monitor (Phase)
open Relation (ReflTransGen)

variable {T : Type} [DecidableEq T]

namespace State

variable {s s' : State T} {t : T} {choice : Choice}

theorem inv_step (inv : s.Inv) (stepped : s.step t choice = some s') : s'.Inv := by
  obtain ⟨activity, effect, activities⟩ := step_effect inv stepped
  have project {β : Type} (look : Activity → β)
      (same : ∀ activity : Activity, look activity.notified = look activity) (u : T) :
      look (s'.activity u) =
        Function.update (fun u => look (s.activity u)) t (look activity) u := by
    rw [← Function.apply_update (fun _ => look) s.activity t activity u]
    rcases activities u with is | is <;> rw [is]
    exact same _
  refine
    { demoted := effect.demoted
      fits := fun u => ?_
      used := fun u session uses => ?_
      stateLock := fun u => ?_
      rebuildLock := fun session below u => ?_
      fresh := fun session above => effect.fresh inv.fresh session
        (effect.grows.created.trans above)
      disabled := effect.disabled inv.disabled
      late := fun u isLate => ?_ }
  · have fits : s'.shared.Fits (Function.update s.activity t activity u) := by
      by_cases same : u = t
      · rw [same, Function.update_self]
        exact effect.fits
      · rw [Function.update_of_ne same]
        exact (inv.fits u).grow effect.grows (inv.used u)
    rcases activities u with is | is <;> rw [is]
    · exact fits
    · exact fits.notified
  · rw [project Activity.session fun activity => activity.notified_facts.2.2.2.2.2] at uses
    by_cases same : u = t
    · rw [same, Function.update_self] at uses
      exact effect.used session uses
    · rw [Function.update_of_ne same] at uses
      exact (inv.used u session uses).trans_le effect.grows.created
  · rw [project Activity.publishes fun activity => activity.notified_facts.1]
    exact Shared.lock_step inv.stateLock effect.stateLock u
  · rw [project (fun activity => activity.rebuilds == some session) fun activity => by
      rw [activity.notified_facts.2.1]]
    by_cases old : session < s.shared.created
    · exact Shared.lock_step (inv.rebuildLock session old) (effect.rebuildLock session old) u
    · rw [effect.fresh inv.fresh session (Nat.le_of_not_lt old)]
      refine iff_of_false (fun has => ?_) fun none => by cases none
      by_cases same : u = t
      · rw [same, Function.update_self] at has
        exact old (effect.rebuilds session (eq_of_beq has))
      · rw [Function.update_of_ne same] at has
        exact old (inv.used u session (Activity.session_of_rebuilds (eq_of_beq has)))
  · rcases effect.late with same | ⟨_, updated⟩
    · rw [same] at isLate
      exact effect.failed (inv.late u isLate)
    · rw [updated] at isLate
      by_cases same : u = t
      · rw [same, Function.update_self] at isLate
        exact effect.failed isLate
      · rw [Function.update_of_ne same] at isLate
        exact effect.failed (inv.late u isLate)

structure Healthy (s : State T) : Prop where
  cleared : ∀ t, (s.activity t).cleared = true → s.shared.failed = false
  condemns : ∀ t, (s.activity t).condemns = false
  native : ∀ t, (s.activity t).answersNative = true → s.shared.late t = false
  served : (true, Answer.native) ∉ s.shared.served

theorem cleared_phase {activity : Activity} (cleared : activity.cleared = true) :
    (∃ inner, activity.phase = .writing inner) ∨ activity.phase.reads ≠ 0 := by
  cases activity with
  | exclusive task point =>
    cases point with
    | within stage => exact .inl ⟨_, rfl⟩
    | _ => cases cleared
  | cpu session point =>
    cases point with
    | releasing usable =>
      cases cleared
      exact .inr Nat.one_ne_zero
    | within stage => exact .inr Nat.one_ne_zero
    | _ => cases cleared
  | _ => cases cleared

theorem publishes_enabled {x : Shared T} {activity : Activity}
    (holds : activity.publishes = true ∨ ∃ session, activity.rebuilds = some session) :
    ∃ result, x.act t choice activity = some result := by
  cases activity with
  | exclusive task point =>
    rcases holds with publishes | ⟨session, rebuilds⟩
    · cases point with
      | within stage =>
        cases stage with
        | publishing inner publishing =>
          cases publishing <;> first | exact ⟨_, rfl⟩ | cases publishes
        | _ => cases publishes
      | _ => cases publishes
    · cases rebuilds
  | disabling durable publishing session =>
    rcases holds with publishes | ⟨session, rebuilds⟩
    · cases publishing <;> first | exact ⟨_, rfl⟩ | cases publishes
    · cases rebuilds
  | rebuilding session running =>
    simp only [Shared.act]
    split
    · exact ⟨_, rfl⟩
    · split <;> exact ⟨_, rfl⟩
  | demoting session running => exact ⟨_, rfl⟩
  | _ =>
    rcases holds with publishes | ⟨session, rebuilds⟩
    · cases publishes
    · cases rebuilds

omit [DecidableEq T] in
theorem publish_enabled {x : Shared T} (free : x.stateLock = none) (t : T) (durable written : Bool)
    (point : Publishing) : ∃ result, x.publish t durable written point = some result := by
  cases point <;> simp [Shared.publish, free]

theorem within_enabled {x : Shared T} {task : Task} {stage : Stage} (choice : Choice)
    (free : x.stateLock = none) (owner : x.owner = some t) (fits : stage.Fits task)
    (goes : ∀ answer, stage ≠ .ended answer) :
    ∃ result, x.within t choice task stage = some result := by
  cases stage with
  | begun =>
    cases task with
    | build device => exact ⟨_, rfl⟩
    | infer session =>
      simp only [Shared.within]
      split
      · exact ⟨_, rfl⟩
      · split <;> exact ⟨_, rfl⟩
  | locking => simp [Shared.within, owner]
  | rechecking =>
    obtain ⟨device, rfl⟩ := fits
    exact ⟨_, rfl⟩
  | publishing inner point =>
    obtain ⟨result, published⟩ := publish_enabled free t true choice.succeeds point
    exact ⟨_, by rw [Shared.within, published]; rfl⟩
  | ended answer => exact absurd rfl (goes answer)
  | _ => exact ⟨_, rfl⟩

theorem lane_enabled {x : Shared T} {activity : Activity} (free : x.stateLock = none)
    (inside : activity.phase ≠ .out) (awake : ¬ activity.phase.Asleep)
    (lock : x.owner = if activity.phase.depth ≠ 0 then some t else none) (fits : x.Fits activity) :
    ∃ result, x.act t choice activity = some result := by
  cases activity with
  | exclusive task point =>
    cases point with
    | entering =>
      have unowned : x.owner = none := lock
      simp [Shared.act, Shared.exclusive, unowned]
    | testing =>
      simp only [Shared.act, Shared.exclusive]
      split <;> exact ⟨_, rfl⟩
    | asleep notified =>
      have unowned : x.owner = none := lock
      cases notified with
      | true => simp [Shared.act, Shared.exclusive, unowned]
      | false => exact absurd (.inl rfl) awake
    | within stage =>
      have owner : x.owner = some t := by
        rw [lock, if_pos]
        simp only [Activity.phase, ExclusivePoint.phase]
        cases stage.inner <;> simp [Phase.depth]
      by_cases finished : ∃ answer, stage = .ended answer
      · obtain ⟨answer, rfl⟩ := finished
        exact ⟨_, rfl⟩
      · obtain ⟨result, goes⟩ := within_enabled choice free owner fits
          fun answer is => finished ⟨answer, is⟩
        refine ⟨(result.1, .exclusive task (.within result.2), false), ?_⟩
        cases stage <;> first
          | exact absurd ⟨_, rfl⟩ finished
          | simp only [Shared.act, Shared.exclusive, goes, Option.map_some]
    | leaving answer => cases task <;> exact ⟨_, rfl⟩
  | cpu session point =>
    cases point with
    | entering =>
      have unowned : x.owner = none := lock
      simp [Shared.act, Shared.cpu, unowned]
    | testing =>
      simp only [Shared.act, Shared.cpu]
      split <;> exact ⟨_, rfl⟩
    | asleep notified =>
      have unowned : x.owner = none := lock
      cases notified with
      | true => simp [Shared.act, Shared.cpu, unowned]
      | false => exact absurd (.inr rfl) awake
    | releasing usable => exact ⟨_, rfl⟩
    | within stage =>
      have unowned : x.owner = none := lock
      cases stage with
      | ended answer => simp [Shared.act, Shared.cpu, unowned]
      | begun => exact ⟨_, rfl⟩
      | ready native => exact ⟨_, rfl⟩
      | calling native => exact ⟨_, rfl⟩
      | _ => exact absurd fits.2 id
    | left answer => exact ⟨_, rfl⟩
  | _ => exact absurd rfl inside

variable [Fintype T]

omit [DecidableEq T] in
-- Beside a thread in the exclusive lane nobody is about to go on with native calls.
theorem not_cleared {inner : Bool} {u : T} (lanes : s.monitor.Inv)
    (writing : (s.activity t).phase = .writing inner) (other : u ≠ t) :
    (s.activity u).cleared = false := by
  rw [← Bool.not_eq_true]
  intro cleared
  have ⟨reads, writes⟩ := lanes.alone writing other
  rcases cleared_phase cleared with ⟨inner', beside⟩ | reading
  · exact writes inner' beside
  · exact reading reads

theorem healthy_step (lanes : s.monitor.Inv) (inv : s.Inv)
    (healthy : s.shared.outside = false → s.Healthy) (stepped : s.step t choice = some s')
    (outside : s'.shared.outside = false) : s'.Healthy := by
  obtain ⟨activity, effect, activities⟩ := step_effect inv stepped
  have ⟨isOutside, condemns⟩ := effect.outside outside
  have before := healthy isOutside
  have project (look : Activity → Bool)
      (same : ∀ activity : Activity, look activity.notified = look activity) (u : T) :
      look (s'.activity u) =
        Function.update (fun u => look (s.activity u)) t (look activity) u := by
    rw [← Function.apply_update (fun _ => look) s.activity t activity u]
    rcases activities u with is | is <;> rw [is]
    exact same _
  refine
    { cleared := fun u clear => ?_
      condemns := fun u => ?_
      native := fun u answers => ?_
      served := ?_ }
  · rw [project Activity.cleared fun activity => activity.notified_facts.2.2.1] at clear
    by_cases same : u = t
    · rw [same, Function.update_self] at clear
      have ⟨failed, was⟩ := effect.cleared clear
      rw [failed]
      rcases was with cleared | none | enabled
      · exact before.cleared t cleared
      · exact none
      · rw [← Bool.not_eq_true]
        intro is
        rw [inv.disabled is] at enabled
        cases enabled
    · rw [Function.update_of_ne same] at clear
      rcases effect.published with kept | condemned | ⟨task, inner, point, publishing⟩
      · rw [kept]
        exact before.cleared u clear
      · rw [before.condemns t] at condemned
        cases condemned
      · -- The thread that publishes has the exclusive lane.
        have alone := not_cleared lanes (congrArg Activity.phase publishing) same
        rw [alone] at clear
        cases clear
  · rw [project Activity.condemns fun activity => activity.notified_facts.2.2.2.2.1]
    by_cases same : u = t
    · rw [same, Function.update_self, ← Bool.not_eq_true]
      intro is
      have was := condemns is
      rw [before.condemns t] at was
      cases was
    · rw [Function.update_of_ne same]
      exact before.condemns u
  · rw [project Activity.answersNative fun activity => activity.notified_facts.2.2.2.1] at answers
    have kept : s'.shared.late u = s.shared.late u ∨ (s.activity t = .idle ∧ u = t) := by
      rcases effect.late with same | ⟨idle, updated⟩
      · exact .inl (congrFun same u)
      · by_cases same : u = t
        · exact .inr ⟨idle, same⟩
        · exact .inl (by rw [updated, Function.update_of_ne same])
    by_cases same : u = t
    · rw [same, Function.update_self] at answers
      have was := effect.native answers
      rcases kept with kept | ⟨idle, _⟩
      · rw [kept, same]
        rcases was with native | cleared
        · exact before.native t native
        · rw [← Bool.not_eq_true]
          intro late
          have none := before.cleared t cleared
          rw [inv.late t late] at none
          cases none
      · rw [idle] at was
        rcases was with native | cleared
        · cases native
        · cases cleared
    · rw [Function.update_of_ne same] at answers
      rw [kept.resolve_right fun is => same is.2]
      exact before.native u answers
  · rcases effect.served with same | ⟨answer, served, native⟩
    · rw [same]
      exact before.served
    · rw [served]
      intro mem
      rcases List.mem_cons.mp mem with first | old
      · simp only [Prod.mk.injEq] at first
        have never := before.native t (native first.2.symm)
        rw [← first.1] at never
        cases never
      · exact before.served old

omit [DecidableEq T] in
theorem monitor_start (saved : Bool) : (start saved : State T).monitor.Inv where
  owned _ locked := absurd rfl locked
  depth _ owner := by cases owner
  writers := Finset.sum_const_zero.symm
  readers := Finset.sum_const_zero.symm
  quiet _ _ _ := rfl
  writeAsleep _ asleep := by cases asleep
  readAsleep _ asleep := by cases asleep

omit [DecidableEq T] [Fintype T] in
theorem inv_start (saved : Bool) : (start saved : State T).Inv where
  demoted _ := .inr (.inl fun is => by cases is)
  fits _ := trivial
  used _ _ uses := by cases uses
  stateLock _ := iff_of_false (fun is => by cases is) fun is => by cases is
  rebuildLock _ below := absurd below (Nat.not_lt_zero _)
  fresh _ _ := rfl
  disabled failed := by cases failed
  late _ late := by cases late

omit [DecidableEq T] [Fintype T] in
theorem healthy_start (saved : Bool) : (start saved : State T).Healthy where
  cleared _ cleared := by cases cleared
  condemns _ := rfl
  native _ answers := by cases answers
  served mem := by cases mem

theorem invariants_run {saved : Bool} (run : ReflTransGen Step (start saved) s) :
    s.monitor.Inv ∧ s.Inv ∧ (s.shared.outside = false → s.Healthy) := by
  induction run with
  | refl => exact ⟨monitor_start saved, inv_start saved, fun _ => healthy_start saved⟩
  | tail _ step ih =>
    obtain ⟨t, choice, stepped⟩ := step
    obtain ⟨lanes, inv, healthy⟩ := ih
    refine ⟨?_, inv_step inv stepped, healthy_step lanes inv healthy stepped⟩
    rcases monitor_step lanes stepped with same | moved
    · rw [same]
      exact lanes
    · exact Monitor.inv_step lanes moved

omit [DecidableEq T] in
theorem native_alone {u : T} {native : Native} (lanes : s.monitor.Inv) (inv : s.Inv)
    (other : t ≠ u) (calls : (s.activity t).native = some native) (exclusive : native.exclusive) :
    (s.activity u).native = none := by
  have writing : ∃ inner, (s.activity t).phase = .writing inner := by
    have fits := inv.fits t
    cases activity : s.activity t with
    | exclusive task point =>
      rw [activity] at calls
      cases point with
      | within stage => exact ⟨_, rfl⟩
      | _ => cases calls
    | cpu session point =>
      rw [activity] at calls fits
      -- A session on another device makes no call that needs the lane.
      cases point with
      | within stage =>
        cases stage with
        | calling called =>
          cases calls
          rcases fits.2 with rfl | rfl <;> exact absurd exclusive fits.1
        | _ => cases calls
      | _ => cases calls
    | _ =>
      rw [activity] at calls
      cases calls
  obtain ⟨inner, writing⟩ := writing
  have clear := not_cleared lanes writing other.symm
  cases activity : s.activity u with
  | exclusive task point =>
    rw [activity] at clear
    cases point with
    | within stage => cases stage <;> first | rfl | cases clear
    | _ => rfl
  | cpu session point =>
    rw [activity] at clear
    cases point with
    | within stage => cases stage <;> first | rfl | cases clear
    | _ => rfl
  | _ => rfl

omit [DecidableEq T] [Fintype T] in
theorem begins_cleared {activity : Activity} {native : Native}
    (begins : activity.begins = some native) : activity.cleared = true := by
  cases activity with
  | exclusive task point =>
    cases point with
    | within stage => cases stage <;> first | rfl | cases begins
    | _ => cases begins
  | cpu session point =>
    cases point with
    | within stage => cases stage <;> first | rfl | cases begins
    | _ => cases begins
  | _ => cases begins

theorem live_step (lanes : s.monitor.Inv) (inv : s.Inv) (live : s.activity t ≠ .idle) :
    ∃ t choice s', s.activity t ≠ .idle ∧ s.step t choice = some s' := by
  let choice : Choice := ⟨.construct .cpu, .returned, true⟩
  have goes {u : T} (isLive : s.activity u ≠ .idle)
      (enabled : ∃ result, s.shared.act u choice (s.activity u) = some result) :
      ∃ t choice s', s.activity t ≠ .idle ∧ s.step t choice = some s' := by
    obtain ⟨result, acts⟩ := enabled
    exact ⟨u, choice, _, isLive, by rw [step, acts]; rfl⟩
  have holder {u : T} (holds : (s.activity u).publishes = true ∨
      ∃ session, (s.activity u).rebuilds = some session) :
      ∃ t choice s', s.activity t ≠ .idle ∧ s.step t choice = some s' := by
    refine goes (fun idle => ?_) (publishes_enabled holds)
    rw [idle] at holds
    rcases holds with publishes | ⟨session, rebuilds⟩
    · cases publishes
    · cases rebuilds
  have inLane {u : T} (free : s.shared.stateLock = none) (inside : (s.activity u).phase ≠ .out)
      (awake : ¬ (s.activity u).phase.Asleep) (lock : s.shared.owner =
        if (s.activity u).phase.depth ≠ 0 then some u else none) :
      ∃ t choice s', s.activity t ≠ .idle ∧ s.step t choice = some s' :=
    goes (fun idle => inside (by rw [idle]; rfl)) (lane_enabled free inside awake lock (inv.fits u))
  cases stateLock : s.shared.stateLock with
  | some u => exact holder (.inl ((inv.stateLock u).mpr stateLock))
  | none =>
    cases owner : s.shared.owner with
    | some u =>
      have depth := lanes.depth u owner
      have locked : (s.activity u).phase.depth ≠ 0 := fun none => depth.2 (depth.1.trans none)
      refine inLane stateLock (fun out => ?_) (fun asleep => ?_) (by rw [if_pos locked, owner])
      · rw [out] at locked
        exact locked rfl
      · rcases asleep with is | is <;> (rw [is] at locked; exact locked rfl)
    | none =>
      by_cases inside : (s.activity t).phase ≠ .out
      · obtain ⟨u, isInside, awake⟩ := lanes.awake inside
        refine inLane stateLock isInside awake ?_
        rw [owner, if_neg]
        intro locked
        have owns : s.shared.owner = some u := lanes.owned u locked
        rw [owner] at owns
        cases owns
      · cases activity : s.activity t with
        | idle => exact absurd activity live
        | moving session running =>
          have below := inv.used t session (by rw [activity]; rfl)
          cases lock : (s.shared.session session).rebuildLock with
          | some u =>
            have holds := (inv.rebuildLock session below u).mpr lock
            exact holder (.inr ⟨session, eq_of_beq holds⟩)
          | none =>
            refine goes live ?_
            rw [activity]
            simp [Shared.act, lock]
        | exclusive task point =>
          rw [activity] at inside
          cases point <;> exact absurd (fun is => by cases is) inside
        | cpu session point =>
          rw [activity] at inside
          cases point <;> exact absurd (fun is => by cases is) inside
        | disabling durable point session =>
          obtain ⟨result, published⟩ :=
            publish_enabled stateLock t durable choice.succeeds point
          refine goes live ?_
          rw [activity, Shared.act, published]
          exact ⟨_, rfl⟩
        | rebuilding session running =>
          exact holder (.inr ⟨session, by rw [activity]; rfl⟩)
        | _ =>
          refine goes live ?_
          rw [activity]
          simp only [Shared.act]
          first | exact ⟨_, rfl⟩ | (split <;> exact ⟨_, rfl⟩)

/-- Native calls are orderly in every run. -/
theorem native_orderly {saved : Bool} (run : ReflTransGen Step (start saved) s) : s.Orderly := by
  have ⟨lanes, inv, healthy⟩ := invariants_run run
  refine
    { alone := fun t u native other => native_alone lanes inv other
      quiet := fun outside failed t => ?_
      served := fun outside => (healthy outside).served
      counters := fun idle => ⟨?_, ?_⟩
      live := fun ⟨t, live⟩ => live_step lanes inv live }
  · cases begins : (s.activity t).begins with
    | none => rfl
    | some native =>
      have none := (healthy outside).cleared t (begins_cleared begins)
      rw [failed] at none
      cases none
  · have counted := lanes.writers
    simpa [monitor, Shared.monitor, idle, Activity.phase, Phase.writes] using counted
  · have counted := lanes.readers
    simpa [monitor, Shared.monitor, idle, Activity.phase, Phase.reads] using counted

omit [Fintype T]

def steps (t : T) (choice : Choice) : ℕ → State T → Option (State T)
  | 0, s => some s
  | n + 1, s => (s.step t choice).bind (steps t choice n)

theorem run_steps (t : T) (choice : Choice) (n : ℕ) {s s' : State T}
    (run : steps t choice n s = some s') : ReflTransGen Step s s' := by
  induction n generalizing s with
  | zero =>
    cases run
    exact .refl
  | succ n ih =>
    obtain ⟨next, stepped, rest⟩ := Option.bind_eq_some_iff.mp run
    exact .head ⟨t, choice, stepped⟩ (ih rest)

/-- A session is built on the CPU, and a thread runs it to the end. -/
theorem native_orderly_cpu : ∃ s : State (Fin 2), ReflTransGen Step (start false) s ∧
    s.shared.served = [(false, .native)] ∧ s.Orderly := by
  have built := run_steps (T := Fin 2) (s := start false) 0
    ⟨.construct .cpu, .returned, true⟩ 19 rfl
  have ran := built.trans (run_steps 1 ⟨.run 0, .returned, true⟩ 15 rfl)
  exact ⟨_, ran, rfl, native_orderly ran⟩

/-- Somebody publishes a context failure himself while a thread in the lane for the CPU has asked
for the verdict and not yet created its request. -/
theorem native_begins : ∃ s s' : State (Fin 2), ReflTransGen Step (start false) s ∧
    s.shared.failed = true ∧ Step s s' ∧ (s.activity 0).native = none ∧
    (s'.activity 0).native = some (.request .cpu) := by
  have built := run_steps (T := Fin 2) (s := start false) 0
    ⟨.construct .cpu, .returned, true⟩ 19 rfl
  have admitted := built.trans (run_steps 0 ⟨.run 0, .returned, true⟩ 8 rfl)
  have condemned := admitted.trans (run_steps 1 ⟨.disable true, .returned, true⟩ 3 rfl)
  exact ⟨_, _, condemned, rfl, ⟨0, ⟨.run 0, .returned, true⟩, rfl⟩, rfl, rfl⟩

end State

end DashcamStats.Inference
