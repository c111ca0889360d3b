import DashcamStats.Migration.Preparation

namespace DashcamStats.Migration

open Throwing (look act ensure)

section Construction

variable {disk : Disk}

structure Disk.Ready (disk : Disk) : Prop where
  sound : disk.Sound
  isSome : disk.instance_.isSome = true
  rests : ∃ live, disk.LiveGood live

theorem ready_stable : Stable Surroundings Disk.Ready := by
  intro disk next ready step
  obtain ⟨sound, settled⟩ := step.settled ready.sound
  obtain ⟨live, good, _⟩ := settled.live
  refine ⟨sound, ?_, live, good⟩
  cases step with
  | commits live row opened isLive => exact ready.isSome

theorem instance_ready {last : Disk} {target : ℕ} {main : Db}
    (pending : last.Pending target main) (unowned : last.Unowned)
    (good : ∃ live, last.LiveGood live) (tidy : last.Tidy) :
    Disk.Ready { last with instance_ := some (some target) } := by
  have migrating : Core.Migrating { last.toCore with instance_ := some (some target) } target main :=
    ⟨{ pending with }, .inr rfl, unowned.closed, unowned.fresh⟩
  obtain ⟨live, good⟩ := good
  exact ⟨⟨tidy, migrating.sound⟩, rfl, live, ⟨good.here, good.good, good.clean, good.unmarked⟩⟩

theorem Disk.Serving.unopened (serving : disk.Serving none) :
    Disk.Ready { disk with instance_ := some none } := by
  obtain ⟨live, good, current⟩ := serving.settled.live
  have good' : Core.LiveGood { disk.toCore with instance_ := some none } live :=
    ⟨good.here, good.good, good.clean, good.unmarked⟩
  have settled : Core.Settled { disk.toCore with instance_ := some none } :=
    ⟨⟨live, good', current⟩, serving.settled.backups⟩
  refine ⟨⟨serving.sound.tidy, .inl settled, fun backup isInstance => ?_, fun opened => ?_,
    fun _ => ⟨settled, fun target isInstance => ?_⟩⟩, rfl, live, good'⟩
  · cases isInstance
    exact settled
  · rw [serving.sound.core.closed serving.isOwner] at opened
    cases opened
  · cases isInstance

theorem ready_pure : ∀ disk : Disk, disk.Ready →
    Safe Surroundings Keeps (fun outcome last => outcome = .ok () ∧ last.Ready)
      (pure () : Program Unit).run disk :=
  fun _ ready => Safe.pure _ (fun _ next holds step => ⟨holds.1, ready_stable _ next holds.2 step⟩)
    ⟨rfl, ready⟩

theorem construct_prepared {target : ℕ} {main : Db} {core : Core}
    (ends : Ends prepareMigrationBackup disk (some target) core)
    (pending : core.Pending target main) (unowned : core.Unowned)
    (good : ∃ live, core.LiveGood live) :
    Safe Surroundings Keeps (fun outcome last => outcome = .ok () ∧ last.Ready)
      (do
        let backup ← prepareMigrationBackup
        act fun disk => { disk with instance_ := some backup } : Program Unit).run disk := by
  refine call_rule ends fun last isCore tidy => ?_
  subst isCore
  have ready := instance_ready pending unowned good tidy
  refine (@act_last last (fun disk => { disk with instance_ := some (some target) })
    unowned.closed ready.sound unowned.closed).mono fun outcome after ends => ?_
  obtain ⟨isOk, rfl⟩ := ends
  exact ⟨isOk, ready⟩

theorem Core.Sound.settled_of_current {core : Core} (sound : core.Sound)
    (unmarked : core.marker = none) (current : core.inspectLive = some databaseVersion) :
    core.Settled := by
  obtain ⟨live, here, healthy, isCurrent, clean⟩ := inspectLive_some current
  have old {other : Db} (good : core.LiveGood other) (below : other.version < databaseVersion) :
      core.Settled := by
    rw [good.inspectLive] at current
    exact absurd (Option.some.inj current) (Nat.ne_of_lt below)
  rcases sound.situation with settled | plain | ⟨target, main, pending⟩ |
    ⟨target, main, other, left⟩ | ⟨target, main, other, handoff⟩
  · exact settled
  · obtain ⟨other, good, _, below⟩ := plain.live
    exact old good below
  · rcases (pending.live unmarked).2 live here healthy with same | ⟨_, good⟩
    · exact absurd (same.symm.trans isCurrent) (Nat.ne_of_lt pending.source.current.1)
    · exact ⟨⟨live, ⟨here, good, clean, unmarked⟩, isCurrent⟩, pending.bundled⟩
  · exact old left.stale.isLive left.stale.below
  · exact old handoff.stale.isLive handoff.stale.below

theorem Core.Settled.isCurrent {core : Core} (settled : core.Settled) :
    core.marker = none ∧ core.inspectLive = some databaseVersion := by
  obtain ⟨live, good, current⟩ := settled.live
  exact ⟨good.unmarked, good.inspectLive.trans (congrArg some current)⟩

theorem construct_ready (sound : disk.Sound) (rests : disk.AtRest) :
    Safe Surroundings Keeps (fun outcome last => outcome = .ok () ∧ last.Ready)
      construct.run disk := by
  unfold construct
  cases isInstance : disk.instance_ with
  | some backup =>
    have isSome : disk.instance_.isSome = true := by rw [isInstance]; rfl
    refine Safe.look_stable ready_stable ⟨sound, isSome, rests isSome⟩ (fun _ => id)
      fun next ready => ?_
    rw [if_pos ready.isSome]
    exact ready_pure next ready
  | none =>
    have closed := sound.core.closed isInstance
    refine look_rule closed ?_
    rw [if_neg (by simp [isInstance])]
    by_cases current : disk.marker = none ∧ disk.inspectLive = some databaseVersion
    · have settled := sound.core.settled_of_current current.1 current.2
      have serving : disk.Serving none := ⟨sound, settled, isInstance, fun _ none => by cases none⟩
      refine Safe.bind ((prepare_settled serving).mono fun outcome last ends => ?_)
      obtain ⟨rfl, serving⟩ := ends
      have closed := serving.sound.core.closed serving.isOwner
      have ready := serving.unopened
      refine (@act_last last (fun disk => { disk with instance_ := some none }) closed ready.sound
        closed).mono fun outcome after ends => ?_
      obtain ⟨isOk, rfl⟩ := ends
      exact ⟨isOk, ready⟩
    · have unowned : disk.Unowned := by
        refine ⟨isInstance, closed, ?_⟩
        cases upgraded : disk.upgraded with
        | false => rfl
        | true => exact absurd (sound.core.upgraded upgraded).1.isCurrent current
      have tidy := sound.tidy
      rcases sound.core.situation with settled | plain | ⟨target, main, pending⟩ |
        ⟨target, main, live, left⟩ | ⟨target, main, live, handoff⟩
      · exact absurd settled.isCurrent current
      · obtain ⟨live, good, positive, below⟩ := plain.live
        exact construct_prepared (prepare_plain unowned plain good positive below tidy)
          (plain.published good positive below) unowned.published
          ⟨live, ⟨good.here, good.good, good.clean, good.unmarked⟩⟩
      · have migrating : disk.Migrating target main :=
          ⟨pending, .inl isInstance, closed, unowned.fresh⟩
        exact construct_prepared
          (prepare_pending migrating tidy fun unmarked isCurrent => current ⟨unmarked, isCurrent⟩)
          migrating.restored.pending ⟨isInstance, closed, unowned.fresh⟩
          ⟨main, pending.liveGood_restored⟩
      · have good := left.stale.isLive
        exact construct_prepared (prepare_left unowned left tidy) left.published.without
          ⟨isInstance, closed, unowned.fresh⟩
          ⟨live, ⟨good.here, good.good, good.clean, good.unmarked⟩⟩
      · have migrating : (disk.without target).Migrating databaseVersion live :=
          ⟨handoff.without, .inl isInstance, closed, unowned.fresh⟩
        exact construct_prepared (prepare_handoff unowned handoff tidy)
          migrating.restored.pending ⟨isInstance, closed, unowned.fresh⟩
          ⟨live, migrating.pending.liveGood_restored⟩

end Construction

section Serving

variable {disk : Disk} {backup : Option ℕ} {opening : Opening}

def Called (opening : Opening) (outcome : Except String Unit) (last : Disk) : Prop :=
  (opening = .opens → outcome = .ok ()) ∧ last.Ready

theorem called_stable (outcome : Except String Unit) :
    Stable Surroundings (Called opening outcome) :=
  fun disk next called step => ⟨called.1, ready_stable disk next called.2 step⟩

theorem Disk.Serving.ready (serving : disk.Serving (some backup)) : disk.Ready := by
  obtain ⟨live, good, _⟩ := serving.settled.live
  exact ⟨serving.sound, by rw [serving.isOwner]; rfl, live, good⟩

theorem throw_called (message : String) (failed : opening ≠ .opens) (ready : disk.Ready) :
    Safe Surroundings Keeps (Called opening) (throw message : Program Unit).run disk :=
  Safe.pure _ (called_stable _) ⟨fun opens => absurd opens failed, ready⟩

theorem Disk.Serving.afterOpen (serving : disk.Serving (some backup)) :
    disk.afterOpen opening = disk := by
  obtain ⟨live, good, current⟩ := serving.settled.live
  have kept : opening.leaves live = live := by
    unfold Opening.leaves
    rw [if_neg (by rw [current]; decide)]
  unfold Disk.afterOpen
  rw [good.here]
  change { disk with live := some (opening.leaves live) } = disk
  rw [kept, ← good.here]

theorem hand_serves : Within (Disk.Serving (some backup)) (act Disk.hand) := by
  refine within_act serving_stable (fun _ serving => serving.sound) fun disk serving => ?_
  obtain ⟨live, good, current⟩ := serving.settled.live
  have settled : disk.hand.Settled :=
    ⟨⟨live, ⟨good.here, good.good, good.clean, good.unmarked⟩, current⟩, serving.settled.backups⟩
  have noBackup (target : ℕ) (isInstance : disk.instance_ = some (some target)) :
      disk.backup target = none :=
    serving.noBackup target (serving.isOwner.symm.trans isInstance)
  refine ⟨⟨serving.sound.tidy, .inl settled, fun other isInstance => ?_, fun _ => ⟨rfl, ?_⟩,
    fun _ => ⟨settled, noBackup⟩⟩, settled, serving.isOwner, serving.noBackup⟩
  · cases other with
    | none => exact settled
    | some target => exact .inr ⟨settled, noBackup target isInstance⟩
  · rw [show disk.hand.instance_ = some backup from serving.isOwner]
    rfl

theorem finish_serves {target : ℕ} :
    Within (Disk.Serving (some backup)) (do
      retireMigrationBackup target
      cleanupRetiredMigrationBackups targets
      act Disk.hand) :=
  within_bind retire_serves (within_bind (cleanups_serve targets) hand_serves)

def recover (target : ℕ) (message : String) : Program Unit := do
  act fun disk => { disk with opened := false }
  tryCatch (restoreMigrationBackup target) fun _ => pure ()
  throw message

theorem recover_serving {target : ℕ} (message : String) (failed : opening ≠ .opens)
    (serving : disk.Serving (some (some target))) :
    Safe Surroundings Keeps (Called opening) (recover target message).run disk := by
  have closes (disk : Disk) (serving : disk.Serving (some (some target))) :
      Disk.Serving (some (some target)) { disk with opened := false } := by
    obtain ⟨live, good, current⟩ := serving.settled.live
    have settled : Core.Settled { disk.toCore with opened := false } :=
      ⟨⟨live, ⟨good.here, good.good, good.clean, good.unmarked⟩, current⟩,
        serving.settled.backups⟩
    refine ⟨⟨serving.sound.tidy, .inl settled, fun other isInstance => ?_, fun opened => ?_,
      fun upgraded => ⟨settled, (serving.sound.core.upgraded upgraded).2⟩⟩, settled,
      serving.isOwner, serving.noBackup⟩
    · cases other with
      | none => exact settled
      | some other =>
        have same : some target = some other := Option.some.inj (serving.isOwner.symm.trans isInstance)
        cases same
        exact .inr ⟨settled, serving.noBackup target rfl⟩
    · cases opened
  refine Safe.act_stable serving_stable serving (fun disk serving _ => (closes disk serving).sound)
    fun disk serving => ?_
  have suppressed : Safe Surroundings Keeps
      (fun outcome last => outcome = .ok () ∧ last.Serving (some (some target)))
      (tryCatch (restoreMigrationBackup target) fun _ => pure () : Program Unit).run
      { disk with opened := false } := by
    refine Safe.tryCatch (Safe.look_stable serving_stable (closes disk serving) (fun _ => id)
      fun disk serving => ?_)
    have invalid : disk.validated target = none := by
      rw [Core.validated, serving.noBackup target rfl]
      rfl
    rw [invalid]
    exact Safe.pure _ Safe.stable (within_pure serving_stable disk serving)
  refine Safe.bind (suppressed.mono fun outcome last ends => ?_)
  obtain ⟨rfl, serving⟩ := ends
  exact throw_called message failed serving.ready

theorem serving_called (serving : disk.Serving (some backup)) :
    Safe Surroundings Keeps (Called opening) (openWithMigrationRecovery backup opening).run disk := by
  unfold openWithMigrationRecovery
  have called (disk : Disk) (serving : disk.Serving (some backup)) :
      Safe Surroundings Keeps (Called opening) (Pure.pure (.ok ()) : Prog Disk (Except String Unit))
        disk :=
    Safe.pure _ (called_stable _) ⟨fun _ => rfl, serving.ready⟩
  refine Safe.act_stable serving_stable serving (fun disk serving => ?_) fun disk serving => ?_
  · rw [serving.afterOpen]
    exact id
  rw [serving.afterOpen]
  cases backup with
  | none =>
    by_cases returns : opening.returns = true
    · simp only [returns, if_true]
      refine (hand_serves disk serving).mono fun outcome last ends => ?_
      exact ⟨fun _ => ends.1, ends.2.ready⟩
    · simp only [returns]
      refine throw_called _ ?_ serving.ready
      rintro rfl
      exact returns rfl
  | some target =>
    refine Safe.tryCatch ?_
    by_cases returns : opening.returns = true
    · refine ensure_rule returns ?_
      refine Safe.look_stable serving_stable serving (fun _ => id) fun disk serving => ?_
      refine ensure_rule (by simp [serving.settled.isCurrent.2]) ?_
      refine (finish_serves disk serving).mono fun outcome last ends => ?_
      obtain ⟨rfl, serving⟩ := ends
      exact called last serving
    · refine Safe.ensure_throws returns Safe.stable (recover_serving _ ?_ serving)
      rintro rfl
      exact returns rfl

end Serving

section Migrating

variable {disk : Disk} {opening : Opening} {target : ℕ} {main live : Db}

theorem Core.Migrating.opens {core : Core} (migrating : core.Migrating target main)
    (good : core.LiveGood live) (opening : Opening) :
    Core.Migrating { core with live := some (opening.leaves live) } target main := by
  have pending := migrating.pending
  refine { migrating with pending := { pending with
    live := fun unmarked => ⟨(pending.live unmarked).1, fun next isNext healthy => ?_⟩ } }
  have before := (pending.live good.unmarked).2 live good.here good.good.1
  cases isNext
  unfold Opening.leaves at healthy ⊢
  by_cases old : live.version < databaseVersion
  · simp only [old, if_true] at healthy ⊢
    cases opening with
    | fails => exact before
    | failsDamaged => cases healthy
    | failsUpgraded => exact .inr ⟨rfl, good.good⟩
    | opens => exact .inr ⟨rfl, good.good⟩
    | opensDamaged => cases healthy
  · rw [if_neg old]
    exact before

theorem Core.Pending.opens_current {core : Core} (pending : core.Pending target main)
    (good : core.LiveGood live) :
    Core.inspectLive { core with live := some (Opening.leaves .opens live) } =
      some databaseVersion := by
  have before := (pending.live good.unmarked).2 live good.here good.good.1
  have healthy := good.good.1
  unfold Core.inspectLive Opening.leaves
  rw [good.clean]
  by_cases old : live.version < databaseVersion
  · rw [if_pos old]
    exact inspect_healthy healthy
  · rw [if_neg old]
    rcases before with same | ⟨current, _⟩
    · exact absurd (same ▸ pending.source.current.1) old
    · exact (inspect_healthy healthy).trans (congrArg some current)

theorem Core.Migrating.completes {core : Core} (migrating : core.Migrating target main)
    (unmarked : core.marker = none) (current : core.inspectLive = some databaseVersion) :
    (core.without target).Sound ∧ (core.without target).Settled := by
  have pending := migrating.pending
  obtain ⟨live, here, healthy, isCurrent, clean⟩ := inspectLive_some current
  have settled : (core.without target).Settled := by
    rcases (pending.live unmarked).2 live here healthy with same | ⟨_, good⟩
    · exact absurd (same.symm.trans isCurrent) (Nat.ne_of_lt pending.source.current.1)
    · refine ⟨⟨live, ⟨here, good, clean, unmarked⟩, isCurrent⟩, fun other directory isThere => ?_⟩
      by_cases same : other = target
      · subst same
        simp [Core.without] at isThere
      · exact pending.bundled other directory (by simpa [Core.without, same] using isThere)
  refine ⟨⟨.inl settled, fun backup isInstance => ?_, fun opened => ?_, fun upgraded => ?_⟩, settled⟩
  · rcases migrating.owner with isNone | isOwner
    · cases isNone.symm.trans isInstance
    · cases isOwner.symm.trans isInstance
      exact .inr ⟨settled, core.without_self target⟩
  · cases migrating.closed.symm.trans opened
  · cases migrating.fresh.symm.trans upgraded

theorem recover_migrating (message : String) (failed : opening ≠ .opens)
    (migrating : disk.Migrating target main) (isOwner : disk.instance_ = some (some target))
    (tidy : disk.Tidy) :
    Safe Surroundings Keeps (Called opening) (recover target message).run disk := by
  have closed := migrating.closed
  have closes : Core.Migrating { disk.toCore with opened := false } target main :=
    ⟨{ migrating.pending with }, migrating.owner, rfl, migrating.fresh⟩
  refine act_rule closed ⟨tidy, closes.sound⟩ ?_
  have suppressed : Safe Surroundings Keeps
      (fun outcome last => outcome = .ok () ∧ last.Ready)
      (tryCatch (restoreMigrationBackup target) fun _ => pure () : Program Unit).run
      { disk with opened := false } := by
    have ends := @restore_ends { disk with opened := false } target main closes tidy
    refine Safe.tryCatch (ends.mono fun outcome last ends => ?_)
    obtain ⟨rfl, isCore, tidy⟩ := ends
    have restored := closes.restored
    have good := closes.pending.liveGood_restored
    rw [← isCore] at restored good
    refine ready_pure last ⟨⟨tidy, restored.sound⟩, ?_, main, good⟩
    rw [isCore]
    change disk.instance_.isSome = true
    rw [isOwner]
    rfl
  refine Safe.bind (suppressed.mono fun outcome last ends => ?_)
  obtain ⟨rfl, ready⟩ := ends
  exact throw_called message failed ready

theorem migrating_called (migrating : disk.Migrating target main) (good : disk.LiveGood live)
    (isOwner : disk.instance_ = some (some target)) (tidy : disk.Tidy) :
    Safe Surroundings Keeps (Called opening)
      (openWithMigrationRecovery (some target) opening).run disk := by
  have closed := migrating.closed
  have isAfter : disk.afterOpen opening = { disk with live := some (opening.leaves live) } := by
    unfold Disk.afterOpen
    rw [good.here]
  have after := migrating.opens good opening
  unfold openWithMigrationRecovery
  refine act_rule closed ?_ ?_
  · rw [isAfter]
    exact ⟨tidy, after.sound⟩
  rw [isAfter]
  refine Safe.tryCatch ?_
  have recovers (message : String) (failed : opening ≠ .opens) :
      Safe Surroundings Keeps (Called opening) (recover target message).run
        { disk with live := some (opening.leaves live) } :=
    recover_migrating message failed after isOwner tidy
  by_cases returns : opening.returns = true
  · refine ensure_rule returns (look_rule closed ?_)
    by_cases current : Core.inspectLive { disk.toCore with live := some (opening.leaves live) } =
        some databaseVersion
    · refine ensure_rule (by simpa using current) ?_
      have serves := after.completes good.unmarked current
      refine call_rule (@retire_ends { disk with live := some (opening.leaves live) } target main
        closed ⟨tidy, after.sound⟩ after.pending.source after.pending.here good.unmarked
        serves.1) fun last isCore tidy => ?_
      have serving : last.Serving (some (some target)) := by
        refine ⟨⟨tidy, isCore ▸ serves.1⟩, isCore ▸ serves.2, ?_, fun other same => ?_⟩
        · rw [isCore]
          exact isOwner
        · cases same
          rw [isCore]
          exact Core.without_self _ target
      refine (within_bind (cleanups_serve targets) hand_serves last serving).mono
        fun outcome last ends => ?_
      obtain ⟨rfl, serving⟩ := ends
      exact Safe.pure _ (called_stable _) ⟨fun _ => rfl, serving.ready⟩
    · refine Safe.ensure_throws (by simpa using current) Safe.stable (recovers _ ?_)
      rintro rfl
      exact current (migrating.pending.opens_current good)
  · refine Safe.ensure_throws returns Safe.stable (recovers _ ?_)
    rintro rfl
    exact returns rfl

end Migrating

section Runs

variable {disk : Disk} {before after : Process Disk}

theorem getDatabase_called {opening : Opening} (ready : disk.Ready) :
    Safe Surroundings Keeps (Called opening) (getDatabase opening).run disk := by
  cases isInstance : disk.instance_ with
  | none => exact absurd ready.isSome (by rw [isInstance]; decide)
  | some backup =>
    unfold getDatabase
    have serves (serving : disk.Serving (some backup)) :
        Safe Surroundings Keeps (Called opening) (getDatabase opening).run disk := by
      refine Safe.look_stable serving_stable serving (fun _ => id) fun disk serving => ?_
      rw [serving.isOwner]
      exact serving_called serving
    cases backup with
    | none =>
      exact serves ⟨ready.sound, ready.sound.core.instance_ none isInstance, isInstance,
        fun _ none => by cases none⟩
    | some target =>
      rcases ready.sound.core.instance_ (some target) isInstance with ⟨main, pending⟩ | settled
      · have fresh : disk.upgraded = false := by
          cases upgraded : disk.upgraded with
          | false => rfl
          | true =>
            have gone := (ready.sound.core.upgraded upgraded).2 target isInstance
            cases pending.here.symm.trans gone
        have closed : disk.opened = false := by
          cases opened : disk.opened with
          | false => rfl
          | true => cases fresh.symm.trans (ready.sound.core.opened opened).1
        obtain ⟨live, good⟩ := ready.rests
        refine look_rule closed ?_
        rw [isInstance]
        exact migrating_called ⟨pending, .inr isInstance, closed, fresh⟩ good isInstance
          ready.sound.tidy
      · exact serves ⟨ready.sound, settled.1, isInstance, fun other same => by
          cases same
          exact settled.2⟩

theorem Core.LiveGood.commits {core : Core} {live other : Db} (good : core.LiveGood live)
    (isLive : core.live = some other) (row : ℕ) :
    Core.LiveGood { core with
      live := some { other with rows := row :: other.rows }, rows := row :: core.rows }
      { other with rows := row :: other.rows } := by
  cases good.here.symm.trans isLive
  refine ⟨rfl, ⟨good.good.1, fun next mem => ?_⟩, good.clean, good.unmarked⟩
  rcases List.mem_cons.mp mem with rfl | mem
  · exact List.mem_cons_self
  · exact List.mem_cons_of_mem _ (good.good.2 next mem)

theorem atRest_stable : Stable Surroundings fun disk => disk.AtRest := by
  intro disk next rests step isSome
  cases step with
  | commits live row opened isLive =>
    obtain ⟨other, good⟩ := rests isSome
    exact ⟨_, good.commits isLive row⟩

theorem program_safe {program : Prog Disk Unit} (isProgram : programs program) (sound : disk.Sound)
    (rests : disk.AtRest) :
    Safe Surroundings Keeps (fun _ last => last.AtRest) program disk := by
  rcases isProgram with rfl | ⟨opening, rfl⟩
  · refine Safe.bind ((construct_ready sound rests).mono fun outcome last ends => ?_)
    exact Safe.pure _ atRest_stable fun _ => ends.2.rests
  · cases isInstance : disk.instance_ with
    | none =>
      have closed := sound.core.closed isInstance
      refine Safe.bind (Safe.look_bind (quiet closed) id ?_)
      rw [isInstance]
      exact Safe.pure _ Safe.stable (Safe.pure _ atRest_stable rests)
    | some backup =>
      have isSome : disk.instance_.isSome = true := by rw [isInstance]; rfl
      have ready : disk.Ready := ⟨sound, isSome, rests isSome⟩
      refine Safe.bind ((getDatabase_called ready).mono fun outcome last ends => ?_)
      exact Safe.pure _ atRest_stable fun _ => ends.2.rests

theorem lost_sound (sound : disk.Sound) : disk.lost.Sound := by
  have liveGood {live : Db} (good : disk.LiveGood live) : disk.lost.LiveGood live := { good with }
  have settled (settled : disk.Settled) : disk.lost.Settled := by
    obtain ⟨⟨live, good, current⟩, backups⟩ := settled
    exact ⟨⟨live, liveGood good, current⟩, backups⟩
  have stale {target : ℕ} {main live : Db} (stale : disk.Stale target main live) :
      disk.lost.Stale target main live := { stale with isLive := liveGood stale.isLive }
  refine ⟨sound.tidy, ?_, fun backup isInstance => ?_, fun opened => ?_, fun upgraded => ?_⟩
  · rcases sound.core.situation with isSettled | plain | ⟨target, main, pending⟩ |
      ⟨target, main, live, left⟩ | ⟨target, main, live, handoff⟩
    · exact .inl (settled isSettled)
    · obtain ⟨⟨live, good, positive, below⟩, noBackup⟩ := plain
      exact .inr (.inl ⟨⟨live, liveGood good, positive, below⟩, noBackup⟩)
    · exact .inr (.inr (.inl ⟨target, main, { pending with }⟩))
    · exact .inr (.inr (.inr (.inl ⟨target, main, live, stale left.stale, left.only⟩)))
    · exact .inr (.inr (.inr (.inr
        ⟨target, main, live, stale handoff.stale, handoff.current, handoff.only⟩)))
  · cases isInstance
  · cases opened
  · exact ⟨settled (sound.core.upgraded upgraded).1, fun target isInstance => by cases isInstance⟩

theorem lost_rests (disk : Disk) : disk.lost.AtRest := fun isSome => by cases isSome

def Going (process : Process Disk) : Prop :=
  process.Running Surroundings Keeps Disk.Sound fun disk => disk.AtRest

theorem service_step (going : Going before) (step : Service before after) : Going after :=
  (Process.running_step (fun _ isProgram _ sound rests => program_safe isProgram sound rests)
    (fun _ _ sound step => step.elim (fun step => (step.settled sound).1) fun keeps => keeps sound)
    (fun _ => id) (fun _ => lost_sound) (fun disk _ => lost_rests disk) atRest_stable going step).1

theorem service_steps (going : Going before)
    (steps : Relation.ReflTransGen Service before after) : Going after := by
  induction steps with
  | refl => exact going
  | tail _ step ih => exact service_step ih step

def starts : Program Unit := do
  construct
  getDatabase .opens

theorem starts_ok (sound : disk.Sound) (rests : disk.AtRest) :
    (Prog.run starts.run disk).1 = .ok () := by
  have safe : Safe Surroundings Keeps (fun outcome _ => outcome = .ok ()) starts.run disk := by
    refine Safe.bind ((construct_ready sound rests).mono fun outcome last ends => ?_)
    obtain ⟨rfl, ready⟩ := ends
    exact (getDatabase_called ready).mono fun _ _ called => called.1 rfl
  exact safe.run

end Runs

section Rows

structure Disk.Initial (disk : Disk) : Prop where
  situation : disk.Plain ∨ (∃ target main, disk.Pending target main) ∨
    (∃ target main live, disk.Left target main live) ∨
    ∃ target main live, disk.Handoff target main live
  unowned : disk.Unowned
  tidy : disk.Tidy

/-- Where no unexpected file keeps a backup from being retired: what was committed stays in the
upgraded database; until it is given out the rows are in the live file or in a backup; and the
next start opens. -/
theorem committed_kept {disk : Disk} (initial : disk.Initial) {process : Process Disk}
    (steps : Relation.ReflTransGen Service (.idle disk) process) :
    (process.state.upgraded = true → process.state.inspectLive = some databaseVersion ∧
      ∃ live, process.state.live = some live ∧ ∀ row ∈ process.state.rows, row ∈ live.rows) ∧
    ((∃ live, process.state.live = some live ∧ process.state.inspectLive = some live.version ∧
        ∀ row ∈ process.state.rows, row ∈ live.rows) ∨
      ∃ target main, process.state.validated target = some main ∧
        ∀ row ∈ process.state.rows, row ∈ main.rows) ∧
    (Prog.run starts.run process.state.lost).1 = .ok () := by
  have sound : disk.Sound := ⟨initial.tidy, initial.unowned.sound (.inr initial.situation)⟩
  have rests : disk.AtRest := fun isSome => by
    rw [initial.unowned.noInstance] at isSome
    cases isSome
  have going := service_steps (Process.running_idle sound rests atRest_stable) steps
  have now := going.1
  refine ⟨fun upgraded => ?_, ?_, starts_ok (lost_sound now) (lost_rests _)⟩
  · obtain ⟨live, good, current⟩ := (now.core.upgraded upgraded).1.live
    exact ⟨good.inspectLive.trans (congrArg some current), live, good.here, good.good.2⟩
  · have ofLive {live : Db} (good : process.state.LiveGood live) :
        ∃ live, process.state.live = some live ∧ process.state.inspectLive = some live.version ∧
          ∀ row ∈ process.state.rows, row ∈ live.rows :=
      ⟨live, good.here, good.inspectLive, good.good.2⟩
    rcases now.core.situation with settled | plain | ⟨target, main, pending⟩ |
      ⟨target, main, live, left⟩ | ⟨target, main, live, handoff⟩
    · obtain ⟨live, good, _⟩ := settled.live
      exact .inl (ofLive good)
    · obtain ⟨live, good, _⟩ := plain.live
      exact .inl (ofLive good)
    · exact .inr ⟨target, main, validated_of_bundle pending.source pending.here, pending.good.2⟩
    · exact .inl (ofLive left.stale.isLive)
    · exact .inl (ofLive handoff.stale.isLive)

theorem service_program {program : Prog Disk Unit} (isProgram : programs program) (disk : Disk) :
    Relation.ReflTransGen Service (.idle disk) (.idle (program.run disk).2) := by
  have finishes (program : Prog Disk Unit) (disk : Disk) :
      Relation.ReflTransGen Service ⟨disk, program⟩ (.idle (program.run disk).2) := by
    induction program generalizing disk with
    | done result => exact .refl
    | step change next ih => exact .head .operation (ih disk (change disk))
  exact .head (.begins isProgram) (finishes program disk)

def upgrade (disk : Disk) : Disk :=
  (Prog.run (do let _ ← (getDatabase .opens).run)
    (Prog.run (do let _ ← construct.run) disk).2).2

theorem service_upgrade (disk : Disk) :
    Relation.ReflTransGen Service (.idle disk) (.idle (upgrade disk)) :=
  (service_program (.inl rfl) disk).trans (service_program (.inr ⟨.opens, rfl⟩) _)

def version4 (retired : Option Directory) : Disk :=
  { live := some ⟨4, [1], true⟩
    backup := fun _ => none
    rows := [1]
    retired := fun target => if target = databaseVersion then retired else none }

theorem plain_version4 (retired : Option Directory) :
    (version4 retired).Plain ∧ (version4 retired).Unowned :=
  ⟨⟨⟨⟨4, [1], true⟩, ⟨rfl, ⟨rfl, fun _ mem => mem⟩, rfl, rfl⟩, by decide, by decide⟩,
    fun _ => rfl⟩, rfl, rfl, rfl⟩

theorem committed_kept_upgrade :
    (upgrade (version4 none)).upgraded = true ∧
      (upgrade (version4 none)).inspectLive = some databaseVersion ∧
      (Prog.run starts.run (upgrade (version4 none)).lost).1 = .ok () := by
  have initial : (version4 none).Initial := by
    refine ⟨.inl (plain_version4 none).1, (plain_version4 none).2, fun target _ _ isThere => ?_⟩
    simp [version4] at isThere
  have kept := committed_kept initial (service_upgrade (version4 none))
  have upgraded : (upgrade (version4 none)).upgraded = true := by decide +kernel
  exact ⟨upgraded, (kept.1 upgraded).1, kept.2.2⟩

/-- Beside an unexpected file the backup stays, and the next call that fails takes back what was
committed since. -/
theorem committed_lost_unexpected :
    ∃ disk : Disk, disk.Plain ∧ disk.Unowned ∧ ∃ process : Process Disk,
      Relation.ReflTransGen Service (.idle disk) process ∧ process.state.upgraded = true ∧
        2 ∈ process.state.rows ∧ process.state.live = some ⟨4, [1], true⟩ := by
  let disk := version4 (some { unexpected := true })
  let opened := upgrade disk
  let written : Disk :=
    { opened with live := some ⟨databaseVersion, [2, 1], true⟩, rows := 2 :: opened.rows }
  have commits : Service (.idle opened) (.idle written) :=
    .env (.commits opened ⟨databaseVersion, [1], true⟩ 2 (by decide +kernel) (by decide +kernel))
  refine ⟨disk, (plain_version4 _).1, (plain_version4 _).2, _,
    ((service_upgrade disk).tail commits).trans (service_program (.inr ⟨.fails, rfl⟩) written),
    ?_, ?_, ?_⟩
  · decide +kernel
  · decide +kernel
  · decide +kernel

end Rows

end DashcamStats.Migration
