import DashcamStats.Migration.Serving

namespace DashcamStats.Migration

open Throwing (look act ensure)

section Retained

variable {disk : Disk} {target : ℕ} {main live : Db}

def Core.Bundled (core : Core) : Prop :=
  ∀ target directory, core.backup target = some directory →
    ∃ main, directory = bundle main ∧ Source target main

def Core.retained (core : Core) (targets : List ℕ) : List (ℕ × Db) :=
  targets.filterMap fun target => (core.validated target).map fun main => (target, main)

theorem retained_ends (targets : List ℕ) (closed : disk.opened = false) (tidy : disk.Tidy)
    (bundled : disk.Bundled) :
    Ends (retainedBackups targets) disk (disk.retained targets) disk.toCore := by
  induction targets with
  | nil => exact pure_ends closed tidy
  | cons target rest ih =>
    unfold retainedBackups
    refine look_rule closed ?_
    cases isThere : disk.backup target with
    | none =>
      have invalid : disk.validated target = none := by rw [Core.validated, isThere]; rfl
      rw [if_neg (by simp), Core.retained, List.filterMap_cons_none (by rw [invalid]; rfl)]
      exact ih
    | some directory =>
      obtain ⟨main, rfl, source⟩ := bundled target directory isThere
      have validated := validated_of_bundle source isThere
      rw [if_pos (by simp)]
      refine look_rule closed ?_
      rw [validated, Core.retained, List.filterMap_cons_some (by rw [validated]; rfl)]
      refine ensure_rule (by simpa using source.below) (call_rule ih fun last isCore tidy => ?_)
      rw [← isCore]
      exact pure_ends (by rw [isCore]; exact closed) tidy

theorem Core.Pending.bundled {core : Core} (pending : core.Pending target main) :
    core.Bundled := by
  intro other directory isThere
  by_cases same : other = target
  · subst same
    rw [pending.here] at isThere
    exact ⟨main, (Option.some.inj isThere).symm, pending.source⟩
  · rw [pending.only other same] at isThere
    cases isThere

theorem source_target (source : Source target main) :
    target = 2 ∨ target = 3 ∨ target = 4 ∨ target = 5 := by
  have least := source.le_target
  have most : target ≤ 5 := source.target_le
  omega

theorem retained_one {core : Core} (source : Source target main)
    (here : core.backup target = some (bundle main))
    (only : ∀ other, other ≠ target → core.backup other = none) :
    core.retained targets = [(target, main)] := by
  have validated := validated_of_bundle source here
  have others (other : ℕ) (apart : other ≠ target) : core.validated other = none := by
    rw [Core.validated, only other apart]
    rfl
  rcases source_target source with rfl | rfl | rfl | rfl <;>
    simp [Core.retained, targets, validated, others]

theorem resolveHandoff_one (one : ℕ × Db) (marker : Option Db) (live : Option ℕ) :
    resolveHandoff [one] marker live = pure [one] := by
  cases live with
  | none => rfl
  | some version => simp [resolveHandoff]

end Retained

section Pending

variable {disk : Disk} {target : ℕ} {main : Db}

theorem Source.current {target : ℕ} {main : Db} (source : Source target main) :
    main.version < databaseVersion ∧ ¬some main.version = some databaseVersion := by
  have below : main.version < databaseVersion := Nat.lt_of_lt_of_le source.below source.target_le
  exact ⟨below, fun same => Nat.ne_of_lt below (Option.some.inj same)⟩

theorem inspectLive_some {core : Core} {version : ℕ} (isLive : core.inspectLive = some version) :
    ∃ live, core.live = some live ∧ live.healthy = true ∧ live.version = version ∧
      core.sidecars = false := by
  unfold Core.inspectLive at isLive
  cases mixed : core.sidecars with
  | true => simp [mixed] at isLive
  | false =>
    simp only [mixed, Bool.false_eq_true, if_false, inspect, Option.map_eq_some_iff,
      Option.filter_eq_some_iff] at isLive
    obtain ⟨live, ⟨here, healthy⟩, same⟩ := isLive
    exact ⟨live, here, healthy, same, rfl⟩

theorem Core.LiveGood.inspectLive {core : Core} {live : Db} (good : core.LiveGood live) :
    core.inspectLive = some live.version := by
  rw [Core.inspectLive, good.clean, good.here]
  exact inspect_healthy good.good.1

theorem settle_pending (source : Source target main) (restored : Bool) :
    settle (some (target, main)) target restored (some main) (some main.version) =
      if restored then pure (some target)
      else do
        restoreMigrationBackup target
        return some target := by
  obtain ⟨below, current⟩ := source.current
  have stale : ¬target ≤ main.version := Nat.not_le.mpr source.below
  unfold settle
  rw [if_neg current]
  simp only [source.positive, below, stale, decide_true, Bool.and_true, Bool.not_true,
    Bool.false_eq_true, if_false, Option.any_some, decide_false, Bool.and_false]
  rfl

theorem restore_returns (migrating : disk.Migrating target main) (tidy : disk.Tidy) :
    Ends (do restoreMigrationBackup target; return some target) disk (some target)
      (disk.restored main) := by
  refine call_rule (restore_ends migrating tidy) fun last isCore tidy => ?_
  rw [← isCore]
  exact pure_ends (by rw [isCore]; exact migrating.closed) tidy

theorem recheck_restored (migrating : disk.Migrating target main) (tidy : disk.Tidy)
    (good : disk.LiveGood main) :
    Ends (resolveRestore.recheck (some (target, main)) target true) disk (some target)
      disk.toCore := by
  have pending := migrating.pending
  have closed := migrating.closed
  have isLive : disk.inspectLive = some main.version := good.inspectLive
  have validated := validated_of_bundle pending.source pending.here
  unfold resolveRestore.recheck
  refine look_rule closed (look_rule closed ?_)
  simp only [isLive, validated, reduceCtorEq, decide_false, Bool.false_and, Bool.false_eq_true,
    if_false, settle_pending pending.source, if_true]
  exact pure_ends closed tidy

theorem recheck_pending (migrating : disk.Migrating target main) (tidy : disk.Tidy)
    (unmarked : disk.marker = none) (old : disk.inspectLive ≠ some databaseVersion) :
    Ends (resolveRestore.recheck (some (target, main)) target false) disk (some target)
      (disk.restored main) := by
  have pending := migrating.pending
  have closed := migrating.closed
  have validated := validated_of_bundle pending.source pending.here
  unfold resolveRestore.recheck
  refine look_rule closed (look_rule closed ?_)
  cases isLive : disk.inspectLive with
  | none =>
    simp only [validated, Option.isSome_some, decide_true, Bool.and_self, if_true]
    refine call_rule (restore_ends migrating tidy) fun last isCore tidy => ?_
    have closed' : last.opened = false := by rw [isCore]; exact closed
    refine look_rule closed' ?_
    have good : last.LiveGood main := isCore ▸ pending.liveGood_restored
    rw [good.inspectLive, settle_pending pending.source, if_pos rfl, ← isCore]
    exact pure_ends closed' tidy
  | some version =>
    obtain ⟨live, here, healthy, rfl, _⟩ := inspectLive_some isLive
    have same : live.version = main.version := by
      rcases (pending.live unmarked).2 live here healthy with same | ⟨current, _⟩
      · exact same
      · exact absurd (isLive.trans (congrArg some current)) old
    rw [same] at isLive ⊢
    simp only [validated, reduceCtorEq, decide_false, Bool.false_and, Bool.false_eq_true, if_false,
      settle_pending pending.source]
    exact restore_returns migrating tidy

theorem prepare_pending (migrating : disk.Migrating target main) (tidy : disk.Tidy)
    (old : disk.marker = none → disk.inspectLive ≠ some databaseVersion) :
    Ends prepareMigrationBackup disk (some target) (disk.restored main) := by
  have pending := migrating.pending
  have closed := migrating.closed
  unfold prepareMigrationBackup
  refine look_rule closed (look_rule closed ?_)
  have notCurrent : (decide (disk.marker = none) && decide
      (disk.inspectLive = some databaseVersion)) = false := by
    cases isMarked : disk.marker with
    | none => simpa using old isMarked
    | some pending => simp
  simp only [notCurrent, Bool.false_eq_true, if_false]
  refine call_rule (retained_ends targets closed tidy pending.bundled) fun last isCore tidy => ?_
  rw [retained_one pending.source pending.here pending.only, resolveHandoff_one]
  obtain ⟨core, retired, backupStaging, restoreStaging⟩ := last
  subst isCore
  refine return_rule (ensure_rule rfl ?_)
  unfold resolveRestore
  rcases pending.marker with unmarked | marked
  · simp only [unmarked, List.head?_cons, Option.map_some, Option.getD_some]
    refine act_rule closed ⟨tidy, migrating.sound⟩ ?_
    exact recheck_pending migrating tidy unmarked (old unmarked)
  · simp only [marked, List.head?_cons, Option.map_some, Option.getD_some]
    refine ensure_rule (by simp) ?_
    refine call_rule (restore_ends migrating tidy) fun last isCore tidy => ?_
    have restored := migrating.restored
    have good := pending.liveGood_restored
    rw [← isCore] at restored good ⊢
    exact recheck_restored restored tidy good

end Pending

section Plain

variable {disk : Disk} {live : Db}

theorem pending_of_published {core : Core} (good : core.LiveGood live) (positive : 1 ≤ live.version)
    (below : live.version < databaseVersion) (here : core.backup databaseVersion = some (bundle live))
    (only : ∀ other, other ≠ databaseVersion → core.backup other = none) :
    core.Pending databaseVersion live where
  source := source_of_live positive below good.good.1
  here := here
  only := only
  good := good.good
  marker := .inl good.unmarked
  live := fun _ => ⟨good.clean, fun other isLive _ =>
    .inl (by rw [Option.some.inj (isLive.symm.trans good.here)])⟩

theorem notCurrent_of_live {core : Core} (good : core.LiveGood live)
    (below : live.version < databaseVersion) :
    (decide (core.marker = none) && decide (core.inspectLive = some databaseVersion)) = false := by
  rw [good.inspectLive]
  simp [Nat.ne_of_lt below]

theorem checkpoint_ends (good : disk.LiveGood live) (closed : disk.opened = false)
    (tidy : disk.Tidy) : Ends checkpointAndInspect disk live.version disk.toCore := by
  unfold checkpointAndInspect
  refine look_rule closed ?_
  simp only [good.inspectLive]
  exact pure_ends closed tidy

theorem settle_plain (positive : 1 ≤ live.version) (below : live.version < databaseVersion) :
    settle none databaseVersion false none (some live.version) = do
      let checkpointed ← checkpointAndInspect
      ensure (checkpointed = live.version)
        "OBD database version changed while preparing its migration backup"
      let created ← createMigrationBackup databaseVersion checkpointed
      return some created := by
  have current : ¬some live.version = some databaseVersion :=
    fun same => Nat.ne_of_lt below (Option.some.inj same)
  unfold settle
  rw [if_neg current]
  simp only [positive, below, decide_true, Bool.and_true, Bool.not_true, Bool.false_eq_true,
    if_false]

theorem Core.Plain.published {core : Core} (plain : core.Plain) (good : core.LiveGood live)
    (positive : 1 ≤ live.version) (below : live.version < databaseVersion) :
    (core.published live).Pending databaseVersion live :=
  pending_of_published ⟨good.here, good.good, good.clean, good.unmarked⟩ positive below
    (by simp [Core.published]) fun other apart => by
      simpa [Core.published, apart] using plain.noBackup other

theorem prepare_plain (unowned : disk.Unowned) (plain : disk.Plain) (good : disk.LiveGood live)
    (positive : 1 ≤ live.version) (below : live.version < databaseVersion) (tidy : disk.Tidy) :
    Ends prepareMigrationBackup disk (some databaseVersion) (disk.published live) := by
  have closed := unowned.closed
  have sound := unowned.sound (.inr (.inl plain))
  have empty : disk.retained targets = [] := by
    simp [Core.retained, Core.validated, targets, plain.noBackup]
  have bundled : disk.Bundled := fun target directory isThere => by
    rw [plain.noBackup] at isThere
    cases isThere
  unfold prepareMigrationBackup
  refine look_rule closed (look_rule closed ?_)
  simp only [notCurrent_of_live good below, Bool.false_eq_true, if_false]
  refine call_rule (retained_ends targets closed tidy bundled) fun last isCore tidy => ?_
  obtain ⟨core, retired, backupStaging, restoreStaging⟩ := last
  subst isCore
  rw [empty, good.inspectLive, good.unmarked]
  refine return_rule (ensure_rule rfl ?_)
  refine act_rule closed ⟨tidy, sound⟩ ?_
  unfold resolveRestore.recheck
  refine look_rule closed (look_rule closed ?_)
  have invalid : disk.validated databaseVersion = none := by
    rw [Core.validated, plain.noBackup]
    rfl
  simp only [List.head?_nil, Option.map_none, Option.getD_none, good.inspectLive, invalid,
    reduceCtorEq, decide_false, Bool.false_and, Bool.false_eq_true, if_false,
    settle_plain positive below]
  have good' : Core.LiveGood disk.toCore live := good
  refine call_rule (checkpoint_ends good' closed tidy) fun last isCore tidy => ?_
  obtain ⟨core, retired, backupStaging, restoreStaging⟩ := last
  subst isCore
  refine ensure_rule (by simp) ?_
  refine call_rule (create_ends unowned ⟨tidy, sound⟩ good positive below (plain.noBackup _)
    (.inr (.inr (.inl ⟨_, _, plain.published good positive below⟩)))) fun last isCore tidy => ?_
  rw [← isCore]
  exact pure_ends (by rw [isCore]; exact closed) tidy

end Plain

section Handoff

variable {disk : Disk} {target : ℕ} {main live : Db}

theorem Core.Stale.positive {core : Core} (stale : core.Stale target main live) :
    1 ≤ live.version := by
  have least := stale.source.le_target
  have migrated := stale.migrated
  omega

theorem Core.Left.published {core : Core} (left : core.Left target main live) :
    (core.published live).Handoff target main live where
  stale := { left.stale with
    here := by simpa [Core.published, Nat.ne_of_lt left.stale.older] using left.stale.here
    isLive :=
      let good := left.stale.isLive
      ⟨good.here, good.good, good.clean, good.unmarked⟩ }
  current := by simp [Core.published]
  only := fun other apart old => by simpa [Core.published, old] using left.only other apart

theorem Core.Handoff.without {core : Core} (handoff : core.Handoff target main live) :
    (core.without target).Pending databaseVersion live := by
  have stale := handoff.stale
  have good := stale.isLive
  have apart : databaseVersion ≠ target := Nat.ne_of_gt stale.older
  refine pending_of_published ⟨good.here, good.good, good.clean, good.unmarked⟩ stale.positive
    stale.below (by simpa [Core.without, apart] using handoff.current) fun other old => ?_
  by_cases same : other = target
  · subst same
    simp [Core.without]
  · simpa [Core.without, same] using handoff.only other same old

theorem retire_stale (unowned : disk.Unowned) (handoff : disk.Handoff target main live)
    (tidy : disk.Tidy) :
    Ends (retireMigrationBackup target) disk () (disk.without target) :=
  have unowned' : (disk.without target).Unowned :=
    ⟨unowned.noInstance, unowned.closed, unowned.fresh⟩
  retire_ends unowned.closed
    ⟨tidy, unowned.sound (.inr (.inr (.inr (.inr ⟨target, main, live, handoff⟩))))⟩
    handoff.stale.source handoff.stale.here handoff.stale.isLive.unmarked
    (unowned'.sound (.inr (.inr (.inl ⟨_, _, handoff.without⟩))))

theorem settle_left (stale : disk.Stale target main live) :
    settle (some (target, main)) target false (some main) (some live.version) = do
      let checkpointed ← checkpointAndInspect
      ensure (checkpointed = live.version) "Check failed."
      let created ← createMigrationBackup databaseVersion checkpointed
      retireMigrationBackup target
      return some created := by
  have current : ¬some live.version = some databaseVersion :=
    fun same => Nat.ne_of_lt stale.below (Option.some.inj same)
  unfold settle
  rw [if_neg current]
  simp only [stale.positive, stale.below, stale.older, stale.migrated, decide_true, Bool.and_true,
    Bool.not_true, Bool.false_eq_true, if_false, Option.any_some, if_true]

theorem prepare_left (unowned : disk.Unowned) (left : disk.Left target main live)
    (tidy : disk.Tidy) :
    Ends prepareMigrationBackup disk (some databaseVersion)
      ((disk.published live).without target) := by
  have closed := unowned.closed
  have stale := left.stale
  have good := stale.isLive
  have sound := unowned.sound (.inr (.inr (.inr (.inl ⟨target, main, live, left⟩))))
  have bundled : disk.Bundled := fun other directory isThere => by
    by_cases same : other = target
    · subst same
      rw [stale.here] at isThere
      exact ⟨main, (Option.some.inj isThere).symm, stale.source⟩
    · rw [left.only other same] at isThere
      cases isThere
  unfold prepareMigrationBackup
  refine look_rule closed (look_rule closed ?_)
  simp only [notCurrent_of_live good stale.below, Bool.false_eq_true, if_false]
  refine call_rule (retained_ends targets closed tidy bundled) fun last isCore tidy => ?_
  obtain ⟨core, retired, backupStaging, restoreStaging⟩ := last
  subst isCore
  rw [retained_one stale.source stale.here left.only, resolveHandoff_one, good.unmarked]
  refine return_rule (ensure_rule rfl ?_)
  refine act_rule closed ⟨tidy, sound⟩ ?_
  unfold resolveRestore.recheck
  refine look_rule closed (look_rule closed ?_)
  simp only [List.head?_cons, Option.map_some, Option.getD_some, good.inspectLive,
    validated_of_bundle stale.source stale.here, reduceCtorEq, decide_false, Bool.false_and,
    Bool.false_eq_true, if_false, settle_left stale]
  have good' : Core.LiveGood disk.toCore live := good
  refine call_rule (checkpoint_ends good' closed tidy) fun last isCore tidy => ?_
  obtain ⟨core, retired, backupStaging, restoreStaging⟩ := last
  subst isCore
  refine ensure_rule (by simp) ?_
  have free : disk.backup databaseVersion = none := left.only _ (Nat.ne_of_gt stale.older)
  refine call_rule (create_ends unowned ⟨tidy, sound⟩ good stale.positive stale.below free
    (.inr (.inr (.inr (.inr ⟨_, _, _, left.published⟩))))) fun last isCore tidy => ?_
  obtain ⟨core, retired, backupStaging, restoreStaging⟩ := last
  subst isCore
  have unowned' : (disk.published live).Unowned := unowned.published
  refine call_rule (retire_stale unowned' left.published tidy) fun last isCore tidy => ?_
  rw [← isCore]
  exact pure_ends (by rw [isCore]; exact closed) tidy

theorem retained_two {core : Core} (handoff : core.Handoff target main live) :
    core.retained targets = [(target, main), (databaseVersion, live)] := by
  have stale := handoff.stale
  have validated := validated_of_bundle stale.source stale.here
  have current := validated_of_bundle
    (source_of_live stale.positive stale.below stale.isLive.good.1) handoff.current
  have others (other : ℕ) (apart : other ≠ target) (old : other ≠ databaseVersion) :
      core.validated other = none := by
    rw [Core.validated, handoff.only other apart old]
    rfl
  have older := stale.older
  simp only [databaseVersion] at older current others
  rcases source_target stale.source with rfl | rfl | rfl | rfl
  all_goals first
    | exact absurd older (by decide)
    | simp [Core.retained, targets, validated, current, others, databaseVersion]

theorem Core.Handoff.bundled {core : Core} (handoff : core.Handoff target main live) :
    core.Bundled := by
  have stale := handoff.stale
  intro other directory isThere
  by_cases same : other = target
  · subst same
    rw [stale.here] at isThere
    exact ⟨main, (Option.some.inj isThere).symm, stale.source⟩
  · by_cases current : other = databaseVersion
    · subst current
      rw [handoff.current] at isThere
      exact ⟨live, (Option.some.inj isThere).symm,
        source_of_live stale.positive stale.below stale.isLive.good.1⟩
    · rw [handoff.only other same current] at isThere
      cases isThere

theorem resolveHandoff_two (stale : disk.Stale target main live) :
    resolveHandoff [(target, main), (databaseVersion, live)] none (some live.version) = do
      let checkpointed ← checkpointAndInspect
      if checkpointed = live.version && (← look (·.live)) = some live then
        retireMigrationBackup target
        return [(databaseVersion, live)]
      else return [(target, main), (databaseVersion, live)] := by
  have apart : target ≠ databaseVersion := Nat.ne_of_lt stale.older
  simp [resolveHandoff, single?, apart, stale.older, stale.migrated]

theorem prepare_handoff (unowned : disk.Unowned) (handoff : disk.Handoff target main live)
    (tidy : disk.Tidy) :
    Ends prepareMigrationBackup disk (some databaseVersion)
      ((disk.without target).restored live) := by
  have closed := unowned.closed
  have stale := handoff.stale
  have good := stale.isLive
  unfold prepareMigrationBackup
  refine look_rule closed (look_rule closed ?_)
  simp only [notCurrent_of_live good stale.below, Bool.false_eq_true, if_false]
  refine call_rule (retained_ends targets closed tidy handoff.bundled) fun last isCore tidy => ?_
  obtain ⟨core, retired, backupStaging, restoreStaging⟩ := last
  subst isCore
  rw [retained_two handoff, good.inspectLive, good.unmarked, resolveHandoff_two stale]
  have migrating : (disk.without target).Migrating databaseVersion live :=
    ⟨handoff.without, .inl unowned.noInstance, unowned.closed, unowned.fresh⟩
  have resolved : Ends (do
      let checkpointed ← checkpointAndInspect
      if checkpointed = live.version && (← look (·.live)) = some live then
        retireMigrationBackup target
        return [(databaseVersion, live)]
      else return [(target, main), (databaseVersion, live)])
      ⟨disk.toCore, retired, backupStaging, restoreStaging⟩ [(databaseVersion, live)]
      (disk.without target) := by
    refine call_rule (checkpoint_ends good closed tidy) fun last isCore tidy => ?_
    obtain ⟨core, retired, backupStaging, restoreStaging⟩ := last
    subst isCore
    refine look_rule closed ?_
    rw [if_pos (by simp [good.here])]
    refine call_rule (retire_stale unowned handoff tidy) fun last isCore tidy => ?_
    rw [← isCore]
    exact pure_ends (by rw [isCore]; exact closed) tidy
  refine call_rule resolved fun last isCore tidy => ?_
  obtain ⟨core, retired, backupStaging, restoreStaging⟩ := last
  subst isCore
  refine ensure_rule rfl (act_rule closed ⟨tidy, migrating.sound⟩ ?_)
  have old : (disk.without target).inspectLive ≠ some databaseVersion := by
    rw [show (disk.without target).inspectLive = some live.version from good.inspectLive]
    exact fun same => Nat.ne_of_lt stale.below (Option.some.inj same)
  exact recheck_pending migrating tidy good.unmarked old

end Handoff

section Settled

variable {disk : Disk}

theorem prepare_settled (serving : disk.Serving none) :
    Safe Surroundings Keeps (fun outcome last => outcome = .ok none ∧ last.Serving none)
      prepareMigrationBackup.run disk := by
  obtain ⟨live, good, current⟩ := serving.settled.live
  have closed := serving.sound.core.closed serving.isOwner
  unfold prepareMigrationBackup
  refine look_rule closed (look_rule closed ?_)
  simp only [good.inspectLive, current, good.unmarked, decide_true, Bool.and_self, if_true]
  refine Safe.bind ((retireValidated_serves targets disk serving).mono fun outcome last ends => ?_)
  obtain ⟨rfl, serving⟩ := ends
  refine Safe.bind ((cleanups_serve targets last serving).mono fun outcome last ends => ?_)
  obtain ⟨rfl, serving⟩ := ends
  have staged := @act_serves none (fun disk => { disk with restoreStaging := none })
    (fun _ => rfl) fun _ => rfl
  refine Safe.bind ((staged last serving).mono fun outcome last ends => ?_)
  obtain ⟨rfl, serving⟩ := ends
  exact Safe.pure _ (fun _ next holds step => ⟨holds.1, serving_stable _ next holds.2 step⟩)
    ⟨rfl, serving⟩

end Settled

end DashcamStats.Migration
