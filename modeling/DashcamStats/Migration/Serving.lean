import DashcamStats.Migration.Recovery

namespace DashcamStats.Migration

open Throwing (look act ensure)

theorem Core.Sound.closed {core : Core} (sound : core.Sound) (isNone : core.instance_ = none) :
    core.opened = false := by
  cases isOpen : core.opened with
  | false => rfl
  | true =>
    have isSome := (sound.opened isOpen).2
    rw [isNone] at isSome
    cases isSome

section Commits

variable {disk next : Disk}

theorem Core.Settled.commits {core : Core} {live : Db} (settled : core.Settled)
    (isLive : core.live = some live) (row : ℕ) :
    Core.Settled { core with
      live := some { live with rows := row :: live.rows }, rows := row :: core.rows } := by
  obtain ⟨⟨live', good, current⟩, backups⟩ := settled
  have same : live' = live := Option.some.inj (good.here.symm.trans isLive)
  subst same
  refine ⟨⟨_, ⟨rfl, ⟨good.good.1, fun other mem => ?_⟩, good.clean, good.unmarked⟩, current⟩, backups⟩
  rcases List.mem_cons.mp mem with rfl | mem
  · exact List.mem_cons_self
  · exact List.mem_cons_of_mem _ (good.good.2 other mem)

theorem Surroundings.settled (step : Surroundings disk next) (sound : disk.Sound) :
    next.Sound ∧ next.Settled := by
  cases step with
  | commits live row opened isLive =>
    have upgraded := (sound.core.opened opened).1
    obtain ⟨settled, retired⟩ := sound.core.upgraded upgraded
    have after := settled.commits isLive row
    refine ⟨⟨sound.tidy, .inl after, fun backup isInstance => ?_, sound.core.opened,
      fun _ => ⟨after, retired⟩⟩, after⟩
    cases backup with
    | none => exact after
    | some target => exact .inr ⟨after, retired target isInstance⟩

/-- The current database in a process whose instance is `owner`. -/
structure Disk.Serving (owner : Option (Option ℕ)) (disk : Disk) : Prop where
  sound : disk.Sound
  settled : disk.Settled
  isOwner : disk.instance_ = owner
  noBackup : ∀ target, owner = some (some target) → disk.backup target = none

variable {owner : Option (Option ℕ)}

theorem serving_stable : Stable Surroundings (Disk.Serving owner) := by
  intro disk next serving step
  obtain ⟨sound, settled⟩ := step.settled serving.sound
  cases step with
  | commits live row opened isLive =>
    exact ⟨sound, settled, serving.isOwner, serving.noBackup⟩

theorem serving_backup_stable (target : ℕ) (directory : Option Directory) :
    Stable Surroundings fun disk => disk.Serving owner ∧ disk.backup target = directory := by
  intro disk next ⟨serving, isThere⟩ step
  refine ⟨serving_stable disk next serving step, ?_⟩
  cases step with
  | commits live row opened isLive => exact isThere

theorem Disk.Serving.of_core {last : Disk} (serving : disk.Serving owner)
    (isCore : last.toCore = disk.toCore) (tidy : last.Tidy) : last.Serving owner := by
  obtain ⟨core, retired, backupStaging, restoreStaging⟩ := last
  subst isCore
  exact ⟨⟨tidy, serving.sound.core⟩, serving.settled, serving.isOwner, serving.noBackup⟩

theorem Disk.Serving.unmarked (serving : disk.Serving owner) : disk.marker = none :=
  let ⟨_, good, _⟩ := serving.settled.live
  good.unmarked

end Commits

section Within

variable {P : Disk → Prop} {α : Type}

-- The program does not throw and stays within `P`, commits included.
def Within (P : Disk → Prop) (program : Program Unit) : Prop :=
  ∀ disk, P disk →
    Safe Surroundings Keeps (fun outcome last => outcome = .ok () ∧ P last) program.run disk

theorem ok_stable (stable : Stable Surroundings P) (result : α) (outcome : Except String α) :
    Stable Surroundings fun disk => outcome = .ok result ∧ P disk :=
  fun disk next holds step => ⟨holds.1, stable disk next holds.2 step⟩

theorem within_pure (stable : Stable Surroundings P) : Within P (pure ()) :=
  fun _ holds => Safe.pure _ (ok_stable stable () _) ⟨rfl, holds⟩

theorem within_look {view : Disk → α} {next : α → Program Unit} (stable : Stable Surroundings P)
    (rest : ∀ disk, P disk → Safe Surroundings Keeps
      (fun outcome last => outcome = .ok () ∧ P last) (next (view disk)).run disk) :
    Within P (look view >>= next) :=
  fun _ holds => .look_stable stable holds (fun _ => id) rest

theorem within_act {operation : Disk → Disk} (stable : Stable Surroundings P)
    (sound : ∀ disk, P disk → disk.Sound) (kept : ∀ disk, P disk → P (operation disk)) : Within P (act operation) :=
  fun _ holds _ steps =>
    have here := stable.steps holds steps
    ⟨fun _ => sound _ (kept _ here), fun _ later => ⟨rfl, stable.steps (kept _ here) later⟩⟩

theorem within_bind {program : Program Unit} {next : Unit → Program Unit}
    (first : Within P program) (second : Within P (next ())) : Within P (program >>= next) := by
  intro disk holds
  refine Safe.bind ((first disk holds).mono fun outcome last ends => ?_)
  obtain ⟨rfl, still⟩ := ends
  exact second last still

end Within

section Upkeep

variable {owner : Option (Option ℕ)} {P : Disk → Prop} {target : ℕ}

theorem cleanup_within (stable : Stable Surroundings P) (sound : ∀ disk, P disk → disk.Sound)
    (kept : ∀ (disk : Disk) directory, P disk →
      (∀ found, directory = some found → found.unexpected = false) →
      P (disk.setRetired target directory)) :
    Within P (cleanupRetiredMigrationBackup target) := by
  refine within_look stable fun disk holds => ?_
  cases disk.retired target with
  | none => exact within_pure stable disk holds
  | some directory =>
    by_cases unexpected : directory.unexpected = true
    · simp only [unexpected, if_true]
      exact within_pure stable disk holds
    · simp only [unexpected, Bool.false_eq_true, if_false]
      have first : Within P (act fun disk =>
          disk.setRetired target (some { ready := directory.ready })) :=
        within_act stable sound fun disk holds => kept disk _ holds fun found isFound => by
          cases isFound
          rfl
      have second : Within P (act fun disk => disk.setRetired target (some {})) :=
        within_act stable sound fun disk holds => kept disk _ holds fun found isFound => by
          cases isFound
          rfl
      have last : Within P (act fun disk => disk.setRetired target none) :=
        within_act stable sound fun disk holds => kept disk _ holds fun found isFound => by
          cases isFound
      refine within_bind first ?_ disk holds
      exact within_bind second last

theorem cleanup_serves : Within (Disk.Serving owner) (cleanupRetiredMigrationBackup target) :=
  cleanup_within serving_stable (fun _ serving => serving.sound) fun _ _ serving expected =>
    serving.of_core rfl (tidy_setRetired serving.sound.tidy expected)

theorem cleanups_serve (targets : List ℕ) :
    Within (Disk.Serving owner) (cleanupRetiredMigrationBackups targets) := by
  induction targets with
  | nil => exact within_pure serving_stable
  | cons target rest ih => exact within_bind cleanup_serves ih

theorem act_serves {operation : Disk → Disk}
    (isCore : ∀ disk, (operation disk).toCore = disk.toCore)
    (isRetired : ∀ disk, (operation disk).retired = disk.retired) :
    Within (Disk.Serving owner) (act operation) :=
  within_act serving_stable (fun _ serving => serving.sound) fun disk serving => by
    refine serving.of_core (isCore disk) fun other directory used isThere => ?_
    rw [isCore] at used
    rw [isRetired] at isThere
    exact serving.sound.tidy other directory used isThere

theorem clearArtifacts_serves : Within (Disk.Serving owner) (clearArtifacts target) := by
  refine within_bind cleanup_serves (within_bind (act_serves (fun _ => rfl) fun _ => rfl)
    (within_bind (act_serves (fun _ => rfl) fun _ => rfl) ?_))
  refine within_act serving_stable (fun _ serving => serving.sound) fun disk serving => ?_
  refine serving.of_core ?_ serving.sound.tidy
  change { disk.toCore with marker := none } = disk.toCore
  rw [← serving.unmarked]

theorem Disk.Serving.retires {disk : Disk} {main : Db} (serving : disk.Serving owner)
    (here : disk.backup target = some (bundle main)) :
    ((disk.setRetired target (disk.backup target)).setBackup target none).Serving owner := by
  have others (other : ℕ) (directory : Directory)
      (isThere : Function.update disk.backup target none other = some directory) :
      disk.backup other = some directory := by
    by_cases same : other = target
    · subst same
      simp at isThere
    · simpa [same] using isThere
  have settled : (disk.without target).Settled := by
    obtain ⟨⟨live, good, current⟩, backups⟩ := serving.settled
    exact ⟨⟨live, ⟨good.here, good.good, good.clean, good.unmarked⟩, current⟩,
      fun other directory isThere => backups other directory (others other directory isThere)⟩
  have gone (other : ℕ) (isNone : disk.backup other = none) :
      Function.update disk.backup target none other = none := by
    by_cases same : other = target
    · subst same
      simp
    · simpa [same] using isNone
  refine ⟨⟨fun other directory used isThere => ?_, .inl settled, fun backup isInstance => ?_,
    serving.sound.core.opened, fun upgraded => ⟨settled, fun other isInstance => ?_⟩⟩, settled,
    serving.isOwner, fun other isInstance => gone other (serving.noBackup other isInstance)⟩
  · by_cases same : other = target
    · subst same
      simp only [Disk.setBackup, Disk.setRetired, Function.update_self, here] at isThere
      cases isThere
      rfl
    · simp only [Disk.setBackup, Disk.setRetired, Function.update_of_ne same] at isThere used
      exact serving.sound.tidy other directory used isThere
  · cases backup with
    | none => exact settled
    | some other =>
      refine .inr ⟨settled, gone other (serving.noBackup other ?_)⟩
      rw [← serving.isOwner]
      exact isInstance
  · exact gone other ((serving.sound.core.upgraded upgraded).2 other isInstance)

theorem retire_serves : Within (Disk.Serving owner) (retireMigrationBackup target) := by
  refine within_look serving_stable fun disk serving => ?_
  cases isThere : disk.backup target with
  | none =>
    rw [if_neg (by simp)]
    exact clearArtifacts_serves disk serving
  | some directory =>
    rw [if_pos (by simp)]
    obtain ⟨main, rfl, source⟩ := serving.settled.backups target directory isThere
    have stable := @serving_backup_stable owner target (some (bundle main))
    refine Safe.look_stable stable ⟨serving, isThere⟩ (fun _ => id) fun next ⟨serving, isThere⟩ => ?_
    refine ensure_rule (by simp [validated_of_bundle source isThere]) ?_
    have cleaned := @cleanup_within _ target stable (fun _ holds => holds.1.sound)
      fun disk directory holds expected =>
        ⟨holds.1.of_core rfl (tidy_setRetired holds.1.sound.tidy expected), holds.2⟩
    refine Safe.bind ((cleaned next ⟨serving, isThere⟩).mono fun outcome last ends => ?_)
    obtain ⟨rfl, holds⟩ := ends
    refine Safe.look_stable stable holds (fun _ => id) fun next holds => ?_
    by_cases remains : (next.retired target).isSome = true
    · rw [if_pos remains]
      exact within_pure serving_stable next holds.1
    · rw [if_neg remains]
      exact Safe.act_stable stable holds (fun next holds _ => (holds.1.retires holds.2).sound)
        fun next holds => clearArtifacts_serves _ (holds.1.retires holds.2)

theorem retireValidated_serves (targets : List ℕ) :
    Within (Disk.Serving owner) (retireValidated targets) := by
  induction targets with
  | nil => exact within_pure serving_stable
  | cons target rest ih =>
    refine within_look serving_stable fun disk serving => ?_
    cases disk.validated target with
    | none => exact ih disk serving
    | some main =>
      by_cases below : main.version < target
      · simp only [below, if_true]
        exact within_bind retire_serves ih disk serving
      · simp only [below, if_false]
        exact ih disk serving

end Upkeep

end DashcamStats.Migration
