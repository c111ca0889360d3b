import DashcamStats.Migration.Files

namespace DashcamStats.Migration

section Situations

def bundle (main : Db) : Directory := { main := some main, ready := some main }

variable (core : Core)

def Core.Good (db : Db) : Prop := db.healthy = true ∧ ∀ row ∈ core.rows, row ∈ db.rows

structure Core.LiveGood (live : Db) : Prop where
  here : core.live = some live
  good : core.Good live
  clean : core.sidecars = false
  unmarked : core.marker = none

/-- A database that can be the source of a migration to `target`. -/
structure Source (target : ℕ) (main : Db) : Prop where
  target_le : target ≤ databaseVersion
  le_target : 2 ≤ target
  positive : 1 ≤ main.version
  below : main.version < target
  healthy : main.healthy = true

structure Core.Settled : Prop where
  live : ∃ live, core.LiveGood live ∧ live.version = databaseVersion
  backups : ∀ target directory, core.backup target = some directory →
    ∃ main, directory = bundle main ∧ Source target main

structure Core.Plain : Prop where
  live : ∃ live, core.LiveGood live ∧ 1 ≤ live.version ∧ live.version < databaseVersion
  noBackup : ∀ target, core.backup target = none

structure Core.Pending (target : ℕ) (main : Db) : Prop where
  source : Source target main
  here : core.backup target = some (bundle main)
  only : ∀ other, other ≠ target → core.backup other = none
  good : core.Good main
  marker : core.marker = none ∨ core.marker = some main
  live : core.marker = none → core.sidecars = false ∧
    ∀ live, core.live = some live → live.healthy = true →
      live.version = main.version ∨ live.version = databaseVersion ∧ core.Good live

structure Core.Stale (target : ℕ) (main live : Db) : Prop where
  source : Source target main
  here : core.backup target = some (bundle main)
  older : target < databaseVersion
  isLive : core.LiveGood live
  migrated : target ≤ live.version
  below : live.version < databaseVersion

structure Core.Left (target : ℕ) (main live : Db) : Prop where
  stale : core.Stale target main live
  only : ∀ other, other ≠ target → core.backup other = none

structure Core.Handoff (target : ℕ) (main live : Db) : Prop where
  stale : core.Stale target main live
  current : core.backup databaseVersion = some (bundle live)
  only : ∀ other, other ≠ target → other ≠ databaseVersion → core.backup other = none

def Core.Situation : Prop :=
  core.Settled ∨ core.Plain ∨ (∃ target main, core.Pending target main) ∨
    (∃ target main live, core.Left target main live) ∨
    ∃ target main live, core.Handoff target main live

def Core.Instance : Prop :=
  ∀ backup, core.instance_ = some backup →
    match backup with
    | none => core.Settled
    | some target => (∃ main, core.Pending target main) ∨
        core.Settled ∧ core.backup target = none

structure Core.Sound : Prop where
  situation : core.Situation
  instance_ : core.Instance
  opened : core.opened = true → core.upgraded = true ∧ core.instance_.isSome = true
  upgraded : core.upgraded = true → core.Settled ∧
    ∀ target, core.instance_ = some (some target) → core.backup target = none

def Core.AtRest : Prop := core.instance_.isSome = true → ∃ live, core.LiveGood live

def Disk.Tidy (disk : Disk) : Prop :=
  ∀ target directory, target = databaseVersion ∨ (disk.backup target).isSome = true →
    disk.retired target = some directory → directory.unexpected = false

structure Disk.Sound (disk : Disk) : Prop where
  tidy : disk.Tidy
  core : disk.toCore.Sound

end Situations

section Rules

variable {disk : Disk} {α β : Type} {Q : Except String β → Disk → Prop}

def Keeps (disk next : Disk) : Prop := disk.Sound → next.Sound

open Throwing (look act ensure)

theorem quiet (closed : disk.opened = false) : Quiet Surroundings disk := by
  intro next step
  cases step with
  | commits live row opened isLive =>
    rw [closed] at opened
    cases opened

theorem act_rule {operation : Disk → Disk} {next : Unit → Program β} (closed : disk.opened = false)
    (sound : (operation disk).Sound)
    (rest : Safe Surroundings Keeps Q (next ()).run (operation disk)) :
    Safe Surroundings Keeps Q (act operation >>= next).run disk :=
  .act_bind (quiet closed) (fun _ => sound) rest

theorem look_rule {view : Disk → α} {next : α → Program β} (closed : disk.opened = false)
    (rest : Safe Surroundings Keeps Q (next (view disk)).run disk) :
    Safe Surroundings Keeps Q (look view >>= next).run disk :=
  .look_bind (quiet closed) id rest

-- The program ends with `result`, and leaves the live file and the backups as in `core`.
def Ends (program : Program α) (disk : Disk) (result : α) (core : Core) : Prop :=
  Safe Surroundings Keeps
    (fun outcome last => outcome = .ok result ∧ last.toCore = core ∧ last.Tidy) program.run disk

theorem pure_ends {result : α} (closed : disk.opened = false) (tidy : disk.Tidy) :
    Ends (pure result) disk result disk.toCore := by
  intro next steps
  rw [(quiet closed).eq steps]
  exact ⟨rfl, rfl, tidy⟩

theorem act_last {operation : Disk → Disk} (closed : disk.opened = false)
    (sound : (operation disk).Sound) (after : (operation disk).opened = false) :
    Safe Surroundings Keeps (fun outcome last => outcome = .ok () ∧ last = operation disk)
      (act operation).run disk := by
  intro next steps
  rw [(quiet closed).eq steps]
  refine ⟨fun _ => sound, fun last later => ?_⟩
  rw [(quiet after).eq later]
  exact ⟨rfl, rfl⟩

theorem act_ends {operation : Disk → Disk} (closed : disk.opened = false)
    (sound : (operation disk).Sound) (after : (operation disk).opened = false) :
    Ends (act operation) disk () (operation disk).toCore :=
  (act_last closed sound after).mono fun _ _ ⟨isOk, isLast⟩ =>
    ⟨isOk, congrArg Disk.toCore isLast, isLast ▸ sound.tidy⟩

theorem call_rule {program : Program α} {next : α → Program β} {result : α} {core : Core}
    (ends : Ends program disk result core)
    (rest : ∀ last : Disk, last.toCore = core → last.Tidy →
      Safe Surroundings Keeps Q (next result).run last) :
    Safe Surroundings Keeps Q (program >>= next).run disk := by
  refine Safe.bind (Safe.mono ends fun outcome last holds => ?_)
  obtain ⟨rfl, isCore, tidy⟩ := holds
  exact rest last isCore tidy

theorem return_rule {result : α} {next : α → Program β}
    (rest : Safe Surroundings Keeps Q (next result).run disk) :
    Safe Surroundings Keeps Q (pure result >>= next).run disk := rest

theorem ensure_rule {condition : Bool} {message : String} {next : Unit → Program β}
    (holds : condition = true) (rest : Safe Surroundings Keeps Q (next ()).run disk) :
    Safe Surroundings Keeps Q (ensure condition message >>= next).run disk :=
  .ensure_bind holds rest

end Rules

section Retirement

variable {disk : Disk} {target : ℕ}

theorem tidy_setRetired {directory : Option Directory} (tidy : disk.Tidy)
    (expected : ∀ found, directory = some found → found.unexpected = false) :
    (disk.setRetired target directory).Tidy := by
  intro other found used isThere
  by_cases same : other = target
  · subst same
    exact expected found (by simpa [Disk.setRetired] using isThere)
  · exact tidy other found used (by simpa [Disk.setRetired, same] using isThere)

theorem setRetired_sound {directory : Option Directory} (sound : disk.Sound)
    (expected : ∀ found, directory = some found → found.unexpected = false) :
    (disk.setRetired target directory).Sound :=
  ⟨tidy_setRetired sound.tidy expected, sound.core⟩

theorem cleanup_empties (closed : disk.opened = false) (sound : disk.Sound)
    (expected : ∀ directory, disk.retired target = some directory →
      directory.unexpected = false) :
    Safe Surroundings Keeps
      (fun outcome last => outcome = .ok () ∧ last.toCore = disk.toCore ∧ last.Tidy ∧
        last.retired target = none)
      (cleanupRetiredMigrationBackup target).run disk := by
  unfold cleanupRetiredMigrationBackup
  refine look_rule closed ?_
  cases isThere : disk.retired target with
  | none =>
    intro next steps
    rw [(quiet closed).eq steps]
    exact ⟨rfl, rfl, sound.tidy, isThere⟩
  | some directory =>
    simp only [expected directory isThere, Bool.false_eq_true, if_false]
    have first : (disk.setRetired target (some { ready := directory.ready })).Sound :=
      setRetired_sound sound fun found isFound => by cases isFound; rfl
    have second : ((disk.setRetired target (some { ready := directory.ready })).setRetired target
        (some {})).Sound := setRetired_sound first fun found isFound => by cases isFound; rfl
    refine act_rule closed first (act_rule closed second ?_)
    have last := @setRetired_sound _ target none second fun found isFound => by cases isFound
    refine Safe.mono (act_last closed last closed) fun outcome after ends => ?_
    obtain ⟨isOk, rfl⟩ := ends
    exact ⟨isOk, rfl, last.tidy, by simp [Disk.setRetired]⟩

theorem cleanup_ends (closed : disk.opened = false) (sound : disk.Sound) :
    Ends (cleanupRetiredMigrationBackup target) disk () disk.toCore := by
  by_cases expected : ∀ directory, disk.retired target = some directory →
      directory.unexpected = false
  · exact (cleanup_empties closed sound expected).mono fun _ _ ends =>
      ⟨ends.1, ends.2.1, ends.2.2.1⟩
  · simp only [not_forall, Bool.not_eq_false] at expected
    obtain ⟨directory, isThere, unexpected⟩ := expected
    unfold cleanupRetiredMigrationBackup
    refine look_rule closed ?_
    rw [isThere]
    simp only [unexpected, if_true]
    exact pure_ends closed sound.tidy

-- The live file and the backups but that of `target`.
def Core.without (core : Core) (target : ℕ) : Core :=
  { core with backup := Function.update core.backup target none }

@[simp]
theorem Core.without_self (core : Core) (target : ℕ) : (core.without target).backup target = none := by
  simp [Core.without]

theorem clearArtifacts_ends (closed : disk.opened = false) (sound : disk.Sound)
    (unmarked : disk.marker = none) : Ends (clearArtifacts target) disk () disk.toCore := by
  have same : { disk.toCore with marker := none } = disk.toCore := by rw [← unmarked]
  unfold clearArtifacts
  refine call_rule (cleanup_ends closed sound) fun last isCore tidy => ?_
  obtain ⟨core, retired, backupStaging, restoreStaging⟩ := last
  subst isCore
  have sound' : Disk.Sound ⟨disk.toCore, retired, none, none⟩ := ⟨tidy, sound.core⟩
  refine act_rule closed ⟨tidy, sound.core⟩ (act_rule closed sound' ?_)
  have kept : Disk.Sound ⟨{ disk.toCore with marker := none }, retired, none, none⟩ := by
    rw [same]
    exact sound'
  have ends := @act_last ⟨disk.toCore, retired, none, none⟩
    (fun disk => { disk with marker := none }) closed kept closed
  refine ends.mono fun outcome last ends => ?_
  obtain ⟨isOk, rfl⟩ := ends
  exact ⟨isOk, same, tidy⟩

theorem validated_of_bundle {core : Core} {main : Db} (source : Source target main)
    (here : core.backup target = some (bundle main)) : core.validated target = some main := by
  have below : main.version < databaseVersion := Nat.lt_of_lt_of_le source.below source.target_le
  simp [Core.validated, here, bundle, Directory.validated, source.healthy, source.positive, below]

theorem retire_ends {main : Db} (closed : disk.opened = false) (sound : disk.Sound)
    (source : Source target main) (here : disk.backup target = some (bundle main))
    (unmarked : disk.marker = none) (after : (disk.without target).Sound) :
    Ends (retireMigrationBackup target) disk () (disk.without target) := by
  unfold retireMigrationBackup
  refine look_rule closed ?_
  rw [if_pos (by simp [here])]
  refine look_rule closed (ensure_rule (by simp [validated_of_bundle source here]) ?_)
  have expected := fun directory => sound.tidy target directory (.inr (by simp [here]))
  refine Safe.bind ((cleanup_empties closed sound expected).mono fun outcome last ends => ?_)
  obtain ⟨rfl, isCore, tidy, empty⟩ := ends
  obtain ⟨core, retired, backupStaging, restoreStaging⟩ := last
  subst isCore
  refine look_rule closed ?_
  have empty : retired target = none := empty
  rw [if_neg (by simp [empty])]
  have moved : Disk.Sound
      { toCore := disk.without target
        retired := Function.update retired target (disk.backup target)
        backupStaging := backupStaging
        restoreStaging := restoreStaging } := by
    refine ⟨fun other directory used isThere => ?_, after⟩
    change Function.update retired target _ other = _ at isThere
    by_cases same : other = target
    · subst same
      rw [Function.update_self, here] at isThere
      cases isThere
      rfl
    · rw [Function.update_of_ne same] at isThere
      exact tidy other directory (by simpa [Core.without, same] using used) isThere
  refine act_rule closed moved ?_
  exact clearArtifacts_ends closed moved unmarked

end Retirement

section Restoration

variable {disk : Disk} {target : ℕ} {main : Db}

structure Core.Migrating (core : Core) (target : ℕ) (main : Db) : Prop where
  pending : core.Pending target main
  owner : core.instance_ = none ∨ core.instance_ = some (some target)
  closed : core.opened = false
  fresh : core.upgraded = false

theorem Core.Migrating.sound {core : Core} (migrating : core.Migrating target main) :
    core.Sound := by
  refine ⟨.inr (.inr (.inl ⟨target, main, migrating.pending⟩)), fun backup isInstance => ?_,
    fun opened => ?_, fun upgraded => ?_⟩
  · rcases migrating.owner with isNone | isTarget
    · rw [isNone] at isInstance
      cases isInstance
    · rw [isTarget] at isInstance
      cases isInstance
      exact .inl ⟨main, migrating.pending⟩
  · rw [migrating.closed] at opened
    cases opened
  · rw [migrating.fresh] at upgraded
    cases upgraded

theorem Core.Migrating.marked {core : Core} (migrating : core.Migrating target main)
    (live : Option Db) (sidecars : Bool) :
    Core.Migrating { core with live, sidecars, marker := some main } target main :=
  { migrating with
    pending := { migrating.pending with
      marker := .inr rfl
      live := fun unmarked => by cases unmarked } }

def Core.restored (core : Core) (main : Db) : Core :=
  { core with live := some main, sidecars := false, marker := none }

theorem Core.Migrating.restored {core : Core} (migrating : core.Migrating target main) :
    (core.restored main).Migrating target main :=
  { migrating with
    pending := { migrating.pending with
      marker := .inl rfl
      live := fun _ => ⟨rfl, fun live isLive _ => by cases isLive; exact .inl rfl⟩ } }

theorem Core.Pending.liveGood_restored {core : Core} (pending : core.Pending target main) :
    (core.restored main).LiveGood main :=
  ⟨rfl, pending.good, rfl, rfl⟩

theorem inspect_healthy {db : Db} (healthy : db.healthy = true) :
    inspect (some db) = some db.version := by
  rw [inspect, Option.filter_some_pos healthy, Option.map_some]

theorem restore_ends (migrating : disk.Migrating target main) (tidy : disk.Tidy) :
    Ends (restoreMigrationBackup target) disk () (disk.restored main) := by
  have pending := migrating.pending
  have closed := migrating.closed
  unfold restoreMigrationBackup
  refine look_rule closed ?_
  rw [validated_of_bundle pending.source pending.here]
  have inspected := inspect_healthy pending.source.healthy
  refine act_rule closed ⟨tidy, migrating.sound⟩ (act_rule closed ⟨tidy, migrating.sound⟩
    (act_rule closed ⟨tidy, migrating.sound⟩ ?_))
  refine look_rule closed (ensure_rule (by simp) (look_rule closed
    (ensure_rule (by simp [inspected]) ?_)))
  refine act_rule closed ⟨tidy, (migrating.marked _ _).sound⟩ ?_
  refine act_rule closed ⟨tidy, (migrating.marked _ _).sound⟩ ?_
  refine act_rule closed ⟨tidy, (migrating.marked _ _).sound⟩ ?_
  refine look_rule closed (ensure_rule (by simp) (look_rule closed
    (ensure_rule (by simp [Core.inspectLive, inspected]) ?_)))
  exact act_ends closed ⟨tidy, migrating.restored.sound⟩ closed

end Restoration

section Creation

variable {disk : Disk} {live : Db}

structure Core.Unowned (core : Core) : Prop where
  noInstance : core.instance_ = none
  closed : core.opened = false
  fresh : core.upgraded = false

theorem Core.Unowned.sound {core : Core} (unowned : core.Unowned) (situation : core.Situation) :
    core.Sound := by
  refine ⟨situation, fun backup isInstance => ?_, fun opened => ?_, fun upgraded => ?_⟩
  · rw [unowned.noInstance] at isInstance
    cases isInstance
  · rw [unowned.closed] at opened
    cases opened
  · rw [unowned.fresh] at upgraded
    cases upgraded

def Core.published (core : Core) (live : Db) : Core :=
  { core with backup := Function.update core.backup databaseVersion (some (bundle live)) }

theorem source_of_live (positive : 1 ≤ live.version) (below : live.version < databaseVersion)
    (healthy : live.healthy = true) : Source databaseVersion live :=
  ⟨le_rfl, by decide, positive, below, healthy⟩

theorem Core.Unowned.published {core : Core} (unowned : core.Unowned) :
    (core.published live).Unowned :=
  ⟨unowned.noInstance, unowned.closed, unowned.fresh⟩

theorem tidy_published (tidy : disk.Tidy) :
    Disk.Tidy { toCore := disk.published live, retired := disk.retired } := by
  intro target directory used isThere
  refine tidy target directory ?_ isThere
  by_cases current : target = databaseVersion
  · exact .inl current
  · exact used.imp id fun isSome => by simpa [Core.published, current] using isSome

theorem create_ends (unowned : disk.Unowned) (sound : disk.Sound) (isLive : disk.LiveGood live)
    (positive : 1 ≤ live.version) (below : live.version < databaseVersion)
    (free : disk.backup databaseVersion = none) (after : (disk.published live).Situation) :
    Ends (createMigrationBackup databaseVersion live.version) disk databaseVersion
      (disk.published live) := by
  have closed := unowned.closed
  have healthy := isLive.good.1
  unfold createMigrationBackup
  refine act_rule closed ⟨sound.tidy, sound.core⟩ (act_rule closed ⟨sound.tidy, sound.core⟩ ?_)
  refine Safe.tryCatch ?_
  unfold publishBackup
  refine look_rule closed ?_
  simp only [isLive.here]
  refine act_rule closed ⟨sound.tidy, sound.core⟩ (act_rule closed ⟨sound.tidy, sound.core⟩ ?_)
  refine look_rule closed (ensure_rule (by simp [inspect_healthy healthy]) ?_)
  refine act_rule closed ⟨sound.tidy, sound.core⟩ (look_rule closed ?_)
  rw [if_neg (by simp [free])]
  have moved : Disk.Sound { toCore := disk.published live, retired := disk.retired } :=
    ⟨tidy_published sound.tidy, unowned.published.sound after⟩
  have validated : (disk.published live).validated databaseVersion = some live :=
    validated_of_bundle (source_of_live positive below healthy) (by simp [Core.published])
  unfold publishBackup.moveStaging
  refine act_rule closed ⟨moved.tidy, moved.core⟩ (look_rule closed (ensure_rule ?_ ?_))
  · exact Option.isSome_iff_exists.mpr ⟨live, validated⟩
  · refine Safe.mono (pure_ends closed moved.tidy) fun outcome last ends => ?_
    obtain ⟨rfl, isCore, tidy⟩ := ends
    intro next steps
    have closed' : last.opened = false := by rw [isCore]; exact closed
    rw [(quiet closed').eq steps]
    exact ⟨rfl, isCore, tidy⟩

end Creation

end DashcamStats.Migration
