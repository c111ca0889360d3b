import Mathlib.Algebra.Ring.Nat
import Mathlib.Logic.Function.Basic
import DashcamStats.Library.Throwing

namespace DashcamStats.Migration

def databaseVersion : ℕ := 5

/-- A database file; `healthy` is what `quick_check` says of it. -/
structure Db where
  version : ℕ
  rows : List ℕ
  healthy : Bool := true
deriving DecidableEq, Repr

def Db.torn (db : Db) : Db := { db with healthy := false }

/-- A backup directory: `ready` is the database that `READY.json` names by size and hash, and
`unexpected` whether there are other entries. -/
structure Directory where
  main : Option Db := none
  ready : Option Db := none
  unexpected : Bool := false
deriving DecidableEq, Repr

/-- The live file and the backups, each under the version of its migration, with the instance of
the process that runs: `instance_` is its `migrationBackup`, `opened` whether its database is open.
`rows` lists what was ever committed, and `upgraded` tells whether a caller was given the upgraded
database. -/
structure Core where
  live : Option Db
  sidecars : Bool := false
  backup : ℕ → Option Directory
  marker : Option Db := none
  instance_ : Option (Option ℕ) := none
  opened : Bool := false
  rows : List ℕ
  upgraded : Bool := false

structure Disk extends Core where
  retired : ℕ → Option Directory
  backupStaging : Option Directory := none
  restoreStaging : Option Db := none

abbrev Program (α : Type) : Type := Throwing Disk α

open Throwing (look act ensure)

section Inspection

def inspect (db : Option Db) : Option ℕ := (db.filter (·.healthy)).map (·.version)

def Core.inspectLive (core : Core) : Option ℕ := if core.sidecars then none else inspect core.live

-- `validateMigrationBackup`
def Directory.validated (directory : Directory) : Option Db :=
  if directory.unexpected then none
  else directory.main.filter fun main =>
    directory.ready = some main && main.healthy && 1 ≤ main.version &&
      main.version < databaseVersion

def Core.validated (core : Core) (target : ℕ) : Option Db :=
  (core.backup target).bind Directory.validated

end Inspection

section Setters

variable (disk : Disk) (target : ℕ) (directory : Option Directory)

def Disk.setBackup : Disk := { disk with backup := Function.update disk.backup target directory }

def Disk.setRetired : Disk := { disk with retired := Function.update disk.retired target directory }

end Setters

section Retirement

def cleanupRetiredMigrationBackup (target : ℕ) : Program Unit := do
  match ← look (·.retired target) with
  | none => pure ()
  | some directory =>
    if directory.unexpected then pure ()
    else
      act fun disk => disk.setRetired target (some { directory with main := none })
      act fun disk => disk.setRetired target (some {})
      act fun disk => disk.setRetired target none

def cleanupRetiredMigrationBackups : List ℕ → Program Unit
  | [] => pure ()
  | target :: rest => do
    cleanupRetiredMigrationBackup target
    cleanupRetiredMigrationBackups rest

def targets : List ℕ := [2, 3, 4, 5]

def clearArtifacts (target : ℕ) : Program Unit := do
  cleanupRetiredMigrationBackup target
  act fun disk => { disk with backupStaging := none }
  act fun disk => { disk with restoreStaging := none }
  act fun disk => { disk with marker := none }

def retireMigrationBackup (target : ℕ) : Program Unit := do
  if ← look fun disk => (disk.backup target).isSome then
    ensure (← look fun disk => (disk.validated target).isSome)
      "refusing to retire an invalid OBD migration backup"
    cleanupRetiredMigrationBackup target
    if ← look fun disk => (disk.retired target).isSome then pure ()
    else
      act fun disk => (disk.setRetired target (disk.backup target)).setBackup target none
      clearArtifacts target
  else clearArtifacts target

end Retirement

section Restoration

def restoreMigrationBackup (target : ℕ) : Program Unit := do
  match ← look (·.validated target) with
  | none => throw "OBD migration backup is missing or invalid"
  | some main =>
    act fun disk => { disk with restoreStaging := none }
    act fun disk => { disk with restoreStaging := some main.torn }
    act fun disk => { disk with restoreStaging := some main }
    ensure (← look fun disk => decide (disk.restoreStaging = some main))
      "staged OBD migration restore does not match its backup"
    ensure (← look fun disk => decide (inspect disk.restoreStaging = some main.version))
      "staged OBD migration restore failed validation"
    act fun disk => { disk with marker := some main }
    act fun disk =>
      { disk with live := disk.restoreStaging, restoreStaging := none, sidecars := true }
    act fun disk => { disk with sidecars := false }
    ensure (← look fun disk => decide (disk.live = some main))
      "restored OBD database does not match its validated backup"
    ensure (← look fun disk => decide (disk.inspectLive = some main.version))
      "restored OBD database failed its integrity check"
    act fun disk => { disk with marker := none }

end Restoration

section Creation

-- The `try` of `createMigrationBackup`
def publishBackup (target sourceVersion : ℕ) : Program ℕ := do
  match ← look (·.live) with
  | none => throw "OBD migration copy made no progress"
  | some live =>
    act fun disk => { disk with backupStaging := some { main := some live.torn } }
    act fun disk => { disk with backupStaging := some { main := some live } }
    ensure (← look fun disk =>
        decide (inspect (disk.backupStaging.bind (·.main)) = some sourceVersion))
      "staged OBD migration backup failed its integrity check"
    act fun disk => { disk with backupStaging := some { main := some live, ready := some live } }
    if ← look fun disk => (disk.backup target).isSome then
      act fun disk => disk.setBackup target none
      moveStaging target
    else moveStaging target
where
  moveStaging (target : ℕ) : Program ℕ := do
    act fun disk => { disk.setBackup target disk.backupStaging with backupStaging := none }
    ensure (← look fun disk => (disk.validated target).isSome)
      "published OBD migration backup failed validation"
    return target

def createMigrationBackup (target sourceVersion : ℕ) : Program ℕ := do
  act fun disk => { disk with backupStaging := none }
  act fun disk => { disk with backupStaging := some {} }
  tryCatch (publishBackup target sourceVersion) fun _ => do
    act fun disk => { disk with backupStaging := none }
    throw "could not create OBD database migration backup"

end Creation

section Preparation

-- `checkpointAndInspect`; the live file counts with its log.
def checkpointAndInspect : Program ℕ := do
  match ← look (·.inspectLive) with
  | none => throw "source OBD database failed quick_check"
  | some version => return version

def retireValidated : List ℕ → Program Unit
  | [] => pure ()
  | target :: rest => do
    match ← look (·.validated target) with
    | none => retireValidated rest
    | some main =>
      if main.version < target then
        retireMigrationBackup target
        retireValidated rest
      else retireValidated rest

def retainedBackups : List ℕ → Program (List (ℕ × Db))
  | [] => return []
  | target :: rest => do
    if ← look fun disk => (disk.backup target).isSome then
      match ← look (·.validated target) with
      | none => throw "retained OBD migration backup is invalid"
      | some main =>
        ensure (main.version < target) "OBD migration backup has an invalid target version"
        let others ← retainedBackups rest
        return (target, main) :: others
    else retainedBackups rest

-- `singleOrNull`
def single? {α : Type} : List α → Option α
  | [value] => some value
  | _ => none

def resolveHandoff (retained : List (ℕ × Db)) (marker : Option Db) (live : Option ℕ) :
    Program (List (ℕ × Db)) := do
  match live with
  | none => return retained
  | some version =>
    if retained.length = 2 && marker = none then
      match single? (retained.filter fun (target, main) =>
          target = databaseVersion && main.version = version),
        single? (retained.filter fun (target, _) => target < databaseVersion && target ≤ version) with
      | some current, some older =>
        let checkpointed ← checkpointAndInspect
        if checkpointed = version && (← look (·.live)) = some current.2 then
          retireMigrationBackup older.1
          return [current]
        else return retained
      | _, _ => return retained
    else return retained

def settle (selected : Option (ℕ × Db)) (backup : ℕ) (restored : Bool) (existing : Option Db)
    (live : Option ℕ) : Program (Option ℕ) := do
  if live = some databaseVersion then
    retireMigrationBackup backup
    return none
  else
    match live with
    | none => return none
    | some version =>
      if !(1 ≤ version && version < databaseVersion) then return none
      else
        match existing with
        | some main =>
          if selected.any fun (target, _) => target < databaseVersion && target ≤ version then
            let checkpointed ← checkpointAndInspect
            ensure (checkpointed = version) "Check failed."
            let created ← createMigrationBackup databaseVersion checkpointed
            retireMigrationBackup backup
            return some created
          else
            ensure (main.version = version)
              "existing OBD migration backup is for a different database version"
            if restored then return some backup
            else
              restoreMigrationBackup backup
              return some backup
        | none =>
          let checkpointed ← checkpointAndInspect
          ensure (checkpointed = version)
            "OBD database version changed while preparing its migration backup"
          let created ← createMigrationBackup backup checkpointed
          return some created

def resolveRestore (selected : Option (ℕ × Db)) (marker : Option Db) : Program (Option ℕ) := do
  let backup := (selected.map (·.1)).getD databaseVersion
  match marker with
  | some pending =>
    match selected with
    | none => throw "OBD migration restore is pending but its validated backup is missing"
    | some (_, main) =>
      ensure (pending = main) "OBD migration restore marker does not match its backup"
      restoreMigrationBackup backup
      recheck selected backup true
  | none =>
    act fun disk => { disk with restoreStaging := none }
    recheck selected backup false
where
  recheck (selected : Option (ℕ × Db)) (backup : ℕ) (restored : Bool) :
      Program (Option ℕ) := do
    let live ← look (·.inspectLive)
    let existing ← look (·.validated backup)
    if live = none && existing.isSome then
      restoreMigrationBackup backup
      let live ← look (·.inspectLive)
      settle selected backup true existing live
    else settle selected backup restored existing live

def prepareMigrationBackup : Program (Option ℕ) := do
  let marker ← look (·.marker)
  let live ← look (·.inspectLive)
  if marker = none && live = some databaseVersion then
    retireValidated targets
    cleanupRetiredMigrationBackups targets
    act fun disk => { disk with restoreStaging := none }
    return none
  else
    let retained ← retainedBackups targets
    let retained ← resolveHandoff retained marker live
    ensure (retained.length ≤ 1) "multiple retained OBD migration backups require recovery"
    resolveRestore retained.head? marker

end Preparation

section Opening

/-- What comes of `open()`: a failure that leaves the file as it was, damages it or comes after
the upgrade; or a database, which the upgrade may have damaged. -/
inductive Opening where
  | fails | failsDamaged | failsUpgraded | opens | opensDamaged
deriving DecidableEq, Repr

-- The file after `open()`. Only an upgrade can damage it.
def Opening.leaves (opening : Opening) (db : Db) : Db :=
  if db.version < databaseVersion then
    match opening with
    | .fails => db
    | .failsDamaged => db.torn
    | .failsUpgraded | .opens => { db with version := databaseVersion }
    | .opensDamaged => { db with version := databaseVersion, healthy := false }
  else db

def Opening.returns (opening : Opening) : Bool := opening = .opens || opening = .opensDamaged

def Disk.afterOpen (disk : Disk) (opening : Opening) : Disk :=
  { disk with live := match disk.live with
    | some db => some (opening.leaves db)
    | none => if opening.returns then some ⟨databaseVersion, [], true⟩ else none }

def Disk.hand (disk : Disk) : Disk := { disk with opened := true, upgraded := true }

-- `openWithMigrationRecovery`; what a restore throws is suppressed.
def openWithMigrationRecovery (backup : Option ℕ) (opening : Opening) : Program Unit := do
  act fun disk => disk.afterOpen opening
  match backup with
  | none => if opening.returns then act Disk.hand else throw "open failed"
  | some target =>
    tryCatch (do
      ensure opening.returns "open failed"
      ensure (← look fun disk => decide (disk.inspectLive = some databaseVersion))
        "upgraded OBD database failed its integrity check"
      retireMigrationBackup target
      cleanupRetiredMigrationBackups targets
      act Disk.hand) fun message => do
      act fun disk => { disk with opened := false }
      tryCatch (restoreMigrationBackup target) fun _ => pure ()
      throw message

-- `ObdDatabase(...)` of a process that has none
def construct : Program Unit := do
  if ← look (·.instance_.isSome) then pure ()
  else
    let backup ← prepareMigrationBackup
    act fun disk => { disk with instance_ := some backup }

-- `getWritableDatabase` and `getReadableDatabase`
def getDatabase (opening : Opening) : Program Unit := do
  match ← look (·.instance_) with
  | none => throw "no instance"
  | some backup => openWithMigrationRecovery backup opening

end Opening

section Service

inductive Surroundings : Disk → Disk → Prop
  | commits (disk : Disk) (live : Db) (row : ℕ) : disk.opened = true → disk.live = some live →
      Surroundings disk
        { disk with live := some { live with rows := row :: live.rows }, rows := row :: disk.rows }

def Disk.lost (disk : Disk) : Disk := { disk with instance_ := none, opened := false }

def programs (program : Prog Disk Unit) : Prop :=
  program = (do let _ ← construct.run) ∨
    ∃ opening, program = (do let _ ← (getDatabase opening).run)

def Service : Process Disk → Process Disk → Prop :=
  Process.Step Surroundings Disk.lost programs

end Service

end DashcamStats.Migration
