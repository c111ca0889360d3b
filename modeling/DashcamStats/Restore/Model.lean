import Mathlib.Data.Nat.Notation
import Mathlib.Logic.Function.Basic
import Mathlib.Logic.Relation

namespace DashcamStats.Restore

section Database

/-- The pages of a database file -/
abbrev Image := ℕ → ℕ

/-- A committed frame of a write-ahead log: a page and what it holds -/
abbrev Frame := ℕ × ℕ

def replay (wal : List Frame) (image : Image) : Image :=
  wal.foldl (fun image frame => Function.update image frame.1 frame.2) image

def Partly (wal : List Frame) (image image' : Image) : Prop :=
  ∀ page, image' page = image page ∨ image' page = replay wal image page

end Database

section State

variable (pages : List UInt8 → Image)

/-- `restore.pending.db` with the number of its upload, the `pre-restore` snapshots, and what the
database is to open with: what was committed to it or restored into it last. -/
structure Disk where
  database : Option Image
  wal : List Frame
  shm : Bool
  pending : Option (ℕ × List UInt8)
  snapshots : List Image
  truth : Option Image

def Disk.opens (d : Disk) : Option Image := d.database.map (replay d.wal)

structure RestoreUpload where
  id : ℕ
  bytes : List UInt8
  validated : Bool
  abandoned : Bool

/-- Where `apply_pending_restore` is, or that the application runs -/
inductive Phase where
  | begin
  | validated
  | opened
  | checkpointed
  | copied (image : Image)
  | published
  | saved
  | walGone
  | cleared
  | replaced (id : ℕ)
  | running

structure Replacement where
  old : Option Image
  kept : List (List Image)

/-- `earlier` has the disk as it was since the last synchronisation; `passed` has the uploads that
validated, and `completed` the restores that were. -/
structure World where
  disk : Disk
  earlier : List Disk
  phase : Phase
  uploads : List RestoreUpload
  nextId : ℕ
  passed : List (ℕ × List UInt8)
  completed : List ℕ
  replacements : List Replacement

def World.disks (w : World) : List Disk := w.disk :: w.earlier

def World.alter (w : World) (disk : Disk) (phase : Phase) : World :=
  { w with disk := disk, earlier := w.disk :: w.earlier, phase := phase }

def World.sync (w : World) (phase : Phase) : World := { w with earlier := [], phase := phase }

def Disk.commit (frames : List Frame) (d : Disk) : Disk :=
  if d.database.isNone then d
  else { d with wal := d.wal ++ frames, truth := d.truth.map (replay frames) }

def Disk.create (image : Image) (d : Disk) : Disk :=
  { d with database := some image, wal := [], truth := some image }

end State

section Steps

variable (pages : List UInt8 → Image) (valid : List UInt8 → Bool)

/-- The steps of `apply_pending_restore` -/
inductive Applies : World → World → Prop
  | noPending {w : World} (at_ : w.phase = .begin) (none : w.disk.pending = none) :
      Applies w { w with phase := .running }
  | validates {w : World} {pending : ℕ × List UInt8} (at_ : w.phase = .begin)
      (isThere : w.disk.pending = some pending) (isValid : valid pending.2 = true) :
      Applies w { w with phase := .validated }
  | absent {w : World} (at_ : w.phase = .validated) (none : w.disk.database = none) :
      Applies w { w with phase := .cleared }
  | opens {w : World} {image : Image} (at_ : w.phase = .validated)
      (present : w.disk.database = some image) : Applies w { w with phase := .opened }
  | checkpoints {w : World} {image image' : Image} (at_ : w.phase = .opened)
      (present : w.disk.database = some image) (partly : Partly w.disk.wal image image') :
      Applies w (w.alter { w.disk with database := some image' } .opened)
  | truncates {w : World} {image : Image} (at_ : w.phase = .opened)
      (present : w.disk.database = some image) (whole : replay w.disk.wal image = image) :
      Applies w (w.alter { w.disk with wal := [] } .checkpointed)
  | backsUp {w : World} {image : Image} (at_ : w.phase = .checkpointed)
      (opens : w.disk.opens = some image) : Applies w { w with phase := .copied image }
  | publishes {w : World} {image : Image} (at_ : w.phase = .copied image) :
      Applies w (w.alter { w.disk with snapshots := image :: w.disk.snapshots } .published)
  | syncs {w : World} (at_ : w.phase = .published) : Applies w (w.sync .saved)
  | unlinksWal {w : World} (at_ : w.phase = .saved) :
      Applies w (w.alter { w.disk with wal := [] } .walGone)
  | unlinksShm {w : World} (at_ : w.phase = .walGone) :
      Applies w (w.alter { w.disk with shm := false } .cleared)
  | replaces {w : World} {pending : ℕ × List UInt8} (at_ : w.phase = .cleared)
      (isThere : w.disk.pending = some pending) :
      Applies w { w.alter
        { w.disk with
          database := some (pages pending.2)
          pending := none
          truth := some (pages pending.2) }
        (.replaced pending.1) with
        replacements := ⟨w.disk.opens, w.disks.map Disk.snapshots⟩ :: w.replacements }
  | completes {w : World} {id : ℕ} (at_ : w.phase = .replaced id) :
      Applies w { w.sync .running with completed := id :: w.completed }

inductive Uploads : World → World → Prop
  | begins {w : World} :
      Uploads w { w with
        uploads := ⟨w.nextId, [], false, false⟩ :: w.uploads
        nextId := w.nextId + 1 }
  | writes {w : World} {before after : List RestoreUpload} {upload : RestoreUpload}
      (mem : w.uploads = before ++ upload :: after) (isOpen : upload.validated = false)
      (data : List UInt8) :
      Uploads w { w with
        uploads := before ++ { upload with bytes := upload.bytes ++ data } :: after }
  | validates {w : World} {before after : List RestoreUpload} {upload : RestoreUpload}
      (mem : w.uploads = before ++ upload :: after) (isValid : valid upload.bytes = true) :
      Uploads w { w with
        uploads := before ++ { upload with validated := true } :: after
        passed := (upload.id, upload.bytes) :: w.passed }
  | abandons {w : World} {before after : List RestoreUpload} {upload : RestoreUpload}
      (mem : w.uploads = before ++ upload :: after) :
      Uploads w { w with uploads := before ++ { upload with abandoned := true } :: after }
  | publishes {w : World} {before after : List RestoreUpload} {upload : RestoreUpload}
      (mem : w.uploads = before ++ upload :: after) (passed : upload.validated = true)
      (wanted : upload.abandoned = false) :
      Uploads w { w.alter { w.disk with pending := some (upload.id, upload.bytes) } .running with
        uploads := before ++ after }
  | syncs {w : World} : Uploads w (w.sync .running)
  | closes {w : World} {before after : List RestoreUpload} {upload : RestoreUpload}
      (mem : w.uploads = before ++ upload :: after) :
      Uploads w { w with uploads := before ++ after }

inductive Works : World → World → Prop
  | commits {w : World} (frames : List Frame) :
      Works w { w with
        disk := w.disk.commit frames
        earlier := w.earlier.map (Disk.commit frames) }
  | creates {w : World} (image : Image) (none : w.disk.database = none) :
      Works w { w with
        disk := w.disk.create image
        earlier := w.earlier.map (Disk.create image) }
  | checkpoints {w : World} {image image' : Image} (present : w.disk.database = some image)
      (partly : Partly w.disk.wal image image') :
      Works w (w.alter { w.disk with database := some image' } .running)
  | truncates {w : World} {image : Image} (present : w.disk.database = some image)
      (whole : replay w.disk.wal image = image) :
      Works w (w.alter { w.disk with wal := [] } .running)

inductive Step : World → World → Prop
  | applies {w w' : World} : Applies pages valid w w' → Step w w'
  | uploads {w w' : World} (up : w.phase = .running) : Uploads valid w w' → Step w w'
  | works {w w' : World} (up : w.phase = .running) : Works w w' → Step w w'
  -- The process dies or a start fails, and the next start begins.
  | dies {w : World} {disk : Disk} (left : disk ∈ w.disks) :
      Step w { w with disk := disk, earlier := [], phase := .begin, uploads := [] }

structure Start (w : World) : Prop where
  earlier : w.earlier = []
  phase : w.phase = .begin
  uploads : w.uploads = []
  truth : w.disk.truth = w.disk.opens
  pending : ∀ pending ∈ w.disk.pending, pending ∈ w.passed ∧ pending.1 < w.nextId
  passed : ∀ upload ∈ w.passed, valid upload.2 = true
  completed : w.completed = []
  replacements : w.replacements = []

end Steps

end DashcamStats.Restore
