import Mathlib.Data.List.AList
import Mathlib.Data.Rat.Defs

namespace DashcamStats.Footage

universe u

structure RemoteFile where
  name : String
  size : ℕ
  mtime : ℤ
deriving DecidableEq, Repr

inductive Node (Byte : Type u) where
  | file (bytes : List Byte)
  | directory
deriving DecidableEq, Repr

/-- The entries of a directory. -/
abbrev Directory (Byte : Type u) := AList fun _ : String => Node Byte

variable {Byte : Type u}

-- `is_file` and `stat().st_size`
def fileSize (directory : Directory Byte) (name : String) : Option ℕ :=
  match directory.lookup name with
  | some (.file bytes) => some bytes.length
  | _ => none

structure DeltaPlan where
  files : List RemoteFile
  backlogFiles : ℕ
  backlogBytes : ℕ
  activeSkipped : ℕ
  duplicateCandidates : List RemoteFile
deriving DecidableEq, Repr

section Delta

/-- The settings of one `delta`. -/
structure DeltaSettings where
  skipActiveS : ℤ
  camera : String
  alreadySeen : String → Bool
  newestFirst : Bool
  -- The unit's clock.
  now : ℚ

variable (settings : DeltaSettings) (footage : Directory Byte)

def DeltaSettings.wants (item : RemoteFile) : Bool :=
  settings.camera = "both" ||
    ("_" ++ settings.camera ++ ".ts").toList.isSuffixOf item.name.toList

def DeltaSettings.active (item : RemoteFile) : Bool :=
  decide (settings.now - item.mtime < settings.skipActiveS)

-- One round of `delta`'s loop.
def deltaItem (plan : DeltaPlan) (item : RemoteFile) : DeltaPlan :=
  if settings.alreadySeen item.name then plan
  else if settings.active item then { plan with activeSkipped := plan.activeSkipped + 1 }
  else if fileSize footage item.name = some item.size then
    if settings.wants item then
      { plan with duplicateCandidates := plan.duplicateCandidates ++ [item] }
    else plan
  else
    let plan := { plan with
      backlogFiles := plan.backlogFiles + 1
      backlogBytes := plan.backlogBytes + item.size }
    if settings.wants item then { plan with files := plan.files ++ [item] } else plan

def delta (remote : List RemoteFile) : DeltaPlan :=
  let plan := remote.foldl (deltaItem settings footage) ⟨[], 0, 0, 0, []⟩
  { plan with
    files := plan.files.mergeSort fun a b =>
      if settings.newestFirst then b.name ≤ a.name else a.name ≤ b.name }

end Delta

section Commit

variable [DecidableEq Byte]

/-- The directories of a `commit` under way. -/
structure Commit (Byte : Type u) where
  staging : Directory Byte
  footage : Directory Byte
  -- What `.conflicts` preserves.
  conflicts : List (String × List Byte)
  committed : List String
deriving DecidableEq

def Commit.discard (c : Commit Byte) (name : String) : Commit Byte :=
  { c with staging := c.staging.erase name }

-- `replace`, once the bytes are flushed.
def Commit.publish (c : Commit Byte) (name : String) (bytes : List Byte) : Commit Byte :=
  { c with
    staging := c.staging.erase name
    footage := c.footage.insert name (.file bytes)
    committed := c.committed ++ [name] }

def Commit.preserve (c : Commit Byte) (name : String) (bytes : List Byte) : Commit Byte :=
  match c.staging.lookup ".conflicts" with
  | some (.file _) => c
  | _ =>
    { c with
      staging := (c.staging.insert ".conflicts" .directory).erase name
      conflicts := c.conflicts ++ [(name, bytes)] }

-- One round of `commit`'s loop, without I/O errors.
def commitPath (expected : String → Option ℕ) (c : Commit Byte) (name : String) : Commit Byte :=
  match expected name, c.staging.lookup name with
  | some wanted, some (.file staged) =>
    if staged.length ≠ wanted then c.discard name
    else
      match c.footage.lookup name with
      | none => c.publish name staged
      -- a file does not replace a directory
      | some .directory => c
      | some (.file existing) =>
        if existing.length = wanted then
          if staged = existing then
            { c.discard name with committed := c.committed ++ [name] }
          else c.preserve name staged
        else if wanted < existing.length then c.discard name
        else c.publish name staged
  | _, _ => c

-- `commit`, where a directory may not be there.
def commit (staging footage : Option (Directory Byte)) (expected : String → Option ℕ) :
    Option (Commit Byte) :=
  match staging, footage with
  | some staging, some footage =>
    some ((staging.keys.mergeSort (· ≤ ·)).foldl (commitPath expected) ⟨staging, footage, [], []⟩)
  | _, _ => none

end Commit

end DashcamStats.Footage
