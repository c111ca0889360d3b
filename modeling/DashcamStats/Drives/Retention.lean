import Mathlib.Data.String.Basic
import DashcamStats.Drives.Bundle
import DashcamStats.Library.Interference

namespace DashcamStats.Drives

def retainRecentExportedDrives : ℕ := 16

def retentionCandidateBatch : ℕ := 16

def retentionDeleteBatch : ℕ := 4

-- The rows of a page of `reconcileMissingExports`
def recoveryPage : ℕ := 64

section Queries

structure ExportedDriveRetentionCandidate where
  driveId : String
  finishedAt : Instant
  bundleSha256 : String
deriving DecidableEq, Repr

structure VerifiedExportedDrive where
  driveId : String
  bundleSha256 : String
deriving DecidableEq, Repr

def Drive.candidate? (drive : Drive) : Option ExportedDriveRetentionCandidate :=
  if drive.status.terminal ∧ drive.exportStatus = .exported then
    match drive.finishTime, drive.bundleSha256 with
    | some finish, some sha256 => some ⟨drive.driveId, finish, sha256⟩
    | _, _ => none
  else none

-- `SELECT COUNT(*)` of the exported drives
def eligibleCount (db : Database) : ℕ := (db.drives.rows.filterMap Drive.candidate?).length

variable (julianday : Instant → ℤ)

-- `ORDER BY julianday(finish_time_utc), drive_id`
def ExportedDriveRetentionCandidate.le (a b : ExportedDriveRetentionCandidate) : Bool :=
  julianday a.finishedAt < julianday b.finishedAt ∨
    julianday a.finishedAt = julianday b.finishedAt ∧ a.driveId ≤ b.driveId

-- The page clause of `exportedRecoveryCandidates`
def ExportedDriveRetentionCandidate.isAfter (cursor : Option (Instant × String))
    (candidate : ExportedDriveRetentionCandidate) : Bool :=
  cursor.all fun (finishedAt, driveId) =>
    julianday finishedAt < julianday candidate.finishedAt ∨
      julianday candidate.finishedAt = julianday finishedAt ∧ driveId < candidate.driveId

-- `isAfter` with no cursor takes every row.
def exportedRecoveryCandidates (db : Database) (maximumCandidates : ℕ)
    (cursor : Option (Instant × String)) : List ExportedDriveRetentionCandidate :=
  ((((db.drives.rows.filterMap Drive.candidate?).filter (·.isAfter julianday cursor)).mergeSort
    (ExportedDriveRetentionCandidate.le julianday)).take maximumCandidates).filter
    fun candidate => sha256Pattern candidate.bundleSha256

-- The second query of `exportedRetentionCandidates`
def oldestExported (db : Database) (limit : ℕ) : List ExportedDriveRetentionCandidate :=
  (((db.drives.rows.filterMap Drive.candidate?).mergeSort
    (ExportedDriveRetentionCandidate.le julianday)).take limit).filter
    fun candidate => sha256Pattern candidate.bundleSha256

end Queries

section Pruning

-- The row of `stillVerified`
def Drive.stillVerified (drive : Drive) (bundleSha256 : String) : Bool :=
  drive.exportedAs bundleSha256 && drive.finishTime.isSome

-- `DELETE` of the samples, then of the row
def Database.delete (db : Database) (driveId bundleSha256 : String) : Database where
  drives := db.drives.filter fun drive =>
    !(drive.driveId = driveId && drive.exportedAs bundleSha256)
  samples := db.samples.filter fun sample => sample.driveId ≠ driveId

-- The loop of the transaction, which ends where no more than `retainAtLeast` drives are left.
def pruneEach (retainAtLeast : ℕ) :
    Database → List VerifiedExportedDrive → Database × List VerifiedExportedDrive
  | db, [] => (db, [])
  | db, candidate :: rest =>
    if eligibleCount db ≤ retainAtLeast then (db, [])
    else if (db.drives.find? candidate.driveId).any (·.stillVerified candidate.bundleSha256) then
      let pruned := pruneEach retainAtLeast
        (db.delete candidate.driveId candidate.bundleSha256) rest
      (pruned.1, candidate :: pruned.2)
    else pruneEach retainAtLeast db rest

def pruneVerifiedExportedDrives (db : Database) (verified : List VerifiedExportedDrive)
    (retainAtLeast maximumDeletes : ℕ) : Database × List VerifiedExportedDrive :=
  pruneEach retainAtLeast db (verified.take maximumDeletes)

end Pruning

section Files

/-- The text of a SHA-256. -/
abbrev Digest := { text : String // sha256Pattern text = true }

/-- What stands at the path of a bundle; `content` is there where its members can be read. -/
structure Archive where
  regular : Bool := true
  content : Option Bundle
  digest : Digest

inductive ReceiptValue where
  | text (value : String)
  | number (value : String)
  | other
deriving DecidableEq, Repr

/-- What stands at the path of a receipt; `keys` counts the keys in its text. -/
structure Receipt where
  regular : Bool := true
  size : ℕ
  keys : ℕ
  body : List (String × ReceiptValue)
deriving DecidableEq, Repr

def Receipt.value? (receipt : Receipt) (key : String) : Option ReceiptValue :=
  receipt.body.lookup key

def receiptKeys : List String := ["schema_version", "drive_id", "bundle_sha256"]

-- `validateExactServerVerificationReceipt`
def Receipt.isExact (receipt : Receipt) (driveId bundleSha256 : String) : Bool :=
  isSafeDriveId driveId && receipt.regular && 1 ≤ receipt.size && receipt.size ≤ 512 &&
    receipt.keys = 3 &&
    receipt.body.all (·.1 ∈ receiptKeys) && receiptKeys.all (· ∈ receipt.body.map (·.1)) &&
    receipt.value? "schema_version" = some (.number "1") &&
    receipt.value? "drive_id" = some (.text driveId) &&
    receipt.value? "bundle_sha256" = some (.text bundleSha256)

/-- The unit with its bundles and receipts, and the bundles the server has registered. `pruned`
lists the drives whose rows were deleted, each with the hash its row had. -/
structure World where
  db : Database
  partials : String → Option Archive
  ready : String → Option Archive
  receipts : String → Option Receipt
  registered : List VerifiedExportedDrive
  pruned : List VerifiedExportedDrive

def World.isExactServerVerificationReceipt (w : World) (driveId bundleSha256 : String) : Bool :=
  (w.receipts driveId).any (·.isExact driveId bundleSha256)

def World.hasBundle (w : World) (driveId : String) : Bool := (w.ready driveId).isSome

def World.setReady (w : World) (driveId : String) (archive : Option Archive) : World :=
  { w with ready := Function.update w.ready driveId archive }

def World.setPartial (w : World) (driveId : String) (archive : Option Archive) : World :=
  { w with partials := Function.update w.partials driveId archive }

def World.setReceipt (w : World) (driveId : String) (receipt : Option Receipt) : World :=
  { w with receipts := Function.update w.receipts driveId receipt }

section Setters

variable (w : World) (driveId : String) {other : String}

@[simp] theorem World.ready_setReady (archive : Option Archive) :
    (w.setReady driveId archive).ready driveId = archive := by
  simp [World.setReady]

theorem World.ready_setReady_of_ne (archive : Option Archive) (apart : other ≠ driveId) :
    (w.setReady driveId archive).ready other = w.ready other := by
  simp [World.setReady, apart]

@[simp] theorem World.receipts_setReceipt (receipt : Option Receipt) :
    (w.setReceipt driveId receipt).receipts driveId = receipt := by
  simp [World.setReceipt]

theorem World.receipts_setReceipt_of_ne (receipt : Option Receipt) (apart : other ≠ driveId) :
    (w.setReceipt driveId receipt).receipts other = w.receipts other := by
  simp [World.setReceipt, apart]

end Setters

end Files

section Export

variable (whitespace : Char → Bool)

def missing : String := "No such file or directory"

def validateFile (file : World → Option Archive) (driveId : String) :
    Prog World (Except String Unit) :=
  .read fun w => match file w with
    | none => .error missing
    | some archive => match archive.content with
      | none => .error checkFailed
      | some bundle => validate whitespace bundle driveId

def hashFile (file : World → Option Archive) : Prog World (Except String String) :=
  .read fun w => match file w with
    | none => .error missing
    | some archive => .ok archive.digest.1

def recordExport (driveId digest : String) : Prog World (Except String Unit) :=
  .transact fun w => match recordVerifiedExport w.db driveId digest with
    | .error message => (w, .error message)
    | .ok db => ({ w with db := db }, .ok ())

-- The end of both ways through `export`
def recordReady (driveId : String) : Prog World (Except String String) := do
  match ← hashFile (·.ready driveId) with
  | .error message => return .error message
  | .ok digest =>
    match ← recordExport driveId digest with
    | .error message => return .error message
    | .ok () => return .ok digest

-- `ATOMIC_MOVE` of the partial archive
def publish (driveId : String) : Prog World (Except String Unit) :=
  .transact fun w => match w.partials driveId with
    | none => (w, .error "could not atomically publish OBD bundle")
    | some archive => ((w.setReady driveId (some archive)).setPartial driveId none, .ok ())

-- `export`; the archive it writes has `digest`.
def exportBundle (driveId : String) (now : Instant) (digest : Digest) :
    Prog World (Except String String) := do
  if !isSafeDriveId driveId then
    return .error "drive ID does not match the v1 filename contract"
  else if ← .read (·.hasBundle driveId) then
    match ← validateFile whitespace (·.ready driveId) driveId with
    | .error message => return .error message
    | .ok () => recordReady driveId
  else
    let drives ← .read (·.db.drives)
    let samples ← .read (·.db.samples)
    match exportDrive whitespace ⟨drives, samples⟩ driveId now with
    | .error message => return .error message
    | .ok bundle =>
      Prog.transact fun w => (w.setPartial driveId none, ())
      Prog.transact fun w =>
        (w.setPartial driveId (some { content := some bundle, digest := digest }), ())
      match ← validateFile whitespace (·.partials driveId) driveId with
      | .error message => return .error message
      | .ok () =>
        match ← publish driveId with
        | .error message => return .error message
        | .ok () => recordReady driveId

end Export

section Retention

variable (whitespace : Char → Bool) (julianday : Instant → ℤ)

-- `hasProof`, of one candidate
def hasProof (candidate : ExportedDriveRetentionCandidate) : Prog World Bool := do
  if ← .read (·.hasBundle candidate.driveId) then
    if ← .read (fun w => (w.ready candidate.driveId).any (·.regular)) then
      match ← validateFile whitespace (·.ready candidate.driveId) candidate.driveId with
      | .error _ => return false
      | .ok () =>
        match ← hashFile (·.ready candidate.driveId) with
        | .error _ => return false
        | .ok digest => return digest = candidate.bundleSha256
    else return false
  else .read (·.isExactServerVerificationReceipt candidate.driveId candidate.bundleSha256)

def retentionReceiptsSafeToPrune (maximumDeletes : ℕ) :
    List ExportedDriveRetentionCandidate → List VerifiedExportedDrive →
      Prog World (List VerifiedExportedDrive)
  | [], verified => return verified
  | candidate :: rest, verified =>
    if maximumDeletes ≤ verified.length then return verified
    else do
      if ← hasProof whitespace candidate then
        retentionReceiptsSafeToPrune maximumDeletes rest
          (verified ++ [⟨candidate.driveId, candidate.bundleSha256⟩])
      else retentionReceiptsSafeToPrune maximumDeletes rest verified

def pruneVerified (verified : List VerifiedExportedDrive) :
    Prog World (List VerifiedExportedDrive) :=
  .transact fun w =>
    let pruned := pruneVerifiedExportedDrives w.db verified retainRecentExportedDrives
      retentionDeleteBatch
    ({ w with db := pruned.1, pruned := pruned.2 ++ w.pruned }, pruned.2)

def forgetReceipts : List VerifiedExportedDrive → Prog World Unit
  | [] => return
  | candidate :: rest => do
    if ← .read (·.isExactServerVerificationReceipt candidate.driveId candidate.bundleSha256) then
      Prog.transact fun w => (w.setReceipt candidate.driveId none, ())
      forgetReceipts rest
    else forgetReceipts rest

def enforceRetention : Prog World ℕ := do
  let eligible ← .read fun w => eligibleCount w.db
  let candidates ← .read fun w => oldestExported julianday w.db
    (min (eligible - retainRecentExportedDrives) retentionCandidateBatch)
  let verified ← retentionReceiptsSafeToPrune whitespace retentionDeleteBatch candidates []
  let deleted ← pruneVerified verified
  forgetReceipts deleted
  return deleted.length

def reconcilePage : List ExportedDriveRetentionCandidate → ℕ → Prog World ℕ
  | [], reset => return reset
  | candidate :: rest, reset => do
    if ← .read (·.hasBundle candidate.driveId) then reconcilePage rest reset
    else if ← .read (·.isExactServerVerificationReceipt candidate.driveId
        candidate.bundleSha256) then reconcilePage rest reset
    else if ← .transact fun w =>
        let reset := resetMissingExport w.db candidate.driveId candidate.bundleSha256
        ({ w with db := reset.1 }, reset.2) then reconcilePage rest (reset + 1)
    else reconcilePage rest reset

-- The loop runs through `pages` pages at most; a loop that is not done has no result.
def reconcilePages : ℕ → Option (Instant × String) → ℕ → Prog World (Option ℕ)
  | 0, _, _ => return none
  | pages + 1, cursor, reset => do
    let candidates ← .read fun w => exportedRecoveryCandidates julianday w.db recoveryPage cursor
    match candidates.getLast? with
    | none => return some reset
    | some last =>
      let reset ← reconcilePage candidates reset
      if candidates.length < recoveryPage then return some reset
      else reconcilePages pages (some (last.finishedAt, last.driveId)) reset

def reconcileMissingExports (pages : ℕ) : Prog World (Option ℕ) :=
  reconcilePages julianday pages none 0

end Retention

section Service

inductive Job where
  | export (driveId : String) (now : Instant) (digest : Digest)
  | enforceRetention
  | reconcileMissingExports (pages : ℕ)

def Job.program (whitespace : Char → Bool) (julianday : Instant → ℤ) : Job → Prog World Unit
  | .export driveId now digest => do
    let _ ← exportBundle whitespace driveId now digest
  | .enforceRetention => do
    let _ ← Drives.enforceRetention whitespace julianday
  | .reconcileMissingExports pages => do
    let _ ← Drives.reconcileMissingExports julianday pages

def Call.recording : Call → Bool
  | .recordVerifiedExport _ _ | .resetMissingExport _ _ => false
  | _ => true

def Receipt.Backed (receipt : Receipt) (registered : List VerifiedExportedDrive) : Prop :=
  ∀ driveId sha256, receipt.isExact driveId sha256 = true → ⟨driveId, sha256⟩ ∈ registered

/-- The steps of the server, and of the logger beside the service. A bundle is removed once its
hash is registered. -/
inductive Surroundings : World → World → Prop
  | registers (w : World) (bundle : VerifiedExportedDrive) :
      Surroundings w { w with registered := bundle :: w.registered }
  | acknowledges (w : World) (driveId : String) (receipt : Receipt) :
      receipt.Backed w.registered → Surroundings w (w.setReceipt driveId (some receipt))
  | removes (w : World) (driveId : String) (archive : Archive) :
      w.ready driveId = some archive → ⟨driveId, archive.digest.1⟩ ∈ w.registered →
        Surroundings w (w.setReady driveId none)
  | records (w : World) (call : Call) : call.recording = true →
      Surroundings w { w with db := w.db.call call }

def Service (whitespace : Char → Bool) (julianday : Instant → ℤ) :
    Process World → Process World → Prop :=
  Process.Step Surroundings id fun program =>
    ∃ job : Job, program = job.program whitespace julianday

structure World.Initial (w : World) : Prop where
  db : w.db = .empty
  pruned : w.pruned = []
  receipts : ∀ driveId receipt, w.receipts driveId = some receipt → receipt.Backed w.registered

end Service

end DashcamStats.Drives
