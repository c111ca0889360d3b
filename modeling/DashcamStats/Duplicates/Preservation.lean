import Mathlib.Data.Int.Order.Basic
import Mathlib.Logic.Function.Basic

namespace DashcamStats.Duplicates

abbrev Bytes := List UInt8

structure RemoteFile where
  name : String
  size : ℤ
deriving DecidableEq, Repr

/-- `hashlib.sha256` of contents, and of a name with a checksum. -/
structure Hashes where
  sha256 : Bytes → String
  key : String → String → String

structure Preservation where
  snapshotIdentity : ℕ
  -- The stem of the snapshot and of its receipt.
  key : String
  name : String
  size : ℤ
  sha256 : String
deriving DecidableEq, Repr

structure Snapshot where
  identity : ℕ
  bytes : Bytes
  -- The contents have reached the disk.
  flushed : Bool
  -- The directory entry has reached the disk.
  synced : Bool
deriving DecidableEq, Repr

inductive ReceiptPhase where
  | prepared | deleteRequested | retained
deriving DecidableEq, Repr

structure Receipt where
  phase : ReceiptPhase
  sha256 : String
  synced : Bool
deriving DecidableEq, Repr

structure Area where
  snapshots : String → Option Snapshot
  receipts : String → Option Receipt
  nextIdentity : ℕ

/-- A file of `mkstemp` that a recording is copied into. -/
structure Temporary where
  identity : ℕ
  bytes : Bytes
  flushed : Bool
deriving DecidableEq, Repr

inductive Failure where
  | refused (reason : String)
  | timeout
  | other
deriving DecidableEq, Repr

def Failure.reason : Failure → String
  | .refused reason => reason
  | .timeout => "operation_timeout"
  | .other => "verification_unavailable"

inductive Result where
  | copy (copy : Preservation)
  | matches_ (same : Bool)
  | done
  | raised (failure : Failure)
deriving DecidableEq, Repr

/-- The next operation of `_write_receipt`. -/
inductive Writing where
  | checking | writing | replacing | syncing
deriving DecidableEq, Repr

/-- The next operation of `_discard_preservation`. -/
inductive Discarding where
  | checking | stating | unlinking | unlinkingReceipt | syncing
deriving DecidableEq, Repr

inductive Work where
  -- `_prepare_preservation` up to the temporary file.
  | opening (item : RemoteFile)
  | copying (item : RemoteFile) (temporary : Temporary)
  | flushing (item : RemoteFile) (temporary : Temporary)
  | comparing (item : RemoteFile) (temporary : Temporary)
  | claiming (item : RemoteFile) (temporary : Temporary)
  | linking (copy : Preservation) (temporary : Temporary)
  | dropping (copy : Preservation)
  | settling (copy : Preservation)
  | stating (copy : Preservation)
  -- The published snapshot is taken back where it is still the copied file.
  | withdrawing (copy : Preservation) (own : Bool) (failure : Failure)
  -- `_arm_deletion` up to its receipt.
  | verifying (copy : Preservation)
  | writing (copy : Preservation) (phase : ReceiptPhase) (step : Writing)
  -- Where it follows a failure, that is raised at the end.
  | discarding (copy : Preservation) (step : Discarding) (failure : Option Failure)
  -- `_original_still_matches` with what it has read.
  | hashing (copy : Preservation) (bytes : Bytes)
deriving DecidableEq, Repr

inductive Answer where
  | ok
  | chunk (bytes : Bytes)
  -- A check of the operation does not hold.
  | differs
  | error
deriving DecidableEq, Repr

namespace Area

def putSnapshot (area : Area) (key : String) (snapshot : Option Snapshot) : Area :=
  { area with snapshots := Function.update area.snapshots key snapshot }

def putReceipt (area : Area) (key : String) (receipt : Option Receipt) : Area :=
  { area with receipts := Function.update area.receipts key receipt }

def holds (area : Area) (copy : Preservation) : Bool :=
  (area.snapshots copy.key).any fun snapshot => snapshot.identity = copy.snapshotIdentity

-- `_sync_directory` for the entry of a snapshot.
def syncSnapshot (area : Area) (key : String) : Area :=
  area.putSnapshot key ((area.snapshots key).map fun snapshot => { snapshot with synced := true })

def syncReceipt (area : Area) (key : String) : Area :=
  area.putReceipt key ((area.receipts key).map fun receipt => { receipt with synced := true })

end Area

-- `_write_receipt` has failed; a new copy is discarded then.
def unwritten (copy : Preservation) (phase : ReceiptPhase) (failure : Failure) : Work ⊕ Result :=
  match phase with
  | .prepared => .inl (.discarding copy .checking (some failure))
  | _ => .inr (.raised failure)

def written (copy : Preservation) (phase : ReceiptPhase) : Result :=
  match phase with
  | .prepared => .copy copy
  | _ => .done

def discarded (failure : Option Failure) : Result :=
  match failure with
  | some failure => .raised failure
  | none => .done

def undiscarded (failure : Option Failure) : Result :=
  .raised (failure.getD .other)

def refused (reason : String) : Work ⊕ Result := .inr (.raised (.refused reason))

section Operate

variable (hashes : Hashes)

def copyOf (item : RemoteFile) (temporary : Temporary) : Preservation where
  snapshotIdentity := temporary.identity
  key := hashes.key item.name (hashes.sha256 temporary.bytes)
  name := item.name
  size := item.size
  sha256 := hashes.sha256 temporary.bytes

-- `_file_still_matches` for the snapshot.
def snapshotMatches (area : Area) (copy : Preservation) : Bool :=
  (area.snapshots copy.key).any fun snapshot =>
    snapshot.identity = copy.snapshotIdentity && (snapshot.bytes.length : ℤ) = copy.size &&
      hashes.sha256 snapshot.bytes = copy.sha256

def operate (area : Area) : Work → Answer → Option (Area × (Work ⊕ Result))
  | .opening item, .ok =>
    some ({ area with nextIdentity := area.nextIdentity + 1 },
      .inl (.copying item ⟨area.nextIdentity, [], false⟩))
  | .opening _, .differs => some (area, refused "local_not_regular_or_size_changed")
  | .opening _, .error => some (area, .inr (.raised .other))
  | .copying item temporary, .chunk bytes =>
    if bytes = [] then some (area, .inl (.flushing item temporary))
    else if item.size < temporary.bytes.length + bytes.length then
      some (area, refused "local_size_changed")
    else some (area, .inl (.copying item { temporary with bytes := temporary.bytes ++ bytes }))
  | .copying _ _, .error => some (area, .inr (.raised .other))
  | .flushing item temporary, .ok =>
    some (area, .inl (.comparing item { temporary with flushed := true }))
  | .flushing _ _, .error => some (area, .inr (.raised .other))
  | .comparing item temporary, .ok =>
    if (temporary.bytes.length : ℤ) = item.size then some (area, .inl (.claiming item temporary))
    else some (area, refused "local_identity_changed")
  | .comparing _ _, .differs => some (area, refused "local_identity_changed")
  | .comparing _ _, .error => some (area, .inr (.raised .other))
  | .claiming item temporary, .ok =>
    let copy := copyOf hashes item temporary
    if (area.snapshots copy.key).isSome ∨ (area.receipts copy.key).isSome then
      some (area, refused "preservation_pending")
    else some (area, .inl (.linking copy temporary))
  | .claiming _ _, .error => some (area, .inr (.raised .other))
  | .linking copy temporary, .ok =>
    if (area.snapshots copy.key).isSome then some (area, .inr (.raised .other))
    else
      some (area.putSnapshot copy.key
        (some ⟨temporary.identity, temporary.bytes, temporary.flushed, false⟩),
        .inl (.dropping copy))
  | .linking _ _, .error => some (area, .inr (.raised .other))
  | .dropping copy, .ok => some (area, .inl (.settling copy))
  | .dropping copy, .error => some (area, .inl (.withdrawing copy false .other))
  | .settling copy, .ok => some (area.syncSnapshot copy.key, .inl (.stating copy))
  | .settling copy, .error => some (area, .inl (.withdrawing copy false .other))
  | .stating copy, .ok => some (area, .inl (.writing copy .prepared .checking))
  | .stating copy, .error => some (area, .inl (.withdrawing copy false .other))
  | .withdrawing copy false failure, .ok =>
    some (area,
      if area.holds copy then .inl (.withdrawing copy true failure) else .inr (.raised failure))
  | .withdrawing copy true failure, .ok =>
    some (area.putSnapshot copy.key none, .inr (.raised failure))
  | .withdrawing _ _ failure, .error => some (area, .inr (.raised failure))
  | .verifying copy, .ok =>
    some (area,
      if snapshotMatches hashes area copy then .inl (.writing copy .deleteRequested .checking)
      else refused "preservation_changed")
  | .verifying _, .differs => some (area, refused "preservation_changed")
  | .verifying _, .error => some (area, .inr (.raised .other))
  | .writing copy phase .checking, .ok => some (area, .inl (.writing copy phase .writing))
  | .writing copy phase .checking, .differs =>
    some (area, unwritten copy phase (.refused "preservation_directory_changed"))
  | .writing copy phase .writing, .ok => some (area, .inl (.writing copy phase .replacing))
  | .writing copy phase .replacing, .ok =>
    some (area.putReceipt copy.key (some ⟨phase, copy.sha256, false⟩),
      .inl (.writing copy phase .syncing))
  | .writing copy phase .syncing, .ok =>
    some (area.syncReceipt copy.key, .inr (written copy phase))
  | .writing copy phase _, .error => some (area, unwritten copy phase .other)
  | .discarding copy .checking failure, .ok =>
    some (area, .inl (.discarding copy .stating failure))
  | .discarding _ .checking _, .differs => some (area, refused "preservation_directory_changed")
  | .discarding copy .stating failure, .ok =>
    some (area,
      if (area.snapshots copy.key).isNone then .inl (.discarding copy .unlinkingReceipt failure)
      else if area.holds copy then .inl (.discarding copy .unlinking failure)
      else .inr (discarded failure))
  | .discarding copy .unlinking failure, .ok =>
    some (area.putSnapshot copy.key none, .inl (.discarding copy .unlinkingReceipt failure))
  | .discarding copy .unlinkingReceipt failure, .ok =>
    some (area.putReceipt copy.key none, .inl (.discarding copy .syncing failure))
  | .discarding _ .syncing failure, .ok => some (area, .inr (discarded failure))
  | .discarding _ _ failure, .error => some (area, .inr (undiscarded failure))
  | .hashing copy bytes, .chunk more =>
    if more = [] then
      some (area, .inr (.matches_
        ((bytes.length : ℤ) = copy.size && hashes.sha256 bytes = copy.sha256)))
    else if copy.size < bytes.length + more.length then some (area, .inr (.matches_ false))
    else some (area, .inl (.hashing copy (bytes ++ more)))
  | .hashing _ _, .differs => some (area, .inr (.matches_ false))
  | .hashing _ _, .error => some (area, .inr (.matches_ false))
  | _, _ => none

end Operate

end DashcamStats.Duplicates
