import DashcamStats.Bundle.Model
import DashcamStats.Library.Run

namespace DashcamStats.Bundle

structure Tables where
  bundles : Table OBDBundle OBDBundle.id
  drives : Table OBDDrive OBDDrive.id
  samples : List OBDSample
  diagnostics : List OBDDiagnostic

structure Schema (t : Tables) : Prop where
  filename : (t.bundles.rows.map (·.filename)).Nodup
  identity : (t.bundles.rows.map (·.identity)).Nodup
  bundleId : (t.drives.rows.map (·.bundleId)).Nodup
  driveId : (t.drives.rows.map (·.driveId)).Nodup
  sampleId : (t.samples.map (·.sampleId)).Nodup
  sequence : (t.samples.map fun s => (s.driveDbId, s.sequence)).Nodup
  event : (t.diagnostics.map fun d => (d.driveDbId, d.eventHash)).Nodup

theorem schema_iff (t : Tables) : Schema t ↔
    (t.bundles.rows.map (·.filename)).Nodup ∧ (t.bundles.rows.map (·.identity)).Nodup ∧
      (t.drives.rows.map (·.bundleId)).Nodup ∧ (t.drives.rows.map (·.driveId)).Nodup ∧
      (t.samples.map (·.sampleId)).Nodup ∧
      (t.samples.map fun s => (s.driveDbId, s.sequence)).Nodup ∧
      (t.diagnostics.map fun d => (d.driveDbId, d.eventHash)).Nodup :=
  ⟨fun ⟨a, b, c, d, e, f, g⟩ => ⟨a, b, c, d, e, f, g⟩, fun ⟨a, b, c, d, e, f, g⟩ =>
    ⟨a, b, c, d, e, f, g⟩⟩

instance (t : Tables) : Decidable (Schema t) := decidable_of_iff' _ (schema_iff t)

structure Database extends Tables where
  schema : Schema toTables

def Database.empty : Database where
  bundles := Table.empty
  drives := Table.empty
  samples := []
  diagnostics := []
  schema := ⟨by simp [Table.empty], by simp [Table.empty], by simp [Table.empty],
    by simp [Table.empty], by simp, by simp, by simp⟩

inductive StoreError where
  -- `BundleConflict`
  | conflict (message : String)
  -- `BundleError`
  | invalid (message : String)
  -- `IntegrityError`
  | integrity
  deriving DecidableEq

def flush (t : Tables) : Except StoreError Database :=
  if schema : Schema t then .ok ⟨t, schema⟩ else .error .integrity

/-- A bundle that `validate_bundle` returned. The SHA-256 names its bytes, `archive` what they
contain. -/
structure ValidatedBundle (archive : Digest → Archive) where
  filename : String
  bundleSha256 : Digest
  summary : Summary
  summarySource : SummarySource
  warnings : List String
  named : driveIdFromName filename = some (archive bundleSha256).manifest.driveId
  supported : (archive bundleSha256).manifest.schemaVersion = schemaVersion

namespace ValidatedBundle

variable {archive : Digest → Archive} (bundle : ValidatedBundle archive)

def manifest : Manifest := (archive bundle.bundleSha256).manifest

def sizeBytes : Nat := (archive bundle.bundleSha256).sizeBytes

def driveId : String := bundle.manifest.driveId

def samples : List Sample := (archive bundle.bundleSha256).samples

def events : List DiagnosticEvent := (archive bundle.bundleSha256).events

end ValidatedBundle

variable {archive : Digest → Archive}

def isIdentity (bundle : ValidatedBundle archive) (row : OBDBundle) : Bool :=
  row.driveId = bundle.driveId && row.bundleHash = bundle.bundleSha256 &&
    row.schemaVersion = bundle.manifest.schemaVersion && row.metadataTrusted

def repairable (row : OBDBundle) : Bool :=
  row.state = .quarantined ||
    (row.state = .failed &&
      (row.failureKind = some .integrity || row.failureKind = some .localPath ||
        row.failureKind = some .quarantineIo))

def repaired (bundle : ValidatedBundle archive) (now : Time) (row : OBDBundle) : OBDBundle :=
  { row with
    filename := bundle.filename
    sizeBytes := bundle.sizeBytes
    state := .stored
    verifiedAt := some now
    lastError := none
    failureKind := none
    updatedAt := now }

def trustedRow (bundle : ValidatedBundle archive) (now : Time) (id : Nat)
    (rejected : Option OBDBundle) : OBDBundle where
  id := id
  driveId := bundle.driveId
  bundleHash := bundle.bundleSha256
  schemaVersion := bundle.manifest.schemaVersion
  filename := bundle.filename
  sizeBytes := bundle.sizeBytes
  vehicleId := bundle.manifest.vehicleId
  adapterId := bundle.manifest.adapterId
  loggerId := bundle.manifest.loggerId
  loggerVersion := bundle.manifest.loggerVersion
  driveStartedAt := bundle.manifest.startTimeUtc
  driveFinishedAt := bundle.manifest.finishTimeUtc
  sampleCount := bundle.manifest.sampleCount
  diagnosticCount := bundle.manifest.diagnosticCount
  metadataTrusted := true
  state := .stored
  lastError := none
  failureKind := none
  copiedAt := (rejected.map (·.copiedAt)).getD (some now)
  verifiedAt := some now
  updatedAt := now
  validationWarnings := if bundle.warnings.isEmpty then none else some bundle.warnings

def lifecycleStatus (manifest : Manifest) : LifecycleStatus :=
  if manifest.cleanEnd then .complete
  else if manifest.stopReason = some "device_restart" || manifest.completionStatus = .recovered then
    .recovered
  else .interrupted

def driveRow (bundle : ValidatedBundle archive) (id bundleId : Nat) : OBDDrive where
  id := id
  bundleId := bundleId
  driveId := bundle.driveId
  startedAt := bundle.manifest.startTimeUtc
  manifest := bundle.manifest
  projection :=
    { finishedAt := bundle.manifest.finishTimeUtc
      lifecycleStatus := lifecycleStatus bundle.manifest
      interruptionReason :=
        if bundle.manifest.cleanEnd then none else bundle.manifest.stopReason
      finalizationObservedAt := some bundle.manifest.finishTimeUtc
      processingStatus := .pending
      summarySource := bundle.summarySource
      summary := bundle.summary }

/-- What `reconcile_drive_projection` computes for a drive. -/
abbrev Reconcile := OBDBundle → OBDDrive → List OBDSample → List OBDDiagnostic → Projection

namespace Database

variable (db : Database)

def samplesOf (drive : Nat) : List OBDSample := db.samples.filter (·.driveDbId = drive)

def diagnosticsOf (drive : Nat) : List OBDDiagnostic :=
  db.diagnostics.filter (·.driveDbId = drive)

def driveOf (bundleId : Nat) : Option OBDDrive :=
  db.drives.rows.find? (·.bundleId = bundleId)

def existing (bundle : ValidatedBundle archive) : Option OBDBundle :=
  db.bundles.rows.find? (isIdentity bundle)

def rejected (bundle : ValidatedBundle archive) : Option OBDBundle :=
  db.bundles.rows.find? fun row => row.filename = bundle.filename && !row.metadataTrusted

def conflicting (bundle : ValidatedBundle archive) : Option OBDBundle :=
  db.bundles.rows.find? fun row => row.driveId = bundle.driveId && row.metadataTrusted

def setProjection (drive : Nat) (projection : Projection) : Except StoreError Database :=
  flush { db with
    drives := db.drives.update (·.id = drive) (fun row => { row with projection := projection })
      fun _ => rfl }

-- `reconcile_drive_projection`: it writes the projection of the drive and nothing else.
def reconcile (compute : Reconcile) (row : OBDBundle) (drive : OBDDrive) :
    Except StoreError Database :=
  db.setProjection drive.id (compute row drive (db.samplesOf drive.id) (db.diagnosticsOf drive.id))

-- `reconcile_drive_projection` for the drive of a row, if it has one.
def reconcileOf (compute : Reconcile) (row : OBDBundle) : Except StoreError Database :=
  match db.driveOf row.id with
  | some drive => db.reconcile compute row drive
  | none => .ok db

def setBundle (id : Nat) (change : OBDBundle → OBDBundle)
    (keeps : ∀ row, (change row).id = row.id) : Except StoreError Database :=
  flush { db with bundles := db.bundles.update (·.id = id) change keeps }

def insertBundle (row : Nat → OBDBundle) (keyed : ∀ id, (row id).id = id) :
    Except StoreError Database :=
  flush { db with
    bundles := db.bundles.insert (row db.bundles.nextKey) fun _ member => by
      rw [keyed]
      exact (Table.key_lt_nextKey member).ne }

def storeRow (bundle : ValidatedBundle archive) (now : Time) :
    Except StoreError (Database × OBDBundle) :=
  match db.rejected bundle with
  | some row => do
    let db ← db.setBundle row.id (fun old => trustedRow bundle now old.id (some row)) fun _ => rfl
    pure (db, trustedRow bundle now row.id (some row))
  | none => do
    let next ← db.insertBundle (fun id => trustedRow bundle now id none) fun _ => rfl
    pure (next, trustedRow bundle now db.bundles.nextKey none)

def insertDrive (row : Nat → OBDDrive) (keyed : ∀ id, (row id).id = id) :
    Except StoreError Database :=
  flush { db with
    drives := db.drives.insert (row db.drives.nextKey) fun _ member => by
      rw [keyed]
      exact (Table.key_lt_nextKey member).ne }

def insertSamples (rows : List OBDSample) : Except StoreError Database :=
  flush { db with samples := db.samples ++ rows }

-- The insert batches of `_next_sample_rows`, of 500 rows at most.
def insertBatches (drive : Nat) : Nat → Database → List Sample → Except StoreError Database
  | 0, db, _ => .ok db
  | fuel + 1, db, samples =>
    match samples.take 500 with
    | [] => .ok db
    | batch => do
      let db ← db.insertSamples (batch.map (sampleRow drive))
      insertBatches drive fuel db (samples.drop 500)

def insertDiagnostics (rows : List OBDDiagnostic) : Except StoreError Database :=
  flush { db with diagnostics := db.diagnostics ++ rows }

def repair (bundle : ValidatedBundle archive) (now : Time) (row : OBDBundle) :
    Except StoreError Database :=
  if repairable row then db.setBundle row.id (repaired bundle now) fun _ => rfl else .ok db

def storeValidatedBundle (compute : Reconcile) (bundle : ValidatedBundle archive) (now : Time) :
    Except StoreError Database :=
  match db.existing bundle with
  | some row => do
    let db ← db.repair bundle now row
    db.reconcileOf compute (if repairable row then repaired bundle now row else row)
  | none =>
    match db.conflicting bundle with
    | some _ =>
      .error (.conflict
        ("drive " ++ bundle.driveId ++ " already exists with a different bundle SHA-256"))
    | none => do
      let (stored, row) ← db.storeRow bundle now
      let drive := driveRow bundle stored.drives.nextKey row.id
      let db ← stored.insertDrive (fun id => driveRow bundle id row.id) fun _ => rfl
      -- each batch takes at least one sample, so the samples bound the batches
      let db ← insertBatches drive.id bundle.samples.length db bundle.samples
      let db ← db.insertDiagnostics (bundle.events.map (diagnosticRow drive.id))
      db.reconcile compute row drive

structure Rejection where
  filename : String
  bundleHash : String
  sizeBytes : Int
  error : String
  quarantined : Bool
  observedAt : Option Time

def rejectionState (rejection : Rejection) (now : Time) (row : OBDBundle) : OBDBundle :=
  { row with
    state := if rejection.quarantined then .quarantined else .failed
    verifiedAt := none
    failureKind := some (if rejection.quarantined then .integrity else .quarantineIo)
    lastError := some (String.ofList (rejection.error.toList.take 2048))
    updatedAt := now }

def rejectedRow (rejection : Rejection) (driveId : String) (now : Time) (id : Nat) :
    OBDBundle where
  id := id
  driveId := driveId
  bundleHash := rejection.bundleHash
  schemaVersion := 0
  filename := rejection.filename
  sizeBytes := rejection.sizeBytes.toNat
  vehicleId := "unknown"
  adapterId := none
  loggerId := "unknown"
  loggerVersion := "unknown"
  driveStartedAt := rejection.observedAt.getD now
  driveFinishedAt := rejection.observedAt.getD now
  sampleCount := 0
  diagnosticCount := 0
  metadataTrusted := false
  state := .waitingForBackup
  lastError := none
  failureKind := none
  copiedAt := some now
  verifiedAt := none
  updatedAt := now
  validationWarnings := none

def storeRejectedBundle (rejection : Rejection) (now : Time) : Except StoreError Database :=
  match driveIdFromName rejection.filename with
  | none => .error (.invalid "rejected bundle filename is unsafe")
  | some driveId =>
    if !isSha256 rejection.bundleHash then
      .error (.invalid "rejected bundle hash is not lowercase SHA-256")
    else if rejection.sizeBytes < 0 then .error (.invalid "rejected bundle size is invalid")
    else
      match db.bundles.rows.find? (·.filename = rejection.filename) with
      | some row =>
        if row.metadataTrusted then .ok db
        else
          db.setBundle row.id
            (fun old => rejectionState rejection now
              { old with bundleHash := rejection.bundleHash, sizeBytes := rejection.sizeBytes.toNat })
            fun _ => rfl
      | none =>
        db.insertBundle
          (fun id => rejectionState rejection now (rejectedRow rejection driveId now id))
          fun _ => rfl

end Database

inductive Event (archive : Digest → Archive) where
  | validated (bundle : ValidatedBundle archive) (now : Time)
  | rejected (rejection : Database.Rejection) (now : Time)
  -- A call that fails midway, for whatever reason, and rolls back.
  | failed
  -- Another component sets the state of a row.
  | mark (id : Nat) (state : BundleState) (failureKind : Option FailureKind)

def committed (db : Database) (result : Except StoreError Database) : Database :=
  match result with
  | .ok next => next
  | .error _ => db

def step (compute : Reconcile) (db : Database) : Event archive → Database
  | .validated bundle now => committed db (db.storeValidatedBundle compute bundle now)
  | .rejected rejection now => committed db (db.storeRejectedBundle rejection now)
  | .failed => db
  | .mark id state failureKind =>
    committed db (db.setBundle id
      (fun row => { row with state := state, failureKind := failureKind }) fun _ => rfl)

def Stepped (compute : Reconcile) (db : Database) (e : Event archive) (next : Database) : Prop :=
  next = step compute db e

end DashcamStats.Bundle
