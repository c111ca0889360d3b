import DashcamStats.Bundle.Store

namespace DashcamStats.Bundle

variable {archive : Digest → Archive} {compute : Reconcile} {db next : Database}

theorem bind_ok {α β : Type} {x : Except StoreError α} {f : α → Except StoreError β} {b : β}
    (result : (x >>= f) = .ok b) : ∃ a, x = .ok a ∧ f a = .ok b := by
  cases x with
  | error e => cases result
  | ok a => exact ⟨a, rfl, result⟩

-- The call does not raise `BundleConflict`.
def NoConflict {α : Type} (x : Except StoreError α) : Prop := ∀ message, x ≠ .error (.conflict message)

theorem NoConflict.bind {α β : Type} {x : Except StoreError α} {f : α → Except StoreError β}
    (first : NoConflict x) (second : ∀ a, NoConflict (f a)) : NoConflict (x >>= f) := by
  cases x with
  | error e =>
    intro message raised
    exact first message (by simpa [Bind.bind, Except.bind] using raised)
  | ok a => exact second a

theorem noConflict_ok {α : Type} (a : α) : NoConflict (.ok a) := by
  intro message raised
  cases raised

theorem noConflict_flush (t : Tables) : NoConflict (flush t) := by
  intro message raised
  unfold flush at raised
  split at raised <;> cases raised

theorem flush_ok {t : Tables} (flushed : flush t = .ok next) : next.toTables = t := by
  unfold flush at flushed
  split at flushed <;> cases flushed
  rfl

theorem setBundle_ok {id : Nat} {change : OBDBundle → OBDBundle}
    {keeps : ∀ row, (change row).id = row.id} (set : db.setBundle id change keeps = .ok next) :
    next.toTables =
      { db.toTables with bundles := db.bundles.update (·.id = id) change keeps } :=
  flush_ok set

theorem insertBatches_ok {drive fuel : Nat} {samples : List Sample} (enough : samples.length ≤ fuel)
    (inserted : Database.insertBatches drive fuel db samples = .ok next) :
    next.toTables = { db.toTables with samples := db.samples ++ samples.map (sampleRow drive) } := by
  induction fuel generalizing db samples with
  | zero =>
    obtain rfl : samples = [] := List.eq_nil_of_length_eq_zero (by omega)
    cases inserted
    simp
  | succ fuel ih =>
    unfold Database.insertBatches at inserted
    split at inserted
    next empty =>
      obtain rfl : samples = [] := by simpa using empty
      cases inserted
      simp
    next batch nonempty =>
      obtain ⟨mid, batched, rest⟩ := bind_ok inserted
      have first : mid.toTables =
          { db.toTables with samples := db.samples ++ (samples.take 500).map (sampleRow drive) } :=
        flush_ok batched
      have positive : samples ≠ [] := by
        rintro rfl
        exact nonempty (by simp)
      have shorter : (samples.drop 500).length ≤ fuel := by
        have long := List.length_pos_of_ne_nil positive
        simp only [List.length_drop]
        omega
      rw [ih shorter rest, first]
      simp

structure Trusted (archive : Digest → Archive) (t : Tables) (row : OBDBundle) : Prop where
  version : row.schemaVersion = schemaVersion
  size : row.sizeBytes = (archive row.bundleHash).sizeBytes
  driveId : row.driveId = (archive row.bundleHash).manifest.driveId
  history : ∃ drive ∈ t.drives, drive.bundleId = row.id ∧
    t.samples.filter (·.driveDbId = drive.id) =
      (archive row.bundleHash).samples.map (sampleRow drive.id)

structure Inv (archive : Digest → Archive) (t : Tables) : Prop where
  named : ∀ row ∈ t.bundles, driveIdFromName row.filename = some row.driveId
  trusted : ∀ row ∈ t.bundles, row.metadataTrusted = true → Trusted archive t row
  drives : ∀ drive ∈ t.drives, ∃ row ∈ t.bundles, row.id = drive.bundleId ∧
    row.metadataTrusted = true
  samples : ∀ sample ∈ t.samples, ∃ drive ∈ t.drives, drive.id = sample.driveDbId

structure Keeps (t u : Tables) : Prop where
  bundles : ∀ row ∈ t.bundles, row.metadataTrusted = true → ∃ row' ∈ u.bundles,
    row'.id = row.id ∧ row'.metadataTrusted = true ∧ row'.bundleHash = row.bundleHash ∧
      row'.sizeBytes = row.sizeBytes ∧ row'.driveId = row.driveId
  drives : ∀ drive ∈ t.drives, ∃ drive' ∈ u.drives,
    drive'.id = drive.id ∧ drive'.bundleId = drive.bundleId
  samples : ∀ drive ∈ t.drives, u.samples.filter (·.driveDbId = drive.id) =
    t.samples.filter (·.driveDbId = drive.id)

theorem Keeps.refl (t : Tables) : Keeps t t where
  bundles row member trusted := ⟨row, member, rfl, trusted, rfl, rfl, rfl⟩
  drives drive member := ⟨drive, member, rfl, rfl⟩
  samples _ _ := rfl

theorem Keeps.trans {t u v : Tables} (first : Keeps t u) (second : Keeps u v) : Keeps t v where
  bundles row member trusted := by
    obtain ⟨mid, memberM, id, trustedM, hash, size, driveId⟩ := first.bundles row member trusted
    obtain ⟨last, memberL, idL, trustedL, hashL, sizeL, driveIdL⟩ :=
      second.bundles mid memberM trustedM
    exact ⟨last, memberL, idL.trans id, trustedL, hashL.trans hash, sizeL.trans size,
      driveIdL.trans driveId⟩
  drives drive member := by
    obtain ⟨mid, memberM, id, bundleId⟩ := first.drives drive member
    obtain ⟨last, memberL, idL, bundleIdL⟩ := second.drives mid memberM
    exact ⟨last, memberL, idL.trans id, bundleIdL.trans bundleId⟩
  samples drive member := by
    obtain ⟨mid, memberM, id, -⟩ := first.drives drive member
    rw [← first.samples drive member, ← id]
    exact second.samples mid memberM

section Statements

variable {t : Tables}

structure SameBundle (row row' : OBDBundle) : Prop where
  filename : row'.filename = row.filename
  driveId : row'.driveId = row.driveId
  trusted : row'.metadataTrusted = row.metadataTrusted
  kept : row.metadataTrusted = true → row'.bundleHash = row.bundleHash ∧
    row'.sizeBytes = row.sizeBytes ∧ row'.schemaVersion = row.schemaVersion

variable {p : OBDBundle → Bool} {change : OBDBundle → OBDBundle}
  {keeps : ∀ row, (change row).id = row.id}

theorem sameBundle_ite (same : ∀ row ∈ t.bundles, p row = true → SameBundle row (change row))
    {row : OBDBundle} (member : row ∈ t.bundles) :
    SameBundle row (if p row then change row else row) := by
  by_cases hit : p row
  · simpa [hit] using same row member hit
  · simpa [hit] using SameBundle.mk rfl rfl rfl fun _ => ⟨rfl, rfl, rfl⟩

theorem keeps_updateBundles
    (same : ∀ row ∈ t.bundles, p row = true → SameBundle row (change row)) :
    Keeps t { t with bundles := t.bundles.update p change keeps } where
  bundles row member trusted := by
    have kept := sameBundle_ite same member
    obtain ⟨hash, size, -⟩ := kept.kept trusted
    exact ⟨_, Table.mem_update_of_mem keeps member, Table.key_update keeps row,
      kept.trusted.trans trusted, hash, size, kept.driveId⟩
  drives drive member := ⟨drive, member, rfl, rfl⟩
  samples _ _ := rfl

theorem inv_updateBundles (inv : Inv archive t)
    (same : ∀ row ∈ t.bundles, p row = true → SameBundle row (change row)) :
    Inv archive { t with bundles := t.bundles.update p change keeps } where
  named row' member' := by
    obtain ⟨row, member, rfl⟩ := Table.of_mem_update keeps member'
    have kept := sameBundle_ite same member
    rw [kept.filename, kept.driveId]
    exact inv.named row member
  trusted row' member' trusted' := by
    obtain ⟨row, member, rfl⟩ := Table.of_mem_update keeps member'
    have kept := sameBundle_ite same member
    have trusted : row.metadataTrusted = true := kept.trusted.symm.trans trusted'
    obtain ⟨hash, size, version⟩ := kept.kept trusted
    have before := inv.trusted row member trusted
    obtain ⟨drive, memberD, bundleId, held⟩ := before.history
    exact {
      version := version.trans before.version
      size := by rw [hash, size, before.size]
      driveId := by rw [hash, kept.driveId, before.driveId]
      history := ⟨drive, memberD, bundleId.trans (Table.key_update keeps row).symm,
        by rw [hash]; exact held⟩ }
  drives drive member := by
    obtain ⟨row, memberR, id, trusted⟩ := inv.drives drive member
    have kept := sameBundle_ite same memberR
    exact ⟨_, Table.mem_update_of_mem keeps memberR, (Table.key_update keeps row).trans id,
      kept.trusted.trans trusted⟩
  samples := inv.samples

theorem keeps_insertBundle {row : OBDBundle} {fresh : ∀ old ∈ t.bundles, old.id ≠ row.id} :
    Keeps t { t with bundles := t.bundles.insert row fresh } where
  bundles old member trusted :=
    ⟨old, Table.mem_insert_of_mem fresh member, rfl, trusted, rfl, rfl, rfl⟩
  drives drive member := ⟨drive, member, rfl, rfl⟩
  samples _ _ := rfl

theorem inv_insertBundle {row : OBDBundle} {fresh : ∀ old ∈ t.bundles, old.id ≠ row.id}
    (inv : Inv archive t) (named : driveIdFromName row.filename = some row.driveId)
    (untrusted : row.metadataTrusted = false) :
    Inv archive { t with bundles := t.bundles.insert row fresh } where
  named old member := by
    cases Table.of_mem_insert fresh member with
    | inl there => exact inv.named old there
    | inr new => rw [new, named]
  trusted old member trusted := by
    cases Table.of_mem_insert fresh member with
    | inl there =>
      have before := inv.trusted old there trusted
      exact ⟨before.version, before.size, before.driveId, before.history⟩
    | inr new => simp [new, untrusted] at trusted
  drives drive member := by
    obtain ⟨old, there, id, trusted⟩ := inv.drives drive member
    exact ⟨old, Table.mem_insert_of_mem fresh there, id, trusted⟩
  samples := inv.samples

variable {q : OBDDrive → Bool} {project : OBDDrive → OBDDrive}
  {same : ∀ drive, (project drive).id = drive.id}

theorem bundleId_ite (owner : ∀ drive, (project drive).bundleId = drive.bundleId)
    (drive : OBDDrive) : (if q drive then project drive else drive).bundleId = drive.bundleId := by
  by_cases hit : q drive <;> simp [hit, owner]

theorem keeps_updateDrives (owner : ∀ drive, (project drive).bundleId = drive.bundleId) :
    Keeps t { t with drives := t.drives.update q project same } where
  bundles row member trusted := ⟨row, member, rfl, trusted, rfl, rfl, rfl⟩
  drives drive member := ⟨_, Table.mem_update_of_mem same member,
    Table.key_update same drive, bundleId_ite owner drive⟩
  samples _ _ := rfl

theorem inv_updateDrives (inv : Inv archive t)
    (owner : ∀ drive, (project drive).bundleId = drive.bundleId) :
    Inv archive { t with drives := t.drives.update q project same } where
  named := inv.named
  trusted row member trusted := by
    have before := inv.trusted row member trusted
    obtain ⟨drive, memberD, bundleId, held⟩ := before.history
    have key : (if q drive then project drive else drive).id = drive.id :=
      Table.key_update same drive
    exact ⟨before.version, before.size, before.driveId,
      ⟨_, Table.mem_update_of_mem same memberD, (bundleId_ite owner drive).trans bundleId,
        by rw [key]; exact held⟩⟩
  drives drive' member' := by
    obtain ⟨drive, member, rfl⟩ := Table.of_mem_update same member'
    obtain ⟨row, memberR, id, trusted⟩ := inv.drives drive member
    exact ⟨row, memberR, id.trans (bundleId_ite owner drive).symm, trusted⟩
  samples sample member := by
    obtain ⟨drive, memberD, id⟩ := inv.samples sample member
    exact ⟨_, Table.mem_update_of_mem same memberD, (Table.key_update same drive).trans id⟩

end Statements

structure Good (archive : Digest → Archive) (db next : Database) : Prop where
  inv : Inv archive next.toTables
  keeps : Keeps db.toTables next.toTables

theorem good_reconcile {row : OBDBundle} {drive : OBDDrive} (inv : Inv archive db.toTables)
    (reconciled : db.reconcile compute row drive = .ok next) : Good archive db next := by
  have tables := flush_ok reconciled
  constructor
  · rw [tables]
    exact inv_updateDrives inv fun _ => rfl
  · rw [tables]
    exact keeps_updateDrives fun _ => rfl

theorem good_reconcileOf {row : OBDBundle} (inv : Inv archive db.toTables)
    (reconciled : db.reconcileOf compute row = .ok next) : Good archive db next := by
  unfold Database.reconcileOf at reconciled
  split at reconciled
  next drive _ => exact good_reconcile inv reconciled
  next _ =>
    cases reconciled
    exact ⟨inv, Keeps.refl _⟩

theorem good_setBundle {id : Nat} {change : OBDBundle → OBDBundle}
    {keeps : ∀ row, (change row).id = row.id} (inv : Inv archive db.toTables)
    (same : ∀ row ∈ db.bundles, row.id = id → SameBundle row (change row))
    (set : db.setBundle id change keeps = .ok next) : Good archive db next := by
  have tables := setBundle_ok set
  have same' : ∀ row ∈ db.bundles, decide (row.id = id) = true → SameBundle row (change row) :=
    fun row member hit => same row member (by simpa using hit)
  constructor
  · rw [tables]
    exact inv_updateBundles inv same'
  · rw [tables]
    exact keeps_updateBundles same'

variable {bundle : ValidatedBundle archive} {now : Time}

/-- The rows after `storeRow`: one row is the bundle's, every trusted row is still there. -/
structure RowStored (bundle : ValidatedBundle archive) (now : Time) (db : Database)
    (row : OBDBundle) (next : Database) : Prop where
  rest : next.toTables = { db.toTables with bundles := next.bundles }
  columns : ∃ rejected, row = trustedRow bundle now row.id rejected
  stored : row ∈ next.bundles
  others : ∀ other ∈ next.bundles, other = row ∨ other ∈ db.bundles ∧ other.id ≠ row.id
  kept : ∀ other ∈ db.bundles, other.metadataTrusted = true → other ∈ next.bundles

theorem storeRow_ok {row : OBDBundle} (stored : db.storeRow bundle now = .ok (next, row)) :
    RowStored bundle now db row next := by
  unfold Database.storeRow at stored
  split at stored
  next old found =>
    obtain ⟨mid, set, result⟩ := bind_ok stored
    cases result
    have tables := setBundle_ok set
    have old_mem : old ∈ db.bundles := List.mem_of_find?_eq_some found
    have untrusted : old.metadataTrusted = false := by
      have holds := List.find?_some found
      simp only [Bool.and_eq_true, Bool.not_eq_true'] at holds
      exact holds.2
    have rows : next.bundles = db.bundles.update (·.id = old.id)
        (fun row => trustedRow bundle now row.id (some old)) fun _ => rfl :=
      congrArg Tables.bundles tables
    have key (row : OBDBundle) (member : row ∈ db.bundles) (hit : row.id = old.id) : row = old :=
      Table.eq_of_key member old_mem hit
    constructor
    · rw [tables]
    · exact ⟨some old, rfl⟩
    · rw [rows]
      refine Table.mem_update.mpr ⟨old, old_mem, ?_⟩
      simp
    · intro other member
      rw [rows] at member
      obtain ⟨before, there, rfl⟩ := Table.mem_update.mp member
      by_cases hit : before.id = old.id
      · exact .inl (by simp [hit])
      · exact .inr (by simpa [hit, trustedRow] using there)
    · intro other member trusted
      rw [rows]
      refine Table.mem_update.mpr ⟨other, member, ?_⟩
      by_cases hit : other.id = old.id
      · rw [key other member hit, untrusted] at trusted
        cases trusted
      · simp [hit]
  next _ =>
    obtain ⟨mid, inserted, result⟩ := bind_ok stored
    cases result
    have tables := flush_ok inserted
    have fresh : ∀ old ∈ db.bundles, old.id ≠ (trustedRow bundle now db.bundles.nextKey none).id :=
      fun _ member => (Table.key_lt_nextKey member).ne
    have rows : next.bundles =
        db.bundles.insert (trustedRow bundle now db.bundles.nextKey none) fresh :=
      congrArg Tables.bundles tables
    constructor
    · rw [tables]
    · exact ⟨none, rfl⟩
    · rw [rows]
      exact Table.mem_insert_self fresh
    · intro other member
      rw [rows] at member
      cases Table.of_mem_insert fresh member with
      | inl there => exact .inr ⟨there, fresh other there⟩
      | inr new => exact .inl new
    · intro other member _
      rw [rows]
      exact Table.mem_insert_of_mem fresh member

structure HistoryStored (bundle : ValidatedBundle archive) (db : Database) (row : OBDBundle)
    (stored next : Database) : Prop where
  bundles : next.bundles = stored.bundles
  drives : ∀ drive, drive ∈ next.drives ↔
    drive ∈ db.drives ∨ drive = driveRow bundle db.drives.nextKey row.id
  samples : next.samples = db.samples ++ bundle.samples.map (sampleRow db.drives.nextKey)

theorem filter_sampleRow (drive other : Nat) (samples : List Sample) :
    (samples.map (sampleRow drive)).filter (·.driveDbId = other) =
      if drive = other then samples.map (sampleRow drive) else [] := by
  by_cases same : drive = other
  · simp [same, sampleRow]
  · simp [same, sampleRow]

section NewHistory

variable {row : OBDBundle} {stored : Database}

theorem samples_nextKey (inv : Inv archive db.toTables) :
    db.samples.filter (·.driveDbId = db.drives.nextKey) = [] := by
  rw [List.filter_eq_nil_iff]
  intro sample member same
  obtain ⟨drive, memberD, id⟩ := inv.samples sample member
  have below := Table.key_lt_nextKey memberD
  rw [id] at below
  exact below.ne (by simpa using same)

theorem keeps_history (rows : RowStored bundle now db row stored)
    (history : HistoryStored bundle db row stored next) :
    Keeps db.toTables next.toTables where
  bundles other member trusted :=
    ⟨other, by rw [history.bundles]; exact rows.kept other member trusted, rfl, trusted, rfl, rfl,
      rfl⟩
  drives drive member := ⟨drive, (history.drives drive).mpr (.inl member), rfl, rfl⟩
  samples drive member := by
    have other : db.drives.nextKey ≠ drive.id := (Table.key_lt_nextKey member).ne'
    rw [history.samples, List.filter_append, filter_sampleRow, if_neg other, List.append_nil]

theorem inv_history (inv : Inv archive db.toTables) (rows : RowStored bundle now db row stored)
    (history : HistoryStored bundle db row stored next) : Inv archive next.toTables := by
  obtain ⟨rejected, columns⟩ := rows.columns
  have keeps := keeps_history rows history
  have trustedNew : row.metadataTrusted = true := by rw [columns]; rfl
  constructor
  · intro other member
    rw [history.bundles] at member
    cases rows.others other member with
    | inl same =>
      rw [same, columns]
      exact bundle.named
    | inr old => exact inv.named other old.1
  · intro other member trusted
    rw [history.bundles] at member
    cases rows.others other member with
    | inl same =>
      subst same
      have held : next.samples.filter (·.driveDbId = db.drives.nextKey) =
          bundle.samples.map (sampleRow db.drives.nextKey) := by
        rw [history.samples, List.filter_append, samples_nextKey inv, filter_sampleRow, if_pos rfl,
          List.nil_append]
      refine ⟨by rw [columns]; exact bundle.supported, by rw [columns]; rfl, by rw [columns]; rfl,
        _, (history.drives _).mpr (.inr rfl), rfl, ?_⟩
      rw [columns]
      exact held
    | inr old =>
      have before := inv.trusted other old.1 trusted
      obtain ⟨drive, memberD, bundleId, held⟩ := before.history
      exact ⟨before.version, before.size, before.driveId, drive,
        (history.drives drive).mpr (.inl memberD), bundleId,
        (keeps.samples drive memberD).trans held⟩
  · intro drive member
    cases (history.drives drive).mp member with
    | inl old =>
      obtain ⟨other, memberO, id, trusted⟩ := inv.drives drive old
      exact ⟨other, by rw [history.bundles]; exact rows.kept other memberO trusted, id, trusted⟩
    | inr new =>
      refine ⟨row, by rw [history.bundles]; exact rows.stored, ?_, trustedNew⟩
      rw [new]
      rfl
  · intro sample member
    rw [history.samples] at member
    cases List.mem_append.mp member with
    | inl old =>
      obtain ⟨drive, memberD, id⟩ := inv.samples sample old
      exact ⟨drive, (history.drives drive).mpr (.inl memberD), id⟩
    | inr new =>
      obtain ⟨source, -, rfl⟩ := List.mem_map.mp new
      exact ⟨_, (history.drives _).mpr (.inr rfl), rfl⟩

end NewHistory

theorem isIdentity_iff {row : OBDBundle} : isIdentity bundle row = true ↔
    row.driveId = bundle.driveId ∧ row.bundleHash = bundle.bundleSha256 ∧
      row.schemaVersion = bundle.manifest.schemaVersion ∧ row.metadataTrusted = true := by
  simp [isIdentity, and_assoc]

theorem filename_of_driveId {row : OBDBundle} (inv : Inv archive db.toTables)
    (member : row ∈ db.bundles) (same : row.driveId = bundle.driveId) :
    row.filename = bundle.filename := by
  have rowNamed := driveIdFromName_eq (inv.named row member)
  have bundleNamed := driveIdFromName_eq bundle.named
  rw [rowNamed, bundleNamed, same]
  rfl

theorem row_of_driveId {row : OBDBundle} (inv : Inv archive db.toTables)
    (member : row ∈ db.bundles) {other : OBDBundle} (memberO : other ∈ db.bundles)
    (same : row.driveId = other.driveId) : row = other := by
  refine List.inj_on_of_nodup_map db.schema.filename member memberO ?_
  rw [driveIdFromName_eq (inv.named row member), driveIdFromName_eq (inv.named other memberO), same]

theorem sameBundle_repaired {row : OBDBundle} (inv : Inv archive db.toTables)
    (member : row ∈ db.bundles) (identity : isIdentity bundle row = true) :
    SameBundle row (repaired bundle now row) := by
  obtain ⟨driveId, hash, version, trusted⟩ := isIdentity_iff.mp identity
  refine ⟨(filename_of_driveId inv member driveId).symm, rfl, rfl, fun _ => ⟨rfl, ?_, rfl⟩⟩
  rw [(inv.trusted row member trusted).size, hash]
  rfl

theorem good_storeValidatedBundle (inv : Inv archive db.toTables)
    (stored : db.storeValidatedBundle compute bundle now = .ok next) : Good archive db next := by
  unfold Database.storeValidatedBundle at stored
  split at stored
  next row found =>
    have member : row ∈ db.bundles := List.mem_of_find?_eq_some found
    have identity : isIdentity bundle row = true := List.find?_some found
    obtain ⟨mid, repair, reconciled⟩ := bind_ok stored
    have first : Good archive db mid := by
      unfold Database.repair at repair
      split at repair
      next _ =>
        refine good_setBundle inv ?_ repair
        intro other memberO id
        obtain rfl : other = row := Table.eq_of_key memberO member id
        exact sameBundle_repaired inv member identity
      next _ =>
        cases repair
        exact ⟨inv, Keeps.refl _⟩
    have second := good_reconcileOf first.inv reconciled
    exact ⟨second.inv, first.keeps.trans second.keeps⟩
  next _ =>
    split at stored
    next _ => cases stored
    next _ =>
      obtain ⟨⟨mid, row⟩, rowStored, rest⟩ := bind_ok stored
      obtain ⟨withDrive, driveStored, rest⟩ := bind_ok rest
      obtain ⟨withSamples, samplesStored, rest⟩ := bind_ok rest
      obtain ⟨withEvents, eventsStored, reconciled⟩ := bind_ok rest
      have rows := storeRow_ok rowStored
      have driveTables := flush_ok driveStored
      have samplesTables := insertBatches_ok (le_refl _) samplesStored
      have eventsTables := flush_ok eventsStored
      have drivesSame : mid.drives = db.drives := by rw [rows.rest]
      have samplesSame : mid.samples = db.samples := by rw [rows.rest]
      have history : HistoryStored bundle db row mid withEvents := by
        constructor
        · rw [eventsTables, samplesTables, driveTables]
        · intro drive
          rw [eventsTables, samplesTables, driveTables, Table.mem_insert, drivesSame]
        · rw [eventsTables, samplesTables, driveTables, samplesSame]
          simp [driveRow, drivesSame]
      have second := good_reconcile (inv_history inv rows history) reconciled
      exact ⟨second.inv, (keeps_history rows history).trans second.keeps⟩

theorem good_storeRejectedBundle {rejection : Database.Rejection} (inv : Inv archive db.toTables)
    (stored : db.storeRejectedBundle rejection now = .ok next) : Good archive db next := by
  unfold Database.storeRejectedBundle at stored
  split at stored
  next _ => cases stored
  next driveId named =>
    split at stored
    next _ => cases stored
    next _ =>
      split at stored
      next _ => cases stored
      next _ =>
        split at stored
        next row found =>
          have member : row ∈ db.bundles := List.mem_of_find?_eq_some found
          split at stored
          next _ =>
            cases stored
            exact ⟨inv, Keeps.refl _⟩
          next untrusted =>
            refine good_setBundle inv ?_ stored
            intro other memberO id
            obtain rfl : other = row := Table.eq_of_key memberO member id
            exact ⟨rfl, rfl, rfl, fun trusted => absurd trusted untrusted⟩
        next _ =>
          have tables := flush_ok stored
          constructor
          · rw [tables]
            exact inv_insertBundle inv named rfl
          · rw [tables]
            exact keeps_insertBundle

theorem good_step (inv : Inv archive db.toTables) (e : Event archive) :
    Good archive db (step compute db e) := by
  have same : Good archive db db := ⟨inv, Keeps.refl _⟩
  have committed_good (result : Except StoreError Database)
      (good : ∀ next, result = .ok next → Good archive db next) :
      Good archive db (committed db result) := by
    cases result with
    | ok next => exact good next rfl
    | error e => exact same
  cases e with
  | validated bundle now => exact committed_good _ fun _ => good_storeValidatedBundle inv
  | rejected rejection now => exact committed_good _ fun _ => good_storeRejectedBundle inv
  | failed => exact same
  | mark id state failureKind =>
    exact committed_good _ fun _ =>
      good_setBundle inv fun row _ _ => ⟨rfl, rfl, rfl, fun _ => ⟨rfl, rfl, rfl⟩⟩

theorem good_run {es : List (Event archive)} (inv : Inv archive db.toTables)
    (run : Run (Stepped compute) anyStep db es next) : Good archive db next := by
  refine run.invariant (Good archive db) ?_ ⟨inv, Keeps.refl _⟩
  intro mid e last good _ stepped
  rw [stepped]
  have after : Good archive mid (step compute mid e) := good_step good.inv e
  exact ⟨after.inv, good.keeps.trans after.keeps⟩

theorem inv_empty : Inv archive Database.empty.toTables where
  named row member := absurd member (Table.not_mem_empty row)
  trusted row member := absurd member (Table.not_mem_empty row)
  drives drive member := absurd member (Table.not_mem_empty drive)
  samples _ member := absurd member List.not_mem_nil

theorem noConflict_reconcileOf {row : OBDBundle} : NoConflict (db.reconcileOf compute row) := by
  unfold Database.reconcileOf
  split
  · exact noConflict_flush _
  · exact noConflict_ok _

theorem noConflict_insertBatches {drive fuel : Nat} {samples : List Sample} :
    NoConflict (Database.insertBatches drive fuel db samples) := by
  induction fuel generalizing db samples with
  | zero => exact noConflict_ok _
  | succ fuel ih =>
    unfold Database.insertBatches
    split
    · exact noConflict_ok _
    · exact (noConflict_flush _).bind fun _ => ih

theorem noConflict_repair {row : OBDBundle} : NoConflict (db.repair bundle now row) := by
  unfold Database.repair
  split
  · exact noConflict_flush _
  · exact noConflict_ok _

theorem noConflict_storeRow : NoConflict (db.storeRow bundle now) := by
  unfold Database.storeRow
  split
  · exact (noConflict_flush _).bind fun _ => noConflict_ok _
  · exact (noConflict_flush _).bind fun _ => noConflict_ok _

theorem conflict_iff_branch :
    (∃ message, db.storeValidatedBundle compute bundle now = .error (.conflict message)) ↔
      db.existing bundle = none ∧ (db.conflicting bundle).isSome = true := by
  unfold Database.storeValidatedBundle
  split
  next row found =>
    constructor
    · rintro ⟨message, raised⟩
      exact absurd raised (noConflict_repair.bind (fun _ => noConflict_reconcileOf) message)
    · intro branch
      simp [found] at branch
  next none =>
    split
    next row found => simp [none, found]
    next free =>
      constructor
      · rintro ⟨message, raised⟩
        refine absurd raised (NoConflict.bind noConflict_storeRow (fun stored => ?_) message)
        refine (noConflict_flush _).bind fun _ => noConflict_insertBatches.bind fun _ => ?_
        exact (noConflict_flush _).bind fun _ => noConflict_flush _
      · intro branch
        simp [free] at branch

theorem conflict_iff (inv : Inv archive db.toTables) :
    (∃ message, db.storeValidatedBundle compute bundle now = .error (.conflict message)) ↔
      ∃ row ∈ db.bundles, row.metadataTrusted = true ∧ row.driveId = bundle.driveId ∧
        row.bundleHash ≠ bundle.bundleSha256 := by
  rw [conflict_iff_branch]
  constructor
  · rintro ⟨absent, conflicting⟩
    obtain ⟨row, found⟩ := Option.isSome_iff_exists.mp conflicting
    have member : row ∈ db.bundles := List.mem_of_find?_eq_some found
    have holds := List.find?_some found
    have holds : row.driveId = bundle.driveId ∧ row.metadataTrusted = true := by simpa using holds
    refine ⟨row, member, holds.2, holds.1, fun hash => ?_⟩
    have version : row.schemaVersion = bundle.manifest.schemaVersion :=
      (inv.trusted row member holds.2).version.trans bundle.supported.symm
    have refused := List.find?_eq_none.mp absent row member
    exact refused (isIdentity_iff.mpr ⟨holds.1, hash, version, holds.2⟩)
  · rintro ⟨row, member, trusted, driveId, other⟩
    constructor
    · refine List.find?_eq_none.mpr fun found memberF identity => ?_
      obtain ⟨driveIdF, hash, -, -⟩ := isIdentity_iff.mp identity
      have same := row_of_driveId inv member memberF (driveId.trans driveIdF.symm)
      rw [same] at other
      exact other hash
    · rw [Database.conflicting, List.find?_isSome]
      exact ⟨row, member, by simp [driveId, trusted]⟩

namespace Database

def OneRowPerFilename (db : Database) : Prop :=
  ∀ row ∈ db.bundles, ∀ other ∈ db.bundles, row.filename = other.filename → row = other

def OneTrustedPerDrive (db : Database) : Prop :=
  ∀ row ∈ db.bundles, ∀ other ∈ db.bundles, row.metadataTrusted = true →
    other.metadataTrusted = true → row.driveId = other.driveId → row = other

def TrustedHistory (archive : Digest → Archive) (db : Database) : Prop :=
  ∀ row ∈ db.bundles, row.metadataTrusted = true → ∃ drive ∈ db.drives,
    (drive.bundleId = row.id ∧ ∀ other ∈ db.drives, other.bundleId = row.id → other = drive) ∧
      db.samplesOf drive.id = (archive row.bundleHash).samples.map (sampleRow drive.id)

def TrustedPermanent (archive : Digest → Archive) (compute : Reconcile) (db : Database) : Prop :=
  ∀ row ∈ db.bundles, row.metadataTrusted = true → ∀ (fs : List (Event archive)) next,
    Run (Stepped compute) anyStep db fs next →
    (∃ row' ∈ next.bundles, row'.id = row.id ∧ row'.metadataTrusted = true ∧
      row'.bundleHash = row.bundleHash ∧ row'.sizeBytes = row.sizeBytes ∧
      row'.driveId = row.driveId) ∧
    ∀ drive ∈ db.drives, drive.bundleId = row.id →
      (∃ drive' ∈ next.drives, drive'.id = drive.id ∧ drive'.bundleId = row.id) ∧
        next.samplesOf drive.id = db.samplesOf drive.id

-- `BundleConflict` means that other bytes of the drive are trusted.
def ConflictExact (archive : Digest → Archive) (compute : Reconcile) (db : Database) : Prop :=
  ∀ (bundle : ValidatedBundle archive) (now : Time),
    (∃ message, db.storeValidatedBundle compute bundle now = .error (.conflict message)) ↔
      ∃ row ∈ db.bundles, row.metadataTrusted = true ∧ row.driveId = bundle.driveId ∧
        row.bundleHash ≠ bundle.bundleSha256

end Database

theorem oneRowPerFilename (db : Database) : db.OneRowPerFilename :=
  fun _ member _ memberO same => List.inj_on_of_nodup_map db.schema.filename member memberO same

theorem trustedHistory (inv : Inv archive db.toTables) : db.TrustedHistory archive := by
  intro row member trusted
  obtain ⟨drive, memberD, bundleId, held⟩ := (inv.trusted row member trusted).history
  refine ⟨drive, memberD, ⟨bundleId, fun other memberO same => ?_⟩, held⟩
  exact List.inj_on_of_nodup_map db.schema.bundleId memberO memberD (same.trans bundleId.symm)

theorem trustedPermanent (inv : Inv archive db.toTables) :
    db.TrustedPermanent archive compute := by
  intro row member trusted fs next run
  have keeps := (good_run inv run).keeps
  refine ⟨keeps.bundles row member trusted, fun drive memberD bundleId => ⟨?_, ?_⟩⟩
  · obtain ⟨drive', memberD', id, sameBundle⟩ := keeps.drives drive memberD
    exact ⟨drive', memberD', id, sameBundle.trans bundleId⟩
  · exact keeps.samples drive memberD

theorem store_invariant (archive : Digest → Archive) (compute : Reconcile)
    (es : List (Event archive)) (db : Database)
    (run : Run (Stepped compute) anyStep .empty es db) :
    db.OneRowPerFilename ∧ db.OneTrustedPerDrive ∧ db.TrustedHistory archive ∧
      db.TrustedPermanent archive compute ∧ db.ConflictExact archive compute := by
  have inv := (good_run inv_empty run).inv
  refine ⟨oneRowPerFilename db, ?_, trustedHistory inv, trustedPermanent inv,
    fun _ _ => conflict_iff inv⟩
  intro row member other memberO _ _ same
  exact row_of_driveId inv member memberO same

section Examples

def parkedSample (sequence : Nat) : Sample where
  sampleId := "s" ++ (toString sequence)
  sequence := sequence
  timestampUtc := 5000000 * sequence
  ecuDataStatus := .live
  telemetry := { engineRpm := some 800, vehicleSpeed := some 0 }
  quality := ⟨"ok", "ok", [], none⟩

def shortManifest : Manifest where
  schemaVersion := 1
  driveId := "d1"
  vehicleId := "car"
  adapterId := none
  loggerId := "logger"
  loggerVersion := "0.3"
  startTimeUtc := 0
  finishTimeUtc := 10000000
  originalTimezone := none
  startReason := "ignition"
  stopReason := none
  obdProtocol := none
  completionStatus := .complete
  cleanEnd := true
  sampleCount := 2
  diagnosticCount := 0
  errorCount := 0
  pollPlanVersion := none

def shortArchive (digest : Digest) : Archive where
  sizeBytes := digest.length
  manifest := shortManifest
  samples := [parkedSample 1, parkedSample 2]
  events := []

def noSummary : Summary :=
  ⟨none, none, none, none, none, none, none, none, none, none, none, none, 2, none, 2, none⟩

def shortBundle (digest : Digest) : ValidatedBundle shortArchive where
  filename := "d1.obd2.zip"
  bundleSha256 := digest
  summary := noSummary
  summarySource := .producer
  warnings := []
  named := (by decide : driveIdFromName "d1.obd2.zip" = some "d1")
  supported := rfl

def keepProjection : Reconcile := fun _ drive _ _ => drive.projection

def repairedThenOther : List (Event shortArchive) :=
  [.rejected ⟨"d1.obd2.zip", String.ofList (List.replicate 64 'a'), 10, "bad", true, none⟩ 1,
    .validated (shortBundle "good") 2, .validated (shortBundle "other") 3]

theorem store_invariant_repaired :
    ∃ db, Run (Stepped keepProjection) anyStep .empty repairedThenOther db ∧
      db.bundles.rows.map (fun row => (row.bundleHash, row.metadataTrusted)) = [("good", true)] ∧
      db.samples.map (·.sampleId) = ["s1", "s2"] ∧
      db.OneRowPerFilename ∧ db.OneTrustedPerDrive ∧ db.TrustedHistory shortArchive ∧
      db.TrustedPermanent shortArchive keepProjection ∧
      db.ConflictExact shortArchive keepProjection := by
  have traced : (trace (fun db e => some (step keepProjection db e)) anyStep .empty
      repairedThenOther).any (fun db =>
        db.bundles.rows.map (fun row => (row.bundleHash, row.metadataTrusted)) = [("good", true)] &&
          db.samples.map (·.sampleId) = ["s1", "s2"]) = true := by
    decide +kernel
  obtain ⟨db, traced, holds⟩ := (Option.any_eq_true _ _).mp traced
  simp only [Bool.and_eq_true, decide_eq_true_eq] at holds
  have run : Run (Stepped keepProjection) anyStep .empty repairedThenOther db := by
    have same : Stepped keepProjection =
        fun db (e : Event shortArchive) next => some (step keepProjection db e) = some next := by
      funext db e next
      simp [Stepped, eq_comm]
    rw [same]
    exact run_of_trace _ anyStep traced
  exact ⟨db, run, holds.1, holds.2, store_invariant _ _ _ db run⟩

end Examples

end DashcamStats.Bundle
