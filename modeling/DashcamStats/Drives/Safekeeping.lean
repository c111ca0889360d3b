import DashcamStats.Drives.Lifecycle
import DashcamStats.Drives.Retention

namespace DashcamStats.Drives

section Rows

structure Drive.Whole (drive : Drive) : Prop where
  ended : drive.status.terminal = true → drive.finishTime.isSome = true
  exported : drive.exportStatus = .exported → drive.exportable = true ∧
    ∃ sha256, drive.bundleSha256 = some sha256 ∧ sha256Pattern sha256 = true

def Database.Whole (db : Database) : Prop := ∀ drive ∈ db.drives, drive.Whole

/-- What recording does to the rows: those that can be exported stay as they are, and none becomes
an exported one. -/
structure Grows (db next : Database) : Prop where
  samples : ∀ sample ∈ db.samples, sample ∈ next.samples
  settled : ∀ drive ∈ db.drives, drive.exportable = true → drive ∈ next.drives
  stays : ∀ drive ∈ db.drives, ∃ kept ∈ next.drives, kept.driveId = drive.driveId
  exported : ∀ drive ∈ next.drives, drive.exportStatus = .exported →
    ∃ before ∈ db.drives, before.driveId = drive.driveId ∧ before.exportStatus = .exported
  whole : db.Whole → next.Whole

variable {db next last : Database} {driveId : String}

theorem Grows.refl (db : Database) : Grows db db where
  samples _ mem := mem
  settled _ mem _ := mem
  stays drive mem := ⟨drive, mem, rfl⟩
  exported drive mem isExported := ⟨drive, mem, rfl, isExported⟩
  whole held := held

theorem Grows.trans (first : Grows db next) (second : Grows next last) : Grows db last where
  samples sample mem := second.samples sample (first.samples sample mem)
  settled drive mem settled := second.settled drive (first.settled drive mem settled) settled
  stays drive mem := by
    obtain ⟨kept, isKept, same⟩ := first.stays drive mem
    obtain ⟨later, isLater, same'⟩ := second.stays kept isKept
    exact ⟨later, isLater, same'.trans same⟩
  exported drive mem isExported := by
    obtain ⟨between, isBetween, same, still⟩ := second.exported drive mem isExported
    obtain ⟨before, isBefore, same', already⟩ := first.exported between isBetween still
    exact ⟨before, isBefore, same'.trans same, already⟩
  whole held := second.whole (first.whole held)

theorem not_recording {drive : Drive} (settled : drive.exportable = true) :
    drive.status.terminal = true := by
  simp only [Drive.exportable, Bool.and_eq_true] at settled
  exact settled.1

theorem not_exportable {drive : Drive} (recording : drive.status = .recording) :
    ¬drive.exportable = true := by
  simp [Drive.exportable, recording, DriveStatus.terminal]

theorem modifyDrive_grows {change : Drive → Drive}
    {keeps : ∀ drive, (change drive).driveId = drive.driveId}
    (settled : ∀ drive ∈ db.drives, drive.driveId = driveId → drive.exportable = true →
      change drive = drive)
    (status : ∀ drive, (change drive).exportStatus = drive.exportStatus)
    (whole : ∀ drive ∈ db.drives, drive.driveId = driveId → drive.Whole → (change drive).Whole) :
    Grows db (db.modifyDrive driveId change keeps) where
  samples _ mem := mem
  settled drive mem isSettled := by
    refine mem_modifyDrive.mpr ⟨drive, mem, ?_⟩
    split
    · exact settled drive mem ‹_› isSettled
    · rfl
  stays drive mem := by
    refine ⟨_, mem_modifyDrive.mpr ⟨drive, mem, rfl⟩, ?_⟩
    split
    · exact keeps drive
    · rfl
  exported drive mem isExported := by
    obtain ⟨before, isBefore, rfl⟩ := mem_modifyDrive.mp mem
    refine ⟨before, isBefore, ?_, ?_⟩
    · split
      · exact (keeps before).symm
      · rfl
    · split at isExported
      · rw [status] at isExported
        exact isExported
      · exact isExported
  whole held drive mem := by
    obtain ⟨before, isBefore, rfl⟩ := mem_modifyDrive.mp mem
    split
    · exact whole before isBefore ‹_› (held before isBefore)
    · exact held before isBefore

theorem insert_grows {drive : Drive}
    (fresh : ∀ other ∈ db.drives.rows, other.driveId ≠ drive.driveId)
    (recording : drive.status = .recording) (waiting : drive.exportStatus = .waitingForBackup) :
    Grows db { db with drives := db.drives.insert drive fresh } where
  samples _ mem := mem
  settled _ mem _ := Table.mem_insert_of_mem fresh mem
  stays drive mem := ⟨drive, Table.mem_insert_of_mem fresh mem, rfl⟩
  exported other mem isExported := by
    rcases Table.of_mem_insert fresh mem with mem | rfl
    · exact ⟨other, mem, rfl, isExported⟩
    · rw [waiting] at isExported
      cases isExported
  whole held other mem := by
    rcases Table.of_mem_insert fresh mem with mem | rfl
    · exact held other mem
    · refine ⟨fun terminal => ?_, fun isExported => ?_⟩
      · rw [recording] at terminal
        cases terminal
      · rw [waiting] at isExported
        cases isExported

theorem insertSample_grows {sample : Sample}
    (fresh : ∀ other ∈ db.samples.rows, other.sampleId ≠ sample.sampleId) :
    Grows db { db with samples := db.samples.insert sample fresh } where
  samples _ mem := Table.mem_insert_of_mem fresh mem
  settled _ mem _ := mem
  stays drive mem := ⟨drive, mem, rfl⟩
  exported drive mem isExported := ⟨drive, mem, rfl, isExported⟩
  whole held := held

theorem finalizeDrive_grows (finish : Finish) :
    Grows db (db.after (finalizeDrive db driveId finish)) := by
  cases returns : finalizeDrive db driveId finish with
  | error message => exact .refl db
  | ok result =>
    obtain ⟨drive, found, ⟨_, same, _⟩ | ⟨pending, changed, _⟩⟩ := finalizeDrive_cases returns
    · simpa only [Database.after, same] using Grows.refl db
    · simp only [Database.after, changed]
      refine modifyDrive_grows (fun row mem same settled => ?_) (fun row => rfl)
        fun row mem same held => ⟨fun _ => rfl, fun isExported => ?_⟩
      · rw [eq_of_find? found mem same] at settled
        rw [not_recording settled] at pending
        cases pending
      · have settled := (held.exported isExported).1
        rw [eq_of_find? found mem same] at settled
        rw [not_recording settled] at pending
        cases pending

theorem call_grows (call : Call) (recording : call.recording = true) :
    Grows db (db.call call) := by
  cases call with
  | startDrive driveId startedAt plan =>
    cases returns : startDrive db driveId startedAt plan with
    | error message => simpa [Database.call, returns, Except.toOption] using Grows.refl db
    | ok next =>
      obtain ⟨_, _, fresh, rfl⟩ := startDrive_cases returns
      simp only [Database.call, returns, Except.toOption, Option.getD_some]
      exact insert_grows fresh rfl rfl
  | addSample sample =>
    cases returns : addSample db sample with
    | error message => simpa [Database.call, returns, Database.after] using Grows.refl db
    | ok result =>
      obtain ⟨_, same⟩ | ⟨fresh, drive, found, _, changed⟩ := addSample_cases returns
      · simpa only [Database.call, returns, Database.after, same] using Grows.refl db
      · simp only [Database.call, returns, Database.after, changed]
        refine (insertSample_grows fresh).trans (modifyDrive_grows ?_ ?_ ?_)
        · intro row mem same settled
          unfold Drive.sampled
          split
          · rename_i isRecording
            exact absurd settled (not_exportable isRecording)
          · rfl
        · intro row
          unfold Drive.sampled
          split <;> rfl
        · intro row mem same held
          unfold Drive.sampled
          split
          · rename_i isRecording
            refine ⟨held.ended, fun isExported => ?_⟩
            exact absurd (held.exported isExported).1 (not_exportable isRecording)
          · exact held
  | markFinalising driveId reason noticed response =>
    simp only [Database.call, markFinalising]
    split
    · refine modifyDrive_grows ?_ ?_ ?_
      · intro row mem same settled
        unfold Drive.finalising
        split
        · rename_i isRecording
          exact absurd settled (not_exportable isRecording)
        · rfl
      · intro row
        unfold Drive.finalising
        split <;> rfl
      · intro row mem same held
        unfold Drive.finalising
        split
        · rename_i isRecording
          refine ⟨fun terminal => (by cases terminal), fun isExported => ?_⟩
          exact absurd (held.exported isExported).1 (not_exportable isRecording)
        · exact held
    · exact .refl db
  | finalizeDrive driveId finish => exact finalizeDrive_grows finish
  | recoverInterrupted reason now clock =>
    simp only [Database.call, recoverInterrupted]
    split
    · exact @finalizeEach_invariant db (Grows db)
        (fun _ _ finish before => before.trans (finalizeDrive_grows finish)) now clock _ (.refl db)
    · exact .refl db
  | prepareCompletedExports =>
    have settledOf {drive : Drive} (isEmpty : drive.emptyExport = true) :
        drive.exportStatus ≠ .exported ∧ drive.sampleCount = 0 := by
      simp only [Drive.emptyExport, Bool.and_eq_true, decide_eq_true_eq] at isEmpty
      obtain ⟨⟨_, notExported⟩, action⟩ := isEmpty
      refine ⟨notExported, ?_⟩
      unfold exportRecoveryAction at action
      split at action
      · cases action
      · split at action
        · assumption
        · cases action
    refine ⟨fun _ mem => mem, fun drive mem settled => ?_, fun drive mem => ?_,
      fun drive mem isExported => ?_, fun held drive mem => ?_⟩
    · refine mem_prepareCompletedExports.mpr ⟨drive, mem, ?_⟩
      split
      · rename_i isEmpty
        simp [Drive.exportable, (settledOf isEmpty).2] at settled
      · rfl
    · exact ⟨_, mem_prepareCompletedExports.mpr ⟨drive, mem, rfl⟩, quarantined_driveId drive⟩
    · obtain ⟨before, isBefore, rfl⟩ := mem_prepareCompletedExports.mp mem
      refine ⟨before, isBefore, (quarantined_driveId before).symm, ?_⟩
      split at isExported
      · cases isExported
      · exact isExported
    · obtain ⟨before, isBefore, rfl⟩ := mem_prepareCompletedExports.mp mem
      split
      · exact ⟨(held before isBefore).ended, fun isExported => (by cases isExported)⟩
      · exact held before isBefore
  | recordVerifiedExport driveId sha256 => cases recording
  | resetMissingExport driveId sha256 => cases recording

end Rows

section Pruning

variable {db : Database} {retainAtLeast : ℕ}

theorem length_filterMap_filter_le {f : Drive → Option ExportedDriveRetentionCandidate}
    {keep : Drive → Bool} {driveId : String} (rows : List Drive)
    (distinct : (rows.map Drive.driveId).Nodup)
    (only : ∀ drive ∈ rows, keep drive = false → drive.driveId = driveId) :
    (rows.filterMap f).length ≤ ((rows.filter keep).filterMap f).length + 1 := by
  induction rows with
  | nil => exact Nat.zero_le _
  | cons first rows ih =>
    rw [List.map_cons, List.nodup_cons] at distinct
    cases kept : keep first with
    | true =>
      rw [List.filter_cons_of_pos kept]
      have rest := ih distinct.2 fun drive mem => only drive (List.mem_cons_of_mem _ mem)
      cases selected : f first with
      | none => simpa [List.filterMap_cons, selected] using rest
      | some candidate => simpa [List.filterMap_cons, selected] using rest
    | false =>
      have all : rows.filter keep = rows := by
        refine List.filter_eq_self.mpr fun drive mem => ?_
        by_contra dropped
        have same := only drive (List.mem_cons_of_mem _ mem) (by simpa using dropped)
        rw [← only first List.mem_cons_self kept] at same
        exact distinct.1 (same ▸ List.mem_map_of_mem mem)
      rw [List.filter_cons_of_neg (by simp [kept]), all, List.filterMap_cons]
      cases f first with
      | none => exact Nat.le_succ _
      | some candidate => exact Nat.le_refl _

theorem eligibleCount_delete_le (db : Database) (driveId bundleSha256 : String) :
    eligibleCount db ≤ eligibleCount (db.delete driveId bundleSha256) + 1 := by
  refine @length_filterMap_filter_le _ _ driveId _ db.drives.distinct ?_
  intro drive _ dropped
  simp only [Bool.not_eq_false', Bool.and_eq_true, decide_eq_true_eq] at dropped
  exact dropped.1

structure Pruned (retainAtLeast : ℕ) (db next : Database)
    (deleted : List VerifiedExportedDrive) : Prop where
  samples : ∀ sample ∈ db.samples, sample ∈ next.samples ∨
    ∃ candidate ∈ deleted, candidate.driveId = sample.driveId
  drives : ∀ drive ∈ next.drives, drive ∈ db.drives
  retained : deleted ≠ [] → retainAtLeast ≤ eligibleCount next
  stays : deleted = [] → next = db

theorem pruneEach_spec (db : Database) (verified : List VerifiedExportedDrive) :
    Pruned retainAtLeast db (pruneEach retainAtLeast db verified).1
      (pruneEach retainAtLeast db verified).2 := by
  induction verified generalizing db with
  | nil => exact ⟨fun _ mem => .inl mem, fun _ mem => mem, fun some => absurd rfl some, fun _ => rfl⟩
  | cons candidate rest ih =>
    unfold pruneEach
    split
    · exact ⟨fun _ mem => .inl mem, fun _ mem => mem, fun some => absurd rfl some, fun _ => rfl⟩
    · rename_i more
      split
      · have later := ih (db.delete candidate.driveId candidate.bundleSha256)
        refine ⟨fun sample mem => ?_, fun drive mem => ?_, fun _ => ?_, fun none => (by cases none)⟩
        · by_cases same : sample.driveId = candidate.driveId
          · exact .inr ⟨candidate, List.mem_cons_self, same.symm⟩
          · have kept : sample ∈ (db.delete candidate.driveId candidate.bundleSha256).samples :=
              Table.mem_filter.mpr ⟨mem, by simpa using same⟩
            obtain still | ⟨other, isDeleted, owner⟩ := later.samples sample kept
            · exact .inl still
            · exact .inr ⟨other, List.mem_cons_of_mem _ isDeleted, owner⟩
        · exact (Table.mem_filter.mp (later.drives drive mem)).1
        · have one := eligibleCount_delete_le db candidate.driveId candidate.bundleSha256
          by_cases none : (pruneEach retainAtLeast
              (db.delete candidate.driveId candidate.bundleSha256) rest).2 = []
          · rw [later.stays none]
            omega
          · exact later.retained none
      · exact ih db

theorem pruneEach_recorded (db : Database) (verified : List VerifiedExportedDrive) :
    ∀ candidate ∈ (pruneEach retainAtLeast db verified).2, candidate ∈ verified ∧
      ∃ drive ∈ db.drives, drive.driveId = candidate.driveId ∧
        drive.bundleSha256 = some candidate.bundleSha256 := by
  induction verified generalizing db with
  | nil => exact fun _ mem => absurd mem List.not_mem_nil
  | cons first rest ih =>
    intro candidate mem
    unfold pruneEach at mem
    split at mem
    · cases mem
    · split at mem
      · rename_i still
        rcases List.mem_cons.mp mem with rfl | mem
        · obtain ⟨drive, found, holds⟩ := (Option.any_eq_true _ _).mp still
          obtain ⟨isRow, sameId⟩ := Table.find?_mem found
          simp only [Drive.stillVerified, Drive.exportedAs, Bool.and_eq_true,
            decide_eq_true_eq] at holds
          exact ⟨List.mem_cons_self, drive, isRow, sameId, holds.1.2⟩
        · obtain ⟨isVerified, drive, isRow, recorded⟩ := ih _ candidate mem
          exact ⟨List.mem_cons_of_mem _ isVerified, drive, (Table.mem_filter.mp isRow).1, recorded⟩
      · obtain ⟨isVerified, recorded⟩ := ih _ candidate mem
        exact ⟨List.mem_cons_of_mem _ isVerified, recorded⟩

end Pruning

section World

-- A bundle with the hash stands in `ready/`, or the server has it.
def World.Proven (w : World) (bundle : VerifiedExportedDrive) : Prop :=
  (∃ archive, w.ready bundle.driveId = some archive ∧ archive.digest.1 = bundle.bundleSha256) ∨
    bundle ∈ w.registered

structure World.Sound (w : World) : Prop where
  whole : w.db.Whole
  receipts : ∀ driveId receipt, w.receipts driveId = some receipt → receipt.Backed w.registered
  pruned : ∀ bundle ∈ w.pruned, w.Proven bundle

/-- What a step may do: rows that go are those of drives that are pruned, and then as many drives
are left as are to be retained. -/
structure Keeps (w next : World) : Prop where
  sound : w.Sound → next.Sound
  samples : ∃ newer, next.pruned = newer ++ w.pruned ∧
    (∀ sample ∈ w.db.samples,
      sample ∈ next.db.samples ∨ ∃ sha256, ⟨sample.driveId, sha256⟩ ∈ newer) ∧
    ∀ bundle ∈ newer, ∃ drive ∈ w.db.drives, drive.driveId = bundle.driveId ∧
      drive.bundleSha256 = some bundle.bundleSha256
  retained : (∃ drive ∈ w.db.drives, ∀ kept ∈ next.db.drives, kept.driveId ≠ drive.driveId) →
    retainRecentExportedDrives ≤ eligibleCount next.db

variable {w next : World} {bundle : VerifiedExportedDrive}

theorem Keeps.of_files (sound : w.Sound → next.Sound) (db : next.db = w.db)
    (pruned : next.pruned = w.pruned) : Keeps w next where
  sound := sound
  samples := ⟨[], pruned, fun sample mem => .inl (db ▸ mem),
    fun bundle mem => absurd mem List.not_mem_nil⟩
  retained := by
    rintro ⟨drive, mem, gone⟩
    exact absurd rfl (gone drive (db ▸ mem))

theorem Keeps.refl (w : World) : Keeps w w := .of_files id rfl rfl

theorem Keeps.of_rows {db : Database} (whole : w.db.Whole → db.Whole)
    (samples : ∀ sample ∈ w.db.samples, sample ∈ db.samples)
    (stays : ∀ drive ∈ w.db.drives, ∃ kept ∈ db.drives, kept.driveId = drive.driveId) :
    Keeps w { w with db := db } where
  sound sound := ⟨whole sound.whole, sound.receipts, sound.pruned⟩
  samples := ⟨[], rfl, fun sample mem => .inl (samples sample mem),
    fun bundle mem => absurd mem List.not_mem_nil⟩
  retained := by
    rintro ⟨drive, mem, gone⟩
    obtain ⟨kept, isKept, same⟩ := stays drive mem
    exact absurd same (gone kept isKept)

theorem Proven.surroundings (step : Surroundings w next) (proven : w.Proven bundle) :
    next.Proven bundle := by
  cases step with
  | registers other => exact proven.imp id (List.mem_cons_of_mem _)
  | acknowledges driveId receipt backed => exact proven
  | removes driveId archive isThere isRegistered =>
    rcases proven with ⟨proof, isReady, sameHash⟩ | registered
    · by_cases same : bundle.driveId = driveId
      · subst same
        obtain rfl := Option.some.inj (isThere.symm.trans isReady)
        rw [sameHash] at isRegistered
        exact .inr isRegistered
      · refine .inl ⟨proof, ?_, sameHash⟩
        rw [World.ready_setReady_of_ne _ _ _ same]
        exact isReady
    · exact .inr registered
  | records call recording => exact proven

theorem surroundings_keeps (step : Surroundings w next) : Keeps w next := by
  have proven := fun bundle => @Proven.surroundings w next bundle step
  cases step with
  | registers bundle =>
    refine .of_files (fun sound => ⟨sound.whole, ?_, fun bundle mem => ?_⟩) rfl rfl
    · intro driveId receipt isThere id sha256 exactFor
      exact List.mem_cons_of_mem _ (sound.receipts driveId receipt isThere id sha256 exactFor)
    · exact proven bundle (sound.pruned bundle mem)
  | acknowledges driveId receipt backed =>
    refine .of_files (fun sound => ⟨sound.whole, ?_, fun bundle mem => ?_⟩) rfl rfl
    · intro other found isThere
      by_cases same : other = driveId
      · subst same
        rw [World.receipts_setReceipt] at isThere
        obtain rfl := Option.some.inj isThere
        exact backed
      · rw [World.receipts_setReceipt_of_ne _ _ _ same] at isThere
        exact sound.receipts other found isThere
    · exact proven bundle (sound.pruned bundle mem)
  | removes driveId archive isThere isRegistered =>
    exact .of_files (fun sound => ⟨sound.whole, sound.receipts,
      fun bundle mem => proven bundle (sound.pruned bundle mem)⟩) rfl rfl
  | records call recording =>
    have grows := @call_grows w.db call recording
    exact .of_rows grows.whole grows.samples grows.stays

theorem sound_stable : Stable Surroundings World.Sound :=
  fun _ _ sound step => (surroundings_keeps step).sound sound

theorem proven_stable (bundle : VerifiedExportedDrive) :
    Stable Surroundings (·.Proven bundle) :=
  fun _ _ proven step => Proven.surroundings step proven

end World

section Operations

variable {w : World} {db next : Database} {driveId sha256 : String}

theorem modifyDrive_stays {change : Drive → Drive}
    {keeps : ∀ drive, (change drive).driveId = drive.driveId} :
    ∀ drive ∈ db.drives, ∃ kept ∈ (db.modifyDrive driveId change keeps).drives,
      kept.driveId = drive.driveId := by
  intro drive mem
  refine ⟨_, mem_modifyDrive.mpr ⟨drive, mem, rfl⟩, ?_⟩
  split
  · exact keeps drive
  · rfl

theorem modifyDrive_whole {change : Drive → Drive}
    {keeps : ∀ drive, (change drive).driveId = drive.driveId}
    (whole : ∀ drive ∈ db.drives, drive.driveId = driveId → drive.Whole → (change drive).Whole)
    (held : db.Whole) : (db.modifyDrive driveId change keeps).Whole := by
  intro drive mem
  obtain ⟨before, isBefore, rfl⟩ := mem_modifyDrive.mp mem
  split
  · exact whole before isBefore ‹_› (held before isBefore)
  · exact held before isBefore

theorem recordVerifiedExport_cases (returns : recordVerifiedExport db driveId sha256 = .ok next) :
    sha256Pattern sha256 = true ∧
      ∃ drive, db.drives.find? driveId = some drive ∧ drive.exportable = true ∧
        next = db.modifyDrive driveId (fun drive =>
          { drive with exportStatus := .exported, bundleSha256 := some sha256 }) fun _ => rfl := by
  unfold recordVerifiedExport at returns
  split at returns
  · cases returns
  · rename_i isHash
    split at returns
    · rename_i exportable
      obtain ⟨drive, found, settled⟩ := (Option.any_eq_true _ _).mp exportable
      cases returns
      exact ⟨by simpa using isHash, drive, found, settled, rfl⟩
    · cases returns

theorem recordVerifiedExport_keeps (returns : recordVerifiedExport w.db driveId sha256 = .ok next) :
    Keeps w { w with db := next } := by
  obtain ⟨isHash, drive, found, settled, rfl⟩ := recordVerifiedExport_cases returns
  refine .of_rows (modifyDrive_whole fun row mem same held => ?_) (fun _ mem => mem)
    modifyDrive_stays
  rw [← eq_of_find? found mem same] at settled
  exact ⟨held.ended, fun _ => ⟨settled, sha256, rfl, isHash⟩⟩

theorem resetMissingExport_keeps :
    Keeps w { w with db := (resetMissingExport w.db driveId sha256).1 } := by
  unfold resetMissingExport
  split
  · exact .of_rows (modifyDrive_whole fun row _ _ held => ⟨held.ended, fun h => (by cases h)⟩)
      (fun _ mem => mem) modifyDrive_stays
  · exact .refl w

theorem setPartial_keeps (archive : Option Archive) : Keeps w (w.setPartial driveId archive) :=
  .of_files (fun sound => ⟨sound.whole, sound.receipts, sound.pruned⟩) rfl rfl

theorem setReady_keeps (archive : Option Archive) (absent : w.ready driveId = none) :
    Keeps w (w.setReady driveId archive) := by
  refine .of_files (fun sound => ⟨sound.whole, sound.receipts, fun bundle mem => ?_⟩) rfl rfl
  rcases sound.pruned bundle mem with ⟨proof, isReady, sameHash⟩ | registered
  · by_cases same : bundle.driveId = driveId
    · rw [same, absent] at isReady
      cases isReady
    · refine .inl ⟨proof, ?_, sameHash⟩
      rw [World.ready_setReady_of_ne _ _ _ same]
      exact isReady
  · exact .inr registered

theorem setPartial_holds (archive : Option Archive)
    (holds : w.Sound ∧ w.ready driveId = none) :
    (w.setPartial driveId archive).Sound ∧ (w.setPartial driveId archive).ready driveId = none :=
  ⟨(setPartial_keeps archive).sound holds.1, holds.2⟩

theorem publish_keeps (absent : w.ready driveId = none) :
    Keeps w (match w.partials driveId with
      | none => (w, Except.error "could not atomically publish OBD bundle")
      | some archive =>
        ((w.setReady driveId (some archive)).setPartial driveId none, Except.ok ())).1 := by
  cases w.partials driveId with
  | none => exact .refl w
  | some archive =>
    refine .of_files (fun sound => ?_) rfl rfl
    exact (setPartial_keeps none).sound ((setReady_keeps (some archive) absent).sound sound)

theorem forgetReceipt_keeps : Keeps w (w.setReceipt driveId none) := by
  refine .of_files (fun sound => ⟨sound.whole, fun other receipt isThere => ?_, sound.pruned⟩)
    rfl rfl
  by_cases same : other = driveId
  · subst same
    rw [World.receipts_setReceipt] at isThere
    cases isThere
  · rw [World.receipts_setReceipt_of_ne _ _ _ same] at isThere
    exact sound.receipts other receipt isThere

theorem prune_keeps {verified : List VerifiedExportedDrive}
    (proven : ∀ bundle ∈ verified, w.Proven bundle) :
    Keeps w { w with
      db := (pruneVerifiedExportedDrives w.db verified retainRecentExportedDrives
        retentionDeleteBatch).1
      pruned := (pruneVerifiedExportedDrives w.db verified retainRecentExportedDrives
        retentionDeleteBatch).2 ++ w.pruned } := by
  have spec := @pruneEach_spec retainRecentExportedDrives w.db (verified.take retentionDeleteBatch)
  refine ⟨fun sound => ⟨fun drive mem => sound.whole drive (spec.drives drive mem),
    sound.receipts, fun bundle mem => ?_⟩, ⟨_, rfl, fun sample mem => ?_,
      fun bundle isDeleted => (pruneEach_recorded _ _ bundle isDeleted).2⟩, ?_⟩
  · rcases List.mem_append.mp mem with isDeleted | mem
    · exact proven bundle (List.mem_of_mem_take (pruneEach_recorded _ _ bundle isDeleted).1)
    · exact sound.pruned bundle mem
  · obtain still | ⟨⟨owner, hash⟩, isDeleted, rfl⟩ := spec.samples sample mem
    · exact .inl still
    · exact .inr ⟨hash, isDeleted⟩
  · rintro ⟨drive, mem, gone⟩
    refine spec.retained fun none => ?_
    have same := spec.stays none
    exact gone drive (by rw [← same] at mem; exact mem) rfl

end Operations

section Programs

variable {w : World} {α β : Type} {Q : β → World → Prop}

theorem safe_operation {operation : World → World × α} {next : α → Prog World β}
    (sound : w.Sound) (keeps : ∀ t, t.Sound → Keeps t (operation t).1)
    (rest : ∀ result t, t.Sound → Safe Surroundings Keeps Q (next result) t) :
    Safe Surroundings Keeps Q (Prog.transact operation >>= next) w :=
  .transact sound_stable sound keeps fun t sound => rest _ _ ((keeps t sound).sound sound)

theorem safe_look {look : World → α} {next : α → Prog World β} (sound : w.Sound)
    (rest : ∀ result t, t.Sound → Safe Surroundings Keeps Q (next result) t) :
    Safe Surroundings Keeps Q (Prog.read look >>= next) w :=
  .read sound_stable sound .refl fun t sound => rest _ t sound

theorem safe_end (result : α) : Safe Surroundings Keeps (fun _ _ => True) (pure result) w :=
  .pure result (fun _ _ _ _ => trivial) trivial

theorem recordReady_safe (driveId : String) (sound : w.Sound) :
    Safe Surroundings Keeps (fun _ _ => True) (recordReady driveId) w := by
  unfold recordReady hashFile recordExport
  refine safe_look sound fun digest t sound => ?_
  cases digest with
  | error message => exact safe_end _
  | ok digest =>
    refine safe_operation sound (fun t _ => ?_) fun result t _ => ?_
    · cases returns : recordVerifiedExport t.db driveId digest with
      | error message => exact .refl t
      | ok db => exact recordVerifiedExport_keeps returns
    · cases result with
      | error message => exact safe_end _
      | ok _ => exact safe_end _

theorem absent_stable (driveId : String) : Stable Surroundings (·.ready driveId = none) := by
  intro s t absent step
  cases step with
  | registers bundle => exact absent
  | acknowledges other receipt backed => exact absent
  | removes other archive isThere isRegistered =>
    by_cases same : driveId = other
    · rw [same, World.ready_setReady]
    · rw [World.ready_setReady_of_ne _ _ _ same, absent]
  | records call recording => exact absent

theorem exportBundle_safe (whitespace : Char → Bool) (driveId : String) (now : Instant)
    (digest : Digest) (sound : w.Sound) :
    Safe Surroundings Keeps (fun _ _ => True) (exportBundle whitespace driveId now digest) w := by
  have stable := sound_stable.and (absent_stable driveId)
  unfold exportBundle validateFile publish
  split
  · exact safe_end _
  · refine Safe.read sound_stable sound .refl fun t sound => ?_
    split
    · refine safe_look sound fun valid t sound => ?_
      cases valid with
      | error message => exact safe_end _
      | ok _ => exact recordReady_safe driveId sound
    · rename_i noBundle
      have absent : t.ready driveId = none := by simpa [World.hasBundle] using noBundle
      refine Safe.read stable ⟨sound, absent⟩ .refl fun drives holds => ?_
      refine Safe.read stable holds .refl fun samples holds => ?_
      split
      · exact safe_end _
      · refine Safe.transact stable holds (fun t _ => setPartial_keeps _) fun t holds => ?_
        refine Safe.transact stable (setPartial_holds _ holds) (fun t _ => setPartial_keeps _)
          fun t holds => ?_
        refine Safe.read stable (setPartial_holds _ holds) .refl fun t holds => ?_
        split
        · exact safe_end _
        · refine Safe.transact stable holds (fun t holds => publish_keeps holds.2) fun t holds => ?_
          have sound := (publish_keeps holds.2).sound holds.1
          split
          · exact safe_end _
          · exact recordReady_safe driveId sound

theorem hasProof_safe (whitespace : Char → Bool) (candidate : ExportedDriveRetentionCandidate)
    {P : World → Prop} (stable : Stable Surroundings P) (holds : P w)
    (sound : ∀ t, P t → t.Sound) :
    Safe Surroundings Keeps
      (fun result t => P t ∧
        (result = true → t.Proven ⟨candidate.driveId, candidate.bundleSha256⟩))
      (hasProof whitespace candidate) w := by
  have ends (result : Bool) : Stable Surroundings fun t => P t ∧
      (result = true → t.Proven ⟨candidate.driveId, candidate.bundleSha256⟩) :=
    fun s t before step => ⟨stable s t before.1 step,
      fun isTrue => proven_stable _ s t (before.2 isTrue) step⟩
  have unproven (t : World) (holds : P t) : Safe Surroundings Keeps
      (fun result t => P t ∧
        (result = true → t.Proven ⟨candidate.driveId, candidate.bundleSha256⟩))
      (pure false) t :=
    .pure _ (ends false) ⟨holds, fun isTrue => (by cases isTrue)⟩
  unfold hasProof validateFile hashFile
  refine Safe.read stable holds .refl fun t holds => ?_
  split
  · refine Safe.read stable holds .refl fun t holds => ?_
    split
    · refine Safe.read stable holds .refl fun t holds => ?_
      split
      · exact unproven t holds
      · refine Safe.read stable holds .refl fun t holds => ?_
        beta_reduce
        cases isThere : t.ready candidate.driveId with
        | none => exact unproven t holds
        | some archive =>
          refine Safe.pure _ (ends _) ⟨holds, fun same => .inl ⟨archive, isThere, ?_⟩⟩
          simpa using same
    · exact unproven _ holds
  · refine Safe.read_last stable holds .refl ends fun t holds => ⟨holds, fun isExact => ?_⟩
    unfold World.isExactServerVerificationReceipt at isExact
    obtain ⟨receipt, isThere, exactFor⟩ := (Option.any_eq_true _ _).mp isExact
    exact .inr ((sound t holds).receipts _ receipt isThere _ _ exactFor)

theorem retentionReceiptsSafeToPrune_safe (whitespace : Char → Bool) (maximumDeletes : ℕ)
    (candidates : List ExportedDriveRetentionCandidate) (verified : List VerifiedExportedDrive)
    (sound : w.Sound) (proven : ∀ bundle ∈ verified, w.Proven bundle) :
    Safe Surroundings Keeps
      (fun result t => t.Sound ∧ ∀ bundle ∈ result, t.Proven bundle)
      (retentionReceiptsSafeToPrune whitespace maximumDeletes candidates verified) w := by
  have stable (verified : List VerifiedExportedDrive) :
      Stable Surroundings fun t => t.Sound ∧ ∀ bundle ∈ verified, t.Proven bundle :=
    sound_stable.and fun s t before step bundle mem =>
      proven_stable bundle s t (before bundle mem) step
  induction candidates generalizing verified w with
  | nil => exact .pure _ (stable verified) ⟨sound, proven⟩
  | cons candidate rest ih =>
    unfold retentionReceiptsSafeToPrune
    split
    · exact .pure _ (stable verified) ⟨sound, proven⟩
    · refine Safe.bind ((hasProof_safe whitespace candidate (stable verified) ⟨sound, proven⟩
        fun t holds => holds.1).mono fun result t holds => ?_)
      obtain ⟨⟨sound, proven⟩, isProven⟩ := holds
      split
      · rename_i isTrue
        refine ih _ sound fun bundle mem => ?_
        rcases List.mem_append.mp mem with mem | mem
        · exact proven bundle mem
        · rw [List.mem_singleton.mp mem]
          exact isProven isTrue
      · exact ih verified sound proven

theorem forgetReceipts_safe (deleted : List VerifiedExportedDrive) (sound : w.Sound) :
    Safe Surroundings Keeps (fun _ t => t.Sound) (forgetReceipts deleted) w := by
  induction deleted generalizing w with
  | nil => exact .pure _ sound_stable sound
  | cons candidate rest ih =>
    unfold forgetReceipts
    refine safe_look sound fun isExact t sound => ?_
    split
    · exact safe_operation sound (fun t _ => forgetReceipt_keeps) fun _ t sound => ih sound
    · exact ih sound

theorem enforceRetention_safe (whitespace : Char → Bool) (julianday : Instant → ℤ)
    (sound : w.Sound) :
    Safe Surroundings Keeps (fun _ _ => True) (enforceRetention whitespace julianday) w := by
  unfold enforceRetention pruneVerified
  refine safe_look sound fun eligible t sound => ?_
  refine safe_look sound fun candidates t sound => ?_
  have none (bundle : VerifiedExportedDrive) (mem : bundle ∈ []) : t.Proven bundle := by cases mem
  refine Safe.bind ((retentionReceiptsSafeToPrune_safe whitespace _ candidates [] sound
    none).mono fun verified t holds => ?_)
  have stable : Stable Surroundings fun t => t.Sound ∧ ∀ bundle ∈ verified, t.Proven bundle :=
    sound_stable.and fun s t before step bundle mem =>
      proven_stable bundle s t (before bundle mem) step
  refine Safe.transact stable holds (fun t holds => prune_keeps holds.2) fun t holds => ?_
  refine Safe.bind ((forgetReceipts_safe _ ((prune_keeps holds.2).sound holds.1)).mono
    fun _ t _ => ?_)
  exact safe_end _

theorem reconcilePage_safe (candidates : List ExportedDriveRetentionCandidate) (reset : ℕ)
    (sound : w.Sound) :
    Safe Surroundings Keeps (fun _ t => t.Sound) (reconcilePage candidates reset) w := by
  induction candidates generalizing reset w with
  | nil => exact .pure _ sound_stable sound
  | cons candidate rest ih =>
    unfold reconcilePage
    refine safe_look sound fun isThere t sound => ?_
    split
    · exact ih reset sound
    · refine safe_look sound fun isExact t sound => ?_
      split
      · exact ih reset sound
      · refine safe_operation sound (fun t _ => resetMissingExport_keeps) fun changed t sound => ?_
        split
        · exact ih (reset + 1) sound
        · exact ih reset sound

theorem reconcilePages_safe (julianday : Instant → ℤ) (pages : ℕ)
    (cursor : Option (Instant × String)) (reset : ℕ) (sound : w.Sound) :
    Safe Surroundings Keeps (fun _ _ => True) (reconcilePages julianday pages cursor reset) w := by
  induction pages generalizing cursor reset w with
  | zero => exact safe_end _
  | succ pages ih =>
    unfold reconcilePages
    refine safe_look sound fun candidates t sound => ?_
    split
    · exact safe_end _
    · refine Safe.bind ((reconcilePage_safe candidates reset sound).mono fun reset t sound => ?_)
      split
      · exact safe_end _
      · exact ih _ reset sound

theorem job_safe (whitespace : Char → Bool) (julianday : Instant → ℤ) (job : Job)
    (sound : w.Sound) :
    Safe Surroundings Keeps (fun _ _ => True) (job.program whitespace julianday) w := by
  have ends (t : World) : Safe Surroundings Keeps (fun _ _ => True) (pure ()) t := safe_end ()
  cases job with
  | «export» driveId now digest =>
    exact .bind ((exportBundle_safe whitespace driveId now digest sound).mono fun _ t _ => ends t)
  | enforceRetention =>
    exact .bind ((enforceRetention_safe whitespace julianday sound).mono fun _ t _ => ends t)
  | reconcileMissingExports pages =>
    exact .bind ((reconcilePages_safe julianday pages none 0 sound).mono fun _ t _ => ends t)

end Programs

section Runs

variable {whitespace : Char → Bool} {julianday : Instant → ℤ} {before after : Process World}

/-- A process of the service that is under way. -/
abbrev Serving (process : Process World) : Prop :=
  process.Running Surroundings Keeps World.Sound fun _ => True

theorem serving_idle {w : World} (initial : w.Initial) : Serving (.idle w) := by
  refine ⟨⟨fun drive mem => ?_, initial.receipts, fun bundle mem => ?_⟩, fun _ _ => trivial⟩
  · rw [Process.idle, initial.db] at mem
    exact absurd mem (Table.not_mem_empty drive)
  · rw [Process.idle, initial.pruned] at mem
    cases mem

theorem service_step (serving : Serving before) (step : Service whitespace julianday before after) :
    Serving after ∧ Keeps before.state after.state := by
  have safe (program : Prog World Unit)
      (isJob : ∃ job : Job, program = job.program whitespace julianday) (w : World)
      (sound : w.Sound) (_ : True) : Safe Surroundings Keeps (fun _ _ => True) program w := by
    obtain ⟨job, rfl⟩ := isJob
    exact job_safe whitespace julianday job sound
  have kept (s t : World) (sound : s.Sound) (step : Surroundings s t ∨ Keeps s t) : t.Sound := by
    rcases step with step | keeps
    · exact (surroundings_keeps step).sound sound
    · exact keeps.sound sound
  obtain ⟨still, change⟩ := Process.running_step safe kept .refl .refl
    (fun _ _ => trivial) (fun _ _ _ _ => trivial) serving step
  exact ⟨still, change.elim surroundings_keeps id⟩

theorem service_steps (serving : Serving before)
    (steps : Relation.ReflTransGen (Service whitespace julianday) before after) :
    Serving after := by
  induction steps with
  | refl => exact serving
  | tail _ last ih => exact (service_step ih last).1

theorem service_samples (serving : Serving before)
    (steps : Relation.ReflTransGen (Service whitespace julianday) before after) :
    ∃ newer, after.state.pruned = newer ++ before.state.pruned ∧
      ∀ sample ∈ before.state.db.samples, sample ∈ after.state.db.samples ∨
        ∃ sha256, ⟨sample.driveId, sha256⟩ ∈ newer := by
  induction steps with
  | refl => exact ⟨[], rfl, fun sample mem => .inl mem⟩
  | tail steps last ih =>
    obtain ⟨newer, isNewer, rows⟩ := ih
    obtain ⟨latest, isLatest, moved, _⟩ := (service_step (service_steps serving steps) last).2.samples
    refine ⟨latest ++ newer, by rw [isLatest, isNewer, List.append_assoc], fun sample mem => ?_⟩
    rcases rows sample mem with mem | ⟨sha256, pruned⟩
    · exact (moved sample mem).imp id fun ⟨sha256, pruned⟩ =>
        ⟨sha256, List.mem_append_left _ pruned⟩
    · exact .inr ⟨sha256, List.mem_append_right _ pruned⟩

end Runs

end DashcamStats.Drives
