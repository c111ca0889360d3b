import DashcamStats.Drives.Exported
import DashcamStats.Drives.Safekeeping

namespace DashcamStats.Drives

open Relation (ReflTransGen)

section Selected

variable {db next : Database} {candidate other : ExportedDriveRetentionCandidate}

def Selected (db : Database) (candidate : ExportedDriveRetentionCandidate) : Prop :=
  ∃ drive ∈ db.drives, drive.candidate? = some candidate

theorem candidate?_eq_some {drive : Drive} :
    drive.candidate? = some candidate ↔
      drive.status.terminal = true ∧ drive.exportStatus = .exported ∧
        drive.driveId = candidate.driveId ∧ drive.finishTime = some candidate.finishedAt ∧
        drive.bundleSha256 = some candidate.bundleSha256 := by
  obtain ⟨driveId, finishedAt, sha256⟩ := candidate
  unfold Drive.candidate?
  constructor
  · intro selected
    split at selected
    · rename_i exported
      split at selected
      · rename_i finish hash isFinish isHash
        cases selected
        exact ⟨exported.1, exported.2, rfl, isFinish, isHash⟩
      · cases selected
    · cases selected
  · rintro ⟨terminal, exported, rfl, isFinish, isHash⟩
    rw [if_pos ⟨terminal, exported⟩, isFinish, isHash]

theorem candidate?_driveId {drive : Drive} (selected : drive.candidate? = some candidate) :
    drive.driveId = candidate.driveId :=
  (candidate?_eq_some.mp selected).2.2.1

theorem mem_filterMap_candidate? :
    candidate ∈ db.drives.rows.filterMap Drive.candidate? ↔ Selected db candidate :=
  List.mem_filterMap

theorem selected_of_exported (whole : db.Whole) {drive : Drive} (mem : drive ∈ db.drives)
    (exported : drive.exportStatus = .exported) :
    ∃ candidate, drive.candidate? = some candidate := by
  have rows := whole drive mem
  obtain ⟨settled, sha256, isHash, _⟩ := rows.exported exported
  have terminal := not_recording settled
  obtain ⟨finish, isFinish⟩ := Option.isSome_iff_exists.mp (rows.ended terminal)
  exact ⟨⟨drive.driveId, finish, sha256⟩,
    candidate?_eq_some.mpr ⟨terminal, exported, rfl, isFinish, isHash⟩⟩

theorem Selected.sha256Pattern (whole : db.Whole) (selected : Selected db candidate) :
    sha256Pattern candidate.bundleSha256 = true := by
  obtain ⟨drive, mem, isCandidate⟩ := selected
  obtain ⟨_, exported, _, _, isHash⟩ := candidate?_eq_some.mp isCandidate
  obtain ⟨_, sha256, isHash', pattern⟩ := (whole drive mem).exported exported
  rw [isHash] at isHash'
  cases isHash'
  exact pattern

theorem Grows.selected_iff (grows : Grows db next) (whole : db.Whole) :
    Selected next candidate ↔ Selected db candidate := by
  constructor
  · rintro ⟨drive, mem, isCandidate⟩
    obtain ⟨before, isBefore, same, exported⟩ :=
      grows.exported drive mem (candidate?_eq_some.mp isCandidate).2.1
    have still := grows.settled before isBefore ((whole before isBefore).exported exported).1
    rw [Table.eq_of_key mem still same.symm] at isCandidate
    exact ⟨before, isBefore, isCandidate⟩
  · rintro ⟨drive, mem, isCandidate⟩
    have exported := (candidate?_eq_some.mp isCandidate).2.1
    exact ⟨drive, grows.settled drive mem ((whole drive mem).exported exported).1, isCandidate⟩

theorem filterMap_driveId_nodup (rows : List Drive) (distinct : (rows.map Drive.driveId).Nodup) :
    ((rows.filterMap Drive.candidate?).map (·.driveId)).Nodup := by
  rw [List.Nodup, List.pairwise_map] at distinct ⊢
  refine List.Pairwise.filterMap _ (fun a b apart c isC d isD same => apart ?_) distinct
  rw [candidate?_driveId isC, candidate?_driveId isD, same]

end Selected

section Order

variable (julianday : Instant → ℤ) {a b c : ExportedDriveRetentionCandidate}

theorem candidate_le_iff : a.le julianday b = true ↔
    julianday a.finishedAt < julianday b.finishedAt ∨
      julianday a.finishedAt = julianday b.finishedAt ∧ a.driveId ≤ b.driveId := by
  simp [ExportedDriveRetentionCandidate.le]

theorem candidate_le_trans (first : a.le julianday b = true) (second : b.le julianday c = true) :
    a.le julianday c = true := by
  rw [candidate_le_iff] at first second ⊢
  rcases first with first | ⟨first, ids⟩
  · rcases second with second | ⟨second, _⟩
    · exact .inl (first.trans second)
    · exact .inl (second ▸ first)
  · rcases second with second | ⟨second, ids'⟩
    · exact .inl (first ▸ second)
    · exact .inr ⟨first.trans second, ids.trans ids'⟩

theorem candidate_le_total : (a.le julianday b || b.le julianday a) = true := by
  rw [Bool.or_eq_true, candidate_le_iff, candidate_le_iff]
  rcases lt_trichotomy (julianday a.finishedAt) (julianday b.finishedAt) with before | same | after
  · exact .inl (.inl before)
  · exact (le_total a.driveId b.driveId).imp (fun ids => .inr ⟨same, ids⟩)
      fun ids => .inr ⟨same.symm, ids⟩
  · exact .inr (.inl after)

theorem isAfter_some {finishedAt : Instant} {driveId : String} :
    c.isAfter julianday (some (finishedAt, driveId)) = true ↔
      julianday finishedAt < julianday c.finishedAt ∨
        julianday c.finishedAt = julianday finishedAt ∧ driveId < c.driveId := by
  simp [ExportedDriveRetentionCandidate.isAfter]

theorem isAfter_trans {cursor : Option (Instant × String)}
    (first : a.isAfter julianday cursor = true)
    (second : b.isAfter julianday (some (a.finishedAt, a.driveId)) = true) :
    b.isAfter julianday cursor = true := by
  cases cursor with
  | none => rfl
  | some start =>
    rw [isAfter_some] at first second ⊢
    rcases second with second | ⟨second, ids⟩
    · rcases first with first | ⟨first, _⟩
      · exact .inl (first.trans second)
      · exact .inl (first ▸ second)
    · rcases first with first | ⟨first, ids'⟩
      · exact .inl (second ▸ first)
      · exact .inr ⟨second.trans first, ids'.trans ids⟩

theorem isAfter_of_le (ordered : a.le julianday b = true) (apart : a.driveId ≠ b.driveId) :
    b.isAfter julianday (some (a.finishedAt, a.driveId)) = true := by
  rw [candidate_le_iff] at ordered
  rw [isAfter_some]
  exact ordered.imp id fun ⟨same, ids⟩ => ⟨same.symm, lt_of_le_of_ne ids apart⟩

theorem not_isAfter_self : ¬a.isAfter julianday (some (a.finishedAt, a.driveId)) = true := by
  rw [isAfter_some]
  rintro (before | ⟨_, before⟩)
  · exact lt_irrefl _ before
  · exact lt_irrefl _ before

end Order

section Pages

variable (julianday : Instant → ℤ) {db : Database} {cursor : Option (Instant × String)}
variable {candidate : ExportedDriveRetentionCandidate}

def following (db : Database) (cursor : Option (Instant × String)) :
    List ExportedDriveRetentionCandidate :=
  ((db.drives.rows.filterMap Drive.candidate?).filter (·.isAfter julianday cursor)).mergeSort
    (ExportedDriveRetentionCandidate.le julianday)

theorem mem_following : candidate ∈ following julianday db cursor ↔
    Selected db candidate ∧ candidate.isAfter julianday cursor = true := by
  rw [following, List.mem_mergeSort, List.mem_filter, mem_filterMap_candidate?]

theorem following_nodup : ((following julianday db cursor).map (·.driveId)).Nodup := by
  have distinct := filterMap_driveId_nodup db.drives.rows db.drives.distinct
  have sublist : ((db.drives.rows.filterMap Drive.candidate?).filter
      (·.isAfter julianday cursor)).Sublist (db.drives.rows.filterMap Drive.candidate?) :=
    List.filter_sublist
  exact ((List.mergeSort_perm _ _).map _).nodup_iff.mpr ((sublist.map _).nodup distinct)

theorem following_sorted : (following julianday db cursor).Pairwise
    fun a b => a.le julianday b = true := by
  apply List.pairwise_mergeSort
  · exact fun a b c => candidate_le_trans julianday
  · exact fun a b => candidate_le_total julianday

theorem exportedRecoveryCandidates_eq (whole : db.Whole) (maximumCandidates : ℕ) :
    exportedRecoveryCandidates julianday db maximumCandidates cursor =
      (following julianday db cursor).take maximumCandidates := by
  refine List.filter_eq_self.mpr fun candidate mem => ?_
  exact ((mem_following julianday).mp (List.mem_of_mem_take mem)).1.sha256Pattern whole

theorem mem_take_or_isAfter {limit : ℕ} {last : ExportedDriveRetentionCandidate}
    (isLast : ((following julianday db cursor).take limit).getLast? = some last)
    (mem : candidate ∈ following julianday db cursor) :
    candidate ∈ (following julianday db cursor).take limit ∨
      candidate.isAfter julianday (some (last.finishedAt, last.driveId)) = true := by
  rw [← List.take_append_drop limit (following julianday db cursor), List.mem_append] at mem
  refine mem.imp id fun later => ?_
  have sorted := @following_sorted julianday db cursor
  have distinct := @following_nodup julianday db cursor
  rw [← List.take_append_drop limit (following julianday db cursor)] at sorted distinct
  have onPage := List.mem_of_getLast? isLast
  rw [List.map_append, List.nodup_append] at distinct
  refine isAfter_of_le julianday ((List.pairwise_append.mp sorted).2.2 last onPage candidate later)
    fun same => ?_
  exact distinct.2.2 _ (List.mem_map_of_mem onPage) _ (List.mem_map_of_mem later) same

theorem following_length_lt {next : Database} {last : ExportedDriveRetentionCandidate}
    (fewer : ∀ candidate, Selected next candidate → Selected db candidate)
    (mem : last ∈ following julianday db cursor) :
    (following julianday next (some (last.finishedAt, last.driveId))).length <
      (following julianday db cursor).length := by
  have isAfter := ((mem_following julianday).mp mem).2
  have distinct : (last :: following julianday next
      (some (last.finishedAt, last.driveId))).Nodup := by
    refine List.nodup_cons.mpr ⟨fun again => ?_, (@following_nodup julianday next _).of_map⟩
    exact not_isAfter_self julianday ((mem_following julianday).mp again).2
  refine (List.subperm_of_subset distinct fun candidate isLater => ?_).length_le
  rcases List.mem_cons.mp isLater with rfl | isLater
  · exact mem
  · obtain ⟨selected, later⟩ := (mem_following julianday).mp isLater
    exact (mem_following julianday).mpr
      ⟨fewer candidate selected, isAfter_trans julianday isAfter later⟩

end Pages

section Worlds

variable {w later : World} {candidate : ExportedDriveRetentionCandidate}

def World.Neither (w : World) (driveId sha256 : String) : Prop :=
  w.ready driveId = none ∧ w.isExactServerVerificationReceipt driveId sha256 = false

def World.Rearmed (w : World) (driveId : String) : Prop :=
  ∃ drive ∈ w.db.drives, drive.driveId = driveId ∧ drive.exportable = true ∧
    drive.exportStatus = .waitingForBackup ∧ drive.bundleSha256 = none

/-- From `w` to `later` the drives of `looked` were decided, each at one of the moments. -/
structure Reconciled (moment : World → Prop)
    (looked : ExportedDriveRetentionCandidate → Prop) (w later : World) : Prop where
  sound : later.Sound
  kept : ∀ drive ∈ w.db.drives, drive.exportable = true → drive.exportStatus ≠ .exported →
    drive ∈ later.db.drives
  selected : ∀ candidate, Selected later.db candidate → Selected w.db candidate
  decided : ∀ candidate, Selected w.db candidate → looked candidate → ∃ m, moment m ∧
    (m.Neither candidate.driveId candidate.bundleSha256 ∧ later.Rearmed candidate.driveId ∨
      ¬m.Neither candidate.driveId candidate.bundleSha256 ∧ Selected later.db candidate)
  rest : ∀ candidate, Selected w.db candidate → ¬looked candidate → Selected later.db candidate

variable {moment : World → Prop} {looked looked' : ExportedDriveRetentionCandidate → Prop}

theorem Reconciled.env (sound : w.Sound) (steps : ReflTransGen Surroundings w later) :
    Reconciled moment (fun _ => False) w later := by
  induction steps with
  | refl =>
    exact ⟨sound, fun _ mem _ _ => mem, fun _ selected => selected, fun _ _ none => none.elim,
      fun _ selected _ => selected⟩
  | @tail between last _ step ih =>
    have sound' : last.Sound := (surroundings_keeps step).sound ih.sound
    have grows : Grows between.db last.db := by
      cases step with
      | registers bundle => exact .refl _
      | acknowledges driveId receipt backed => exact .refl _
      | removes driveId archive isThere isRegistered => exact .refl _
      | records call recording => exact call_grows call recording
    refine ⟨sound', fun drive mem settled waiting => ?_, fun candidate selected => ?_,
      fun _ _ none => none.elim, fun candidate selected none => ?_⟩
    · exact grows.settled drive (ih.kept drive mem settled waiting) settled
    · exact ih.selected candidate ((grows.selected_iff ih.sound.whole).mp selected)
    · exact (grows.selected_iff ih.sound.whole).mpr (ih.rest candidate selected none)

theorem Reconciled.trans {between : World} (first : Reconciled moment looked w between)
    (second : Reconciled moment looked' between later) :
    Reconciled moment (fun candidate => looked candidate ∨ looked' candidate) w later := by
  have rearmed {driveId : String} (before : between.Rearmed driveId) : later.Rearmed driveId := by
    obtain ⟨drive, mem, same, settled, waiting, noHash⟩ := before
    have still := second.kept drive mem settled (by rw [waiting]; exact fun same => (by cases same))
    exact ⟨drive, still, same, settled, waiting, noHash⟩
  refine ⟨second.sound, fun drive mem settled waiting => ?_, fun candidate selected => ?_,
    fun candidate selected done => ?_, fun candidate selected none => ?_⟩
  · exact second.kept drive (first.kept drive mem settled waiting) settled waiting
  · exact first.selected candidate (second.selected candidate selected)
  · by_cases again : looked' candidate
    · by_cases before : looked candidate
      · obtain ⟨m, isMoment, ⟨neither, now⟩ | ⟨some, still⟩⟩ := first.decided candidate selected before
        · exact ⟨m, isMoment, .inl ⟨neither, rearmed now⟩⟩
        · exact second.decided candidate still again
      · exact second.decided candidate (first.rest candidate selected before) again
    · have before := done.resolve_right again
      obtain ⟨m, isMoment, ⟨neither, now⟩ | ⟨some, still⟩⟩ := first.decided candidate selected before
      · exact ⟨m, isMoment, .inl ⟨neither, rearmed now⟩⟩
      · exact ⟨m, isMoment, .inr ⟨some, second.rest candidate still again⟩⟩
  · obtain ⟨notFirst, notSecond⟩ := not_or.mp none
    exact second.rest candidate (first.rest candidate selected notFirst) notSecond

theorem Reconciled.congr (reconciled : Reconciled moment looked w later)
    (same : ∀ candidate, Selected w.db candidate → (looked candidate ↔ looked' candidate)) :
    Reconciled moment looked' w later where
  sound := reconciled.sound
  kept := reconciled.kept
  selected := reconciled.selected
  decided candidate selected done :=
    reconciled.decided candidate selected ((same candidate selected).mpr done)
  rest candidate selected none :=
    reconciled.rest candidate selected fun done => none ((same candidate selected).mp done)

theorem Reconciled.leaves {m : World} (isMoment : moment m) (reconciled :
      Reconciled moment (fun _ => False) w later)
    (some : ¬m.Neither candidate.driveId candidate.bundleSha256) :
    Reconciled moment (· = candidate) w later where
  sound := reconciled.sound
  kept := reconciled.kept
  selected := reconciled.selected
  decided other selected same := by
    subst same
    exact ⟨m, isMoment, .inr ⟨some, reconciled.rest other selected id⟩⟩
  rest other selected _ := reconciled.rest other selected id

theorem Reconciled.mono {moment' : World → Prop} (weaker : ∀ m, moment m → moment' m)
    (reconciled : Reconciled moment looked w later) : Reconciled moment' looked w later where
  sound := reconciled.sound
  kept := reconciled.kept
  selected := reconciled.selected
  decided candidate selected done := by
    obtain ⟨m, isMoment, outcome⟩ := reconciled.decided candidate selected done
    exact ⟨m, weaker m isMoment, outcome⟩
  rest := reconciled.rest

theorem reset_reconciled {m : World} (isMoment : moment m) (sound : w.Sound)
    (selected : Selected w.db candidate)
    (neither : m.Neither candidate.driveId candidate.bundleSha256) :
    Reconciled moment (· = candidate) w
      { w with db := (resetMissingExport w.db candidate.driveId candidate.bundleSha256).1 } := by
  have keeps := @resetMissingExport_keeps w candidate.driveId candidate.bundleSha256
  obtain ⟨drive, mem, isCandidate⟩ := selected
  obtain ⟨terminal, exported, sameId, isFinish, isHash⟩ := candidate?_eq_some.mp isCandidate
  have found : w.db.drives.find? candidate.driveId = some drive := sameId ▸ Table.find?_self mem
  have still : (w.db.drives.find? candidate.driveId).any
      (·.exportedAs candidate.bundleSha256) = true := by
    simp [found, Drive.exportedAs, terminal, exported, isHash]
  have resets : resetMissingExport w.db candidate.driveId candidate.bundleSha256 =
      (w.db.modifyDrive candidate.driveId
        (fun drive => { drive with exportStatus := .waitingForBackup, bundleSha256 := none })
        fun _ => rfl, true) := by
    unfold resetMissingExport
    rw [if_pos still]
  have settled := ((sound.whole drive mem).exported exported).1
  rw [resets] at keeps ⊢
  refine ⟨keeps.sound sound, fun row isRow rowSettled waiting => ?_,
    fun other isSelected => ?_, fun other _ same => ?_, fun other isSelected apart => ?_⟩
  · refine mem_modifyDrive.mpr ⟨row, isRow, if_neg fun same => waiting ?_⟩
    rw [eq_of_find? found isRow same]
    exact exported
  · obtain ⟨row, isRow, isOther⟩ := isSelected
    obtain ⟨before, isBefore, rfl⟩ := mem_modifyDrive.mp isRow
    split at isOther
    · have waiting := (candidate?_eq_some.mp isOther).2.1
      cases waiting
    · exact ⟨before, isBefore, isOther⟩
  · subst same
    refine ⟨m, isMoment, .inl ⟨neither, _, mem_modifyDrive.mpr ⟨drive, mem, if_pos sameId⟩, sameId,
      settled, rfl, rfl⟩⟩
  · obtain ⟨row, isRow, isOther⟩ := isSelected
    refine ⟨row, mem_modifyDrive.mpr ⟨row, isRow, if_neg fun same => apart ?_⟩, isOther⟩
    rw [eq_of_find? found isRow same, isCandidate] at isOther
    exact (Option.some.inj isOther).symm

end Worlds

section Runs

variable {w later : World} {states : List World} {reset count : ℕ}

theorem absent_steps {driveId : String} (absent : w.ready driveId = none)
    (steps : ReflTransGen Surroundings w later) : later.ready driveId = none :=
  (absent_stable driveId).steps absent steps

theorem reconcilePage_run (candidates : List ExportedDriveRetentionCandidate) (sound : w.Sound)
    (selected : ∀ candidate ∈ candidates, Selected w.db candidate)
    (distinct : (candidates.map (·.driveId)).Nodup)
    (run : Completes Surroundings (reconcilePage candidates reset) w states count later) :
    Reconciled (· ∈ states) (· ∈ candidates) w later := by
  induction candidates generalizing w reset states with
  | nil =>
    exact (Reconciled.env sound run.of_pure.2).congr fun candidate _ => by simp
  | cons candidate rest ih =>
    rw [List.map_cons, List.nodup_cons] at distinct
    have isSelected := selected candidate List.mem_cons_self
    -- What has been decided of the first candidate, and the run through the others.
    have continues {between : World} {reset : ℕ} {after : List World}
        (first : Reconciled (· ∈ states) (· = candidate) w between)
        (run : Completes Surroundings (reconcilePage rest reset) between after count later)
        (inside : ∀ m ∈ after, m ∈ states) :
        Reconciled (· ∈ states) (· ∈ candidate :: rest) w later := by
      have others (other : ExportedDriveRetentionCandidate) (mem : other ∈ rest) :
          Selected between.db other := by
        refine first.rest other (selected other (List.mem_cons_of_mem _ mem)) fun same => ?_
        exact distinct.1 (same ▸ List.mem_map_of_mem mem)
      have decided := (ih first.sound others distinct.2 run).mono inside
      exact (first.trans decided).congr fun other _ => by simp
    unfold reconcilePage at run
    obtain ⟨isThere, w₁, states₁, after₁, looks, run, inside₁, inAfter₁⟩ := run.of_bind
    obtain ⟨m₁, mem₁, steps₁, rfl, stepsOn₁⟩ := looks.of_read
    have before₁ : Reconciled (· ∈ states) (fun _ => False) w w₁ :=
      .env sound (steps₁.trans stepsOn₁)
    split at run
    · rename_i hasBundle
      refine continues (before₁.leaves (inside₁ m₁ mem₁) fun neither => ?_) run inAfter₁
      rw [World.hasBundle, neither.1] at hasBundle
      cases hasBundle
    · rename_i noBundle
      have absent : m₁.ready candidate.driveId = none := by
        simpa [World.hasBundle] using noBundle
      obtain ⟨isExact, w₂, states₂, after₂, looks, run, inside₂, inAfter₂⟩ := run.of_bind
      obtain ⟨m₂, mem₂, steps₂, rfl, stepsOn₂⟩ := looks.of_read
      have isMoment₂ : m₂ ∈ states := inAfter₁ m₂ (inside₂ m₂ mem₂)
      have absent₂ := absent_steps absent (stepsOn₁.trans steps₂)
      have inAfter₂ (m : World) (mem : m ∈ after₂) : m ∈ states := inAfter₁ m (inAfter₂ m mem)
      have before₂ : Reconciled (· ∈ states) (fun _ => False) w w₂ :=
        .env sound ((steps₁.trans stepsOn₁).trans (steps₂.trans stepsOn₂))
      split at run
      · rename_i isExact
        refine continues (before₂.leaves isMoment₂ fun neither => ?_) run inAfter₂
        rw [neither.2] at isExact
        cases isExact
      · rename_i notExact
        have neither : m₂.Neither candidate.driveId candidate.bundleSha256 :=
          ⟨absent₂, by simpa using notExact⟩
        obtain ⟨changed, w₃, states₃, after₃, resets, run, inside₃, inAfter₃⟩ := run.of_bind
        obtain ⟨m₃, mem₃, steps₃, rfl, stepsOn₃⟩ := resets.of_transact
        have before₃ : Reconciled (· ∈ states) (fun _ => False) w m₃ :=
          .env sound (((steps₁.trans stepsOn₁).trans (steps₂.trans stepsOn₂)).trans steps₃)
        have still := before₃.rest candidate isSelected id
        have resets₃ := reset_reconciled isMoment₂ before₃.sound still neither
        have settles₃ := before₃.trans resets₃
        have first : Reconciled (· ∈ states) (· = candidate) w w₃ :=
          (settles₃.trans (.env resets₃.sound stepsOn₃)).congr fun other _ => by simp
        have inAfter₃ (m : World) (mem : m ∈ after₃) : m ∈ states := inAfter₂ m (inAfter₃ m mem)
        split at run
        · exact continues first run inAfter₃
        · exact continues first run inAfter₃

theorem reconcilePages_run (julianday : Instant → ℤ) (pages : ℕ)
    {cursor : Option (Instant × String)} {result : Option ℕ} (sound : w.Sound)
    (run : Completes Surroundings (reconcilePages julianday pages cursor reset) w states result
      later) :
    ((following julianday w.db cursor).length < pages → result.isSome = true) ∧
      (result.isSome = true →
        Reconciled (· ∈ states) (·.isAfter julianday cursor = true) w later) := by
  induction pages generalizing w cursor reset states with
  | zero =>
    refine ⟨fun more => absurd more (Nat.not_lt_zero _), fun some => ?_⟩
    rw [run.of_pure.1] at some
    cases some
  | succ pages ih =>
    unfold reconcilePages at run
    obtain ⟨candidates, w₁, states₁, after₁, looks, run, inside₁, inAfter₁⟩ := run.of_bind
    obtain ⟨m₁, mem₁, steps₁, isPage, stepsOn₁⟩ := looks.of_read
    have toPage : Reconciled (· ∈ states) (fun _ => False) w m₁ := .env sound steps₁
    have before : Reconciled (· ∈ states) (fun _ => False) w w₁ :=
      .env sound (steps₁.trans stepsOn₁)
    rw [exportedRecoveryCandidates_eq julianday toPage.sound.whole] at isPage
    split at run
    · rename_i noLast
      -- No row follows the cursor.
      have nothing : candidates = [] := List.getLast?_eq_none_iff.mp noLast
      have none : following julianday m₁.db cursor = [] := by
        rw [nothing] at isPage
        rcases List.take_eq_nil_iff.mp isPage.symm with zero | none
        · cases zero
        · exact none
      obtain ⟨rfl, stepsOn⟩ := run.of_pure
      refine ⟨fun _ => rfl, fun _ => ?_⟩
      refine (Reconciled.env sound ((steps₁.trans stepsOn₁).trans stepsOn)).congr
        fun candidate selected => ⟨False.elim, fun isAfter => ?_⟩
      have mem := (mem_following julianday).mpr ⟨toPage.rest candidate selected id, isAfter⟩
      rw [none] at mem
      cases mem
    · rename_i last isLast
      obtain ⟨count, w₂, states₂, after₂, pageRun, run, inside₂, inAfter₂⟩ := run.of_bind
      have onPage (candidate : ExportedDriveRetentionCandidate) (mem : candidate ∈ candidates) :
          candidate ∈ following julianday m₁.db cursor := by
        rw [isPage] at mem
        exact List.mem_of_mem_take mem
      have selected₁ (candidate : ExportedDriveRetentionCandidate) (mem : candidate ∈ candidates) :
          Selected w₁.db candidate := by
        have onFirst := ((mem_following julianday).mp (onPage candidate mem)).1
        exact before.rest candidate (toPage.selected candidate onFirst) id
      have distinct : (candidates.map (·.driveId)).Nodup := by
        rw [isPage]
        exact ((List.take_sublist _ _).map _).nodup (@following_nodup julianday m₁.db cursor)
      have page := (reconcilePage_run candidates before.sound selected₁ distinct pageRun).mono
        fun m mem => inAfter₁ m (inside₂ m mem)
      have paged : Reconciled (· ∈ states) (· ∈ candidates) w w₂ :=
        (before.trans page).congr fun candidate _ => by simp
      have isLastOnPage : ((following julianday m₁.db cursor).take recoveryPage).getLast? =
          some last := by
        rw [← isPage]
        exact isLast
      split at run
      · rename_i short
        obtain ⟨rfl, stepsOn⟩ := run.of_pure
        refine ⟨fun _ => rfl, fun _ => ?_⟩
        have ends := paged.trans (.env paged.sound stepsOn)
        refine ends.congr fun candidate selected => ⟨fun mem => ?_, fun isAfter => .inl ?_⟩
        · exact ((mem_following julianday).mp (onPage candidate (by simpa using mem))).2
        · have mem := (mem_following julianday).mpr ⟨toPage.rest candidate selected id, isAfter⟩
          rw [isPage, List.length_take] at short
          rw [isPage, List.take_of_length_le (by omega)]
          exact mem
      · have lastMem := List.mem_of_getLast? isLast
        obtain ⟨returns, decides⟩ := ih paged.sound run
        refine ⟨fun more => returns ?_, fun isSome => ?_⟩
        · have fewer := following_length_lt julianday
            (fun candidate selected => paged.selected candidate selected)
            ((mem_following julianday).mpr
              ⟨toPage.selected last ((mem_following julianday).mp (onPage last lastMem)).1,
                ((mem_following julianday).mp (onPage last lastMem)).2⟩)
          omega
        · have rest := (decides isSome).mono fun m mem => inAfter₁ m (inAfter₂ m mem)
          refine (paged.trans rest).congr fun candidate selected => ⟨?_, fun isAfter => ?_⟩
          · rintro (mem | isLater)
            · exact ((mem_following julianday).mp (onPage candidate mem)).2
            · exact isAfter_trans julianday
                ((mem_following julianday).mp (onPage last lastMem)).2 isLater
          · have mem := (mem_following julianday).mpr ⟨toPage.rest candidate selected id, isAfter⟩
            rw [isPage]
            exact mem_take_or_isAfter julianday isLastOnPage mem

end Runs

section Service

/-- The rows that the drive had are on the unit; or they were deleted since, and a bundle with the
hash they had stands in `ready/` or is registered. -/
def World.Holds (w later : World) (driveId : String) : Prop :=
  (∀ sample ∈ w.db.samplesOf driveId, sample ∈ later.db.samples) ∨
    ∃ newer, later.pruned = newer ++ w.pruned ∧
      ∃ sha256, ⟨driveId, sha256⟩ ∈ newer ∧ later.Proven ⟨driveId, sha256⟩

/-- Where the row of a drive goes, enough exported drives are left; and a drive is pruned under the
hash that is recorded of it. -/
def World.Retains (w next : World) : Prop :=
  ((∃ drive ∈ w.db.drives, ∀ kept ∈ next.db.drives, kept.driveId ≠ drive.driveId) →
    retainRecentExportedDrives ≤ eligibleCount next.db) ∧
  ∃ newer, next.pruned = newer ++ w.pruned ∧
    ∀ bundle ∈ newer, ∃ drive ∈ w.db.drives, drive.driveId = bundle.driveId ∧
      drive.bundleSha256 = some bundle.bundleSha256

/-- The drives that wait for their export again are the exported ones that had neither a bundle
nor a receipt when they were looked at. -/
def World.Reconciles (states : List World) (w later : World) : Prop :=
  (∀ drive ∈ w.db.drives, drive.exportStatus = .exported →
    ∃ sha256, drive.bundleSha256 = some sha256 ∧ ∃ m ∈ states,
      (later.Rearmed drive.driveId ↔ m.Neither drive.driveId sha256) ∧
      (¬m.Neither drive.driveId sha256 → ∃ kept ∈ later.db.drives,
        kept.driveId = drive.driveId ∧ kept.exportStatus = .exported ∧
          kept.bundleSha256 = some sha256)) ∧
  ∀ drive ∈ w.db.drives, drive.exportable = true → drive.exportStatus ≠ .exported →
    drive ∈ later.db.drives

variable {w : World} {before : Process World}

theorem reconciles_of {moment : World → Prop} {looked : ExportedDriveRetentionCandidate → Prop}
    {states : List World} {later : World} (sound : w.Sound)
    (isMoment : ∀ m, moment m → m ∈ states) (all : ∀ candidate, looked candidate)
    (reconciled : Reconciled moment looked w later) : World.Reconciles states w later := by
  refine ⟨fun drive mem exported => ?_, reconciled.kept⟩
  obtain ⟨candidate, isCandidate⟩ := selected_of_exported sound.whole mem exported
  obtain ⟨_, _, sameId, _, isHash⟩ := candidate?_eq_some.mp isCandidate
  obtain ⟨m, isM, outcome⟩ :=
    reconciled.decided candidate ⟨drive, mem, isCandidate⟩ (all candidate)
  refine ⟨candidate.bundleSha256, isHash, m, isMoment m isM, ?_⟩
  rw [sameId]
  obtain ⟨neither, rearmed⟩ | ⟨some, row, isRow, isSelected⟩ := outcome
  · exact ⟨⟨fun _ => neither, fun _ => rearmed⟩, fun some => absurd neither some⟩
  · obtain ⟨_, still, sameId', _, sameHash⟩ := candidate?_eq_some.mp isSelected
    refine ⟨⟨fun ⟨other, isOther, owner, _, waiting, _⟩ => ?_, fun neither => absurd neither some⟩,
      fun _ => ⟨row, isRow, sameId', still, sameHash⟩⟩
    rw [Table.eq_of_key isOther isRow (owner.trans sameId'.symm), still] at waiting
    cases waiting

/-- Whatever the service and its surroundings do, and wherever its process dies. -/
theorem drives_kept (whitespace : Char → Bool) (julianday : Instant → ℤ) (initial : w.Initial)
    (reached : ReflTransGen (Service whitespace julianday) (.idle w) before) :
    (∀ after driveId, ReflTransGen (Service whitespace julianday) before after →
      before.state.Holds after.state driveId) ∧
    (∀ after, Service whitespace julianday before after →
      before.state.Retains after.state) ∧
    ∀ pages states result later,
      Completes Surroundings (reconcileMissingExports julianday pages) before.state states result
        later →
      (eligibleCount before.state.db < pages → result.isSome = true) ∧
        (result.isSome = true → World.Reconciles states before.state later) := by
  have serving := service_steps (serving_idle initial) reached
  refine ⟨fun after driveId steps => ?_, fun after step => ?_,
    fun pages states result later run => ?_⟩
  · obtain ⟨newer, isNewer, rows⟩ := service_samples serving steps
    have proven := (service_steps serving steps).1.pruned
    by_cases pruned : ∃ sha256, ⟨driveId, sha256⟩ ∈ newer
    · obtain ⟨sha256, isPruned⟩ := pruned
      refine .inr ⟨newer, isNewer, sha256, isPruned, proven _ ?_⟩
      rw [isNewer]
      exact List.mem_append_left _ isPruned
    · refine .inl fun sample mem => ?_
      obtain ⟨isRow, owner⟩ := samplesOf_mem mem
      refine (rows sample isRow).resolve_right fun isPruned => pruned ?_
      rw [owner] at isPruned
      exact isPruned
  · have keeps := (service_step serving step).2
    obtain ⟨newer, isNewer, _, recorded⟩ := keeps.samples
    exact ⟨keeps.retained, newer, isNewer, recorded⟩
  · obtain ⟨returns, decides⟩ := reconcilePages_run julianday pages serving.1 run
    refine ⟨fun more => returns ?_, fun isSome => ?_⟩
    · have all : (following julianday before.state.db none).length =
          eligibleCount before.state.db := by
        simp [following, ExportedDriveRetentionCandidate.isAfter, eligibleCount]
      rw [all]
      exact more
    · exact reconciles_of serving.1 (fun _ mem => mem) (fun _ => rfl) (decides isSome)

def emptyUnit : World where
  db := .empty
  partials _ := none
  ready _ := none
  receipts _ := none
  registered := []
  pruned := []

def recordedUnit : World :=
  { emptyUnit with
    db := ((emptyUnit.db.call (.startDrive "d1" 0 8)).call
      (.addSample ⟨"d1", 1, 5, "ok", true⟩)).call
      (.finalizeDrive "d1" { stopReason := "engine_stopped", noticed := 6, finalised := 7 }) }

theorem drives_kept_recorded :
    recordedUnit.Holds { recordedUnit with registered := [⟨"d2", "ab"⟩] } "d1" := by
  have initial : emptyUnit.Initial := ⟨rfl, rfl, fun driveId receipt isThere => by cases isThere⟩
  have records (w : World) (call : Call) (recording : call.recording = true) :
      Service (fun _ => false) id (.idle w) (.idle { w with db := w.db.call call }) :=
    .env (.records w call recording)
  have reached : ReflTransGen (Service (fun _ => false) id) (.idle emptyUnit)
      (.idle recordedUnit) :=
    ((ReflTransGen.single (records _ (.startDrive "d1" 0 8) rfl)).tail
      (records _ (.addSample ⟨"d1", 1, 5, "ok", true⟩) rfl)).tail
      (records _ (.finalizeDrive "d1"
        { stopReason := "engine_stopped", noticed := 6, finalised := 7 }) rfl)
  exact (drives_kept (fun _ => false) id initial reached).1
    (.idle { recordedUnit with registered := [⟨"d2", "ab"⟩] }) "d1"
    (.single (.env (.registers recordedUnit ⟨"d2", "ab"⟩)))

end Service

end DashcamStats.Drives
