import DashcamStats.Indexing.DamagedPolicy

namespace DashcamStats.Indexing

open Relation (ReflTransGen)
open Queue (RecordingState)

section Rows

variable {Digest : Type} {bytes judged : List UInt8} {row before after stored : Row Digest}

/-- A row that says damaged only of the bytes that are there, and is none that an earlier version
has hidden by its state -/
structure Fits (bytes judged : List UInt8) (row : Row Digest) : Prop where
  current : row.state ≠ .ignored
  about : isDamaged row = true → bytes = judged

theorem isDamaged_iff : isDamaged row = true ↔
    row.state = .invalid ∨ row.probe.sourceUnusable = true ∨ row.probe.noUsableFrame = true := by
  simp only [isDamaged, Bool.or_eq_true, decide_eq_true_eq, or_assoc]

theorem Fits.of_columns {row' : Row Digest} (fits : Fits bytes judged row)
    (state : row'.state = row.state ∨ row'.state ≠ .invalid ∧ row'.state ≠ .ignored)
    (unusable : row'.probe.sourceUnusable = row.probe.sourceUnusable)
    (noFrame : row'.probe.noUsableFrame = row.probe.noUsableFrame) : Fits bytes judged row' := by
  refine ⟨?_, fun damaged => fits.about (isDamaged_iff.mpr ?_)⟩
  · rcases state with same | ⟨-, current⟩
    · exact same ▸ fits.current
    · exact current
  · rcases isDamaged_iff.mp damaged with invalid | flags
    · rcases state with same | ⟨apart, -⟩
      · exact .inl (same ▸ invalid)
      · exact absurd invalid apart
    · exact .inr (unusable ▸ noFrame ▸ flags)

theorem written_eq {α : Type} [DecidableEq α] (old new kept : α) :
    written old new kept = new ∨ written old new kept = kept := by
  unfold written
  split
  · exact .inr rfl
  · exact .inl rfl

theorem fits_write [DecidableEq Digest] (new : Fits bytes judged after)
    (kept : Fits bytes judged stored) : Fits bytes judged (Row.write before after stored) := by
  have state := written_eq before.state after.state stored.state
  have probe := written_eq before.probe after.probe stored.probe
  refine ⟨?_, fun damaged => ?_⟩
  · rcases state with same | same
    · exact fun ignored => new.current (same.symm.trans ignored)
    · exact fun ignored => kept.current (same.symm.trans ignored)
  · rcases isDamaged_iff.mp damaged with invalid | flags
    · rcases state with same | same
      · exact new.about (isDamaged_iff.mpr (.inl (same.symm.trans invalid)))
      · exact kept.about (isDamaged_iff.mpr (.inl (same.symm.trans invalid)))
    · rcases probe with same | same
      · exact new.about (isDamaged_iff.mpr (.inr (same ▸ flags)))
      · exact kept.about (isDamaged_iff.mpr (.inr (same ▸ flags)))

end Rows

section Reconcile

variable {Digest : Type} {entry : Stat} {nowNs settleNs : ℤ} {reading : Reading Digest}
  {row : Row Digest}

/-- A row with the same `probe_json` whose state is not one of a verdict, if it is new -/
structure Follows (row after : Row Digest) : Prop where
  probe : after.probe = row.probe
  state : after.state = row.state ∨ after.state ≠ .invalid ∧ after.state ≠ .ignored

theorem Follows.refl (row : Row Digest) : Follows row row := ⟨rfl, .inl rfl⟩

theorem Follows.trans {middle after : Row Digest} (first : Follows row middle)
    (second : Follows middle after) : Follows row after := by
  refine ⟨second.probe.trans first.probe, ?_⟩
  rcases second.state with same | apart
  · rw [same]
    exact first.state
  · exact .inr apart

theorem reappear_follows (row : Row Digest) : Follows row (reappear row) := by
  unfold reappear
  split
  · split
    · exact ⟨rfl, .inr ⟨by simp, by simp⟩⟩
    · exact ⟨rfl, .inl rfl⟩
  · exact .refl row

theorem hold_follows (row : Row Digest) : Follows row (hold row) := by
  unfold hold
  split
  · exact ⟨rfl, .inr ⟨by simp, by simp⟩⟩
  · exact .refl row

theorem unsettle_follows (row : Row Digest) : Follows row (unsettle row) := by
  unfold unsettle
  split
  · exact ⟨rfl, .inr ⟨by simp, by simp⟩⟩
  · exact .refl row

theorem defer_follows (after : Stat) (row : Row Digest) : Follows row (defer after row) := by
  unfold defer
  split
  · exact ⟨rfl, .inr ⟨by simp, by simp⟩⟩
  · exact ⟨rfl, .inl rfl⟩

theorem assess_invalid {previous : Option Stat}
    (verdict : assess entry nowNs settleNs previous = .invalid) : entry.size = 0 := by
  unfold assess at verdict
  dsimp only at verdict
  split at verdict
  · cases verdict
  · split at verdict
    · cases verdict
    · split at verdict
      next empty => exact empty
      next => cases verdict

theorem discover_state {verdict : Readiness} {after : Row Digest}
    (made : discover entry verdict reading = some after) :
    after.probe = .empty ∧ after.state ≠ .ignored ∧
      (after.state = .invalid → verdict = .invalid) := by
  unfold discover at made
  split at made
  · cases made
    exact ⟨rfl, by simp [markInvalid], fun _ => rfl⟩
  · cases made
    exact ⟨rfl, by simp, by simp⟩
  · split at made
    · split at made
      · cases made
        exact ⟨rfl, by simp [newRow], by simp [newRow]⟩
      · cases made
        exact ⟨rfl, by simp, by simp⟩
    · cases made

variable [DecidableEq Digest]

theorem record_follows (entry : Stat) (digest : Digest) (row : Row Digest) :
    Follows row (record entry digest row) := by
  unfold record
  split
  · refine ⟨rfl, ?_⟩
    by_cases settling : row.state = .settling
    · exact .inr ⟨by simp [settling], by simp [settling]⟩
    · exact .inl (if_neg settling)
  · exact ⟨rfl, .inr ⟨by simp, by simp⟩⟩

theorem refresh_follows (entry : Stat) (reading : Reading Digest) (row : Row Digest) :
    Follows row (refresh entry reading row) := by
  unfold refresh
  split
  · exact .refl row
  · split
    · split
      · exact record_follows entry _ row
      · exact defer_follows _ row
    · exact .refl row

theorem reconcile_follows {after : Row Digest}
    (made : reconcile entry nowNs settleNs reading (some row) = some after) :
    Follows row after ∨ after.probe = row.probe ∧ after.state = .invalid ∧
      assess entry nowNs settleNs (some row.seen) = .invalid := by
  have now : Follows row { reappear row with seen := entry } :=
    ⟨(reappear_follows row).probe, (reappear_follows row).state⟩
  unfold reconcile at made
  dsimp only at made
  split at made
  · cases made
    exact .inl (now.trans (hold_follows _))
  next verdict =>
    cases made
    split
    · exact .inr ⟨now.probe, rfl, verdict⟩
    · exact .inl now
  · cases made
    exact .inl (now.trans ((unsettle_follows _).trans (refresh_follows entry reading _)))

end Reconcile

section Policy

variable {Digest : Type} {bytes judged : List UInt8} {row : Row Digest} {action : Action}
  {deletable : Deletable}

theorem fits_restore (fits : Fits bytes judged row) :
    Fits bytes judged (restorePolicyHidden row) := by
  unfold restorePolicyHidden
  split
  · exact fits
  · split
    · exact fits
    · exact fits.of_columns (.inl (if_neg fits.current)) rfl rfl

theorem fits_policy (fits : Fits bytes judged row) :
    Fits bytes judged (applyDamagedPolicy action deletable row).row := by
  unfold applyDamagedPolicy
  split_ifs
  · exact fits_restore fits
  · exact fits
  · exact fits
  · exact fits.of_columns (.inl rfl) rfl rfl
  · exact fits.of_columns (.inr ⟨by simp, by simp⟩) rfl rfl
  · exact fits.of_columns (.inl rfl) rfl rfl

theorem damaged_of_unlinked (unlinked : (applyDamagedPolicy action deletable row).unlinked = true) :
    isDamaged row = true := by
  unfold applyDamagedPolicy at unlinked
  split at unlinked
  · cases unlinked
  next given =>
    rw [not_or, Bool.not_eq_false] at given
    exact given.2

end Policy

section System

variable {Digest : Type} {w w' : World Digest}

def ScanPhase.Fits (w : World Digest) : ScanPhase Digest → Prop
  | .idle | .scanned => True
  | .looked entry copy =>
    entry.size = w.file.bytes.length ∧ ∀ row ∈ copy, Indexing.Fits w.file.bytes w.judged row
  | .policing copy => Indexing.Fits w.file.bytes w.judged copy

def RunPhase.Fits (w : World Digest) : RunPhase Digest → Prop
  | .idle => True
  | .running copy bytes =>
    Indexing.Fits w.file.bytes w.judged copy ∧ ∀ read ∈ bytes, read = w.file.bytes
  | .ended copy => Indexing.Fits w.file.bytes w.judged copy

structure World.Sound (w : World Digest) : Prop where
  row : ∀ row ∈ w.row, Fits w.file.bytes w.judged row
  scan : w.scan.Fits w
  run : w.run.Fits w
  just : w.Just

theorem Fits.judge {bytes judged judged' : List UInt8} {row : Row Digest}
    (fits : Fits bytes judged row) (same : judged' = judged ∨ judged' = bytes) :
    Fits bytes judged' row := by
  refine ⟨fits.current, fun damaged => ?_⟩
  rcases same with same | same
  · exact (fits.about damaged).trans same.symm
  · exact same.symm

theorem judgedBy_eq {bytes : List UInt8} (judged : List UInt8) (verdict : Readiness)
    (empty : verdict = .invalid → bytes.length = 0) :
    judgedBy verdict judged = judged ∨ judgedBy verdict judged = bytes := by
  unfold judgedBy
  split
  next invalid => exact .inr (List.eq_nil_of_length_eq_zero (empty invalid)).symm
  next => exact .inl rfl

theorem ScanPhase.Fits.judge {phase : ScanPhase Digest} (fits : phase.Fits w)
    (file : w'.file.bytes = w.file.bytes)
    (same : w'.judged = w.judged ∨ w'.judged = w.file.bytes) : phase.Fits w' := by
  cases phase with
  | idle | scanned => trivial
  | looked entry copy =>
    refine ⟨fits.1.trans (congrArg _ file.symm), fun row mem => ?_⟩
    rw [file]
    exact (fits.2 row mem).judge same
  | policing copy =>
    have fits := Indexing.Fits.judge fits same
    rw [← file] at fits
    exact fits

theorem RunPhase.Fits.judge {phase : RunPhase Digest} (fits : phase.Fits w)
    (file : w'.file.bytes = w.file.bytes)
    (same : w'.judged = w.judged ∨ w'.judged = w.file.bytes) : phase.Fits w' := by
  cases phase with
  | idle => trivial
  | running copy bytes =>
    refine ⟨?_, fun read mem => (fits.2 read mem).trans file.symm⟩
    rw [file]
    exact fits.1.judge same
  | ended copy =>
    have fits := Indexing.Fits.judge fits same
    rw [← file] at fits
    exact fits

variable [DecidableEq Digest]

theorem fits_reconcile {entry : Stat} {copy : Option (Row Digest)} {nowNs settleNs : ℤ}
    {reading : Reading Digest} {after : Row Digest} {bytes judged : List UInt8}
    (made : reconcile entry nowNs settleNs reading copy = some after)
    (size : entry.size = bytes.length) (fits : ∀ row ∈ copy, Fits bytes judged row)
    (same : judgedBy (assess entry nowNs settleNs (copy.map Row.seen)) judged = judged ∨
      judgedBy (assess entry nowNs settleNs (copy.map Row.seen)) judged = bytes) :
    Fits bytes (judgedBy (assess entry nowNs settleNs (copy.map Row.seen)) judged) after := by
  have empty : ∀ {verdict : Readiness}, verdict = .invalid →
      (verdict = .invalid → entry.size = 0) → bytes = judgedBy verdict judged := by
    intro verdict invalid none
    rw [judgedBy, if_pos invalid]
    exact List.eq_nil_of_length_eq_zero (size.symm.trans (none invalid))
  cases copy with
  | none =>
    have ⟨probe, current, verdict⟩ := discover_state made
    refine ⟨current, fun damaged => ?_⟩
    rcases isDamaged_iff.mp damaged with invalid | flags
    · exact empty (verdict invalid) assess_invalid
    · rw [probe] at flags
      exact absurd flags (by decide)
  | some before =>
    have kept := (fits before rfl).judge same
    rcases reconcile_follows made with follows | ⟨probe, invalid, verdict⟩
    · exact kept.of_columns follows.state (congrArg _ follows.probe) (congrArg _ follows.probe)
    · exact ⟨by simp [invalid], fun _ => empty verdict assess_invalid⟩

theorem rows_store {before after : Row Digest} (sound : w.Sound)
    (fits : Fits w.file.bytes w.judged after) :
    ∀ row ∈ (w.store before after).row, Fits w.file.bytes w.judged row := by
  intro row mem
  obtain ⟨stored, isStored, rfl⟩ := Option.mem_map.mp mem
  exact fits_write fits (sound.row stored isStored)

theorem sound_police {copy : Row Digest} (action : Action) (deletable : Deletable)
    (sound : w.Sound) (fits : Fits w.file.bytes w.judged copy) :
    (∀ row ∈ (w.police action deletable copy).row, Fits w.file.bytes w.judged row) ∧
      (w.police action deletable copy).Just ∧
      (w.police action deletable copy).file = w.file ∧
      (w.police action deletable copy).judged = w.judged ∧
      (w.police action deletable copy).scan = w.scan ∧
      (w.police action deletable copy).run = w.run := by
  have rows : ∀ row ∈ (w.store copy (applyDamagedPolicy action deletable copy).row).row,
      Fits w.file.bytes w.judged row := rows_store sound (fits_policy fits)
  unfold World.police
  dsimp only
  split
  next unlinked =>
    refine ⟨rows, fun deletion mem => ?_, rfl, rfl, rfl, rfl⟩
    rcases List.mem_cons.mp mem with rfl | mem
    · exact fits.about (damaged_of_unlinked unlinked)
    · exact sound.just deletion mem
  next => exact ⟨rows, sound.just, rfl, rfl, rfl, rfl⟩

theorem sound_scans (sound : w.Sound) (step : Scans w w') : w'.Sound := by
  have scan := sound.scan
  cases step with
  | looks idle here => exact { sound with scan := ⟨rfl, sound.row⟩ }
  | @reconciles entry copy at_ nowNs settleNs reading after made =>
    rw [at_] at scan
    have same := judgedBy_eq w.judged (assess entry nowNs settleNs (copy.map Row.seen))
      fun verdict => scan.1.symm.trans (assess_invalid verdict)
    have fits := fits_reconcile made scan.1 scan.2 same
    refine { sound with
      row := fun row mem => ?_
      scan := trivial
      run := sound.run.judge rfl same }
    cases copy with
    | none =>
      cases mem
      exact fits
    | some before =>
      obtain ⟨stored, isStored, rfl⟩ := Option.mem_map.mp mem
      exact fits_write fits ((sound.row stored isStored).judge same)
  | raises at_ => exact { sound with scan := trivial }
  | misses idle gone =>
    refine { sound with row := fun row mem => ?_, scan := trivial }
    obtain ⟨stored, isStored, rfl⟩ := Option.mem_map.mp mem
    exact (sound.row stored isStored).of_columns (.inl rfl) rfl rfl
  | selects at_ stored action known =>
    exact { sound with scan := sound.row _ stored }
  | @polices copy at_ action deletable real =>
    rw [at_] at scan
    have ⟨rows, just, file, judged, _, run⟩ :=
      sound_police action deletable sound scan
    refine ⟨fun row mem => ?_, trivial, ?_, just⟩
    · exact file ▸ judged ▸ rows row mem
    · have fits : w.run.Fits (w.police action deletable copy) :=
        sound.run.judge (congrArg File.bytes file) (.inl judged)
      rw [← run] at fits
      cases isRun : (w.police action deletable copy).run <;> rw [isRun] at fits <;> exact fits
  | ends => exact { sound with scan := trivial }

theorem sound_runs (sound : w.Sound) (step : Runs w w') : w'.Sound := by
  have run := sound.run
  cases step with
  | @begins row idle stored =>
    have fits : Fits w.file.bytes w.judged { row with state := .processing } :=
      (sound.row row stored).of_columns (.inr ⟨by simp, by simp⟩) rfl rfl
    exact { sound with
      row := rows_store sound fits
      scan := sound.scan.judge rfl (.inl rfl)
      run := ⟨fits, fun _ mem => by cases mem⟩ }
  | @reads copy bytes at_ here =>
    rw [at_] at run
    exact { sound with run := ⟨run.1, fun read mem => (Option.some.inj mem).symm⟩ }
  | @inspects copy bytes at_ warned unusable noUsableFrame =>
    rw [at_] at run
    have here : bytes = w.file.bytes := run.2 bytes rfl
    have same : (if unusable || noUsableFrame then bytes else w.judged) = w.judged ∨
        (if unusable || noUsableFrame then bytes else w.judged) = w.file.bytes := by
      split
      · exact .inr here
      · exact .inl rfl
    have judge : ∀ row : Row Digest, Fits w.file.bytes w.judged row →
        Fits w.file.bytes (if unusable || noUsableFrame then bytes else w.judged) row :=
      fun row fits => fits.judge same
    have fits : Fits w.file.bytes (if unusable || noUsableFrame then bytes else w.judged)
        { copy with probe := ⟨warned, unusable, noUsableFrame, copy.probe.policy⟩ } := by
      refine ⟨run.1.current, fun damaged => ?_⟩
      rcases isDamaged_iff.mp damaged with invalid | flags
      · exact (judge copy run.1).about (isDamaged_iff.mpr (.inl invalid))
      · rw [if_pos (by simpa using flags)]
        exact here.symm
    refine { sound with
      row := fun row mem => ?_
      scan := sound.scan.judge rfl same
      run := ⟨fits, run.2⟩ }
    obtain ⟨stored, isStored, rfl⟩ := Option.mem_map.mp mem
    exact fits_write fits (judge stored (sound.row stored isStored))
  | @ends copy bytes at_ state verdict =>
    rw [at_] at run
    have fits : Fits w.file.bytes w.judged { copy with state := state } := by
      refine run.1.of_columns (.inr ?_) rfl rfl
      rcases verdict with rfl | rfl <;> exact ⟨by simp, by simp⟩
    exact { sound with
      row := rows_store sound fits
      scan := sound.scan.judge rfl (.inl rfl)
      run := fits }
  | @condemns copy bytes at_ =>
    rw [at_] at run
    have here : bytes = w.file.bytes := run.2 bytes rfl
    have fits : Fits w.file.bytes bytes { copy with state := .invalid } :=
      ⟨by simp, fun _ => here.symm⟩
    refine { sound with
      row := fun row mem => ?_
      scan := sound.scan.judge rfl (.inr here)
      run := fits }
    obtain ⟨stored, isStored, rfl⟩ := Option.mem_map.mp mem
    exact fits_write fits ((sound.row stored isStored).judge (.inr here))
  | @polices copy at_ action deletable real =>
    rw [at_] at run
    have ⟨rows, just, file, judged, scan, _⟩ :=
      sound_police action deletable sound run
    refine ⟨fun row mem => file ▸ judged ▸ rows row mem, ?_, trivial, just⟩
    have fits : w.scan.Fits (w.police action deletable copy) :=
      sound.scan.judge (congrArg File.bytes file) (.inl judged)
    rw [← scan] at fits
    cases isScan : (w.police action deletable copy).scan <;> rw [isScan] at fits <;> exact fits
  | dies => exact { sound with run := trivial }

theorem sound_step (sound : w.Sound) (step : Settled w w') : w'.Sound := by
  obtain ⟨step, calm⟩ := step
  cases step with
  | scans step => exact sound_scans sound step
  | runs step => exact sound_runs sound step
  | @queues row stored state waits =>
    refine { sound with row := fun row' mem => ?_ }
    cases mem
    refine (sound.row row stored).of_columns (.inr ?_) rfl rfl
    rcases waits with rfl | rfl | rfl <;> exact ⟨by simp, by simp⟩
  | replaces file =>
    by_cases same : file.bytes = w.file.bytes
    · refine ⟨fun row mem => ?_, sound.scan.judge same (.inl rfl),
        sound.run.judge same (.inl rfl), sound.just⟩
      exact same ▸ sound.row row mem
    · -- Nothing says damaged, so nothing is said about the bytes that were there.
      have ⟨scan, run, healthy⟩ := calm same
      refine ⟨fun row mem => ⟨(sound.row row mem).current, fun damaged => ?_⟩, ?_, ?_, sound.just⟩
      · rw [healthy row mem] at damaged
        cases damaged
      · rw [show World.scan _ = .idle from scan]
        trivial
      · rw [show World.run _ = .idle from run]
        trivial
  | vanishes =>
    exact { sound with
      scan := sound.scan.judge rfl (.inl rfl)
      run := sound.run.judge rfl (.inl rfl) }

theorem sound_run {file : File} (run : ReflTransGen Settled (World.fresh file) w) : w.Sound := by
  induction run with
  | refl =>
    exact ⟨(fun _ mem => by cases mem), trivial, trivial,
      fun _ mem => absurd mem List.not_mem_nil⟩
  | tail _ step ih => exact sound_step ih step

theorem deletions_judged {file : File} (run : ReflTransGen Settled (World.fresh file) w) : w.Just :=
  (sound_run run).just

def short : File := ⟨[7], 0⟩

def whole : File := ⟨[7, 8, 9], 5⟩

def indexed : Row ℕ :=
  { (newRow short.stat : Row ℕ) with fingerprint := some 1, fingerprinted := some short.stat }

theorem deletions_judged_short : ∃ w, ReflTransGen Settled (World.fresh short : World ℕ) w ∧
    w.deletions = [([7], [7])] ∧ w.Just := by
  have run := ReflTransGen.refl (r := Settled) (a := (World.fresh short : World ℕ))
    |>.tail ⟨.scans (.looks rfl rfl), fun apart => absurd rfl apart⟩
    |>.tail ⟨.scans (.reconciles rfl 1000 0 ⟨some 1, some ⟨1, 0⟩⟩ (show _ = some indexed by rfl)),
      fun apart => absurd rfl apart⟩
    |>.tail ⟨.scans .ends, fun apart => absurd rfl apart⟩
    |>.tail ⟨.runs (.begins rfl rfl), fun apart => absurd rfl apart⟩
    |>.tail ⟨.runs (.reads rfl rfl), fun apart => absurd rfl apart⟩
    |>.tail ⟨.runs (.condemns rfl), fun apart => absurd rfl apart⟩
    |>.tail ⟨.runs (.polices rfl .delete ⟨true, true, true⟩ fun _ => rfl),
      fun apart => absurd rfl apart⟩
  exact ⟨_, run, rfl, deletions_judged run⟩

/-- The segment was condemned while the share was read-only. The scan that sees the whole one first
keeps the verdict until the file has settled, and deletes it. -/
theorem replacement_deleted : ∃ w, ReflTransGen Step (World.fresh short : World ℕ) w ∧
    w.deletions = [([7, 8, 9], [7])] ∧ ¬ w.Just := by
  have run := ReflTransGen.refl (r := Step) (a := (World.fresh short : World ℕ))
    |>.tail (.scans (.looks rfl rfl))
    |>.tail (.scans (.reconciles rfl 1000 0 ⟨some 1, some ⟨1, 0⟩⟩ (show _ = some indexed by rfl)))
    |>.tail (.scans .ends)
    |>.tail (.runs (.begins rfl rfl))
    |>.tail (.runs (.reads rfl rfl))
    |>.tail (.runs (.condemns rfl))
    |>.tail (.runs (.polices rfl .delete ⟨false, true, true⟩ fun _ => rfl))
    |>.tail (.replaces whole)
    |>.tail (.scans (.looks rfl rfl))
    |>.tail (.scans (.reconciles rfl 2000 0 ⟨none, none⟩ rfl))
    |>.tail (.scans (.selects rfl rfl .delete rfl))
    |>.tail (.scans (.polices rfl .delete ⟨true, true, true⟩ fun _ => rfl))
  refine ⟨_, run, rfl, fun just => ?_⟩
  have same := just ([7, 8, 9], [7]) List.mem_cons_self
  exact absurd same (by decide)

end System

end DashcamStats.Indexing
