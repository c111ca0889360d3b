import Mathlib
import DashcamStats.Drives.Exported

namespace DashcamStats.Drives

structure Reading where
  sequence : ℤ
  timestamp : Instant
  transportQuality : String := "ok"
  timed : Bool := false
deriving DecidableEq, Repr

def Reading.sample (driveId : String) (reading : Reading) : Sample :=
  ⟨driveId, reading.sequence, reading.timestamp, reading.transportQuality, reading.timed⟩

/-- A call of `markFinalising`. -/
structure Mark where
  stopReason : String
  noticed : Instant
  lastResponse : Option Instant
deriving DecidableEq, Repr

structure Life where
  driveId : String
  startedAt : Instant
  pollPlanVersion : ℤ
  readings : List Reading
  mark : Option Mark
  later : List Reading
  ending : Ending

namespace Life

variable (life : Life)

def samples (readings : List Reading) : List Call :=
  readings.map fun reading => .addSample (reading.sample life.driveId)

def noticing : List Call :=
  life.mark.toList.map fun mark =>
    .markFinalising life.driveId mark.stopReason mark.noticed mark.lastResponse

def lived : List Call :=
  .startDrive life.driveId life.startedAt life.pollPlanVersion ::
    (life.samples life.readings ++ life.noticing ++ life.samples life.later)

def calls : List Call :=
  life.lived ++ [life.ending.call life.driveId]

def allReadings : List Reading :=
  life.readings ++ life.later

def markedReason : Option String :=
  (life.mark.filter fun mark => mark.lastResponse.all (· ≤ mark.noticed)).map (·.stopReason)

def givenReason : String :=
  match life.ending with
  | .finalize finish => finish.stopReason
  | .recover reason _ _ => reason

def stopReason : String :=
  life.markedReason.getD life.givenReason

def requestedEnd : Instant :=
  match life.ending with
  | .finalize finish => finish.requestedFinish.getD finish.noticed
  | .recover _ now _ => now

def counted : List Reading :=
  if life.markedReason = none then life.allReadings else life.readings

def finishTime (last : Reading) : Instant :=
  if life.stopReason = "engine_stopped" then max life.startedAt life.requestedEnd
  else last.timestamp

/-- The clock has not gone back between the start, the readings and the end, and they lie within
the longest span. -/
def ClockForward : Prop :=
  ∀ last, life.allReadings.getLast? = some last →
    life.startedAt ≤ last.timestamp ∧
    last.timestamp ≤ max life.startedAt (life.finishTime last) ∧
    (∀ reading ∈ life.allReadings, utc life.startedAt ≤ utc reading.timestamp) ∧
    (life.allReadings.Pairwise fun a b => utc a.timestamp ≤ utc b.timestamp) ∧
    utc (max life.startedAt (life.finishTime last)) - utc life.startedAt ≤ maxDriveSpan

def Sendable (whitespace : Char → Bool) : Prop :=
  isSafeDriveId life.driveId = true ∧ life.counted ≠ [] ∧
    (life.stopReason ≠ "engine_stopped" →
      isNullOrBlank whitespace (some life.stopReason) = false) ∧
    life.ClockForward

end Life

def Database.Fresh (db : Database) (driveId : String) : Prop :=
  (∀ drive ∈ db.drives, drive.driveId ≠ driveId) ∧
    ∀ sample ∈ db.samples, ∀ reading : Reading, sample.sampleId ≠ (reading.sample driveId).sampleId

structure Holds (db : Database) (drive : Drive) (rows : List Sample) : Prop where
  found : db.drives.find? drive.driveId = some drive
  rows : db.samplesOf drive.driveId = rows
  owned : ∀ sample ∈ db.samples, ∀ reading : Reading,
    sample.sampleId = (reading.sample drive.driveId).sampleId → sample.driveId = drive.driveId

section Steps

variable {db : Database} {drive : Drive} {rows : List Sample}

theorem sampleId_inj {a b : Sample} (owner : a.driveId = b.driveId)
    (same : a.sampleId = b.sampleId) : a.sequence = b.sequence := by
  unfold Sample.sampleId at same
  rw [owner] at same
  exact Int.repr_injective ((String.append_right_inj _).mp same)

theorem mem_samplesOf {driveId : String} {row : Sample} (mem : row ∈ db.samples)
    (owner : row.driveId = driveId) : row ∈ db.samplesOf driveId := by
  unfold Database.samplesOf
  rw [List.mem_mergeSort, List.mem_filter, decide_eq_true_iff]
  exact ⟨mem, owner⟩

theorem addSample_holds (held : Holds db drive rows) (reading : Reading)
    (later : ∀ row ∈ rows, row.sequence < reading.sequence) :
    Holds (db.call (.addSample (reading.sample drive.driveId)))
      (drive.sampled reading.transportQuality (some reading.timestamp))
      (rows ++ [reading.sample drive.driveId]) := by
  have fresh : ∀ other ∈ db.samples.rows,
      other.sampleId ≠ (reading.sample drive.driveId).sampleId := by
    intro other mem same
    have owner := held.owned other mem reading same
    have isRow : other ∈ rows := held.rows ▸ mem_samplesOf mem owner
    exact absurd (sampleId_inj owner same) (Int.ne_of_lt (later other isRow))
  have more : ({ db with
      samples := db.samples.insert (reading.sample drive.driveId) fresh } : Database).samplesOf
        drive.driveId = rows ++ [reading.sample drive.driveId] := by
    refine @List.Perm.eq_of_pairwise _ (fun a b : Sample => a.sequence < b.sequence) _ _ ?_
      (samplesOf_sorted _ _) ?_ ?_
    · intro a b _ _ less greater
      exact absurd less (Int.not_lt.mpr (Int.le_of_lt greater))
    · rw [← held.rows]
      refine List.pairwise_append.mpr ⟨samplesOf_sorted _ _, List.pairwise_singleton _ _, ?_⟩
      intro row isRow other isOther
      rw [List.mem_singleton.mp isOther]
      exact later row (held.rows ▸ isRow)
    · have owner : drive.driveId = (reading.sample drive.driveId).driveId := rfl
      rw [samplesOf_insert, if_pos owner, ← held.rows]
      exact (List.mergeSort_perm _ _).trans ((List.mergeSort_perm _ _).symm.append_right _)
  have returns : db.call (.addSample (reading.sample drive.driveId)) =
      ({ db with
        samples := db.samples.insert (reading.sample drive.driveId) fresh } : Database).modifyDrive
        drive.driveId (·.sampled reading.transportQuality (some reading.timestamp))
        (fun drive => drive.sampled_driveId _ _) := by
    have isLast : ({ db with
        samples := db.samples.insert (reading.sample drive.driveId) fresh } :
          Database).lastTimestamp drive.driveId = some reading.timestamp := by
      unfold Database.lastTimestamp
      rw [more]
      simp [Reading.sample]
    have found : db.drives.find? (reading.sample drive.driveId).driveId = some drive := held.found
    simp only [Database.call, addSample, found]
    rw [dif_pos fresh]
    simp only [Database.after, Reading.sample] at isLast ⊢
    simp only [isLast]
  rw [returns]
  refine ⟨?_, ?_, ?_⟩
  · rw [Drive.sampled_driveId, find?_modifyDrive]
    exact congrArg _ held.found
  · rw [Drive.sampled_driveId]
    exact more
  · rw [Drive.sampled_driveId]
    intro sample mem other same
    rcases Table.of_mem_insert fresh mem with mem | rfl
    · exact held.owned sample mem other same
    · rfl

def SameDrive (before after : Drive) : Prop :=
  after.driveId = before.driveId ∧ after.startTime = before.startTime ∧
    after.pollPlanVersion = before.pollPlanVersion ∧ after.status = before.status ∧
    after.stopReason = before.stopReason

theorem sampled_same (drive : Drive) (quality : String) (last : Option Instant) :
    SameDrive drive (drive.sampled quality last) := by
  unfold Drive.sampled
  split <;> exact ⟨rfl, rfl, rfl, rfl, rfl⟩

theorem readings_holds (readings : List Reading) (held : Holds db drive rows)
    (increasing : readings.Pairwise fun a b => a.sequence < b.sequence)
    (later : ∀ row ∈ rows, ∀ reading ∈ readings, row.sequence < reading.sequence) :
    ∃ after, SameDrive drive after ∧
      after.sampleCount =
        drive.sampleCount + (if drive.status = .recording then readings.length else 0) ∧
      Holds ((readings.map fun reading =>
          Call.addSample (reading.sample drive.driveId)).foldl Database.call db) after
        (rows ++ readings.map (·.sample drive.driveId)) := by
  induction readings generalizing db drive rows with
  | nil => exact ⟨drive, ⟨rfl, rfl, rfl, rfl, rfl⟩, by simp, by simpa using held⟩
  | cons reading readings ih =>
    obtain ⟨first, increasing⟩ := List.pairwise_cons.mp increasing
    have stepped := addSample_holds held reading fun row mem =>
      later row mem reading List.mem_cons_self
    obtain ⟨isId, start, plan, status, reason⟩ := sampled_same drive reading.transportQuality
      (some reading.timestamp)
    obtain ⟨after, ⟨isId', start', plan', status', reason'⟩, count, holds⟩ :=
      ih stepped increasing (by
        intro row mem other isOther
        rcases List.mem_append.mp mem with mem | mem
        · exact later row mem other (List.mem_cons_of_mem _ isOther)
        · rw [List.mem_singleton.mp mem]
          exact first other isOther)
    refine ⟨after, ⟨isId'.trans isId, start'.trans start, plan'.trans plan,
      status'.trans status, reason'.trans reason⟩, ?_, ?_⟩
    · rw [count, status]
      unfold Drive.sampled
      split
      · simp only [List.length_cons]
        omega
      · rfl
    · rw [isId] at holds
      simpa using holds

theorem startDrive_holds {driveId : String} {startedAt : Instant} {plan : ℤ}
    (fresh : db.Fresh driveId) (supported : 2 ≤ plan ∧ plan ≤ 7) :
    Holds (db.call (.startDrive driveId startedAt plan))
      { driveId := driveId, pollPlanVersion := some plan, startTime := startedAt } [] := by
  have inRange : 2 ≤ plan ∧ plan ≤ pollTrialPlanVersion :=
    ⟨supported.1, supported.2.trans (by decide)⟩
  have unused : ∀ other ∈ db.drives.rows, other.driveId ≠ driveId := fresh.1
  have returns : db.call (.startDrive driveId startedAt plan) = { db with
      drives := db.drives.insert
        { driveId := driveId, pollPlanVersion := some plan, startTime := startedAt }
        unused } := by
    simp only [Database.call, startDrive]
    rw [if_neg (not_not.mpr inRange), dif_pos unused]
    rfl
  have unowned : ∀ sample ∈ db.samples, sample.driveId ≠ driveId := by
    intro sample mem owner
    refine fresh.2 sample mem ⟨sample.sequence, 0, "ok", false⟩ ?_
    simp [Sample.sampleId, Reading.sample, owner]
  rw [returns]
  refine ⟨Table.find?_self (Table.mem_insert_self unused), ?_, ?_⟩
  · have none : (db.samples.rows.filter fun sample => sample.driveId = driveId) = [] := by
      rw [List.filter_eq_nil_iff]
      intro sample mem owner
      exact unowned sample mem (by simpa using owner)
    simp [Database.samplesOf, none]
  · intro sample mem reading same
    exact absurd same (fresh.2 sample mem reading)

theorem markFinalising_holds (held : Holds db drive rows) (mark : Mark) :
    Holds (db.call (.markFinalising drive.driveId mark.stopReason mark.noticed mark.lastResponse))
      (if mark.lastResponse.all (· ≤ mark.noticed) then
        drive.finalising mark.stopReason mark.noticed mark.lastResponse else drive) rows := by
  simp only [Database.call, markFinalising]
  split
  · refine ⟨?_, ?_, ?_⟩
    · rw [Drive.finalising_driveId]
      simp only [Database.after]
      rw [find?_modifyDrive, held.found]
      rfl
    · rw [Drive.finalising_driveId]
      exact held.rows
    · rw [Drive.finalising_driveId]
      exact held.owned
  · exact held

end Steps

section Accepted

variable {db : Database} {life : Life}

theorem lived_holds (fresh : db.Fresh life.driveId)
    (supported : 2 ≤ life.pollPlanVersion ∧ life.pollPlanVersion ≤ 7)
    (increasing : life.allReadings.Pairwise fun a b => a.sequence < b.sequence) :
    ∃ drive, drive.driveId = life.driveId ∧ drive.startTime = life.startedAt ∧
      drive.pollPlanVersion = some life.pollPlanVersion ∧ drive.status.terminal = false ∧
      drive.stopReason = life.markedReason ∧
      (drive.status = .finalising ↔ life.markedReason ≠ none) ∧
      drive.sampleCount = life.counted.length ∧
      Holds (life.lived.foldl Database.call db) drive
        (life.allReadings.map (·.sample life.driveId)) := by
  obtain ⟨readings, later, apart⟩ := List.pairwise_append.mp increasing
  have started := @startDrive_holds db life.driveId life.startedAt life.pollPlanVersion fresh
    supported
  obtain ⟨first, ⟨isId, start, plan, status, reason⟩, count, holds⟩ :=
    readings_holds life.readings started readings (by simp)
  rw [List.nil_append] at holds
  simp only [if_true, Nat.zero_add] at count
  -- the notice
  have noticed : ∃ drive, drive.driveId = life.driveId ∧ drive.startTime = life.startedAt ∧
      drive.pollPlanVersion = some life.pollPlanVersion ∧
      drive.stopReason = life.markedReason ∧
      drive.status = (if life.markedReason = none then .recording else .finalising) ∧
      drive.sampleCount = life.readings.length ∧
      Holds ((Call.startDrive life.driveId life.startedAt life.pollPlanVersion ::
          (life.samples life.readings ++ life.noticing)).foldl Database.call db) drive
        (life.readings.map (·.sample life.driveId)) := by
    simp only [List.foldl_cons, List.foldl_append]
    unfold Life.noticing Life.markedReason
    cases isMark : life.mark with
    | none => exact ⟨first, isId, start, plan, by simpa using reason, by simpa using status, count,
        holds⟩
    | some mark =>
      have marked := markFinalising_holds holds mark
      rw [isId] at marked
      by_cases ordered : mark.lastResponse.all (· ≤ mark.noticed) = true
      · rw [if_pos ordered] at marked
        refine ⟨_, ?_, ?_, ?_, ?_, ?_, ?_, marked⟩ <;>
          simp [Drive.finalising, status, ordered, isId, start, plan, count]
      · rw [if_neg ordered] at marked
        refine ⟨_, isId, start, plan, ?_, ?_, count, marked⟩
        · simpa [Option.filter, ordered] using reason
        · simpa [Option.filter, ordered] using status
  obtain ⟨drive, isId, start, plan, reason, status, count, holds⟩ := noticed
  obtain ⟨after, ⟨isId', start', plan', status', reason'⟩, count', holds'⟩ :=
    readings_holds life.later holds later (by
      intro row mem reading isReading
      obtain ⟨before, isBefore, rfl⟩ := List.mem_map.mp mem
      exact apart before isBefore reading isReading)
  refine ⟨after, isId'.trans isId, start'.trans start, plan'.trans plan, ?_, reason'.trans reason,
    ?_, ?_, ?_⟩
  · rw [status', status]
    split <;> rfl
  · rw [status', status]
    split <;> simp_all
  · rw [count', status, count]
    unfold Life.counted Life.allReadings
    split <;> simp_all
  · rw [isId] at holds'
    simpa [Life.lived, Life.samples, Life.allReadings] using holds'

/-- A drive that holds a sample reaches the server exactly where a sample was counted before the
notice, its reason is not blank and the clock has only gone forward. -/
theorem life_accepted_iff (whitespace : Char → Bool) (fresh : db.Fresh life.driveId)
    (supported : 2 ≤ life.pollPlanVersion ∧ life.pollPlanVersion ≤ 7)
    (increasing : life.allReadings.Pairwise fun a b => a.sequence < b.sequence)
    (sampled : life.allReadings ≠ []) (allowed : life.ending.allowed) (now : Instant) :
    (∃ bundle, exportDrive whitespace (life.calls.foldl Database.call db) life.driveId now =
        .ok bundle ∧ serverValidates bundle = .ok ()) ↔
      life.Sendable whitespace := by
  obtain ⟨drive, isId, start, plan, pending, reason, finalising, count, holds⟩ :=
    lived_holds fresh supported increasing
  have found := holds.found
  have rows := holds.rows
  rw [isId] at found rows
  have accepted := export_accepted_iff whitespace found pending plan supported
    (by simpa [rows] using sampled) allowed now
  have ended : life.calls.foldl Database.call db =
      (life.lived.foldl Database.call db).call (life.ending.call life.driveId) := by
    simp [Life.calls]
  have why : endReason drive (life.ending.finish drive) = life.stopReason := by
    unfold endReason Drive.effectiveReason Life.stopReason Life.givenReason
    rw [reason]
    cases isMarked : life.markedReason with
    | none =>
      have notMarked : drive.status ≠ .finalising := fun isFinalising =>
        finalising.mp isFinalising isMarked
      rw [if_neg notMarked]
      cases life.ending <;> simp [Ending.finish, reason, isMarked]
    | some marked =>
      rw [if_pos (finalising.mpr (by simp [isMarked]))]
      rfl
  have requested : (life.ending.finish drive).requestedFinish.getD
      (life.ending.finish drive).noticed = life.requestedEnd := by
    unfold Life.requestedEnd
    cases life.ending <;> rfl
  have times : ∀ last : Reading, endTime drive (life.ending.finish drive)
      (last.sample life.driveId) = life.finishTime last := by
    intro last
    unfold endTime Life.finishTime
    rw [why, requested, start]
    rfl
  rw [ended, accepted, why, count]
  unfold Life.Sendable
  refine and_congr_right fun _ => and_congr List.length_pos_iff (and_congr_right fun _ => ?_)
  unfold ClockForward Life.ClockForward
  rw [rows, start]
  simp only [List.getLast?_map, Option.map_eq_some_iff, forall_exists_index, and_imp,
    forall_apply_eq_imp_iff₂, times, List.forall_mem_map, List.pairwise_map]
  rfl

private def seconds (s : ℤ) : Instant := s * 1000000000

private def steady : Life where
  driveId := "d"
  startedAt := seconds 0
  pollPlanVersion := 5
  readings := [{ sequence := 1, timestamp := seconds 5 }]
  mark := some ⟨"engine_stopped", seconds 10, some (seconds 5)⟩
  later := []
  ending := .finalize
    { stopReason := "engine_stopped", noticed := seconds 10, finalised := seconds 11 }

private def setBack : Life :=
  { steady with ending := .recover "process_terminated" (seconds 3) fun _ => seconds 3 }

private theorem empty_fresh : Database.empty.Fresh "d" :=
  ⟨fun drive mem => absurd mem (Table.not_mem_empty drive),
    fun sample mem => absurd mem (Table.not_mem_empty sample)⟩

theorem life_accepted_iff_steady :
    (∃ bundle, exportDrive (· = ' ') (steady.calls.foldl Database.call .empty) "d" (seconds 12) =
        .ok bundle ∧ serverValidates bundle = .ok ()) ↔
      steady.Sendable (· = ' ') :=
  @life_accepted_iff .empty steady _ empty_fresh (by decide) (by decide) (by decide) trivial _

theorem not_accepted_setBack :
    ¬∃ bundle, exportDrive (· = ' ') (setBack.calls.foldl Database.call .empty) "d"
        (seconds 12) = .ok bundle ∧ serverValidates bundle = .ok () := by
  rintro ⟨bundle, exported, _⟩
  have fails : (exportDrive (· = ' ') (setBack.calls.foldl Database.call .empty) "d"
      (seconds 12)).toOption = none := by
    decide +kernel
  rw [exported] at fails
  cases fails

end Accepted

end DashcamStats.Drives
