import DashcamStats.Ingest.Steps

namespace DashcamStats.Ingest

-- The guard of `_active_row`.
def IngestRadioTransition.blocks (row : IngestRadioTransition) : Bool :=
  row.active || row.recoveryRequired

theorem activeRow_some {rows : Transitions} {row : IngestRadioTransition}
    (found : activeRow rows = some row) : row ∈ rows ∧ row.blocks = true := by
  have member := List.mem_of_mem_head? found
  rw [List.mem_insertionSort] at member
  obtain ⟨stored, blocks⟩ := List.mem_filter.mp member
  exact ⟨stored, blocks⟩

inductive Reconciled where
  | clear
  | refused
  | adopted (next : Coordinator)

namespace Coordinator

def restartError : String := "server restarted during radio transition"

-- `reconcile_pending` up to the restore it ends with, on a lease that has expired.
def reconcilePending (s : Coordinator) (address : Option String)
    (bootIdAt : String → Option String) (owner : Nat) (statusPath : String) : Reconciled :=
  match activeRow s.rows with
  | none => .clear
  | some row =>
    match verifiedRecoveryIdentity row address bootIdAt with
    | none => .refused
    | some (candidate, bootId) =>
      match s.adoptExpired row owner candidate bootId statusPath with
      | none => .refused
      | some next => .adopted next

def Restores (s : Coordinator) (row : IngestRadioTransition) : Prop :=
  ∃ o r next, s.owner = some o ∧ o.id = row.id ∧ s.restore (some restartError) = some next ∧
    next.owner = some { o with stage := .restoring r } ∧ r.row.id = row.id

structure EveryDebtAdoptable (s : Coordinator) : Prop where
  claim : ∀ row ∈ s.rows, row.blocks = true → row.leaseExpiresAt ≤ s.now → s.owner = none →
    ∀ owner address bootId statusPath, ∃ next,
      s.adoptExpired row owner address bootId statusPath = some next ∧ next.Restores row
  reconcile : ∀ row, activeRow s.rows = some row → row.leaseExpiresAt ≤ s.now → s.owner = none →
    ∀ address bootIdAt, (verifiedRecoveryIdentity row address bootIdAt).isSome →
      ∀ owner statusPath, ∃ next,
        s.reconcilePending address bootIdAt owner statusPath = .adopted next ∧ next.Restores row

def writesLateDebt (s : Coordinator) (report : ReadReport) : Bool :=
  report.values.recoveryRequired = some true &&
    s.rows.rows.any fun row => row.id = report.id && !row.active

def leavesLateDebt (s : Coordinator) : Event → Bool
  | .writeReport index => s.reports[index]?.any s.writesLateDebt
  | _ => false

def NoLateDebt (s : Coordinator) (e : Event) : Prop := s.leavesLateDebt e = false

instance (s : Coordinator) (e : Event) : Decidable (s.NoLateDebt e) :=
  inferInstanceAs (Decidable (s.leavesLateDebt e = false))

structure Accounted (s : Coordinator) : Prop where
  active : ∀ row ∈ s.rows, row.recoveryRequired = true → row.active = true
  reports : ∀ report ∈ s.reports, ∃ original row now,
    report.values = UnitRadioReport.values original row now

variable {s t : Coordinator}

theorem Accounted.initial (now : Time) : (initial now).Accounted where
  active row member := absurd member (Table.not_mem_empty row)
  reports := by simp [Coordinator.initial]

theorem Accounted.write (held : s.Accounted) {row : IngestRadioTransition} {values : Values}
    (member : row ∈ s.rows) (same : t.rows = Ingest.write s.rows row.id values)
    (reports : ∀ r ∈ t.reports, r ∈ s.reports)
    (fine : (values.write row).recoveryRequired = true → (values.write row).active = true) :
    t.Accounted where
  active other memberOther := by
    rcases mem_write_cases member (same ▸ memberOther) with rfl | ⟨old, _⟩
    · exact fine
    · exact held.active other old
  reports report memberReport := held.reports report (reports report memberReport)

theorem Accounted.same (held : s.Accounted) (rows : t.rows = s.rows)
    (reports : ∀ r ∈ t.reports, r ∈ s.reports) : t.Accounted where
  active row member := held.active row (rows ▸ member)
  reports report member := held.reports report (reports report member)

theorem Accounted.handOver (held : s.Accounted) (o : RadioTransition) (error : String) :
    (s.handOver o error).Accounted := by
  rcases handOver_cases (s := s) o error with unchanged | ⟨row, member, _, active, written⟩
  · exact held.same (by rw [unchanged]) (by simp [unchanged])
  · exact held.write member (by rw [written]) (by simp [written]) (by simp [recoveryValues, active])

theorem Accounted.begin (held : s.Accounted) {input : BeginInput}
    (stepped : s.begin input = some t) : t.Accounted := by
  obtain ⟨_, _, fresh, rfl⟩ := begin_some stepped
  refine ⟨?_, held.reports⟩
  intro row member
  have inserted : row ∈ s.rows.insert (input.row s.rows.nextKey s.now) fresh := member
  rcases Table.mem_insert.mp inserted with old | rfl
  · exact held.active row old
  · intro _
    rfl

theorem Accounted.readReport (held : s.Accounted) (report : UnitRadioReport) :
    (s.readReport report).Accounted := by
  rcases readReport_cases s report with unchanged | ⟨row, _, read⟩
  · rw [unchanged]
    exact held
  · rw [read]
    refine ⟨held.active, ?_⟩
    intro other member
    rcases List.mem_append.mp member with old | new
    · exact held.reports other old
    · obtain rfl := List.mem_singleton.mp new
      exact ⟨report, row, s.now, rfl⟩

theorem Accounted.writeReport (held : s.Accounted) {index : Nat}
    (allowed : s.NoLateDebt (.writeReport index)) (stepped : s.writeReport index = some t) :
    t.Accounted := by
  obtain ⟨report, member, found, rfl⟩ := writeReport_some stepped
  have early : s.writesLateDebt report = false := by
    simpa [NoLateDebt, leavesLateDebt, found] using allowed
  refine ⟨?_, fun other memberOther => held.reports other (List.mem_of_mem_eraseIdx memberOther)⟩
  intro row memberRow required
  obtain ⟨old, memberOld, rfl⟩ := mem_write.mp memberRow
  by_cases same : old.id = report.id
  · simp only [same, if_true] at required ⊢
    obtain ⟨original, read, now, origin⟩ := held.reports report member
    rcases original.values_cases read now with ⟨kept, required'⟩ | ⟨_, _, _, cleared⟩ |
      ⟨_, _, kept, debt⟩
    · rw [Values.write_recoveryRequired, origin, required'] at required
      rw [Values.write_active, origin, kept]
      exact held.active old memberOld required
    · rw [Values.write_recoveryRequired, origin, cleared] at required
      exact absurd required (by simp)
    · have active : old.active = true := by
        simp only [writesLateDebt, origin, debt, decide_true, Bool.true_and, List.any_eq_false,
          Bool.and_eq_true, decide_eq_true_eq, Bool.not_eq_true', not_and] at early
        simpa using early old memberOld same
      rw [Values.write_active, origin, kept]
      exact active
  · simp only [same, if_false] at required ⊢
    exact held.active old memberOld required

theorem Accounted.step {e : Event} (held : s.Accounted) (allowed : s.NoLateDebt e)
    (stepped : s.Stepped e t) : t.Accounted := by
  cases e with
  | tick seconds =>
    obtain rfl := Option.some.inj stepped
    exact held.same rfl fun _ => id
  | begin input => exact held.begin stepped
  | prepareLogger request =>
    obtain ⟨o, row, _, member, _, _, active, _, rfl⟩ := prepareLogger_some stepped
    exact held.write member rfl (fun _ => id) fun _ => active
  | checkpoint move =>
    obtain ⟨o, row, values, stage, _, member, _, moved, holds, _, rfl⟩ := checkpoint_some stepped
    obtain ⟨kept, _, _⟩ := Move.next_values moved
    refine held.write member rfl (fun _ => id) fun _ => ?_
    simp [Values.renewing, kept, active_of_heldBy holds]
  | issueDisable =>
    obtain ⟨o, _, _, _, _, rfl⟩ := issueDisable_some stepped
    exact held.same rfl fun _ => id
  | raise =>
    obtain ⟨o, _, rfl⟩ := raise_some stepped
    exact held.same rfl fun _ => id
  | restore error =>
    obtain ⟨o, _, rfl | ⟨_, _, _, rfl⟩⟩ := restore_some stepped
    · exact held.same rfl fun _ => id
    · exact held.same rfl fun _ => id
  | answer a =>
    obtain ⟨o, _, _, _, _, _, rfl⟩ := answer_some stepped
    exact held.same rfl fun _ => id
  | consultUnit =>
    obtain ⟨o, _, _, _, _, _, rfl⟩ := consultUnit_some stepped
    exact held.same rfl fun _ => id
  | finish =>
    obtain ⟨o, r, _, _, _, _, rfl | ⟨row, member, _, _, rfl⟩⟩ := finish_some stepped
    · exact held.same rfl fun _ => id
    · exact held.write member rfl (fun _ => id) (by simp [finishValues])
  | giveUp =>
    obtain ⟨o, error, _, rfl⟩ := giveUp_some stepped
    exact held.handOver o error
  | persistRestoreFailure error =>
    obtain ⟨o, _, rfl⟩ := Option.map_eq_some_iff.mp stepped
    exact held.handOver o error
  | requireRecovery error =>
    obtain ⟨o, _, rfl⟩ := Option.map_eq_some_iff.mp stepped
    exact held.handOver o error
  | crash =>
    obtain ⟨o, _, rfl⟩ := Option.map_eq_some_iff.mp stepped
    exact held.same rfl fun _ => id
  | adopt snapshot owner address bootId statusPath =>
    obtain ⟨_, row, member, _, active, _, rfl⟩ := adoptExpired_some stepped
    exact held.write member rfl (fun _ => id) fun _ => active
  | expire stored owner error =>
    obtain ⟨row, member, _, active, rfl⟩ := expire_some stepped
    exact held.write member rfl (fun _ => id) fun _ => active
  | cleanCapsule stored path =>
    obtain ⟨row, member, _, rfl⟩ := cleanCapsule_some stepped
    exact held.write member rfl (fun _ => id) (held.active row member)
  | readReport report =>
    obtain rfl := Option.some.inj stepped
    exact held.readReport report
  | writeReport index => exact held.writeReport allowed stepped

theorem adoptExpired_restores {row : IngestRadioTransition} (member : row ∈ s.rows)
    (active : row.active = true) (expired : row.leaseExpiresAt ≤ s.now) (free : s.owner = none)
    (owner : Nat) (address : String) (bootId : Option String) (statusPath : String) :
    ∃ next, s.adoptExpired row owner address bootId statusPath = some next ∧ next.Restores row := by
  let values := adoptionValues row s.now owner address bootId
  let path := if truthy row.loggerStatusPath then row.loggerStatusPath else some statusPath
  let next := { s with
    rows := Ingest.write s.rows row.id values
    owner := some ⟨row.id, owner, path, .adopted row⟩ }
  have adopts : s.adoptExpired row owner address bootId statusPath = some next := by
    simp [adoptExpired, free, writeIf, Table.find?_self member, adoptable, active, expired, next,
      values, path]
  have found : next.rows.find? row.id = some (values.write row) :=
    Table.find?_self (write_mem member)
  have holds : (values.write row).heldBy owner = true := by
    simp [IngestRadioTransition.heldBy, values, adoptionValues, active]
  have restored : next.restore (some restartError) = some { next with
      owner := some ⟨row.id, owner, path, .restoring
        ⟨values.write row, .entered, true, some restartError, [restartError]⟩⟩ } := by
    have entered : next.restore (some restartError) =
        some (next.enterRestore ⟨row.id, owner, path, .adopted row⟩ (some restartError)) := rfl
    have kept : (next.rows.find? row.id).filter (·.heldBy owner) = some (values.write row) := by
      rw [found, Option.filter_some, if_pos holds]
    rw [entered, enterRestore, kept]
    rfl
  exact ⟨next, adopts, _, _, _, rfl, rfl, restored, rfl, rfl⟩

theorem Accounted.everyDebtAdoptable (held : s.Accounted) : s.EveryDebtAdoptable := by
  have active {row : IngestRadioTransition} (member : row ∈ s.rows) (blocks : row.blocks = true) :
      row.active = true := by
    rcases Bool.or_eq_true_iff.mp blocks with active | required
    · exact active
    · exact held.active row member required
  refine ⟨?_, ?_⟩
  · intro row member blocks expired free owner address bootId statusPath
    exact adoptExpired_restores member (active member blocks) expired free owner address bootId
      statusPath
  · intro row blocking expired free address bootIdAt identity owner statusPath
    obtain ⟨⟨candidate, bootId⟩, verified⟩ := Option.isSome_iff_exists.mp identity
    obtain ⟨member, blocks⟩ := activeRow_some blocking
    obtain ⟨next, adopts, restores⟩ := adoptExpired_restores member (active member blocks) expired
      free owner candidate bootId statusPath
    exact ⟨next, by simp [reconcilePending, blocking, verified, adopts], restores⟩

/-- While no report leaves a debt on a deactivated row, every row that blocks can be adopted once
its lease has expired, and a reconciliation of it goes on to its restore. -/
theorem everyDebtAdoptable_of_noLateDebt {now : Time} {es : List Event}
    (run : Run Stepped NoLateDebt (initial now) es s) : s.EveryDebtAdoptable :=
  (run.invariant Accounted (fun _ _ _ held allowed stepped => held.step allowed stepped)
    (.initial now)).everyDebtAdoptable

def quieted : List Event :=
  [.begin ⟨1, 1, "unit", "device@boot", none, some 7⟩,
    .checkpoint .markObdTransferComplete, .checkpoint .capture,
    .checkpoint (.baseline ⟨.on, .transport, none⟩ none), .checkpoint .startDisabling,
    .checkpoint .disableIntent, .issueDisable, .checkpoint .disableVerified,
    .checkpoint .disableIntent, .checkpoint .quietProved]

def restored : List Event :=
  [.restore none, .checkpoint .startRestoring, .checkpoint .restoreIntent, .answer (.readback true),
    .checkpoint .restoreRecorded, .checkpoint .restoreIntent, .answer (.readback true),
    .checkpoint .restoreRecorded, .answer (.standDown true), .answer .pass, .finish]

def unrestoredReport : List Event :=
  [.readReport ⟨1, 7, "lease_expired", .unrestored, .skip, ""⟩, .writeReport 0, .tick 60]

def isBlocked (s : Coordinator) (active : Bool) : Bool :=
  s.owner.isNone && s.rows.rows.any fun row =>
    row.blocks && row.leaseExpiresAt ≤ s.now && row.active = active

theorem everyDebtAdoptable_crashed :
    ∃ s, Run Stepped NoLateDebt (initial 0) (quieted ++ [.crash, .tick 60] ++ unrestoredReport) s ∧
      s.isBlocked true = true ∧ s.EveryDebtAdoptable := by
  have blocked : (trace step NoLateDebt (initial 0)
      (quieted ++ [.crash, .tick 60] ++ unrestoredReport)).any (isBlocked · true) = true := by
    decide +kernel
  obtain ⟨s, traced, holds⟩ := (Option.any_eq_true _ _).mp blocked
  have run := run_of_trace step NoLateDebt traced
  exact ⟨s, run, holds, everyDebtAdoptable_of_noLateDebt run⟩

/-- The report arrives after the transition has completed: the row blocks, and nobody can claim it. -/
theorem not_everyDebtAdoptable : ¬ ∀ now es s, Run Stepped anyStep (initial now) es s →
    s.EveryDebtAdoptable := by
  intro claimed
  have blocked : (trace step anyStep (initial 0) (quieted ++ restored ++ unrestoredReport)).any
      (isBlocked · false) = true := by
    decide +kernel
  obtain ⟨s, traced, holds⟩ := (Option.any_eq_true _ _).mp blocked
  simp only [isBlocked, Bool.and_eq_true, Option.isNone_iff_eq_none, List.any_eq_true,
    decide_eq_true_eq] at holds
  obtain ⟨free, row, member, ⟨blocks, expired⟩, inactive⟩ := holds
  obtain ⟨next, adopted, _⟩ := (claimed 0 _ s (run_of_trace step anyStep traced)).claim row member
    blocks expired free 2 "unit" none ""
  obtain ⟨_, other, stored, same, active, _⟩ := adoptExpired_some adopted
  obtain rfl : other = row := Table.eq_of_key stored member same
  simp [inactive] at active

end Coordinator

end DashcamStats.Ingest
