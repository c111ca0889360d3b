import DashcamStats.Ingest.Debts

namespace DashcamStats.Ingest

-- The owner has not called `capture_and_quiet` yet, and may still record a logger request.
def Stage.opening : Stage → Bool
  | .ready | .pausing => true
  | _ => false

@[simp] theorem opening_afterQuieting (snapshot : RadioSnapshot) (radio : Radio) :
    (afterQuieting snapshot radio).opening = false := by
  cases radio <;> rfl

-- Only checkpoints that need a live lease lead to a stage before `capture_and_quiet`.
theorem Move.opening_of_next {m : Move} {row : IngestRadioTransition} {stage next : Stage}
    {values : Values} (moved : m.next row stage = some (values, next))
    (opening : next.opening = true) : stage.opening = true ∧ allowExpired m stage = false := by
  revert moved opening
  fun_cases Move.next row m stage <;> intro moved opening <;> cases moved
  case case7.refl => split at opening <;> cases opening
  case case10.refl | case11.refl => exact absurd opening (by simp)
  all_goals simp_all [Stage.opening, allowExpired]

namespace Coordinator

/-- The unit has already reported on the row: a report that has been read or written says that the
radio is restored, or closes the row. -/
def alreadyReported (s : Coordinator) (row : IngestRadioTransition) (radio : Radio) : Bool :=
  row.closed || (row.columns radio).restoreVerified ||
    s.reports.any fun report => report.id = row.id && (report.claims radio || report.closes)

def issuesReported (s : Coordinator) (o : RadioTransition) : Bool :=
  (issuing o.stage).any fun radio =>
    s.rows.rows.any fun row => row.id = o.id && s.alreadyReported row radio

def overtaken (s : Coordinator) : Event → Bool
  | .issueDisable => s.owner.any s.issuesReported
  | _ => false

def Unreported (s : Coordinator) (e : Event) : Prop := s.overtaken e = false

instance (s : Coordinator) (e : Event) : Decidable (s.Unreported e) :=
  inferInstanceAs (Decidable (s.overtaken e = false))

def NoDebtForgotten (s : Coordinator) : Prop :=
  ∀ row ∈ s.rows, row.active = false → row.recoveryRequired = false →
    ∀ debt, ¬ (s.ledgers row.id).Owes debt

def Fenced (s : Coordinator) (id : Nat) : Prop :=
  ∀ o, s.owner = some o → o.id = id → o.stage.opening = true →
    ∀ row ∈ s.rows, row.id = id → row.active = true → row.leaseExpiresAt ≤ s.now

structure Pending (s : Coordinator) (report : ReadReport) : Prop where
  origin : ∃ original row now, report.values = UnitRadioReport.values original row now
  stored : ∃ row ∈ s.rows, row.id = report.id
  recent : ∀ radio, report.claims radio = true →
    (s.ledgers report.id).incurred (.radio radio) ≤ report.readAt
  settled : report.closes = true →
    (∀ radio, report.claims radio = true ∨ ¬ (s.ledgers report.id).Owes (.radio radio)) ∧
      ¬ (s.ledgers report.id).Owes .logger
  fenced : report.closes = true → s.Fenced report.id

structure Kept (s : Coordinator) : Prop where
  rows : ∀ row ∈ s.rows, Sound row (s.ledgers row.id)
  owner : ∀ o, s.owner = some o →
    ∃ row ∈ s.rows, row.id = o.id ∧ o.stage.Fits row (s.ledgers row.id)
  unused : ∀ id, (∀ row ∈ s.rows, row.id ≠ id) → ∀ debt, ¬ (s.ledgers id).Owes debt
  stamped : ∀ id debt, (s.ledgers id).incurred debt ≤ s.stamp
  reports : ∀ report ∈ s.reports, s.Pending report

variable {s t : Coordinator}

theorem Kept.initial (now : Time) : (initial now).Kept where
  rows row member := absurd member (Table.not_mem_empty row)
  owner o owned := by simp [Coordinator.initial] at owned
  unused id _ debt := Ledger.not_owes_clear
  stamped id debt := Nat.le_refl _
  reports := by simp [Coordinator.initial]

theorem Kept.noDebtForgotten (held : s.Kept) : s.NoDebtForgotten := by
  intro row member inactive unrequired
  exact (held.rows row member).closed (by simp [IngestRadioTransition.closed, inactive, unrequired])

theorem Pending.aside {report : ReadReport} (pending : s.Pending report) : report.values.Aside := by
  obtain ⟨original, row, now, origin⟩ := pending.origin
  rw [origin]
  exact ⟨by simp, by simp, by simp, by simp⟩

theorem record_lighter {id : Nat} {change : Ledger Obligation → Ledger Obligation}
    (lighter : Lighter (change (s.ledgers id)) (s.ledgers id)) (other : Nat) :
    Lighter ((s.record id change).ledgers other) (s.ledgers other) := by
  by_cases same : other = id
  · subst same
    simpa [record] using lighter
  · simpa [record, same] using Lighter.refl (s.ledgers other)

theorem Kept.write (held : s.Kept) {row : IngestRadioTransition} {values : Values}
    (member : row ∈ s.rows) (rows : t.rows = Ingest.write s.rows row.id values)
    (lighter : ∀ id, Lighter (t.ledgers id) (s.ledgers id)) (stamp : t.stamp = s.stamp)
    (reports : ∀ report ∈ t.reports, report ∈ s.reports)
    (sound : Sound (values.write row) (t.ledgers row.id))
    (owner : ∀ o, t.owner = some o →
      ∃ other ∈ t.rows, other.id = o.id ∧ o.stage.Fits other (t.ledgers other.id))
    (fenced : ∀ report ∈ s.reports, report.closes = true → s.Fenced report.id →
      t.Fenced report.id) : t.Kept where
  rows other memberOther := by
    rcases mem_write_cases member (rows ▸ memberOther) with rfl | ⟨old, _⟩
    · exact sound
    · exact (held.rows other old).lighter (lighter _)
  owner := owner
  unused id free debt owes := by
    refine held.unused id ?_ debt ((lighter id).owes debt owes)
    intro other memberOther same
    by_cases hit : other.id = row.id
    · exact free (values.write row) (rows ▸ write_mem member) (by simpa [hit] using same)
    · exact free other (rows ▸ mem_write_of_ne memberOther hit) same
  stamped id debt := by
    rw [(lighter id).incurred, stamp]
    exact held.stamped id debt
  reports report memberReport := by
    have pending := held.reports report (reports report memberReport)
    refine ⟨pending.origin, ?_, ?_, ?_, ?_⟩
    · obtain ⟨other, memberOther, same⟩ := pending.stored
      by_cases hit : other.id = row.id
      · exact ⟨_, rows ▸ write_mem member, by simpa [hit] using same⟩
      · exact ⟨other, rows ▸ mem_write_of_ne memberOther hit, same⟩
    · intro radio claimed
      rw [(lighter _).incurred]
      exact pending.recent radio claimed
    · intro closes
      obtain ⟨radios, logger⟩ := pending.settled closes
      refine ⟨?_, fun owes => logger ((lighter _).owes _ owes)⟩
      intro radio
      rcases radios radio with claimed | free
      · exact .inl claimed
      · exact .inr fun owes => free ((lighter _).owes _ owes)
    · intro closes
      exact fenced report (reports report memberReport) closes (pending.fenced closes)

theorem Kept.same (held : s.Kept) (rows : t.rows = s.rows)
    (lighter : ∀ id, Lighter (t.ledgers id) (s.ledgers id)) (stamp : t.stamp = s.stamp)
    (reports : t.reports = s.reports)
    (owner : ∀ o, t.owner = some o →
      ∃ row ∈ s.rows, row.id = o.id ∧ o.stage.Fits row (t.ledgers row.id))
    (fenced : ∀ id, s.Fenced id → t.Fenced id) : t.Kept where
  rows row member := (held.rows row (rows ▸ member)).lighter (lighter _)
  owner o owned := by
    rw [rows]
    exact owner o owned
  unused id free debt owes := held.unused id (rows ▸ free) debt ((lighter id).owes debt owes)
  stamped id debt := by
    rw [(lighter id).incurred, stamp]
    exact held.stamped id debt
  reports report member := by
    have pending := held.reports report (reports ▸ member)
    refine ⟨pending.origin, rows ▸ pending.stored, ?_, ?_, fun closes =>
      fenced _ (pending.fenced closes)⟩
    · intro radio claimed
      rw [(lighter _).incurred]
      exact pending.recent radio claimed
    · intro closes
      obtain ⟨radios, logger⟩ := pending.settled closes
      refine ⟨?_, fun owes => logger ((lighter _).owes _ owes)⟩
      intro radio
      rcases radios radio with claimed | free
      · exact .inl claimed
      · exact .inr fun owes => free ((lighter _).owes _ owes)

theorem fenced_none {id : Nat} (released : t.owner = none) : t.Fenced id := by
  intro o owned
  simp [released] at owned

theorem fenced_of_stage {id : Nat} {o : RadioTransition} (owned : t.owner = some o)
    (past : o.stage.opening = false) : t.Fenced id := by
  intro other same _ opening
  obtain rfl : o = other := by simpa [owned] using same
  simp [past] at opening

theorem Kept.moved (held : s.Kept) {o : RadioTransition} {stage : Stage} (owned : s.owner = some o)
    (past : stage.opening = false)
    (fits : ∀ row ∈ s.rows, row.id = o.id → Sound row (s.ledgers row.id) →
      o.stage.Fits row (s.ledgers row.id) → stage.Fits row (s.ledgers row.id)) :
    ({ s with owner := some { o with stage := stage } } : Coordinator).Kept := by
  refine held.same rfl (fun _ => .refl _) rfl rfl ?_ fun _ _ => fenced_of_stage rfl past
  intro other same
  obtain rfl := Option.some.inj same
  obtain ⟨row, member, stored, fitted⟩ := held.owner o owned
  exact ⟨row, member, stored, fits row member stored (held.rows row member) fitted⟩

theorem Kept.released (held : s.Kept) : ({ s with owner := none } : Coordinator).Kept :=
  held.same rfl (fun _ => .refl _) rfl rfl (by simp) fun _ _ => fenced_none rfl

theorem Kept.tick (held : s.Kept) (seconds : Nat) :
    ({ s with now := s.now + seconds } : Coordinator).Kept := by
  refine held.same rfl (fun _ => .refl _) rfl rfl held.owner ?_
  intro id fenced o owned same opening row member stored active
  have expired := fenced o owned same opening row member stored active
  exact le_trans expired (Int.le_add_of_nonneg_right (Int.natCast_nonneg seconds))

theorem Kept.begin (held : s.Kept) {input : BeginInput} (stepped : s.begin input = some t) :
    t.Kept := by
  obtain ⟨_, _, fresh, rfl⟩ := begin_some stepped
  have clear (debt : Obligation) : ¬ (s.ledgers s.rows.nextKey).Owes debt :=
    held.unused s.rows.nextKey (fun row member => (Table.key_lt_nextKey member).ne) debt
  have sound : Sound (input.row s.rows.nextKey s.now) (s.ledgers s.rows.nextKey) := by
    refine ⟨fun _ owes => absurd owes (clear _), ?_, fun owes => absurd owes (clear _),
      fun _ _ => clear _, fun _ => clear _, fun _ => clear⟩
    intro radio attempted
    cases radio <;> cases attempted
  have inserted {row : IngestRadioTransition} :
      row ∈ s.rows.insert (input.row s.rows.nextKey s.now) fresh ↔
        row ∈ s.rows ∨ row = input.row s.rows.nextKey s.now := Table.mem_insert
  constructor
  · intro row member
    rcases inserted.mp member with old | rfl
    · exact held.rows row old
    · exact sound
  · intro o owned
    obtain rfl := Option.some.inj owned
    refine ⟨_, inserted.mpr (.inr rfl), rfl, ?_, rfl⟩
    intro radio
    cases radio <;> rfl
  · intro id free
    exact held.unused id fun row member => free row (inserted.mpr (.inl member))
  · exact held.stamped
  · intro report member
    have pending := held.reports report member
    obtain ⟨row, stored, same⟩ := pending.stored
    refine ⟨pending.origin, ⟨row, inserted.mpr (.inl stored), same⟩, pending.recent,
      pending.settled, ?_⟩
    -- The new owner works on a row that no report has been read from.
    intro _ o owned this
    obtain rfl := Option.some.inj owned
    exact absurd (same.trans this.symm) (Table.key_lt_nextKey stored).ne

theorem Kept.checkpoint (held : s.Kept) {m : Move} (stepped : s.checkpoint m = some t) :
    t.Kept := by
  obtain ⟨o, row, values, stage, owned, member, stored, moved, holds, lease, rfl⟩ :=
    checkpoint_some stepped
  obtain ⟨other, memberOther, same, fits⟩ := held.owner o owned
  obtain rfl : other = row := Table.eq_of_key memberOther member (same.trans stored.symm)
  obtain ⟨sound, fitsNext⟩ := (Move.advances (held.rows other member) fits moved).renewing s.now
  refine held.write member rfl (fun _ => .refl _) rfl (fun _ => id) sound ?_ ?_
  · intro next same'
    obtain rfl := Option.some.inj same'
    exact ⟨_, write_mem member, by simpa using stored, fitsNext⟩
  · -- While the owner may still record a request, its lease is live and no report has closed.
    intro report _ _ fenced next same' id opening
    obtain rfl := Option.some.inj same'
    exfalso
    obtain ⟨opened, strict⟩ := Move.opening_of_next moved opening
    have expired := fenced o owned id opened other member (stored.trans id)
      (active_of_heldBy holds)
    rcases lease with expiredAllowed | live
    · simp [strict] at expiredAllowed
    · exact absurd live (not_lt.mpr expired)

theorem Kept.incur (held : s.Kept) {row : IngestRadioTransition} {debt : Obligation}
    (member : row ∈ s.rows)
    (sound : Sound row ((s.ledgers row.id).incur debt (s.stamp + 1)))
    (before : ∀ o, s.owner = some o → ∀ r, o.stage ≠ .restoring r)
    (early : ∀ report ∈ s.reports, report.id = row.id → report.closes = false ∧
      ∀ radio, debt = .radio radio → report.claims radio = false) :
    (s.incur row.id debt).Kept := by
  have ledger_of_ne {id : Nat} (other : id ≠ row.id) :
      (s.incur row.id debt).ledgers id = s.ledgers id := by
    simp [Coordinator.incur, record, other]
  have ledger_self : (s.incur row.id debt).ledgers row.id =
      (s.ledgers row.id).incur debt (s.stamp + 1) := by
    simp [Coordinator.incur, record]
  constructor
  · intro other memberOther
    by_cases same : other.id = row.id
    · obtain rfl : other = row := Table.eq_of_key memberOther member same
      rw [ledger_self]
      exact sound
    · rw [ledger_of_ne same]
      exact held.rows other memberOther
  · intro o owned
    obtain ⟨other, memberOther, stored, fits⟩ := held.owner o owned
    exact ⟨other, memberOther, stored, fits.unrelated (before o owned)⟩
  · intro id free
    rw [ledger_of_ne fun same => free row member same.symm]
    exact held.unused id free
  · intro id other
    have bound : (s.ledgers id).incurred other ≤ s.stamp + 1 :=
      Nat.le_succ_of_le (held.stamped id other)
    by_cases same : id = row.id
    · rw [same, ledger_self]
      exact Ledger.incurred_incur_le (same ▸ bound) (Nat.le_refl _)
    · rw [ledger_of_ne same]
      exact bound
  · intro report memberReport
    have pending := held.reports report memberReport
    by_cases same : report.id = row.id
    · obtain ⟨open_, unclaimed⟩ := early report memberReport same
      refine ⟨pending.origin, pending.stored, ?_, by simp [open_], by simp [open_]⟩
      intro radio claimed
      have different : Obligation.radio radio ≠ debt := by
        intro this
        simp [unclaimed radio this.symm] at claimed
      rw [same, ledger_self, Ledger.incurred_incur different]
      exact same ▸ pending.recent radio claimed
    · refine ⟨pending.origin, pending.stored, ?_, ?_, pending.fenced⟩
      · rw [ledger_of_ne same]
        exact pending.recent
      · rw [ledger_of_ne same]
        exact pending.settled

theorem Kept.prepareLogger (held : s.Kept) {request : Nat}
    (stepped : s.prepareLogger request = some t) : t.Kept := by
  obtain ⟨o, row, owned, member, stored, ready, active, live, rfl⟩ := prepareLogger_some stepped
  obtain ⟨other, memberOther, same, fits⟩ := held.owner o owned
  obtain rfl : other = row := Table.eq_of_key memberOther member (same.trans stored.symm)
  have sound := held.rows other member
  -- A report that closes the row has been read after the lease ran out.
  have unclosed (report : ReadReport) (memberReport : report ∈ s.reports)
      (this : report.id = other.id) : report.closes = false := by
    cases closes : report.closes with
    | false => rfl
    | true =>
      have expired := (held.reports report memberReport).fenced closes o owned
        (stored.symm.trans this.symm) (by simp [ready, Stage.opening]) other member this.symm active
      exact absurd live (not_lt.mpr expired)
  let values := Values.renewing s.now
    { phase := some .finalisingObd, loggerRequestId := some (some request) }
  let written : Coordinator := { s with
    rows := Ingest.write s.rows other.id values
    owner := some { o with stage := .pausing } }
  have columns (radio : Radio) : (values.write other).columns radio = other.columns radio := by
    cases radio <;> rfl
  rw [ready] at fits
  have soundWritten : Sound (values.write other) (s.ledgers other.id) :=
    ⟨fun radio => columns radio ▸ sound.attempted radio, fun radio => columns radio ▸ sound.baseline radio,
      fun _ => rfl, fun radio => columns radio ▸ sound.restored radio, sound.resumed, sound.closed⟩
  have fitsWritten : Stage.pausing.Fits (values.write other) (s.ledgers other.id) :=
    ⟨fun radio => columns radio ▸ fits.1 radio, fits.2⟩
  have keptWritten : written.Kept := by
    refine held.write member rfl (fun _ => .refl _) rfl (fun _ => id) soundWritten ?_ ?_
    · intro next this
      obtain rfl := Option.some.inj this
      exact ⟨_, write_mem member, stored, fitsWritten⟩
    · intro report memberReport closes _ next this id _
      obtain rfl := Option.some.inj this
      rw [unclosed report memberReport (id.symm.trans stored.symm)] at closes
      cases closes
  have memberWritten : values.write other ∈ written.rows := write_mem member
  change (written.incur (values.write other).id .logger).Kept
  refine keptWritten.incur memberWritten ?_ ?_ ?_
  · refine ⟨?_, soundWritten.baseline, fun _ => rfl, ?_, ?_, ?_⟩
    · intro radio owes
      exact soundWritten.attempted radio ((Ledger.owes_incur (by simp)).mp owes)
    · intro radio verified owes
      exact soundWritten.restored radio verified ((Ledger.owes_incur (by simp)).mp owes)
    · intro verified
      have unresumed : (values.write other).loggerResumeVerified = false := fits.2
      rw [unresumed] at verified
      cases verified
    · intro ended
      simp [IngestRadioTransition.closed, values, Values.renewing, active] at ended
  · intro next this r
    obtain rfl := Option.some.inj this
    simp
  · intro report memberReport this
    exact ⟨unclosed report memberReport this, by simp⟩

theorem Kept.issueDisable (held : s.Kept) (allowed : s.Unreported .issueDisable)
    (stepped : s.issueDisable = some t) : t.Kept := by
  obtain ⟨o, snapshot, radio, owned, stage, rfl⟩ := issueDisable_some stepped
  obtain ⟨row, member, stored, fits⟩ := held.owner o owned
  have sound := held.rows row member
  rw [stage] at fits
  have silent : s.alreadyReported row radio = false := by
    have issues : s.issuesReported o = false := by
      simpa [Unreported, overtaken, owned] using allowed
    simp only [issuesReported, stage, issuing, Option.any_some, List.any_eq_false, Bool.and_eq_true,
      decide_eq_true_eq, not_and, Bool.not_eq_true] at issues
    exact issues row member stored
  simp only [alreadyReported, Bool.or_eq_false_iff, List.any_eq_false, Bool.and_eq_true,
    decide_eq_true_eq, Bool.or_eq_true, not_and, not_or, Bool.not_eq_true] at silent
  obtain ⟨⟨open_, unverified⟩, early⟩ := silent
  rw [← stored]
  refine held.incur member ?_ ?_ ?_
  · refine ⟨?_, sound.baseline, ?_, ?_, ?_, ?_⟩
    · intro other owes
      by_cases same : other = radio
      · exact same ▸ fits.2
      · exact sound.attempted other ((Ledger.owes_incur (by simpa using same)).mp owes)
    · intro owes
      exact sound.requested ((Ledger.owes_incur (by simp)).mp owes)
    · intro other verified owes
      have different : other ≠ radio := by
        rintro rfl
        simp [unverified] at verified
      exact sound.restored other verified ((Ledger.owes_incur (by simpa using different)).mp owes)
    · intro verified owes
      exact sound.resumed verified ((Ledger.owes_incur (by simp)).mp owes)
    · intro ended
      simp [open_] at ended
  · intro other this r
    obtain rfl : o = other := by simpa [owned] using this
    simp [stage]
  · intro report memberReport this
    obtain ⟨unclaimed, unclosed⟩ := early report memberReport this
    refine ⟨unclosed, ?_⟩
    intro other same
    obtain rfl : radio = other := by simpa using same
    exact unclaimed

theorem Kept.restore (held : s.Kept) {error : Option String} (stepped : s.restore error = some t) :
    t.Kept := by
  obtain ⟨o, owned, rfl | ⟨row, member, stored, rfl⟩⟩ := restore_some stepped
  · exact held.released
  · refine held.moved owned rfl ?_
    intro other memberOther same _ _
    obtain rfl : row = other := Table.eq_of_key member memberOther (stored.trans same.symm)
    exact ⟨fun _ => ⟨rfl, rfl⟩, rfl, by simp [RestorePoint.past], by simp, by simp⟩

theorem Kept.answer (held : s.Kept) {a : Answer} (stepped : s.answer a = some t) : t.Kept := by
  obtain ⟨o, r, next, owned, stage, answered, rfl⟩ := answer_some stepped
  refine held.same rfl ?_ rfl rfl ?_ fun _ _ => fenced_of_stage rfl rfl
  · exact record_lighter (settledBy_lighter o.loggerStatusPath r a s.stamp _)
  · intro other same
    obtain rfl := Option.some.inj same
    obtain ⟨row, member, stored, fits⟩ := held.owner o owned
    rw [stage] at fits
    obtain ⟨read, paid⟩ := Restore.Paid.answer (held.rows row member) fits
      (held.stamped row.id) answered
    refine ⟨row, member, stored, fun radio => ?_, ?_, ?_⟩
    · rw [read]
      exact fits.1 radio
    · rw [read]
      exact fits.2.1
    · rw [← stored]
      simpa [record] using paid

theorem Kept.consultUnit (held : s.Kept) (stepped : s.consultUnit = some t) : t.Kept := by
  obtain ⟨o, r, radio, owned, stage, point, rfl⟩ := consultUnit_some stepped
  refine held.moved owned rfl ?_
  intro row member stored sound fits
  rw [stage] at fits
  obtain ⟨same, request, paid⟩ := fits
  refine ⟨same, request, paid.move (fun other past => by rw [point]; exact past) ?_ (by simp)⟩
  intro other answered
  have found : s.rows.find? o.id = some row := stored ▸ Table.find?_self member
  simp only [found, Option.any_some, RestorePoint.answered.injEq] at answered
  obtain ⟨rfl, verified⟩ := answered
  simp only [unitAlreadyVerified, Bool.and_eq_true] at verified
  exact sound.restored radio verified.2

theorem Kept.finish (held : s.Kept) (stepped : s.finish = some t) : t.Kept := by
  obtain ⟨o, r, owned, stage, point, fine, rfl | ⟨row, member, stored, _, rfl⟩⟩ :=
    finish_some stepped
  · exact held.released
  · obtain ⟨other, memberOther, same, fits⟩ := held.owner o owned
    obtain rfl : other = row := Table.eq_of_key memberOther member (same.trans stored.symm)
    rw [stage] at fits
    obtain ⟨_, _, paid⟩ := fits
    have settled (debt : Obligation) : ¬ (s.ledgers other.id).Owes debt := by
      cases debt with
      | radio radio => exact paid.radios radio (by rw [point]; trivial) fine
      | logger => exact paid.logger (.inr point)
    refine held.write member rfl (fun _ => .refl _) rfl (fun _ => id) ?_ (by simp)
      fun _ _ _ _ => fenced_none rfl
    refine (held.rows other member).write (.of_columns ⟨rfl, rfl⟩ ⟨rfl, rfl⟩ rfl rfl) ?_
      fun _ => .inr settled
    intro radio named
    cases radio <;> cases named

theorem sound_recovery {row : IngestRadioTransition} {ledger : Ledger Obligation}
    (sound : Sound row ledger) (now : Time) (error : String) :
    Sound ((recoveryValues now error).write row) ledger := by
  refine sound.write (.of_columns ⟨rfl, rfl⟩ ⟨rfl, rfl⟩ rfl rfl) ?_ ?_
  · intro radio named
    cases radio <;> cases named
  · intro ended
    simp [IngestRadioTransition.closed, recoveryValues] at ended

theorem Kept.handOver (held : s.Kept) (o : RadioTransition) (error : String) :
    (s.handOver o error).Kept := by
  rcases handOver_cases (s := s) o error with unchanged | ⟨row, member, _, _, written⟩
  · rw [unchanged]
    exact held.released
  · rw [written]
    exact held.write member rfl (fun _ => .refl _) rfl (fun _ => id)
      (sound_recovery (held.rows row member) s.now error) (by simp) fun _ _ _ _ => fenced_none rfl

theorem Kept.adopt (held : s.Kept) {snapshot : IngestRadioTransition} {owner : Nat}
    {address : String} {bootId : Option String} {statusPath : String}
    (stepped : s.adoptExpired snapshot owner address bootId statusPath = some t) : t.Kept := by
  obtain ⟨_, row, member, _, _, _, rfl⟩ := adoptExpired_some stepped
  have aside : (adoptionValues snapshot s.now owner address bootId).Aside :=
    .of_columns ⟨rfl, rfl⟩ ⟨rfl, rfl⟩ rfl rfl
  refine held.write member rfl (fun _ => .refl _) rfl (fun _ => id) ?_ ?_
    fun _ _ _ _ => fenced_of_stage rfl rfl
  · refine (held.rows row member).write aside ?_ fun ended => .inl ended
    intro radio named
    cases radio <;> cases named
  · intro o owned
    obtain rfl := Option.some.inj owned
    exact ⟨_, write_mem member, rfl, trivial⟩

theorem Kept.outside (held : s.Kept) {row : IngestRadioTransition} {values : Values}
    (member : row ∈ s.rows) (aside : values.Aside)
    (sound : Sound (values.write row) (s.ledgers row.id))
    (lease : (values.write row).active = true → row.active = true ∧
      ((values.write row).leaseExpiresAt = row.leaseExpiresAt ∨
        (values.write row).leaseExpiresAt ≤ s.now)) :
    ({ s with rows := Ingest.write s.rows row.id values } : Coordinator).Kept := by
  refine held.write member rfl (fun _ => .refl _) rfl (fun _ => id) sound ?_ ?_
  · intro o owned
    obtain ⟨other, memberOther, stored, fits⟩ := held.owner o owned
    by_cases hit : other.id = row.id
    · obtain rfl : other = row := Table.eq_of_key memberOther member hit
      exact ⟨_, write_mem member, stored, fits.write aside⟩
    · exact ⟨other, mem_write_of_ne memberOther hit, stored, fits⟩
  · intro report _ _ fenced o owned same opening other memberOther stored active
    rcases mem_write_cases member memberOther with rfl | ⟨old, _⟩
    · obtain ⟨before, kept | expired⟩ := lease active
      · rw [kept]
        exact fenced o owned same opening row member stored before
      · exact expired
    · exact fenced o owned same opening other old stored active

theorem Kept.expire (held : s.Kept) {id owner : Nat} {error : String}
    (stepped : s.expire id owner error = some t) : t.Kept := by
  obtain ⟨row, member, _, active, rfl⟩ := expire_some stepped
  exact held.outside member (.of_columns ⟨rfl, rfl⟩ ⟨rfl, rfl⟩ rfl rfl)
    (sound_recovery (held.rows row member) s.now error) fun _ => ⟨active, .inr (le_refl s.now)⟩

theorem Kept.cleanCapsule (held : s.Kept) {id : Nat} {path : String}
    (stepped : s.cleanCapsule id path = some t) : t.Kept := by
  obtain ⟨row, member, _, rfl⟩ := cleanCapsule_some stepped
  have aside : ({ hotspotRestoreRef := some none } : Values).Aside :=
    .of_columns ⟨rfl, rfl⟩ ⟨rfl, rfl⟩ rfl rfl
  refine held.outside member aside ?_ fun active => ⟨active, .inl rfl⟩
  refine (held.rows row member).write aside ?_ fun ended => .inl ended
  intro radio named
  cases radio <;> cases named

theorem Kept.readReport (held : s.Kept) (report : UnitRadioReport) :
    (s.readReport report).Kept := by
  rcases readReport_cases s report with unchanged | ⟨row, member, read⟩
  · rw [unchanged]
    exact held
  have sound := held.rows row member
  let values := report.values row s.now
  let pending : ReadReport := ⟨row.id, values, s.stamp⟩
  have ended (closes : pending.closes = true) :
      UnitRadioReport.ownerLive row s.now = false ∧ report.outstanding row = [] := by
    rcases report.values_cases row s.now with ⟨kept, _⟩ | ⟨expired, settled, _, _⟩ |
      ⟨_, _, kept, _⟩
    · simp [ReadReport.closes, pending, values, kept] at closes
    · exact ⟨expired, settled⟩
    · simp [ReadReport.closes, pending, values, kept] at closes
  have claims (radio : Radio) (said : report.state radio ≠ .skip)
      (verified : report.verified row radio = true) : pending.claims radio = true := by
    simp [ReadReport.claims, pending, values, UnitRadioReport.evidence_restoreVerified, said,
      verified]
  have settled (closes : pending.closes = true) :
      (∀ radio, pending.claims radio = true ∨ ¬ (s.ledgers row.id).Owes (.radio radio)) ∧
        ¬ (s.ledgers row.id).Owes .logger := by
    obtain ⟨radios, logger⟩ := report.settled_of_outstanding row (ended closes).2
    refine ⟨?_, ?_⟩
    · intro radio
      rcases radios radio with ⟨said, verified⟩ | ⟨_, untouched | restored | ⟨rfl, transport⟩⟩
      · exact .inl (claims radio said verified)
      · refine .inr fun owes => ?_
        rw [sound.attempted radio owes] at untouched
        cases untouched
      · exact .inr (sound.restored radio restored)
      · refine .inr fun owes => ?_
        have on := sound.baseline .hotspot (sound.attempted .hotspot owes)
        rw [IngestRadioTransition.columns, transport] at on
        cases on
    · intro owes
      rcases logger with unrequested | resumed
      · have requested := sound.requested owes
        simp [unrequested] at requested
      · exact sound.resumed resumed owes
  have fenced (closes : pending.closes = true) : s.Fenced row.id := by
    intro o _ _ _ other memberOther stored active
    obtain rfl : other = row := Table.eq_of_key memberOther member stored
    have expired := (ended closes).1
    simpa [UnitRadioReport.ownerLive, active] using expired
  rw [read]
  refine ⟨held.rows, held.owner, held.unused, held.stamped, ?_⟩
  intro other memberOther
  rcases List.mem_append.mp memberOther with old | new
  · have before := held.reports other old
    exact ⟨before.origin, before.stored, before.recent, before.settled, before.fenced⟩
  · obtain rfl : other = pending := List.mem_singleton.mp new
    exact ⟨⟨report, row, s.now, rfl⟩, ⟨row, member, rfl⟩, fun radio _ => held.stamped row.id _,
      settled, fenced⟩

theorem settleReport_lighter (report : ReadReport) (ledger : Ledger Obligation) :
    Lighter (settleReport report ledger) ledger := by
  have one (ledger : Ledger Obligation) (radio : Radio) :
      Lighter (if report.claims radio then ledger.settle (.radio radio) report.readAt else ledger)
        ledger := by
    split
    · exact .settle _ _ _
    · exact .refl _
  exact (one _ .hotspot).trans (one _ .bluetooth)

theorem not_owes_settleReport {report : ReadReport} {ledger : Ledger Obligation} {radio : Radio}
    (recent : ledger.incurred (.radio radio) ≤ report.readAt) (claimed : report.claims radio = true) :
    ¬ (settleReport report ledger).Owes (.radio radio) := by
  cases radio with
  | bluetooth =>
    intro owes
    have settled : ¬ (ledger.settle (.radio .bluetooth) report.readAt).Owes (.radio .bluetooth) :=
      Ledger.not_owes_settle recent
    simp only [settleReport, List.foldl_cons, List.foldl_nil, claimed, if_true] at owes
    split at owes
    · exact settled (Ledger.owes_of_settle owes)
    · exact settled owes
  | hotspot =>
    simp only [settleReport, List.foldl_cons, List.foldl_nil, claimed, if_true]
    split <;> exact Ledger.not_owes_settle recent

theorem Kept.settle (held : s.Kept) {id : Nat} {change : Ledger Obligation → Ledger Obligation}
    (lighter : Lighter (change (s.ledgers id)) (s.ledgers id)) : (s.record id change).Kept := by
  refine held.same rfl (record_lighter lighter) rfl rfl ?_ fun _ fenced => fenced
  intro o owned
  obtain ⟨row, member, stored, fits⟩ := held.owner o owned
  exact ⟨row, member, stored, fits.lighter (record_lighter lighter row.id)⟩

theorem Kept.drop (held : s.Kept) {reports : List ReadReport}
    (fewer : ∀ report ∈ reports, report ∈ s.reports) :
    ({ s with reports := reports } : Coordinator).Kept := by
  refine ⟨held.rows, held.owner, held.unused, held.stamped, ?_⟩
  intro report member
  have pending := held.reports report (fewer report member)
  exact ⟨pending.origin, pending.stored, pending.recent, pending.settled, pending.fenced⟩

theorem Kept.writeReport (held : s.Kept) {index : Nat} (stepped : s.writeReport index = some t) :
    t.Kept := by
  obtain ⟨report, member, _, rfl⟩ := writeReport_some stepped
  have pending := held.reports report member
  obtain ⟨row, stored, same⟩ := pending.stored
  obtain ⟨original, read, now, origin⟩ := pending.origin
  have keptSettled := held.settle (settleReport_lighter report (s.ledgers report.id))
  have sound := keptSettled.rows row stored
  have claimed (radio : Radio) (claims : report.claims radio = true) :
      ¬ ((s.record report.id (settleReport report)).ledgers row.id).Owes (.radio radio) := by
    simpa [record, same] using not_owes_settleReport (pending.recent radio claims) claims
  have settled (closes : report.closes = true) (debt : Obligation) :
      ¬ ((s.record report.id (settleReport report)).ledgers row.id).Owes debt := by
    have lighter := record_lighter (settleReport_lighter report (s.ledgers report.id)) row.id
    obtain ⟨radios, logger⟩ := pending.settled closes
    rw [← same] at radios logger
    cases debt with
    | radio radio =>
      rcases radios radio with claims | free
      · exact claimed radio claims
      · exact fun owes => free (lighter.owes _ owes)
    | logger => exact fun owes => logger (lighter.owes _ owes)
  have soundWritten : Sound (report.values.write row)
      ((s.record report.id (settleReport report)).ledgers row.id) := by
    refine sound.write pending.aside ?_ ?_
    · intro radio named
      exact claimed radio (by simp [ReadReport.claims, named])
    · intro ended
      rw [IngestRadioTransition.closed, Values.write_active, Values.write_recoveryRequired, origin]
        at ended
      rcases original.values_cases read now with ⟨kept, same'⟩ | ⟨_, _, closes, _⟩ |
        ⟨_, _, _, required⟩
      · exact .inl (by simpa [IngestRadioTransition.closed, kept, same'] using ended)
      · exact .inr (settled (by simp [ReadReport.closes, origin, closes]))
      · simp [required] at ended
  have kept : (report.values.write row).active = true → row.active = true ∧
      (report.values.write row).leaseExpiresAt = row.leaseExpiresAt := by
    rw [Values.write_active, Values.write_leaseExpiresAt, origin]
    rcases original.values_cases read now with ⟨kept, _⟩ | ⟨_, _, closes, _⟩ | ⟨_, _, kept, _⟩
    · simp [kept]
    · simp [closes]
    · simp [kept]
  have keptWritten := keptSettled.outside stored pending.aside soundWritten
    fun active => ⟨(kept active).1, .inl (kept active).2⟩
  rw [same] at keptWritten
  exact keptWritten.drop fun other => List.mem_of_mem_eraseIdx

theorem Kept.step {e : Event} (held : s.Kept) (allowed : s.Unreported e) (stepped : s.Stepped e t) :
    t.Kept := by
  cases e with
  | tick seconds =>
    obtain rfl := Option.some.inj stepped
    exact held.tick seconds
  | begin input => exact held.begin stepped
  | prepareLogger request => exact held.prepareLogger stepped
  | checkpoint move => exact held.checkpoint stepped
  | issueDisable => exact held.issueDisable allowed stepped
  | raise =>
    obtain ⟨o, owned, rfl⟩ := raise_some stepped
    exact held.moved owned rfl fun _ _ _ _ _ => trivial
  | restore error => exact held.restore stepped
  | answer a => exact held.answer stepped
  | consultUnit => exact held.consultUnit stepped
  | finish => exact held.finish stepped
  | giveUp =>
    obtain ⟨o, error, _, rfl⟩ := giveUp_some stepped
    exact held.handOver o error
  | persistRestoreFailure error =>
    obtain ⟨o, _, rfl⟩ := Option.map_eq_some_iff.mp stepped
    exact held.handOver o error
  | requireRecovery error =>
    obtain ⟨o, _, rfl⟩ := Option.map_eq_some_iff.mp stepped
    exact held.handOver o error
  | crash =>
    obtain ⟨o, _, rfl⟩ := Option.map_eq_some_iff.mp stepped
    exact held.released
  | adopt snapshot owner address bootId statusPath => exact held.adopt stepped
  | expire stored owner error => exact held.expire stepped
  | cleanCapsule stored path => exact held.cleanCapsule stepped
  | readReport report =>
    obtain rfl := Option.some.inj stepped
    exact held.readReport report
  | writeReport index => exact held.writeReport stepped

/-- While no disable command is issued after the unit has reported on it, a row is put aside only
when every radio has been verified or reported restored since its disable, and the logger resumed. -/
theorem noDebtForgotten_of_unreported {now : Time} {es : List Event}
    (run : Run Stepped Unreported (initial now) es s) : s.NoDebtForgotten :=
  (run.invariant Kept (fun _ _ _ held allowed stepped => held.step allowed stepped)
    (.initial now)).noDebtForgotten

def bluetoothQuiet : List Event :=
  [.begin ⟨1, 1, "unit", "device@boot", none, some 7⟩,
    .checkpoint .markObdTransferComplete, .checkpoint .capture,
    .checkpoint (.baseline ⟨.on, .on, some "ap0"⟩ (some "capsule")), .checkpoint .startDisabling,
    .checkpoint .disableIntent, .issueDisable, .checkpoint .disableVerified,
    .checkpoint .disableIntent]

def restoredReport : List Event :=
  [.readReport ⟨1, 7, "lease_expired", .restored, .restored, "ap0"⟩, .writeReport 0]

/-- The quiet state cannot be proved. Bluetooth reads back as on, and the unit's report stands in
for the readback of the hotspot. -/
def trustingRestore : List Event :=
  [.checkpoint .disableVerified, .raise, .restore none, .checkpoint .startRestoring,
    .checkpoint .restoreIntent, .answer (.readback true), .checkpoint .restoreRecorded,
    .checkpoint .restoreIntent, .answer (.readback false), .consultUnit,
    .checkpoint .restoreRecorded, .answer (.standDown true), .answer .pass, .finish]

def closedRow (s : Coordinator) (owed : Bool) : Bool :=
  s.rows.rows.any fun row => !row.active && !row.recoveryRequired &&
    decide ((s.ledgers row.id).Owes (.radio .hotspot)) = owed

/-- The owner dies with both radios off, and the unit's report closes its row. -/
theorem noDebtForgotten_reported :
    ∃ s, Run Stepped Unreported (initial 0) (bluetoothQuiet ++ [.issueDisable,
        .checkpoint .disableVerified, .checkpoint .quietProved, .crash, .tick 60] ++
        restoredReport) s ∧ s.closedRow false = true ∧ s.NoDebtForgotten := by
  have closed : (trace step Unreported (initial 0) (bluetoothQuiet ++ [.issueDisable,
      .checkpoint .disableVerified, .checkpoint .quietProved, .crash, .tick 60] ++
      restoredReport)).any (closedRow · false) = true := by
    decide +kernel
  obtain ⟨s, traced, holds⟩ := (Option.any_eq_true _ _).mp closed
  have run := run_of_trace step Unreported traced
  exact ⟨s, run, holds, noDebtForgotten_of_unreported run⟩

/-- The report comes first, the hotspot is stopped after it, and the restore trusts the report. -/
theorem not_noDebtForgotten : ¬ ∀ now es s, Run Stepped anyStep (initial now) es s →
    s.NoDebtForgotten := by
  intro claimed
  have closed : (trace step anyStep (initial 0) (bluetoothQuiet ++ restoredReport ++
      [.issueDisable] ++ trustingRestore)).any (closedRow · true) = true := by
    decide +kernel
  obtain ⟨s, traced, holds⟩ := (Option.any_eq_true _ _).mp closed
  simp only [closedRow, List.any_eq_true, Bool.and_eq_true, Bool.not_eq_true',
    decide_eq_true_eq] at holds
  obtain ⟨row, member, ⟨inactive, unrequired⟩, owed⟩ := holds
  exact claimed 0 _ s (run_of_trace step anyStep traced) row member inactive unrequired _ owed

end Coordinator

end DashcamStats.Ingest
