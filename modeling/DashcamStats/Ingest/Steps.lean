import DashcamStats.Ingest.Coordinator

namespace DashcamStats.Ingest

@[simp] theorem ofRadio_active (radio : Radio) (values : RadioValues) :
    (Values.ofRadio radio values).active = none := by
  cases radio <;> rfl

@[simp] theorem ofRadio_recoveryRequired (radio : Radio) (values : RadioValues) :
    (Values.ofRadio radio values).recoveryRequired = none := by
  cases radio <;> rfl

@[simp] theorem ofRadio_loggerRequestId (radio : Radio) (values : RadioValues) :
    (Values.ofRadio radio values).loggerRequestId = none := by
  cases radio <;> rfl

@[simp] theorem ofRadio_loggerResumeVerified (radio : Radio) (values : RadioValues) :
    (Values.ofRadio radio values).loggerResumeVerified = none := by
  cases radio <;> rfl

theorem ofRadio_columns (radio other : Radio) (values : RadioValues) :
    (Values.ofRadio radio values).columns other = if other = radio then values else {} := by
  cases radio <;> cases other <;> rfl

-- A statement that writes the row of `id` leaves the other rows as they are.
theorem mem_write_cases {rows : Transitions} {values : Values} {row other : IngestRadioTransition}
    (current : row ∈ rows) (member : other ∈ write rows row.id values) :
    other = values.write row ∨ other ∈ rows ∧ other.id ≠ row.id := by
  obtain ⟨old, memberOld, rfl⟩ := mem_write.mp member
  by_cases same : old.id = row.id
  · obtain rfl : old = row := Table.eq_of_key memberOld current same
    simp
  · exact .inr (by simpa [same] using memberOld)

theorem write_mem {rows : Transitions} {values : Values} {row : IngestRadioTransition}
    (current : row ∈ rows) : values.write row ∈ write rows row.id values :=
  mem_write.mpr ⟨row, current, by simp⟩

theorem mem_write_of_ne {rows : Transitions} {values : Values} {row : IngestRadioTransition}
    {id : Nat} (current : row ∈ rows) (other : row.id ≠ id) : row ∈ write rows id values :=
  mem_write.mpr ⟨row, current, by simp [other]⟩

theorem Move.next_values {m : Move} {row : IngestRadioTransition} {stage next : Stage}
    {values : Values} (moved : m.next row stage = some (values, next)) :
    values.active = none ∧ values.recoveryRequired = none ∧ values.loggerRequestId = none := by
  revert moved
  fun_cases Move.next row m stage <;> intro moved <;> cases moved <;> simp

namespace Coordinator

variable {s t : Coordinator}

theorem checkpoint_some {m : Move} (stepped : s.checkpoint m = some t) :
    ∃ o row values stage, s.owner = some o ∧ row ∈ s.rows ∧ row.id = o.id ∧
      m.next row o.stage = some (values, stage) ∧ row.heldBy o.leaseOwner = true ∧
      (allowExpired m o.stage = true ∨ s.now < row.leaseExpiresAt) ∧
      t = { s with
        rows := write s.rows row.id (values.renewing s.now)
        owner := some { o with stage := stage } } := by
  obtain ⟨o, owned, stepped⟩ := Option.bind_eq_some_iff.mp stepped
  obtain ⟨row, found, stepped⟩ := Option.bind_eq_some_iff.mp stepped
  obtain ⟨⟨values, stage⟩, moved, stepped⟩ := Option.bind_eq_some_iff.mp stepped
  obtain ⟨member, same⟩ := Table.find?_mem found
  by_cases guard : row.heldBy o.leaseOwner = true ∧
      (allowExpired m o.stage = true ∨ s.now < row.leaseExpiresAt)
  · rw [if_pos guard] at stepped
    exact ⟨o, row, values, stage, owned, member, same, moved, guard.1, guard.2,
      by simpa [same] using stepped.symm⟩
  · simp [guard] at stepped

theorem prepareLogger_some {request : Nat} (stepped : s.prepareLogger request = some t) :
    ∃ o row, s.owner = some o ∧ row ∈ s.rows ∧ row.id = o.id ∧ o.stage = .ready ∧
      row.active = true ∧ s.now < row.leaseExpiresAt ∧
      t = ({ s with
        rows := write s.rows row.id (Values.renewing s.now
          { phase := some .finalisingObd, loggerRequestId := some (some request) })
        owner := some { o with stage := .pausing } }.incur row.id .logger) := by
  obtain ⟨o, owned, stepped⟩ := Option.bind_eq_some_iff.mp stepped
  obtain ⟨row, found, stepped⟩ := Option.bind_eq_some_iff.mp stepped
  obtain ⟨member, same⟩ := Table.find?_mem found
  by_cases guard : o.stage = .ready ∧ truthy o.loggerStatusPath = true ∧
      row.heldBy o.leaseOwner = true ∧ s.now < row.leaseExpiresAt
  · rw [if_pos guard] at stepped
    obtain ⟨ready, _, holds, unexpired⟩ := guard
    have active : row.active = true := by
      simp only [IngestRadioTransition.heldBy, Bool.and_eq_true] at holds
      exact holds.1
    exact ⟨o, row, owned, member, same, ready, active, unexpired, by simpa [same] using stepped.symm⟩
  · simp [guard] at stepped

theorem issueDisable_some (stepped : s.issueDisable = some t) :
    ∃ o snapshot radio, s.owner = some o ∧ o.stage = .intended snapshot radio ∧
      t = s.incur o.id (.radio radio) := by
  obtain ⟨o, owned, stepped⟩ := Option.bind_eq_some_iff.mp stepped
  obtain ⟨radio, issues, rfl⟩ := Option.map_eq_some_iff.mp stepped
  cases stage : o.stage with
  | intended snapshot other =>
    obtain rfl : other = radio := by simpa [stage, issuing] using issues
    exact ⟨o, snapshot, other, owned, stage, rfl⟩
  | _ => simp [stage, issuing] at issues

theorem raise_some (stepped : s.raise = some t) :
    ∃ o, s.owner = some o ∧ t = { s with owner := some { o with stage := .concluded } } := by
  obtain ⟨o, owned, stepped⟩ := Option.bind_eq_some_iff.mp stepped
  refine ⟨o, owned, ?_⟩
  cases stage : o.stage <;> simp [stage] at stepped <;> exact stepped.symm

-- `restore` reads the row once, and ends where the row is not its own any more.
theorem restore_some {error : Option String} (stepped : s.restore error = some t) :
    ∃ o, s.owner = some o ∧
      (t = { s with owner := none } ∨ ∃ row ∈ s.rows, row.id = o.id ∧
        t = { s with owner := some { o with
          stage := .restoring ⟨row, .entered, true, error, error.toList⟩ } }) := by
  obtain ⟨o, owned, stepped⟩ := Option.bind_eq_some_iff.mp stepped
  have entered : t = s.enterRestore o error := by
    cases stage : o.stage <;> simp [stage] at stepped <;> exact stepped.symm
  refine ⟨o, owned, ?_⟩
  cases found : (s.rows.find? o.id).filter fun row => row.heldBy o.leaseOwner with
  | none => exact .inl (by simp [entered, enterRestore, found])
  | some row =>
    obtain ⟨here, _⟩ := Option.filter_eq_some_iff.mp found
    obtain ⟨member, same⟩ := Table.find?_mem here
    exact .inr ⟨row, member, same, by simp [entered, enterRestore, found]⟩

theorem answer_some {a : Answer} (stepped : s.answer a = some t) :
    ∃ o r next, s.owner = some o ∧ o.stage = .restoring r ∧
      r.answer o.loggerStatusPath a = some next ∧
      t = { s.record o.id (settledBy o.loggerStatusPath r a s.stamp) with
        owner := some { o with stage := .restoring next } } := by
  obtain ⟨o, owned, stepped⟩ := Option.bind_eq_some_iff.mp stepped
  cases stage : o.stage with
  | restoring r =>
    obtain ⟨next, answered, rfl⟩ := Option.map_eq_some_iff.mp (by simpa [stage] using stepped)
    exact ⟨o, r, next, owned, stage, answered, rfl⟩
  | _ => simp [stage] at stepped

theorem consultUnit_some (stepped : s.consultUnit = some t) :
    ∃ o r radio, s.owner = some o ∧ o.stage = .restoring r ∧ r.point = .unconfirmed radio ∧
      t = { s with owner := some { o with stage := .restoring { r with
        point := .answered radio
          ((s.rows.find? o.id).any fun row => unitAlreadyVerified row radio) } } } := by
  obtain ⟨o, owned, stepped⟩ := Option.bind_eq_some_iff.mp stepped
  cases stage : o.stage with
  | restoring r =>
    cases point : r.point with
    | unconfirmed radio =>
      exact ⟨o, r, radio, owned, stage, point, by simpa [stage, point] using stepped.symm⟩
    | _ => simp [stage, point] at stepped
  | _ => simp [stage] at stepped

theorem getD_writeIf (rows : Transitions) (id : Nat) (guard : IngestRadioTransition → Bool)
    (values : Values) :
    (writeIf rows id guard values).getD rows = rows ∨ ∃ row ∈ rows, row.id = id ∧
      guard row = true ∧ (writeIf rows id guard values).getD rows = write rows row.id values := by
  cases written : writeIf rows id guard values with
  | none => exact .inl rfl
  | some next =>
    obtain ⟨row, member, same, holds, rfl⟩ := writeIf_some written
    exact .inr ⟨row, member, same, holds, by simp [same]⟩

theorem active_of_heldBy {row : IngestRadioTransition} {owner : Nat}
    (holds : row.heldBy owner = true) : row.active = true := by
  simp only [IngestRadioTransition.heldBy, Bool.and_eq_true] at holds
  exact holds.1

theorem finish_some (stepped : s.finish = some t) :
    ∃ o r, s.owner = some o ∧ o.stage = .restoring r ∧ r.point = .closing true ∧
      r.radioOk = true ∧ (t = { s with owner := none } ∨
        ∃ row ∈ s.rows, row.id = o.id ∧ row.active = true ∧ t = { s with
          rows := write s.rows row.id (finishValues s.now r.error r.errors)
          owner := none }) := by
  obtain ⟨o, owned, stepped⟩ := Option.bind_eq_some_iff.mp stepped
  cases stage : o.stage with
  | restoring r =>
    by_cases closing : r.point = .closing true ∧ r.radioOk = true
    · refine ⟨o, r, owned, stage, closing.1, closing.2, ?_⟩
      obtain rfl := by simpa [stage, closing] using stepped.symm
      rcases getD_writeIf s.rows o.id (·.heldBy o.leaseOwner)
        (finishValues s.now r.error r.errors) with same | ⟨row, member, id, holds, written⟩
      · exact .inl (by simp [same])
      · exact .inr ⟨row, member, id, active_of_heldBy holds, by simp [written]⟩
    · simp [stage, closing] at stepped
  | _ => simp [stage] at stepped

theorem handOver_cases (o : RadioTransition) (error : String) :
    s.handOver o error = { s with owner := none } ∨ ∃ row ∈ s.rows, row.id = o.id ∧
      row.active = true ∧ s.handOver o error = { s with
        rows := write s.rows row.id (recoveryValues s.now error)
        owner := none } := by
  rcases getD_writeIf s.rows o.id (·.heldBy o.leaseOwner) (recoveryValues s.now error) with
    same | ⟨row, member, id, holds, written⟩
  · exact .inl (by simp [handOver, same])
  · exact .inr ⟨row, member, id, active_of_heldBy holds, by simp [handOver, written]⟩

theorem giveUp_some (stepped : s.giveUp = some t) :
    ∃ o error, s.owner = some o ∧ t = s.handOver o error := by
  obtain ⟨o, owned, stepped⟩ := Option.bind_eq_some_iff.mp stepped
  cases stage : o.stage with
  | restoring r =>
    cases point : r.point with
    | closing resumeOk =>
      by_cases fine : (r.radioOk && resumeOk) = true
      · simp [stage, point, fine] at stepped
      · exact ⟨o, _, owned, by simpa [stage, point, fine] using stepped.symm⟩
    | _ => simp [stage, point] at stepped
  | _ => simp [stage] at stepped

theorem adoptExpired_some {snapshot : IngestRadioTransition} {owner : Nat} {address : String}
    {bootId : Option String} {statusPath : String}
    (stepped : s.adoptExpired snapshot owner address bootId statusPath = some t) :
    s.owner = none ∧ ∃ row ∈ s.rows, row.id = snapshot.id ∧ row.active = true ∧
      row.leaseExpiresAt ≤ s.now ∧ t = { s with
        rows := write s.rows row.id (adoptionValues snapshot s.now owner address bootId)
        owner := some ⟨row.id, owner,
          if truthy snapshot.loggerStatusPath then snapshot.loggerStatusPath else some statusPath,
          .adopted snapshot⟩ } := by
  by_cases free : s.owner = none
  · obtain ⟨rows, written, rfl⟩ := Option.map_eq_some_iff.mp (by simpa [adoptExpired, free] using stepped)
    obtain ⟨row, member, same, guard, rfl⟩ := writeIf_some written
    simp only [adoptable, Bool.and_eq_true, decide_eq_true_eq] at guard
    exact ⟨free, row, member, same, guard.1, guard.2, by simp [same]⟩
  · simp [adoptExpired, free] at stepped

theorem expire_some {id owner : Nat} {error : String} (stepped : s.expire id owner error = some t) :
    ∃ row ∈ s.rows, row.id = id ∧ row.active = true ∧
      t = { s with rows := write s.rows row.id (recoveryValues s.now error) } := by
  obtain ⟨rows, written, rfl⟩ := Option.map_eq_some_iff.mp stepped
  obtain ⟨row, member, same, holds, rfl⟩ := writeIf_some written
  exact ⟨row, member, same, active_of_heldBy holds, by simp [same]⟩

theorem cleanCapsule_some {id : Nat} {path : String} (stepped : s.cleanCapsule id path = some t) :
    ∃ row ∈ s.rows, row.id = id ∧
      t = { s with rows := write s.rows row.id { hotspotRestoreRef := some none } } := by
  obtain ⟨rows, written, rfl⟩ := Option.map_eq_some_iff.mp stepped
  obtain ⟨row, member, same, _, rfl⟩ := writeIf_some written
  exact ⟨row, member, same, by simp [same]⟩

theorem begin_some {input : BeginInput} (stepped : s.begin input = some t) :
    s.owner = none ∧ (∀ row ∈ s.rows, row.active = false) ∧
      ∃ fresh, t = { s with
        rows := s.rows.insert (input.row s.rows.nextKey s.now) fresh
        owner := some ⟨s.rows.nextKey, input.leaseOwner, input.loggerStatusPath, .ready⟩ } := by
  by_cases guard : s.owner = none ∧ (∀ row ∈ s.rows.rows, row.active = false) ∧
      ∀ row ∈ s.rows.rows, row.transitionId ≠ input.transitionId
  · rw [begin, if_pos guard] at stepped
    exact ⟨guard.1, guard.2.1, _, (Option.some.inj stepped).symm⟩
  · simp [begin, guard] at stepped

theorem readReport_cases (s : Coordinator) (report : UnitRadioReport) :
    s.readReport report = s ∨ ∃ row ∈ s.rows, s.readReport report =
      { s with reports := s.reports ++ [⟨row.id, report.values row s.now, s.stamp⟩] } := by
  cases found : s.rows.rows.find? fun row => row.transitionId = report.transitionId with
  | none => exact .inl (by simp [readReport, found])
  | some row =>
    have member : row ∈ s.rows := Table.mem_rows.mpr (List.mem_of_find?_eq_some found)
    by_cases accepted : report.accepted row
    · exact .inr ⟨row, member, by simp [readReport, found, accepted]⟩
    · exact .inl (by simp [readReport, found, accepted])

theorem writeReport_some {index : Nat} (stepped : s.writeReport index = some t) :
    ∃ report ∈ s.reports, s.reports[index]? = some report ∧
      t = { s.record report.id (settleReport report) with
        rows := write s.rows report.id report.values
        reports := s.reports.eraseIdx index } := by
  obtain ⟨report, found, rfl⟩ := Option.map_eq_some_iff.mp stepped
  exact ⟨report, List.mem_of_getElem? found, found, rfl⟩

end Coordinator

namespace UnitRadioReport

variable (report : UnitRadioReport) (row : IngestRadioTransition) (now : Time)

theorem values_cases :
    ((report.values row now).active = none ∧ (report.values row now).recoveryRequired = none) ∨
    (ownerLive row now = false ∧ report.outstanding row = [] ∧
      (report.values row now).active = some false ∧
      (report.values row now).recoveryRequired = some false) ∨
    (ownerLive row now = false ∧ report.outstanding row ≠ [] ∧
      (report.values row now).active = none ∧
      (report.values row now).recoveryRequired = some true) := by
  by_cases live : ownerLive row now
  · simp [values, live, evidenceValues]
  · by_cases outstanding : report.outstanding row = [] <;> simp [values, live, outstanding, evidenceValues]

@[simp] theorem values_loggerRequestId : (report.values row now).loggerRequestId = none := by
  simp only [values]
  split <;> [rfl; split <;> rfl]

@[simp] theorem values_loggerResumeVerified :
    (report.values row now).loggerResumeVerified = none := by
  simp only [values]
  split <;> [rfl; split <;> rfl]

@[simp] theorem values_leaseExpiresAt : (report.values row now).leaseExpiresAt = none := by
  simp only [values]
  split <;> [rfl; split <;> rfl]

def state : Radio → ReportedState
  | .bluetooth => report.bluetooth
  | .hotspot => report.hotspot

def verified : Radio → Bool
  | .bluetooth => report.bluetoothVerified
  | .hotspot => report.hotspotVerified row

@[simp] theorem values_columns (radio : Radio) :
    (report.values row now).columns radio =
      evidence (report.state radio) (report.verified row radio) := by
  cases radio <;> simp only [values] <;> split <;> [rfl; split <;> rfl; rfl; split <;> rfl]

@[simp] theorem evidence_disableAttempted (state : ReportedState) (verified : Bool) :
    (evidence state verified).disableAttempted = none := by
  cases state <;> rfl

@[simp] theorem evidence_before (state : ReportedState) (verified : Bool) :
    (evidence state verified).before = none := by
  cases state <;> rfl

theorem evidence_restoreVerified (state : ReportedState) (verified : Bool) :
    (evidence state verified).restoreVerified =
      if state = .skip then none else some verified := by
  cases state <;> rfl

theorem settled_of_outstanding (none_left : report.outstanding row = []) :
    (∀ radio, (report.state radio ≠ .skip ∧ report.verified row radio = true) ∨
      report.state radio = .skip ∧ ((row.columns radio).disableAttempted = false ∨
        (row.columns radio).restoreVerified = true ∨
        radio = .hotspot ∧ row.hotspot.before = .transport)) ∧
      (row.loggerRequestId = none ∨ row.loggerResumeVerified = true) := by
  simp only [outstanding, List.append_eq_nil_iff, ite_eq_right_iff, reduceCtorEq, imp_false,
    Bool.not_eq_true] at none_left
  obtain ⟨⟨bluetooth, hotspot⟩, logger⟩ := none_left
  refine ⟨?_, ?_⟩
  · intro radio
    cases radio with
    | bluetooth =>
      cases said : report.bluetooth with
      | restored => simp [state, verified, bluetoothVerified, said]
      | unrestored => simp [bluetoothOutstanding, bluetoothVerified, said] at bluetooth
      | skip =>
        simp only [bluetoothOutstanding, said, Bool.and_eq_false_iff, Bool.not_eq_false']
          at bluetooth
        rcases bluetooth with untouched | restored
        · exact .inr ⟨said, .inl untouched⟩
        · exact .inr ⟨said, .inr (.inl restored)⟩
    | hotspot =>
      cases said : report.hotspot with
      | restored =>
        refine .inl ⟨by simp [state, said], ?_⟩
        simpa [hotspotOutstanding, said, verified] using hotspot
      | unrestored => simp [hotspotOutstanding, hotspotVerified, said] at hotspot
      | skip =>
        simp only [hotspotOutstanding, said, Bool.and_eq_false_iff, Bool.or_eq_false_iff,
          Bool.not_eq_false', decide_eq_false_iff_not, not_not] at hotspot
        rcases hotspot with (transport | untouched) | restored
        · exact .inr ⟨said, .inr (.inr ⟨rfl, transport⟩)⟩
        · exact .inr ⟨said, .inl untouched.2⟩
        · exact .inr ⟨said, .inr (.inl restored)⟩
  · cases request : row.loggerRequestId with
    | none => exact .inl rfl
    | some _ => exact .inr (by simpa [loggerOutstanding, request] using logger)

end UnitRadioReport

end DashcamStats.Ingest
