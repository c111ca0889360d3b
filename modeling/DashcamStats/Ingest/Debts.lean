import DashcamStats.Ingest.Steps

namespace DashcamStats.Ingest

open IngestRadioTransition

structure Sound (row : IngestRadioTransition) (ledger : Ledger Obligation) : Prop where
  attempted : ∀ radio, ledger.Owes (.radio radio) → (row.columns radio).disableAttempted = true
  baseline : ∀ radio, (row.columns radio).disableAttempted = true → (row.columns radio).before = .on
  requested : ledger.Owes .logger → row.loggerRequestId.isSome
  restored : ∀ radio, (row.columns radio).restoreVerified = true → ¬ ledger.Owes (.radio radio)
  resumed : row.loggerResumeVerified = true → ¬ ledger.Owes .logger
  closed : row.closed = true → ∀ debt, ¬ ledger.Owes debt

def RestorePoint.past : RestorePoint → Radio → Prop
  | .entered, _ => False
  | .due radio, other | .attempted radio, other | .unconfirmed radio, other
  | .answered radio _, other => radio = .hotspot ∧ other = .bluetooth
  | _, _ => True

/-- What `_restore` has settled by the point it has come to. -/
structure Restore.Paid (r : Restore) (ledger : Ledger Obligation) : Prop where
  radios : ∀ radio, r.point.past radio → r.radioOk = true → ¬ ledger.Owes (.radio radio)
  answered : ∀ radio, r.point = .answered radio true → ¬ ledger.Owes (.radio radio)
  logger : r.point = .resumed true ∨ r.point = .closing true → ¬ ledger.Owes .logger

def Stage.Fits (row : IngestRadioTransition) (ledger : Ledger Obligation) : Stage → Prop
  | .ready | .pausing =>
    (∀ radio, (row.columns radio).disableAttempted = false) ∧ row.loggerResumeVerified = false
  | .capturing => ∀ radio, (row.columns radio).disableAttempted = false
  | .baselined snapshot | .due snapshot _ => ∀ radio, (row.columns radio).before = snapshot.of radio
  | .intended snapshot radio =>
    (∀ radio, (row.columns radio).before = snapshot.of radio) ∧
      (row.columns radio).disableAttempted = true
  | .proving | .concluded | .adopted _ => True
  | .restoring r =>
    (∀ radio, (r.row.columns radio).before = (row.columns radio).before ∧
      (r.row.columns radio).disableAttempted = (row.columns radio).disableAttempted) ∧
      r.row.loggerRequestId = row.loggerRequestId ∧ r.Paid ledger

structure Lighter (ledger other : Ledger Obligation) : Prop where
  owes : ∀ debt, ledger.Owes debt → other.Owes debt
  incurred : ∀ debt, ledger.incurred debt = other.incurred debt

theorem Lighter.refl (ledger : Ledger Obligation) : Lighter ledger ledger := ⟨fun _ => id, fun _ => rfl⟩

theorem Lighter.settle (ledger : Ledger Obligation) (debt : Obligation) (stamp : Nat) :
    Lighter (ledger.settle debt stamp) ledger :=
  ⟨fun _ => Ledger.owes_of_settle, fun _ => rfl⟩

theorem Lighter.trans {first second third : Ledger Obligation} (left : Lighter first second)
    (right : Lighter second third) : Lighter first third :=
  ⟨fun debt owes => right.owes debt (left.owes debt owes),
    fun debt => (left.incurred debt).trans (right.incurred debt)⟩

section Lighter

variable {row : IngestRadioTransition} {ledger later : Ledger Obligation}

theorem Sound.lighter (sound : Sound row ledger) (less : Lighter later ledger) :
    Sound row later where
  attempted radio owes := sound.attempted radio (less.owes _ owes)
  baseline := sound.baseline
  requested owes := sound.requested (less.owes _ owes)
  restored radio verified owes := sound.restored radio verified (less.owes _ owes)
  resumed verified owes := sound.resumed verified (less.owes _ owes)
  closed ended debt owes := sound.closed ended debt (less.owes _ owes)

theorem Restore.Paid.lighter {r : Restore} (paid : r.Paid ledger) (less : Lighter later ledger) :
    r.Paid later where
  radios radio past ok owes := paid.radios radio past ok (less.owes _ owes)
  answered radio point owes := paid.answered radio point (less.owes _ owes)
  logger point owes := paid.logger point (less.owes _ owes)

theorem Stage.Fits.lighter {stage : Stage} (fits : stage.Fits row ledger)
    (less : Lighter later ledger) : stage.Fits row later := by
  cases stage with
  | restoring r => exact ⟨fits.1, fits.2.1, fits.2.2.lighter less⟩
  | _ => exact fits

theorem Stage.Fits.unrelated {stage : Stage} (fits : stage.Fits row ledger)
    (before : ∀ r, stage ≠ .restoring r) : stage.Fits row later := by
  cases stage with
  | restoring r => exact absurd rfl (before r)
  | _ => exact fits

end Lighter

structure Values.Aside (values : Values) : Prop where
  before : ∀ radio, (values.columns radio).before = none
  disableAttempted : ∀ radio, (values.columns radio).disableAttempted = none
  loggerRequestId : values.loggerRequestId = none
  loggerResumeVerified : values.loggerResumeVerified = none

theorem Stage.Fits.write {row : IngestRadioTransition} {ledger : Ledger Obligation} {stage : Stage}
    {values : Values} (fits : stage.Fits row ledger) (aside : values.Aside) :
    stage.Fits (values.write row) ledger := by
  have before (radio : Radio) :
      ((values.write row).columns radio).before = (row.columns radio).before := by
    simp [aside.before]
  have attempted (radio : Radio) :
      ((values.write row).columns radio).disableAttempted =
        (row.columns radio).disableAttempted := by
    simp [aside.disableAttempted]
  have request : (values.write row).loggerRequestId = row.loggerRequestId := by
    simp [aside.loggerRequestId]
  have resumed : (values.write row).loggerResumeVerified = row.loggerResumeVerified := by
    simp [aside.loggerResumeVerified]
  cases stage <;> simp only [Stage.Fits, before, attempted, request, resumed] <;> exact fits

theorem Sound.write {row : IngestRadioTransition} {ledger : Ledger Obligation} {values : Values}
    (sound : Sound row ledger) (aside : values.Aside)
    (restored : ∀ radio, (values.columns radio).restoreVerified = some true →
      ¬ ledger.Owes (.radio radio))
    (closed : (values.write row).closed = true → row.closed = true ∨ ∀ debt, ¬ ledger.Owes debt) :
    Sound (values.write row) ledger where
  attempted radio owes := by simpa [aside.disableAttempted] using sound.attempted radio owes
  baseline radio := by simpa [aside.disableAttempted, aside.before] using sound.baseline radio
  requested owes := by simpa [aside.loggerRequestId] using sound.requested owes
  restored radio verified := by
    cases named : (values.columns radio).restoreVerified with
    | none => exact sound.restored radio (by simpa [named] using verified)
    | some value =>
      obtain rfl : value = true := by simpa [named] using verified
      exact restored radio named
  resumed verified := sound.resumed (by simpa [aside.loggerResumeVerified] using verified)
  closed ended debt := by
    rcases closed ended with before | settled
    · exact sound.closed before debt
    · exact settled debt

theorem Values.Aside.of_columns {values : Values} (bluetooth : values.bluetooth.before = none ∧
      values.bluetooth.disableAttempted = none)
    (hotspot : values.hotspot.before = none ∧ values.hotspot.disableAttempted = none)
    (request : values.loggerRequestId = none) (resumed : values.loggerResumeVerified = none) :
    values.Aside where
  before radio := by cases radio <;> [exact bluetooth.1; exact hotspot.1]
  disableAttempted radio := by cases radio <;> [exact bluetooth.2; exact hotspot.2]
  loggerRequestId := request
  loggerResumeVerified := resumed

theorem Values.Aside.ofRadio (radio : Radio) {values : RadioValues} (before : values.before = none)
    (disableAttempted : values.disableAttempted = none) : (Values.ofRadio radio values).Aside := by
  cases radio <;> exact .of_columns (by simp [Values.ofRadio, *]) (by simp [Values.ofRadio, *]) rfl rfl

theorem renewing_write (values : Values) (now : Time) (row : IngestRadioTransition) :
    (values.renewing now).write row =
      ({ leaseExpiresAt := (values.renewing now).leaseExpiresAt } : Values).write
        (values.write row) := rfl

section Moves

variable {row : IngestRadioTransition} {ledger : Ledger Obligation} {stage next : Stage}
variable {values : Values}

def Advances (row : IngestRadioTransition) (ledger : Ledger Obligation) (values : Values)
    (next : Stage) : Prop :=
  Sound (values.write row) ledger ∧ next.Fits (values.write row) ledger

structure Values.Plain (values : Values) : Prop where
  aside : values.Aside
  active : values.active = none
  recoveryRequired : values.recoveryRequired = none
  restoreVerified : ∀ radio, (values.columns radio).restoreVerified = none

theorem Values.Plain.of_columns (bluetooth : values.bluetooth = {}) (hotspot : values.hotspot = {})
    (request : values.loggerRequestId = none) (resumed : values.loggerResumeVerified = none)
    (active : values.active = none) (required : values.recoveryRequired = none) : values.Plain where
  aside := .of_columns (by simp [bluetooth]) (by simp [hotspot]) request resumed
  active := active
  recoveryRequired := required
  restoreVerified radio := by cases radio <;> simp [Values.columns, bluetooth, hotspot]

theorem Values.Plain.ofRadio (radio : Radio) {named : RadioValues} (before : named.before = none)
    (disableAttempted : named.disableAttempted = none) (restored : named.restoreVerified = none) :
    (Values.ofRadio radio named).Plain where
  aside := .ofRadio radio before disableAttempted
  active := by simp
  recoveryRequired := by simp
  restoreVerified other := by
    by_cases same : other = radio <;> simp [ofRadio_columns, same, restored]

theorem Advances.plain (sound : Sound row ledger) (plain : values.Plain)
    (fits : next.Fits row ledger) : Advances row ledger values next := by
  refine ⟨sound.write plain.aside ?_ ?_, fits.write plain.aside⟩
  · intro radio named
    simp [plain.restoreVerified] at named
  · intro ended
    exact .inl (by simpa [closed, plain.active, plain.recoveryRequired] using ended)

theorem Advances.renewing (advances : Advances row ledger values next) (now : Time) :
    Advances row ledger (values.renewing now) next := by
  obtain ⟨sound, fits⟩ := advances
  rw [Advances, renewing_write]
  exact Advances.plain sound (.of_columns rfl rfl rfl rfl rfl rfl) fits

theorem advances_baseline (sound : Sound row ledger)
    (untouched : ∀ radio, (row.columns radio).disableAttempted = false) (snapshot : RadioSnapshot)
    (restoreRef : Option String) :
    Advances row ledger
      { bluetooth := { before := some snapshot.bluetooth }
        hotspot := { before := some snapshot.hotspot }
        hotspotInterface := some snapshot.hotspotInterface
        hotspotRestoreRef := some restoreRef }
      (if snapshot.recoverable restoreRef then .baselined snapshot else .concluded) := by
  refine ⟨⟨?_, ?_, sound.requested, ?_, sound.resumed, sound.closed⟩, ?_⟩
  · intro radio owes
    have attempted := sound.attempted radio owes
    rw [untouched radio] at attempted
    cases attempted
  · intro radio attempted
    cases radio <;> simp [Values.columns, untouched] at attempted
  · intro radio verified
    refine sound.restored radio ?_
    cases radio <;> simpa [Values.columns] using verified
  · cases recoverable : snapshot.recoverable restoreRef with
    | false => exact trivial
    | true =>
      intro radio
      cases radio <;> rfl

theorem advances_disableIntent (sound : Sound row ledger) {snapshot : RadioSnapshot} {radio : Radio}
    (before : ∀ radio, (row.columns radio).before = snapshot.of radio)
    (on : snapshot.of radio = .on) :
    Advances row ledger (.ofRadio radio { disableAttempted := some true })
      (.intended snapshot radio) := by
  have kept (other : Radio) :
      (((Values.ofRadio radio { disableAttempted := some true }).write row).columns other).before =
        (row.columns other).before := by
    by_cases same : other = radio <;> simp [ofRadio_columns, same]
  refine ⟨⟨?_, ?_, ?_, ?_, ?_, ?_⟩, ?_, ?_⟩
  · intro other owes
    by_cases same : other = radio
    · simp [ofRadio_columns, same]
    · simpa [ofRadio_columns, same] using sound.attempted other owes
  · intro other attempted
    by_cases same : other = radio
    · rw [kept, before, same, on]
    · rw [kept]
      exact sound.baseline other (by simpa [ofRadio_columns, same] using attempted)
  · simpa using sound.requested
  · intro other verified
    refine sound.restored other ?_
    by_cases same : other = radio <;> simpa [ofRadio_columns, same] using verified
  · simpa using sound.resumed
  · simpa [closed] using sound.closed
  · intro other
    rw [kept, before]
  · simp [ofRadio_columns]

theorem Restore.Paid.advance {r after : Restore} {radio : Radio} (paid : r.Paid ledger)
    (here : ∀ other, r.point.past other ↔ radio = .hotspot ∧ other = .bluetooth)
    (point : after.point = Restore.afterRadio radio)
    (ok : after.radioOk = true → r.radioOk = true ∧ ¬ ledger.Owes (.radio radio)) :
    after.Paid ledger where
  radios other past fine := by
    by_cases same : other = radio
    · exact same ▸ (ok fine).2
    · refine paid.radios other ((here other).mpr ?_) (ok fine).1
      rw [point] at past
      cases radio <;> cases other <;> simp [Restore.afterRadio, RestorePoint.past] at past same ⊢
  answered other := by cases radio <;> simp [point, Restore.afterRadio]
  logger := by cases radio <;> simp [point, Restore.afterRadio]

theorem Restore.Paid.move {r : Restore} {point : RestorePoint} (paid : r.Paid ledger)
    (past : ∀ radio, point.past radio → r.point.past radio)
    (answered : ∀ radio, point = .answered radio true → ¬ ledger.Owes (.radio radio))
    (logger : point = .resumed true ∨ point = .closing true → ¬ ledger.Owes .logger) :
    ({ r with point := point } : Restore).Paid ledger where
  radios radio later fine := paid.radios radio (past radio later) fine
  answered := answered
  logger := logger

theorem advances_restoreRecorded (sound : Sound row ledger) {r : Restore} {radio : Radio}
    {ok : Bool} (fits : (Stage.restoring r).Fits row ledger) (point : r.point = .answered radio ok) :
    Advances row ledger (.ofRadio radio { restoreVerified := some ok })
      (.restoring (r.recordRadio radio ok)) := by
  obtain ⟨same, request, paid⟩ := fits
  have aside : (Values.ofRadio radio { restoreVerified := some ok }).Aside :=
    .ofRadio radio rfl rfl
  have answered (fine : ok = true) : ¬ ledger.Owes (.radio radio) :=
    paid.answered radio (by rw [point, fine])
  refine ⟨sound.write aside ?_ ?_, Stage.Fits.write ⟨same, request, ?_⟩ aside⟩
  · intro other named
    by_cases hit : other = radio
    · exact hit ▸ answered (by simpa [ofRadio_columns, hit] using named)
    · simp [ofRadio_columns, hit] at named
  · intro ended
    exact .inl (by simpa [closed] using ended)
  · refine paid.advance (fun other => by rw [point]; rfl) rfl ?_
    intro fine
    obtain ⟨before, verified⟩ := Bool.and_eq_true_iff.mp fine
    exact ⟨before, answered verified⟩

theorem advances_resumeRecorded (sound : Sound row ledger) {r : Restore} {ok : Bool}
    (fits : (Stage.restoring r).Fits row ledger) (point : r.point = .resumed ok) :
    Advances row ledger { loggerResumeVerified := some ok } (.restoring (r.recordResume ok)) := by
  obtain ⟨same, request, paid⟩ := fits
  have answered (fine : ok = true) : ¬ ledger.Owes .logger :=
    paid.logger (.inl (by rw [point, fine]))
  refine ⟨⟨?_, ?_, sound.requested, ?_, answered, sound.closed⟩, ?_, request, ?_, ?_, ?_⟩
  · intro radio owes
    cases radio <;> simpa [Values.columns] using sound.attempted _ owes
  · intro radio
    cases radio <;> simpa [Values.columns] using sound.baseline _
  · intro radio
    cases radio <;> simpa [Values.columns] using sound.restored _
  · intro radio
    cases radio <;> simpa [Values.columns, Restore.recordResume] using same _
  · intro radio _ fine
    exact paid.radios radio (by rw [point]; trivial) fine
  · simp [Restore.recordResume]
  · rintro (resumed | closing)
    · simp [Restore.recordResume] at resumed
    · exact answered (by simpa [Restore.recordResume] using closing)

theorem Move.advances {m : Move} (sound : Sound row ledger) (fits : stage.Fits row ledger)
    (moved : m.next row stage = some (values, next)) : Advances row ledger values next := by
  cases m with
  | heartbeat =>
    simp only [Move.next, Option.some.injEq, Prod.mk.injEq] at moved
    obtain ⟨rfl, rfl⟩ := moved
    exact ⟨sound, fits⟩
  | loggerAcked =>
    cases stage <;> simp [Move.next] at moved
    obtain ⟨rfl, rfl⟩ := moved
    exact ⟨sound, fits⟩
  | loggerFailed error =>
    cases stage <;> simp [Move.next] at moved
    obtain ⟨rfl, rfl⟩ := moved
    exact .plain sound (.of_columns rfl rfl rfl rfl rfl rfl) trivial
  | markObdTransferComplete =>
    cases stage <;> simp [Move.next] at moved
    obtain ⟨rfl, rfl⟩ := moved
    exact .plain sound (.of_columns rfl rfl rfl rfl rfl rfl) fits
  | capture =>
    cases stage <;> simp [Move.next] at moved
    obtain ⟨_, rfl, rfl⟩ := moved
    exact .plain sound (.of_columns rfl rfl rfl rfl rfl rfl) fits.1
  | baseline snapshot restoreRef =>
    cases stage <;> simp only [Move.next, Option.some.injEq, Prod.mk.injEq, reduceCtorEq] at moved
    obtain ⟨rfl, rfl⟩ := moved
    exact advances_baseline sound fits snapshot restoreRef
  | startDisabling =>
    cases stage <;> simp [Move.next] at moved
    obtain ⟨rfl, rfl⟩ := moved
    exact .plain sound (.of_columns rfl rfl rfl rfl rfl rfl) fits
  | disableIntent =>
    cases stage <;> simp only [Move.next, reduceCtorEq] at moved
    rename_i snapshot radio
    by_cases on : snapshot.of radio = .on
    · simp only [on, if_true, Option.some.injEq, Prod.mk.injEq] at moved
      obtain ⟨rfl, rfl⟩ := moved
      exact advances_disableIntent sound fits on
    · simp only [on, if_false, Option.some.injEq, Prod.mk.injEq] at moved
      obtain ⟨rfl, rfl⟩ := moved
      refine .plain sound (.ofRadio radio rfl rfl rfl) ?_
      cases radio <;> [exact fits; exact trivial]
  | disableVerified =>
    cases stage <;> simp only [Move.next, reduceCtorEq, Option.some.injEq, Prod.mk.injEq] at moved
    rename_i snapshot radio
    obtain ⟨rfl, rfl⟩ := moved
    refine .plain sound (.ofRadio radio rfl rfl rfl) ?_
    cases radio <;> [exact fits.1; exact trivial]
  | quietProved =>
    cases stage <;> simp [Move.next] at moved
    obtain ⟨rfl, rfl⟩ := moved
    exact .plain sound (.of_columns rfl rfl rfl rfl rfl rfl) trivial
  | trackCapsule path =>
    cases stage <;> simp only [Move.next, reduceCtorEq, Option.ite_none_right_eq_some,
      Option.some.injEq, Prod.mk.injEq] at moved
    · obtain ⟨_, rfl, rfl⟩ := moved
      exact .plain sound (.of_columns rfl rfl rfl rfl rfl rfl) trivial
    · obtain ⟨_, rfl, rfl⟩ := moved
      obtain ⟨same, request, paid⟩ := fits
      refine .plain sound (.of_columns rfl rfl rfl rfl rfl rfl) ⟨?_, request, paid.1, paid.2, paid.3⟩
      intro radio
      cases radio with
      | bluetooth => exact same .bluetooth
      | hotspot => exact same .hotspot
  | startRestoring =>
    cases stage <;> simp only [Move.next, reduceCtorEq, Option.ite_none_right_eq_some,
      Option.some.injEq, Prod.mk.injEq] at moved
    obtain ⟨_, rfl, rfl⟩ := moved
    obtain ⟨same, request, paid⟩ := fits
    refine .plain sound (.of_columns rfl rfl rfl rfl rfl rfl) ⟨same, request, paid.move ?_ ?_ ?_⟩
    · simp [RestorePoint.past]
    · simp
    · simp
  | restoreIntent =>
    cases stage <;> simp only [Move.next, reduceCtorEq] at moved
    rename_i r
    cases point : r.point <;> simp only [point, reduceCtorEq, Option.ite_none_right_eq_some,
      Option.some.injEq, Prod.mk.injEq] at moved
    rename_i radio
    obtain ⟨_, rfl, rfl⟩ := moved
    obtain ⟨same, request, paid⟩ := fits
    refine .plain sound (.ofRadio radio rfl rfl rfl) ⟨same, request, paid.move ?_ ?_ ?_⟩
    · intro other past
      rw [point]
      exact past
    · simp
    · simp
  | restoreRecorded =>
    cases stage <;> simp only [Move.next, reduceCtorEq] at moved
    rename_i r
    cases point : r.point <;> simp only [point, reduceCtorEq, Option.some.injEq, Prod.mk.injEq]
      at moved
    obtain ⟨rfl, rfl⟩ := moved
    exact advances_restoreRecorded sound fits point
  | resumeIntent =>
    cases stage <;> simp only [Move.next, reduceCtorEq, Option.ite_none_right_eq_some,
      Option.some.injEq, Prod.mk.injEq] at moved
    obtain ⟨⟨point, _, _⟩, rfl, rfl⟩ := moved
    obtain ⟨same, request, paid⟩ := fits
    refine .plain sound (.of_columns rfl rfl rfl rfl rfl rfl) ⟨same, request, paid.move ?_ ?_ ?_⟩
    · intro radio _
      rw [point]
      trivial
    · simp
    · simp
  | resumeRecorded =>
    cases stage <;> simp only [Move.next, reduceCtorEq] at moved
    rename_i r
    cases point : r.point <;> simp only [point, reduceCtorEq, Option.some.injEq, Prod.mk.injEq]
      at moved
    obtain ⟨rfl, rfl⟩ := moved
    exact advances_resumeRecorded sound fits point

open Coordinator

theorem settledBy_lighter (statusPath : Option String) (r : Restore) (a : Answer) (stamp : Nat)
    (ledger : Ledger Obligation) : Lighter (settledBy statusPath r a stamp ledger) ledger := by
  cases settles : settles statusPath r a with
  | none => simpa [settledBy, settles] using Lighter.refl ledger
  | some debt => simpa [settledBy, settles] using Lighter.settle ledger debt stamp

theorem readback_settles {statusPath : Option String} {r : Restore} {radio : Radio} {ok : Bool}
    {stamp : Nat} (sound : Sound row ledger) (fits : (Stage.restoring r).Fits row ledger)
    (stamped : ∀ debt, ledger.incurred debt ≤ stamp) (point : r.point = .attempted radio)
    (verified : readbackVerified radio (r.row.columns radio).before ok = true) :
    ¬ (settledBy statusPath r (.readback ok) stamp ledger).Owes (.radio radio) := by
  by_cases read : readBack radio (r.row.columns radio).before ok
  · simpa [settledBy, settles, point, read] using Ledger.not_owes_settle (stamped _)
  · -- The controller never touches the transport's hotspot; its disable was never attempted.
    have transport : (r.row.columns radio).before = .transport := by
      simp only [readBack, verified, Bool.true_and, Bool.not_eq_true', Bool.not_eq_false,
        Bool.and_eq_true, decide_eq_true_eq] at read
      exact read.2
    intro owes
    have on := sound.baseline radio (sound.attempted radio
      ((settledBy_lighter statusPath r (.readback ok) stamp ledger).owes _ owes))
    rw [← (fits.1 radio).1, transport] at on
    cases on

theorem Restore.Paid.answer {statusPath : Option String} {r after : Restore} {a : Answer}
    {stamp : Nat} (sound : Sound row ledger) (fits : (Stage.restoring r).Fits row ledger)
    (stamped : ∀ debt, ledger.incurred debt ≤ stamp)
    (answered : r.answer statusPath a = some after) :
    after.row = r.row ∧ after.Paid (settledBy statusPath r a stamp ledger) := by
  obtain ⟨same, request, paid⟩ := fits
  have paidLater := paid.lighter (settledBy_lighter statusPath r a stamp ledger)
  have soundLater := sound.lighter (settledBy_lighter statusPath r a stamp ledger)
  cases a with
  | readback ok =>
    cases point : r.point <;> simp only [Restore.answer, point, reduceCtorEq, Option.some.injEq]
      at answered
    rename_i radio
    obtain rfl := answered
    refine ⟨rfl, ?_⟩
    by_cases verified : readbackVerified radio (r.row.columns radio).before ok
    · rw [if_pos verified]
      refine paidLater.move (fun other past => by rw [point]; exact past) ?_ (by simp)
      intro other named
      obtain rfl : radio = other := by simpa using named
      exact readback_settles sound ⟨same, request, paid⟩ stamped point verified
    · rw [if_neg verified]
      exact paidLater.move (fun other past => by rw [point]; exact past) (by simp) (by simp)
  | standDown ok =>
    simp only [Restore.answer, Option.ite_none_right_eq_some, Option.some.injEq] at answered
    obtain ⟨⟨point, fine, _⟩, rfl⟩ := answered
    refine ⟨rfl, ?_, by simp, by simp⟩
    intro radio _ _
    exact paidLater.radios radio (by rw [point]; trivial) fine
  | resume ok =>
    simp only [Restore.answer, Option.ite_none_right_eq_some, Option.some.injEq] at answered
    obtain ⟨point, rfl⟩ := answered
    refine ⟨rfl, paidLater.move (fun radio _ => by rw [point]; trivial) (by simp) ?_⟩
    intro resumed
    have fine : (truthy statusPath && ok) = true := by simpa using resumed
    simpa [settledBy, settles, fine] using Ledger.not_owes_settle (stamped _)
  | pass =>
    cases point : r.point <;> simp only [Restore.answer, point, reduceCtorEq,
      Option.ite_none_left_eq_some, Option.some.injEq] at answered
    · rename_i radio
      obtain ⟨unneeded, rfl⟩ := answered
      refine ⟨rfl, paidLater.advance (fun other => by rw [point]; rfl) rfl fun fine => ⟨fine, ?_⟩⟩
      intro owes
      have attempted := soundLater.attempted radio owes
      rw [← (same radio).2] at attempted
      cases radio <;> simp [Restore.needs, IngestRadioTransition.columns] at unneeded attempted
      · simp [attempted] at unneeded
      · simp [attempted] at unneeded
    · obtain ⟨_, rfl⟩ := answered
      exact ⟨rfl, paidLater.move (fun radio _ => by rw [point]; trivial) (by simp) (by simp)⟩
    · by_cases unrequested : r.row.loggerRequestId = none
      · rw [if_pos unrequested, Option.some.injEq] at answered
        obtain rfl := answered
        refine ⟨rfl, paidLater.move (fun radio _ => by rw [point]; trivial) (by simp) ?_⟩
        intro _ owes
        have requested := soundLater.requested owes
        rw [← request, unrequested] at requested
        cases requested
      · simp only [unrequested, if_false, Option.ite_none_left_eq_some, Option.some.injEq]
          at answered
        obtain ⟨_, rfl⟩ := answered
        exact ⟨rfl, (fun radio _ => paidLater.radios radio (by rw [point]; trivial)), by simp,
          by simp⟩

end Moves

end DashcamStats.Ingest
