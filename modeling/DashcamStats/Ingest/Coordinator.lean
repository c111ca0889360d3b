import DashcamStats.Ingest.Transition
import DashcamStats.Library.Ledger
import DashcamStats.Library.Run

namespace DashcamStats.Ingest

/-- What `RadioController.capture` read, as far as it is kept. -/
structure RadioSnapshot where
  bluetooth : Baseline
  hotspot : Baseline
  hotspotInterface : Option String
  deriving DecidableEq

def RadioSnapshot.of (snapshot : RadioSnapshot) : Radio → Baseline
  | .bluetooth => snapshot.bluetooth
  | .hotspot => snapshot.hotspot

def RadioSnapshot.recoverable (snapshot : RadioSnapshot) (restoreRef : Option String) : Bool :=
  snapshot.bluetooth ≠ .unknown && snapshot.hotspot ≠ .unknown &&
    (snapshot.hotspot ≠ .on || restoreRef.isSome)

/-- How far `_restore` has come. A radio is `due`, its restoration `attempted`, then `answered` by
the readback or, where that left it `unconfirmed`, by what the unit has reported. -/
inductive RestorePoint where
  | entered
  | due (radio : Radio)
  | attempted (radio : Radio)
  | unconfirmed (radio : Radio)
  | answered (radio : Radio) (ok : Bool)
  | standingDown
  | logger
  | resuming
  | resumed (ok : Bool)
  | closing (resumeOk : Bool)
  deriving DecidableEq

/-- The locals of `_restore`; `row` is read once, at its start. -/
structure Restore where
  row : IngestRadioTransition
  point : RestorePoint
  radioOk : Bool
  error : Option String
  errors : List String
  deriving DecidableEq

/-- Where the owner stands between two awaits. `intended` has committed that the radio's disable is
attempted and issues the command; `concluded` has no call left but `restore`. -/
inductive Stage where
  | ready
  | pausing
  | capturing
  | baselined (snapshot : RadioSnapshot)
  | due (snapshot : RadioSnapshot) (radio : Radio)
  | intended (snapshot : RadioSnapshot) (radio : Radio)
  | proving
  | concluded
  | adopted (row : IngestRadioTransition)
  | restoring (restore : Restore)
  deriving DecidableEq

structure RadioTransition where
  id : Nat
  leaseOwner : Nat
  loggerStatusPath : Option String
  stage : Stage
  deriving DecidableEq

inductive Move where
  | heartbeat
  | loggerAcked
  | loggerFailed (error : String)
  | markObdTransferComplete
  | capture
  | baseline (snapshot : RadioSnapshot) (restoreRef : Option String)
  | startDisabling
  | disableIntent
  | disableVerified
  | quietProved
  | trackCapsule (path : String)
  | startRestoring
  | restoreIntent
  | restoreRecorded
  | resumeIntent
  | resumeRecorded
  deriving DecidableEq

def afterQuieting (snapshot : RadioSnapshot) : Radio → Stage
  | .bluetooth => .due snapshot .hotspot
  | .hotspot => .proving

namespace Restore

def needs (r : Restore) : Radio → Bool
  | .bluetooth => r.row.bluetooth.disableAttempted
  | .hotspot => r.row.bluetooth.disableAttempted || r.row.hotspot.disableAttempted

def afterRadio : Radio → RestorePoint
  | .bluetooth => .due .hotspot
  | .hotspot => .standingDown

def unverified : Radio → String
  | .bluetooth => "Bluetooth baseline restoration could not be verified"
  | .hotspot => "hotspot baseline restoration could not be verified"

def recordRadio (r : Restore) (radio : Radio) (ok : Bool) : Restore :=
  { r with
    point := afterRadio radio
    radioOk := r.radioOk && ok
    errors := if ok then r.errors else r.errors ++ [unverified radio] }

def recordResume (r : Restore) (ok : Bool) : Restore :=
  { r with
    point := .closing ok
    errors := if ok then r.errors else r.errors ++ ["OBD logger resume could not be verified"] }

end Restore

def Move.next (row : IngestRadioTransition) : Move → Stage → Option (Values × Stage)
  | .heartbeat, stage => some ({}, stage)
  | .loggerAcked, .pausing => some ({}, .ready)
  | .loggerFailed error, .pausing => some ({ lastError := some (some error) }, .concluded)
  | .markObdTransferComplete, .ready =>
    some ({ phase := some .transferringObd, obdTransferComplete := some true }, .ready)
  -- Only this owner writes the flag, so reading the row and the checkpoint are one step.
  | .capture, .ready =>
    if row.obdTransferComplete then
      some ({ phase := some .capturingRadioState }, .capturing)
    else none
  | .baseline snapshot restoreRef, .capturing =>
    some ({ bluetooth := { before := some snapshot.bluetooth }
            hotspot := { before := some snapshot.hotspot }
            hotspotInterface := some snapshot.hotspotInterface
            hotspotRestoreRef := some restoreRef },
      if snapshot.recoverable restoreRef then .baselined snapshot else .concluded)
  | .startDisabling, .baselined snapshot =>
    some ({ phase := some .disablingRadios }, .due snapshot .bluetooth)
  | .disableIntent, .due snapshot radio =>
    if snapshot.of radio = .on then
      some (.ofRadio radio { disableAttempted := some true }, .intended snapshot radio)
    else
      some (.ofRadio radio { disableVerified := some true }, afterQuieting snapshot radio)
  | .disableVerified, .intended snapshot radio =>
    some (.ofRadio radio { disableVerified := some true }, afterQuieting snapshot radio)
  | .quietProved, .proving => some ({ phase := some .ingesting }, .concluded)
  -- A capsule that was written before its path could be committed.
  | .trackCapsule path, .adopted old =>
    if old.hotspotRestoreRef = none ∧ old.hotspot.before = .unknown ∧
        old.bluetooth.disableAttempted = false ∧ old.hotspot.disableAttempted = false then
      some ({ hotspotRestoreRef := some (some path) }, .adopted old)
    else none
  | .trackCapsule path, .restoring r =>
    if r.point = .closing true ∧ r.radioOk = true ∧ r.row.hotspotRestoreRef = none then
      some ({ hotspotRestoreRef := some (some path) },
        .restoring { r with row := { r.row with hotspotRestoreRef := some path } })
    else none
  | .startRestoring, .restoring r =>
    if r.point = .entered then
      some ({ phase := some .restoringRadios }, .restoring { r with point := .due .bluetooth })
    else none
  | .restoreIntent, .restoring r =>
    match r.point with
    | .due radio =>
      if r.needs radio then
        some (.ofRadio radio { restoreAttempted := some true },
          .restoring { r with point := .attempted radio })
      else none
    | _ => none
  | .restoreRecorded, .restoring r =>
    match r.point with
    | .answered radio ok =>
      some (.ofRadio radio { restoreVerified := some ok }, .restoring (r.recordRadio radio ok))
    | _ => none
  | .resumeIntent, .restoring r =>
    if r.point = .logger ∧ r.row.loggerRequestId.isSome ∧ r.radioOk = true then
      some ({ phase := some .resumingObd, loggerResumeAttempted := some true },
        .restoring { r with point := .resuming })
    else none
  | .resumeRecorded, .restoring r =>
    match r.point with
    | .resumed ok => some ({ loggerResumeVerified := some ok }, .restoring (r.recordResume ok))
    | _ => none
  | _, _ => none

def allowExpired : Move → Stage → Bool
  | .heartbeat, _ => false
  | _, .restoring _ => true
  | _, _ => false

inductive Answer where
  | readback (ok : Bool)
  | standDown (ok : Bool)
  | resume (ok : Bool)
  | pass
  deriving DecidableEq

-- `restore_bluetooth` and `restore_hotspot`, of what the device answers to the readback.
def readbackVerified (radio : Radio) (before : Baseline) (ok : Bool) : Bool :=
  match radio, before with
  | .hotspot, .transport => true
  | _, .unknown => false
  | _, _ => ok

def readBack (radio : Radio) (before : Baseline) (ok : Bool) : Bool :=
  readbackVerified radio before ok && !(radio = .hotspot && before = .transport)

def Restore.answer (statusPath : Option String) : Answer → Restore → Option Restore
  | .readback ok, r =>
    match r.point with
    | .attempted radio =>
      some { r with
        point := if readbackVerified radio (r.row.columns radio).before ok
          then .answered radio true else .unconfirmed radio }
    | _ => none
  | .standDown ok, r =>
    if r.point = .standingDown ∧ r.radioOk = true ∧ r.needs .hotspot = true then
      some { r with
        point := .logger
        radioOk := ok
        errors := if ok then r.errors else r.errors ++ ["radio watchdog could not be safely disarmed"] }
    else none
  | .resume ok, r =>
    if r.point = .resuming then
      some { r with point := .resumed (truthy statusPath && ok) }
    else none
  -- What the code passes without an await.
  | .pass, r =>
    match r.point with
    | .due radio => if r.needs radio then none else some { r with point := afterRadio radio }
    | .standingDown =>
      if r.radioOk = true ∧ r.needs .hotspot = true then none else some { r with point := .logger }
    | .logger =>
      if r.row.loggerRequestId = none then some { r with point := .closing true }
      else if r.radioOk then none
      else some { r with
        point := .closing false
        errors := r.errors ++ ["OBD logger remains quiesced until radios are restored"] }
    | _ => none

inductive Obligation where
  | radio (radio : Radio)
  | logger
  deriving DecidableEq

structure ReadReport where
  id : Nat
  values : Values
  readAt : Nat

namespace ReadReport

def claims (report : ReadReport) (radio : Radio) : Bool :=
  (report.values.columns radio).restoreVerified = some true

def closes (report : ReadReport) : Bool := report.values.active = some false

end ReadReport

/-- `owner` is the object that holds the process fence. The ledgers and their logical clock are no
part of the program: they say which commands were issued, and what has been verified since. -/
structure Coordinator where
  rows : Transitions
  owner : Option RadioTransition
  reports : List ReadReport
  now : Time
  ledgers : Nat → Ledger Obligation
  stamp : Nat

def Coordinator.initial (now : Time) : Coordinator where
  rows := Table.empty
  owner := none
  reports := []
  now := now
  ledgers := fun _ => Ledger.clear
  stamp := 0

structure BeginInput where
  transitionId : Nat
  leaseOwner : Nat
  address : String
  deviceBootId : String
  loggerStatusPath : Option String
  unitReportToken : Option Nat
  deriving DecidableEq

def BeginInput.row (input : BeginInput) (id : Nat) (now : Time) : IngestRadioTransition where
  id := id
  transitionId := input.transitionId
  phase := .preparing
  active := true
  createdAt := now
  completedAt := none
  leaseOwner := input.leaseOwner
  leaseExpiresAt := now + leaseTtl
  deviceAddress := truncate input.address 255
  deviceBootId := some input.deviceBootId
  loggerStatusPath := input.loggerStatusPath
  loggerRequestId := none
  loggerResumeAttempted := false
  loggerResumeVerified := false
  bluetooth := .initial
  hotspot := .initial
  hotspotInterface := none
  hotspotRestoreRef := none
  obdTransferComplete := false
  unitReportToken := input.unitReportToken
  unitReportedAt := none
  unitSleepReportedAt := none
  restoreEvidenceSource := none
  recoveryRequired := false
  lastError := none

inductive Event where
  | tick (seconds : Nat)
  | begin (input : BeginInput)
  | prepareLogger (request : Nat)
  | checkpoint (move : Move)
  | issueDisable
  | raise
  | restore (error : Option String)
  | answer (answer : Answer)
  | consultUnit
  | finish
  | giveUp
  | persistRestoreFailure (error : String)
  | requireRecovery (error : String)
  | crash
  | adopt (row : IngestRadioTransition) (owner : Nat) (address : String) (bootId : Option String)
      (statusPath : String)
  | expire (id owner : Nat) (error : String)
  | cleanCapsule (id : Nat) (path : String)
  | readReport (report : UnitRadioReport)
  | writeReport (index : Nat)

namespace Coordinator

variable (s : Coordinator)

def record (id : Nat) (change : Ledger Obligation → Ledger Obligation) : Coordinator :=
  { s with ledgers := Function.update s.ledgers id (change (s.ledgers id)) }

def incur (id : Nat) (debt : Obligation) : Coordinator :=
  { s.record id fun ledger => ledger.incur debt (s.stamp + 1) with stamp := s.stamp + 1 }

def begin (input : BeginInput) : Option Coordinator :=
  if s.owner = none ∧ (∀ row ∈ s.rows.rows, row.active = false) ∧
      ∀ row ∈ s.rows.rows, row.transitionId ≠ input.transitionId then
    some { s with
      rows := s.rows.insert (input.row s.rows.nextKey s.now) fun _ member =>
        (Table.key_lt_nextKey member).ne
      owner := some ⟨s.rows.nextKey, input.leaseOwner, input.loggerStatusPath, .ready⟩ }
  else none

-- `_checkpoint_once`, with the lease it renews.
def checkpoint (move : Move) : Option Coordinator :=
  s.owner.bind fun o => (s.rows.find? o.id).bind fun row => (move.next row o.stage).bind fun next =>
    if row.heldBy o.leaseOwner = true ∧
        (allowExpired move o.stage = true ∨ s.now < row.leaseExpiresAt) then
      some { s with
        rows := write s.rows o.id (next.1.renewing s.now)
        owner := some { o with stage := next.2 } }
    else none

def prepareLogger (request : Nat) : Option Coordinator :=
  s.owner.bind fun o => (s.rows.find? o.id).bind fun row =>
    if o.stage = .ready ∧ truthy o.loggerStatusPath = true ∧ row.heldBy o.leaseOwner = true ∧
        s.now < row.leaseExpiresAt then
      some ({ s with
        rows := write s.rows o.id (Values.renewing s.now
          { phase := some .finalisingObd, loggerRequestId := some (some request) })
        owner := some { o with stage := .pausing } }.incur o.id .logger)
    else none

def issuing : Stage → Option Radio
  | .intended _ radio => some radio
  | _ => none

def issueDisable : Option Coordinator :=
  s.owner.bind fun o => (issuing o.stage).map fun radio => s.incur o.id (.radio radio)

-- The calls before `restore` end with an exception.
def raise : Option Coordinator :=
  s.owner.bind fun o =>
    match o.stage with
    | .adopted _ | .restoring _ => none
    | _ => some { s with owner := some { o with stage := .concluded } }

-- The row is read once; where it is not held any more, `restore` ends at once.
def enterRestore (o : RadioTransition) (error : Option String) : Coordinator :=
  match (s.rows.find? o.id).filter fun row => row.heldBy o.leaseOwner with
  | some row => { s with
      owner := some { o with stage := .restoring ⟨row, .entered, true, error, error.toList⟩ } }
  | none => { s with owner := none }

def restore (error : Option String) : Option Coordinator :=
  s.owner.bind fun o =>
    match o.stage with
    | .restoring _ => none
    | _ => some (s.enterRestore o error)

def settles (statusPath : Option String) (r : Restore) : Answer → Option Obligation
  | .readback ok =>
    match r.point with
    | .attempted radio =>
      if readBack radio (r.row.columns radio).before ok then some (.radio radio) else none
    | _ => none
  | .resume ok => if truthy statusPath && ok then some .logger else none
  | _ => none

def settledBy (statusPath : Option String) (r : Restore) (a : Answer) (stamp : Nat)
    (ledger : Ledger Obligation) : Ledger Obligation :=
  ((settles statusPath r a).map fun debt => ledger.settle debt stamp).getD ledger

def answer (a : Answer) : Option Coordinator :=
  s.owner.bind fun o =>
    match o.stage with
    | .restoring r => (r.answer o.loggerStatusPath a).map fun next =>
        { s.record o.id (settledBy o.loggerStatusPath r a s.stamp) with
          owner := some { o with stage := .restoring next } }
    | _ => none

def consultUnit : Option Coordinator :=
  s.owner.bind fun o =>
    match o.stage with
    | .restoring r =>
      match r.point with
      | .unconfirmed radio =>
        let ok := (s.rows.find? o.id).any fun row => unitAlreadyVerified row radio
        some { s with
          owner := some { o with stage := .restoring { r with point := .answered radio ok } } }
      | _ => none
    | _ => none

-- `restore` after `_restore` returned: the owner lets the fence go.
def finish : Option Coordinator :=
  s.owner.bind fun o =>
    match o.stage with
    | .restoring r =>
      if r.point = .closing true ∧ r.radioOk = true then
        some { s with
          rows := (writeIf s.rows o.id (·.heldBy o.leaseOwner)
            (finishValues s.now r.error r.errors)).getD s.rows
          owner := none }
      else none
    | _ => none

def handOver (o : RadioTransition) (error : String) : Coordinator :=
  { s with
    rows := (writeIf s.rows o.id (·.heldBy o.leaseOwner) (recoveryValues s.now error)).getD s.rows
    owner := none }

def giveUp : Option Coordinator :=
  s.owner.bind fun o =>
    match o.stage with
    | .restoring r =>
      match r.point with
      | .closing resumeOk =>
        if r.radioOk && resumeOk then none else some (s.handOver o (joinErrors r.errors))
      | _ => none
    | _ => none

-- Anything in `restore` raised.
def persistRestoreFailure (error : String) : Option Coordinator :=
  s.owner.map fun o => s.handOver o error

def requireRecovery (error : String) : Option Coordinator :=
  s.owner.map fun o => s.handOver o error

-- `_adopt_expired`, for a row that was read before.
def adoptExpired (row : IngestRadioTransition) (owner : Nat) (address : String)
    (bootId : Option String) (statusPath : String) : Option Coordinator :=
  if s.owner = none then
    (writeIf s.rows row.id (adoptable s.now) (adoptionValues row s.now owner address bootId)).map
      fun rows => { s with
        rows := rows
        owner := some ⟨row.id, owner,
          if truthy row.loggerStatusPath then row.loggerStatusPath else some statusPath,
          .adopted row⟩ }
  else none

def expire (id owner : Nat) (error : String) : Option Coordinator :=
  (writeIf s.rows id (·.heldBy owner) (recoveryValues s.now error)).map fun rows =>
    { s with rows := rows }

def cleanCapsule (id : Nat) (path : String) : Option Coordinator :=
  (writeIf s.rows id (fun row => !row.active && row.hotspotRestoreRef = some path)
    { hotspotRestoreRef := some none }).map fun rows => { s with rows := rows }

-- The read of `apply_unit_report`: it is outside the transaction of the write.
def readReport (report : UnitRadioReport) : Coordinator :=
  match s.rows.rows.find? fun row => row.transitionId = report.transitionId with
  | some row =>
    if report.accepted row then
      { s with reports := s.reports ++ [⟨row.id, report.values row s.now, s.stamp⟩] }
    else s
  | none => s

def settleReport (report : ReadReport) (ledger : Ledger Obligation) : Ledger Obligation :=
  [Radio.bluetooth, .hotspot].foldl (fun ledger radio =>
    if report.claims radio then ledger.settle (.radio radio) report.readAt else ledger) ledger

def writeReport (index : Nat) : Option Coordinator :=
  s.reports[index]?.map fun report =>
    { s.record report.id (settleReport report) with
      rows := write s.rows report.id report.values
      reports := s.reports.eraseIdx index }

def step : Event → Option Coordinator
  | .tick seconds => some { s with now := s.now + seconds }
  | .begin input => s.begin input
  | .prepareLogger request => s.prepareLogger request
  | .checkpoint move => s.checkpoint move
  | .issueDisable => s.issueDisable
  | .raise => s.raise
  | .restore error => s.restore error
  | .answer a => s.answer a
  | .consultUnit => s.consultUnit
  | .finish => s.finish
  | .giveUp => s.giveUp
  | .persistRestoreFailure error => s.persistRestoreFailure error
  | .requireRecovery error => s.requireRecovery error
  | .crash => s.owner.map fun _ => { s with owner := none }
  | .adopt row owner address bootId statusPath => s.adoptExpired row owner address bootId statusPath
  | .expire id owner error => s.expire id owner error
  | .cleanCapsule id path => s.cleanCapsule id path
  | .readReport report => some (s.readReport report)
  | .writeReport index => s.writeReport index

def Stepped (s : Coordinator) (e : Event) (t : Coordinator) : Prop := s.step e = some t

end Coordinator

end DashcamStats.Ingest
