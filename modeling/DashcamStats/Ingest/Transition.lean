import Mathlib.Algebra.Order.Ring.Int
import Mathlib.Data.List.Sort
import DashcamStats.Library.Table

namespace DashcamStats.Ingest

abbrev Time := Int

-- `LEASE_TTL_S`
def leaseTtl : Time := 45

inductive TransitionPhase where
  | preparing
  | finalisingObd
  | transferringObd
  | capturingRadioState
  | disablingRadios
  | ingesting
  | restoringRadios
  | resumingObd
  | complete
  | failed
  | recoveryRequired
  deriving DecidableEq

inductive Radio where
  | bluetooth
  | hotspot
  deriving DecidableEq

/-- A value of `bluetooth_before` or `hotspot_before`. -/
inductive Baseline where
  | on
  | off
  | transport
  | unknown
  deriving DecidableEq

/-- A value of `restore_evidence_source`; its comment also names `server`, which nothing writes. -/
inductive EvidenceSource where
  | unit
  deriving DecidableEq

structure RadioColumns where
  before : Baseline
  disableAttempted : Bool
  disableVerified : Bool
  restoreAttempted : Bool
  restoreVerified : Bool
  deriving DecidableEq

def RadioColumns.initial : RadioColumns := ⟨.unknown, false, false, false, false⟩

structure IngestRadioTransition where
  id : Nat
  transitionId : Nat
  phase : TransitionPhase
  active : Bool
  createdAt : Time
  completedAt : Option Time
  leaseOwner : Nat
  leaseExpiresAt : Time
  deviceAddress : String
  deviceBootId : Option String
  loggerStatusPath : Option String
  loggerRequestId : Option Nat
  loggerResumeAttempted : Bool
  loggerResumeVerified : Bool
  bluetooth : RadioColumns
  hotspot : RadioColumns
  hotspotInterface : Option String
  hotspotRestoreRef : Option String
  obdTransferComplete : Bool
  unitReportToken : Option Nat
  unitReportedAt : Option Time
  unitSleepReportedAt : Option Time
  restoreEvidenceSource : Option EvidenceSource
  recoveryRequired : Bool
  lastError : Option String
  deriving DecidableEq

namespace IngestRadioTransition

def columns (row : IngestRadioTransition) : Radio → RadioColumns
  | .bluetooth => row.bluetooth
  | .hotspot => row.hotspot

def closed (row : IngestRadioTransition) : Bool := !row.active && !row.recoveryRequired

-- `active` and owned by `owner`
def heldBy (owner : Nat) (row : IngestRadioTransition) : Bool :=
  row.active && row.leaseOwner = owner

end IngestRadioTransition

abbrev Transitions := Table IngestRadioTransition IngestRadioTransition.id

structure RadioValues where
  before : Option Baseline := none
  disableAttempted : Option Bool := none
  disableVerified : Option Bool := none
  restoreAttempted : Option Bool := none
  restoreVerified : Option Bool := none

@[simps] def RadioValues.write (values : RadioValues) (columns : RadioColumns) : RadioColumns where
  before := values.before.getD columns.before
  disableAttempted := values.disableAttempted.getD columns.disableAttempted
  disableVerified := values.disableVerified.getD columns.disableVerified
  restoreAttempted := values.restoreAttempted.getD columns.restoreAttempted
  restoreVerified := values.restoreVerified.getD columns.restoreVerified

structure Values where
  phase : Option TransitionPhase := none
  active : Option Bool := none
  completedAt : Option (Option Time) := none
  leaseOwner : Option Nat := none
  leaseExpiresAt : Option Time := none
  deviceAddress : Option String := none
  deviceBootId : Option (Option String) := none
  loggerRequestId : Option (Option Nat) := none
  loggerResumeAttempted : Option Bool := none
  loggerResumeVerified : Option Bool := none
  bluetooth : RadioValues := {}
  hotspot : RadioValues := {}
  hotspotInterface : Option (Option String) := none
  hotspotRestoreRef : Option (Option String) := none
  obdTransferComplete : Option Bool := none
  unitReportToken : Option (Option Nat) := none
  unitReportedAt : Option (Option Time) := none
  unitSleepReportedAt : Option (Option Time) := none
  restoreEvidenceSource : Option (Option EvidenceSource) := none
  recoveryRequired : Option Bool := none
  lastError : Option (Option String) := none

namespace Values

@[simps] def write (values : Values) (row : IngestRadioTransition) : IngestRadioTransition where
  id := row.id
  transitionId := row.transitionId
  phase := values.phase.getD row.phase
  active := values.active.getD row.active
  createdAt := row.createdAt
  completedAt := values.completedAt.getD row.completedAt
  leaseOwner := values.leaseOwner.getD row.leaseOwner
  leaseExpiresAt := values.leaseExpiresAt.getD row.leaseExpiresAt
  deviceAddress := values.deviceAddress.getD row.deviceAddress
  deviceBootId := values.deviceBootId.getD row.deviceBootId
  loggerStatusPath := row.loggerStatusPath
  loggerRequestId := values.loggerRequestId.getD row.loggerRequestId
  loggerResumeAttempted := values.loggerResumeAttempted.getD row.loggerResumeAttempted
  loggerResumeVerified := values.loggerResumeVerified.getD row.loggerResumeVerified
  bluetooth := values.bluetooth.write row.bluetooth
  hotspot := values.hotspot.write row.hotspot
  hotspotInterface := values.hotspotInterface.getD row.hotspotInterface
  hotspotRestoreRef := values.hotspotRestoreRef.getD row.hotspotRestoreRef
  obdTransferComplete := values.obdTransferComplete.getD row.obdTransferComplete
  unitReportToken := values.unitReportToken.getD row.unitReportToken
  unitReportedAt := values.unitReportedAt.getD row.unitReportedAt
  unitSleepReportedAt := values.unitSleepReportedAt.getD row.unitSleepReportedAt
  restoreEvidenceSource := values.restoreEvidenceSource.getD row.restoreEvidenceSource
  recoveryRequired := values.recoveryRequired.getD row.recoveryRequired
  lastError := values.lastError.getD row.lastError

def columns (values : Values) : Radio → RadioValues
  | .bluetooth => values.bluetooth
  | .hotspot => values.hotspot

@[simp] theorem columns_write (values : Values) (row : IngestRadioTransition) (radio : Radio) :
    (values.write row).columns radio = (values.columns radio).write (row.columns radio) := by
  cases radio <;> rfl

def ofRadio : Radio → RadioValues → Values
  | .bluetooth, values => { bluetooth := values }
  | .hotspot, values => { hotspot := values }

def renewing (now : Time) (values : Values) : Values :=
  { values with leaseExpiresAt := some (values.leaseExpiresAt.getD (now + leaseTtl)) }

end Values

def write (rows : Transitions) (id : Nat) (values : Values) : Transitions :=
  rows.update (fun row => row.id = id) values.write values.write_id

theorem mem_write {rows : Transitions} {id : Nat} {values : Values} {row : IngestRadioTransition} :
    row ∈ write rows id values ↔
      ∃ old ∈ rows, (if old.id = id then values.write old else old) = row := by
  simp [write, Table.mem_update]

-- UPDATE of the row with this id if it meets `guard`; `none` where `rowcount` is not 1.
def writeIf (rows : Transitions) (id : Nat) (guard : IngestRadioTransition → Bool)
    (values : Values) : Option Transitions :=
  (rows.find? id).bind fun row => if guard row then some (write rows id values) else none

theorem writeIf_some {rows next : Transitions} {id : Nat} {guard : IngestRadioTransition → Bool}
    {values : Values} (written : writeIf rows id guard values = some next) :
    ∃ row ∈ rows, row.id = id ∧ guard row = true ∧ next = write rows id values := by
  obtain ⟨row, found, kept⟩ := Option.bind_eq_some_iff.mp written
  obtain ⟨member, same⟩ := Table.find?_mem found
  by_cases holds : guard row
  · exact ⟨row, member, same, holds, by simpa [holds] using kept.symm⟩
  · simp [holds] at kept

-- `text[:length]`
def truncate (text : String) (length : Nat) : String := String.ofList (text.toList.take length)

def joinErrors (errors : List String) : String := truncate ("; ".intercalate errors) 2000

def recoveryValues (now : Time) (error : String) : Values where
  phase := some .recoveryRequired
  recoveryRequired := some true
  leaseExpiresAt := some now
  lastError := some (some error)

-- `_finish_transition`
def finishValues (now : Time) (error : Option String) (errors : List String) : Values :=
  let messages := if errors.isEmpty then error.toList else errors
  { active := some false
    phase := some (if error.isSome then .failed else .complete)
    completedAt := some (some now)
    recoveryRequired := some false
    lastError := some (if joinErrors messages = "" then none else some (joinErrors messages)) }

inductive ReportedState where
  | restored
  | unrestored
  | skip
  deriving DecidableEq

structure UnitRadioReport where
  transitionId : Nat
  token : Nat
  reason : String
  bluetooth : ReportedState
  hotspot : ReportedState
  interface : String
  deriving DecidableEq

def truthy (text : Option String) : Bool := text.any fun s => s ≠ ""

namespace UnitRadioReport

variable (report : UnitRadioReport) (row : IngestRadioTransition)

def bluetoothVerified : Bool := report.bluetooth = .restored

def hotspotVerified : Bool :=
  report.hotspot = .restored &&
    !(row.hotspot.before = .on && truthy row.hotspotInterface &&
      some report.interface ≠ row.hotspotInterface)

def bluetoothOutstanding : Bool :=
  match report.bluetooth with
  | .skip => row.bluetooth.disableAttempted && !row.bluetooth.restoreVerified
  | _ => !report.bluetoothVerified

def hotspotOutstanding : Bool :=
  match report.hotspot with
  | .skip =>
    row.hotspot.before ≠ .transport &&
      (row.bluetooth.disableAttempted || row.hotspot.disableAttempted) &&
      !row.hotspot.restoreVerified
  | _ => !report.hotspotVerified row

def loggerOutstanding : Bool := row.loggerRequestId.isSome && !row.loggerResumeVerified

def outstanding : List String :=
  (if report.bluetoothOutstanding row then ["Bluetooth"] else []) ++
    (if report.hotspotOutstanding row then ["the hotspot"] else []) ++
    if loggerOutstanding row then ["the OBD logger"] else []

def evidence (state : ReportedState) (verified : Bool) : RadioValues :=
  match state with
  | .skip => {}
  | _ => { restoreAttempted := some true, restoreVerified := some verified }

def evidenceValues (now : Time) : Values where
  unitReportedAt := some (some now)
  restoreEvidenceSource := some (some .unit)
  unitSleepReportedAt := if report.reason = "pre_sleep" then some (some now) else none
  bluetooth := evidence report.bluetooth report.bluetoothVerified
  hotspot := evidence report.hotspot (report.hotspotVerified row)

def ownerLive (now : Time) : Bool := row.active && now < row.leaseExpiresAt

-- `apply_unit_report`, from the row it has read to the values it writes.
def values (now : Time) : Values :=
  if ownerLive row now then
    report.evidenceValues row now
  else if report.outstanding row = [] then
    { report.evidenceValues row now with
      phase := some .complete
      recoveryRequired := some false
      active := some false
      completedAt := some (some now)
      lastError := some none
      unitReportToken := some none }
  else
    { report.evidenceValues row now with
      phase := some .recoveryRequired
      recoveryRequired := some true
      lastError := some (some
        ("the head unit's radio report left restoration unverified for " ++
          " and ".intercalate (report.outstanding row))) }

def accepted : Bool := row.unitReportToken = some report.token

end UnitRadioReport

def activeRow (rows : Transitions) : Option IngestRadioTransition :=
  ((rows.rows.filter fun row => row.active || row.recoveryRequired).insertionSort
    fun a b => a.createdAt ≤ b.createdAt).head?

def unitAlreadyVerified (row : IngestRadioTransition) (radio : Radio) : Bool :=
  row.restoreEvidenceSource = some .unit && (row.columns radio).restoreVerified

-- The part of an identity before `@`, and whether there is an `@`.
def partition (identity : String) : String × Bool :=
  (String.ofList (identity.toList.takeWhile (· ≠ '@')), identity.toList.contains '@')

def sameDeviceIdentity (stored : String) (current : Option String) : Bool :=
  current.any fun current =>
    if (partition stored).2 && (partition current).2 then
      (partition stored).1 = (partition current).1
    else stored = current

-- `_verified_recovery_identity`; `bootIdAt` is what the device at an address answers.
def verifiedRecoveryIdentity (row : IngestRadioTransition) (address : Option String)
    (bootIdAt : String → Option String) : Option (String × Option String) :=
  let candidate := if truthy address then address.getD "" else row.deviceAddress
  let bootId := bootIdAt candidate
  match row.deviceBootId with
  | some stored => if sameDeviceIdentity stored bootId then some (candidate, bootId) else none
  | none => if candidate ≠ row.deviceAddress then none else some (candidate, bootId)

-- The guard of `_adopt_expired`.
def adoptable (now : Time) (row : IngestRadioTransition) : Bool :=
  row.active && row.leaseExpiresAt ≤ now

-- The values by which `_adopt_expired` takes the row over from its expired owner.
def adoptionValues (row : IngestRadioTransition) (now : Time) (owner : Nat) (address : String)
    (bootId : Option String) : Values where
  leaseOwner := some owner
  leaseExpiresAt := some (now + leaseTtl)
  deviceAddress := some (truncate address 255)
  deviceBootId := some (if truthy bootId then bootId else row.deviceBootId)

end DashcamStats.Ingest
