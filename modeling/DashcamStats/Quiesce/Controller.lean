import DashcamStats.Library.Run
import DashcamStats.Quiesce.Files

namespace DashcamStats.Quiesce

universe u

def maxHold : ℤ := 600 * second
def renewalWriteMargin : ℤ := 15 * second
def renewalTimeout : ℤ := 8 * second
-- The coarsest modification time of a removable volume.
def modifiedGrain : ℤ := 2 * second

structure ControlTexts (Bytes : Type u) extends Codec Bytes where
  body : IngestionRequest → Bytes
  -- The schema checks of `_parse_request_deadline`.
  lease : Bytes → Option IngestionRequest
  -- The file of `publishReady` for a request id.
  ready : String → Bytes
  -- `parse_ack`: the request id of a ready acknowledgement.
  acks : Bytes → Option String
  request_body : ∀ q, request (body q) = some q
  lease_body : ∀ q, lease (body q) = some q
  size_body : ∀ q, 1 ≤ size (body q) ∧ size (body q) ≤ maximumControlBytes
  acks_ready : ∀ id, acks (ready id) = some id

-- `datetime.now(UTC)`, in whole microseconds.
def utcNow (clock : ℤ) : ℤ := clock / 1000 * 1000

inductive Control (Bytes : Type u) where
  | idle
  -- `_remove_files` of `request_quiesce`, or of `resume_logger` where nothing follows.
  | absentRequest (following : Option IngestionRequest) (removed : Bool)
  | absentAck (following : Option IngestionRequest) (removed : Bool)
  | removingRequest (following : Option IngestionRequest)
  | removingAck (following : Option IngestionRequest)
  | publishing (q : IngestionRequest)
  | readingBack (q : IngestionRequest)
  | polling (q : IngestionRequest)
  | answered (q : IngestionRequest)
  -- The reads of `renew_quiesce`, with its hold and minimum, or of `verify_quiesce`.
  | reading (id : String) (extend : Option (ℤ × ℤ))
  | readingAck (id : String) (extend : Option (ℤ × ℤ)) (raw : Bytes)
  | rereading (id : String) (extend : Option (ℤ × ℤ)) (raw : Bytes)
  | judging (id : String) (extend : Option (ℤ × ℤ)) (raw : Bytes)
  -- The one command of `renew_quiesce`, issued at this instant.
  | comparing (raw : Bytes) (q : IngestionRequest) (minimum issued : ℤ)
  | replacing (q : IngestionRequest) (minimum issued : ℤ)
  | confirming (q : IngestionRequest) (minimum : ℤ)
  | renewed (q : IngestionRequest) (minimum : ℤ)
deriving DecidableEq

structure Handshake (Bytes : Type u) where
  disk : Disk Bytes
  reader : Phase Bytes
  server : Control Bytes
  -- The server's UTC clock.
  clock : ℤ
  -- History: what the server installed last for the request it published last.
  lease : Option IngestionRequest
  /-- History: the request that became ready and the deadline of its latest returned lease, until
  the server removes or replaces the control files. -/
  held : Option (String × ℤ)
deriving DecidableEq

inductive Signal where
  | tick (clock : ℤ)
  | call (cleanupAbsentMarkers : Bool)
  | operate
  | die
  | publishReady
  | requestQuiesce (id : String) (timeout : ℤ) (hold : Option ℤ)
  | verifyQuiesce (id : String)
  | renewQuiesce (id : String) (hold minimum : ℤ)
  | resumeLogger
  -- The command takes effect; a file that it writes gets this modification time.
  | serve (modified : ℤ)
  -- A removal command fails, which `_remove_files` ignores.
  | skip
  | giveUp
deriving DecidableEq, Repr

variable {Bytes : Type u}

-- A read through `_read_control_file`.
def readControl (node : Option (Node Bytes)) : Option Bytes :=
  node.bind fun node => if node.regular then some node.bytes else none

-- The lease of `request_quiesce`, within its bounds.
def leaseLength (timeout : ℤ) (hold : Option ℤ) : ℤ :=
  let timeout := max (1 * second) (min timeout (120 * second))
  match hold with
  | none => timeout
  | some hold => max timeout (min hold maxHold)

def newLease (id : String) (clock length : ℤ) : IngestionRequest where
  requestId := id
  requestedAtUtc := utcNow clock
  deadlineAtUtc := utcNow clock + length

def parseRequestDeadline (texts : ControlTexts Bytes) (raw : Bytes) (id : String) : Option ℤ :=
  match texts.lease raw with
  | none => none
  | some q =>
    if q.requestId ≠ id ∨ q.deadlineAtUtc - q.requestedAtUtc < 1 * second ∨
        maxHold < q.deadlineAtUtc - q.requestedAtUtc then none
    else some q.deadlineAtUtc

namespace Handshake

def start (disk : Disk Bytes) (clock : ℤ) : Handshake Bytes where
  disk := disk
  reader := .dead
  server := .idle
  clock := clock
  lease := none
  held := none

variable (texts : ControlTexts Bytes)

def install (s : Handshake Bytes) (q : IngestionRequest) (modified : ℤ) : Disk Bytes :=
  { s.disk with request := some ⟨texts.body q, modified, true⟩ }

-- `_remove_files` is through.
def afterRemoval (following : Option IngestionRequest) : Control Bytes :=
  match following with
  | some q => .publishing q
  | none => .idle

def Dated (skew : ℤ) (s : Handshake Bytes) (q : IngestionRequest) (modified : ℤ) : Prop :=
  q.requestedAtUtc + skew - modifiedGrain ≤ modified ∧ modified ≤ s.clock + skew

instance (skew : ℤ) (s : Handshake Bytes) (q : IngestionRequest) (modified : ℤ) :
    Decidable (Dated skew s q modified) :=
  inferInstanceAs (Decidable (_ ∧ _))

def extends_ (s : Handshake Bytes) (q : IngestionRequest) : Bool :=
  s.lease.any fun lease => lease.requestId = q.requestId

section Steps

variable [DecidableEq Bytes]

def serve (skew modified : ℤ) (s : Handshake Bytes) : Option (Handshake Bytes) :=
  match s.server with
  | .idle => none
  | .absentRequest following removed =>
    some { s with
      server :=
        if s.disk.request.isNone then .absentAck following removed
        else if removed then .idle
        else .removingRequest following }
  | .absentAck following removed =>
    some { s with
      server :=
        if s.disk.ack.isNone then afterRemoval following
        else if removed then .idle
        else .removingRequest following }
  | .removingRequest following =>
    some { s with
      disk := { s.disk with request := none }
      server := .removingAck following
      lease := none
      held := none }
  | .removingAck following =>
    some { s with
      disk := { s.disk with ack := none }
      server := .absentRequest following true
      lease := none
      held := none }
  | .publishing q =>
    if Dated skew s q modified then
      some { s with
        disk := s.install texts q modified
        server := .readingBack q
        lease := some q
        held := none }
    else none
  | .readingBack q =>
    some { s with
      server := if readControl s.disk.request = some (texts.body q) then .polling q else .idle }
  | .polling q =>
    some { s with
      server :=
        match s.disk.ack with
        | none => .polling q
        | some node => if texts.acks node.bytes = some q.requestId then .answered q else .idle }
  | .answered q =>
    some { s with server := .idle, held := some (q.requestId, q.deadlineAtUtc) }
  | .reading id extend =>
    some { s with
      server :=
        match readControl s.disk.request with
        | none => .idle
        | some raw =>
          if (parseRequestDeadline texts raw id).isSome then .readingAck id extend raw
          else .idle }
  | .readingAck id extend raw =>
    some { s with
      server :=
        if (readControl s.disk.ack).bind texts.acks = some id then .rereading id extend raw
        else .idle }
  | .rereading id extend raw =>
    some { s with
      server := if readControl s.disk.request = some raw then .judging id extend raw else .idle }
  | .judging id extend raw =>
    some { s with
      server :=
        match extend, parseRequestDeadline texts raw id with
        | some (hold, minimum), some deadline =>
          if deadline - utcNow s.clock < renewalWriteMargin then .idle
          else .comparing raw (newLease id s.clock hold) minimum s.clock
        | _, _ => .idle }
  | .comparing raw q minimum issued =>
    if s.clock ≤ issued + renewalTimeout then
      some { s with
        server :=
          if readControl s.disk.request = some raw then .replacing q minimum issued else .idle }
    else none
  | .replacing q minimum issued =>
    if s.clock ≤ issued + renewalTimeout ∧ Dated skew s q modified then
      some { s with
        disk := s.install texts q modified
        server := .confirming q minimum
        lease := if s.extends_ q then some q else none
        held := if s.extends_ q then s.held else none }
    else none
  | .confirming q minimum =>
    some { s with
      server :=
        if readControl s.disk.request = some (texts.body q) then .renewed q minimum else .idle }
  | .renewed q minimum =>
    some { s with
      server := .idle
      held :=
        if minimum ≤ q.deadlineAtUtc - utcNow s.clock ∧
            s.held.map Prod.fst = some q.requestId then
          some (q.requestId, q.deadlineAtUtc)
        else s.held }

def next (skew : ℤ) (s : Handshake Bytes) : Signal → Option (Handshake Bytes)
  | .tick clock => if s.clock ≤ clock then some { s with clock := clock } else none
  | .call cleanup =>
    if s.reader.resting then some { s with reader := .looking (s.clock + skew) cleanup } else none
  | .operate =>
    if s.reader.resting then none
    else
      some { s with
        disk := (advance texts.toCodec s.disk s.reader).1
        reader := (advance texts.toCodec s.disk s.reader).2 }
  | .die => some { s with reader := .dead }
  | .publishReady =>
    -- only for a request that the same reader has found valid
    match s.reader with
    | .finished (.valid v) =>
      some { s with
        disk := { s.disk with ack := some ⟨texts.ready v.requestId, s.clock + skew, true⟩ } }
    | _ => none
  | .requestQuiesce id timeout hold =>
    if s.server = .idle then
      some { s with
        server := .absentRequest (some (newLease id s.clock (leaseLength timeout hold))) false }
    else none
  | .verifyQuiesce id => if s.server = .idle then some { s with server := .reading id none } else none
  | .renewQuiesce id hold minimum =>
    if s.server = .idle ∧ 1 * second ≤ hold ∧ hold ≤ maxHold ∧ 0 ≤ minimum ∧ minimum ≤ hold then
      some { s with server := .reading id (some (hold, minimum)) }
    else none
  | .resumeLogger =>
    if s.server = .idle then some { s with server := .absentRequest none false } else none
  | .serve modified => s.serve texts skew modified
  | .skip =>
    match s.server with
    | .absentRequest following false => some { s with server := .removingRequest following }
    | .absentAck following false => some { s with server := .removingRequest following }
    | .removingRequest following => some { s with server := .absentRequest following true }
    | .removingAck following => some { s with server := .absentRequest following true }
    | _ => none
  | .giveUp => some { s with server := .idle }

def step (skew : ℤ) (s : Handshake Bytes) (e : Signal) (t : Handshake Bytes) : Prop :=
  s.next texts skew e = some t

end Steps

end Handshake

end DashcamStats.Quiesce
