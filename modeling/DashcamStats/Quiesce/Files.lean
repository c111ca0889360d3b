import Mathlib.Data.Int.Order.Basic

namespace DashcamStats.Quiesce

universe u

structure IngestionRequest where
  requestId : String
  requestedAtUtc : ℤ
  deadlineAtUtc : ℤ
deriving DecidableEq, Repr

def second : ℤ := 1000000000

def maximumLeaseSeconds : ℤ := 600
def clockSkewSeconds : ℤ := 60
def maximumControlBytes : ℕ := 2048

def ingestionLeaseExpiryReason (request : IngestionRequest) (nowUtc : ℤ) : Option String :=
  let duration := request.deadlineAtUtc - request.requestedAtUtc
  if duration < 1 * second ∨ maximumLeaseSeconds * second < duration then
    some "ingestion request lease duration is outside the bounded range"
  else if nowUtc + clockSkewSeconds * second < request.requestedAtUtc then
    some "ingestion request time is materially in the future"
  else if request.deadlineAtUtc + clockSkewSeconds * second < nowUtc then
    some "ingestion request lease expired"
  else none

theorem ingestionLeaseExpiryReason_eq_none {request : IngestionRequest} {nowUtc : ℤ} :
    ingestionLeaseExpiryReason request nowUtc = none ↔
      1 * second ≤ request.deadlineAtUtc - request.requestedAtUtc ∧
        request.deadlineAtUtc - request.requestedAtUtc ≤ maximumLeaseSeconds * second ∧
        request.requestedAtUtc ≤ nowUtc + clockSkewSeconds * second ∧
        nowUtc ≤ request.deadlineAtUtc + clockSkewSeconds * second := by
  simp only [ingestionLeaseExpiryReason]
  split
  · simp only [reduceCtorEq, false_iff]
    omega
  · split
    · simp only [reduceCtorEq, false_iff]
      omega
    · split <;> simp only [reduceCtorEq, false_iff, true_iff] <;> omega

structure Codec (Bytes : Type u) where
  size : Bytes → ℕ
  -- The decoding, the JSON and the field checks of `parseRequestFile`.
  request : Bytes → Option IngestionRequest
  -- The `request_id` of an acknowledgement.
  acknowledged : Bytes → Option String

structure Node (Bytes : Type u) where
  bytes : Bytes
  modified : ℤ
  -- A regular file, and not a link.
  regular : Bool
deriving DecidableEq

structure Disk (Bytes : Type u) where
  request : Option (Node Bytes)
  -- `ingestion-request.json.expired`
  marker : Option (Node Bytes)
  ack : Option (Node Bytes)
deriving DecidableEq

/-- One test of `requireSafeControlFile`. -/
inductive Check where
  | notLink | regularFile | canonical | bounded
deriving DecidableEq, Repr

/-- Where `parseRequestFile` is. -/
inductive Reading where
  | checking (check : Check)
  | sizing
  | loading (size : ℕ)
deriving DecidableEq, Repr

inductive Outcome where
  | absent
  | valid (request : IngestionRequest)
  | invalid
deriving DecidableEq, Repr

inductive Judged (Bytes : Type u) where
  | lease (expected : IngestionRequest)
  | stale (expected : Bytes)
deriving DecidableEq

/-- The next file operation of `readRequest`. -/
inductive Phase (Bytes : Type u) where
  | dead
  | finished (outcome : Outcome)
  | looking (now : ℤ) (cleanupAbsentMarkers : Bool)
  | cleanupExpiredMarkers
  | parsing (now : ℤ) (reading : Reading)
  -- `clearStaleInvalidLease` up to the bytes it expects.
  | requiring (now : ℤ) (check : Check)
  | ageing (now : ℤ)
  | expecting
  | discarding (judged : Judged Bytes)
  | isolating (judged : Judged Bytes)
  | comparingLease (expected : IngestionRequest) (reading : Reading)
  | comparingStale (expected : Bytes)
  | rechecking
  | restoring
  | acknowledging (judged : Judged Bytes)
  | unacknowledging
  | dropping
deriving DecidableEq

variable {Bytes : Type u}

namespace Check

def next : Check → Option Check
  | .notLink => some .regularFile
  | .regularFile => some .canonical
  | .canonical => some .bounded
  | .bounded => none

def passes (codec : Codec Bytes) (check : Check) (node : Option (Node Bytes)) : Bool :=
  match check, node with
  | .notLink, none => true
  | .canonical, none => true
  | _, none => false
  | .bounded, some node =>
    decide (1 ≤ codec.size node.bytes ∧ codec.size node.bytes ≤ maximumControlBytes)
  | _, some node => node.regular

end Check

-- One operation of `parseRequestFile`: what remains of it, or what it returns.
def Reading.next (codec : Codec Bytes) (node : Option (Node Bytes)) :
    Reading → Reading ⊕ Option IngestionRequest
  | .checking check =>
    if check.passes codec node then
      .inl (match check.next with
        | some following => .checking following
        | none => .sizing)
    else .inr none
  | .sizing =>
    match node with
    | some node =>
      if 1 ≤ codec.size node.bytes ∧ codec.size node.bytes ≤ maximumControlBytes then
        .inl (.loading (codec.size node.bytes))
      else .inr none
    | none => .inr none
  | .loading size =>
    match node with
    | some node =>
      .inr (if codec.size node.bytes = size then codec.request node.bytes else none)
    | none => .inr none

-- The contents at a path are a request that `parseRequestFile` accepts.
def parsed (codec : Codec Bytes) (node : Node Bytes) : Option IngestionRequest :=
  if node.regular ∧ 1 ≤ codec.size node.bytes ∧ codec.size node.bytes ≤ maximumControlBytes then
    codec.request node.bytes
  else none

-- `stale` of `clearStaleInvalidLease`
def staleFile (now modified : ℤ) : Bool :=
  decide (modified + (maximumLeaseSeconds + clockSkewSeconds) * second < now ∨
    now + clockSkewSeconds * second < modified)

section Read

variable [DecidableEq Bytes] (codec : Codec Bytes)

def settle (same : Bool) (judged : Judged Bytes) : Phase Bytes :=
  if same then .acknowledging judged else .rechecking

def startComparing : Judged Bytes → Phase Bytes
  | .lease expected => .comparingLease expected (.checking .notLink)
  | .stale expected => .comparingStale expected

-- The next operation of `readRequest`.
def advance (disk : Disk Bytes) : Phase Bytes → Disk Bytes × Phase Bytes
  | .dead => (disk, .dead)
  | .finished outcome => (disk, .finished outcome)
  | .looking now cleanup =>
    (disk,
      if disk.request.isSome then .parsing now (.checking .notLink)
      else if cleanup then .cleanupExpiredMarkers
      else .finished .absent)
  | .cleanupExpiredMarkers => ({ disk with marker := none }, .finished .absent)
  | .parsing now reading =>
    (disk,
      match reading.next codec disk.request with
      | .inl following => .parsing now following
      | .inr none => .requiring now .notLink
      | .inr (some request) =>
        if (ingestionLeaseExpiryReason request now).isNone then .finished (.valid request)
        else .discarding (.lease request))
  | .requiring now check =>
    (disk,
      if check.passes codec disk.request then
        match check.next with
        | some following => .requiring now following
        | none => .ageing now
      else .finished .invalid)
  | .ageing now =>
    (disk,
      match disk.request with
      | some node => if staleFile now node.modified then .expecting else .finished .invalid
      | none => .finished .invalid)
  | .expecting =>
    (disk,
      match disk.request with
      | some node => .discarding (.stale node.bytes)
      | none => .finished .invalid)
  | .discarding judged => ({ disk with marker := none }, .isolating judged)
  | .isolating judged =>
    match disk.request with
    | some node => ({ disk with request := none, marker := some node }, startComparing judged)
    | none => (disk, .finished .invalid)
  | .comparingLease expected reading =>
    (disk,
      match reading.next codec disk.marker with
      | .inl following => .comparingLease expected following
      | .inr none => .finished .invalid
      | .inr (some moved) => settle (moved = expected) (.lease expected))
  | .comparingStale expected =>
    (disk,
      match disk.marker with
      | some node => settle (node.bytes = expected) (.stale expected)
      | none => .finished .invalid)
  | .rechecking => (disk, if disk.request.isSome then .finished .invalid else .restoring)
  | .restoring =>
    -- the rename replaces whatever the request path names by now
    match disk.marker with
    | some node => ({ disk with request := some node, marker := none }, .finished .invalid)
    | none => (disk, .finished .invalid)
  | .acknowledging judged =>
    (disk,
      match judged with
      | .stale _ => .unacknowledging
      | .lease expected =>
        match disk.ack with
        | some node =>
          if node.regular ∧ codec.acknowledged node.bytes = some expected.requestId then
            .unacknowledging
          else .dropping
        | none => .dropping)
  | .unacknowledging => ({ disk with ack := none }, .dropping)
  | .dropping => ({ disk with marker := none }, .finished .absent)

end Read

namespace Phase

def resting : Phase Bytes → Bool
  | .dead => true
  | .finished _ => true
  | _ => false

def aside : Phase Bytes → Bool
  | .comparingLease _ _ => true
  | .comparingStale _ => true
  | .rechecking => true
  | .restoring => true
  | _ => false

end Phase

end DashcamStats.Quiesce
