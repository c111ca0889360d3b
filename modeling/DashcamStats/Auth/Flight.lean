import DashcamStats.Library.Run

namespace DashcamStats.Auth.Flight

structure SessionRow where
  id : ℕ
  expiresAt : ℕ
  deriving DecidableEq

structure Principal where
  username : String
  sessionId : ℕ
  deriving DecidableEq

structure CachedSession where
  epoch : ℕ
  checkedAt : ℕ
  expiresAt : ℕ
  sessionId : ℕ
  deriving DecidableEq

inductive Outcome where
  | pending
  | result (principal : Option Principal)
  | exception
  | cancelled
  deriving DecidableEq

-- A future, with the wall clock of the call that made it.
structure Lookup where
  wall : ℕ
  outcome : Outcome
  deriving DecidableEq

inductive Exc where
  | cancelledError
  | invalidStateError
  | database
  deriving DecidableEq

-- How far `_load_session` is: before the read, after it without or with a row, and after the
-- answer was cached.
inductive Stage where
  | reading
  | missed
  | found
  | stored
  deriving DecidableEq

inductive Phase where
  | waiting (future : ℕ)
  | loading (future wall now : ℕ) (stage : Stage)
  | returned (principal : Option Principal) (ended : ℕ)
  | raised (exc : Exc)
  deriving DecidableEq

-- `cancelled` is that the call itself was, and `failed` that its database work did not succeed.
structure Call where
  started : ℕ
  phase : Phase
  cancelled : Bool := false
  failed : Bool := false
  deriving DecidableEq

structure World where
  username : String
  row : Option SessionRow
  wall : ℕ := 0
  now : ℕ := 0
  sessionEpoch : ℕ := 0
  sessionCache : Option CachedSession := none
  sessionMissing : Option (ℕ × ℕ) := none
  inflight : Option ℕ := none
  futures : List Lookup := []
  calls : List Call := []
  deriving DecidableEq

inductive Event where
  | ticks (wall now : ℕ)
  | evictsCache
  | evictsMissing
  | begins
  | reads (call : ℕ)
  | stores (call : ℕ)
  | finishes (call : ℕ)
  | fails (call : ℕ)
  | cancels (call : ℕ)
  | wakes (call : ℕ)
  | bumps
  deriving DecidableEq

def CACHE_TTL_S : ℕ := 60
def NEGATIVE_TTL_S : ℕ := 30

inductive Plan where
  | answer (principal : Option Principal)
  | join (future : ℕ)
  | load
  deriving DecidableEq

namespace World

variable (w : World)

def warrant (moment : ℕ) : Option Principal :=
  match w.row with
  | some row => if row.expiresAt ≤ moment then none else some ⟨w.username, row.id⟩
  | none => none

def cacheAnswer : Option (Option Principal) :=
  match w.sessionCache with
  | none => none
  | some cached =>
    if cached.epoch ≠ w.sessionEpoch then none
    else if cached.expiresAt ≤ w.wall then some none
    else if w.now - cached.checkedAt < CACHE_TTL_S then some (some ⟨w.username, cached.sessionId⟩)
    else none

def cacheKept : Option CachedSession :=
  w.sessionCache.filter fun cached =>
    decide (cached.epoch = w.sessionEpoch ∧ w.wall < cached.expiresAt)

def missingFresh : Bool :=
  w.sessionMissing.any fun entry =>
    decide (entry.1 = w.sessionEpoch ∧ w.now - entry.2 < NEGATIVE_TTL_S)

def plan : Plan :=
  match w.cacheAnswer with
  | some principal => .answer principal
  | none =>
    if w.missingFresh then .answer none
    else
      match w.inflight with
      | some future => .join future
      | none => .load

def begin_ : World :=
  match w.plan with
  | .answer principal =>
    { w with
      sessionCache := w.cacheKept
      calls := w.calls ++ [⟨w.wall, .returned principal w.wall, false, false⟩] }
  | .join future =>
    { w with
      sessionCache := w.cacheKept
      sessionMissing := none
      calls := w.calls ++ [⟨w.wall, .waiting future, false, false⟩] }
  | .load =>
    { w with
      sessionCache := w.cacheKept
      sessionMissing := none
      inflight := some w.futures.length
      futures := w.futures ++ [⟨w.wall, .pending⟩]
      calls := w.calls ++
        [⟨w.wall, .loading w.futures.length w.wall w.now .reading, false, false⟩] }

def setCall (index : ℕ) (call : Call) : World := { w with calls := w.calls.set index call }

def outcome (future : ℕ) : Option Outcome := w.futures[future]?.map Lookup.outcome

def settle (future : ℕ) (outcome : Outcome) : World :=
  { w with
    futures := w.futures.modify future fun lookup =>
      if lookup.outcome = .pending then { lookup with outcome := outcome } else lookup }

def pop : World := { w with inflight := none }

def bump : World :=
  { w with
    sessionEpoch := w.sessionEpoch + 1
    sessionCache := none
    sessionMissing := none
    inflight := none
    futures :=
      match w.inflight with
      | some future => (w.settle future .cancelled).futures
      | none => w.futures }

def read (index : ℕ) (call : Call) (future wall now : ℕ) : World :=
  match w.warrant wall with
  | none =>
    { w.setCall index { call with phase := .loading future wall now .missed } with
      sessionCache := none
      sessionMissing := some (w.sessionEpoch, now) }
  | some _ => w.setCall index { call with phase := .loading future wall now .found }

def store (index : ℕ) (call : Call) (future wall now : ℕ) : World :=
  { w.setCall index { call with phase := .loading future wall now .stored } with
    sessionCache := w.row.map fun row => ⟨w.sessionEpoch, now, row.expiresAt, row.id⟩ }

def finish (index : ℕ) (call : Call) (future : ℕ) (principal : Option Principal) : World :=
  if w.outcome future = some .pending then
    (w.settle future (.result principal)).pop.setCall index
      { call with phase := .returned principal w.wall }
  else w.pop.setCall index { call with phase := .raised .invalidStateError }

def fail (index : ℕ) (call : Call) (future : ℕ) : World :=
  if w.outcome future = some .pending then
    (w.settle future .exception).pop.setCall index
      { call with phase := .raised .database, failed := true }
  else w.pop.setCall index { call with phase := .raised .invalidStateError, failed := true }

def next : Event → Option World
  | .ticks wall now => some { w with wall := w.wall + wall, now := w.now + now }
  | .evictsCache => some { w with sessionCache := none }
  | .evictsMissing => some { w with sessionMissing := none }
  | .begins => some w.begin_
  | .reads index =>
    w.calls[index]?.bind fun call =>
      match call.phase with
      | .loading future wall now .reading => some (w.read index call future wall now)
      | _ => none
  | .stores index =>
    w.calls[index]?.bind fun call =>
      match call.phase with
      | .loading future wall now .found => some (w.store index call future wall now)
      | _ => none
  | .finishes index =>
    w.calls[index]?.bind fun call =>
      match call.phase with
      | .loading future _ _ .missed => some (w.finish index call future none)
      | .loading future _ _ .stored =>
        some (w.finish index call future (w.row.map fun row => ⟨w.username, row.id⟩))
      | _ => none
  | .fails index =>
    w.calls[index]?.bind fun call =>
      match call.phase with
      | .loading future _ _ _ => some (w.fail index call future)
      | _ => none
  | .cancels index =>
    w.calls[index]?.bind fun call =>
      match call.phase with
      | .loading future _ _ _ =>
        some ((w.settle future .cancelled).pop.setCall index
          { call with phase := .raised .cancelledError, cancelled := true })
      | .waiting _ =>
        some (w.setCall index { call with phase := .raised .cancelledError, cancelled := true })
      | _ => none
  | .wakes index =>
    w.calls[index]?.bind fun call =>
      match call.phase with
      | .waiting future =>
        match w.outcome future with
        | some (.result principal) =>
          some (w.setCall index { call with phase := .returned principal w.wall })
        | some .exception =>
          some (w.setCall index { call with phase := .raised .database, failed := true })
        | some .cancelled =>
          some (w.setCall index { call with phase := .raised .cancelledError })
        | _ => none
      | _ => none
  | .bumps => some w.bump

end World

def start (username : String) (row : Option SessionRow) : World :=
  { username := username, row := row }

def Steps (w : World) (e : Event) (t : World) : Prop := w.next e = some t

def Served (w : World) (call : Call) : Prop :=
  call.cancelled = false → call.failed = false →
    match call.phase with
    | .returned principal ended =>
      ∃ moment, call.started ≤ moment ∧ moment ≤ ended ∧ principal = w.warrant moment
    | .raised _ => False
    | _ => True

def Good (w : World) : Prop := ∀ call ∈ w.calls, Served w call

def Call.waitsOn (call : Call) (future : ℕ) : Prop := call.phase = .waiting future

instance (call : Call) (future : ℕ) : Decidable (call.waitsOn future) :=
  inferInstanceAs (Decidable (_ = _))

def World.joinsInTime (w : World) : Prop :=
  match w.plan with
  | .join future => ∀ lookup ∈ w.futures[future]?, w.warrant lookup.wall = w.warrant w.wall
  | _ => True

def World.unshared (w : World) (index : ℕ) : Prop :=
  match w.calls[index]?.map Call.phase with
  | some (.loading future _ _ _) => ∀ other ∈ w.calls, ¬ other.waitsOn future
  | _ => True

instance (w : World) : Decidable w.joinsInTime := by
  unfold World.joinsInTime
  split <;> infer_instance

instance (w : World) (index : ℕ) : Decidable (w.unshared index) := by
  unfold World.unshared
  split <;> infer_instance

/-- No call that others wait on is cancelled, nothing is bumped while a lookup is under way, and a
call joins a lookup only while the row is as expired as when the lookup began. -/
def Allowed (w : World) : Event → Prop
  | .begins => w.joinsInTime
  | .cancels index => w.unshared index
  | .bumps => w.inflight = none
  | _ => True

instance (w : World) : (e : Event) → Decidable (Allowed w e)
  | .begins => inferInstanceAs (Decidable w.joinsInTime)
  | .cancels index => inferInstanceAs (Decidable (w.unshared index))
  | .bumps => inferInstanceAs (Decidable (_ = _))
  | .ticks _ _ | .evictsCache | .evictsMissing | .reads _ | .stores _ | .finishes _ | .fails _
  | .wakes _ => .isTrue trivial

end DashcamStats.Auth.Flight
