import DashcamStats.Library.Routine

namespace DashcamStats.Auth

open Routine (read modify atomic block)

section Data

structure Account where
  username : String
  password : String
  needsRehash : Bool := false
deriving DecidableEq, Repr

/-- A row of `auth_sessions` -/
structure AuthSession where
  id : ℕ
  token : String
  expiresAt : ℕ
  lastUsedAt : ℕ
deriving DecidableEq, Repr

inductive Method where
  | session | basic
deriving DecidableEq, Repr

structure Principal where
  username : String
  method : Method
  sessionId : Option ℕ := none
deriving DecidableEq, Repr

structure CachedSession where
  epoch : ℕ
  checkedAt : ℕ
  expiresAt : ℕ
  sessionId : ℕ
deriving DecidableEq, Repr

/-- A verified header; `version` is that of the account it was verified against. -/
structure CachedBasic where
  epoch : ℕ
  checkedAt : ℕ
  username : String
  version : ℕ
deriving DecidableEq, Repr

inductive Outcome where
  | pending
  | result (principal : Option Principal)
  | cancelled
deriving DecidableEq, Repr

/-- The future of a lookup; `hit` tells whether the lookup has read a row. -/
structure Lookup where
  token : String
  outcome : Outcome := .pending
  hit : Bool := false
deriving DecidableEq, Repr

/-- A call that has returned. `guarded`: an account was set before the call began and not cleared
since; `revoked`: the row of the token had been deleted; `floor`: the newest account that had been
set or cleared. -/
inductive Call where
  | signIn (guarded : Bool) (required : Bool)
  | session (revoked : Bool) (principal : Option Principal)
  | basic (header : String) (floor : ℕ) (principal : Option Principal)
deriving DecidableEq, Repr

end Data

section Stores

variable {α : Type}

/-- A bounded `dict` -/
abbrev Store (α : Type) : Type := List (String × α)

def maxCachedSessions : ℕ := 512

def Store.pop (store : Store α) (key : String) : Store α := store.filter fun entry => entry.1 ≠ key

def remember (store : Store α) (key : String) (value : α) : Store α :=
  if maxCachedSessions ≤ store.length then [(key, value)] else (key, value) :: Store.pop store key

end Stores

section World

/-- The two tables, the state of the module and what the calls have answered. The last block of
fields is a record of the run that no call reads. -/
structure World where
  account : Option Account
  sessions : List AuthSession := []
  requireLogin : Bool := true
  now : ℕ := 0
  wall : ℕ := 0
  sessionEpoch : ℕ := 0
  credentialEpoch : ℕ := 0
  sessionCache : Store CachedSession := []
  sessionMissing : Store (ℕ × ℕ) := []
  inflight : Store ℕ := []
  futures : List Lookup := []
  lastUsedWritten : List (ℕ × ℕ) := []
  basicCache : Store CachedBasic := []
  basicRejected : Store (ℕ × ℕ) := []
  credentialUsername : Option String := none
  credentialLoaded : Bool := false
  credentialLock : Option ℕ := none
  credentialRecheckedAt : ℕ := 0
  -- The account after each commit
  history : List (Option Account)
  -- The newest commit that left no account
  broken : ℕ := 0
  -- The newest commit whose answer was published, and the newest whose call has returned
  published : ℕ := 0
  returned : ℕ := 0
  -- The tasks that have still to publish what they read or cleared, with the version of it
  pending : List (ℕ × ℕ) := []
  -- A name was published after that of a later account.
  overtaken : Bool := false
  -- An account that was read before a commit replaced the answer of that commit.
  replaced : Bool := false
  -- The tokens that were issued, and those that a call has revoked
  issued : List String := []
  revoked : List String := []
  -- The tasks that have found a row and still have to store it, and those that verify a header
  storing : List (ℕ × String) := []
  verifying : List (ℕ × ℕ) := []
  -- A revocation went between a read and what was stored of it.
  straddled : Bool := false
  calls : List Call := []

def World.version (w : World) : ℕ := w.history.length

def cacheTtl : ℕ := 60
def negativeTtl : ℕ := 30
def lastUsedRefresh : ℕ := 300
def misconfiguredRecheck : ℕ := 30

variable (i : ℕ) (w : World)

def World.guarded : Bool := w.requireLogin && decide (w.broken < w.returned)

def World.record (call : Call) : World := { w with calls := call :: w.calls }

def World.commitAccount (account : Option Account) : World :=
  { w with
    account := account
    history := account :: w.history
    broken := if account.isNone then max w.broken (w.history.length + 1) else w.broken }

def World.bumpSessions : World :=
  { w with
    sessionEpoch := w.sessionEpoch + 1
    sessionCache := []
    sessionMissing := []
    lastUsedWritten := []
    futures := w.futures.mapIdx fun future lookup =>
      if lookup.outcome = .pending && (w.inflight.any fun entry => entry.2 = future) then
        { lookup with outcome := .cancelled }
      else lookup
    inflight := [] }

def World.bumpCredential : World :=
  World.bumpSessions
    { w with credentialEpoch := w.credentialEpoch + 1, basicCache := [], basicRejected := [] }

-- A call that deleted the rows of `tokens` bumps the epoch and returns.
def World.revoke (tokens : List String) : World :=
  { w with
    revoked := tokens ++ w.revoked
    straddled := w.straddled || w.storing.any fun entry => entry.2 ∈ tokens }

end World

section Credential

variable (i : ℕ)

def acquire : Routine World Unit :=
  block fun w => if w.credentialLock.isNone then [((), { w with credentialLock := some i })] else []

def World.readAccount (w : World) : (Option Account × ℕ) × World :=
  ((w.account, w.version), { w with pending := (i, w.version) :: w.pending })

-- The answer is published over that of the commits up to `version`.
def World.publish (w : World) (found : Option String) (version : ℕ) : World :=
  { w with
    credentialUsername := found
    replaced := w.replaced || decide (version < w.published)
    pending := w.pending.filter fun entry => entry.1 ≠ i }

def World.release (w : World) : World := { w with credentialLock := none }

def World.loaded (w : World) : World :=
  World.bumpCredential
    { w.release with credentialLoaded := true, credentialRecheckedAt := w.now }

def ensureCredentialLoaded : Routine World Unit := do
  if ← read (·.credentialLoaded) then pure ()
  else
    acquire i
    if ← read (·.credentialLoaded) then modify World.release
    else
      let found ← atomic (World.readAccount i)
      modify fun w => w.publish i (found.1.map (·.username)) found.2
      modify World.loaded

def World.due (w : World) : Bool × World :=
  if w.now - w.credentialRecheckedAt < misconfiguredRecheck then (false, w.release)
  else (true, { w with credentialRecheckedAt := w.now })

def World.reload (w : World) (found : Option String) (version : ℕ) : World :=
  if found = w.credentialUsername then
    { w.release with pending := w.pending.filter fun entry => entry.1 ≠ i }
  else (w.release.publish i found version).bumpCredential

def recheckCredential : Routine World Unit := do
  if ← read fun w => decide (w.now - w.credentialRecheckedAt < misconfiguredRecheck) then pure ()
  else
    acquire i
    if ← atomic World.due then
      let found ← atomic (World.readAccount i)
      modify fun w => w.reload i (found.1.map (·.username)) found.2
    else pure ()

-- `sign_in_required`; the answer is recorded.
def signInRequired : Routine World Unit := do
  let began ← read fun w => (w.requireLogin, w.guarded)
  if began.1 then
    ensureCredentialLoaded i
    recheckCredential i
    modify fun w => w.record
      (.signIn (began.2 && decide (w.broken < w.returned)) w.credentialUsername.isSome)
  else modify fun w => w.record (.signIn began.2 false)

-- The checks of `set_credential`, on the name in its canonical spelling
def validCredential (isSpace : Char → Bool) (name password : String) : Bool :=
  name ≠ "" && name.length ≤ 128 && !(name.toList.any fun ch => isSpace ch || ch.toNat < 0x20) &&
    12 ≤ password.length && password.length ≤ 1024

def World.setAccount (w : World) (name password : String) : (List String × ℕ) × World :=
  ((w.sessions.map (·.token), w.version + 1),
    { w.commitAccount (some ⟨name, password, false⟩) with
      sessions := []
      straddled := w.straddled || !w.verifying.isEmpty })

def World.setPublished (w : World) (name : String) (committed : List String × ℕ) : World :=
  World.bumpCredential { w.revoke committed.1 with
    credentialUsername := some name
    credentialLoaded := true
    overtaken := w.overtaken || w.pending.any fun entry => entry.2 < committed.2
    published := max w.published committed.2
    returned := max w.returned committed.2 }

def setCredential (normalise : String → String) (isSpace : Char → Bool)
    (username password : String) : Routine World Unit := do
  let name := normalise username
  if validCredential isSpace name password then
    let committed ← atomic fun w => w.setAccount name password
    modify fun w => w.setPublished name committed
  else pure ()

def World.clearAccount (w : World) : (List String × ℕ) × World :=
  ((w.sessions.map (·.token), w.version + 1),
    { w.commitAccount none with
      sessions := []
      pending := (i, w.version + 1) :: w.pending
      straddled := w.straddled || !w.verifying.isEmpty })

def World.clearPublished (w : World) (committed : List String × ℕ) : World :=
  World.bumpCredential
    { (w.revoke committed.1).publish i none committed.2 with
      credentialLoaded := true
      returned := max w.returned committed.2 }

def clearCredential : Routine World Unit := do
  let committed ← atomic (World.clearAccount i)
  modify fun w => w.clearPublished i committed
  modify fun w => { w with requireLogin := false }

end Credential

section Sessions

variable (i : ℕ)

/-- What `resolve_session` does next. -/
inductive Plan where
  | answer (principal : Option Principal)
  | join (future : ℕ)
  | load (future : ℕ) (username : String) (wall now : ℕ)
deriving DecidableEq, Repr

def World.ask (w : World) (token username : String) : Plan × World :=
  match w.inflight.lookup token with
  | some future => (.join future, w)
  | none =>
    (.load w.futures.length username w.wall w.now,
      { w with
        inflight := (token, w.futures.length) :: w.inflight
        futures := w.futures ++ [{ token := token }] })

def World.askMissing (w : World) (token username : String) : Plan × World :=
  match w.sessionMissing.lookup token with
  | none => w.ask token username
  | some (epoch, seenAt) =>
    if epoch = w.sessionEpoch && w.now - seenAt < negativeTtl then (.answer none, w)
    else World.ask { w with sessionMissing := w.sessionMissing.pop token } token username

def World.lookUp (w : World) (token : String) : Plan × World :=
  match w.credentialUsername with
  | none => (.answer none, w)
  | some username =>
    match w.sessionCache.lookup token with
    | none => w.askMissing token username
    | some cached =>
      if cached.epoch ≠ w.sessionEpoch then
        World.askMissing { w with sessionCache := w.sessionCache.pop token } token username
      else if cached.expiresAt ≤ w.wall then
        (.answer none, { w with sessionCache := w.sessionCache.pop token })
      else if w.now - cached.checkedAt < cacheTtl then
        (.answer (some ⟨username, .session, some cached.sessionId⟩), w)
      else w.askMissing token username

def setFuture (futures : List Lookup) (future : ℕ) (change : Lookup → Lookup) : List Lookup :=
  futures.modify future change

def World.readSession (w : World) (token : String) (future wall : ℕ) :
    Option AuthSession × World :=
  match w.sessions.find? fun row => row.token = token && wall < row.expiresAt with
  | none => (none, w)
  | some row =>
    (some row, { w with
      storing := (i, token) :: w.storing
      futures := setFuture w.futures future fun lookup => { lookup with hit := true } })

def World.storeSession (w : World) (token : String) (now : ℕ) (row : AuthSession) : World :=
  { w with
    sessionCache := remember w.sessionCache token ⟨w.sessionEpoch, now, row.expiresAt, row.id⟩
    storing := w.storing.filter fun entry => entry.1 ≠ i }

def loadSession (token username : String) (future wall now : ℕ) :
    Routine World (Option Principal) := do
  match ← atomic fun w => w.readSession i token future wall with
  | none =>
    modify fun w => { w with
      sessionCache := w.sessionCache.pop token
      sessionMissing := remember w.sessionMissing token (w.sessionEpoch, now) }
    return none
  | some row =>
    let touch ← atomic fun w =>
      let w := w.storeSession i token now row
      if lastUsedRefresh < wall - row.lastUsedAt &&
          lastUsedRefresh < now - (w.lastUsedWritten.lookup row.id).getD 0 then
        (true, { w with lastUsedWritten := (row.id, now) :: w.lastUsedWritten })
      else (false, w)
    if touch then
      modify fun w => { w with
        sessions := w.sessions.map fun other =>
          if other.id = row.id then { other with lastUsedAt := wall } else other }
      return some ⟨username, .session, some row.id⟩
    else return some ⟨username, .session, some row.id⟩

def World.finish (w : World) (token : String) (future : ℕ) (revoked : Bool)
    (principal : Option Principal) : World :=
  let w' := { w with inflight := w.inflight.pop token }
  if (w.futures[future]?.map (·.outcome)) = some .pending then
    World.record
      { w' with futures := setFuture w.futures future fun lookup =>
          { lookup with outcome := .result principal } }
      (.session revoked principal)
  else w'

def awaitFuture (future : ℕ) (revoked : Bool) : Routine World Unit :=
  block fun w =>
    match w.futures[future]? with
    | none => []
    | some lookup =>
      match lookup.outcome with
      | .pending => []
      | .result principal => [((), w.record (.session revoked principal))]
      | .cancelled => [((), w)]

-- `resolve_session`; the answer is recorded.
def resolveSession (token : String) : Routine World Unit := do
  let revoked ← read fun w => decide (token ∈ w.revoked)
  if token = "" then modify fun w => w.record (.session revoked none)
  else
    ensureCredentialLoaded i
    match ← atomic fun w => w.lookUp token with
    | .answer principal => modify fun w => w.record (.session revoked principal)
    | .join future => awaitFuture future revoked
    | .load future username wall now =>
      let principal ← loadSession i token username future wall now
      modify fun w => w.finish token future revoked principal

def World.deleteSessions (w : World) (keep : AuthSession → Bool) : List String × World :=
  ((w.sessions.filter fun row => !keep row).map (·.token),
    { w with sessions := w.sessions.filter keep })

-- `revoke_session`, `revoke_session_id` and `revoke_all_sessions`
def revokeSessions (keep : AuthSession → Bool) : Routine World Unit := do
  let tokens ← atomic fun w => w.deleteSessions keep
  modify fun w => (w.revoke tokens).bumpSessions

def revokeSession (token : String) : Routine World Unit :=
  if token = "" then pure () else revokeSessions fun row => row.token ≠ token

def revokeSessionId (sessionId : ℕ) : Routine World Unit :=
  revokeSessions fun row => row.id ≠ sessionId

def revokeAllSessions (keepSessionId : Option ℕ) : Routine World Unit :=
  revokeSessions fun row => some row.id = keepSessionId

end Sessions

section Basic

structure Headers where
  isBasic : String → Bool
  decode : String → Option (String × String)
  normalise : String → String

variable (headers : Headers) (i : ℕ)

def Account.accepts (account : Account) (username password : String) : Bool :=
  account.password = password && headers.normalise username = account.username

def World.readVerified (w : World) : (Option Account × ℕ) × World :=
  ((w.account, w.version), { w with verifying := (i, w.version) :: w.verifying })

-- `verify_credential`, with the version of the account
def verifyCredential (username password : String) : Routine World (Bool × ℕ) := do
  let (found, version) ← atomic (World.readVerified i)
  match found with
  | none => return (false, version)
  | some account =>
    -- the derivation
    modify id
    if account.accepts headers username password then
      if account.needsRehash then
        modify id
        modify fun w => { w with
          account := w.account.map fun stored =>
            { stored with password := password, needsRehash := false } }
        return (true, version)
      else return (true, version)
    else return (false, version)

def World.lookUpRejected (w : World) (header : String) : Option (Option Principal) × World :=
  match w.basicRejected.lookup header with
  | some (epoch, seenAt) =>
    if epoch = w.credentialEpoch && w.now - seenAt < cacheTtl then (some none, w)
    else (none, { w with basicRejected := w.basicRejected.pop header })
  | none => (none, w)

-- What `resolve_basic` finds in its caches
def World.lookUpBasic (w : World) (header : String) :
    Option (Option Principal) × World :=
  match w.basicCache.lookup header with
  | some hit =>
    if hit.epoch = w.credentialEpoch && w.now - hit.checkedAt < cacheTtl then
      (some (some ⟨hit.username, .basic, none⟩), w)
    else World.lookUpRejected { w with basicCache := w.basicCache.pop header } header
  | none => w.lookUpRejected header

def World.lookUpAccount (w : World) (header : String) : Option (Option Principal) × World :=
  if w.credentialUsername.isNone then (some none, w) else w.lookUpBasic header

def World.verified (w : World) : World :=
  { w with verifying := w.verifying.filter fun entry => entry.1 ≠ i }

def World.accept (w : World) (header username : String) (floor now version : ℕ) : World :=
  let resolved := w.credentialUsername.getD username
  World.record
    { (w.verified i) with
      basicCache := remember w.basicCache header ⟨w.credentialEpoch, now, resolved, version⟩ }
    (.basic header floor (some ⟨resolved, .basic, none⟩))

def World.reject (w : World) (header : String) (floor now : ℕ) : World :=
  World.record
    { (w.verified i) with
      basicRejected := remember w.basicRejected header (w.credentialEpoch, now) }
    (.basic header floor none)

-- `resolve_basic`; the answer is recorded.
def resolveBasic (header : String) : Routine World Unit := do
  let floor ← read (·.returned)
  let answer (principal : Option Principal) : Routine World Unit :=
    modify fun w => w.record (.basic header floor principal)
  if !headers.isBasic header then answer none
  else
    ensureCredentialLoaded i
    let now ← read (·.now)
    match ← atomic fun w => w.lookUpAccount header with
    | some principal => answer principal
    | none =>
      match headers.decode header with
      | none => answer none
      | some (username, password) =>
        -- the throttle lets the call on, or not
        if ← block fun w => [(true, w), (false, w)] then
          let verified ← verifyCredential headers i username password
          modify fun w =>
            if verified.1 then w.accept i header username floor now verified.2
            else w.reject i header floor now
        else answer none

end Basic

section Service

/-- Time passes, sessions are issued with tokens of their own and expire, the switch is set, and
the recovery command deletes the account. -/
inductive Surroundings : World → World → Prop
  | passes (w : World) (now wall : ℕ) : w.now ≤ now → w.wall ≤ wall →
      Surroundings w { w with now := now, wall := wall }
  | issues (w : World) (row : AuthSession) : row.token ∉ w.issued →
      Surroundings w
        { w with sessions := row :: w.sessions, issued := row.token :: w.issued }
  | expires (w : World) :
      Surroundings w { w with sessions := w.sessions.filter fun row => w.wall < row.expiresAt }
  | switches (w : World) (requireLogin : Bool) :
      Surroundings w { w with requireLogin := requireLogin }
  | recovers (w : World) : Surroundings w { w.commitAccount none with sessions := [] }

variable (headers : Headers) (isSpace : Char → Bool)

/-- The calls of task `i` -/
inductive Calls (i : ℕ) : Routine World Unit → Prop
  | signInRequired : Calls i (signInRequired i)
  | ensureCredentialLoaded : Calls i (ensureCredentialLoaded i)
  | recheckCredential : Calls i (recheckCredential i)
  | setCredential (username password : String) :
      Calls i (setCredential headers.normalise isSpace username password)
  | clearCredential : Calls i (clearCredential i)
  | resolveSession (token : String) : Calls i (resolveSession i token)
  | resolveBasic (header : String) : Calls i (resolveBasic headers i header)
  | revokeSession (token : String) : Calls i (revokeSession token)
  | revokeSessionId (sessionId : ℕ) : Calls i (revokeSessionId sessionId)
  | revokeAllSessions (keepSessionId : Option ℕ) : Calls i (revokeAllSessions keepSessionId)

def Service : Tasks World → Tasks World → Prop :=
  Tasks.Step Surroundings (Calls headers isSpace)

end Service

end DashcamStats.Auth
