import DashcamStats.Library.Routine
import DashcamStats.Settings.Coercion

namespace DashcamStats.Settings

open Strings (strip)
open Routine (block atomic)

abbrev Values := String → Option Raw

/-- A row of `app_settings`: the key and the value -/
abbrev Row := String × Raw

section Cache

variable (host : Host)

def defaultTimezone : Text :=
  let name := strip (host.tz.getD [])
  if name = [] then HISTORICAL_TIMEZONE
  else if host.zoneKnown name then name
  else HISTORICAL_TIMEZONE

def effectiveDefault (defn : SettingDef) : Raw :=
  if defn.key = "general.footage_dir" then
    match coercePath host defn (.str host.footageDir) with
    | .ok value => value
    | .error _ => defn.default
  else if defn.key = "general.timezone" then .str (defaultTimezone host)
  else defn.default

def baseDefaults : Values := fun key => (settingByKey key).map (effectiveDefault host)

structure Built where
  values : Values
  explicit : String → Bool
  unknown : List String

def buildRow (built : Built) (row : Row) : Except Refusal Built :=
  match settingByKey row.1 with
  | none => .ok { built with unknown := built.unknown ++ [row.1] }
  | some defn =>
    match coerceSetting host defn row.2 with
    | .ok value => .ok { built with
        values := Function.update built.values row.1 (some value)
        explicit := Function.update built.explicit row.1 true }
    | .error (.validation _) => .ok built
    | .error .overflow => .error .overflow

def buildCache (rows : List Row) : Except Refusal Built :=
  rows.foldlM (buildRow host) ⟨baseDefaults host, fun _ => false, []⟩

-- `dict.update`
def updateAll (cache : Values) (entries : List Row) : Values := fun key =>
  match entries.lookup key with
  | some value => some value
  | none => cache key

def changedEntries (cache : Values) (entries : List Row) : List Row :=
  entries.filter fun entry => cache entry.1 ≠ some entry.2

end Cache

section State

structure Batch where
  before : Values
  after : Values
  baseline : Bool

def Batch.moved (batch : Batch) : Bool :=
  !batch.baseline && SETTINGS.any fun defn => batch.before defn.key ≠ batch.after defn.key

/-- What only changes under the write lock; `torn` says whether a call was interrupted when its
transaction had changed the table. -/
structure Core where
  rows : List Row
  cache : Values
  explicit : String → Bool
  loaded : Bool
  torn : Bool

structure World extends Core where
  version : ℕ
  lock : Option ℕ
  -- Which events are set
  events : List Bool
  changeEvent : ℕ
  -- The calls of `wait_for_change` that wait: what they were asked and for which event
  waiters : List (ℕ × ℕ)
  batches : List Batch

def World.start (host : Host) (rows : List Row) : World where
  rows := rows
  cache := baseDefaults host
  explicit := fun _ => false
  loaded := false
  torn := false
  version := 0
  lock := none
  events := [false]
  changeEvent := 0
  waiters := []
  batches := []

def World.bump (w : World) : World :=
  { w with
    version := w.version + 1
    events := w.events.set w.changeEvent true ++ [false]
    changeEvent := w.events.length }

def World.adopt (w : World) (cache : Values) (explicit : String → Bool) (changed : List Row) :
    World :=
  let adopted := { w with
    cache := cache
    explicit := explicit
    loaded := w.loaded
    batches := ⟨w.cache, cache, false⟩ :: w.batches }
  if changed = [] then adopted else adopted.bump

def World.load (w : World) (built : Built) (changed : List Row) : World :=
  let adopted := { w with
    cache := built.values
    explicit := built.explicit
    loaded := true
    batches := ⟨w.cache, built.values, !w.loaded⟩ :: w.batches }
  if changed = [] then adopted else adopted.bump

def World.release (w : World) : World := { w with lock := none }

end State

section Calls

inductive Reply where
  | stored (values : List Row)
  | moved (count : ℕ)
  | refused (refusal : Refusal)
  | interrupted

variable (host : Host) (i : ℕ)

def acquire : Routine World Bool :=
  block fun w => (if w.lock = none then [(true, { w with lock := some i })] else []) ++ [(false, w)]

def awaited : Routine World Bool := block fun w => [(true, w), (false, w)]

-- `session.commit()` and the close of the session
def commit (change : List Row → List Row) : Routine World Bool :=
  block fun w =>
    [(true, { w with rows := change w.rows }), (false, w),
      (false, { w with
        rows := change w.rows
        torn := w.torn || decide (change w.rows ≠ w.rows) })]

-- `async with self._write_lock`, whose body ends in a block without an await
def locked {α : Type} (work : Routine World (Option α)) (publish : α → World → Reply × World) :
    Routine World Reply := do
  if ← acquire i then
    match ← work with
    | some result => atomic fun w => ((publish result w).1, (publish result w).2.release)
    | none => atomic fun w => (.interrupted, w.release)
  else pure .interrupted

def coerceEntry (configured internal : Bool) (entry : Row) : Except Refusal Row :=
  match settingByKey entry.1 with
  | none => .error (.validation entry.1)
  | some defn =>
    if defn.readOnly && !internal then .error (.validation entry.1)
    else do
      let value ← coerceSetting host defn entry.2
      -- `_require_account_before_sign_in`
      if entry.1 = "security.require_login" && value = .bool true && !configured then
        .error (.validation entry.1)
      else return (entry.1, value)

def coerceAll (configured internal : Bool) (values : List Row) : Except Refusal (List Row) :=
  values.mapM (coerceEntry host configured internal)

def upsert : List Row → Row → List Row
  | [], entry => [entry]
  | row :: rest, entry =>
    if row.1 = entry.1 then entry :: rest else row :: upsert rest entry

-- One `session.get` a key
def getRows : List Row → Routine World Bool
  | [] => pure true
  | _ :: rest => do
    if ← awaited then getRows rest else pure false

def publishMany (coerced : List Row) (w : World) : Reply × World :=
  (.stored coerced,
    w.adopt (updateAll w.cache coerced) (fun key => w.explicit key || coerced.any (·.1 = key))
      (changedEntries w.cache coerced))

-- `configured` is what `credential_configured` answers.
def setMany (configured : Bool) (values : List Row) (internal : Bool) : Routine World Reply :=
  match coerceAll host configured internal values with
  | .error refusal => pure (.refused refusal)
  | .ok [] => pure (.stored [])
  | .ok coerced =>
    locked i
      (do
        if ← getRows coerced then
          if ← commit fun rows => coerced.foldl upsert rows then pure (some ()) else pure none
        else pure none)
      fun _ => publishMany coerced

def set (configured : Bool) (key : String) (value : Raw) (internal : Bool) : Routine World Reply :=
  setMany host i configured [(key, value)] internal

def defaultEntries (wanted : List String) : List Row :=
  wanted.filterMap fun key => (settingByKey key).map fun defn => (key, effectiveDefault host defn)

def publishDefaults (wanted : List String) (w : World) : Reply × World :=
  (.stored (defaultEntries host wanted),
    w.adopt (updateAll w.cache (defaultEntries host wanted))
      (fun key => w.explicit key && !wanted.contains key)
      (changedEntries w.cache (defaultEntries host wanted)))

def resetMany (keys : List String) : Routine World Reply :=
  let wanted := keys.eraseDups
  match wanted.find? fun key => (settingByKey key).isNone with
  | some key => pure (.refused (.validation key))
  | none =>
    if wanted = [] then pure (.stored [])
    else
      locked i
        (do
          if ← awaited then
            if ← commit fun rows => rows.filter fun row => !wanted.contains row.1 then
              pure (some ())
            else pure none
          else pure none)
        fun _ => publishDefaults host wanted

def reset (key : String) : Routine World Reply := resetMany host i [key]

def resetAll : Routine World Reply := resetMany host i (SETTINGS.map (·.key))

def items (values : Values) : List Row :=
  SETTINGS.filterMap fun defn => (values defn.key).map fun value => (defn.key, value)

def publishTable (rows : List Row) (w : World) : Reply × World :=
  match buildCache host rows with
  | .error refusal => (.refused refusal, w)
  | .ok built =>
    let changed := if w.loaded then changedEntries w.cache (items built.values) else []
    (.moved changed.length, w.load built changed)

def reload : Routine World Reply :=
  locked i (block fun w => [(some w.rows, w), (none, w)]) (publishTable host)

end Calls

section System

structure Mapping where
  entries : List Row
  nodup : (entries.map Prod.fst).Nodup

inductive Call where
  | setMany (configured : Bool) (values : Mapping) (internal : Bool)
  | resetMany (keys : List String)
  | reload

def Call.run (host : Host) (i : ℕ) : Call → Routine World Reply
  | .setMany configured values internal =>
    Settings.setMany host i configured values.entries internal
  | .resetMany keys => Settings.resetMany host i keys
  | .reload => Settings.reload host i

/-- The calls of `wait_for_change` -/
inductive Waits : World → World → Prop
  | blocks {w : World} (since : ℕ) (low : w.version ≤ since) :
      Waits w { w with waiters := (since, w.changeEvent) :: w.waiters }
  | waitsAgain {w : World} (waiter : ℕ × ℕ) (mem : waiter ∈ w.waiters)
      (isSet : w.events[waiter.2]? = some true) (low : w.version ≤ waiter.1) :
      Waits w { w with waiters := (waiter.1, w.changeEvent) :: w.waiters.erase waiter }
  | returns {w : World} (waiter : ℕ × ℕ) (mem : waiter ∈ w.waiters)
      (isSet : w.events[waiter.2]? = some true) (high : waiter.1 < w.version) :
      Waits w { w with waiters := w.waiters.erase waiter }
  | gives_up {w : World} (waiter : ℕ × ℕ) (mem : waiter ∈ w.waiters) :
      Waits w { w with waiters := w.waiters.erase waiter }

def Programs (host : Host) (allowed : Call → Prop) (i : ℕ) (program : Routine World Unit) :
    Prop :=
  ∃ call, allowed call ∧ program = (call.run host i >>= fun _ => pure ())

abbrev Step (host : Host) (allowed : Call → Prop) : Tasks World → Tasks World → Prop :=
  Tasks.Step Waits (Programs host allowed)

end System

end DashcamStats.Settings
