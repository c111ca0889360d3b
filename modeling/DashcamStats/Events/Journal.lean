import Mathlib.Algebra.Ring.Int.Defs
import Mathlib.Algebra.Ring.Nat
import Mathlib.Data.Int.Order.Basic
import Mathlib.Data.List.DropRight
import Mathlib.Logic.Relation

namespace DashcamStats.Journal

@[irreducible] def APP_EVENT_RING_LIMIT : ℕ := 2048

@[irreducible] def APP_EVENT_SNAPSHOT_LIMIT : ℕ := 512

@[irreducible] def APP_EVENT_SNAPSHOT_MAX_BYTES : ℕ := 512 * 1024

-- `APP_EVENT_RETENTION_DAYS`
def RETENTION : ℤ := 7 * 86400 * 10 ^ 9

def TOLERANCE : ℤ := 300 * 10 ^ 9

/-- `valid` tells whether every other field passes its check. -/
structure AppEventDraft where
  occurred : ℤ
  valid : Bool
  deriving DecidableEq

structure Event where
  sequence : ℕ
  draft : AppEventDraft
  deriving DecidableEq

structure Preferences where
  sourceId : Option ℕ
  lastSequence : ℕ
  events : List Event
  deriving DecidableEq

structure Publication where
  events : List Event
  reading : ℤ
  accepted : List Event
  expired : List (Event × ℤ)
  deriving DecidableEq

/-- `expired` has the stored records that an accepted one has removed because of their age, with the
reading of the clock. -/
structure AppEventJournal where
  memory : Preferences
  disk : Preferences
  projectionPending : Bool
  accepted : List Event
  expired : List (Event × ℤ)
  published : List Publication
  deriving DecidableEq

inductive Commit where
  | written
  | failed (kept : Bool)

def isStoredEventValid (event : Event) (cutoff reference : ℤ) : Bool :=
  0 < event.sequence && cutoff ≤ event.draft.occurred &&
    event.draft.occurred ≤ reference + TOLERANCE && event.draft.valid

def distinctBySequence : List Event → List Event
  | [] => []
  | event :: rest =>
    event :: (distinctBySequence rest).filter fun other => other.sequence ≠ event.sequence

def loadStoredEvents (stored : List Event) (reference : ℤ) : List Event :=
  let valid := stored.filter fun event =>
    isStoredEventValid event (reference - RETENTION) reference
  (distinctBySequence (valid.mergeSort fun a b => a.sequence ≤ b.sequence)).rtake
    APP_EVENT_RING_LIMIT

section Snapshot

-- The UTF-8 bytes of a snapshot that was generated at an instant
variable (size : ℤ → List Event → ℕ)

def fit (generatedAt : ℤ) : List Event → List Event
  | [] => []
  | event :: rest =>
    if size generatedAt (event :: rest) ≤ APP_EVENT_SNAPSHOT_MAX_BYTES then event :: rest
    else fit generatedAt rest

def buildSnapshot (retained : List Event) (generatedAt : ℤ) : List Event :=
  fit size generatedAt (retained.rtake APP_EVENT_SNAPSHOT_LIMIT)

end Snapshot

namespace AppEventJournal

def fresh : AppEventJournal := ⟨⟨none, 0, []⟩, ⟨none, 0, []⟩, false, [], [], []⟩

def commit (outcome : Commit) (preferences : Preferences) (s : AppEventJournal) :
    AppEventJournal :=
  match outcome with
  | .written => { s with memory := preferences, disk := preferences }
  | .failed kept => { s with memory := if kept then preferences else s.memory }

def persistentSourceId (uuid : ℕ) (outcome : Commit) (s : AppEventJournal) :
    AppEventJournal × Option ℕ :=
  match s.memory.sourceId, outcome with
  | some stored, _ => (s, some stored)
  | none, .written => (s.commit .written { s.memory with sourceId := some uuid }, some uuid)
  | none, .failed kept => (s.commit (.failed kept) { s.memory with sourceId := some uuid }, none)

def aged (s : AppEventJournal) (reading : ℤ) : List (Event × ℤ) :=
  (s.memory.events.filter (·.draft.occurred < reading - RETENTION)).map (·, reading)

variable (size : ℤ → List Event → ℕ)

def publishAt (retained : List Event) (generatedAt : ℤ) (expired : List (Event × ℤ))
    (s : AppEventJournal) : AppEventJournal :=
  { s with published :=
      ⟨buildSnapshot size retained generatedAt, generatedAt, s.accepted, expired⟩ :: s.published }

def appendDraft (now : ℤ) (draft : AppEventDraft) (uuid : ℕ) (source outcome : Commit)
    (published : Bool) (s : AppEventJournal) : AppEventJournal × Bool :=
  if !draft.valid then (s, false)
  else match s.persistentSourceId uuid source with
    | (s, none) => (s, false)
    | (s, some sourceId) =>
      let loaded := loadStoredEvents s.memory.events now
      let previousSequence := max s.memory.lastSequence ((loaded.getLast?.map (·.sequence)).getD 0)
      if 2 ^ 63 - 1 ≤ previousSequence then (s, false)
      else
        let event : Event := ⟨previousSequence + 1, draft⟩
        let retained := (loaded ++ [event]).rtake APP_EVENT_RING_LIMIT
        let after := s.commit outcome ⟨some sourceId, event.sequence, retained⟩
        match outcome with
        | .failed _ => (after, false)
        | .written =>
          let accepted : AppEventJournal := { after with
            accepted := s.accepted ++ [event]
            expired := s.aged now ++ s.expired
            projectionPending := !published }
          (if published then accepted.publishAt size retained now accepted.expired else accepted,
            true)

def publishSnapshot (now : ℤ) (uuid : ℕ) (source : Commit) (written : Bool)
    (s : AppEventJournal) : AppEventJournal × Bool :=
  match s.persistentSourceId uuid source with
  | (s, none) => ({ s with projectionPending := true }, false)
  | (s, some _) =>
    let retained := loadStoredEvents s.memory.events now
    if written then
      ({ s with projectionPending := false }.publishAt size retained now (s.aged now ++ s.expired),
        true)
    else ({ s with projectionPending := true }, false)

def restart (s : AppEventJournal) : AppEventJournal :=
  { s with memory := s.disk, projectionPending := false }

end AppEventJournal

inductive Operation where
  | append (now : ℤ) (draft : AppEventDraft) (uuid : ℕ) (source outcome : Commit) (published : Bool)
  | publish (now : ℤ) (uuid : ℕ) (source : Commit) (written : Bool)
  | restart

namespace AppEventJournal

variable (size : ℤ → List Event → ℕ)

def perform (operation : Operation) (s : AppEventJournal) : AppEventJournal :=
  match operation with
  | .append now draft uuid source outcome published =>
    (s.appendDraft size now draft uuid source outcome published).1
  | .publish now uuid source written => (s.publishSnapshot size now uuid source written).1
  | .restart => s.restart

def Ordered (s : AppEventJournal) (reading : ℤ) : Prop :=
  (∀ event ∈ s.memory.events, event.draft.occurred ≤ reading + TOLERANCE) ∧
    ∀ event ∈ s.memory.events.dropWhile (·.draft.occurred < reading - RETENTION),
      reading - RETENTION ≤ event.draft.occurred

def Flushed (s : AppEventJournal) : Prop :=
  s.memory.lastSequence = s.disk.lastSequence ∧ s.memory.events = s.disk.events

def Undisturbed (s : AppEventJournal) : Operation → Prop
  | .append now _ _ _ _ _ => s.Flushed ∧ s.Ordered now
  | .publish now _ _ _ => s.Flushed ∧ s.Ordered now
  | .restart => True

def Step (s s' : AppEventJournal) : Prop := ∃ operation, s' = s.perform size operation

def UndisturbedStep (s s' : AppEventJournal) : Prop :=
  ∃ operation, s.Undisturbed operation ∧ s' = s.perform size operation

end AppEventJournal

def Passed (event : Event) (limit accepted : ℕ) (expired : List (Event × ℤ)) : Prop :=
  event.sequence + limit ≤ accepted ∨
    ∃ reading, (event, reading) ∈ expired ∧ event.draft.occurred < reading - RETENTION

/-- A snapshot is a run of the accepted records up to the last one. What it lacks has passed, or it
would be too large from there on. -/
structure Publication.Whole (size : ℤ → List Event → ℕ) (p : Publication) : Prop where
  run : p.events <:+ p.accepted
  absent : ∀ event ∈ p.accepted, event ∉ p.events →
    Passed event APP_EVENT_SNAPSHOT_LIMIT p.accepted.length p.expired ∨
      ∃ rest, event :: rest <:+ p.accepted ∧
        APP_EVENT_SNAPSHOT_MAX_BYTES < size p.reading (event :: rest)

/-- The accepted records are numbered without a gap, and the stored ring and every snapshot are runs
of them up to the last one. -/
structure AppEventJournal.Whole (size : ℤ → List Event → ℕ) (s : AppEventJournal) : Prop where
  numbered : s.accepted.map (·.sequence) = List.range' 1 s.accepted.length
  ring : s.disk.events <:+ s.accepted
  absent : ∀ event ∈ s.accepted, event ∉ s.disk.events →
    Passed event APP_EVENT_RING_LIMIT s.accepted.length s.expired
  published : ∀ p ∈ s.published, p.Whole size

end DashcamStats.Journal
