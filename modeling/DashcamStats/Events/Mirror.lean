import Mathlib.Order.Lattice.Nat
import DashcamStats.Library.Table

namespace DashcamStats.Events

abbrev Time := ℤ

/-- `ValidatedLoggerEvent`, as far as the store reads it. -/
structure LoggerEvent where
  sequence : ℕ
  occurredAt : Time
  deriving DecidableEq

/-- A row of `OBDLoggerEvent`. -/
structure EventRow where
  id : ℕ
  sourceIdHash : String
  sequence : ℕ
  occurredAt : Time
  deriving DecidableEq

-- `uq_obd_logger_event_source_sequence`
def EventRow.identity (row : EventRow) : String × ℕ := (row.sourceIdHash, row.sequence)

abbrev Mirror := Table EventRow EventRow.identity

def maxServerEvents : ℕ := 50000

-- `timedelta(days=SERVER_RETENTION_DAYS)`
def serverRetention : Time := 90 * 86400 * 1000000

-- `order_by(occurred_at.asc(), id.asc())`
def older (a b : EventRow) : Prop :=
  a.occurredAt < b.occurredAt ∨ a.occurredAt = b.occurredAt ∧ a.id ≤ b.id

instance (a b : EventRow) : Decidable (older a b) := inferInstanceAs (Decidable (_ ∨ _))

namespace Mirror

variable (mirror : Mirror)

-- The ids that the second delete of `_prune_server_events` selects.
def victims : List ℕ :=
  ((mirror.rows.insertionSort older).take (mirror.rows.length - maxServerEvents)).map EventRow.id

-- `_prune_server_events`
def prune (now : Time) : Mirror :=
  let recent := mirror.filter fun row => now - serverRetention ≤ row.occurredAt
  recent.filter fun row => row.id ∉ victims recent

def nextId : ℕ := (mirror.rows.map EventRow.id).foldr max 0 + 1

def insertEvent (source : String) (event : LoggerEvent) : Mirror × ℕ :=
  match found : mirror.find? (source, event.sequence) with
  | some _ => (mirror, 0)
  | none =>
    (mirror.insert ⟨nextId mirror, source, event.sequence, event.occurredAt⟩
      (Table.find?_eq_none.mp found), 1)

def insertEvents (source : String) : Mirror → List LoggerEvent → Mirror × ℕ
  | mirror, [] => (mirror, 0)
  | mirror, event :: events =>
    let (next, inserted) := insertEvent mirror source event
    let (final, rest) := insertEvents source next events
    (final, inserted + rest)

def Stored (source : String) (sequence : ℕ) : Prop :=
  ∃ row ∈ mirror.rows, row.identity = (source, sequence)

instance (source : String) (sequence : ℕ) : Decidable (Stored mirror source sequence) :=
  inferInstanceAs (Decidable (∃ row ∈ mirror.rows, row.identity = (source, sequence)))

def latest (source : String) : Option ℕ :=
  ((mirror.rows.filter fun row => row.sourceIdHash = source).map EventRow.sequence).max?

end Mirror

def sequenceGap : ℕ → List ℕ → ℕ
  | _, [] => 0
  | expected, sequence :: rest =>
    if sequence < expected then sequenceGap expected rest
    else (sequence - expected) + sequenceGap (sequence + 1) rest

/-- What `store_event_snapshot` returns, and the rows it leaves. -/
structure StoreResult where
  mirror : Mirror
  accepted : ℕ
  duplicates : ℕ
  sequenceGap : ℕ

-- `_store_event_snapshot_once`
def storeEventSnapshot (mirror : Mirror) (source : String) (events : List LoggerEvent)
    (now : Time) : StoreResult :=
  let latest := Mirror.latest mirror source
  let (inserted, accepted) := Mirror.insertEvents source mirror events
  let expected := latest.elim 1 (· + 1)
  { mirror := Mirror.prune inserted now
    accepted
    duplicates := events.length - accepted
    sequenceGap := sequenceGap expected (events.map LoggerEvent.sequence) }

/-- The mirror and the journal of one source. The rest is history: what was delivered, and the
sums of what the calls returned. -/
structure World where
  mirror : Mirror
  -- When the events with the sequence numbers 1, 2, .. occurred.
  journal : List Time
  delivered : Finset ℕ
  accepted : ℕ
  gaps : ℕ

def World.empty : World where
  mirror := Table.empty
  journal := []
  delivered := ∅
  accepted := 0
  gaps := 0

inductive Event
  -- The journal assigns the next sequence number.
  | append (occurredAt : Time)
  -- A snapshot with the events from `first` to `last` is stored.
  | deliver (first last : ℕ) (now : Time)
  | deliverEmpty (now : Time)
  -- A snapshot of another source is stored.
  | other (source : String) (events : List LoggerEvent) (now : Time)
  | prune (now : Time)

namespace World

variable (w : World)

def highest : ℕ := w.delivered.sup id

-- The events of the journal from `first` to `last`.
def snapshot (first last : ℕ) : List LoggerEvent :=
  (List.range' first (last + 1 - first)).map fun sequence =>
    ⟨sequence, w.journal.getD (sequence - 1) 0⟩

/-- A snapshot is a suffix of the journal as it was when it was taken, and none is older than
one delivered before. -/
def next (source : String) : Event → Option World
  | .append occurredAt => some { w with journal := w.journal ++ [occurredAt] }
  | .deliver first last now =>
    if 1 ≤ first ∧ first ≤ last ∧ last ≤ w.journal.length ∧ w.highest ≤ last then
      let stored := storeEventSnapshot w.mirror source (w.snapshot first last) now
      some { w with
        mirror := stored.mirror
        delivered := w.delivered ∪ Finset.Icc first last
        accepted := w.accepted + stored.accepted
        gaps := w.gaps + stored.sequenceGap }
    else none
  | .deliverEmpty now =>
    let stored := storeEventSnapshot w.mirror source [] now
    some { w with
      mirror := stored.mirror
      accepted := w.accepted + stored.accepted
      gaps := w.gaps + stored.sequenceGap }
  | .other source' events now =>
    if source' = source then none
    else some { w with mirror := (storeEventSnapshot w.mirror source' events now).mirror }
  | .prune now => some { w with mirror := Mirror.prune w.mirror now }

def step (source : String) (w : World) (e : Event) (w' : World) : Prop :=
  w.next source e = some w'

def never : Finset ℕ := (Finset.Icc 1 w.highest).filter (· ∉ w.delivered)

def CountsExact : Prop := w.accepted = w.delivered.card ∧ w.gaps = w.never.card

/-- The highest delivered event, and every event up to it that the snapshot repeats, is still
in the mirror. -/
def StillStored (source : String) (w : World) : Event → Prop
  | .deliver first _ _ =>
    (w.highest = 0 ∨ Mirror.Stored w.mirror source w.highest) ∧
      ∀ sequence ∈ Finset.Icc first w.highest, Mirror.Stored w.mirror source sequence
  | _ => True

end World

end DashcamStats.Events
