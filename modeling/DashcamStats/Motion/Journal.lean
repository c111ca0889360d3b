import Mathlib.Algebra.Order.Group.Int
import Mathlib.Data.List.Sort
import DashcamStats.Library.Intervals
import DashcamStats.Library.Run

namespace DashcamStats.Motion

abbrev Time := ℤ

def MOTION_MAX_GAP_MS : Time := 10000

def MOTION_RETENTION_MS : Time := 7 * 24 * 60 * 60 * 1000

def MOTION_MAX_ROWS : ℕ := 100000

structure Observation where
  number : ℕ
  wallMs : Time
  deriving DecidableEq

abbrev Gap := Time × Time

inductive Writer where
  | idle
  -- Within the window of `MOTION_BATCH_WINDOW_MS`
  | collecting (batch : List Observation)
  -- In `appendBatch`, with the gaps that were pending
  | appending (batch : List Observation) (gaps : List Gap)
  -- The transaction is over, the gaps are not yet off the list.
  | appended (gaps : List Gap)
  deriving DecidableEq

structure Journal where
  pending : List Observation := []
  pendingGaps : List Gap := []
  failed : Bool := false
  writer : Writer := .idle
  observations : List Observation := []
  coverageGaps : List Gap := []
  -- All that `offer` was ever given, and all that the wall clock showed `appendBatch`
  offered : List Observation := []
  clocks : List Time := []

def hull (a b : Gap) : Gap := (min a.1 b.1, max a.2 b.2)

def mergeFront : List Gap → List Gap
  | a :: b :: rest => hull a b :: rest
  | gaps => gaps

-- `ORDER BY start_ms LIMIT 2`: the two become one row.
def mergeOldest (gaps : List Gap) : List Gap :=
  match gaps.mergeSort fun a b => decide (a.1 ≤ b.1) with
  | a :: b :: rest => rest ++ [hull a b]
  | _ => gaps

def Journal.markGap (j : Journal) (first last : Time) : Journal :=
  let gaps := j.pendingGaps ++ [(first - MOTION_MAX_GAP_MS, last + MOTION_MAX_GAP_MS)]
  { j with
    failed := true
    pendingGaps := mergeFront^[gaps.length - 64] gaps }

def earliest (batch : List Observation) : Time := ((batch.map (·.wallMs)).min?).getD 0

def latest (batch : List Observation) : Time := ((batch.map (·.wallMs)).max?).getD 0

def retained (now : Time) (rows : List Observation) : List Observation :=
  rows.filter fun o => decide (now - MOTION_RETENTION_MS ≤ o.wallMs)

def newest (rows : List Observation) : List Observation := rows.drop (rows.length - MOTION_MAX_ROWS)

def retainedGaps (now : Time) (gaps : List Gap) : List Gap :=
  gaps.filter fun gap => decide (now - MOTION_RETENTION_MS ≤ gap.2)

def compact (gaps : List Gap) : List Gap := mergeOldest^[gaps.length - 1024] gaps

inductive Event where
  | offers (wallMs : Time)
  | receives
  | receivesNext
  -- The batch is full or its time is up.
  | windowEnds
  -- Its time is up after a receive took an element that it did not return.
  | windowTakes
  -- The clock as each of the two deletions reads it
  | commits (now nowGaps : Time)
  | raises
  | removes
  deriving DecidableEq

def Journal.next (j : Journal) : Event → Option Journal
  | .offers wallMs =>
    let value : Observation := ⟨j.offered.length, wallMs⟩
    let j := { j with offered := j.offered ++ [value] }
    some (if j.pending.length < 256 then { j with pending := j.pending ++ [value] }
      else j.markGap wallMs wallMs)
  | .receives => match j.writer, j.pending with
    | .idle, first :: rest => some { j with
        pending := rest
        writer := .collecting [first] }
    | _, _ => none
  | .receivesNext => match j.writer, j.pending with
    | .collecting batch, value :: rest =>
      if batch.length < 128 then some { j with
        pending := rest
        writer := .collecting (batch ++ [value]) }
      else none
    | _, _ => none
  | .windowEnds => match j.writer with
    | .collecting batch => some { j with writer := .appending batch j.pendingGaps }
    | _ => none
  | .windowTakes => match j.writer, j.pending with
    | .collecting batch, _ :: rest =>
      if batch.length < 128 then some { j with
        pending := rest
        writer := .appending batch j.pendingGaps }
      else none
    | _, _ => none
  | .commits now nowGaps => match j.writer with
    | .appending batch gaps => some { j with
        writer := .appended gaps
        observations := newest (retained now (j.observations ++ batch))
        coverageGaps := compact (retainedGaps nowGaps (j.coverageGaps ++ gaps))
        clocks := j.clocks ++ [now, nowGaps] }
    | _ => none
  | .raises => match j.writer with
    | .appending batch _ =>
      some ({ j with writer := .idle }.markGap (earliest batch) (latest batch))
    | _ => none
  | .removes => match j.writer with
    | .appended gaps => some { j with
        writer := .idle
        pendingGaps := j.pendingGaps.filter fun gap => decide (gap ∉ gaps) }
    | _ => none

def Steps (j : Journal) (event : Event) (j' : Journal) : Prop := j.next event = some j'

def Touches (gap : Gap) (first last : Time) : Prop := gap.1 ≤ last ∧ first ≤ gap.2

instance (gap : Gap) (first last : Time) : Decidable (Touches gap first last) :=
  inferInstanceAs (Decidable (_ ∧ _))

-- `readable`: the query does not raise
def Journal.evidenceHealthy (j : Journal) (readable : Bool) (first last : Time) : Bool :=
  if j.pendingGaps.any fun gap => decide (Touches gap first last) then false
  else readable && !j.coverageGaps.any fun gap => decide (Touches gap first last)

end DashcamStats.Motion
