import DashcamStats.Journeys.OnePath

namespace DashcamStats.Journeys

open Datetime (wholeSecond wholeSecond_whole)

variable {starts : ℤ → Option ℤ} {frontIds : ℤ → Bool}

def InsideClip (items : List Placed) (item : Placed) : Prop :=
  ∃ other ∈ items, other.point.recordingId = item.point.recordingId ∧ other.at_ < item.at_

def KeepsFlags (items : List Placed) (track : List TrackPoint) : Prop :=
  ∀ item ∈ items, item.point.breaksSegment = true → InsideClip items item →
    ∀ p ∈ track, { p with breaksSegment := true } = item.point → p.breaksSegment = true

-- Of the latest second before that of `item`
structure Precedes (items : List Placed) (other item : Placed) : Prop where
  kept : Kept items other
  less : other.second < item.second
  latest : ∀ z ∈ items, z.second < item.second → z.second ≤ other.second

def OwnPredecessors (items : List Placed) : Prop :=
  ∀ x y, Kept items x → x.point.breaksSegment = true → InsideClip items x → Precedes items y x →
    y.point.recordingId = x.point.recordingId

theorem getLast?_iff_precedes {items before after : List Placed} {x y : Placed}
    (split : chooseAll items = before ++ x :: after) :
    before.getLast? = some y ↔ Precedes items y x := by
  have ascending := (chosenAll items).ascending
  rw [split] at ascending
  obtain ⟨early, late, across⟩ := List.pairwise_append.mp ascending
  have inside (z : Placed) (kept : Kept items z) (less : z.second < x.second) : z ∈ before := by
    have member := mem_chooseAll.mpr kept
    rw [split] at member
    obtain member | member := List.mem_append.mp member
    · exact member
    · obtain rfl | member := List.mem_cons.mp member
      · exact absurd less (lt_irrefl _)
      · exact absurd less ((List.pairwise_cons.mp late).1 z member).not_gt
  have kept (z : Placed) (among : z ∈ before) : Kept items z :=
    mem_chooseAll.mp (by rw [split]; exact List.mem_append_left _ among)
  have last (z : Placed) (h : before.getLast? = some z) : Precedes items z x := by
    obtain ⟨front, rfl⟩ := List.getLast?_eq_some_iff.mp h
    have among : z ∈ front ++ [z] := by simp
    refine ⟨kept z among, across z among x List.mem_cons_self, fun w member less => ?_⟩
    obtain ⟨best, found, same⟩ := exists_kept member
    rw [← same]
    obtain earlier | isLast := List.mem_append.mp (inside best found (same ▸ less))
    · exact ((List.pairwise_append.mp early).2.2 best earlier z List.mem_cons_self).le
    · rw [List.mem_singleton.mp isLast]
  refine ⟨last y, fun precedes => ?_⟩
  have nonempty : before ≠ [] := List.ne_nil_of_mem (inside y precedes.kept precedes.less)
  have other := last _ (List.getLast?_eq_some_getLast nonempty)
  have same : (before.getLast nonempty).second = y.second :=
    le_antisymm (precedes.latest _ other.kept.mem other.less)
      (other.latest y precedes.kept.mem precedes.less)
  rw [List.getLast?_eq_some_getLast nonempty, other.kept.unique precedes.kept same]

theorem mem_singleTrack {points : List TelemetryRow} {p : TrackPoint} :
    p ∈ singleTrack starts frontIds points ↔ ∃ before x after,
      chooseAll (placed starts frontIds points) = before ++ x :: after ∧
      p = dropSentinel (before.getLast?.map (·.point.recordingId)) x.point := by
  rw [singleTrack_eq, mem_dropSentinels]
  constructor
  · rintro ⟨before, q, after, split, rfl⟩
    obtain ⟨first, rest, split', rfl, tail⟩ := List.map_eq_append_iff.mp split
    obtain ⟨x, last, rfl, rfl, rfl⟩ := List.map_eq_cons_iff.mp tail
    refine ⟨first, x, last, split', ?_⟩
    rw [Option.or_none, List.getLast?_map, Option.map_map]
    rfl
  · rintro ⟨before, x, after, split, rfl⟩
    refine ⟨before.map (·.point), x.point, after.map (·.point), by simp [split], ?_⟩
    rw [Option.or_none, List.getLast?_map, Option.map_map]
    rfl

theorem ownPredecessors_of_keepsFlags {points : List TelemetryRow}
    (keeps : KeepsFlags (placed starts frontIds points) (singleTrack starts frontIds points)) :
    OwnPredecessors (placed starts frontIds points) := by
  intro x y kept flagged inside precedes
  by_contra differ
  obtain ⟨before, after, split⟩ := List.append_of_mem (mem_chooseAll.mpr kept)
  have last := (getLast?_iff_precedes split).mpr precedes
  have cleared : dropSentinel (before.getLast?.map (·.point.recordingId)) x.point =
      { x.point with breaksSegment := false } := by
    simp [dropSentinel, last, flagged, differ]
  have member := mem_singleTrack.mpr ⟨before, x, after, split, rfl⟩
  rw [cleared] at member
  have flag := keeps x kept.mem flagged inside _ member (by rw [← flagged])
  exact absurd flag Bool.false_ne_true

theorem keeps_flags_iff_own_predecessors {points : List TelemetryRow}
    (unique : (points.map telemetryKey).Nodup) :
    KeepsFlags (placed starts frontIds points) (singleTrack starts frontIds points) ↔
      OwnPredecessors (placed starts frontIds points) := by
  refine ⟨ownPredecessors_of_keepsFlags, fun own item among flagged inside p member same => ?_⟩
  obtain ⟨before, x, after, split, rfl⟩ := mem_singleTrack.mp member
  have kept : Kept (placed starts frontIds points) x :=
    mem_chooseAll.mp (by rw [split]; simp)
  have whole := unflagged_dropSentinel (before.getLast?.map (·.point.recordingId)) x.point
  have alike : x.point.unflagged = item.point.unflagged := by
    rw [← whole, ← same]
    rfl
  -- The row of the point is the one that was flagged.
  have self : x = item :=
    eq_of_key unique kept.mem among (congrArg (·.recordingId) alike)
      (congrArg (·.tOffsetS) alike)
  subst self
  have stays : (before.getLast?.map (·.point.recordingId)).any
      (fun previous => decide (previous ≠ x.point.recordingId)) = false := by
    cases last : before.getLast? with
    | none => rfl
    | some y =>
      have own := own x y kept flagged inside ((getLast?_iff_precedes split).mp last)
      simp [own]
  rw [dropSentinel, stays, Bool.and_false]
  exact flagged

def breakRow (recordingId : ℤ) (second : ℤ) : TelemetryRow :=
  { recordingId
    tOffsetS := some second
    lat := some (-37)
    lon := some 145
    speedKmh := none
    capturedAt := some (second * 1000000)
    breaksSegment := true }

def fillingRows : List TelemetryRow := [breakRow 1 0, breakRow 2 1, breakRow 1 2]

theorem keeps_flags_filling :
    KeepsFlags (placed (fun _ => none) (fun id => decide (id = 1)) fillingRows)
        (singleTrack (fun _ => none) (fun id => decide (id = 1)) fillingRows) ↔
      OwnPredecessors (placed (fun _ => none) (fun id => decide (id = 1)) fillingRows) :=
  keeps_flags_iff_own_predecessors (by decide)

theorem keeps_flags_cleared :
    ¬ KeepsFlags (placed (fun _ => none) (fun id => decide (id = 1)) fillingRows)
      (singleTrack (fun _ => none) (fun id => decide (id = 1)) fillingRows) := by
  intro keeps
  have seconds : (placed (fun _ => none) (fun id => decide (id = 1)) fillingRows).map
      Placed.second = [0, 1, 2] := by
    change [wholeSecond (0 * 1000000), wholeSecond (1 * 1000000), wholeSecond (2 * 1000000)] = _
    rw [wholeSecond_whole (by norm_num), wholeSecond_whole (by norm_num),
      wholeSecond_whole (by norm_num)]
  have ascending : (placed (fun _ => none) (fun id => decide (id = 1)) fillingRows).Pairwise
      (·.second < ·.second) := List.pairwise_map.mp (by rw [seconds]; decide)
  rw [singleTrack_eq, chooseAll_of_ascending ascending] at keeps
  unfold KeepsFlags InsideClip at keeps
  exact absurd keeps (by decide)

end DashcamStats.Journeys
