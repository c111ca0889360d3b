import DashcamStats.Journeys.OnePath
import DashcamStats.Osd.TrackQuality

namespace DashcamStats.Journeys

open Datetime (totalSeconds wholeSecond wholeSecond_whole lt_of_wholeSecond_lt)

open Osd (MAX_ROAD_SPEED_MS)

-- `anchor` and `anchor_time`, with the row they are from
structure Anchor where
  lat : ℚ
  lon : ℚ
  row : TrackPoint

structure Measuring where
  distance : ℚ
  skipped : ℕ
  anchor : Option Anchor
  movingSum : ℚ
  movingCount : ℕ
  anyPoint : Bool

def Measuring.start : Measuring :=
  { distance := 0
    skipped := 0
    anchor := none
    movingSum := 0
    movingCount := 0
    anyPoint := false }

-- What a row is to the walk
inductive Step where
  | unplaced
  | first (to_ : Anchor)
  | broken (to_ : Anchor)
  | skipped
  | counted (start : Anchor) (to_ : Anchor) (step : ℚ)
  | short

def gapS (start stop : TrackPoint) : ℚ := |totalSeconds (stop.at_ - start.at_)|

section

variable (haversineM : ℚ → ℚ → ℚ → ℚ → ℚ) (minMoveM : ℚ)

def judge (anchor : Option Anchor) (row : TrackPoint) : Step :=
  match row.lat, row.lon with
  | some lat, some lon =>
    match anchor with
    | none => .first { lat, lon, row }
    | some anchor =>
      if row.breaksSegment then .broken { lat, lon, row }
      else
        let step := haversineM anchor.lat anchor.lon lat lon
        if MAX_ROAD_SPEED_MS * max 1 (gapS anchor.row row) < step then .skipped
        else if minMoveM ≤ step then .counted anchor { lat, lon, row } step
        else .short
  | _, _ => .unplaced

def Measuring.move (state : Measuring) (row : TrackPoint) : Measuring :=
  match row.speedKmh with
  | some speed =>
    if 1 < speed then
      { state with
        anyPoint := true
        movingSum := state.movingSum + speed
        movingCount := state.movingCount + 1 }
    else { state with anyPoint := true }
  | none => { state with anyPoint := true }

def Measuring.apply (state : Measuring) : Step → Measuring
  | .unplaced => state
  | .first to_ => { state with anchor := some to_ }
  | .broken to_ => { state with anchor := some to_ }
  | .skipped => { state with skipped := state.skipped + 1 }
  | .counted _ to_ step => { state with distance := state.distance + step, anchor := some to_ }
  | .short => state

def Measuring.step (state : Measuring) (row : TrackPoint) : Measuring :=
  (state.move row).apply (judge haversineM minMoveM state.anchor row)

def measureRun (rows : List TrackPoint) : Measuring :=
  rows.foldl (Measuring.step haversineM minMoveM) .start

def measure (rows : List TrackPoint) : Option ℚ × Option ℚ :=
  let state := measureRun haversineM minMoveM rows
  if state.anyPoint then
    (some state.distance,
      some (if state.movingCount = 0 then 0 else state.movingSum / state.movingCount))
  else (none, none)

def judged : Measuring → List TrackPoint → List (TrackPoint × Step)
  | _, [] => []
  | state, row :: rest =>
    (row, judge haversineM minMoveM state.anchor row) ::
      judged (state.step haversineM minMoveM row) rest

structure CountedLeg where
  start : TrackPoint
  stop : TrackPoint

def legOf (entry : TrackPoint × Step) : Option CountedLeg :=
  match entry.2 with
  | .counted start _ _ => some { start := start.row, stop := entry.1 }
  | _ => none

def skippedOf (entry : TrackPoint × Step) : Option TrackPoint :=
  match entry.2 with
  | .skipped => some entry.1
  | _ => none

def countedLegs (rows : List TrackPoint) : List CountedLeg :=
  (judged haversineM minMoveM .start rows).filterMap legOf

def skippedRows (rows : List TrackPoint) : List TrackPoint :=
  (judged haversineM minMoveM .start rows).filterMap skippedOf

end

section

variable {haversineM : ℚ → ℚ → ℚ → ℚ → ℚ} {minMoveM : ℚ}

def Unflagged (row : TrackPoint) : Prop :=
  row.lat.isSome = true → row.lon.isSome = true → row.breaksSegment = false

-- Where the anchor is from: nothing since then broke the line.
structure AnchoredAt (history : List (TrackPoint × Step)) (anchor : Anchor) : Prop where
  ofRow : ∃ before step after, history = before ++ (anchor.row, step) :: after ∧
    step ≠ .skipped ∧ ∀ entry ∈ after, Unflagged entry.1

-- What each judgement of a row says
inductive JudgedAs (anchor : Option Anchor) (row : TrackPoint) : Step → Prop where
  | unplaced (missing : row.lat = none ∨ row.lon = none) : JudgedAs anchor row .unplaced
  | first (to_ : Anchor) (unset : anchor = none) (own : to_.row = row) :
      JudgedAs anchor row (.first to_)
  | broken (to_ : Anchor) (own : to_.row = row) : JudgedAs anchor row (.broken to_)
  | skipped (whole : row.breaksSegment = false) : JudgedAs anchor row .skipped
  | counted (start to_ : Anchor) (step : ℚ) (held : anchor = some start) (own : to_.row = row)
      (whole : row.breaksSegment = false)
      (within : step ≤ MAX_ROAD_SPEED_MS * max 1 (gapS start.row row)) :
      JudgedAs anchor row (.counted start to_ step)
  | short (whole : row.breaksSegment = false) : JudgedAs anchor row .short

theorem judge_as (anchor : Option Anchor) (row : TrackPoint) :
    JudgedAs anchor row (judge haversineM minMoveM anchor row) := by
  unfold judge
  split
  · cases anchor with
    | none => exact .first _ rfl rfl
    | some a =>
      dsimp only
      by_cases flagged : row.breaksSegment = true
      · rw [if_pos flagged]
        exact .broken _ rfl
      · have whole : row.breaksSegment = false := Bool.eq_false_iff.mpr flagged
        rw [if_neg flagged]
        split_ifs with far long
        · exact .skipped whole
        · exact .counted _ _ _ rfl rfl whole (not_lt.mp far)
        · exact .short whole
  · rename_i missing
    refine .unplaced ?_
    cases lat : row.lat with
    | none => exact Or.inl rfl
    | some y =>
      cases lon : row.lon with
      | none => exact Or.inr rfl
      | some x => exact absurd lon (missing y x lat)

theorem move_anchor (state : Measuring) (row : TrackPoint) :
    (state.move row).anchor = state.anchor ∧ (state.move row).distance = state.distance := by
  unfold Measuring.move
  split
  · split_ifs <;> exact ⟨rfl, rfl⟩
  · exact ⟨rfl, rfl⟩

theorem anchoredAt_step {history : List (TrackPoint × Step)} {state : Measuring} {row : TrackPoint}
    (held : ∀ anchor ∈ state.anchor, AnchoredAt history anchor) :
    ∀ anchor ∈ (state.step haversineM minMoveM row).anchor,
      AnchoredAt (history ++ [(row, judge haversineM minMoveM state.anchor row)]) anchor := by
  intro anchor new
  have moved := (move_anchor state row).1
  have kept (step : Step) (h : anchor ∈ state.anchor) (whole : Unflagged row) :
      AnchoredAt (history ++ [(row, step)]) anchor := by
    obtain ⟨before, step', after, split, trusted, since⟩ := (held anchor h).ofRow
    refine ⟨before, step', after ++ [(row, step)], by simp [split], trusted, fun entry among => ?_⟩
    obtain among | among := List.mem_append.mp among
    · exact since entry among
    · rw [List.mem_singleton.mp among]
      exact whole
  have here (step : Step) (mine : anchor.row = row) (trusted : step ≠ .skipped) :
      AnchoredAt (history ++ [(row, step)]) anchor :=
    ⟨history, step, [], by rw [mine], trusted, fun entry among => absurd among List.not_mem_nil⟩
  have spec := @judge_as haversineM minMoveM state.anchor row
  rw [Measuring.step] at new
  generalize judge haversineM minMoveM state.anchor row = step at new spec ⊢
  cases spec with
  | unplaced missing =>
    rw [Measuring.apply, moved] at new
    refine kept _ new fun lat lon => ?_
    obtain missing | missing := missing
    · simp [missing] at lat
    · simp [missing] at lon
  | first to_ unset own =>
    obtain rfl := Option.some.inj new
    exact here _ own (by simp)
  | broken to_ own =>
    obtain rfl := Option.some.inj new
    exact here _ own (by simp)
  | skipped whole =>
    rw [Measuring.apply, moved] at new
    exact kept _ new fun _ _ => whole
  | counted start to_ step held own whole within =>
    obtain rfl := Option.some.inj new
    exact here _ own (by simp)
  | short whole =>
    rw [Measuring.apply, moved] at new
    exact kept _ new fun _ _ => whole

theorem judged_counted {history : List (TrackPoint × Step)} {state : Measuring}
    {rows : List TrackPoint} {before later : List (TrackPoint × Step)} {row : TrackPoint}
    {start to_ : Anchor} {step : ℚ} (held : ∀ anchor ∈ state.anchor, AnchoredAt history anchor)
    (split : judged haversineM minMoveM state rows =
      before ++ (row, .counted start to_ step) :: later) :
    AnchoredAt (history ++ before) start ∧ row.breaksSegment = false ∧
      step ≤ MAX_ROAD_SPEED_MS * max 1 (gapS start.row row) := by
  induction rows generalizing history state before with
  | nil => simp [judged] at split
  | cons first rows ih =>
    rw [judged] at split
    cases before with
    | nil =>
      obtain ⟨head, -⟩ := List.cons.inj split
      obtain ⟨rfl, counted⟩ := Prod.mk.inj head
      have spec := @judge_as haversineM minMoveM state.anchor first
      rw [counted] at spec
      cases spec with
      | counted start to_ step anchor own whole within =>
        rw [List.append_nil]
        exact ⟨held start anchor, whole, within⟩
    | cons entry before =>
      obtain ⟨rfl, tail⟩ := List.cons.inj split
      have later := ih (anchoredAt_step held) tail
      simpa using later

theorem judged_rows (state : Measuring) (rows : List TrackPoint) :
    (judged haversineM minMoveM state rows).map (·.1) = rows := by
  induction rows generalizing state with
  | nil => rfl
  | cons row rows ih => rw [judged, List.map_cons, ih]

theorem distance_le (state : Measuring) (rows : List TrackPoint) :
    (rows.foldl (Measuring.step haversineM minMoveM) state).distance ≤
      state.distance + MAX_ROAD_SPEED_MS *
        (((judged haversineM minMoveM state rows).filterMap legOf).map
          fun leg => max 1 (gapS leg.start leg.stop)).sum := by
  induction rows generalizing state with
  | nil => simp [judged]
  | cons row rows ih =>
    have later := ih (state.step haversineM minMoveM row)
    have moved := (move_anchor state row).2
    have spec := @judge_as haversineM minMoveM state.anchor row
    rw [List.foldl_cons, judged]
    refine later.trans ?_
    generalize (judged haversineM minMoveM (state.step haversineM minMoveM row) rows) = rest
    rw [Measuring.step]
    generalize judge haversineM minMoveM state.anchor row = step at spec ⊢
    cases spec with
    | counted start to_ step held own whole within =>
      simp only [Measuring.apply, moved, List.filterMap_cons, legOf, List.map_cons, List.sum_cons]
      linarith
    | _ => simp [Measuring.apply, moved, List.filterMap_cons, legOf]

-- What the distance of a track is made of
structure Measured (haversineM : ℚ → ℚ → ℚ → ℚ → ℚ) (minMoveM : ℚ) (rows : List TrackPoint) :
    Prop where
  bounded : ∀ distance ∈ (measure haversineM minMoveM rows).1, distance ≤ MAX_ROAD_SPEED_MS *
    ((countedLegs haversineM minMoveM rows).map fun leg => max 1 (gapS leg.start leg.stop)).sum
  whole : ∀ leg ∈ countedLegs haversineM minMoveM rows, leg.stop.breaksSegment = false
  trusted : ∀ leg ∈ countedLegs haversineM minMoveM rows,
    leg.start ∉ skippedRows haversineM minMoveM rows
  spans : ∀ leg ∈ countedLegs haversineM minMoveM rows, ∀ row ∈ rows,
    leg.start.at_ < row.at_ → row.at_ < leg.stop.at_ → Unflagged row

theorem leg_of_mem {rows : List TrackPoint} {leg : CountedLeg}
    (h : leg ∈ countedLegs haversineM minMoveM rows) : ∃ before start to_ step later,
      judged haversineM minMoveM .start rows =
        before ++ (leg.stop, .counted start to_ step) :: later ∧
      leg.start = start.row ∧ AnchoredAt before start ∧ leg.stop.breaksSegment = false := by
  obtain ⟨⟨row, step⟩, among, isLeg⟩ := List.mem_filterMap.mp h
  cases step with
  | counted start to_ step =>
    obtain rfl := Option.some.inj isLeg
    obtain ⟨before, later, split⟩ := List.append_of_mem among
    have unset : ∀ anchor ∈ Measuring.start.anchor, AnchoredAt [] anchor :=
      fun anchor h => by simp [Measuring.start] at h
    obtain ⟨anchored, whole, -⟩ := judged_counted unset split
    exact ⟨before, start, to_, step, later, split, rfl, anchored, whole⟩
  | _ => cases isLeg

theorem measured (minMoveM : ℚ) {rows : List TrackPoint}
    (ascending : rows.Pairwise (·.at_ < ·.at_)) : Measured haversineM minMoveM rows := by
  have ordered : (judged haversineM minMoveM .start rows).Pairwise (·.1.at_ < ·.1.at_) := by
    rw [← @judged_rows haversineM minMoveM .start rows] at ascending
    exact (List.pairwise_map (f := Prod.fst)).mp ascending
  refine ⟨fun distance known => ?_, fun leg among => ?_, fun leg among skipped => ?_,
    fun leg among row member after before => ?_⟩
  · have total := @distance_le haversineM minMoveM .start rows
    rw [show Measuring.start.distance = 0 from rfl, zero_add] at total
    unfold measure at known
    dsimp only at known
    by_cases any : (measureRun haversineM minMoveM rows).anyPoint = true
    · rw [if_pos any] at known
      obtain rfl := Option.some.inj known
      exact total
    · rw [if_neg any] at known
      cases known
  · obtain ⟨-, -, -, -, -, -, -, -, whole⟩ := leg_of_mem among
    exact whole
  · obtain ⟨before, start, to_, step, later, split, same, anchored, -⟩ := leg_of_mem among
    obtain ⟨early, earlier, since, split', trusted, -⟩ := anchored.ofRow
    obtain ⟨⟨row, skip⟩, entry, isSkipped⟩ := List.mem_filterMap.mp skipped
    have distinct : ((judged haversineM minMoveM .start rows).map (·.1)).Nodup :=
      List.pairwise_map.mpr (ordered.imp fun less equal => absurd less (by simp [equal]))
    have other : (start.row, earlier) ∈ judged haversineM minMoveM .start rows := by
      rw [split, split']
      simp
    cases skip with
    | skipped =>
      have equal : row = start.row := (Option.some.inj isSkipped).trans same
      have twice := List.inj_on_of_nodup_map distinct entry other equal
      exact trusted (Prod.mk.inj twice).2.symm
    | _ => cases isSkipped
  · obtain ⟨early, start, to_, step, later, split, same, anchored, -⟩ := leg_of_mem among
    obtain ⟨first, earlier, since, split', -, unflagged⟩ := anchored.ofRow
    rw [← @judged_rows haversineM minMoveM .start rows] at member
    obtain ⟨entry, inside, rfl⟩ := List.mem_map.mp member
    rw [split, split'] at inside ordered
    rw [same] at after
    obtain ⟨left, right, across⟩ := List.pairwise_append.mp ordered
    have inner := List.pairwise_append.mp left
    obtain inside | inside := List.mem_append.mp inside
    · obtain inside | inside := List.mem_append.mp inside
      · have less := inner.2.2 entry inside _ List.mem_cons_self
        exact absurd (after.trans less) (lt_irrefl _)
      · obtain rfl | inside := List.mem_cons.mp inside
        · exact absurd after (lt_irrefl _)
        · exact unflagged entry inside
    · obtain rfl | inside := List.mem_cons.mp inside
      · exact absurd before (lt_irrefl _)
      · have less := (List.pairwise_cons.mp right).1 entry inside
        exact absurd (before.trans less) (lt_irrefl _)

end

def secondRow (second : ℤ) (lat lon : Option ℚ) (breaksSegment : Bool) : TelemetryRow :=
  { recordingId := 1
    tOffsetS := some second
    lat
    lon
    speedKmh := none
    capturedAt := some (second * 1000000)
    breaksSegment }

def unplacedBreak : List TelemetryRow :=
  [secondRow 0 (some 10) (some 20) false, secondRow 1 none none true,
    secondRow 2 (some 10) (some 20) false]

def pointOf (row : TelemetryRow) (at_ : ℤ) : TrackPoint :=
  { recordingId := row.recordingId
    tOffsetS := row.tOffsetS.getD 0
    lat := row.lat
    lon := row.lon
    speedKmh := row.speedKmh
    at_
    breaksSegment := row.breaksSegment }

theorem unplacedBreak_track : singleTrack (fun _ => none) (fun _ => true) unplacedBreak =
    [pointOf (secondRow 0 (some 10) (some 20) false) 0,
      pointOf (secondRow 1 none none true) 1000000,
      pointOf (secondRow 2 (some 10) (some 20) false) 2000000] := by
  have seconds : (placed (fun _ => none) (fun _ => true) unplacedBreak).map Placed.second =
      [0, 1, 2] := by
    change [wholeSecond (0 * 1000000), wholeSecond (1 * 1000000), wholeSecond (2 * 1000000)] = _
    rw [wholeSecond_whole (by norm_num), wholeSecond_whole (by norm_num),
      wholeSecond_whole (by norm_num)]
  have ascending : (placed (fun _ => none) (fun _ => true) unplacedBreak).Pairwise
      (·.second < ·.second) := List.pairwise_map.mp (by rw [seconds]; decide)
  rw [singleTrack_eq, chooseAll_of_ascending ascending]
  decide

end DashcamStats.Journeys
