import DashcamStats.Journeys.Track

namespace DashcamStats.Journeys

open Datetime (wholeSecond)

variable {starts : ℤ → Option ℤ} {frontIds : ℤ → Bool}

structure OnePerSecond (starts : ℤ → Option ℤ) (frontIds : ℤ → Bool) (points : List TelemetryRow)
    (track : List TrackPoint) : Prop where
  ascending : track.Pairwise fun a b => wholeSecond a.at_ < wholeSecond b.at_
  covered : ∀ second, (∃ p ∈ track, wholeSecond p.at_ = second) ↔
    ∃ item ∈ placed starts frontIds points, item.second = second
  supplied : ∀ p ∈ track, ∃ item ∈ placed starts frontIds points,
    { p with breaksSegment := item.point.breaksSegment } = item.point
  front : ∀ p ∈ track, (∃ item ∈ placed starts frontIds points,
    item.second = wholeSecond p.at_ ∧ item.isFront = true) → frontIds p.recordingId = true

def Untied (items : List Placed) : Prop :=
  ∀ x y, Best items x → Best items y → x.second = y.second → x = y

-- `uq_telemetry_recording_offset`
def telemetryKey (row : TelemetryRow) : ℤ × ℚ := (row.recordingId, row.tOffsetS.getD 0)

theorem eq_of_unflagged {p q : TrackPoint} (h : p.unflagged = q.unflagged) :
    { p with breaksSegment := q.breaksSegment } = q := by
  cases p
  cases q
  simp_all [TrackPoint.unflagged]

theorem wholeSecond_of_unflagged {p : TrackPoint} {points : List TelemetryRow} {item : Placed}
    (member : item ∈ placed starts frontIds points) (h : p.unflagged = item.point.unflagged) :
    wholeSecond p.at_ = item.second := by
  have same : p.at_ = item.point.at_ := congrArg (·.at_) h
  rw [same, placed_at member, Placed.second]

theorem exists_kept {items : List Placed} {item : Placed} (h : item ∈ items) :
    ∃ kept, Kept items kept ∧ kept.second = item.second := by
  have inside : item ∈ (items.mergeSort Placed.sortsBefore).filter
      fun other => decide (other.second = item.second) := by simpa using h
  obtain ⟨kept, found⟩ := Option.isSome_iff_exists.mp (pick_isSome inside)
  exact ⟨kept, winner_kept found⟩

theorem onePerSecond (points : List TelemetryRow) :
    OnePerSecond starts frontIds points (singleTrack starts frontIds points) := by
  refine ⟨ascending_singleTrack points, fun second => ⟨?_, ?_⟩, ?_, ?_⟩
  · rintro ⟨p, among, rfl⟩
    obtain ⟨item, kept, same⟩ := kept_of_mem among
    exact ⟨item, kept.mem, (wholeSecond_of_unflagged kept.mem same).symm⟩
  · rintro ⟨item, among, rfl⟩
    obtain ⟨best, kept, second⟩ := exists_kept among
    obtain ⟨p, member, same⟩ := mem_of_kept kept
    exact ⟨p, member, (wholeSecond_of_unflagged kept.mem same).trans second⟩
  · intro p among
    obtain ⟨item, kept, same⟩ := kept_of_mem among
    exact ⟨item, kept.mem, eq_of_unflagged same⟩
  · rintro p among ⟨other, member, second, front⟩
    obtain ⟨item, kept, same⟩ := kept_of_mem among
    have recording : p.recordingId = item.point.recordingId := congrArg (·.recordingId) same
    rw [recording, ← placed_front kept.mem]
    exact kept.front other member
      (second.trans (wholeSecond_of_unflagged kept.mem same)) front

theorem eq_of_key {points : List TelemetryRow} (unique : (points.map telemetryKey).Nodup)
    {x y : Placed} (hx : x ∈ placed starts frontIds points)
    (hy : y ∈ placed starts frontIds points)
    (recording : x.point.recordingId = y.point.recordingId)
    (offset : x.point.tOffsetS = y.point.tOffsetS) : x = y := by
  obtain ⟨row, among, one⟩ := mem_placed.mp hx
  obtain ⟨row', among', one'⟩ := mem_placed.mp hy
  obtain ⟨-, recording', offset', -⟩ := place_eq_some one
  obtain ⟨-, recording'', offset'', -⟩ := place_eq_some one'
  have keys : telemetryKey row = telemetryKey row' :=
    Prod.ext (recording'.symm.trans (recording.trans recording''))
      (offset'.symm.trans (offset.trans offset''))
  have rows : row = row' := List.inj_on_of_nodup_map unique among among' keys
  subst rows
  exact Option.some.inj (one.symm.trans one')

theorem Best.perm {items items' : List Placed} {x : Placed} (best : Best items x)
    (same : items.Perm items') : Best items' x where
  mem := same.mem_iff.mp best.mem
  front := fun other among => best.front other (same.mem_iff.mpr among)
  earliest := fun other among => best.earliest other (same.mem_iff.mpr among)

theorem Untied.kept_iff {items : List Placed} (untied : Untied items) {x : Placed} :
    Kept items x ↔ Best items x := by
  refine ⟨fun kept => kept.toBest, fun best => ?_⟩
  obtain ⟨y, kept, second⟩ := exists_kept best.mem
  rw [untied x y best kept.toBest second.symm]
  exact kept

theorem Untied.perm {items items' : List Placed} (untied : Untied items)
    (same : items.Perm items') : Untied items' :=
  fun x y hx hy => untied x y (hx.perm same.symm) (hy.perm same.symm)

theorem eq_of_ascending {one other : List Placed} (ascending : one.Pairwise (·.second < ·.second))
    (ascending' : other.Pairwise (·.second < ·.second)) (same : ∀ x, x ∈ one ↔ x ∈ other) :
    one = other := by
  have distinct {a b : Placed} (h : a.second < b.second) : a ≠ b := by
    rintro rfl
    exact lt_irrefl _ h
  have perm : one.Perm other :=
    (List.perm_ext_iff_of_nodup (ascending.imp distinct) (ascending'.imp distinct)).mpr same
  exact perm.eq_of_pairwise
    (fun a b _ _ less more => absurd (lt_trans less more) (lt_irrefl _)) ascending ascending'

theorem chooseAll_of_ascending {items : List Placed}
    (ascending : items.Pairwise (·.second < ·.second)) : chooseAll items = items := by
  refine eq_of_ascending (chosenAll items).ascending ascending fun x => ?_
  refine ⟨fun among => (mem_chooseAll.mp among).mem, fun among => mem_chooseAll.mpr ?_⟩
  obtain ⟨y, kept, same⟩ := exists_kept among
  have distinct : (items.map Placed.second).Nodup :=
    List.pairwise_map.mpr (ascending.imp fun less => less.ne)
  rw [← List.inj_on_of_nodup_map distinct kept.mem among same]
  exact kept

theorem chooseAll_perm {items items' : List Placed} (untied : Untied items)
    (same : items.Perm items') : chooseAll items' = chooseAll items := by
  refine eq_of_ascending (chosenAll items').ascending (chosenAll items).ascending fun x => ?_
  rw [mem_chooseAll, mem_chooseAll, untied.kept_iff, (untied.perm same).kept_iff]
  exact ⟨fun best => best.perm same.symm, fun best => best.perm same⟩

theorem singleTrack_perm {points points' : List TelemetryRow}
    (untied : Untied (placed starts frontIds points)) (same : points'.Perm points) :
    singleTrack starts frontIds points' = singleTrack starts frontIds points := by
  have items : (placed starts frontIds points).Perm (placed starts frontIds points') :=
    same.symm.filterMap _
  rw [singleTrack_eq, singleTrack_eq, chooseAll_perm untied items]

theorem eq_of_second {points : List TelemetryRow} {p q : TrackPoint}
    (hp : p ∈ singleTrack starts frontIds points) (hq : q ∈ singleTrack starts frontIds points)
    (h : wholeSecond p.at_ = wholeSecond q.at_) : p = q := by
  have distinct : ((singleTrack starts frontIds points).map fun r => wholeSecond r.at_).Nodup :=
    List.pairwise_map.mpr ((ascending_singleTrack points).imp fun less => less.ne)
  exact List.inj_on_of_nodup_map distinct hp hq h

theorem mem_singleTrack_of_first {points : List TelemetryRow} {row : TelemetryRow} {item : Placed}
    (among : row ∈ points) (one : place starts frontIds row = some item)
    (best : Best (placed starts frontIds points) item)
    (free : ∀ points', points'.Perm points →
      singleTrack starts frontIds points' = singleTrack starts frontIds points) :
    ∃ p ∈ singleTrack starts frontIds points, p.unflagged = item.point.unflagged := by
  obtain ⟨before, after, rfl⟩ := List.append_of_mem among
  have same : (row :: (before ++ after)).Perm (before ++ row :: after) := List.perm_middle.symm
  have front : placed starts frontIds (row :: (before ++ after)) =
      item :: placed starts frontIds (before ++ after) := List.filterMap_cons_some one
  have kept : Kept (placed starts frontIds (row :: (before ++ after))) item := by
    refine ⟨best.perm (same.symm.filterMap _), ?_⟩
    rw [front, List.find?_cons_of_pos ((ties_iff item item).mpr ⟨rfl, rfl⟩)]
  rw [← free _ same]
  exact mem_of_kept kept

theorem untied_of_free {points : List TelemetryRow} (unique : (points.map telemetryKey).Nodup)
    (free : ∀ points', points'.Perm points →
      singleTrack starts frontIds points' = singleTrack starts frontIds points) :
    Untied (placed starts frontIds points) := by
  intro x y hx hy second
  obtain ⟨row, among, one⟩ := mem_placed.mp hx.mem
  obtain ⟨row', among', one'⟩ := mem_placed.mp hy.mem
  obtain ⟨p, hp, same⟩ := mem_singleTrack_of_first among one hx free
  obtain ⟨q, hq, same'⟩ := mem_singleTrack_of_first among' one' hy free
  have seconds : wholeSecond p.at_ = wholeSecond q.at_ := by
    rw [wholeSecond_of_unflagged hx.mem same, wholeSecond_of_unflagged hy.mem same', second]
  have equal : x.point.unflagged = y.point.unflagged := by
    rw [← same, ← same', eq_of_second hp hq seconds]
  exact eq_of_key unique hx.mem hy.mem (congrArg (·.recordingId) equal)
    (congrArg (·.tOffsetS) equal)

theorem one_path_iff_untied {points : List TelemetryRow}
    (unique : (points.map telemetryKey).Nodup) :
    (OnePerSecond starts frontIds points (singleTrack starts frontIds points) ∧
      ∀ points', points'.Perm points →
        singleTrack starts frontIds points' = singleTrack starts frontIds points) ↔
    Untied (placed starts frontIds points) := by
  constructor
  · rintro ⟨-, free⟩
    exact untied_of_free unique free
  · intro untied
    exact ⟨onePerSecond points, fun points' same => singleTrack_perm untied same⟩

def meetingRow (recordingId : ℤ) (tOffsetS : ℚ) : TelemetryRow :=
  { recordingId
    tOffsetS := some tOffsetS
    lat := some (-3705 / 100)
    lon := some (14455 / 100)
    speedKmh := some 60
    capturedAt := some 1788000060000000
    breaksSegment := false }

def meetingRows : List TelemetryRow := [meetingRow 1 60, meetingRow 2 0]

theorem one_path_meeting :
    (OnePerSecond (fun _ => none) (fun _ => true) meetingRows
        (singleTrack (fun _ => none) (fun _ => true) meetingRows) ∧
      ∀ points', points'.Perm meetingRows →
        singleTrack (fun _ => none) (fun _ => true) points' =
          singleTrack (fun _ => none) (fun _ => true) meetingRows) ↔
    Untied (placed (fun _ => none) (fun _ => true) meetingRows) :=
  one_path_iff_untied (by decide)

theorem one_path_tied : ¬ ∀ points', points'.Perm meetingRows →
    singleTrack (fun _ => none) (fun _ => true) points' =
      singleTrack (fun _ => none) (fun _ => true) meetingRows := by
  intro free
  have untied := untied_of_free (by decide) free
  have items : ∀ item ∈ placed (fun _ => none) (fun _ => true) meetingRows,
      item.at_ = 1788000060000000 ∧ item.isFront = true := by decide
  have best : ∀ item ∈ placed (fun _ => none) (fun _ => true) meetingRows,
      Best (placed (fun _ => none) (fun _ => true) meetingRows) item := fun item among =>
    { mem := among
      front := fun _ _ _ _ => (items item among).2
      earliest := fun other member _ _ => by
        rw [(items item among).1, (items other member).1] }
  have differ : ∃ x ∈ placed (fun _ => none) (fun _ => true) meetingRows,
      ∃ y ∈ placed (fun _ => none) (fun _ => true) meetingRows,
        x.point.recordingId ≠ y.point.recordingId := by decide
  obtain ⟨x, hx, y, hy, apart⟩ := differ
  refine apart (congrArg (·.point.recordingId) (untied x y (best x hx) (best y hy) ?_))
  rw [Placed.second, Placed.second, (items x hx).1, (items y hy).1]

end DashcamStats.Journeys
