import DashcamStats.Osd.TrackQuality

namespace DashcamStats.Osd

def SUSTAINED_SPEED_KMH : ℚ := 130

def MIN_RADIUS_M : ℚ := 5000

def MIN_ANCHORS : ℕ := 3

def plausibleRadiusM (spanS : ℚ) : ℚ :=
  let reach := max 0 spanS / 3600 * SUSTAINED_SPEED_KMH * 1000
  max MIN_RADIUS_M (reach / 2)

def robustCentre (points : List (ℚ × ℚ)) : Option (ℚ × ℚ) :=
  if points.isEmpty then none
  else some (Median.median (points.map (·.1)), Median.median (points.map (·.2)))

section

variable (haversineM : ℚ → ℚ → ℚ → ℚ → ℚ)

def juryOf (points : List (ℚ × ℚ)) (direct : Option (List Bool)) : List ℕ :=
  match direct with
  | none => List.range points.length
  | some direct =>
    let read := (direct.zipIdx.filter (·.1)).map (·.2)
    if MIN_ANCHORS ≤ read.length then read else List.range points.length

def farFrom (centre : ℚ × ℚ) (radius : ℚ) (point : ℚ × ℚ) : Bool :=
  decide (radius < distanceBetween haversineM centre point)

def spatialOutliers (points : List (ℚ × ℚ)) (spanS : ℚ) (direct : Option (List Bool)) : List ℕ :=
  if points.length < 3 then []
  else
    let jury := juryOf points direct
    match robustCentre (jury.filterMap (points[·]?)) with
    | none => []
    | some centre =>
      let radius := plausibleRadiusM spanS
      let outliers : List ℕ :=
        (points.zipIdx.filter fun entry => farFrom haversineM centre radius entry.1).map (·.2)
      let juryOutliers := (jury.filter fun index => decide (index ∈ outliers)).length
      if jury.length ≤ juryOutliers * 2 then [] else outliers

/-- What `_find_outliers` reads of a row -/
structure JourneyRow where
  id : ℤ
  lat : Option ℚ
  lon : Option ℚ
  gpsQuality : Option GpsQuality
  deriving DecidableEq

-- `gps_quality` is null or in `TRUSTED`.
def JourneyRow.direct (row : JourneyRow) : Bool := row.gpsQuality.all fun q => decide (q = .VALID)

def JourneyRow.located (row : JourneyRow) : Bool := row.lat.isSome && row.lon.isSome

def JourneyRow.point (row : JourneyRow) : ℚ × ℚ := (row.lat.getD 0, row.lon.getD 0)

structure FoundOutliers where
  ids : List ℤ
  centre : Option (ℚ × ℚ)
  radiusM : ℚ

def findOutliers (rows : List JourneyRow) (spanS : ℚ) : FoundOutliers :=
  let located := rows.filter (·.located)
  if located.length < 3 then
    { ids := [], centre := none, radiusM := plausibleRadiusM spanS }
  else
    let points := located.map (·.point)
    let outliers : List ℕ := spatialOutliers haversineM points spanS (some (located.map (·.direct)))
    let kept := (points.zipIdx.filter fun entry => decide (entry.2 ∉ outliers)).map (·.1)
    { ids := outliers.filterMap fun index => (located[index]?).map (·.id)
      centre := robustCentre kept
      radiusM := plausibleRadiusM spanS }

end

section

theorem filterMap_getElem?_zipIdx {α : Type} (xs : List α) (q : α × ℕ → Bool) :
    ((xs.zipIdx.filter q).map (·.2)).filterMap (xs[·]?) = (xs.zipIdx.filter q).map (·.1) := by
  rw [List.filterMap_map, ← List.filterMap_eq_map]
  refine List.filterMap_congr fun entry among => ?_
  have here := List.mem_zipIdx_iff_getElem?.mp (List.mem_of_mem_filter among)
  exact here

theorem map_filter_zipIdx {α : Type} (xs : List α) (p : α → Bool) (q : ℕ → Bool)
    (same : ∀ x i, xs[i]? = some x → q i = p x) :
    (xs.zipIdx.filter fun entry => q entry.2).map (·.1) = xs.filter p := by
  have swap : (xs.zipIdx.filter fun entry => q entry.2) =
      xs.zipIdx.filter (p ∘ (·.1)) := by
    refine List.filter_congr fun entry among => ?_
    exact same entry.1 entry.2 (List.mem_zipIdx_iff_getElem?.mp among)
  rw [swap, ← List.filter_map, List.zipIdx_map_fst]

def readRows (rows : List JourneyRow) : List JourneyRow :=
  (rows.filter (·.located)).filter (·.direct)

def readIndices (rows : List JourneyRow) : List ℕ :=
  (rows.zipIdx.filter fun entry => entry.1.direct).map (·.2)

theorem readIndices_eq (rows : List JourneyRow) :
    ((rows.map (·.direct)).zipIdx.filter (·.1)).map (·.2) = readIndices rows := by
  rw [List.zipIdx_map, List.filter_map, List.map_map]
  rfl

theorem zipIdx_filter_fst {α : Type} (xs : List α) (p : α → Bool) :
    (xs.zipIdx.filter fun entry => p entry.1).map (·.1) = xs.filter p := by
  have composed : (fun entry : α × ℕ => p entry.1) = p ∘ (·.1) := rfl
  rw [composed, ← List.filter_map, List.zipIdx_map_fst]

theorem readIndices_length (rows : List JourneyRow) :
    (readIndices rows).length = (rows.filter (·.direct)).length := by
  rw [readIndices, List.length_map, ← zipIdx_filter_fst rows (·.direct), List.length_map]

theorem readIndices_points (rows : List JourneyRow) :
    (readIndices rows).filterMap ((rows.map (·.point))[·]?) =
      (rows.filter (·.direct)).map (·.point) := by
  have pointwise : (fun index : ℕ => (rows.map (·.point))[index]?) =
      fun index : ℕ => (rows[index]?).map JourneyRow.point := by
    funext index
    rw [List.getElem?_map]
  rw [pointwise, ← List.map_filterMap, readIndices, filterMap_getElem?_zipIdx, zipIdx_filter_fst]

theorem readIndices_filter (rows : List JourneyRow) (p : JourneyRow → Bool) (q : ℕ → Bool)
    (same : ∀ row i, rows[i]? = some row → q i = p row) :
    ((readIndices rows).filter q).length = ((rows.filter (·.direct)).filter p).length := by
  have swap : ((rows.zipIdx.filter fun entry => entry.1.direct).filter (q ∘ (·.2))) =
      (rows.zipIdx.filter fun entry => entry.1.direct).filter (p ∘ (·.1)) := by
    refine List.filter_congr fun entry among => ?_
    exact same entry.1 entry.2 (List.mem_zipIdx_iff_getElem?.mp (List.mem_of_mem_filter among))
  rw [readIndices, List.filter_map, List.length_map, swap, ← zipIdx_filter_fst rows (·.direct),
    List.filter_map, List.length_map]

theorem mem_outliers {points : List (ℚ × ℚ)} {p : ℚ × ℚ → Bool} {i : ℕ} :
    i ∈ (points.zipIdx.filter fun entry => p entry.1).map (·.2) ↔
      ∃ point, points[i]? = some point ∧ p point = true := by
  constructor
  · intro among
    obtain ⟨entry, inside, rfl⟩ := List.mem_map.mp among
    obtain ⟨member, holds⟩ := List.mem_filter.mp inside
    exact ⟨entry.1, List.mem_zipIdx_iff_getElem?.mp member, holds⟩
  · rintro ⟨point, here, holds⟩
    exact List.mem_map.mpr ⟨(point, i),
      List.mem_filter.mpr ⟨List.mem_zipIdx_iff_getElem?.mpr here, holds⟩, rfl⟩

variable (haversineM : ℚ → ℚ → ℚ → ℚ → ℚ) (spanS : ℚ)

def juryCentre (read : List JourneyRow) : ℚ × ℚ :=
  (Median.median ((read.map (·.point)).map (·.1)), Median.median ((read.map (·.point)).map (·.2)))

def isOutlier (read : List JourneyRow) (row : JourneyRow) : Bool :=
  decide ((read.filter fun r =>
    farFrom haversineM (juryCentre read) (plausibleRadiusM spanS) r.point).length * 2 <
      read.length) &&
  farFrom haversineM (juryCentre read) (plausibleRadiusM spanS) row.point

theorem mem_spatialOutliers {rows : List JourneyRow}
    (anchored : MIN_ANCHORS ≤ (rows.filter (·.direct)).length) {row : JourneyRow} {i : ℕ}
    (here : rows[i]? = some row) :
    i ∈ spatialOutliers haversineM (rows.map (·.point)) spanS (some (rows.map (·.direct))) ↔
      isOutlier haversineM spanS (rows.filter (·.direct)) row = true := by
  have several : 3 ≤ rows.length := anchored.trans (List.length_filter_le _ _)
  have jury : juryOf (rows.map (·.point)) (some (rows.map (·.direct))) = readIndices rows := by
    rw [juryOf, readIndices_eq, readIndices_length, if_pos anchored]
  have some : ((rows.filter (·.direct)).map (·.point)).isEmpty = false := by
    cases read : rows.filter (·.direct) with
    | nil => simp [read, MIN_ANCHORS] at anchored
    | cons row rest => rfl
  have centre : robustCentre ((readIndices rows).filterMap ((rows.map (·.point))[·]?)) =
      Option.some (juryCentre (rows.filter (·.direct))) := by
    rw [readIndices_points, robustCentre, some]
    rfl
  have among (j : ℕ) (r : JourneyRow) (at_ : rows[j]? = Option.some r) :
      j ∈ ((rows.map (·.point)).zipIdx.filter fun entry =>
        farFrom haversineM (juryCentre (rows.filter (·.direct))) (plausibleRadiusM spanS)
          entry.1).map (·.2) ↔
        farFrom haversineM (juryCentre (rows.filter (·.direct))) (plausibleRadiusM spanS)
          r.point = true := by
    rw [mem_outliers, List.getElem?_map, at_]
    simp
  have count := readIndices_filter rows
    (fun r => farFrom haversineM (juryCentre (rows.filter (·.direct))) (plausibleRadiusM spanS)
      r.point)
    (fun j => decide (j ∈ ((rows.map (·.point)).zipIdx.filter fun entry =>
      farFrom haversineM (juryCentre (rows.filter (·.direct))) (plausibleRadiusM spanS)
        entry.1).map (·.2)))
    (fun r j at_ => by rw [Bool.eq_iff_iff, decide_eq_true_eq, among j r at_])
  unfold spatialOutliers
  rw [if_neg (by rw [List.length_map]; omega)]
  simp only [jury, centre, count, readIndices_length]
  rw [isOutlier]
  split_ifs with most
  · rw [decide_eq_false (not_lt.mpr most)]
    simp
  · rw [among i row here, Bool.and_eq_true, decide_eq_true_eq]
    exact (and_iff_right (not_le.mp most)).symm

def rejectedRead (rows : List JourneyRow) : List JourneyRow :=
  ((rows.filter (·.located)).zipIdx.filter fun entry =>
    decide (entry.2 ∈ spatialOutliers haversineM ((rows.filter (·.located)).map (·.point)) spanS
      (some ((rows.filter (·.located)).map (·.direct)))) && entry.1.direct).map (·.1)

theorem rejectedRead_eq {rows : List JourneyRow}
    (anchored : MIN_ANCHORS ≤ (readRows rows).length) : rejectedRead haversineM spanS rows =
      (readRows rows).filter (isOutlier haversineM spanS (readRows rows)) := by
  have swap : ((rows.filter (·.located)).zipIdx.filter fun entry =>
      decide (entry.2 ∈ spatialOutliers haversineM ((rows.filter (·.located)).map (·.point)) spanS
        (some ((rows.filter (·.located)).map (·.direct)))) && entry.1.direct) =
      (rows.filter (·.located)).zipIdx.filter fun entry =>
        isOutlier haversineM spanS (readRows rows) entry.1 && entry.1.direct := by
    refine List.filter_congr fun entry among => ?_
    congr 1
    rw [Bool.eq_iff_iff, decide_eq_true_eq]
    exact mem_spatialOutliers haversineM spanS anchored (List.mem_zipIdx_iff_getElem?.mp among)
  rw [rejectedRead, swap]
  have filtered := zipIdx_filter_fst (rows.filter (·.located)) fun row =>
    isOutlier haversineM spanS (readRows rows) row && row.direct
  rw [filtered]
  exact List.filter_filter.symm

theorem centre_eq {rows : List JourneyRow} (anchored : MIN_ANCHORS ≤ (readRows rows).length) :
    (findOutliers haversineM rows spanS).centre =
      robustCentre (((rows.filter (·.located)).filter fun row =>
        !isOutlier haversineM spanS (readRows rows) row).map (·.point)) := by
  have several : 3 ≤ (rows.filter (·.located)).length :=
    anchored.trans (List.length_filter_le _ _)
  have kept := map_filter_zipIdx (rows.filter (·.located))
    (fun row => !isOutlier haversineM spanS (readRows rows) row)
    (fun i => decide (i ∉ spatialOutliers haversineM ((rows.filter (·.located)).map (·.point)) spanS
      (some ((rows.filter (·.located)).map (·.direct)))))
    (fun row i here => by
      rw [decide_not, Bool.not_inj_iff, Bool.eq_iff_iff, decide_eq_true_eq]
      exact mem_spatialOutliers haversineM spanS anchored here)
  unfold findOutliers
  dsimp only
  rw [if_neg (by omega), List.zipIdx_map, List.filter_map, List.map_map, ← kept, List.map_map]
  rfl

def copyAt (place : ℚ × ℚ) : JourneyRow :=
  { id := 0, lat := some place.1, lon := some place.2, gpsQuality := some .INTERPOLATED }

theorem copyAt_point (place : ℚ × ℚ) : (copyAt place).point = place := rfl

def withCopies (rows : List JourneyRow) (place : ℚ × ℚ) : List JourneyRow :=
  readRows rows ++ List.replicate ((readRows rows).length + 1) (copyAt place)

theorem readRows_withCopies (rows : List JourneyRow) (place : ℚ × ℚ) :
    readRows (withCopies rows place) = readRows rows := by
  have read : (readRows rows).filter (·.located) = readRows rows := by
    rw [readRows, List.filter_filter, List.filter_filter, List.filter_filter]
    refine List.filter_congr fun row _ => ?_
    cases row.located <;> simp
  have direct : (readRows rows).filter (·.direct) = readRows rows := by
    rw [readRows, List.filter_filter]
    simp
  rw [readRows, withCopies, List.filter_append, read, List.filter_append, direct]
  simp [copyAt, JourneyRow.direct, List.filter_replicate]

theorem robustCentre_of_majority {points : List (ℚ × ℚ)} {place : ℚ × ℚ}
    (most : points.length < 2 * points.count place) : robustCentre points = some place := by
  have lat : Median.median (points.map (·.1)) = place.1 := by
    refine Median.median_of_majority ?_
    have more := List.count_le_count_map (l := points) (f := Prod.fst) (x := place)
    rw [List.length_map]
    exact most.trans_le (Nat.mul_le_mul_left 2 more)
  have lon : Median.median (points.map (·.2)) = place.2 := by
    refine Median.median_of_majority ?_
    have more := List.count_le_count_map (l := points) (f := Prod.snd) (x := place)
    rw [List.length_map]
    exact most.trans_le (Nat.mul_le_mul_left 2 more)
  have nonempty : points.isEmpty = false := by
    cases points with
    | nil => simp at most
    | cons point rest => rfl
  rw [robustCentre, nonempty, lat, lon]
  rfl

theorem centre_withCopies {rows : List JourneyRow} (anchored : MIN_ANCHORS ≤ (readRows rows).length)
    {place : ℚ × ℚ}
    (near : distanceBetween haversineM (juryCentre (readRows rows)) place ≤ MIN_RADIUS_M) :
    (findOutliers haversineM (withCopies rows place) spanS).centre = some place := by
  have same := readRows_withCopies rows place
  have located : (withCopies rows place).filter (·.located) = withCopies rows place := by
    refine List.filter_eq_self.mpr fun row among => ?_
    obtain among | among := List.mem_append.mp among
    · exact (List.mem_filter.mp (List.mem_filter.mp among).1).2
    · rw [List.eq_of_mem_replicate among]
      rfl
  have within : distanceBetween haversineM (juryCentre (readRows rows)) place ≤
      plausibleRadiusM spanS := near.trans (le_max_left _ _)
  have stays : isOutlier haversineM spanS (readRows rows) (copyAt place) = false := by
    have close : farFrom haversineM (juryCentre (readRows rows)) (plausibleRadiusM spanS)
        (copyAt place).point = false := decide_eq_false (not_lt.mpr within)
    rw [isOutlier, close, Bool.and_false]
  rw [centre_eq haversineM spanS (by rw [same]; exact anchored), same, located]
  refine robustCentre_of_majority ?_
  rw [withCopies, List.filter_append, List.filter_replicate_of_pos (by rw [stays]; rfl),
    List.map_append, List.length_append, List.count_append, List.map_replicate,
    List.length_replicate, copyAt_point, List.count_replicate_self, List.length_map]
  have fewer := List.length_filter_le
    (fun row => !isOutlier haversineM spanS (readRows rows) row) (readRows rows)
  omega

end

variable {haversineM : ℚ → ℚ → ℚ → ℚ → ℚ}

theorem centre_moves (self : ∀ p, distanceBetween haversineM p p = 0)
    (near : ∀ p, ∃ q, q ≠ p ∧ distanceBetween haversineM p q ≤ MIN_RADIUS_M)
    (rows : List JourneyRow) (spanS : ℚ) (anchored : MIN_ANCHORS ≤ (readRows rows).length) :
    ¬ ∀ rows', readRows rows' = readRows rows →
      (findOutliers haversineM rows' spanS).centre =
        (findOutliers haversineM rows spanS).centre := by
  intro still
  obtain ⟨other, apart, reach⟩ := near (juryCentre (readRows rows))
  have none : distanceBetween haversineM (juryCentre (readRows rows)) (juryCentre (readRows rows)) ≤
      MIN_RADIUS_M := by
    rw [self]
    norm_num [MIN_RADIUS_M]
  have here := centre_withCopies haversineM spanS anchored none
  have there := centre_withCopies haversineM spanS anchored reach
  rw [still _ (readRows_withCopies rows _)] at here there
  exact apart (Option.some.inj (there.symm.trans here))

theorem copies_move_centre (self : ∀ p, distanceBetween haversineM p p = 0)
    (near : ∀ p, ∃ q, q ≠ p ∧ distanceBetween haversineM p q ≤ MIN_RADIUS_M)
    (rows : List JourneyRow) (spanS : ℚ) (anchored : MIN_ANCHORS ≤ (readRows rows).length) :
    (∀ rows', readRows rows' = readRows rows →
      rejectedRead haversineM spanS rows' = rejectedRead haversineM spanS rows) ∧
    ¬ ∀ rows', readRows rows' = readRows rows →
      (findOutliers haversineM rows' spanS).centre =
        (findOutliers haversineM rows spanS).centre := by
  refine ⟨fun rows' same => ?_, centre_moves self near rows spanS anchored⟩
  rw [rejectedRead_eq haversineM spanS anchored,
    rejectedRead_eq haversineM spanS (by rw [same]; exact anchored), same]

def flatDistance (a b c d : ℚ) : ℚ := 111000 * (|a - c| + |b - d|)

theorem flatDistance_self (p : ℚ × ℚ) : distanceBetween flatDistance p p = 0 := by
  simp [distanceBetween, flatDistance]

theorem flatDistance_near (p : ℚ × ℚ) :
    ∃ q, q ≠ p ∧ distanceBetween flatDistance p q ≤ MIN_RADIUS_M := by
  refine ⟨(p.1 + 1 / 100, p.2), fun same => ?_, ?_⟩
  · have first := congrArg Prod.fst same
    norm_num at first
  · norm_num [distanceBetween, flatDistance, MIN_RADIUS_M, abs_of_neg]

def parkedRow (id : ℤ) : JourneyRow :=
  { id, lat := some (-34), lon := some 138, gpsQuality := some .VALID }

def parkedRows : List JourneyRow := [parkedRow 1, parkedRow 2, parkedRow 3]

theorem copies_move_parked :
    (∀ rows', readRows rows' = readRows parkedRows →
      rejectedRead flatDistance 60 rows' = rejectedRead flatDistance 60 parkedRows) ∧
    ¬ ∀ rows', readRows rows' = readRows parkedRows →
      (findOutliers flatDistance rows' 60).centre =
        (findOutliers flatDistance parkedRows 60).centre :=
  copies_move_centre flatDistance_self flatDistance_near parkedRows 60 (by decide)

theorem parked_centre_moves : ¬ ∀ rows', readRows rows' = readRows parkedRows →
    (findOutliers flatDistance rows' 60).centre =
      (findOutliers flatDistance parkedRows 60).centre :=
  centre_moves flatDistance_self flatDistance_near parkedRows 60 (by decide)

end DashcamStats.Osd
