import DashcamStats.Library.Bisect
import DashcamStats.Osd.TrackQuality

namespace DashcamStats.Osd

def EXACT_S : ℚ := 1 / 20

structure FixSample where
  tOffsetS : ℚ
  lat : Number
  lon : Number
  capturedAt : Option ℤ

def FixSample.valid (sample : FixSample) : Bool :=
  (coordinateProblem (some sample.lat) (some sample.lon)).isNone

def FixSample.position (sample : FixSample) : ℚ × ℚ :=
  match sample.lat, sample.lon with
  | .finite lat, .finite lon => (lat, lon)
  | _, _ => (0, 0)

inductive Source where
  | exact
  | interpolated
  | nearest
  deriving DecidableEq

structure Located where
  lat : ℚ
  lon : ℚ
  capturedAt : Option ℤ
  source : Source
  dtS : ℚ
  spanS : ℚ
  beforeOffsetS : Option ℚ
  afterOffsetS : Option ℚ

structure FixTrack where
  samples : List FixSample
  maxFixAgeS : ℚ
  maxBracketS : ℚ
  valid : ∀ sample ∈ samples, sample.valid = true
  ordered : (samples.map (·.tOffsetS)).Pairwise (· ≤ ·)

def cleanSamples (samples : List FixSample) : List FixSample :=
  (samples.filter (·.valid)).mergeSort fun a b => decide (a.tOffsetS ≤ b.tOffsetS)

theorem cleanSamples_ordered (samples : List FixSample) :
    ((cleanSamples samples).map (·.tOffsetS)).Pairwise (· ≤ ·) := by
  have trans (a b c : FixSample) (first : decide (a.tOffsetS ≤ b.tOffsetS) = true)
      (second : decide (b.tOffsetS ≤ c.tOffsetS) = true) :
      decide (a.tOffsetS ≤ c.tOffsetS) = true :=
    decide_eq_true ((of_decide_eq_true first).trans (of_decide_eq_true second))
  have total (a b : FixSample) :
      (decide (a.tOffsetS ≤ b.tOffsetS) || decide (b.tOffsetS ≤ a.tOffsetS)) = true := by
    simpa using le_total a.tOffsetS b.tOffsetS
  exact List.pairwise_map.mpr
    ((List.pairwise_mergeSort trans total _).imp fun h => of_decide_eq_true h)

def FixTrack.new (samples : List FixSample) (maxFixAgeS maxBracketS : ℚ) : FixTrack where
  samples := cleanSamples samples
  maxFixAgeS := max 0 maxFixAgeS
  maxBracketS := max 0 maxBracketS
  valid := fun sample among => by
    simpa using (List.mem_filter.mp (List.mem_mergeSort.mp among)).2
  ordered := cleanSamples_ordered samples

section

variable (haversineM : ℚ → ℚ → ℚ → ℚ → ℚ)

def FixSample.distanceTo (a b : FixSample) : ℚ :=
  distanceBetween haversineM a.position b.position

def interpolatedMoment (before after : FixSample) (offsetS ratio : ℚ) : Option ℤ :=
  match before.capturedAt, after.capturedAt with
  | some first, some last =>
    some (first + Datetime.timedelta (Datetime.totalSeconds (last - first) * ratio))
  | some first, none => some (first + Datetime.timedelta (offsetS - before.tOffsetS))
  | none, _ => none

def FixTrack.interpolate (track : FixTrack) (before after : FixSample) (offsetS : ℚ) :
    Option Located :=
  let span := after.tOffsetS - before.tOffsetS
  if span ≤ 0 ∨ track.maxBracketS < span then none
  else
    let gapM := before.distanceTo haversineM after
    if reachableRadiusM span < gapM then none
    else if MAX_GAP_M < gapM then none
    else
      let ratio := (offsetS - before.tOffsetS) / span
      some
        { lat := before.position.1 + (after.position.1 - before.position.1) * ratio
          lon := before.position.2 + (after.position.2 - before.position.2) * ratio
          capturedAt := interpolatedMoment before after offsetS ratio
          source := .interpolated
          dtS := min (offsetS - before.tOffsetS) (after.tOffsetS - offsetS)
          spanS := span
          beforeOffsetS := some before.tOffsetS
          afterOffsetS := some after.tOffsetS }

def exactly (candidate : FixSample) (offsetS : ℚ) : Option Located :=
  if |candidate.tOffsetS - offsetS| ≤ EXACT_S then
    some
      { lat := candidate.position.1
        lon := candidate.position.2
        capturedAt := candidate.capturedAt
        source := .exact
        dtS := |candidate.tOffsetS - offsetS|
        spanS := 0
        beforeOffsetS := some candidate.tOffsetS
        afterOffsetS := some candidate.tOffsetS }
  else none

-- `min` keeps the first of two that are equally near.
def nearestOf (before after : Option FixSample) (offsetS : ℚ) : Option FixSample :=
  match before, after with
  | some b, some a =>
    if |a.tOffsetS - offsetS| < |b.tOffsetS - offsetS| then some a else some b
  | some b, none => some b
  | none, after => after

def FixTrack.nearest (track : FixTrack) (before after : Option FixSample) (offsetS : ℚ) :
    Option Located :=
  match nearestOf before after offsetS with
  | none => none
  | some nearest =>
    let dt := |nearest.tOffsetS - offsetS|
    if track.maxFixAgeS < dt then none
    else
      some
        { lat := nearest.position.1
          lon := nearest.position.2
          capturedAt := nearest.capturedAt
          source := .nearest
          dtS := dt
          spanS := dt
          beforeOffsetS := before.map (·.tOffsetS)
          afterOffsetS := after.map (·.tOffsetS) }

def FixTrack.index (track : FixTrack) (offsetS : ℚ) : ℕ :=
  Bisect.bisectLeft (track.samples.map (·.tOffsetS)) offsetS

def FixTrack.before (track : FixTrack) (offsetS : ℚ) : Option FixSample :=
  if 0 < track.index offsetS then track.samples[track.index offsetS - 1]? else none

def FixTrack.after (track : FixTrack) (offsetS : ℚ) : Option FixSample :=
  track.samples[track.index offsetS]?

def FixTrack.at_ (track : FixTrack) (offsetS : ℚ) : Option Located :=
  let before := track.before offsetS
  let after := track.after offsetS
  let hit := (after.bind (exactly · offsetS)).or (before.bind (exactly · offsetS))
  let bracketed := before.bind fun b => after.bind fun a => track.interpolate haversineM b a offsetS
  (hit.or bracketed).or (track.nearest before after offsetS)

end

theorem FixTrack.split (track : FixTrack) (offsetS : ℚ) : ∃ left right,
    track.samples = left ++ right ∧ (∀ s ∈ left, s.tOffsetS < offsetS) ∧
      (∀ s ∈ right, offsetS ≤ s.tOffsetS) ∧ track.before offsetS = left.getLast? ∧
      track.after offsetS = right.head? := by
  obtain ⟨within, splits⟩ := Bisect.bisectLeft_splits (x := offsetS) track.ordered
  have within : track.index offsetS ≤ track.samples.length := by
    rwa [List.length_map] at within
  have less (j : ℕ) (h : j < track.samples.length) :
      track.samples[j].tOffsetS < offsetS ↔ j < track.index offsetS := by
    have here := splits j (by rwa [List.length_map])
    rw [List.getElem_map] at here
    exact here
  refine ⟨track.samples.take (track.index offsetS), track.samples.drop (track.index offsetS),
    (List.take_append_drop _ _).symm, fun s among => ?_, fun s among => ?_, ?_, ?_⟩
  · obtain ⟨j, inside, rfl⟩ := List.getElem_of_mem among
    rw [List.length_take] at inside
    rw [List.getElem_take]
    exact (less j (by omega)).mpr (by omega)
  · obtain ⟨j, inside, rfl⟩ := List.getElem_of_mem among
    rw [List.length_drop] at inside
    rw [List.getElem_drop]
    exact not_lt.mp fun early => absurd ((less _ (by omega)).mp early) (by omega)
  · unfold FixTrack.before
    rw [List.getLast?_eq_getElem?, List.length_take, Nat.min_eq_left within]
    split_ifs with some
    · rw [List.getElem?_take_of_lt (by omega)]
    · have zero : track.index offsetS = 0 := by omega
      rw [zero]
      simp
  · rw [FixTrack.after, List.head?_drop]

def Adjacent (track : FixTrack) (before after : FixSample) : Prop :=
  [before, after].IsInfix track.samples

theorem FixTrack.adjacent (track : FixTrack) {offsetS : ℚ} {b a : FixSample}
    (before : track.before offsetS = some b) (after : track.after offsetS = some a) :
    Adjacent track b a ∧ b.tOffsetS < offsetS ∧ offsetS ≤ a.tOffsetS := by
  obtain ⟨left, right, whole, early, late, last, first⟩ := track.split offsetS
  obtain ⟨front, rfl⟩ := List.getLast?_eq_some_iff.mp (last.symm.trans before)
  obtain ⟨rest, rfl⟩ := List.head?_eq_some_iff.mp (first.symm.trans after)
  refine ⟨⟨front, rest, ?_⟩, early b (by simp), late a (by simp)⟩
  rw [whole]
  simp

theorem FixTrack.between (track : FixTrack) {offsetS : ℚ} {b a : FixSample}
    (adjacent : Adjacent track b a) (after : b.tOffsetS < offsetS) (before : offsetS < a.tOffsetS) :
    track.before offsetS = some b ∧ track.after offsetS = some a := by
  obtain ⟨front, rest, eq⟩ := adjacent
  obtain ⟨left, right, whole, early, late, last, first⟩ := track.split offsetS
  have same : front ++ [b] ++ (a :: rest) = left ++ right := by
    rw [← whole, ← eq]
    simp
  rw [last, first]
  obtain ⟨extra, leftEq, tail⟩ | ⟨extra, frontEq, rightEq⟩ := List.append_eq_append_iff.mp same
  · cases extra with
    | nil =>
      rw [List.nil_append] at tail
      rw [leftEq, ← tail]
      simp
    | cons first extra =>
      obtain ⟨rfl, -⟩ := List.cons.inj tail
      exact absurd (early a (by simp [leftEq])) (not_lt.mpr before.le)
  · obtain rfl | ⟨init, final, rfl⟩ := List.eq_nil_or_concat' extra
    · rw [List.append_nil] at frontEq
      rw [rightEq, ← frontEq]
      simp
    · have isB : final = b := by
        have lasts := congrArg List.getLast? frontEq
        simpa [eq_comm] using lasts
      exact absurd (late b (by simp [rightEq, isB])) (not_le.mpr after)

theorem nearestOf_spec {before after : Option FixSample} {offsetS : ℚ} {s : FixSample}
    (h : nearestOf before after offsetS = some s) :
    (s ∈ before ∨ s ∈ after) ∧ (∀ b ∈ before, |s.tOffsetS - offsetS| ≤ |b.tOffsetS - offsetS|) ∧
      ∀ a ∈ after, |s.tOffsetS - offsetS| ≤ |a.tOffsetS - offsetS| := by
  cases before with
  | none =>
    obtain rfl : after = some s := h
    exact ⟨Or.inr rfl, fun b h => by simp at h, fun a h => by
      obtain rfl := Option.some.inj h
      exact le_refl _⟩
  | some b =>
    cases after with
    | none =>
      obtain rfl := Option.some.inj h
      exact ⟨Or.inl rfl, fun b h => by
        obtain rfl := Option.some.inj h
        exact le_refl _, fun a h => by simp at h⟩
    | some a =>
      rw [nearestOf] at h
      split_ifs at h with nearer
      · obtain rfl := Option.some.inj h
        refine ⟨Or.inr rfl, fun _ h => ?_, fun _ h => ?_⟩ <;> obtain rfl := Option.some.inj h
        · exact nearer.le
        · exact le_refl _
      · obtain rfl := Option.some.inj h
        refine ⟨Or.inl rfl, fun _ h => ?_, fun _ h => ?_⟩ <;> obtain rfl := Option.some.inj h
        · exact le_refl _
        · exact not_lt.mp nearer

section

variable {haversineM : ℚ → ℚ → ℚ → ℚ → ℚ}

inductive Account (haversineM : ℚ → ℚ → ℚ → ℚ → ℚ) (track : FixTrack) (offsetS : ℚ)
    (located : Located) : Prop where
  | exact (s : FixSample) (mem : s ∈ track.samples) (hit : |s.tOffsetS - offsetS| ≤ EXACT_S)
      (here : (located.lat, located.lon) = s.position)
  | interpolated (b a : FixSample) (ratio : ℚ) (adjacent : Adjacent track b a)
      (after : b.tOffsetS ≤ offsetS) (before : offsetS ≤ a.tOffsetS)
      (short : a.tOffsetS - b.tOffsetS ≤ track.maxBracketS)
      (near : b.distanceTo haversineM a ≤
        min MAX_GAP_M (reachableRadiusM (a.tOffsetS - b.tOffsetS)))
      (within : ratio ∈ Set.Icc (0 : ℚ) 1)
      (lat : located.lat = b.position.1 + (a.position.1 - b.position.1) * ratio)
      (lon : located.lon = b.position.2 + (a.position.2 - b.position.2) * ratio)
  | nearest (s : FixSample) (mem : s ∈ track.samples)
      (least : ∀ other ∈ track.samples, |s.tOffsetS - offsetS| ≤ |other.tOffsetS - offsetS|)
      (recent : |s.tOffsetS - offsetS| ≤ track.maxFixAgeS)
      (here : (located.lat, located.lon) = s.position)

theorem FixTrack.before_mem (track : FixTrack) {offsetS : ℚ} {b : FixSample}
    (h : track.before offsetS = some b) : b ∈ track.samples := by
  obtain ⟨left, right, whole, -, -, last, -⟩ := track.split offsetS
  rw [whole]
  exact List.mem_append_left _ (List.mem_of_getLast? (last.symm.trans h))

theorem FixTrack.after_mem (track : FixTrack) {offsetS : ℚ} {a : FixSample}
    (h : track.after offsetS = some a) : a ∈ track.samples := by
  obtain ⟨left, right, whole, -, -, -, first⟩ := track.split offsetS
  rw [whole]
  exact List.mem_append_right _ (List.mem_of_mem_head? (first.symm.trans h))

theorem FixTrack.nearestOf_least (track : FixTrack) {offsetS : ℚ} {s other : FixSample}
    (h : nearestOf (track.before offsetS) (track.after offsetS) offsetS = some s)
    (among : other ∈ track.samples) : |s.tOffsetS - offsetS| ≤ |other.tOffsetS - offsetS| := by
  obtain ⟨-, least, least'⟩ := nearestOf_spec h
  obtain ⟨left, right, whole, early, late, last, first⟩ := track.split offsetS
  have ordered := List.pairwise_map.mp track.ordered
  rw [whole] at among ordered
  obtain ⟨ascending, ascending', -⟩ := List.pairwise_append.mp ordered
  obtain among | among := List.mem_append.mp among
  · obtain rfl | ⟨init, b, rfl⟩ := List.eq_nil_or_concat' left
    · exact absurd among List.not_mem_nil
    · refine (least b (by simp [last])).trans ?_
      have earlier : other.tOffsetS ≤ b.tOffsetS := by
        obtain among | among := List.mem_append.mp among
        · exact (List.pairwise_append.mp ascending).2.2 other among b List.mem_cons_self
        · rw [List.mem_singleton.mp among]
      have less := early b (by simp)
      rw [abs_of_neg (sub_neg.mpr less), abs_of_neg (sub_neg.mpr (earlier.trans_lt less))]
      linarith
  · cases right with
    | nil => exact absurd among List.not_mem_nil
    | cons a rest =>
      refine (least' a (by simp [first])).trans ?_
      have later : a.tOffsetS ≤ other.tOffsetS := by
        obtain rfl | among := List.mem_cons.mp among
        · exact le_refl _
        · exact (List.pairwise_cons.mp ascending').1 other among
      have more := late a List.mem_cons_self
      rw [abs_of_nonneg (sub_nonneg.mpr more), abs_of_nonneg (sub_nonneg.mpr (more.trans later))]
      linarith

theorem account_of_exactly {track : FixTrack} {offsetS : ℚ} {s : FixSample} {located : Located}
    (mem : s ∈ track.samples) (h : exactly s offsetS = some located) :
    Account haversineM track offsetS located := by
  unfold exactly at h
  split_ifs at h with hit
  obtain rfl := Option.some.inj h
  exact .exact s mem hit rfl

theorem account_of_interpolate {track : FixTrack} {offsetS : ℚ} {b a : FixSample}
    {located : Located} (before : track.before offsetS = some b)
    (after : track.after offsetS = some a)
    (h : track.interpolate haversineM b a offsetS = some located) :
    Account haversineM track offsetS located := by
  obtain ⟨adjacent, less, more⟩ := track.adjacent before after
  unfold FixTrack.interpolate at h
  dsimp only at h
  split_ifs at h with wide apart far
  obtain rfl := Option.some.inj h
  rw [not_or, not_le, not_lt] at wide
  refine .interpolated b a ((offsetS - b.tOffsetS) / (a.tOffsetS - b.tOffsetS)) adjacent less.le
    more wide.2 (le_min (not_lt.mp far) (not_lt.mp apart)) ⟨?_, ?_⟩ rfl rfl
  · exact div_nonneg (by linarith) wide.1.le
  · exact (div_le_one wide.1).mpr (by linarith)

theorem account_of_nearest {track : FixTrack} {offsetS : ℚ} {located : Located}
    (h : track.nearest (track.before offsetS) (track.after offsetS) offsetS = some located) :
    Account haversineM track offsetS located := by
  unfold FixTrack.nearest at h
  split at h
  · cases h
  · rename_i s found
    dsimp only at h
    split_ifs at h with old
    obtain rfl := Option.some.inj h
    have mem : s ∈ track.samples := by
      obtain among | among := (nearestOf_spec found).1
      · exact track.before_mem among
      · exact track.after_mem among
    exact .nearest s mem (fun other => track.nearestOf_least found) (not_lt.mp old) rfl

theorem account_of_at {track : FixTrack} {offsetS : ℚ} {located : Located}
    (h : track.at_ haversineM offsetS = some located) :
    Account haversineM track offsetS located := by
  unfold FixTrack.at_ at h
  obtain h | ⟨-, h⟩ := Option.or_eq_some_iff.mp h
  · obtain h | ⟨-, h⟩ := Option.or_eq_some_iff.mp h
    · obtain h | ⟨-, h⟩ := Option.or_eq_some_iff.mp h
      · obtain ⟨a, after, hit⟩ := Option.bind_eq_some_iff.mp h
        exact account_of_exactly (track.after_mem after) hit
      · obtain ⟨b, before, hit⟩ := Option.bind_eq_some_iff.mp h
        exact account_of_exactly (track.before_mem before) hit
    · obtain ⟨b, before, h⟩ := Option.bind_eq_some_iff.mp h
      obtain ⟨a, after, h⟩ := Option.bind_eq_some_iff.mp h
      exact account_of_interpolate before after h
  · exact account_of_nearest h

-- The moment is between two samples that the vehicle cannot both have been at, and on neither.
structure Contradicted (haversineM : ℚ → ℚ → ℚ → ℚ → ℚ) (track : FixTrack) (offsetS : ℚ)
    (b a : FixSample) : Prop where
  adjacent : Adjacent track b a
  after : b.tOffsetS < offsetS
  before : offsetS < a.tOffsetS
  apart : reachableRadiusM (a.tOffsetS - b.tOffsetS) < b.distanceTo haversineM a
  offBefore : EXACT_S < |b.tOffsetS - offsetS|
  offAfter : EXACT_S < |a.tOffsetS - offsetS|

theorem at_of_contradicted {track : FixTrack} {offsetS : ℚ} {b a : FixSample}
    (h : Contradicted haversineM track offsetS b a) : track.at_ haversineM offsetS = none ↔
      track.maxFixAgeS < min |b.tOffsetS - offsetS| |a.tOffsetS - offsetS| := by
  obtain ⟨before, after⟩ := track.between h.adjacent h.after h.before
  have missB : exactly b offsetS = none := if_neg (not_le.mpr h.offBefore)
  have missA : exactly a offsetS = none := if_neg (not_le.mpr h.offAfter)
  have refused : track.interpolate haversineM b a offsetS = none := by
    unfold FixTrack.interpolate
    dsimp only
    rw [if_pos h.apart]
    exact ite_self none
  have falls : track.at_ haversineM offsetS = track.nearest (some b) (some a) offsetS := by
    simp [FixTrack.at_, before, after, missB, missA, refused]
  rw [falls, FixTrack.nearest, nearestOf]
  by_cases nearer : |a.tOffsetS - offsetS| < |b.tOffsetS - offsetS|
  · simp [nearer, min_eq_right nearer.le]
  · simp [nearer, min_eq_left (not_lt.mp nearer)]

theorem at_answers_iff (haversineM : ℚ → ℚ → ℚ → ℚ → ℚ) (samples : List FixSample)
    (maxFixAgeS maxBracketS offsetS : ℚ) :
    ((∀ located, (FixTrack.new samples maxFixAgeS maxBracketS).at_ haversineM offsetS =
        some located →
        Account haversineM (FixTrack.new samples maxFixAgeS maxBracketS) offsetS located) ∧
      ∀ b a, Contradicted haversineM (FixTrack.new samples maxFixAgeS maxBracketS) offsetS b a →
        (FixTrack.new samples maxFixAgeS maxBracketS).at_ haversineM offsetS = none) ↔
    ∀ b a, Contradicted haversineM (FixTrack.new samples maxFixAgeS maxBracketS) offsetS b a →
      maxFixAgeS < min |b.tOffsetS - offsetS| |a.tOffsetS - offsetS| := by
  constructor
  · rintro ⟨-, refuses⟩ b a h
    exact (le_max_right 0 maxFixAgeS).trans_lt ((at_of_contradicted h).mp (refuses b a h))
  · refine fun far => ⟨fun located => account_of_at, fun b a h => (at_of_contradicted h).mpr ?_⟩
    have positive : (0 : ℚ) < EXACT_S := by norm_num [EXACT_S]
    exact max_lt (lt_min (positive.trans h.offBefore) (positive.trans h.offAfter)) (far b a h)

end

def plainSample (tOffsetS lat lon : ℚ) : FixSample :=
  { tOffsetS, lat := .finite lat, lon := .finite lon, capturedAt := none }

def degreesApart (a b c d : ℚ) : ℚ := 111000 * (|a - c| + |b - d|)

def disagreeing : FixTrack := FixTrack.new [plainSample 10 (-34) 138, plainSample 11 (-34) 139] 3 15

theorem disagreeing_samples :
    disagreeing.samples = [plainSample 10 (-34) 138, plainSample 11 (-34) 139] := by
  have valid : ([plainSample 10 (-34) 138, plainSample 11 (-34) 139].filter (·.valid)) =
      [plainSample 10 (-34) 138, plainSample 11 (-34) 139] := by
    norm_num [List.filter, plainSample, FixSample.valid, coordinateProblem, isNoFixPlaceholder,
      Number.absLe, MAX_LATITUDE, MAX_LONGITUDE, NO_FIX_EPSILON, abs_of_pos, abs_of_neg]
  change ([plainSample 10 (-34) 138, plainSample 11 (-34) 139].filter (·.valid)).mergeSort _ = _
  rw [valid]
  exact List.mergeSort_of_pairwise (by norm_num [plainSample])

theorem disagreeing_answered : ¬ ∀ b a, Contradicted degreesApart disagreeing (21 / 2) b a →
    disagreeing.at_ degreesApart (21 / 2) = none := by
  intro refuses
  have contradicted : Contradicted degreesApart disagreeing (21 / 2) (plainSample 10 (-34) 138)
      (plainSample 11 (-34) 139) := by
    refine ⟨?_, ?_, ?_, ?_, ?_, ?_⟩
    · rw [Adjacent, disagreeing_samples]
    all_goals norm_num [plainSample, FixSample.distanceTo, distanceBetween, FixSample.position,
      degreesApart, reachableRadiusM, MAX_ROAD_SPEED_MS, MAX_ROAD_SPEED_KMH, QUANTISATION_M,
      EXACT_S, abs_of_pos, abs_of_neg]
  have none := (at_of_contradicted contradicted).mp (refuses _ _ contradicted)
  norm_num [disagreeing, FixTrack.new, plainSample, abs_of_pos, abs_of_neg] at none

end DashcamStats.Osd
