import DashcamStats.Library.Blocks
import DashcamStats.Osd.Outliers
import DashcamStats.Osd.Surrounded

namespace DashcamStats.Pipeline

open Osd (Number Fix Verdict GpsReason GpsQuality Detail classify coordinateProblem
  isNoFixPlaceholder placeVerdict padded padding copyOf IsPlace far distanceBetween)

inductive GpsSource where
  | direct
  | pairedCamera
  | interpolated
  | contextRepaired
  | none_
  deriving DecidableEq

inductive GpsStatus where
  | valid
  | noFix
  | parseFailed
  | rejected
  | recovered
  deriving DecidableEq

inductive RowProblem where
  | stored (text : List Char)
  | verdict (detail : Detail)
  deriving DecidableEq

/-- The entries of `quality_json` that are read or written -/
structure Quality where
  gpsStatus : Option GpsStatus
  gpsSource : Option GpsSource
  gpsReason : Option GpsReason
  interpolated : Bool
  problems : List RowProblem
  deriving DecidableEq

-- `id` tells one row object from another.
structure TelemetryPoint where
  id : ℕ
  tOffsetS : Option ℚ
  lat : Option Number
  lon : Option Number
  headingDeg : Option ℚ
  hasFix : Bool
  gpsQuality : Option GpsQuality
  gpsReason : Option GpsReason
  quality : Quality
  deriving DecidableEq

def TelemetryPoint.offset (point : TelemetryPoint) : ℚ := point.tOffsetS.getD 0

def TelemetryPoint.located (point : TelemetryPoint) : Bool :=
  point.hasFix && point.lat.isSome && point.lon.isSome

def TelemetryPoint.fix (point : TelemetryPoint) : Fix :=
  { tS := point.offset
    lat := point.lat
    lon := point.lon
    synthetic := decide (point.quality.gpsSource = some .pairedCamera)
    noFix := false }

def orderedRows (target : List TelemetryPoint) : List TelemetryPoint :=
  (target.filter (·.located)).mergeSort fun a b => decide (a.offset ≤ b.offset)

def revert (point : TelemetryPoint) (verdict : Verdict) : TelemetryPoint :=
  { point with
    quality :=
      { gpsStatus := some .rejected
        gpsSource := some .none_
        gpsReason := verdict.reasons.head?
        interpolated := false
        problems := point.quality.problems ++ [.verdict verdict.detail] }
    lat := none
    lon := none
    headingDeg := none
    hasFix := false
    gpsQuality := some .REJECTED
    gpsReason := verdict.reasons.head? }

section

variable (haversineM : ℚ → ℚ → ℚ → ℚ → ℚ)

def judged (target : List TelemetryPoint) : List (TelemetryPoint × Verdict) :=
  if (orderedRows target).length < 3 then []
  else (orderedRows target).zip (classify haversineM ((orderedRows target).map (·.fix)))

-- `filled` holds the ids of the rows that were filled.
def refusals (target : List TelemetryPoint) (filled : List ℕ) : List (TelemetryPoint × Verdict) :=
  (judged haversineM target).filter fun entry =>
    decide (entry.2.quality = .REJECTED) && decide (entry.1.id ∈ filled)

def afterRefusals (refused : List (TelemetryPoint × Verdict)) (point : TelemetryPoint) :
    TelemetryPoint :=
  match refused.find? (fun entry => decide (entry.1.id = point.id)) with
  | some entry => revert point entry.2
  | none => point

def revertImplausible (target : List TelemetryPoint) (filled : List ℕ) :
    List TelemetryPoint × ℕ :=
  (target.map (afterRefusals (refusals haversineM target filled)),
    (refusals haversineM target filled).length)

def kept (target : List TelemetryPoint) (filled : List ℕ) (point : TelemetryPoint) : Bool :=
  decide (point ∈ ( revertImplausible haversineM target filled).1)

end

/-- `row` was filled in a timeline where all that was not filled is `own`. -/
structure FilledIn (own : List TelemetryPoint) (row : TelemetryPoint)
    (target : List TelemetryPoint) (filled : List ℕ) : Prop where
  ids : (target.map (·.id)).Nodup
  own : target.filter (fun point => decide (point.id ∉ filled)) = own
  present : row ∈ target
  fresh : row.id ∈ filled
  copied : ∀ point ∈ target, point.id ∈ filled → point.located = true ∧
    point.quality.gpsSource = some .pairedCamera

section

variable {haversineM : ℚ → ℚ → ℚ → ℚ → ℚ} {own target : List TelemetryPoint}
variable {row : TelemetryPoint} {filled : List ℕ}

theorem mem_ordered {point : TelemetryPoint} :
    point ∈ orderedRows target ↔ point ∈ target ∧ point.located = true := by
  rw [orderedRows, List.mem_mergeSort, List.mem_filter]

theorem ordered_length : (orderedRows target).length = (target.filter (·.located)).length :=
  List.length_mergeSort _

theorem eq_of_id (ids : (target.map (·.id)).Nodup) {a b : TelemetryPoint} (first : a ∈ target)
    (second : b ∈ target) (same : a.id = b.id) : a = b :=
  List.inj_on_of_nodup_map ids first second same

theorem judged_mem {entry : TelemetryPoint × Verdict} (among : entry ∈ judged haversineM target) :
    entry.1 ∈ target := by
  unfold judged at among
  split_ifs at among
  · simp at among
  · exact (mem_ordered.mp (List.of_mem_zip among).1).1

theorem judged_unique (ids : (target.map (·.id)).Nodup) {one other : Verdict}
    (first : (row, one) ∈ judged haversineM target)
    (second : (row, other) ∈ judged haversineM target) : one = other := by
  have nodup : (orderedRows target).Nodup :=
    (List.mergeSort_perm _ _).nodup_iff.mpr (ids.of_map.filter _)
  unfold judged at first second
  split_ifs at first second
  · simp at first
  · obtain ⟨i, here⟩ := List.mem_iff_getElem?.mp first
    obtain ⟨j, there⟩ := List.mem_iff_getElem?.mp second
    obtain ⟨rowI, verdictI⟩ := List.getElem?_zip_eq_some.mp here
    obtain ⟨rowJ, verdictJ⟩ := List.getElem?_zip_eq_some.mp there
    obtain rfl := (List.getElem?_inj (List.getElem?_eq_some_iff.mp rowI).1 nodup).mp
      (rowI.trans rowJ.symm)
    exact Option.some.inj (verdictI.symm.trans verdictJ)

theorem kept_iff (within : FilledIn own row target filled) :
    kept haversineM target filled row = true ↔
      ∀ verdict, (row, verdict) ∈ judged haversineM target → verdict.quality ≠ .REJECTED := by
  have located := (within.copied row within.present within.fresh).1
  rw [kept, decide_eq_true_iff, revertImplausible, List.mem_map]
  constructor
  · rintro ⟨point, among, same⟩ verdict entry rejected
    have refused : (row, verdict) ∈ refusals haversineM target filled :=
      List.mem_filter.mpr ⟨entry, by simp [rejected, within.fresh]⟩
    unfold afterRefusals at same
    split at same
    · rw [← same] at located
      simp [revert, TelemetryPoint.located] at located
    · rename_i none_
      subst same
      have other := List.find?_eq_none.mp none_ _ refused
      simp at other
  · intro accepted
    refine ⟨row, within.present, ?_⟩
    unfold afterRefusals
    split
    · rename_i entry found
      have same : entry.1.id = row.id := by simpa using List.find?_some found
      obtain ⟨inside, refused⟩ := List.mem_filter.mp (List.mem_of_find?_eq_some found)
      have equal := eq_of_id within.ids (judged_mem inside) within.present same
      have rejected : entry.2.quality = .REJECTED := by
        simpa using (Bool.and_eq_true_iff.mp refused).1
      exact absurd rejected (accepted entry.2 (by rw [← equal]; exact inside))
    · rfl

theorem judged_of_no_place (several : 3 ≤ (orderedRows target).length)
    (present : row ∈ orderedRows target) (undrawn : (placeVerdict row.fix).drawable = false)
    {verdict : Verdict} :
    (row, verdict) ∈ judged haversineM target ↔ verdict = placeVerdict row.fix := by
  rw [judged, if_neg several.not_gt, List.mem_iff_getElem?]
  constructor
  · rintro ⟨i, here⟩
    obtain ⟨point, judgement⟩ := List.getElem?_zip_eq_some.mp here
    have fix : ((orderedRows target).map (·.fix))[i]? = some row.fix := by
      rw [List.getElem?_map, point, Option.map_some]
    rw [Osd.classify_kept fix undrawn] at judgement
    exact (Option.some.inj judgement).symm
  · rintro rfl
    obtain ⟨i, point⟩ := List.mem_iff_getElem?.mp present
    have fix : ((orderedRows target).map (·.fix))[i]? = some row.fix := by
      rw [List.getElem?_map, point, Option.map_some]
    exact ⟨i, List.getElem?_zip_eq_some.mpr ⟨point, Osd.classify_kept fix undrawn⟩⟩

theorem kept_of_no_place (within : FilledIn own row target filled)
    (undrawn : (placeVerdict row.fix).drawable = false) :
    kept haversineM target filled row = true ↔
      (orderedRows target).length < 3 ∨ (placeVerdict row.fix).quality ≠ .REJECTED := by
  have located := (within.copied row within.present within.fresh).1
  have present : row ∈ orderedRows target := mem_ordered.mpr ⟨within.present, located⟩
  rw [kept_iff within]
  by_cases few : (orderedRows target).length < 3
  · simp [judged, few]
  · simp only [judged_of_no_place (not_lt.mp few) present undrawn, few, false_or, forall_eq]

theorem ordered_length_of_own (within : FilledIn own row target filled) :
    (own.filter (·.located)).length + 1 ≤ (orderedRows target).length := by
  have located := within.copied row within.present within.fresh
  rw [ordered_length, ← within.own, List.filter_filter]
  have split := List.length_eq_length_filter_add (l := target.filter (·.located))
    fun point => decide (point.id ∉ filled)
  have among : row ∈ (target.filter (·.located)).filter
      fun point => !decide (point.id ∉ filled) := by
    simp [within.present, within.fresh, located.1]
  have some_ := List.length_pos_of_mem among
  rw [split, List.filter_filter, List.filter_filter]
  rw [List.filter_filter] at some_
  simp only [Bool.and_comm] at some_ ⊢
  omega

def placeholder (row : TelemetryPoint) : Bool :=
  match row.lat, row.lon with
  | some lat, some lon => isNoFixPlaceholder lat lon
  | _, _ => false

end

def copyRow (centre : ℚ × ℚ) (point : TelemetryPoint) (id : ℕ) : TelemetryPoint :=
  { id
    tOffsetS := some point.offset
    lat := some (.finite centre.1)
    lon := some (.finite centre.2)
    headingDeg := none
    hasFix := true
    gpsQuality := some .INTERPOLATED
    gpsReason := none
    quality :=
      { gpsStatus := some .recovered
        gpsSource := some .pairedCamera
        gpsReason := none
        interpolated := false
        problems := [] } }

-- The ids of the copies start at `fresh`.
def withCopies (centre : ℚ × ℚ) (fresh : ℕ) (entry : TelemetryPoint × ℕ) : List TelemetryPoint :=
  if entry.1.located then
    (List.range 8).map (fun k => copyRow centre entry.1 (fresh + (16 * entry.2 + k))) ++
      entry.1 :: (List.range' 8 8).map fun k =>
        copyRow centre entry.1 (fresh + (16 * entry.2 + k))
  else [entry.1]

def crowd (centre : ℚ × ℚ) (fresh : ℕ) (base : List TelemetryPoint) : List TelemetryPoint :=
  base.zipIdx.flatMap (withCopies centre fresh)

def crowdFilled (fresh : ℕ) (base : List TelemetryPoint) (row : TelemetryPoint) : List ℕ :=
  row.id :: (List.range (16 * base.length)).map (fresh + ·)

section

variable {haversineM : ℚ → ℚ → ℚ → ℚ → ℚ} {own base target : List TelemetryPoint}
variable {row point : TelemetryPoint} {filled : List ℕ} {centre : ℚ × ℚ} {fresh : ℕ}
variable {entry : TelemetryPoint × ℕ}

theorem mem_withCopies (among : point ∈ withCopies centre fresh entry) :
    point = entry.1 ∨ ∃ k < 16, point = copyRow centre entry.1 (fresh + (16 * entry.2 + k)) := by
  unfold withCopies at among
  split_ifs at among
  · obtain copy | rest := List.mem_append.mp among
    · obtain ⟨k, range, rfl⟩ := List.mem_map.mp copy
      exact .inr ⟨k, (List.mem_range.mp range).trans (by omega), rfl⟩
    · obtain rfl | copy := List.mem_cons.mp rest
      · exact .inl rfl
      · obtain ⟨k, range, rfl⟩ := List.mem_map.mp copy
        exact .inr ⟨k, (List.mem_range'_1.mp range).2, rfl⟩
  · exact .inl (List.mem_singleton.mp among)

theorem withCopies_ids (old : entry.1.id < fresh) :
    ((withCopies centre fresh entry).map (·.id)).Nodup := by
  unfold withCopies
  split_ifs
  · rw [List.map_append, List.map_cons, List.nodup_middle, ← List.map_append, ← List.map_append,
      show List.range 8 ++ List.range' 8 8 = List.range 16 from rfl, List.map_map]
    refine List.nodup_cons.mpr ⟨fun among => ?_, List.nodup_range.map fun a b same => ?_⟩
    · obtain ⟨k, -, same⟩ := List.mem_map.mp among
      change fresh + (16 * entry.2 + k) = entry.1.id at same
      omega
    · change fresh + (16 * entry.2 + a) = fresh + (16 * entry.2 + b) at same
      omega
  · simp

theorem crowd_ids (ids : (base.map (·.id)).Nodup) (old : ∀ point ∈ base, point.id < fresh) :
    ((crowd centre fresh base).map (·.id)).Nodup := by
  rw [crowd, List.map_flatMap, List.nodup_flatMap]
  refine ⟨fun entry among => withCopies_ids (old _ (List.fst_mem_of_mem_zipIdx among)), ?_⟩
  refine List.pairwise_iff_getElem.mpr fun a b insideA insideB less => ?_
  rw [List.length_zipIdx] at insideA insideB
  have apart : base[a].id ≠ base[b].id := fun same => by
    have equal := List.inj_on_of_nodup_map ids (List.getElem_mem insideA) (List.getElem_mem insideB)
      same
    have := (List.Nodup.getElem_inj_iff ids.of_map).mp equal
    omega
  have oldA := old _ (List.getElem_mem insideA)
  have oldB := old _ (List.getElem_mem insideB)
  simp only [List.getElem_zipIdx, Nat.zero_add]
  intro id first second
  obtain ⟨one, oneIn, rfl⟩ := List.mem_map.mp first
  obtain ⟨other, otherIn, same⟩ := List.mem_map.mp second
  obtain rfl | ⟨k, bound, rfl⟩ := mem_withCopies oneIn <;>
    obtain rfl | ⟨k', bound', rfl⟩ := mem_withCopies otherIn <;>
      simp only [copyRow] at same <;> omega

theorem FilledIn.base_ids (within : FilledIn own row target filled) :
    ((own ++ [row]).map (·.id)).Nodup := by
  rw [List.map_append, List.nodup_append]
  refine ⟨?_, by simp, ?_⟩
  · rw [← within.own]
    exact within.ids.sublist (List.filter_sublist.map _)
  · rintro a first b second rfl
    obtain ⟨point, among, same⟩ := List.mem_map.mp first
    rw [← within.own] at among
    have unfilled : point.id ∉ filled := of_decide_eq_true (List.mem_filter.mp among).2
    rw [List.map_singleton, List.mem_singleton] at second
    exact unfilled (same.trans second ▸ within.fresh)

theorem crowd_own (ids : ((own ++ [row]).map (·.id)).Nodup)
    (old : ∀ point ∈ own ++ [row], point.id < fresh) :
    (crowd centre fresh (own ++ [row])).filter
      (fun point => decide (point.id ∉ crowdFilled fresh (own ++ [row]) row)) = own := by
  have unfilled (point : TelemetryPoint) (among : point ∈ own ++ [row]) :
      point.id ∉ crowdFilled fresh (own ++ [row]) row ↔ point.id ≠ row.id := by
    have older := old point among
    simp only [crowdFilled, List.mem_cons, List.mem_map, List.mem_range, not_or, ne_eq,
      and_iff_left_iff_imp, not_exists, not_and]
    intro _ k _
    omega
  have alone : ∀ entry ∈ (own ++ [row]).zipIdx, (withCopies centre fresh entry).filter
      (fun point => decide (point.id ∉ crowdFilled fresh (own ++ [row]) row)) =
        [entry.1].filter fun point => decide (point.id ≠ row.id) := by
    intro entry listed
    obtain ⟨point, j⟩ := entry
    have base := List.fst_mem_of_mem_zipIdx listed
    have within : j < (own ++ [row]).length := List.snd_lt_of_mem_zipIdx listed
    have itself : [point].filter
        (fun point => decide (point.id ∉ crowdFilled fresh (own ++ [row]) row)) =
          [point].filter fun point => decide (point.id ≠ row.id) := by
      refine List.filter_congr fun other among => ?_
      obtain rfl := List.mem_singleton.mp among
      exact decide_eq_decide.mpr (unfilled other base)
    have dropped (ks : List ℕ) (small : ∀ k ∈ ks, k < 16) :
        (ks.map fun k => copyRow centre point (fresh + (16 * j + k))).filter
          (fun point => decide (point.id ∉ crowdFilled fresh (own ++ [row]) row)) = [] := by
      refine List.filter_eq_nil_iff.mpr fun copy among => ?_
      obtain ⟨k, listed, rfl⟩ := List.mem_map.mp among
      have bound := small k listed
      have isFilled : fresh + (16 * j + k) ∈ crowdFilled fresh (own ++ [row]) row :=
        List.mem_cons_of_mem _ (List.mem_map.mpr ⟨16 * j + k, List.mem_range.mpr (by omega), rfl⟩)
      exact fun unfilled => of_decide_eq_true unfilled isFilled
    unfold withCopies
    dsimp only
    split_ifs
    · rw [List.filter_append, dropped _ (by simp; omega), List.nil_append, ← itself]
      refine (List.filter_append [point] ((List.range' 8 8).map fun k =>
        copyRow centre point (fresh + (16 * j + k)))).trans ?_
      rw [dropped _ (by simp), List.append_nil]
    · exact itself
  have single (xs : List TelemetryPoint) : xs.zipIdx.flatMap (fun entry => [entry.1].filter
      fun point => decide (point.id ≠ row.id)) =
        xs.filter fun point => decide (point.id ≠ row.id) := by
    have plain : xs.zipIdx.flatMap (fun entry => [entry.1]) = xs := by
      rw [← List.map_eq_flatMap, List.zipIdx_map_fst]
    rw [← List.filter_flatMap, plain]
  rw [crowd, List.filter_flatMap, List.flatMap_congr alone, single, List.filter_append]
  rw [List.map_append, List.nodup_append] at ids
  have others : own.filter (fun point => decide (point.id ≠ row.id)) = own := by
    refine List.filter_eq_self.mpr fun point among => decide_eq_true ?_
    exact ids.2.2 point.id (List.mem_map_of_mem among) row.id (by simp)
  rw [others]
  simp

theorem filledIn_crowd (within : FilledIn own row target filled)
    (old : ∀ point ∈ own ++ [row], point.id < fresh) :
    FilledIn own row (crowd centre fresh (own ++ [row]))
      (crowdFilled fresh (own ++ [row]) row) where
  ids := crowd_ids within.base_ids old
  own := crowd_own within.base_ids old
  present := by
    refine List.mem_flatMap.mpr ⟨(row, own.length), ?_, ?_⟩
    · exact List.mem_zipIdx_iff_getElem?.mpr (by simp)
    · unfold withCopies
      split_ifs <;> simp
  fresh := List.mem_cons_self
  copied point among isFilled := by
    obtain ⟨entry, listed, inside⟩ := List.mem_flatMap.mp among
    obtain rfl | ⟨k, -, rfl⟩ := mem_withCopies inside
    · have base := List.fst_mem_of_mem_zipIdx listed
      have older := old _ base
      have same : entry.1.id = row.id := by
        obtain same | copy := List.mem_cons.mp isFilled
        · exact same
        · obtain ⟨k, -, equal⟩ := List.mem_map.mp copy
          omega
      rw [eq_of_id within.base_ids base (by simp) same]
      exact within.copied row within.present within.fresh
    · exact ⟨rfl, rfl⟩

theorem withCopies_offset : ∀ entry, ∀ point ∈ (withCopies centre fresh entry).filter (·.located),
    point.offset = entry.1.offset := by
  intro entry point among
  obtain rfl | ⟨k, -, rfl⟩ := mem_withCopies (List.mem_of_mem_filter among)
  · rfl
  · rfl

theorem withCopies_located (located : entry.1.located = true) :
    (withCopies centre fresh entry).filter (·.located) = withCopies centre fresh entry := by
  refine List.filter_eq_self.mpr fun point among => ?_
  obtain rfl | ⟨k, -, rfl⟩ := mem_withCopies among
  · exact located
  · rfl

theorem withCopies_unlocated (unlocated : entry.1.located = false) :
    (withCopies centre fresh entry).filter (·.located) = [] := by
  simp [withCopies, unlocated]

def crowdRows (base : List TelemetryPoint) : List (TelemetryPoint × ℕ) :=
  (base.zipIdx.mergeSort (Blocks.byKey fun entry => entry.1.offset)).filter (·.1.located)

theorem ordered_crowd : orderedRows (crowd centre fresh base) =
    (crowdRows base).flatMap (withCopies centre fresh) := by
  have sorted := @Blocks.mergeSort_flatMap _ _ _ _ TelemetryPoint.offset
    (fun entry : TelemetryPoint × ℕ => entry.1.offset)
    (fun entry => (withCopies centre fresh entry).filter (·.located)) withCopies_offset base.zipIdx
  rw [← List.filter_flatMap] at sorted
  refine sorted.trans ?_
  rw [crowdRows]
  induction base.zipIdx.mergeSort (Blocks.byKey fun entry => entry.1.offset) with
  | nil => rfl
  | cons entry rest ih =>
    rw [List.flatMap_cons, ih]
    cases located : entry.1.located with
    | true =>
      rw [@List.filter_cons_of_pos _ _ entry rest located, List.flatMap_cons,
        withCopies_located located]
    | false =>
      rw [@List.filter_cons_of_neg _ _ entry rest (by simp [located]),
        withCopies_unlocated located, List.nil_append]

theorem withCopies_fixes (located : entry.1.located = true) :
    (withCopies centre fresh entry).map (·.fix) = padding centre entry.1.fix := by
  rw [withCopies, if_pos located]
  rfl

theorem flatMap_fixes {entries : List (TelemetryPoint × ℕ)}
    (located : ∀ entry ∈ entries, entry.1.located = true) :
    (entries.flatMap (withCopies centre fresh)).map (·.fix) =
      padded centre (entries.map (·.1.fix)) := by
  induction entries with
  | nil => rfl
  | cons entry rest ih =>
    rw [List.flatMap_cons, List.map_append, withCopies_fixes (located entry (by simp)),
      ih fun other among => located other (by simp [among])]
    rfl

theorem ordered_crowd_row (present : row ∈ base) (located : row.located = true) :
    ∃ q, (orderedRows (crowd centre fresh base))[17 * q + 8]? = some row ∧
      ∃ fixes, (orderedRows (crowd centre fresh base)).map (·.fix) = padded centre fixes ∧
        3 ≤ (orderedRows (crowd centre fresh base)).length := by
  obtain ⟨j, here⟩ := List.mem_iff_getElem?.mp present
  have listed : (row, j) ∈ crowdRows base := by
    refine List.mem_filter.mpr ⟨List.mem_mergeSort.mpr ?_, located⟩
    exact List.mem_zipIdx_iff_getElem?.mpr here
  have all : ∀ entry ∈ crowdRows base, entry.1.located = true := fun entry among =>
    (List.mem_filter.mp among).2
  obtain ⟨before, after, split⟩ := List.append_of_mem listed
  have fixes := @flatMap_fixes centre fresh _ all
  rw [← ordered_crowd] at fixes
  refine ⟨before.length, ?_, _, fixes, ?_⟩
  · have early : (before.flatMap (withCopies centre fresh)).length = 17 * before.length := by
      have some_ := congrArg List.length (@flatMap_fixes centre fresh before fun entry among =>
        all entry (by rw [split]; simp [among]))
      rwa [List.length_map, Osd.padded_length, List.length_map] at some_
    rw [ordered_crowd, split, List.flatMap_append, List.flatMap_cons,
      List.getElem?_append_right (by omega), early, Nat.add_sub_cancel_left, withCopies,
      if_pos located]
    rfl
  · have length := congrArg List.length fixes
    rw [List.length_map, Osd.padded_length, List.length_map, split] at length
    rw [length]
    simp only [List.length_append, List.length_cons]
    omega

end

def Independent (haversineM : ℚ → ℚ → ℚ → ℚ → ℚ) (own : List TelemetryPoint)
    (row : TelemetryPoint) : Prop :=
  ∀ target filled target' filled', FilledIn own row target filled →
    FilledIn own row target' filled' →
      kept haversineM target filled row = kept haversineM target' filled' row

section

variable {haversineM : ℚ → ℚ → ℚ → ℚ → ℚ} {own target : List TelemetryPoint}
variable {row : TelemetryPoint} {filled : List ℕ} {centre : ℚ × ℚ} {fresh : ℕ}

theorem placeVerdict_drawable : (placeVerdict row.fix).drawable = true ↔
    coordinateProblem row.lat row.lon = none := by
  refine ⟨fun drawable => Osd.coordinateProblem_of_drawable drawable, fun place => ?_⟩
  have same : coordinateProblem row.fix.lat row.fix.lon = none := place
  rw [placeVerdict, if_neg (by simp [TelemetryPoint.fix]), same]
  cases row.fix.synthetic <;> rfl

theorem placeVerdict_quality (bad : coordinateProblem row.lat row.lon ≠ none) :
    (placeVerdict row.fix).quality = .REJECTED ↔ placeholder row = false := by
  have other : coordinateProblem row.fix.lat row.fix.lon ≠ none := bad
  obtain ⟨problem, found⟩ := Option.ne_none_iff_exists'.mp other
  rw [placeVerdict, if_neg (by simp [TelemetryPoint.fix]), found]
  unfold Osd.placeRefusal placeholder TelemetryPoint.fix
  dsimp only
  cases row.lat with
  | none => simp
  | some lat =>
    cases row.lon with
    | none => simp
    | some lon => cases same : isNoFixPlaceholder lat lon <;> simp [same]

theorem no_place_of_placeholder (h : placeholder row = true) :
    coordinateProblem row.lat row.lon ≠ none := by
  intro place
  obtain ⟨y, x, lat, lon⟩ := Osd.coordinateProblem_none place
  rw [placeholder, lat, lon] at h
  rw [lat, lon, coordinateProblem] at place
  simp only [h, if_true] at place
  split_ifs at place

theorem exists_fresh (base : List TelemetryPoint) : ∃ fresh, ∀ point ∈ base, point.id < fresh := by
  induction base with
  | nil => exact ⟨0, by simp⟩
  | cons point rest ih =>
    obtain ⟨fresh, old⟩ := ih
    refine ⟨max fresh (point.id + 1), fun other among => ?_⟩
    obtain rfl | among := List.mem_cons.mp among
    · omega
    · have := old other among
      omega

theorem filledIn_alone (within : FilledIn own row target filled) :
    FilledIn own row (own ++ [row]) [row.id] where
  ids := within.base_ids
  own := by
    have ids := within.base_ids
    rw [List.map_append, List.nodup_append] at ids
    have others : own.filter (fun point => decide (point.id ∉ [row.id])) = own := by
      refine List.filter_eq_self.mpr fun point among => decide_eq_true ?_
      have apart := ids.2.2 point.id (List.mem_map_of_mem among) row.id (by simp)
      simpa using apart
    rw [List.filter_append, others]
    simp
  present := by simp
  fresh := by simp
  copied point among isFilled := by
    have same := eq_of_id within.base_ids among (by simp) (List.mem_singleton.mp isFilled)
    rw [same]
    exact within.copied row within.present within.fresh

theorem kept_in_crowd (self : ∀ p, distanceBetween haversineM p p = 0)
    (symm : ∀ p q, distanceBetween haversineM p q = distanceBetween haversineM q p)
    (valid : IsPlace centre) (within : FilledIn own row target filled)
    (place : coordinateProblem row.lat row.lon = none)
    (old : ∀ point ∈ own ++ [row], point.id < fresh) :
    kept haversineM (crowd centre fresh (own ++ [row])) (crowdFilled fresh (own ++ [row]) row) row =
      !far haversineM centre row.fix := by
  have located := (within.copied row within.present within.fresh).1
  have filledIn := @filledIn_crowd own target row filled centre fresh within old
  obtain ⟨q, here, fixes, mapped, several⟩ := @ordered_crowd_row (own ++ [row]) row centre fresh
    (by simp) located
  have surrounded := @Osd.surrounded_padded centre fixes valid
  have drawable := placeVerdict_drawable.mpr place
  have standing : (padded centre fixes)[17 * q + 8]? = some row.fix := by
    rw [← mapped, List.getElem?_map, here, Option.map_some]
  have middle : (17 * q + 8) % 17 = 8 := by omega
  have listed (verdict : Verdict)
      (found : (classify haversineM (padded centre fixes))[17 * q + 8]? = some verdict) :
      (row, verdict) ∈ judged haversineM (crowd centre fresh (own ++ [row])) := by
    rw [judged, if_neg several.not_gt, mapped]
    exact List.mem_of_getElem? (List.getElem?_zip_eq_some.mpr ⟨here, found⟩)
  cases isFar : far haversineM centre row.fix with
  | true =>
    obtain ⟨verdict, found, rejected⟩ :=
      Osd.classify_refused self surrounded standing middle drawable isFar
    rw [Bool.eq_false_iff.mpr fun keep =>
      (kept_iff filledIn).mp keep verdict (listed verdict found) rejected]
    rfl
  | false =>
    obtain ⟨verdict, found, accepted⟩ :=
      Osd.classify_stays self symm surrounded standing middle drawable isFar
    refine (kept_iff filledIn).mpr fun other among => ?_
    obtain rfl := judged_unique filledIn.ids among (listed verdict found)
    exact accepted

end

def parkedRow (id : ℕ) (offset lat : ℚ) (source : GpsSource) : TelemetryPoint :=
  { id
    tOffsetS := some offset
    lat := some (.finite lat)
    lon := some (.finite 138)
    headingDeg := none
    hasFix := true
    gpsQuality := none
    gpsReason := none
    quality :=
      { gpsStatus := none
        gpsSource := some source
        gpsReason := none
        interpolated := false
        problems := [] } }

def parkedOwn : List TelemetryPoint :=
  [parkedRow 3 3 (-34) .direct, parkedRow 4 4 (-34) .direct, parkedRow 5 5 (-34) .direct]

def wrongCopy : TelemetryPoint := parkedRow 6 6 (-341 / 10) .pairedCamera

theorem wrongCopy_filled : FilledIn parkedOwn wrongCopy (parkedOwn ++ [wrongCopy]) [6] where
  ids := by decide
  own := by decide
  present := by simp
  fresh := by decide
  copied := by decide

theorem flatDistance_symm (p q : ℚ × ℚ) :
    distanceBetween Osd.flatDistance p q = distanceBetween Osd.flatDistance q p := by
  simp only [distanceBetween, Osd.flatDistance, abs_sub_comm]

theorem reachable_short : Osd.reachableRadiusM 0 < 111000 * 50 := by
  norm_num [Osd.reachableRadiusM, Osd.MAX_ROAD_SPEED_MS, Osd.MAX_ROAD_SPEED_KMH,
    Osd.QUANTISATION_M]

theorem flatDistance_distant (p : ℚ × ℚ) (valid : IsPlace p) : ∃ q, IsPlace q ∧
    Osd.reachableRadiusM 0 < distanceBetween Osd.flatDistance q p := by
  have inside : |p.2| ≤ 180 := by
    by_contra out
    have range : Osd.MAX_LATITUDE < |p.1| ∨ Osd.MAX_LONGITUDE < |p.2| := .inr (not_le.mp out)
    simp [IsPlace, coordinateProblem, range] at valid
  have place (y : ℚ) (far : |y| = 50) : IsPlace (y, p.2) := by
    have range : ¬(Osd.MAX_LATITUDE < |y| ∨ Osd.MAX_LONGITUDE < |p.2|) := by
      rw [far, Osd.MAX_LATITUDE, Osd.MAX_LONGITUDE]
      norm_num [inside]
    rw [IsPlace, coordinateProblem, if_neg range, if_neg]
    rw [isNoFixPlaceholder, Number.absLe, far]
    norm_num [Osd.NO_FIX_EPSILON]
  have apart (y : ℚ) (far : 50 ≤ |y - p.1|) :
      Osd.reachableRadiusM 0 < distanceBetween Osd.flatDistance (y, p.2) p := by
    have distance : distanceBetween Osd.flatDistance (y, p.2) p = 111000 * |y - p.1| := by
      simp [distanceBetween, Osd.flatDistance]
    rw [distance]
    exact reachable_short.trans_le (by linarith)
  obtain south | north := le_total p.1 0
  · exact ⟨(50, p.2), place 50 (by norm_num), apart 50 (by rw [abs_of_nonneg] <;> linarith)⟩
  · exact ⟨(-50, p.2), place (-50) (by norm_num), apart (-50) (by
      rw [abs_of_nonpos] <;> linarith)⟩

end DashcamStats.Pipeline
