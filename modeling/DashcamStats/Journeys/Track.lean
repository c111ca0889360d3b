import DashcamStats.Osd.Validate

namespace DashcamStats.Journeys

open Datetime (timedelta totalSeconds wholeSecond wholeSecond_mono lt_of_wholeSecond_lt)
open Osd (clockIsPlausible)

/-- What `single_track` reads of a row of `telemetry_points` -/
structure TelemetryRow where
  recordingId : ℤ
  tOffsetS : Option ℚ
  lat : Option ℚ
  lon : Option ℚ
  speedKmh : Option ℚ
  capturedAt : Option ℤ
  breaksSegment : Bool

structure TrackPoint where
  recordingId : ℤ
  tOffsetS : ℚ
  lat : Option ℚ
  lon : Option ℚ
  speedKmh : Option ℚ
  at_ : ℤ
  breaksSegment : Bool
  deriving DecidableEq

def momentOf (capturedAt startedAt : Option ℤ) (tOffsetS : Option ℚ) : Option ℤ :=
  let expected := startedAt.map (· + timedelta (tOffsetS.getD 0))
  if capturedAt.isSome && clockIsPlausible capturedAt expected then capturedAt else expected

structure Placed where
  at_ : ℤ
  isFront : Bool
  point : TrackPoint
  deriving DecidableEq

def Placed.second (item : Placed) : ℤ := wholeSecond item.at_

section

variable (starts : ℤ → Option ℤ) (frontIds : ℤ → Bool)

def place (row : TelemetryRow) : Option Placed :=
  (momentOf row.capturedAt (starts row.recordingId) row.tOffsetS).map fun at_ =>
    { at_
      isFront := frontIds row.recordingId
      point :=
        { recordingId := row.recordingId
          tOffsetS := row.tOffsetS.getD 0
          lat := row.lat
          lon := row.lon
          speedKmh := row.speedKmh
          at_
          breaksSegment := row.breaksSegment } }

-- `key=lambda item: (item[0], not item[1])`
def Placed.sortsBefore (a b : Placed) : Bool :=
  decide (a.at_ < b.at_) || (decide (a.at_ = b.at_) && (a.isFront || !b.isFront))

def choose (chosen : List Placed) (item : Placed) : List Placed :=
  match chosen.find? fun other => decide (other.second = item.second) with
  | none => chosen ++ [item]
  | some current =>
    if item.isFront && !current.isFront then
      chosen.map fun other => if other.second = item.second then item else other
    else chosen

def chooseAll (items : List Placed) : List Placed :=
  (items.mergeSort Placed.sortsBefore).foldl choose []

-- `ordered`
def mergedTrack (items : List Placed) : List TrackPoint :=
  ((chooseAll items).map (·.point)).mergeSort fun a b => decide (a.at_ ≤ b.at_)

def dropSentinel (previous : Option ℤ) (point : TrackPoint) : TrackPoint :=
  if point.breaksSegment && previous.any (· ≠ point.recordingId) then
    { point with breaksSegment := false }
  else point

def dropSentinels : Option ℤ → List TrackPoint → List TrackPoint
  | _, [] => []
  | previous, point :: rest =>
    dropSentinel previous point :: dropSentinels (some point.recordingId) rest

def placed (points : List TelemetryRow) : List Placed := points.filterMap (place starts frontIds)

def singleTrack (points : List TelemetryRow) : List TrackPoint :=
  dropSentinels none (mergedTrack (placed starts frontIds points))

end

theorem sortsBefore_iff (a b : Placed) : a.sortsBefore b = true ↔
    a.at_ < b.at_ ∨ a.at_ = b.at_ ∧ (b.isFront = true → a.isFront = true) := by
  unfold Placed.sortsBefore
  cases a.isFront <;> cases b.isFront <;> simp

theorem sortsBefore_trans (a b c : Placed) (first : a.sortsBefore b = true)
    (second : b.sortsBefore c = true) : a.sortsBefore c = true := by
  rw [sortsBefore_iff] at *
  obtain less | ⟨same, front⟩ := first
  · obtain less' | ⟨same', -⟩ := second <;> exact Or.inl (by omega)
  · obtain less' | ⟨same', front'⟩ := second
    · exact Or.inl (by omega)
    · exact Or.inr ⟨same.trans same', fun h => front (front' h)⟩

theorem sortsBefore_total (a b : Placed) : (a.sortsBefore b || b.sortsBefore a) = true := by
  rw [Bool.or_eq_true, sortsBefore_iff, sortsBefore_iff]
  obtain less | same | more := lt_trichotomy a.at_ b.at_
  · exact Or.inl (Or.inl less)
  · cases a.isFront <;> cases b.isFront <;> simp [same]
  · exact Or.inr (Or.inl more)

theorem at_le_of_sortsBefore {a b : Placed} (h : a.sortsBefore b = true) : a.at_ ≤ b.at_ := by
  obtain less | ⟨same, -⟩ := (sortsBefore_iff a b).mp h <;> omega

def Placed.ties (a b : Placed) : Bool := decide (b.at_ = a.at_ ∧ b.isFront = a.isFront)

theorem ties_iff (a b : Placed) : a.ties b = true ↔ b.at_ = a.at_ ∧ b.isFront = a.isFront := by
  simp [Placed.ties]

theorem filter_ties (items : List Placed) (a : Placed) :
    (items.mergeSort Placed.sortsBefore).filter a.ties = items.filter a.ties := by
  have tied : (items.filter a.ties).Pairwise (fun x y => x.sortsBefore y = true) := by
    refine List.pairwise_of_forall_mem_list fun x hx y hy => (sortsBefore_iff x y).mpr ?_
    have first := (ties_iff a x).mp (List.mem_filter.mp hx).2
    have second := (ties_iff a y).mp (List.mem_filter.mp hy).2
    exact Or.inr ⟨first.1.trans second.1.symm, fun h => by rw [first.2, ← second.2, h]⟩
  have sub := (List.sublist_mergeSort sortsBefore_trans sortsBefore_total tied
    List.filter_sublist).filter a.ties
  rw [List.filter_filter] at sub
  simp only [Bool.and_self] at sub
  have lengths := ((List.mergeSort_perm items Placed.sortsBefore).filter a.ties).length_eq
  exact (sub.eq_of_length lengths.symm).symm

structure Best (items : List Placed) (item : Placed) : Prop where
  mem : item ∈ items
  front : ∀ other ∈ items, other.second = item.second → other.isFront = true →
    item.isFront = true
  earliest : ∀ other ∈ items, other.second = item.second → other.isFront = item.isFront →
    item.at_ ≤ other.at_

-- The first supplied of the best
structure Kept (items : List Placed) (item : Placed) : Prop extends Best items item where
  first : items.find? item.ties = some item

theorem Best.ties {items : List Placed} {x y : Placed} (hx : Best items x) (hy : Best items y)
    (same : x.second = y.second) : x.ties y = true := by
  have camera : y.isFront = x.isFront :=
    Bool.eq_iff_iff.mpr ⟨hx.front y hy.mem same.symm, hy.front x hx.mem same⟩
  have one := hx.earliest y hy.mem same.symm camera
  have two := hy.earliest x hx.mem same camera.symm
  exact (ties_iff x y).mpr ⟨by omega, camera⟩

theorem Kept.unique {items : List Placed} {x y : Placed} (hx : Kept items x) (hy : Kept items y)
    (same : x.second = y.second) : x = y := by
  have tied := (ties_iff x y).mp (hx.toBest.ties hy.toBest same)
  have classes : x.ties = y.ties := by
    funext z
    rw [Placed.ties, Placed.ties, tied.1, tied.2]
  exact Option.some.inj (hx.first.symm.trans (classes ▸ hy.first))

def pick (items : List Placed) : Option Placed := (items.find? (·.isFront)).or items.head?

def winner (items : List Placed) (second : ℤ) : Option Placed :=
  pick ((items.mergeSort Placed.sortsBefore).filter fun item => decide (item.second = second))

theorem pick_append_singleton (items : List Placed) (item : Placed) :
    pick (items ++ [item]) = match pick items with
      | none => some item
      | some current => if item.isFront && !current.isFront then some item else some current := by
  unfold pick
  cases items with
  | nil => cases isFront : item.isFront <;> simp [isFront]
  | cons head rest =>
    rw [List.find?_append]
    cases found : (head :: rest).find? (·.isFront) with
    | some current =>
      have front : current.isFront = true := by simpa using List.find?_some found
      simp [front]
    | none =>
      have back : head.isFront = false := by
        simpa using List.find?_eq_none.mp found head List.mem_cons_self
      cases isFront : item.isFront <;> simp [isFront, back]

theorem mem_of_pick {items : List Placed} {item : Placed} (h : pick items = some item) :
    item ∈ items := by
  obtain found | ⟨-, head⟩ := Option.or_eq_some_iff.mp h
  · exact List.mem_of_find?_eq_some found
  · exact List.mem_of_mem_head? head

theorem pick_isSome {items : List Placed} {item : Placed} (h : item ∈ items) :
    (pick items).isSome = true := by
  cases items with
  | nil => exact absurd h List.not_mem_nil
  | cons head rest => simp [pick]

theorem find?_ties_of_pick {items : List Placed} {item : Placed} (h : pick items = some item) :
    items.find? item.ties = some item := by
  have self : item.ties item = true := (ties_iff item item).mpr ⟨rfl, rfl⟩
  obtain found | ⟨-, head⟩ := Option.or_eq_some_iff.mp h
  · obtain ⟨front, before, after, rfl, others⟩ := List.find?_eq_some_iff_append.mp found
    refine List.find?_eq_some_iff_append.mpr ⟨self, before, after, rfl, fun other among => ?_⟩
    have back := others other among
    simp_all [Placed.ties]
  · obtain ⟨rest, rfl⟩ := List.head?_eq_some_iff.mp head
    rw [List.find?_cons_of_pos self]

theorem winner_kept {items : List Placed} {second : ℤ} {item : Placed}
    (h : winner items second = some item) : Kept items item ∧ item.second = second := by
  set sorted := items.mergeSort Placed.sortsBefore with sorted_def
  set within := sorted.filter fun other => decide (other.second = second) with within_def
  have member : item ∈ within := mem_of_pick h
  have same : item.second = second := by simpa [within_def] using (List.mem_filter.mp member).2
  have among : ∀ other, other ∈ within ↔ other ∈ items ∧ other.second = second := by
    simp [within_def, sorted_def]
  have pairwise : within.Pairwise (fun x y => x.sortsBefore y = true) :=
    (List.pairwise_mergeSort sortsBefore_trans sortsBefore_total items).filter _
  have first : items.find? item.ties = some item := by
    rw [← List.head?_filter, ← filter_ties, List.head?_filter]
    have inner := find?_ties_of_pick h
    rw [List.find?_filter] at inner
    rw [← inner]
    congr 1
    funext other
    cases tie : item.ties other with
    | false => simp
    | true =>
      have equal : other.second = second := by
        rw [← same, Placed.second, Placed.second, ((ties_iff item other).mp tie).1]
      simp [equal]
  refine ⟨{ mem := ((among item).mp member).1, first, front := ?_, earliest := ?_ }, same⟩
  · intro other mem sameSecond front
    obtain found | ⟨none, -⟩ := Option.or_eq_some_iff.mp h
    · exact List.find?_some found
    · exact absurd front
        (List.find?_eq_none.mp none other ((among other).mpr ⟨mem, sameSecond.trans same⟩))
  · intro other mem sameSecond camera
    have inside := (among other).mpr ⟨mem, sameSecond.trans same⟩
    obtain found | ⟨-, head⟩ := Option.or_eq_some_iff.mp h
    · obtain ⟨front, before, after, split, others⟩ := List.find?_eq_some_iff_append.mp found
      rw [show within = before ++ item :: after from split] at inside pairwise
      have late : other = item ∨ other ∈ after := by
        obtain early | late := List.mem_append.mp inside
        · have back := others other early
          simp_all
        · exact List.mem_cons.mp late
      obtain rfl | late := late
      · exact le_refl _
      · exact at_le_of_sortsBefore
          ((List.pairwise_cons.mp (List.pairwise_append.mp pairwise).2.1).1 other late)
    · obtain ⟨rest, split⟩ := List.head?_eq_some_iff.mp head
      rw [show within = item :: rest from split] at inside pairwise
      obtain rfl | late := List.mem_cons.mp inside
      · exact le_refl _
      · exact at_le_of_sortsBefore ((List.pairwise_cons.mp pairwise).1 other late)

theorem winner_iff {items : List Placed} {second : ℤ} {item : Placed} :
    winner items second = some item ↔ Kept items item ∧ item.second = second := by
  refine ⟨winner_kept, fun ⟨kept, same⟩ => ?_⟩
  have inside : item ∈ (items.mergeSort Placed.sortsBefore).filter
      fun other => decide (other.second = second) := by simpa [same] using kept.mem
  obtain ⟨other, found⟩ := Option.isSome_iff_exists.mp (pick_isSome inside)
  obtain ⟨kept', same'⟩ := winner_kept found
  rw [kept.unique kept' (same.trans same'.symm)]
  exact found

structure Chosen (before : List Placed) (chosen : List Placed) : Prop where
  ascending : chosen.Pairwise (·.second < ·.second)
  found : ∀ second, chosen.find? (fun other => decide (other.second = second)) =
    pick (before.filter fun other => decide (other.second = second))

theorem find?_of_ascending {chosen : List Placed} {item : Placed}
    (ascending : chosen.Pairwise (·.second < ·.second)) (h : item ∈ chosen) :
    chosen.find? (fun other => decide (other.second = item.second)) = some item := by
  obtain ⟨before, after, rfl⟩ := List.append_of_mem h
  refine List.find?_eq_some_iff_append.mpr ⟨by simp, before, after, rfl, fun other early => ?_⟩
  have less := (List.pairwise_append.mp ascending).2.2 other early item List.mem_cons_self
  simp [less.ne]

theorem Chosen.mem {before chosen : List Placed} (inv : Chosen before chosen) {item : Placed}
    (h : item ∈ chosen) : item ∈ before := by
  have found := find?_of_ascending inv.ascending h
  rw [inv.found] at found
  exact (List.mem_filter.mp (mem_of_pick found)).1

theorem Chosen.step {before chosen : List Placed} {item : Placed} (inv : Chosen before chosen)
    (later : ∀ other ∈ before, other.second ≤ item.second) :
    Chosen (before ++ [item]) (choose chosen item) := by
  have picked (second : ℤ) :
      pick ((before ++ [item]).filter fun o => decide (o.second = second)) =
      if item.second = second then
        match chosen.find? fun other => decide (other.second = item.second) with
        | none => some item
        | some current => if item.isFront && !current.isFront then some item else some current
      else chosen.find? fun other => decide (other.second = second) := by
    rw [List.filter_append, List.filter_singleton, inv.found, inv.found]
    split_ifs with same
    · subst same
      simp [pick_append_singleton]
    · simp [same]
  unfold choose
  cases current? : chosen.find? fun other => decide (other.second = item.second) with
  | none =>
    have absent : ∀ other ∈ chosen, other.second ≠ item.second := by
      simpa using List.find?_eq_none.mp current?
    refine ⟨List.pairwise_append.mpr ⟨inv.ascending, List.pairwise_singleton _ _, ?_⟩, ?_⟩
    · intro other among last isLast
      rw [List.mem_singleton.mp isLast]
      exact lt_of_le_of_ne (later other (inv.mem among)) (absent other among)
    · intro second
      rw [picked, current?, List.find?_append, List.find?_singleton]
      by_cases same : item.second = second
      · subst same
        simp [current?]
      · simp [same]
  | some current =>
    simp only [current?] at picked
    by_cases better : (item.isFront && !current.isFront) = true
    · simp only [better, if_true] at picked ⊢
      have seconds (o : Placed) :
          (if o.second = item.second then item else o).second = o.second := by
        split_ifs with same
        · exact same.symm
        · rfl
      refine ⟨List.pairwise_map.mpr ?_, fun second => ?_⟩
      · simpa only [seconds] using inv.ascending
      · rw [picked, List.find?_map]
        have same : ((fun o : Placed => decide (o.second = second)) ∘
            fun o => if o.second = item.second then item else o) =
            fun o => decide (o.second = second) := by
          funext o
          simp only [Function.comp, seconds]
        rw [same]
        split_ifs with equal
        · subst equal
          have equal : current.second = item.second := by simpa using List.find?_some current?
          simp [current?, equal]
        · cases other? : chosen.find? fun o => decide (o.second = second) with
          | none => rfl
          | some other =>
            have equal' : other.second = second := by simpa using List.find?_some other?
            simp [equal', Ne.symm equal]
    · simp only [better, if_false, Bool.false_eq_true] at picked ⊢
      refine ⟨inv.ascending, fun second => ?_⟩
      rw [picked]
      split_ifs with equal
      · rw [← equal, current?]
      · rfl

theorem chosen_foldl (items : List Placed) (sorted : items.Pairwise (·.second ≤ ·.second)) :
    Chosen items (items.foldl choose []) := by
  induction items using List.reverseRecOn with
  | nil => exact ⟨List.Pairwise.nil, fun second => rfl⟩
  | append_singleton before item ih =>
    rw [List.foldl_append]
    obtain ⟨left, -, across⟩ := List.pairwise_append.mp sorted
    exact (ih left).step fun other among => across other among item List.mem_cons_self

theorem chosenAll (items : List Placed) :
    Chosen (items.mergeSort Placed.sortsBefore) (chooseAll items) :=
  chosen_foldl _ ((List.pairwise_mergeSort sortsBefore_trans sortsBefore_total items).imp
    fun h => wholeSecond_mono (at_le_of_sortsBefore h))

theorem mem_chooseAll {items : List Placed} {item : Placed} :
    item ∈ chooseAll items ↔ Kept items item := by
  have inv := chosenAll items
  constructor
  · intro among
    have found := find?_of_ascending inv.ascending among
    rw [inv.found] at found
    exact (winner_kept found).1
  · intro kept
    have found := winner_iff.mpr ⟨kept, rfl⟩
    rw [winner, ← inv.found] at found
    exact List.mem_of_find?_eq_some found

theorem mergedTrack_eq (items : List Placed) (own : ∀ item ∈ items, item.point.at_ = item.at_) :
    mergedTrack items = (chooseAll items).map (·.point) := by
  have inv := chosenAll items
  refine List.mergeSort_of_pairwise (List.pairwise_map.mpr ?_)
  refine inv.ascending.imp_of_mem fun {a b} ha hb less => ?_
  have mine (item : Placed) (among : item ∈ chooseAll items) : item.point.at_ = item.at_ :=
    own item (by simpa using inv.mem among)
  rw [mine a ha, mine b hb]
  exact decide_eq_true (lt_of_wholeSecond_lt less).le

def TrackPoint.unflagged (point : TrackPoint) : TrackPoint := { point with breaksSegment := false }

theorem unflagged_dropSentinel (previous : Option ℤ) (point : TrackPoint) :
    (dropSentinel previous point).unflagged = point.unflagged := by
  unfold dropSentinel
  split_ifs <;> rfl

theorem unflagged_dropSentinels (previous : Option ℤ) (points : List TrackPoint) :
    (dropSentinels previous points).map (·.unflagged) = points.map (·.unflagged) := by
  induction points generalizing previous with
  | nil => rfl
  | cons point rest ih =>
    rw [dropSentinels, List.map_cons, List.map_cons, ih, unflagged_dropSentinel]

theorem previous_cons (point : TrackPoint) (before : List TrackPoint) (previous : Option ℤ) :
    ((point :: before).getLast?.map (·.recordingId)).or previous =
      (before.getLast?.map (·.recordingId)).or (some point.recordingId) := by
  rw [List.getLast?_cons]
  cases before.getLast? <;> rfl

theorem mem_dropSentinels {points : List TrackPoint} {p : TrackPoint} (previous : Option ℤ) :
    p ∈ dropSentinels previous points ↔ ∃ before q after, points = before ++ q :: after ∧
      p = dropSentinel ((before.getLast?.map (·.recordingId)).or previous) q := by
  induction points generalizing previous with
  | nil => simp [dropSentinels]
  | cons point rest ih =>
    rw [dropSentinels, List.mem_cons, ih]
    constructor
    · rintro (rfl | ⟨before, q, after, rfl, rfl⟩)
      · exact ⟨[], point, rest, rfl, rfl⟩
      · exact ⟨point :: before, q, after, rfl, by rw [previous_cons]⟩
    · rintro ⟨before, q, after, split, rfl⟩
      cases before with
      | nil =>
        obtain ⟨rfl, rfl⟩ := List.cons.inj split
        exact Or.inl rfl
      | cons first before =>
        obtain ⟨rfl, rfl⟩ := List.cons.inj split
        exact Or.inr ⟨before, q, after, rfl, by rw [previous_cons]⟩

section

variable {starts : ℤ → Option ℤ} {frontIds : ℤ → Bool}

theorem place_eq_some {row : TelemetryRow} {item : Placed}
    (h : place starts frontIds row = some item) :
    item.isFront = frontIds row.recordingId ∧ item.point.recordingId = row.recordingId ∧
      item.point.tOffsetS = row.tOffsetS.getD 0 ∧ item.point.at_ = item.at_ := by
  obtain ⟨at_, -, rfl⟩ := Option.map_eq_some_iff.mp h
  exact ⟨rfl, rfl, rfl, rfl⟩

theorem mem_placed {points : List TelemetryRow} {item : Placed} :
    item ∈ placed starts frontIds points ↔
      ∃ row ∈ points, place starts frontIds row = some item := List.mem_filterMap

theorem placed_at {points : List TelemetryRow} {item : Placed}
    (h : item ∈ placed starts frontIds points) : item.point.at_ = item.at_ := by
  obtain ⟨row, -, one⟩ := mem_placed.mp h
  exact (place_eq_some one).2.2.2

theorem placed_front {points : List TelemetryRow} {item : Placed}
    (h : item ∈ placed starts frontIds points) :
    item.isFront = frontIds item.point.recordingId := by
  obtain ⟨row, -, one⟩ := mem_placed.mp h
  rw [(place_eq_some one).1, (place_eq_some one).2.1]

theorem singleTrack_eq (points : List TelemetryRow) : singleTrack starts frontIds points =
    dropSentinels none ((chooseAll (placed starts frontIds points)).map (·.point)) := by
  rw [singleTrack, mergedTrack_eq _ fun item h => placed_at h]

theorem unflagged_singleTrack (points : List TelemetryRow) :
    (singleTrack starts frontIds points).map (·.unflagged) =
      (chooseAll (placed starts frontIds points)).map (·.point.unflagged) := by
  rw [singleTrack_eq, unflagged_dropSentinels, List.map_map]
  rfl

theorem kept_of_mem {points : List TelemetryRow} {p : TrackPoint}
    (h : p ∈ singleTrack starts frontIds points) :
    ∃ item, Kept (placed starts frontIds points) item ∧ p.unflagged = item.point.unflagged := by
  have among := List.mem_map_of_mem (f := TrackPoint.unflagged) h
  rw [unflagged_singleTrack] at among
  obtain ⟨item, inside, same⟩ := List.mem_map.mp among
  exact ⟨item, mem_chooseAll.mp inside, same.symm⟩

theorem mem_of_kept {points : List TelemetryRow} {item : Placed}
    (h : Kept (placed starts frontIds points) item) :
    ∃ p ∈ singleTrack starts frontIds points, p.unflagged = item.point.unflagged := by
  have among := List.mem_map_of_mem (f := fun item : Placed => item.point.unflagged)
    (mem_chooseAll.mpr h)
  rw [← unflagged_singleTrack] at among
  exact List.mem_map.mp among

theorem ascending_singleTrack (points : List TelemetryRow) :
    (singleTrack starts frontIds points).Pairwise
      fun a b => wholeSecond a.at_ < wholeSecond b.at_ := by
  have inv := chosenAll (placed starts frontIds points)
  have mapped : ((singleTrack starts frontIds points).map (·.unflagged)).Pairwise
      fun a b => wholeSecond a.at_ < wholeSecond b.at_ := by
    rw [unflagged_singleTrack, List.pairwise_map]
    refine inv.ascending.imp_of_mem fun {a b} ha hb less => ?_
    have mine (item : Placed) (among : item ∈ chooseAll (placed starts frontIds points)) :
        item.point.unflagged.at_ = item.at_ :=
      placed_at (by simpa using inv.mem among)
    rw [mine a ha, mine b hb]
    exact less
  exact (List.pairwise_map (f := TrackPoint.unflagged)).mp mapped

end

end DashcamStats.Journeys
