import Mathlib.Tactic.NormNum
import DashcamStats.Tracking.Followed

namespace DashcamStats.Tracking

variable {Filter Frame : Type} {geometry : Geometry Filter Frame} {trackBuffer : ℤ}
variable {inputs : List (Update Frame)} {u : Update Frame}

def seenOf (detections : List Sighting) (col : Nat) : Nat × Nat :=
  match detections[col]? with
  | some sighting => sighting.seen
  | none => (0, 0)

theorem seenOf_of_some {detections : List Sighting} {col : Nat} {sighting : Sighting}
    (found : detections[col]? = some sighting) : seenOf detections col = sighting.seen := by
  simp [seenOf, found]

theorem seenOf_mem {detections : List Sighting} {col : Nat} (small : col < detections.length) :
    seenOf detections col ∈ detections.map Sighting.seen := by
  rw [seenOf_of_some (List.getElem?_eq_getElem small)]
  exact List.mem_map_of_mem (List.getElem_mem small)

theorem seenOf_nodup {detections : List Sighting} {cols : List Nat}
    (distinct : (detections.map Sighting.seen).Nodup) (nodup : cols.Nodup)
    (small : ∀ col ∈ cols, col < detections.length) :
    (cols.map (seenOf detections)).Nodup := by
  apply List.Nodup.map_on _ nodup
  intro a first b second same
  have left := List.getElem?_eq_getElem (small a first)
  have right := List.getElem?_eq_getElem (small b second)
  rw [seenOf_of_some left, seenOf_of_some right] at same
  have equal := List.inj_on_of_nodup_map distinct
    (List.getElem_mem (small a first)) (List.getElem_mem (small b second)) same
  exact (List.Nodup.getElem_inj_iff (List.Nodup.of_map _ distinct)).mp equal

namespace ByteTracker

variable {s : ByteTracker Filter} {before done : List (Nat × Nat)} {still : Finset Nat}
variable {detections : List Sighting} {candidates : List Nat} {threshold : Score}

theorem absorb_classes (index : Nat) (sighting : Sighting) :
    (s.absorb geometry u index sighting).active.map Track.classLabel =
      s.active.map Track.classLabel := by
  cases found : s.active[index]? with
  | none =>
    have big := List.getElem?_eq_none_iff.mp found
    simp [absorb, List.modify_eq_self big]
  | some track =>
    obtain ⟨front, back, shape, length, changed⟩ :=
      split_active geometry u sighting found
    rw [changed, shape]
    simp

theorem scores_above {active : List (Track Filter)} {row col : Nat} (low : masked < threshold)
    (above : ¬ (scores geometry active candidates detections).cell row col < threshold) :
    ∃ index track sighting, candidates[row]? = some index ∧ active[index]? = some track ∧
      detections[col]? = some sighting ∧ track.classLabel = sighting.detection.classLabel := by
  simp only [scores] at above
  split at above
  · rename_i track sighting joined found
    obtain ⟨index, candidate, here⟩ := Option.bind_eq_some_iff.mp joined
    split at above
    · exact absurd low above
    · rename_i same
      exact ⟨index, track, sighting, candidate, here, found, not_not.mp same⟩
  · exact absurd low above

theorem pairs_spec (of : ∀ sighting ∈ detections, sighting.Of inputs u)
    (nodup : candidates.Nodup) (classes : List String) :
    ∀ (pairs : List (Nat × Nat)) (sofar : Associating Filter),
      (pairs.map Prod.fst).Nodup →
      (∀ pair ∈ pairs, ∃ index sighting, candidates[pair.1]? = some index ∧
        index ∈ sofar.stillUnmatched ∧ detections[pair.2]? = some sighting ∧
        classes[index]? = some sighting.detection.classLabel) →
      sofar.tracker.active.map Track.classLabel = classes →
      Mid geometry trackBuffer inputs u before sofar.tracker sofar.stillUnmatched
        (sofar.matchedDets.map (seenOf detections) ++ done) →
      ∃ result, pairs.foldlM (associatePair geometry u detections candidates) sofar = some result ∧
        Mid geometry trackBuffer inputs u before result.tracker result.stillUnmatched
          (result.matchedDets.map (seenOf detections) ++ done) ∧
        result.matchedDets = (pairs.map Prod.snd).reverse ++ sofar.matchedDets := by
  intro pairs
  induction pairs with
  | nil =>
    intro sofar _ _ _ mid
    exact ⟨sofar, rfl, mid, by simp⟩
  | cons pair rest ih =>
    intro sofar rows known same mid
    obtain ⟨index, sighting, candidate, waits, found, label⟩ := known pair (by simp)
    rw [← same, List.getElem?_map] at label
    obtain ⟨track, active, class_eq⟩ := Option.map_eq_some_iff.mp label
    have seen := of sighting (List.mem_of_getElem? found)
    have next := mid.absorb waits active seen class_eq
    simp only [List.map_cons, List.nodup_cons] at rows
    have step : associatePair geometry u detections candidates sofar pair =
        some ⟨sofar.tracker.absorb geometry u index sighting, pair.2 :: sofar.matchedDets,
          sofar.stillUnmatched.erase index⟩ := by
      simp [associatePair, candidate, found]
    simp only [List.foldlM_cons, step, Option.bind_eq_bind, Option.bind_some]
    have later := ih ⟨sofar.tracker.absorb geometry u index sighting,
      pair.2 :: sofar.matchedDets, sofar.stillUnmatched.erase index⟩ rows.2 ?_ ?_ ?_
    · obtain ⟨result, ran, held, matched⟩ := later
      exact ⟨result, ran, held, by simp [matched]⟩
    · intro other member
      obtain ⟨index', sighting', candidate', waits', rest'⟩ := known other (by simp [member])
      refine ⟨index', sighting', candidate', ?_, rest'⟩
      apply Finset.mem_erase.mpr ⟨?_, waits'⟩
      intro equal
      subst equal
      -- one candidate, so one row
      obtain ⟨small, here⟩ := List.getElem?_eq_some_iff.mp candidate
      obtain ⟨small', here'⟩ := List.getElem?_eq_some_iff.mp candidate'
      have row : other.1 = pair.1 :=
        (List.Nodup.getElem_inj_iff nodup).mp (here'.trans here.symm)
      apply rows.1
      rw [← row]
      exact List.mem_map_of_mem member
    · rw [absorb_classes]
      exact same
    · simpa [seenOf_of_some found] using next

theorem startRest_spec (of : ∀ sighting ∈ detections, sighting.Of inputs u)
    (strong : ∀ sighting ∈ detections, HIGH_CONFIDENCE ≤ sighting.detection.confidence)
    (matchedDets : List Nat) :
    ∀ (entries : List (Sighting × Nat)) (s : ByteTracker Filter) (cols : List Nat),
      (∀ entry ∈ entries, detections[entry.2]? = some entry.1) →
      Mid geometry trackBuffer inputs u before s still (cols.map (seenOf detections) ++ done) →
      Mid geometry trackBuffer inputs u before
        (entries.foldl (fun s entry =>
          if entry.2 ∈ matchedDets then s else s.start geometry u entry.1) s) still
        ((((entries.map Prod.snd).filter (· ∉ matchedDets)).reverse ++ cols).map
          (seenOf detections) ++ done) := by
  intro entries
  induction entries with
  | nil =>
    intro s cols _ mid
    simpa using mid
  | cons entry rest ih =>
    intro s cols known mid
    have found := known entry (by simp)
    have later : ∀ other ∈ rest, detections[other.2]? = some other.1 :=
      fun other member => known other (by simp [member])
    simp only [List.foldl_cons, List.map_cons]
    by_cases matched : entry.2 ∈ matchedDets
    · simp only [matched, if_true]
      simpa [matched] using ih s cols later mid
    · have member := List.mem_of_getElem? found
      have next := mid.start (of entry.1 member) (strong entry.1 member)
      rw [← seenOf_of_some found] at next
      have done := ih (s.start geometry u entry.1) (entry.2 :: cols) later (by simpa using next)
      simp only [matched, if_false]
      simpa [matched] using done

theorem masked_low : masked < MATCH_IOU_HIGH ∧ masked < MATCH_IOU_LOW := by
  constructor <;>
    exact WithTop.coe_lt_coe.mpr (by norm_num)

theorem associate_spec (allowNew : Bool) (low : masked < threshold)
    (of : ∀ sighting ∈ detections, sighting.Of inputs u)
    (strong : allowNew = true →
      ∀ sighting ∈ detections, HIGH_CONFIDENCE ≤ sighting.detection.confidence)
    (nodup : candidates.Nodup)
    (mid : Mid geometry trackBuffer inputs u before s candidates.toFinset done) :
    ∃ (next : ByteTracker Filter) (unmatched cols : List Nat),
      associate geometry u allowNew threshold detections s candidates = some (next, unmatched) ∧
      Mid geometry trackBuffer inputs u before next unmatched.toFinset
        (cols.map (seenOf detections) ++ done) ∧
      unmatched.Nodup ∧ cols.Nodup ∧ (∀ col ∈ cols, col < detections.length) ∧
      (allowNew = true → ∀ col < detections.length, col ∈ cols) := by
  unfold associate
  by_cases none : detections.isEmpty
  · have empty := List.isEmpty_iff.mp none
    refine ⟨s, candidates, [], by simp [none], by simpa using mid, nodup, .nil, by simp, ?_⟩
    simp [empty]
  obtain ⟨pairs, matched, matching⟩ :=
    greedyMatch_spec (scores geometry s.active candidates detections) low
  have known : ∀ pair ∈ pairs, ∃ index sighting, candidates[pair.1]? = some index ∧
      index ∈ candidates.toFinset ∧ detections[pair.2]? = some sighting ∧
      (s.active.map Track.classLabel)[index]? = some sighting.detection.classLabel := by
    intro pair member
    obtain ⟨index, track, sighting, candidate, active, found, same⟩ :=
      scores_above low (matching.above pair member)
    refine ⟨index, sighting, candidate, ?_, found, by simp [active, same]⟩
    exact List.mem_toFinset.mpr (List.mem_of_getElem? candidate)
  obtain ⟨result, ran, held, dets⟩ := pairs_spec of nodup _ pairs
    ⟨s, [], candidates.toFinset⟩ matching.rows known rfl (by simpa using mid)
  have sorted : (result.stillUnmatched.sort (· ≤ ·)).toFinset = result.stillUnmatched :=
    Finset.sort_toFinset _ _
  have distinct : result.matchedDets.Nodup := by
    rw [dets]
    simpa using List.nodup_reverse.mpr matching.cols
  have small : ∀ col ∈ result.matchedDets, col < detections.length := by
    intro col member
    simp only [dets, List.append_nil, List.mem_reverse] at member
    obtain ⟨pair, paired, rfl⟩ := List.mem_map.mp member
    exact (matching.within pair paired).2
  simp only [none, matched, ran, Bool.false_eq_true, if_false, Option.bind_eq_bind,
    Option.bind_some, Option.pure_def]
  cases allowNew with
  | false =>
    refine ⟨_, _, result.matchedDets, rfl, ?_, Finset.sort_nodup _ _, distinct, small, by simp⟩
    simpa [sorted] using held
  | true =>
    refine ⟨_, _, ((List.range detections.length).filter
      (· ∉ result.matchedDets)).reverse ++ result.matchedDets, rfl, ?_,
      Finset.sort_nodup _ _, ?_, ?_, ?_⟩
    · have rest := startRest_spec of (strong rfl) result.matchedDets detections.zipIdx
        result.tracker result.matchedDets (fun entry member =>
          List.mem_zipIdx_iff_getElem?.mp member) held
      rw [List.zipIdx_map_snd] at rest
      simpa [sorted, startRest, List.range_eq_range'] using rest
    · apply List.Nodup.append
      · exact List.nodup_reverse.mpr (List.nodup_range.filter _)
      · exact distinct
      · intro col fresh old
        simp only [List.mem_reverse, List.mem_filter, decide_eq_true_eq] at fresh
        exact fresh.2 old
    · intro col member
      cases List.mem_append.mp member with
      | inl fresh =>
        simp only [List.mem_reverse, List.mem_filter, List.mem_range] at fresh
        exact fresh.1
      | inr old => exact small col old
    · intro _ col inside
      by_cases old : col ∈ result.matchedDets
      · exact List.mem_append_right _ old
      · apply List.mem_append_left
        simp [inside, old]

section Retire

variable {tracks : List (Track Filter)} {unmatched : List Nat}

theorem missed_getElem? (nodup : unmatched.Nodup) (index : Nat) :
    (unmatched.foldl (fun active index => active.modify index missed) tracks)[index]? =
      if index ∈ unmatched then tracks[index]?.map missed else tracks[index]? := by
  induction unmatched generalizing tracks with
  | nil => simp
  | cons head rest ih =>
    simp only [List.nodup_cons] at nodup
    rw [List.foldl_cons, ih nodup.2]
    by_cases same : index = head
    · subst same
      simp [nodup.1]
    · simp [same, List.getElem?_modify_ne _ _ (Ne.symm same)]

variable (tracks unmatched) in
theorem missed_map {β : Type} (field : Track Filter → β)
    (kept : ∀ track, field (missed track) = field track) :
    (unmatched.foldl (fun active index => active.modify index missed) tracks).map field =
      tracks.map field := by
  have same : field ∘ missed = field := funext kept
  induction unmatched generalizing tracks with
  | nil => rfl
  | cons head rest ih =>
    rw [List.foldl_cons, ih]
    apply List.ext_getElem?
    intro index
    by_cases here : head = index
    · subst here
      simp [same]
    · simp [List.getElem?_modify_ne _ _ here]

end Retire

theorem seenIn_eq_of_samples {tracks : List (Track Filter)} (others : List (Track Filter))
    (same : tracks.map Track.samples = others.map Track.samples) :
    seenIn tracks = seenIn others := by
  have flat : ∀ list : List (Track Filter),
      seenIn list = (list.map Track.samples).flatMap (List.map Sample.seen) := by
    intro list
    simp [seenIn, List.flatMap_map]
  rw [flat, flat, same]

theorem Mid.aged {tracks : List Nat} (nodup : tracks.Nodup)
    (mid : Mid geometry trackBuffer inputs u before s tracks.toFinset done) :
    ∀ track ∈ tracks.foldl (fun active index => active.modify index missed) s.active,
      track.Sound geometry trackBuffer (inputs ++ [u]) ∧ track.trackKey < s.nextKey ∧
        ∃ sample, track.samples.getLast? = some sample ∧
          sample.seen.1 + track.misses + 1 = (inputs ++ [u]).length := by
  intro track member
  obtain ⟨index, found⟩ := List.mem_iff_getElem?.mp member
  rw [missed_getElem? nodup] at found
  split at found
  · rename_i waits
    obtain ⟨old, active, rfl⟩ := Option.map_eq_some_iff.mp found
    have known : old ∈ s.tracks := List.mem_append_right _ (List.mem_of_getElem? active)
    have sound := mid.sound old known
    obtain ⟨⟨sample, last, since⟩, _⟩ :=
      mid.waiting index old active (List.mem_toFinset.mpr waits)
    refine ⟨⟨sound.first, sound.last, sound.count, sound.sum, sound.near, sound.genuine⟩,
      mid.below old known, sample, last, ?_⟩
    simp only [missed, List.length_append, List.length_singleton]
    omega
  · rename_i settled
    have known : track ∈ s.tracks := List.mem_append_right _ (List.mem_of_getElem? found)
    obtain ⟨⟨sample, last, now⟩, none⟩ := mid.matched index track found
      (fun member => settled (List.mem_toFinset.mp member))
    refine ⟨mid.sound track known, mid.below track known, sample, last, ?_⟩
    simp only [List.length_append, List.length_singleton]
    omega

variable (trackBuffer s) in
theorem retire_perm (unmatched : List Nat) :
    (retire trackBuffer s unmatched).tracks.Perm (s.finished ++
      unmatched.foldl (fun active index => active.modify index missed) s.active) := by
  simp only [tracks, retire, List.append_assoc]
  apply List.Perm.append_left
  have parts := List.filter_append_perm (fun track : Track Filter => trackBuffer < track.misses)
    (unmatched.foldl (fun active index => active.modify index missed) s.active)
  simpa only [decide_not] using parts

theorem seenIn_perm {tracks others : List (Track Filter)} (perm : tracks.Perm others) :
    (seenIn tracks).Perm (seenIn others) :=
  perm.flatMap_right _

theorem Inv.moved (inv : Inv geometry trackBuffer inputs s) :
    Mid geometry trackBuffer inputs u (seenIn s.tracks)
      { s with active := s.active.map (predicted geometry) }
      (List.range (s.active.map (predicted geometry)).length).toFinset [] := by
  have known : ∀ track ∈ s.finished ++ s.active.map (predicted geometry), ∃ old ∈ s.tracks,
      track = old ∨ track = predicted geometry old := by
    intro track member
    cases List.mem_append.mp member with
    | inl closed => exact ⟨track, List.mem_append_left _ closed, .inl rfl⟩
    | inr active =>
      obtain ⟨old, open_, rfl⟩ := List.mem_map.mp active
      exact ⟨old, List.mem_append_right _ open_, .inr rfl⟩
  refine ⟨inv.updates, ?_, ?_, ?_, ?_, ?_, ?_, ?_⟩
  · intro track member
    obtain ⟨old, before, shape⟩ := known track member
    have sound := (inv.sound old before).later (u := u)
    cases shape with
    | inl same => rwa [same]
    | inr moved =>
      rw [moved]
      exact ⟨sound.first, sound.last, sound.count, sound.sum, sound.near, sound.genuine⟩
  · intro index track found _
    obtain ⟨old, active, rfl⟩ := List.mem_map.mp (List.mem_of_getElem? found)
    exact inv.waiting old active
  · intro index track found settled
    obtain ⟨small, _⟩ := List.getElem?_eq_some_iff.mp found
    exact absurd (List.mem_toFinset.mpr (List.mem_range.mpr small)) settled
  · intro index member
    simpa using member
  · have keys := inv.keys
    simpa [tracks, predicted, Function.comp_def] using keys
  · intro track member
    obtain ⟨old, before, shape⟩ := known track member
    have small := inv.below old before
    cases shape with
    | inl same => rwa [same]
    | inr moved =>
      rw [moved]
      exact small
  · rw [seenIn_eq_of_samples s.tracks]
    · simp
    · simp [tracks, predicted, Function.comp_def]

theorem sightings_of (number : s.updates = inputs.length) :
    ∀ sighting ∈ s.sightings u, sighting.Of inputs u := by
  intro sighting member
  obtain ⟨entry, found, rfl⟩ := List.mem_map.mp member
  exact ⟨number, List.mem_zipIdx_iff_getElem?.mp found⟩

theorem sightings_nodup : ((s.sightings u).map Sighting.seen).Nodup := by
  have shape : (s.sightings u).map Sighting.seen =
      (List.range u.detections.length).map (fun index => (s.updates, index)) := by
    have places := List.zipIdx_map_snd 0 u.detections
    rw [← List.range_eq_range'] at places
    rw [← places, List.map_map, sightings, List.map_map]
    rfl
  rw [shape]
  apply List.nodup_range.map
  intro a b same
  exact (Prod.mk.injEq _ _ _ _ ▸ same).2

theorem associate_seen {cols : List Nat} (small : ∀ col ∈ cols, col < detections.length)
    {seen : Nat × Nat} (member : seen ∈ cols.map (seenOf detections)) :
    ∃ sighting ∈ detections, seen = sighting.seen := by
  obtain ⟨col, inside, rfl⟩ := List.mem_map.mp member
  obtain ⟨sighting, found, same⟩ := List.mem_map.mp (seenOf_mem (small col inside))
  exact ⟨sighting, found, same.symm⟩

theorem Inv.update (inv : Inv geometry trackBuffer inputs s) :
    ∃ next, s.update geometry trackBuffer u = some next ∧
      Inv geometry trackBuffer (inputs ++ [u]) next := by
  have of := sightings_of (u := u) inv.updates
  have distinct := sightings_nodup (s := s) (u := u)
  have of_high : ∀ sighting ∈ high (s.sightings u), sighting.Of inputs u :=
    fun sighting member => of sighting (List.mem_of_mem_filter member)
  have of_low : ∀ sighting ∈ low (s.sightings u), sighting.Of inputs u :=
    fun sighting member => of sighting (List.mem_of_mem_filter member)
  have strong : ∀ sighting ∈ high (s.sightings u),
      HIGH_CONFIDENCE ≤ sighting.detection.confidence := by
    intro sighting member
    simpa using (List.mem_filter.mp member).2
  have weak : ∀ sighting ∈ low (s.sightings u),
      sighting.detection.confidence < HIGH_CONFIDENCE := by
    intro sighting member
    simpa using (List.mem_filter.mp member).2
  obtain ⟨first, unmatched, cols, ran, mid, nodup, once, small, all⟩ :=
    associate_spec true masked_low.1 of_high (fun _ => strong) List.nodup_range
      inv.moved
  obtain ⟨second, unmatched', cols', ran', mid', nodup', once', small', _⟩ :=
    associate_spec false masked_low.2 of_low (by simp) nodup mid
  refine ⟨retire trackBuffer second unmatched', ?_, ?_⟩
  · unfold ByteTracker.update
    dsimp only
    rw [ran, Option.bind_eq_bind, Option.bind_some, ran']
    rfl
  have aged := mid'.aged nodup'
  have perm := retire_perm trackBuffer second unmatched'
  have settled : ∀ track ∈ (retire trackBuffer second unmatched').tracks,
      track.Sound geometry trackBuffer (inputs ++ [u]) ∧ track.trackKey < second.nextKey := by
    intro track member
    cases List.mem_append.mp (perm.mem_iff.mp member) with
    | inl closed =>
      have known : track ∈ second.tracks := List.mem_append_left _ closed
      exact ⟨mid'.sound track known, mid'.below track known⟩
    | inr here => exact ⟨(aged track here).1, (aged track here).2.1⟩
  have placed : (seenIn (retire trackBuffer second unmatched').tracks).Perm
      (cols'.map (seenOf (low (s.sightings u))) ++
        (cols.map (seenOf (high (s.sightings u))) ++ seenIn s.tracks)) := by
    refine (seenIn_perm perm).trans ?_
    have same := seenIn_eq_of_samples second.active
      (missed_map second.active unmatched' Track.samples (fun _ => rfl))
    rw [seenIn_append, same, ← seenIn_append]
    simpa only [List.append_nil, List.append_assoc, tracks] using mid'.placed
  have old : ∀ seen ∈ seenIn s.tracks, seen.1 < inputs.length := by
    intro seen member
    obtain ⟨track, known, here⟩ := List.mem_flatMap.mp member
    obtain ⟨sample, sampled, rfl⟩ := List.mem_map.mp here
    obtain ⟨v, _, found, _⟩ := (inv.sound track known).genuine sample sampled
    exact (List.getElem?_eq_some_iff.mp found).1
  refine ⟨?_, fun track member => (settled track member).1, ?_, ?_,
    fun track member => (settled track member).2, ?_, ?_⟩
  · simp [retire, mid'.updates]
  · intro track member
    obtain ⟨here, few⟩ := List.mem_filter.mp member
    refine ⟨(aged track here).2.2, ?_⟩
    simpa using few
  · rw [(perm.map Track.trackKey).nodup_iff, List.map_append, missed_map _ _ _ (fun _ => rfl),
      ← List.map_append]
    exact mid'.keys
  · rw [placed.nodup_iff]
    apply List.Nodup.append
    · exact seenOf_nodup (distinct.sublist ((List.filter_sublist).map _)) once' small'
    · apply List.Nodup.append _ inv.once
      · intro seen now before
        obtain ⟨sighting, found, rfl⟩ := associate_seen small now
        have := old _ before
        have := (of_high sighting found).1
        omega
      · exact seenOf_nodup (distinct.sublist ((List.filter_sublist).map _)) once small
    · intro seen now before
      obtain ⟨sighting, found, rfl⟩ := associate_seen small' now
      cases List.mem_append.mp before with
      | inl both =>
        obtain ⟨other, found', same⟩ := associate_seen small both
        have equal := List.inj_on_of_nodup_map distinct (List.mem_of_mem_filter found)
          (List.mem_of_mem_filter found') same
        have below := weak sighting found
        rw [equal] at below
        exact absurd (strong other found') (not_le.mpr below)
      | inr before =>
        have := old _ before
        have := (of_low sighting found).1
        omega
  · intro n i v detection called found confident
    rw [placed.mem_iff]
    simp only [List.mem_append]
    by_cases earlier : n < inputs.length
    · rw [List.getElem?_append_left earlier] at called
      exact .inr (.inr (inv.strong n i v detection called found confident))
    · have last : n = inputs.length := by
        have := (List.getElem?_eq_some_iff.mp called).1
        simp only [List.length_append, List.length_singleton] at this
        omega
      subst last
      have same : u = v := by simpa using called
      subst same
      have sighted : (⟨detection, (s.updates, i)⟩ : Sighting) ∈ high (s.sightings u) := by
        refine List.mem_filter.mpr ⟨?_, by simpa using confident⟩
        exact List.mem_map.mpr ⟨(detection, i), List.mem_zipIdx_iff_getElem?.mpr found, rfl⟩
      obtain ⟨col, here⟩ := List.mem_iff_getElem?.mp sighted
      refine .inr (.inl (List.mem_map.mpr ⟨col, ?_, ?_⟩))
      · exact all rfl col (List.getElem?_eq_some_iff.mp here).1
      · rw [seenOf_of_some here, inv.updates]

theorem Inv.initial : Inv geometry trackBuffer [] ({} : ByteTracker Filter) := by
  constructor <;> simp [tracks, seenIn]

variable (geometry trackBuffer) in
theorem Inv.run (updates : List (Update Frame)) :
    ∃ s, run geometry trackBuffer updates = some s ∧ Inv geometry trackBuffer updates s := by
  induction updates using List.reverseRecOn with
  | nil => exact ⟨{}, rfl, .initial⟩
  | append_singleton earlier u ih =>
    obtain ⟨s, ran, inv⟩ := ih
    obtain ⟨next, stepped, held⟩ := inv.update (u := u)
    refine ⟨next, ?_, held⟩
    rw [ByteTracker.run] at ran ⊢
    simp [List.foldlM_append, ran, stepped]

def Before (a b : Sample) : Prop := a.seen.1 < b.seen.1

instance : Trans Before Before Before where
  trans := Nat.lt_trans

structure Followed (geometry : Geometry Filter Frame) (trackBuffer : ℤ)
    (updates : List (Update Frame)) (tracks : List (Track Filter)) : Prop where
  sound : ∀ track ∈ tracks, track.Sound geometry trackBuffer updates
  apart : ∀ track ∈ tracks, track.samples.Pairwise Before
  keys : (tracks.map Track.trackKey).Nodup
  atMostOnce : ∀ seen, (seenIn tracks).count seen ≤ 1
  exactlyOnce : ∀ (n i : Nat) (u : Update Frame) (detection : Detection2D),
    updates[n]? = some u → u.detections[i]? = some detection →
    HIGH_CONFIDENCE ≤ detection.confidence → (seenIn tracks).count (n, i) = 1

theorem finish_all (inv : Inv geometry trackBuffer inputs s) : s.finish 1 = s.tracks := by
  apply List.filter_eq_self.mpr
  intro track member
  have sound := inv.sound track member
  obtain ⟨first, head, _⟩ := sound.first
  have some_first : track.samples ≠ [] := by
    intro none
    simp [none] at head
  have := List.length_pos_iff.mpr some_first
  simp only [sound.count, decide_eq_true_eq]
  omega

theorem run_followed (geometry : Geometry Filter Frame) (trackBuffer : ℤ)
    (updates : List (Update Frame)) :
    ∃ s, ByteTracker.run geometry trackBuffer updates = some s ∧
      Followed geometry trackBuffer updates (s.finish 1) := by
  obtain ⟨s, ran, inv⟩ := Inv.run geometry trackBuffer updates
  refine ⟨s, ran, ?_⟩
  rw [finish_all inv]
  refine ⟨inv.sound, ?_, inv.keys, List.nodup_iff_count_le_one.mp inv.once, ?_⟩
  · intro track member
    have later : track.samples.IsChain Before :=
      List.IsChain.imp (fun a b near => near.1) (inv.sound track member).near
    exact later.pairwise
  · intro n i u detection called found confident
    exact List.count_eq_one_of_mem inv.once (inv.strong n i u detection called found confident)

end ByteTracker

end DashcamStats.Tracking
