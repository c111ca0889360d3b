import DashcamStats.Parked.Policy

namespace DashcamStats.Parked

open DashcamStats.Clips (MotionObservation ObservationKind GuardProof confidentGps)
open DashcamStats.Clips.ParkedGuard (Tally tally assess valid)

abbrev Pair := MotionObservation × MotionObservation

def accOrder (values : List MotionObservation) : List MotionObservation :=
  (values.filter fun v => v.kind = .acc).insertionSort fun a b => a.wallMs ≤ b.wallMs

def accPairs (values : List MotionObservation) : List Pair :=
  (accOrder values).zip (accOrder values).tail

def elapsed (pair : Pair) : ℤ := pair.2.elapsedMs - pair.1.elapsedMs

def spanIn (lower upper : ℤ) (pair : Pair) : ℤ × ℤ :=
  (max lower pair.1.wallMs, min upper pair.2.wallMs)

def Overlaps (lower upper : ℤ) (pair : Pair) : Prop :=
  (spanIn lower upper pair).1 < (spanIn lower upper pair).2

instance (lower upper : ℤ) (pair : Pair) : Decidable (Overlaps lower upper pair) :=
  inferInstanceAs (Decidable (_ < _))

def OffPair (timezone : String) (pair : Pair) : Prop :=
  pair.1.acc = some false ∧ pair.2.acc = some false ∧ pair.1.sessionId = pair.2.sessionId ∧
    pair.1.segmentId = pair.2.segmentId ∧ pair.1.timezone = timezone ∧
    pair.2.timezone = timezone ∧ 1 ≤ elapsed pair ∧ elapsed pair ≤ 7500

instance (timezone : String) (pair : Pair) : Decidable (OffPair timezone pair) :=
  inferInstanceAs (Decidable (_ ∧ _))

-- `safe`
def SafePair (healthy : Bool) (timezone : String) (pair : Pair) : Prop :=
  healthy ∧ OffPair timezone pair ∧ |elapsed pair - (pair.2.wallMs - pair.1.wallMs)| ≤ 2000

instance (healthy : Bool) (timezone : String) (pair : Pair) :
    Decidable (SafePair healthy timezone pair) :=
  inferInstanceAs (Decidable (_ ∧ _))

structure ProvenOff (start stop : ℤ) (timezone : String) (values : List MotionObservation) :
    Prop where
  between : ∀ x : ℚ, (start : ℚ) ≤ x → x ≤ stop → ∃ pair ∈ accPairs values,
    (pair.1.wallMs : ℚ) ≤ x ∧ x ≤ pair.2.wallMs ∧ OffPair timezone pair
  still : ∀ v ∈ values, start ≤ v.wallMs → v.wallMs ≤ stop →
    (v.kind = .acc → v.acc = some false) ∧ (v.kind = .obd → v.speed.getD 0 ≤ 0) ∧
      confidentGps v = false

def longestElapsed (start stop : ℤ) (values : List MotionObservation) : ℤ :=
  (((accPairs values).filter (Overlaps start stop)).map elapsed).foldl max 0

def accInside (start stop : ℤ) (values : List MotionObservation) : ℕ :=
  (values.filter fun v => start ≤ v.wallMs ∧ v.wallMs ≤ stop).countP fun v => v.kind = .acc

def received (proof : GuardProof) : Guard where
  startUtc := proof.startUtc.map (1000 * ·)
  endUtc := proof.endUtc.map (1000 * ·)
  windowMs := proof.windowMs
  accOffMs := proof.accOffMs
  unknownMs := proof.unknownMs
  maxGapMs := proof.maxGapMs
  observationCount := proof.observationCount
  onSamples := proof.onSamples
  unknownSamples := proof.unknownSamples
  segmentCount := proof.segmentCount
  positiveSpeedSamples := proof.positiveSpeedSamples

section Tally

variable {lower upper : ℤ} {healthy : Bool} {timezone : String} {pair : Pair} {t : Tally}

theorem tally_apart (apart : ¬Overlaps lower upper pair) :
    tally lower upper healthy timezone t pair = t := by
  have none_ : min upper pair.2.wallMs ≤ max lower pair.1.wallMs := not_lt.mp apart
  simp only [tally, none_, ↓reduceIte]

theorem tally_safe (overlaps : Overlaps lower upper pair) (safe : SafePair healthy timezone pair) :
    (tally lower upper healthy timezone t pair).off =
        t.off + max ((spanIn lower upper pair).2 - max t.through (spanIn lower upper pair).1) 0 ∧
      (tally lower upper healthy timezone t pair).through =
        max t.through (spanIn lower upper pair).2 ∧
      (tally lower upper healthy timezone t pair).maxGap =
        max (if t.through < (spanIn lower upper pair).1 then
            max t.maxGap ((spanIn lower upper pair).1 - t.through)
          else t.maxGap) (max (elapsed pair) 0) := by
  have some_ : ¬min upper pair.2.wallMs ≤ max lower pair.1.wallMs := not_le.mpr overlaps
  obtain ⟨well, ⟨first, second, session, segment, zone, zone', positive, close⟩, drift⟩ := safe
  simp only [elapsed] at positive close drift
  simp only [tally, some_, ↓reduceIte, well, first, second, session, segment, zone, zone',
    positive, close, drift, and_self, spanIn, elapsed]
  exact ⟨trivial, trivial, rfl⟩

variable (lower upper t) in
theorem tally_hazard (unsafe_ : ¬SafePair healthy timezone pair) :
    (tally lower upper healthy timezone t pair).off = t.off ∧
      (tally lower upper healthy timezone t pair).through = t.through := by
  by_cases overlaps : Overlaps lower upper pair
  · have some_ : ¬min upper pair.2.wallMs ≤ max lower pair.1.wallMs := not_le.mpr overlaps
    have refused : ¬(healthy = true ∧ pair.1.acc = some false ∧ pair.2.acc = some false ∧
        pair.1.sessionId = pair.2.sessionId ∧ pair.1.segmentId = pair.2.segmentId ∧
        pair.1.timezone = timezone ∧ pair.2.timezone = timezone ∧
        1 ≤ pair.2.elapsedMs - pair.1.elapsedMs ∧ pair.2.elapsedMs - pair.1.elapsedMs ≤ 7500 ∧
        |pair.2.elapsedMs - pair.1.elapsedMs - (pair.2.wallMs - pair.1.wallMs)| ≤ 2000) := by
      rintro ⟨well, first, second, session, segment, zone, zone', positive, close, drift⟩
      exact unsafe_
        ⟨well, ⟨first, second, session, segment, zone, zone', positive, close⟩, drift⟩
    simp only [tally, some_, ↓reduceIte, refused, and_self]
  · rw [tally_apart overlaps]
    exact ⟨rfl, rfl⟩

variable (lower upper healthy timezone pair t) in
-- OFF time is never credited beyond what the mark advances.
theorem tally_slack :
    let next := tally lower upper healthy timezone t pair
    t.through ≤ next.through ∧ next.off - t.off ≤ next.through - t.through ∧
      next.through ≤ max t.through upper := by
  by_cases overlaps : Overlaps lower upper pair
  · by_cases safe : SafePair healthy timezone pair
    · obtain ⟨off, through, _⟩ := tally_safe (t := t) overlaps safe
      simp only [off, through, spanIn]
      omega
    · obtain ⟨off, through⟩ := tally_hazard lower upper t safe
      simp only [off, through]
      omega
  · simp only [tally_apart overlaps]
    omega

end Tally

section Window

variable (lower upper : ℤ) (healthy : Bool) (timezone : String)

def safeSpans (pairs : List Pair) : List (ℤ × ℤ) :=
  (pairs.filter fun pair => Overlaps lower upper pair ∧ SafePair healthy timezone pair).map
    (spanIn lower upper)

theorem fold_slack (pairs : List Pair) (t : Tally) :
    let final := pairs.foldl (tally lower upper healthy timezone) t
    t.through ≤ final.through ∧ final.off - t.off ≤ final.through - t.through ∧
      final.through ≤ max t.through upper := by
  induction pairs generalizing t with
  | nil =>
    simp only [List.foldl_nil]
    omega
  | cons pair pairs ih =>
    have step := tally_slack lower upper healthy timezone pair t
    have rest := ih (tally lower upper healthy timezone t pair)
    simp only [List.foldl_cons] at step rest ⊢
    omega

theorem sweep_of_tight (pairs : List Pair) (t : Tally)
    (tight : (pairs.foldl (tally lower upper healthy timezone) t).through - t.through ≤
      (pairs.foldl (tally lower upper healthy timezone) t).off - t.off) :
    Intervals.sweep t.through (safeSpans lower upper healthy timezone pairs) =
      some (pairs.foldl (tally lower upper healthy timezone) t).through := by
  induction pairs generalizing t with
  | nil => rfl
  | cons pair pairs ih =>
    have step := tally_slack lower upper healthy timezone pair t
    have rest := fold_slack lower upper healthy timezone pairs
      (tally lower upper healthy timezone t pair)
    simp only [List.foldl_cons] at step rest tight ⊢
    -- neither this pair nor the rest lost anything
    have later := ih (tally lower upper healthy timezone t pair) (by omega)
    by_cases counted : Overlaps lower upper pair ∧ SafePair healthy timezone pair
    · obtain ⟨off, through, _⟩ := tally_safe (t := t) counted.1 counted.2
      have overlaps : max lower pair.1.wallMs < min upper pair.2.wallMs := counted.1
      have reaches : ¬t.through < (spanIn lower upper pair).1 := by
        simp only [spanIn] at off through ⊢
        omega
      simp only [safeSpans, List.filter_cons, counted, and_self, decide_true, ↓reduceIte,
        List.map_cons, Intervals.sweep, reaches] at later ⊢
      rw [← later, through]
    · have same : (tally lower upper healthy timezone t pair).through = t.through := by
        by_cases overlaps : Overlaps lower upper pair
        · exact (tally_hazard lower upper t fun safe => counted ⟨overlaps, safe⟩).2
        · rw [tally_apart overlaps]
      simp only [safeSpans, List.filter_cons, counted, decide_false, Bool.false_eq_true,
        ↓reduceIte] at later ⊢
      rw [← later, same]

theorem safe_of_reaches (ordered : lower ≤ upper) (xs : List MotionObservation)
    (sorted : xs.Pairwise fun a b => a.wallMs ≤ b.wallMs) (through : ℤ)
    (behind : ∀ x ∈ xs.head?, through ≤ max lower (min upper x.wallMs))
    (swept : Intervals.sweep through (safeSpans lower upper healthy timezone (xs.zip xs.tail)) =
      some upper) :
    ∀ pair ∈ xs.zip xs.tail, Overlaps lower upper pair → SafePair healthy timezone pair := by
  induction xs generalizing through with
  | nil => simp
  | cons x xs ih =>
    cases xs with
    | nil => simp
    | cons y rest =>
      have next := (List.pairwise_cons.mp sorted).1 y List.mem_cons_self
      have later := (List.pairwise_cons.mp sorted).2
      have here := behind x rfl
      have pairs : (x :: y :: rest).zip (x :: y :: rest).tail =
          (x, y) :: (y :: rest).zip (y :: rest).tail := rfl
      rw [pairs] at swept ⊢
      intro pair member overlaps
      by_cases inside : Overlaps lower upper (x, y)
      · have room : max lower x.wallMs < min upper y.wallMs := inside
        by_cases safe : SafePair healthy timezone (x, y)
        · simp only [safeSpans, List.filter_cons, inside, safe, and_self, decide_true, ↓reduceIte,
            List.map_cons, Intervals.sweep, spanIn] at swept
          split at swept
          · cases swept
          · rcases List.mem_cons.mp member with rfl | other
            · exact safe
            · refine ih later _ ?_ swept pair other overlaps
              intro z head
              obtain rfl : y = z := Option.some.inj head
              omega
        · -- the mark stays behind this part of the window, before everything that follows
          have rest_spans : safeSpans lower upper healthy timezone
              ((x, y) :: (y :: rest).zip (y :: rest).tail) =
                safeSpans lower upper healthy timezone ((y :: rest).zip (y :: rest).tail) := by
            simp [safeSpans, safe]
          rw [rest_spans] at swept
          have before : ∀ span ∈ safeSpans lower upper healthy timezone
              ((y :: rest).zip (y :: rest).tail), through < span.1 := by
            intro span listed
            obtain ⟨⟨a, b⟩, kept, rfl⟩ := List.mem_map.mp listed
            have from_ : a ∈ y :: rest := (List.of_mem_zip (List.mem_filter.mp kept).1).1
            have after : y.wallMs ≤ a.wallMs := by
              rcases List.mem_cons.mp from_ with rfl | among
              · exact le_refl _
              · exact (List.pairwise_cons.mp later).1 a among
            simp only [spanIn]
            omega
          have stuck := Intervals.eq_of_sweep_before swept before
          omega
      · have rest_spans : safeSpans lower upper healthy timezone
            ((x, y) :: (y :: rest).zip (y :: rest).tail) =
              safeSpans lower upper healthy timezone ((y :: rest).zip (y :: rest).tail) := by
          simp [safeSpans, inside]
        rw [rest_spans] at swept
        rcases List.mem_cons.mp member with rfl | other
        · exact absurd overlaps inside
        · refine ih later through ?_ swept pair other overlaps
          intro z head
          obtain rfl : y = z := Option.some.inj head
          omega

theorem maxGap_of_swept (pairs : List Pair) (t : Tally) (reached : ℤ)
    (swept : Intervals.sweep t.through (safeSpans lower upper healthy timezone pairs) =
      some reached)
    (safe : ∀ pair ∈ pairs, Overlaps lower upper pair → SafePair healthy timezone pair) :
    (pairs.foldl (tally lower upper healthy timezone) t).maxGap =
      ((pairs.filter (Overlaps lower upper)).map elapsed).foldl max t.maxGap := by
  induction pairs generalizing t with
  | nil => rfl
  | cons pair pairs ih =>
    have others : ∀ other ∈ pairs, Overlaps lower upper other → SafePair healthy timezone other :=
      fun other member => safe other (List.mem_cons_of_mem _ member)
    by_cases overlaps : Overlaps lower upper pair
    · have here := safe pair List.mem_cons_self overlaps
      obtain ⟨_, through, gap⟩ := tally_safe (t := t) overlaps here
      simp only [safeSpans, List.filter_cons, overlaps, here, and_self, decide_true, ↓reduceIte,
        List.map_cons, Intervals.sweep] at swept
      split at swept
      · cases swept
      next reaches =>
        have positive : 1 ≤ elapsed pair := here.2.1.2.2.2.2.2.2.1
        rw [← through] at swept
        simp only [reaches, ↓reduceIte] at gap
        rw [List.foldl_cons, ih _ swept others, List.filter_cons_of_pos (by simpa using overlaps),
          List.map_cons, List.foldl_cons, gap, max_eq_left (by omega : 0 ≤ elapsed pair)]
    · simp only [safeSpans, List.filter_cons, overlaps, false_and, decide_false,
        Bool.false_eq_true, ↓reduceIte] at swept
      rw [List.foldl_cons, tally_apart overlaps, ih _ swept others,
        List.filter_cons_of_neg (by simpa using overlaps)]

end Window

theorem millis_exact {w : ℤ} (nonneg : 0 ≤ w) (day : w ≤ 86400000) :
    Binary64.nearestEven (millis (1000 * w)) = w := by
  have low : (0 : ℚ) ≤ w := by exact_mod_cast nonneg
  have high : (w : ℚ) ≤ 86400000 := by exact_mod_cast day
  have scaled : ((1000 * w : ℤ) : ℚ) / 1000000 = w / 1000 := by
    push_cast
    ring
  have first := Binary64.abs_round_sub_le (q := w / 1000) (k := 17) (by norm_num)
    (by rw [abs_of_nonneg (by positivity)]; norm_num; linarith)
  have bounds := abs_le.mp first
  norm_num at bounds
  have second := Binary64.abs_round_sub_le (q := Binary64.round (w / 1000) * 1000) (k := 27)
    (by norm_num) (by rw [abs_lt]; constructor <;> linarith)
  have bounds' := abs_le.mp second
  norm_num at bounds'
  apply Binary64.nearestEven_of_near
  rw [millis, scaled, abs_lt]
  constructor <;> linarith

theorem sorted_accOrder (values : List MotionObservation) :
    (accOrder values).Pairwise fun a b => a.wallMs ≤ b.wallMs := by
  have : Std.Total fun a b : MotionObservation => a.wallMs ≤ b.wallMs :=
    ⟨fun a b => le_total a.wallMs b.wallMs⟩
  have : IsTrans MotionObservation fun a b => a.wallMs ≤ b.wallMs :=
    ⟨fun _ _ _ => le_trans⟩
  exact List.pairwise_insertionSort _ _

section Proof

variable {start stop : ℤ} {values : List MotionObservation} {healthy : Bool} {timezone : String}

def freshTally (start : ℤ) : Tally := { off := 0, through := start, maxGap := 0, segments := ∅ }

@[simp] theorem freshTally_off : (freshTally start).off = 0 := rfl
@[simp] theorem freshTally_through : (freshTally start).through = start := rfl
def tallied (start stop : ℤ) (values : List MotionObservation) (healthy : Bool)
    (timezone : String) : Tally :=
  (accPairs values).foldl (tally start stop healthy timezone) (freshTally start)

variable (values healthy timezone) in
-- The fields of a proof over a window that can be assessed.
theorem assess_fields (ordered : start < stop) (day : stop - start ≤ 86400000) :
    let proof := assess (some start) (some stop) values healthy timezone
    let final := tallied start stop values healthy timezone
    proof.startUtc = some start ∧ proof.endUtc = some stop ∧ proof.windowMs = stop - start ∧
      proof.accOffMs = min final.off (stop - start) ∧
      proof.maxGapMs = max 0 (min (max final.maxGap (stop - final.through)) 86400000) ∧
      proof.observationCount = accInside start stop values := by
  simp only [assess, ordered, day, and_self, ↓reduceIte, Option.map_some, Option.getD_some,
    tallied, freshTally, accPairs, accOrder, accInside]

theorem tight_of_valid (ordered : start < stop) (day : stop - start ≤ 86400000)
    (proved : valid (assess (some start) (some stop) values healthy timezone) = true) :
    (tallied start stop values healthy timezone).through = stop ∧
      stop - start ≤ (tallied start stop values healthy timezone).off := by
  obtain ⟨_, _, window, credited, _, _⟩ :=
    assess_fields values healthy timezone ordered day
  have slack := fold_slack start stop healthy timezone (accPairs values) (freshTally start)
  have checks := of_decide_eq_true proved
  rw [window, credited] at checks
  simp only [tallied] at checks ⊢
  simp only [freshTally_off, freshTally_through] at slack
  omega

theorem swept_of_valid (ordered : start < stop) (day : stop - start ≤ 86400000)
    (proved : valid (assess (some start) (some stop) values healthy timezone) = true) :
    Intervals.sweep start (safeSpans start stop healthy timezone (accPairs values)) =
      some stop := by
  obtain ⟨through, off⟩ := tight_of_valid ordered day proved
  simp only [tallied] at through off
  have swept := sweep_of_tight start stop healthy timezone (accPairs values) (freshTally start) (by
    simp only [freshTally_off, freshTally_through]
    omega)
  rwa [through, freshTally_through] at swept

theorem between_of_valid (ordered : start < stop) (day : stop - start ≤ 86400000)
    (proved : valid (assess (some start) (some stop) values healthy timezone) = true) (x : ℚ)
    (after : (start : ℚ) ≤ x) (before : x ≤ stop) : ∃ pair ∈ accPairs values,
      (pair.1.wallMs : ℚ) ≤ x ∧ x ≤ pair.2.wallMs ∧ OffPair timezone pair := by
  have swept := swept_of_valid ordered day proved
  have embedded := Intervals.sweep_map (fun n : ℤ => (n : ℚ)) Int.cast_strictMono start
    (safeSpans start stop healthy timezone (accPairs values))
  rw [swept, Option.map_some] at embedded
  have ends_after : ∀ span ∈ (safeSpans start stop healthy timezone (accPairs values)).map
      (Prod.map (fun n : ℤ => (n : ℚ)) fun n : ℤ => (n : ℚ)), (start : ℚ) < span.2 := by
    intro span listed
    obtain ⟨inner, member, rfl⟩ := List.mem_map.mp listed
    obtain ⟨pair, kept, rfl⟩ := List.mem_map.mp member
    have overlaps : Overlaps start stop pair := (of_decide_eq_true (List.mem_filter.mp kept).2).1
    have room : start < (spanIn start stop pair).2 := lt_of_le_of_lt (le_max_left _ _) overlaps
    show (start : ℚ) < ((spanIn start stop pair).2 : ℚ)
    exact_mod_cast room
  obtain ⟨span, listed, low, high⟩ := Intervals.covered_of_reaches _ (start : ℚ) (stop : ℚ)
    (by exact_mod_cast ordered) ends_after (by rw [embedded]; simp) x after before
  obtain ⟨inner, member, rfl⟩ := List.mem_map.mp listed
  obtain ⟨pair, kept, rfl⟩ := List.mem_map.mp member
  have safe : SafePair healthy timezone pair := (of_decide_eq_true (List.mem_filter.mp kept).2).2
  refine ⟨pair, (List.mem_filter.mp kept).1, le_trans ?_ low, le_trans high ?_, safe.2.1⟩
  · exact Int.cast_le.mpr (le_max_right _ _)
  · exact Int.cast_le.mpr (min_le_right _ _)

theorem still_of_valid (ordered : start < stop) (day : stop - start ≤ 86400000)
    (proved : valid (assess (some start) (some stop) values healthy timezone) = true)
    (v : MotionObservation) (listed : v ∈ values) (after : start ≤ v.wallMs)
    (before : v.wallMs ≤ stop) :
    (v.kind = .acc → v.acc = some false) ∧ (v.kind = .obd → v.speed.getD 0 ≤ 0) ∧
      confidentGps v = false := by
  obtain ⟨_, _, _, _, _, on, unknown, _, moving⟩ := of_decide_eq_true proved
  simp only [assess, ordered, day, and_self, ↓reduceIte, Option.map_some, Option.getD_some,
    Nat.add_eq_zero_iff, List.countP_eq_zero, List.mem_filter, decide_eq_true_eq] at on unknown moving
  have inside : v ∈ values ∧ start ≤ v.wallMs ∧ v.wallMs ≤ stop := ⟨listed, after, before⟩
  refine ⟨fun acc => ?_, fun obd => ?_, ?_⟩
  · have notOn := on v inside
    have known := unknown v inside
    cases read : v.acc with
    | none => exact absurd (.inl ⟨acc, read⟩) known
    | some value =>
      cases value with
      | false => rfl
      | true => exact absurd ⟨acc, read⟩ notOn
  · have slow := moving.1 v inside
    exact not_lt.mp fun fast => slow ⟨obd, fast⟩
  · simpa using moving.2 v inside

theorem safe_of_valid (ordered : start < stop) (day : stop - start ≤ 86400000)
    (proved : valid (assess (some start) (some stop) values healthy timezone) = true) :
    ∀ pair ∈ accPairs values, Overlaps start stop pair → SafePair healthy timezone pair :=
  safe_of_reaches start stop healthy timezone ordered.le (accOrder values)
    (sorted_accOrder values) start (fun _ _ => le_max_left _ _)
    (swept_of_valid ordered day proved)

theorem overlapping_of_valid (ordered : start < stop) (day : stop - start ≤ 86400000)
    (proved : valid (assess (some start) (some stop) values healthy timezone) = true) :
    ∃ pair ∈ accPairs values, Overlaps start stop pair := by
  by_contra none_
  have swept := swept_of_valid ordered day proved
  have empty : safeSpans start stop healthy timezone (accPairs values) = [] := by
    rw [safeSpans, List.filter_eq_nil_iff.mpr, List.map_nil]
    intro pair member kept
    exact none_ ⟨pair, member, (of_decide_eq_true kept).1⟩
  rw [empty, Intervals.sweep] at swept
  have same := Option.some.inj swept
  omega

theorem maxGap_of_valid (ordered : start < stop) (day : stop - start ≤ 86400000)
    (proved : valid (assess (some start) (some stop) values healthy timezone) = true) :
    (assess (some start) (some stop) values healthy timezone).maxGapMs =
        longestElapsed start stop values ∧
      0 < longestElapsed start stop values := by
  obtain ⟨_, _, _, _, reported, _⟩ := assess_fields values healthy timezone ordered day
  obtain ⟨through, _⟩ := tight_of_valid ordered day proved
  have safe := safe_of_valid ordered day proved
  have gap := maxGap_of_swept start stop healthy timezone (accPairs values) (freshTally start) stop
    (swept_of_valid ordered day proved) safe
  have longest : (0 :: ((accPairs values).filter (Overlaps start stop)).map elapsed).max? =
      some (longestElapsed start stop values) := List.max?_cons'
  obtain ⟨attained, greatest⟩ := List.max?_eq_some_iff.mp longest
  obtain ⟨pair, member, overlaps⟩ := overlapping_of_valid ordered day proved
  have positive : 1 ≤ elapsed pair := (safe pair member overlaps).2.1.2.2.2.2.2.2.1
  have below : elapsed pair ≤ longestElapsed start stop values :=
    greatest _ (List.mem_cons_of_mem _ (List.mem_map_of_mem
      (List.mem_filter.mpr ⟨member, decide_eq_true overlaps⟩)))
  have close : longestElapsed start stop values ≤ 7500 := by
    rcases List.mem_cons.mp attained with zero | listed
    · omega
    · obtain ⟨other, kept, same⟩ := List.mem_map.mp listed
      obtain ⟨among, inside⟩ := List.mem_filter.mp kept
      have bound : elapsed other ≤ 7500 :=
        (safe other among (of_decide_eq_true inside)).2.1.2.2.2.2.2.2.2
      omega
  have final : (tallied start stop values healthy timezone).maxGap =
      longestElapsed start stop values := gap
  rw [reported, final, through]
  omega

theorem guardOff_of_valid (ordered : start < stop) (day : stop - start ≤ 86400000)
    (proved : valid (assess (some start) (some stop) values healthy timezone) = true) :
    guardOff (received (assess (some start) (some stop) values healthy timezone)) = true ↔
      stop - start ≤ (accInside start stop values + 1) * longestElapsed start stop values := by
  obtain ⟨first, last, window, _, _, count⟩ := assess_fields values healthy timezone ordered day
  obtain ⟨gap, positive⟩ := maxGap_of_valid ordered day proved
  obtain ⟨some_, credited, unknown, close, counted, on, unknowns, segments, moving⟩ :=
    of_decide_eq_true proved
  have exact_ : Binary64.nearestEven (millis (1000 * stop - 1000 * start)) = stop - start := by
    rw [← mul_sub]
    exact millis_exact (by omega) day
  simp only [guardOff, received, first, last, Option.map_some, decide_eq_true_eq, exact_]
  rw [gap] at close ⊢
  rw [window] at credited some_ ⊢
  rw [count] at counted ⊢
  constructor
  · intro accepted
    exact accepted.2.2.2.2.2.2.2.1
  · intro enough
    exact ⟨rfl, some_, credited, unknown, positive, close, by exact_mod_cast counted, enough,
      by exact_mod_cast on, by exact_mod_cast unknowns, by exact_mod_cast moving,
      by exact_mod_cast segments⟩

end Proof

/-- A valid proof of the camera is true of the observations, and the backup accepts it exactly
when the wall clock ran no further than the samples' monotonic times allow. -/
theorem guards_agree_iff (start stop : ℤ) (values : List MotionObservation) (healthy : Bool)
    (timezone : String) (ordered : start < stop) (day : stop - start ≤ 86400000)
    (proved : valid (assess (some start) (some stop) values healthy timezone) = true) :
    ProvenOff start stop timezone values ∧
      (guardOff (received (assess (some start) (some stop) values healthy timezone)) = true ↔
        stop - start ≤
          (accInside start stop values + 1) * longestElapsed start stop values) :=
  ⟨⟨fun x after before => between_of_valid ordered day proved x after before,
    fun v listed after before => still_of_valid ordered day proved v listed after before⟩,
    guardOff_of_valid ordered day proved⟩

def falling (wallMs elapsedMs : ℤ) : MotionObservation where
  wallMs := wallMs
  elapsedMs := elapsedMs
  sessionId := "session"
  segmentId := "segment"
  kind := .acc
  acc := some false
  speed := none
  accuracy := none
  ageMs := none
  horizontalAccuracy := none
  timezone := "UTC"

theorem guards_agree_iff_falling :
    guardOff (received (assess (some 1000) (some 6000)
        [falling 7000 5000, falling 2000 2000, falling 0 0, falling 4000 4000] true "UTC")) =
      true :=
  (guards_agree_iff 1000 6000
      [falling 7000 5000, falling 2000 2000, falling 0 0, falling 4000 4000] true "UTC"
      (by decide) (by decide) (by decide +kernel)).2.mpr (by decide +kernel)

/-- Four samples seven seconds of wall time apart are a valid proof that the backup refuses. -/
theorem not_guards_agree : ¬∀ (start stop : ℤ) (values : List MotionObservation) (healthy : Bool)
    (timezone : String), start < stop → stop - start ≤ 86400000 →
      valid (assess (some start) (some stop) values healthy timezone) = true →
        ProvenOff start stop timezone values ∧
          guardOff (received (assess (some start) (some stop) values healthy timezone)) = true := by
  intro agree
  have accepted := (agree 1 20999
    [falling 0 0, falling 7000 5000, falling 14000 10000, falling 21000 15000] true "UTC"
    (by decide) (by decide) (by decide +kernel)).2
  have refused : guardOff (received (assess (some 1) (some 20999)
      [falling 0 0, falling 7000 5000, falling 14000 10000, falling 21000 15000] true "UTC")) =
        false := by decide +kernel
  rw [refused] at accepted
  exact Bool.false_ne_true accepted

end DashcamStats.Parked
