import DashcamStats.Bundle.PollTiming
import DashcamStats.Logger.PollTiming

namespace DashcamStats.Logger

open DashcamStats.Bundle Observed

theorem coerceIn_bounds {x low high : ℤ} (ordered : low ≤ high) :
    low ≤ coerceIn x low high ∧ coerceIn x low high ≤ high := by
  unfold coerceIn
  split_ifs <;> omega

namespace PollTimingDistribution

structure Summarises (d : PollTimingDistribution) (xs : List ℕ) : Prop where
  count : d.count = xs.length
  recent : d.recent = Observed.recent 256 xs
  maximum : d.maximum = greatest xs
  total : d.total = capped pollTimingTimeLimit xs
  few : xs.length ≤ pollTimingCountLimit
  bounded : ∀ x ∈ xs, x ≤ pollTimingObservationLimit

theorem empty_summarises : empty.Summarises [] := by
  constructor <;> simp [empty]

-- The value that `observe` adds.
def clamped (value : ℤ) : ℕ := (coerceIn value 0 pollTimingObservationLimit).toNat

theorem clamped_le (value : ℤ) : clamped value ≤ pollTimingObservationLimit := by
  have range : 0 ≤ coerceIn value 0 pollTimingObservationLimit ∧
      coerceIn value 0 pollTimingObservationLimit ≤ pollTimingObservationLimit :=
    coerceIn_bounds (by simp [pollTimingObservationLimit])
  unfold clamped
  omega

variable {d : PollTimingDistribution} {xs : List ℕ}

theorem Summarises.observe (summary : d.Summarises xs) (room : xs.length < pollTimingCountLimit)
    (value : ℤ) : (d.observe value).Summarises (xs ++ [clamped value]) := by
  have open_count : ¬pollTimingCountLimit ≤ d.count := by
    rw [summary.count]
    omega
  rw [PollTimingDistribution.observe, if_neg open_count]
  constructor
  · simp [summary.count]
  · simp only [summary.recent, recent_append _ (by omega : 0 < 256), clamped]
  · simp only [summary.maximum, greatest_append, clamped]
  · simp only [summary.total, capped_append, clamped]
  · simpa using Nat.succ_le_of_lt room
  · intro x member
    cases List.mem_append.mp member with
    | inl earlier => exact summary.bounded x earlier
    | inr latest => exact List.mem_singleton.mp latest ▸ clamped_le value

theorem Summarises.observe_any (summary : d.Summarises xs) (value : ℤ) :
    ∃ ys, (d.observe value).Summarises ys ∧ ys.length ≤ xs.length + 1 := by
  by_cases room : xs.length < pollTimingCountLimit
  · exact ⟨_, summary.observe room value, by simp⟩
  · have full : pollTimingCountLimit ≤ d.count := by
      rw [summary.count]
      omega
    rw [PollTimingDistribution.observe, if_pos full]
    exact ⟨xs, summary, by omega⟩

theorem p95Index_bounds {size : ℕ} (positive : 0 < size) (short : size ≤ 256) :
    size / 2 ≤ p95Index size ∧ p95Index size < size := by
  unfold p95Index
  omega

section OrderStatistics

variable {recent : List ℕ} {most : ℕ} (left : recent ≠ []) (short : recent.length ≤ 256)
variable (most_bounds : ∀ x ∈ recent, x ≤ most) (small : most ≤ pollTimingObservationLimit)

include left most_bounds small

theorem p95_accepted (name : String) :
    number (p95 recent) name (some 0) (some most) false =
      .ok (some (ranked recent (p95Index recent.length))) := by
  have bound := ranked_le most_bounds (p95Index recent.length)
  have long_enough : recent.length ≠ 0 := by simpa using left
  simp only [pollTimingObservationLimit] at small
  rw [p95, if_neg long_enough,
    number_int (by omega) (by omega) (abs_lt.mpr ⟨by omega, by omega⟩)]
  rfl

include short

theorem median_accepted (name : String) :
    ∃ m : ℚ, number (median recent) name (some 0) (some most) false = .ok (some m) ∧
      m ≤ ranked recent (p95Index recent.length) := by
  have long_enough : recent.length ≠ 0 := by simpa using left
  obtain ⟨upper, inside⟩ := p95Index_bounds (by omega : 0 < recent.length) short
  have middle := ranked_le_ranked upper inside
  have middle_bound := ranked_le most_bounds (recent.length / 2)
  simp only [pollTimingObservationLimit] at small
  by_cases odd : recent.length % 2 = 1
  · have whole : Binary64.round (ranked recent (recent.length / 2)) =
        ranked recent (recent.length / 2) :=
      Binary64.round_intCast (n := ranked recent (recent.length / 2))
        (abs_lt.mpr ⟨by omega, by omega⟩)
    refine ⟨ranked recent (recent.length / 2), ?_, by exact_mod_cast middle⟩
    rw [median, if_neg long_enough, if_pos odd, whole]
    apply number_double (by simp) (by exact_mod_cast middle_bound)
    rw [Nat.abs_cast]
    exact_mod_cast (by omega : ranked recent (recent.length / 2) < 2 ^ 53)
  · have lower : ranked recent (recent.length / 2 - 1) ≤
        ranked recent (p95Index recent.length) :=
      ranked_le_ranked (by omega) inside
    have lower_bound := ranked_le most_bounds (recent.length / 2 - 1)
    generalize first : ranked recent (recent.length / 2 - 1) = a at *
    generalize second : ranked recent (recent.length / 2) = b at *
    have whole : Binary64.round ((a + b : ℕ) : ℚ) = ((a + b : ℕ) : ℚ) :=
      Binary64.round_intCast (n := (a + b : ℕ)) (abs_lt.mpr ⟨by omega, by omega⟩)
    have half : Binary64.round (((a + b : ℕ) : ℚ) / 2) = ((a + b : ℕ) : ℚ) / 2 :=
      Binary64.round_half (n := (a + b : ℕ)) (abs_lt.mpr ⟨by omega, by omega⟩)
    refine ⟨((a + b : ℕ) : ℚ) / 2, ?_, ?_⟩
    · rw [median, if_neg long_enough, if_neg odd]
      simp only [first, second, whole, half]
      exact number_half (by omega) (by omega)
    · have summed : ((a + b : ℕ) : ℚ) ≤ ((2 * ranked recent (p95Index recent.length) : ℕ) : ℚ) := by
        exact_mod_cast (by omega : a + b ≤ 2 * ranked recent (p95Index recent.length))
      push_cast at summed ⊢
      linarith

end OrderStatistics

structure Bounded (d : PollTimingDistribution) : Prop where
  count : d.count ≤ pollTimingCountLimit
  kept : d.recent.length = min d.count 256
  maximum : d.maximum ≤ pollTimingObservationLimit
  total : d.total ≤ pollTimingTimeLimit
  maximum_total : d.maximum ≤ d.total
  total_maximum : d.total ≤ d.maximum * d.count
  recent : ∀ x ∈ d.recent, x ≤ d.maximum

theorem Summarises.bounded_numbers (summary : d.Summarises xs) : d.Bounded := by
  have maximum_le : greatest xs ≤ pollTimingObservationLimit := greatest_le summary.bounded
  constructor
  · exact summary.count ▸ summary.few
  · simp [summary.recent, summary.count]
  · exact summary.maximum ▸ maximum_le
  · exact summary.total ▸ capped_le
  · rw [summary.total, summary.maximum]
    exact greatest_le_capped
      (maximum_le.trans (by simp [pollTimingObservationLimit, pollTimingTimeLimit]))
  · rw [summary.total, summary.maximum, summary.count]
    exact capped_le_greatest_mul
  · intro x member
    rw [summary.maximum]
    rw [summary.recent] at member
    exact le_greatest (mem_of_mem_recent member)

theorem Bounded.timingBounds (bounds : d.Bounded) (name : String) :
    Bundle.timingBounds d.members name d.count d.maximum d.total = .ok () := by
  have medians : item d.members "median_ms" = .ok (median d.recent) := rfl
  have p95s : item d.members "p95_ms" = .ok (p95 d.recent) := rfl
  have kept := bounds.kept
  by_cases none_left : d.count = 0
  · have cleared : d.maximum = 0 ∧ d.total = 0 := by
      have total := bounds.total_maximum
      have maximum := bounds.maximum_total
      rw [none_left, Nat.mul_zero] at total
      omega
    have gone : d.recent = [] := List.eq_nil_of_length_eq_zero (by omega)
    have null_median : (median d.recent).IsNull := by simp [median, gone, Json.IsNull]
    have null_p95 : (p95 d.recent).IsNull := by simp [p95, gone, Json.IsNull]
    simp only [Bundle.timingBounds, medians, p95s, ok_bind, Nat.cast_eq_zero, none_left,
      ↓reduceIte, refuse_eq_ok]
    simp [cleared, null_median, null_p95]
  · have left : d.recent ≠ [] := by
      intro gone
      rw [gone, List.length_nil] at kept
      omega
    obtain ⟨m, median_ok, ordered⟩ := median_accepted left (by omega) bounds.recent bounds.maximum
      s!"{name}.median_ms"
    have p95_ok := p95_accepted left bounds.recent bounds.maximum s!"{name}.p95_ms"
    simp only [Bundle.timingBounds, medians, p95s, ok_bind, Nat.cast_eq_zero, none_left,
      ↓reduceIte, median_ok, p95_ok, present, refuse_eq_ok, not_or, not_lt, not_not]
    refine ⟨ordered, ?_, ?_⟩
    · exact_mod_cast bounds.maximum_total
    · exact_mod_cast bounds.total_maximum

theorem Bounded.timing (bounds : d.Bounded) (name : String) :
    Bundle.timing d.json name = .ok { count := d.count, maximum := d.maximum, total := d.total } := by
  have listed : KeysAre d.members timingFields := keysAre_of_perm (List.Perm.refl _)
  have counts : item d.members "count" = .ok (.int d.count) := rfl
  have kepts : item d.members "retained" = .ok (.int d.recent.length) := rfl
  have maxima : item d.members "max_ms" = .ok (.int d.maximum) := rfl
  have totals : item d.members "total_ms" = .ok (.int d.total) := rfl
  have count := bounds.count
  have kept := bounds.kept
  have maximum := bounds.maximum
  have total := bounds.total
  simp only [pollTimingCountLimit, pollTimingObservationLimit, pollTimingTimeLimit] at *
  simp only [Bundle.timing, json, refuse_of_not (not_not.mpr listed), counts, kepts, maxima,
    totals, ok_bind]
  rw [integer_ok (by omega) (by omega), ok_bind, integer_ok (by omega) (by omega), ok_bind,
    integer_ok (by omega) (by omega), ok_bind, integer_ok (by omega) (by omega), ok_bind,
    refuse_of_not (by omega), ok_bind, bounds.timingBounds]
  rfl

def Recorded (d : PollTimingDistribution) : Prop := ∃ xs, d.Summarises xs

theorem recorded_empty : empty.Recorded := ⟨[], empty_summarises⟩

theorem Recorded.observe (recorded : d.Recorded) (value : ℤ) : (d.observe value).Recorded := by
  obtain ⟨xs, summary⟩ := recorded
  obtain ⟨ys, observed, _⟩ := summary.observe_any value
  exact ⟨ys, observed⟩

theorem Recorded.bounded (recorded : d.Recorded) : d.Bounded := by
  obtain ⟨xs, summary⟩ := recorded
  exact summary.bounded_numbers

theorem count_observe {value : ℤ} (room : d.count < pollTimingCountLimit) :
    (d.observe value).count = d.count + 1 := by
  rw [PollTimingDistribution.observe, if_neg (by omega)]

theorem count_observe_le (value : ℤ) : (d.observe value).count ≤ d.count + 1 := by
  unfold PollTimingDistribution.observe
  split_ifs <;> simp

theorem clamped_natCast {n : ℕ} (small : n ≤ pollTimingObservationLimit) : clamped n = n := by
  unfold clamped coerceIn
  split_ifs <;> omega

end PollTimingDistribution

open PollTimingDistribution

/-- The loop of `finishCycle` gives each stage a share, and the shares and the rest are the
cycle. -/
theorem finishStages_shares (activeStages : PollCycleStage → ℤ) (stages : List PollCycleStage)
    (distinct : stages.Nodup) (remaining : ℤ) (nonneg : 0 ≤ remaining)
    (before : PollCycleStage → PollTimingDistribution) :
    ∃ (share : PollCycleStage → ℕ) (rest : ℕ),
      (PollTiming.finishStages activeStages stages remaining before).1 = rest ∧
      whole stages share + rest = remaining ∧
      ∀ stage, (PollTiming.finishStages activeStages stages remaining before).2 stage =
        if stage ∈ stages then (before stage).observe (share stage) else before stage := by
  induction stages generalizing remaining before with
  | nil => exact ⟨fun _ => 0, remaining.toNat, by simp [PollTiming.finishStages, nonneg],
      by simp [whole, nonneg], by simp [PollTiming.finishStages]⟩
  | cons stage stages ih =>
    have range := coerceIn_bounds (x := activeStages stage) nonneg
    obtain ⟨absent, distinct⟩ := List.nodup_cons.mp distinct
    generalize taken : coerceIn (activeStages stage) 0 remaining = elapsed at range
    obtain ⟨share, rest, left, sum, observed⟩ := ih distinct (remaining - elapsed) (by omega)
      (Function.update before stage ((before stage).observe elapsed))
    refine ⟨Function.update share stage elapsed.toNat, rest, ?_, ?_, ?_⟩
    · simpa [PollTiming.finishStages, taken] using left
    · have others : stages.map (Function.update share stage elapsed.toNat) = stages.map share := by
        apply List.map_congr_left
        intro other member
        have apart : other ≠ stage := by
          rintro rfl
          exact absent member
        exact Function.update_of_ne apart _ _
      simp only [whole, List.map_cons, Function.update_self, others, List.sum_cons] at sum ⊢
      omega
    · intro other
      simp only [PollTiming.finishStages, taken, observed other]
      by_cases same : other = stage
      · subst same
        simp [absent, range.1]
      · simp [same]

theorem cycle_shares (activeStages : PollCycleStage → ℤ) {duration : ℤ} (nonneg : 0 ≤ duration)
    (before : PollCycleStage → PollTimingDistribution) :
    let finished := PollTiming.finishStages activeStages
      (PollCycleStage.entries.filter (· ≠ .schedulerOther)) duration before
    ∃ share : PollCycleStage → ℕ, (whole PollCycleStage.entries share : ℤ) = duration ∧
      ∀ stage, Function.update finished.2 .schedulerOther
        ((finished.2 .schedulerOther).observe finished.1) stage =
          (before stage).observe (share stage) := by
  obtain ⟨share, rest, left, sum, observed⟩ := finishStages_shares activeStages
    (PollCycleStage.entries.filter (· ≠ .schedulerOther)) (by decide) duration nonneg before
  refine ⟨Function.update share .schedulerOther rest, ?_, ?_⟩
  · rw [← sum]
    simp [whole, PollCycleStage.entries, Function.update]
    omega
  · intro stage
    by_cases other : stage = .schedulerOther
    · subst other
      rw [Function.update_self, Function.update_self, left, observed, if_neg (by decide)]
    · have member : stage ∈ PollCycleStage.entries.filter (· ≠ .schedulerOther) :=
        List.mem_filter.mpr ⟨by cases stage <;> decide, by simpa using other⟩
      rw [Function.update_of_ne other, observed, if_pos member, Function.update_of_ne other]

theorem validateStages_ok (work : Timing) (stages : List PollCycleStage)
    (of : PollCycleStage → PollTimingDistribution)
    (accepted : ∀ stage ∈ stages, (of stage).Bounded ∧ ((of stage).count : ℤ) = work.count ∧
      ((of stage).maximum : ℤ) ≤ work.maximum ∧ ((of stage).total : ℤ) ≤ work.total) :
    validateStages work (stages.map fun stage => (stage.field, (of stage).json)) =
      .ok ((stages.map fun stage => (of stage).total).sum : ℕ) := by
  induction stages with
  | nil => rfl
  | cons stage stages ih =>
    obtain ⟨bounds, count, maximum, total⟩ := accepted stage (by simp)
    have rest := ih fun other member => accepted other (by simp [member])
    simp only [List.map_cons, validateStages, bounds.timing, ok_bind]
    rw [refuse_of_not (by simpa using count), ok_bind, refuse_of_not (by omega), ok_bind, rest,
      ok_bind, List.sum_cons, Nat.cast_add]
    rfl

namespace PidTiming

structure Sound (stats : PidTiming) : Prop where
  known : stats.pid ∈ PollTiming.knownPids
  requests : stats.requests.Recorded
  ages : stats.ages.Recorded
  outcomes : (PollOutcome.entries.map stats.outcomes).sum = stats.requests.count
  aged : stats.ages.count ≤ stats.outcomes .success
  skips : stats.skips ≤ pollTimingCountLimit

variable {stats : PidTiming}

theorem create_sound {pid : ℤ} (known : pid ∈ PollTiming.knownPids) : (create pid).Sound where
  known := known
  requests := recorded_empty
  ages := recorded_empty
  outcomes := rfl
  aged := Nat.zero_le _
  skips := Nat.zero_le _

theorem Sound.request (sound : stats.Sound) (room : stats.requests.count < pollTimingCountLimit)
    (value : ℤ) (outcome : PollOutcome) :
    Sound { stats with
      requests := stats.requests.observe value
      outcomes := Function.update stats.outcomes outcome (stats.outcomes outcome + 1) } where
  known := sound.known
  requests := sound.requests.observe value
  ages := sound.ages
  outcomes := by
    have sum := sound.outcomes
    rw [count_observe room, ← sum]
    cases outcome <;> simp [PollOutcome.entries, Function.update] <;> omega
  aged := by
    have aged := sound.aged
    by_cases success : PollOutcome.success = outcome
    · subst success
      simp only [Function.update_self]
      omega
    · simpa only [Function.update_of_ne success] using aged
  skips := sound.skips

theorem Sound.age (sound : stats.Sound) (room : stats.ages.count < stats.outcomes .success)
    (value : ℤ) : Sound { stats with ages := stats.ages.observe value } where
  known := sound.known
  requests := sound.requests
  ages := sound.ages.observe value
  outcomes := sound.outcomes
  aged := (count_observe_le value).trans room
  skips := sound.skips

theorem Sound.skip (sound : stats.Sound) :
    Sound { stats with skips := min (stats.skips + 1) pollTimingCountLimit } where
  known := sound.known
  requests := sound.requests
  ages := sound.ages
  outcomes := sound.outcomes
  aged := sound.aged
  skips := min_le_right _ _

theorem Sound.outcome_le (sound : stats.Sound) (outcome : PollOutcome) :
    stats.outcomes outcome ≤ pollTimingCountLimit := by
  have sum := sound.outcomes
  have count := sound.requests.bounded.count
  rw [← sum] at count
  refine le_trans ?_ count
  exact List.single_le_sum (by simp) _
    (List.mem_map_of_mem (by cases outcome <;> simp [PollOutcome.entries]))

theorem pidCount_outcomes (sound : stats.Sound) :
    outcomeNames.mapM (pidCount stats.members) =
      .ok (PollOutcome.entries.map fun outcome => (stats.outcomes outcome : ℤ)) := by
  have one (outcome : PollOutcome) :
      pidCount stats.members outcome.field = .ok (stats.outcomes outcome : ℤ) := by
    have found : item stats.members outcome.field = .ok (.int (stats.outcomes outcome)) := by
      cases outcome <;> rfl
    have bound := sound.outcome_le outcome
    simp only [pollTimingCountLimit] at bound
    simp only [pidCount, found, ok_bind]
    exact integer_ok (by omega) (by omega)
  have names : outcomeNames = PollOutcome.entries.map PollOutcome.field := rfl
  rw [names]
  induction PollOutcome.entries with
  | nil => rfl
  | cons outcome rest ih =>
    simp only [List.map_cons, List.mapM_cons, one, ok_bind, ih]
    rfl

theorem Sound.accepted (sound : stats.Sound) {seen : List ℤ} (unseen : stats.pid ∉ seen) :
    validatePid seen stats.json = .ok stats.pid := by
  have listed : KeysAre stats.members pidFields := by
    apply keysAre_of_perm
    have names : memberNames stats.members =
        ["pid", "attempts"] ++ outcomeNames ++
          ["cooldown_skips", "request_ms", "value_age_at_row_ms"] := rfl
    rw [names]
    decide
  have pids : item stats.members "pid" = .ok (.int stats.pid) := rfl
  have attempts : item stats.members "attempts" = .ok (.int stats.requests.count) := rfl
  have skips : item stats.members "cooldown_skips" = .ok (.int stats.skips) := rfl
  have requests : item stats.members "request_ms" = .ok stats.requests.json := rfl
  have ages : item stats.members "value_age_at_row_ms" = .ok stats.ages.json := rfl
  have successes : item stats.members "successes" = .ok (.int (stats.outcomes .success)) := rfl
  have range : 0 ≤ stats.pid ∧ stats.pid ≤ 255 := by
    have all_in : ∀ pid ∈ PollTiming.knownPids, 0 ≤ pid ∧ pid ≤ 255 := by decide
    exact all_in _ sound.known
  have count := sound.requests.bounded.count
  have skipped := sound.skips
  have succeeded := sound.outcome_le .success
  have aged := sound.aged
  have sum : (PollOutcome.entries.map fun outcome => (stats.outcomes outcome : ℤ)).sum =
      stats.requests.count := by
    rw [← sound.outcomes]
    simp [PollOutcome.entries]
  simp only [pollTimingCountLimit] at count skipped succeeded
  simp only [validatePid, json, refuse_of_not (not_not.mpr listed), pids, ok_bind,
    pidCount_outcomes sound, pidCount, attempts, skips, requests, ages, successes,
    sound.requests.bounded.timing, sound.ages.bounded.timing, integer_ok range.1 range.2]
  rw [refuse_of_not unseen, ok_bind, integer_ok (by omega) (by omega), ok_bind,
    integer_ok (by omega) (by omega), ok_bind, refuse_of_not (by simpa using sum), ok_bind,
    refuse_of_not (by simp), ok_bind, integer_ok (by omega) (by omega), ok_bind,
    refuse_of_not (by omega)]
  rfl

end PidTiming

theorem validatePids_ok (rows : List PidTiming) (seen : List ℤ)
    (sound : ∀ stats ∈ rows, stats.Sound) (distinct : (rows.map PidTiming.pid).Nodup)
    (unseen : ∀ stats ∈ rows, stats.pid ∉ seen) :
    validatePids seen (rows.map PidTiming.json) = .ok () := by
  induction rows generalizing seen with
  | nil => rfl
  | cons stats rows ih =>
    obtain ⟨apart, distinct⟩ := List.nodup_cons.mp distinct
    simp only [List.map_cons, validatePids, (sound stats (by simp)).accepted (unseen stats (by simp)),
      ok_bind]
    apply ih _ (fun other member => sound other (by simp [member])) distinct
    intro other member again
    cases List.mem_cons.mp again with
    | inl same => exact apart (same ▸ List.mem_map_of_mem member)
    | inr earlier => exact unseen other (by simp [member]) earlier

namespace PollTiming

structure Sound (t : PollTiming) (target : ℤ) : Prop where
  origin : 0 ≤ t.origin ∧ t.origin ≤ t.windowStart
  clock : t.windowStart ≤ t.highWater ∧ t.highWater < 2 ^ 63
  index : t.windowIndex ≤ pollTimingCountLimit
  started : t.cyclesStarted ≤ pollTimingCountLimit
  cycles : ∃ ys : List (PollCycleStage → ℕ),
    t.work.Summarises (ys.map (whole PollCycleStage.entries)) ∧
    (∀ stage, (t.stages stage).Summarises (ys.map (· stage))) ∧
    t.cyclesCompleted ≤ ys.length ∧ t.overruns ≤ ys.length ∧
    ys.length + (if t.activeCycle.isSome then 1 else 0) ≤ t.cyclesStarted
  intervals : ∃ xs, t.intervals.Summarises xs ∧ xs.length ≤ t.cyclesStarted
  active : ∀ start, t.activeCycle = some start → 0 ≤ start ∧ start ≤ t.highWater
  pids : ∀ stats ∈ t.pids, stats.Sound
  plan : t.targetCycleMillis = target

variable {t : PollTiming} {target : ℤ}

theorem long_lt (x : ℤ) : long x < 2 ^ 63 := by
  have range := Int.bmod_lt (x := x) (m := 2 ^ 64) (by omega)
  unfold long
  omega

theorem long_of_small {x : ℤ} (low : 0 ≤ x) (high : x < 2 ^ 63) : long x = x :=
  Int.bmod_eq_of_le_mul_two (by omega) (by omega)

theorem create_sound (origin : Option ℤ) (target reading : ℤ) :
    (create origin target reading).Sound target := by
  have range := long_lt reading
  have starts := coerceIn_bounds (x := (origin.map long).getD (max (long reading) 0))
    (le_max_right (long reading) 0)
  constructor
  · exact starts
  · exact ⟨le_rfl, by simp only [create]; omega⟩
  · exact Nat.zero_le _
  · exact Nat.zero_le _
  · exact ⟨[], empty_summarises, fun _ => empty_summarises, le_rfl, le_rfl, le_rfl⟩
  · exact ⟨[], empty_summarises, le_rfl⟩
  · intro start active
    simp [create] at active
  · intro stats member
    exact absurd member (Table.not_mem_empty stats)
  · rfl

theorem Sound.now (sound : t.Sound target) (reading : ℤ) : (t.now reading).Sound target where
  origin := sound.origin
  clock := by
    have range := long_lt reading
    have clock := sound.clock
    simp only [PollTiming.now]
    omega
  index := sound.index
  started := sound.started
  cycles := sound.cycles
  intervals := sound.intervals
  active := by
    intro start active
    have before := sound.active start active
    simp only [PollTiming.now]
    omega
  pids := sound.pids
  plan := sound.plan

theorem Sound.put (sound : t.Sound target) {stats : PidTiming} (new : stats.Sound) :
    Sound { t with pids := t.pids.put stats } target where
  origin := sound.origin
  clock := sound.clock
  index := sound.index
  started := sound.started
  cycles := sound.cycles
  intervals := sound.intervals
  active := sound.active
  pids := by
    intro row member
    rcases Table.mem_put.mp member with ⟨old, _⟩ | rfl
    · exact sound.pids row old
    · exact new
  plan := sound.plan

theorem Sound.scratch (sound : t.Sound target) (completions : List (ℤ × ℤ))
    (activeStages : PollCycleStage → ℤ) :
    Sound { t with rowCompletions := completions, activeStages } target where
  origin := sound.origin
  clock := sound.clock
  index := sound.index
  started := sound.started
  cycles := sound.cycles
  intervals := sound.intervals
  active := sound.active
  pids := sound.pids
  plan := sound.plan

theorem Sound.stats (sound : t.Sound target) {pid : ℤ} (known : pid ∈ knownPids) :
    (t.stats pid).Sound := by
  unfold PollTiming.stats
  cases found : t.pids.find? pid with
  | none => exact PidTiming.create_sound known
  | some stats => exact sound.pids stats (Table.find?_mem found).1

theorem Sound.startCycle (sound : t.Sound target) {reading : ℤ} {u : PollTiming}
    (started : t.startCycle reading = some u) : u.Sound target := by
  have after := sound.now reading
  have nonneg : 0 ≤ (t.now reading).highWater := by
    have origin := after.origin
    have clock := after.clock
    omega
  unfold PollTiming.startCycle at started
  by_cases busy : t.activeCycle.isSome
  · simp [busy] at started
  · simp only [busy, Bool.false_eq_true, ↓reduceIte] at started
    split_ifs at started with full
    · rw [← Option.some.inj started]
      exact after.scratch [] fun _ => 0
    · rw [← Option.some.inj started]
      constructor
      · exact after.origin
      · exact after.clock
      · exact after.index
      · exact Nat.succ_le_of_lt (not_le.mp full)
      · obtain ⟨ys, work, stages, completed, overruns, counted⟩ := after.cycles
        have idle : ¬(t.now reading).activeCycle.isSome := busy
        rw [if_neg idle] at counted
        exact ⟨ys, work, stages, completed, overruns, Nat.succ_le_succ counted⟩
      · obtain ⟨xs, summary, counted⟩ := after.intervals
        cases earlier : (t.now reading).previousCycle with
        | none => exact ⟨xs, by simpa only [earlier] using summary, Nat.le_succ_of_le counted⟩
        | some previous =>
          obtain ⟨ys, observed, more⟩ := summary.observe_any
            (long ((t.now reading).highWater - previous))
          exact ⟨ys, by simpa only [earlier] using observed,
            more.trans (Nat.succ_le_succ counted)⟩
      · intro start active
        obtain rfl := Option.some.inj active
        exact ⟨nonneg, le_rfl⟩
      · exact after.pids
      · exact after.plan

theorem Sound.finishCycle (sound : t.Sound target) (reading : ℤ) (completed : Bool) :
    (t.finishCycle reading completed).Sound target := by
  unfold PollTiming.finishCycle
  cases running : t.activeCycle with
  | none => exact sound
  | some start =>
    have after := sound.now reading
    have began := after.active start running
    have clock := after.clock
    have elapsed : long ((t.now reading).highWater - start) = (t.now reading).highWater - start :=
      long_of_small (by omega) (by omega)
    obtain ⟨ys, work, stages, finished, overruns, counted⟩ := after.cycles
    have busy : (t.now reading).activeCycle.isSome := by
      simp [PollTiming.now, running]
    rw [if_pos busy] at counted
    have limit := after.started
    simp only [elapsed]
    generalize cut : min ((t.now reading).highWater - start) (pollTimingObservationLimit : ℤ) =
      duration
    have nonneg : 0 ≤ duration := by omega
    have short : duration ≤ pollTimingObservationLimit := by omega
    obtain ⟨share, sum, observed⟩ := cycle_shares (t.now reading).activeStages nonneg
      (t.now reading).stages
    have share_le (stage : PollCycleStage) : share stage ≤ pollTimingObservationLimit := by
      have part := part_le_whole (by cases stage <;> decide : stage ∈ PollCycleStage.entries) share
      omega
    have whole_le : whole PollCycleStage.entries share ≤ pollTimingObservationLimit := by omega
    have room : ys.length < pollTimingCountLimit := by omega
    constructor
    · exact after.origin
    · exact clock
    · exact after.index
    · exact limit
    · refine ⟨ys ++ [share], ?_, ?_, ?_, ?_, ?_⟩
      · have added := work.observe (by simpa using room) (whole PollCycleStage.entries share : ℕ)
        rw [clamped_natCast whole_le, sum] at added
        simpa using added
      · intro stage
        have added := (stages stage).observe (by simpa using room) (share stage : ℕ)
        rw [clamped_natCast (share_le stage), ← observed stage] at added
        simpa using added
      · rw [List.length_append, List.length_singleton]
        dsimp only
        split_ifs <;> omega
      · rw [List.length_append, List.length_singleton]
        dsimp only
        split_ifs <;> omega
      · simpa using counted
    · exact after.intervals
    · intro other active
      simp at active
    · exact after.pids
    · exact after.plan

theorem Sound.observeStage (sound : t.Sound target) {stage : PollCycleStage} {startedAt reading : ℤ}
    {u : PollTiming} (observed : t.observeStage stage startedAt reading = some u) : u.Sound target := by
  unfold PollTiming.observeStage at observed
  split_ifs at observed
  · exact Option.some.inj observed ▸ sound
  · rw [← Option.some.inj observed]
    exact (sound.now reading).scratch _ _

theorem Sound.recordRequest (sound : t.Sound target) (pid startedAt reading : ℤ) (outcome : PollOutcome) :
    (t.recordRequest pid startedAt reading outcome).Sound target := by
  unfold PollTiming.recordRequest
  by_cases known : pid ∈ knownPids
  · have stats := sound.stats known
    have after := sound.now reading
    simp only [known, ↓reduceIte]
    split_ifs with full success
    · exact after.put stats
    · exact (after.put (stats.request (not_le.mp full) _ _)).scratch _ _
    · exact after.put (stats.request (not_le.mp full) _ _)
  · simpa only [known, ↓reduceIte] using sound

theorem Sound.cooldownSkip (sound : t.Sound target) (pid : ℤ) : (t.cooldownSkip pid).Sound target := by
  unfold PollTiming.cooldownSkip
  by_cases known : pid ∈ knownPids
  · simp only [known, ↓reduceIte]
    exact sound.put (sound.stats known).skip
  · simpa only [known, ↓reduceIte] using sound

theorem Sound.takeRowAges (sound : t.Sound target) (moment : Option ℤ) (reading : ℤ) :
    (t.takeRowAges moment reading).1.Sound target := by
  cases moment with
  | none => exact (sound.now reading).scratch _ _
  | some moment => exact sound.scratch _ _

theorem Sound.rowPersisted (sound : t.Sound target) (ages : List (ℤ × ℤ)) :
    (t.rowPersisted ages).Sound target := by
  unfold PollTiming.rowPersisted
  induction ages generalizing t with
  | nil => exact sound
  | cons entry ages ih =>
    apply ih
    unfold PollTiming.rowPersistedOne
    cases found : t.pids.find? entry.1 with
    | none => exact sound
    | some stats =>
      have before := sound.pids stats (Table.find?_mem found).1
      by_cases room : stats.ages.count < stats.outcomes .success
      · simp only [room, ↓reduceIte]
        exact sound.put (before.age room entry.2)
      · simpa only [room, ↓reduceIte] using sound

theorem Sound.nextWindow (sound : t.Sound target) (idle : t.activeCycle.isSome = false) :
    t.nextWindow.Sound target where
  origin := by
    have origin := sound.origin
    have clock := sound.clock
    simp only [PollTiming.nextWindow]
    omega
  clock := ⟨le_rfl, sound.clock.2⟩
  index := min_le_right _ _
  started := Nat.zero_le _
  cycles := by
    refine ⟨[], empty_summarises, fun _ => empty_summarises, le_rfl, le_rfl, ?_⟩
    simp [PollTiming.nextWindow, idle]
  intervals := ⟨[], empty_summarises, le_rfl⟩
  active := sound.active
  pids := by
    intro stats member
    exact absurd member (Table.not_mem_empty stats)
  plan := sound.plan

theorem drain_cases {reason : String} {reading : ℤ} {u : PollTiming} {document : Option Members}
    (drained : t.drain reason reading = some (u, document)) :
    reason ∈ flushReasons ∧ t.activeCycle.isSome = false ∧
      (u = t.now reading ∧ document = none ∨
        u = (t.now reading).nextWindow ∧ document = some ((t.now reading).document reason)) := by
  unfold PollTiming.drain at drained
  by_cases known : reason ∈ ["periodic", "drive_end", "partial_failure"]
  · cases busy : t.activeCycle.isSome with
    | true => simp [known, busy] at drained
    | false =>
      simp only [known, busy, not_true_eq_false, Bool.false_eq_true, ↓reduceIte] at drained
      refine ⟨known, rfl, ?_⟩
      split_ifs at drained <;> simp_all
  · simp [known] at drained

theorem Sound.drain (sound : t.Sound target) {reason : String} {reading : ℤ} {u : PollTiming}
    {document : Option Members} (drained : t.drain reason reading = some (u, document)) :
    u.Sound target := by
  have after := sound.now reading
  obtain ⟨-, idle, ⟨rfl, -⟩ | ⟨rfl, -⟩⟩ := drain_cases drained
  · exact after
  · exact after.nextWindow idle

theorem Sound.stages_accepted (sound : t.Sound target) (reason : String) :
    validateCycleStages (t.document reason)
      { count := t.work.count, maximum := t.work.maximum, total := t.work.total } = .ok () := by
  obtain ⟨ys, work, stages, -⟩ := sound.cycles
  have found : item (t.document reason) "cycle_stages_ms" = .ok (.obj (stagesJson t.stages)) := rfl
  have named : KeysAre (stagesJson t.stages) stageNames := keysAre_of_perm (List.Perm.refl _)
  have each := validateStages_ok
    { count := t.work.count, maximum := t.work.maximum, total := t.work.total }
    PollCycleStage.entries t.stages (by
      intro stage member
      have summary := stages stage
      refine ⟨summary.bounded_numbers, ?_, ?_, ?_⟩
      · simp [summary.count, work.count]
      · rw [summary.maximum, work.maximum]
        exact Int.ofNat_le.mpr (greatest_part_le member)
      · rw [summary.total, work.total]
        exact Int.ofNat_le.mpr (capped_part_le member))
  have totals : (PollCycleStage.entries.map fun stage => (t.stages stage).total) =
      PollCycleStage.entries.map fun stage => capped pollTimingTimeLimit (ys.map (· stage)) :=
    List.map_congr_left fun stage _ => (stages stage).total
  have account : min (PollCycleStage.entries.map fun stage => (t.stages stage).total).sum
      pollTimingTimeLimit = t.work.total := by
    rw [totals, work.total]
    exact capped_parts
  simp only [validateCycleStages, found, ok_bind, refuse_of_not (not_not.mpr named)]
  rw [stagesJson, each, ok_bind, refuse_of_not]
  simp only [pollTimingTimeLimit] at account
  omega

theorem Sound.pids_accepted (sound : t.Sound target) (reason : String) :
    validatePidList (t.document reason) = .ok () := by
  have found : item (t.document reason) "pids" =
      .ok (.arr (t.sortedPids.map PidTiming.json)) := rfl
  have order : t.sortedPids.Perm t.pids.rows := List.perm_insertionSort _ _
  have distinct : (t.sortedPids.map PidTiming.pid).Nodup :=
    (order.map PidTiming.pid).nodup_iff.mpr t.pids.distinct
  have rows : ∀ stats ∈ t.sortedPids, stats.Sound :=
    fun stats member => sound.pids stats (order.mem_iff.mp member)
  have few : (t.sortedPids.map PidTiming.json).length ≤ 18 := by
    have known : t.sortedPids.map PidTiming.pid ⊆ knownPids := by
      intro pid member
      obtain ⟨stats, listed, rfl⟩ := List.mem_map.mp member
      exact (rows stats listed).known
    have bound := (distinct.subperm known).length_le
    simpa [knownPids] using bound
  simp only [validatePidList, found, ok_bind]
  rw [refuse_of_not (by omega), ok_bind]
  exact validatePids_ok t.sortedPids [] rows distinct fun _ _ => List.not_mem_nil

theorem Sound.accepted (sound : t.Sound target) {reason : String} (known : reason ∈ flushReasons) :
    validatePollTiming (t.document reason) target = .ok () := by
  have version : itemOrNull (t.document reason) "schema_version" = .int 2 := rfl
  have fields : KeysAre (t.document reason) (pollTimingFields 2) := by
    have names : memberNames (t.document reason) =
        ["schema_version", "window_index", "window_start_elapsed_ms", "window_duration_ms",
          "flush_reason", "target_cycle_ms", "cycles_started", "cycles_completed", "overrun_count",
          "cycle_work_ms", "cycle_start_interval_ms", "cycle_stages_ms", "pids"] := rfl
    apply keysAre_of_perm
    rw [names]
    decide
  have target : item (t.document reason) "target_cycle_ms" = .ok (.int target) := by
    rw [← sound.plan]
    rfl
  have reasons : item (t.document reason) "flush_reason" = .ok (.str reason) := rfl
  have index : item (t.document reason) "window_index" = .ok (.int t.windowIndex) := rfl
  have starts : item (t.document reason) "cycles_started" = .ok (.int t.cyclesStarted) := rfl
  have completes : item (t.document reason) "cycles_completed" = .ok (.int t.cyclesCompleted) := rfl
  have overruns : item (t.document reason) "overrun_count" = .ok (.int t.overruns) := rfl
  have elapsed : item (t.document reason) "window_start_elapsed_ms" =
      .ok (.int (min (t.windowStart - t.origin) pollTimingTimeLimit)) := rfl
  have duration : item (t.document reason) "window_duration_ms" =
      .ok (.int (min (t.highWater - t.windowStart) pollTimingTimeLimit)) := rfl
  have work : item (t.document reason) "cycle_work_ms" = .ok t.work.json := rfl
  have interval : item (t.document reason) "cycle_start_interval_ms" = .ok t.intervals.json := rfl
  have origin := sound.origin
  have clock := sound.clock
  have bound := sound.index
  have limit := sound.started
  obtain ⟨ys, works, stages, completed, overran, counted⟩ := sound.cycles
  obtain ⟨xs, intervals, observed⟩ := sound.intervals
  have work_count : t.work.count = ys.length := by simpa using works.count
  have works_le : t.work.count ≤ t.cyclesStarted := by omega
  have intervals_le : t.intervals.count ≤ t.cyclesStarted := intervals.count ▸ observed
  have listed : (Json.str reason).IsOneOf flushReasons := known
  simp only [pollTimingCountLimit] at bound limit
  simp only [validatePollTiming, version, target, reasons, index, starts, completes,
    overruns, elapsed, duration, work, interval, ok_bind, pollTimingTimeLimit]
  rw [integer_ok (by omega) (by omega), ok_bind, refuse_of_not (not_not.mpr fields), ok_bind,
    integer_ok le_rfl le_rfl, ok_bind, refuse_of_not (not_not.mpr listed), ok_bind,
    integer_ok (by omega) (by omega), ok_bind, integer_ok (by omega) (by omega), ok_bind,
    integer_ok (by omega) (by omega), ok_bind, integer_ok (by omega) (by omega), ok_bind,
    integer_ok (by omega) (by omega), ok_bind, integer_ok (by omega) (by omega), ok_bind,
    refuse_of_not (by omega), ok_bind, works.bounded_numbers.timing, ok_bind,
    refuse_of_not (not_lt.mpr (Int.ofNat_le.mpr works_le)), ok_bind,
    intervals.bounded_numbers.timing, ok_bind,
    refuse_of_not (not_lt.mpr (Int.ofNat_le.mpr intervals_le)), ok_bind]
  simp only [↓reduceIte, sound.stages_accepted, sound.pids_accepted, ok_bind]

theorem Sound.step (sound : t.Sound target) (call : Call) : (t.step call).1.Sound target := by
  cases call with
  | now reading => exact sound.now reading
  | startCycle reading =>
    cases started : t.startCycle reading with
    | none => simpa [PollTiming.step, started] using sound
    | some u => simpa [PollTiming.step, started] using sound.startCycle started
  | finishCycle reading completed => exact sound.finishCycle reading completed
  | observeStage stage startedAt reading =>
    cases observed : t.observeStage stage startedAt reading with
    | none => simpa [PollTiming.step, observed] using sound
    | some u => simpa [PollTiming.step, observed] using sound.observeStage observed
  | recordRequest pid startedAt reading outcome =>
    exact sound.recordRequest pid startedAt reading outcome
  | cooldownSkip pid => exact sound.cooldownSkip pid
  | takeRowAges moment reading => exact sound.takeRowAges moment reading
  | rowPersisted ages => exact sound.rowPersisted ages
  | drain reason reading =>
    cases drained : t.drain reason reading with
    | none => simpa [PollTiming.step, drained] using sound
    | some result => simpa [PollTiming.step, drained] using sound.drain drained

theorem Sound.document_accepted (sound : t.Sound target) {call : Call} {document : Members}
    (returned : (t.step call).2 = some document) : validatePollTiming document target = .ok () := by
  cases call with
  | drain reason reading =>
    cases drained : t.drain reason reading with
    | none => simp [PollTiming.step, drained] at returned
    | some result =>
      obtain ⟨u, produced⟩ := result
      obtain rfl : produced = some document := by simpa [PollTiming.step, drained] using returned
      obtain ⟨known, -, ⟨-, nothing⟩ | ⟨-, same⟩⟩ := drain_cases drained
      · cases nothing
      · rw [Option.some.inj same]
        exact (sound.now reading).accepted known
  | _ => simp [PollTiming.step] at returned

theorem documents_accepted (sound : t.Sound target) (calls : List Call) :
    ∀ document ∈ t.documents calls, validatePollTiming document target = .ok () := by
  induction calls generalizing t with
  | nil => simp [PollTiming.documents]
  | cons call calls ih =>
    intro document member
    cases List.mem_append.mp member with
    | inl here => exact sound.document_accepted (by simpa using here)
    | inr later => exact ih (sound.step call) document later

/-- Every document of every sequence of calls passes the server's check. -/
theorem poll_timing_accepted (origin : Option ℤ) (target reading : ℤ) (calls : List Call)
    (document : Members) (drained : document ∈ (create origin target reading).documents calls) :
    validatePollTiming document target = .ok () :=
  documents_accepted (create_sound origin target reading) calls document drained

def overrunDrive : List Call :=
  [.startCycle 1000, .recordRequest 0x0C 1000 2800 .success,
    .observeStage .criticalRequests 1000 2800, .takeRowAges none 1700, .rowPersisted [(0x0C, 40)],
    .finishCycle 10000 true, .drain "drive_end" 10000]

theorem poll_timing_accepted_overrun :
    ∃ document ∈ (create none 5000 100).documents overrunDrive,
      item document "overrun_count" = .ok (.int 1) ∧
        validatePollTiming document 5000 = .ok () :=
  ⟨_, List.mem_cons_self, rfl, poll_timing_accepted none 5000 100 overrunDrive _ List.mem_cons_self⟩

end PollTiming

end DashcamStats.Logger
