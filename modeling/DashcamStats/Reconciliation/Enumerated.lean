import Mathlib.Data.Int.ModEq
import DashcamStats.Library.Tally
import DashcamStats.Reconciliation.Covered

namespace DashcamStats.Reconciliation

open Bundle Obd

theorem signalPhase_lt {plan : Json} {spec : SignalSpec}
    (member : spec ∈ (specsForPollPlan plan).2) :
    signalPhase spec (phasesOf (specsForPollPlan plan).1) < spec.every := by
  have all : ∀ entry ∈ (1, SIGNALS_V2, []) :: _POLL_PLAN_SPECS, ∀ spec ∈ entry.2.1,
      signalPhase spec (phasesOf entry.1) < spec.every := by
    decide
  have other := all (1, SIGNALS_V2, []) List.mem_cons_self spec
  revert member
  unfold specsForPollPlan
  split
  · split
    · rename_i value _ specs phases found
      obtain ⟨front, back, whole, -⟩ := List.lookup_eq_some_iff.mp found
      exact all (value, specs, phases) (by simp [whole]) spec
    · exact other
  · exact other

-- `range(expected_cycles)`, where the signal is asked for; an unsupported one never is
def scheduledCycles (supported : Bool) (cycles every phase : ℕ) : List ℕ :=
  if supported then (List.range cycles).filter fun cycle => cycle % every = phase else []

def SignalState.start (spec : SignalSpec) : SignalState := { spec, deadlineScheduled := false }

def recorded (spec : SignalSpec) (rows : List Sample) (cycle : ℕ) : Bool :=
  rows.any fun row => row.sequence = cycle && ((SignalState.start spec).readAt row).isSome

def enumerate (spec : SignalSpec) (supported : Bool) (rows : List Sample) (cycles phase : ℕ) :
    SlotTally :=
  (scheduledCycles supported cycles spec.every phase).foldl
    (fun tally cycle => tally.step (recorded spec rows cycle)) {}

structure SignalResult.Enumerates (result : SignalResult) (tally : SlotTally) : Prop where
  received : result.received = tally.received
  missing : result.missing = tally.missing
  runs : result.missingRunCount = some tally.runs
  longest : result.longestMissingRun = some tally.longest
  whole : result.received + result.missing = result.expected
  -- The floats of more readings than this are not exact.
  share : ∀ q ∈ result.coveragePercentage, result.received ≤ 2 ^ 40 → q ≤ 100

def maximumSequence (rows : List Sample) : Option ℕ := (rows.map Sample.sequence).max?

-- `_expected_cycles` of the samples
def cyclesOf (rows : List Sample) (startedAt finishedAt : Time) (cycleS : ℚ) : ℕ :=
  (expectedCycles rnd startedAt finishedAt rows.length (maximumSequence rows) cycleS).1

section

variable {every phase : ℕ}

theorem phaseOpportunities_succ (early : phase < every) (cycles : ℕ) :
    phaseOpportunities (cycles + 1) every phase =
      phaseOpportunities cycles every phase + if cycles % every = phase then 1 else 0 := by
  unfold phaseOpportunities
  obtain below | rfl | above := Nat.lt_trichotomy cycles phase
  · have off : cycles % every ≠ phase := by
      rw [Nat.mod_eq_of_lt (below.trans early)]
      exact below.ne
    rw [if_pos (by omega), if_pos (by omega), if_neg off]
  · simp [Nat.mod_eq_of_lt early]
  · obtain ⟨d, rfl⟩ := Nat.exists_eq_add_of_lt above
    have onPhase : (phase + d + 1) % every = phase ↔ every ∣ d + 1 := by
      have shifted := Nat.modEq_iff_dvd' (n := every) (show phase ≤ phase + d + 1 by omega)
      rw [Nat.ModEq, Nat.mod_eq_of_lt early, show phase + d + 1 - phase = d + 1 by omega] at shifted
      rw [eq_comm, shifted]
    rw [if_neg (by omega), if_neg (by omega), show phase + d + 1 + 1 - 1 - phase = d + 1 by omega,
      show phase + d + 1 - 1 - phase = d by omega, Nat.succ_div]
    simp only [onPhase]
    omega

theorem sequence_eq (early : phase < every) {sequence : ℕ} (on : sequence % every = phase) :
    phase + every * ((sequence - phase) / every) = sequence := by
  have split := Nat.div_add_mod sequence every
  rw [on] at split
  rw [show sequence - phase = every * (sequence / every) by omega,
    Nat.mul_div_cancel_left _ (by omega)]
  omega

theorem slot_eq (early : phase < every) (j : ℕ) :
    (phase + every * j) % every = phase ∧ (phase + every * j - phase) / every = j := by
  rw [Nat.add_mul_mod_self_left, Nat.mod_eq_of_lt early, Nat.add_sub_cancel_left,
    Nat.mul_div_cancel_left _ (by omega)]
  exact ⟨rfl, rfl⟩

theorem phaseOpportunities_self (early : phase < every) {sequence : ℕ}
    (on : sequence % every = phase) :
    phaseOpportunities sequence every phase = (sequence - phase) / every := by
  have positive : 0 < every := by omega
  obtain ⟨j, rfl⟩ : ∃ j, sequence = phase + every * j := ⟨_, (sequence_eq early on).symm⟩
  rw [Nat.add_sub_cancel_left, Nat.mul_div_cancel_left _ positive]
  cases j with
  | zero => simp [phaseOpportunities]
  | succ earlier =>
    have block : every * (earlier + 1) = every * earlier + every := Nat.mul_succ _ _
    have last : phase + every * (earlier + 1) - 1 - phase = (every - 1) + every * earlier := by
      omega
    unfold phaseOpportunities
    rw [if_neg (by omega), last, Nat.add_mul_div_left _ _ positive, Nat.div_eq_of_lt (by omega)]
    omega

theorem scheduledCycles_eq (early : phase < every) (cycles : ℕ) :
    scheduledCycles true cycles every phase =
      (List.range (phaseOpportunities cycles every phase)).map (phase + every * ·) := by
  simp only [scheduledCycles, if_true]
  induction cycles with
  | zero => simp [phaseOpportunities]
  | succ cycles ih =>
    rw [List.range_succ, List.filter_append, ih, phaseOpportunities_succ early]
    by_cases on : cycles % every = phase
    · have here : phase + every * phaseOpportunities cycles every phase = cycles := by
        rw [phaseOpportunities_self early on, sequence_eq early on]
      simp [on, List.range_succ, here]
    · simp [on]

end

structure SignalState.Tallied (state : SignalState) (tally : SlotTally) : Prop where
  received : state.receivedCount = tally.received
  runs : state.missingRunCount = tally.runs
  longest : state.longestMissingRun = tally.longest
  current : state.currentMissingRun = tally.current

theorem SignalState.Tallied.addMissing {state : SignalState} {tally : SlotTally}
    (tallied : state.Tallied tally) {n : ℕ} (short : tally.current + n ≤ MAX_EXPECTED_CYCLES) :
    (state.addMissing n).Tallied (tally.skip n) := by
  obtain ⟨received, runs, longest, current⟩ := tallied
  unfold SignalState.addMissing SlotTally.skip
  split
  · exact ⟨received, runs, longest, current⟩
  · have capped : min MAX_EXPECTED_CYCLES (state.currentMissingRun + n) = tally.current + n := by
      rw [current, Nat.min_eq_right short]
    exact ⟨received, by simp only [runs, current], by simp only [longest, capped], capped⟩

theorem SignalState.Tallied.ask {state : SignalState} {tally : SlotTally}
    (tallied : state.Tallied tally) (short : tally.current < MAX_EXPECTED_CYCLES) (usable : Bool) :
    (if usable then { state with
        receivedCount := state.receivedCount + 1
        currentMissingRun := 0 }
      else state.addMissing 1 : SignalState).Tallied (tally.step usable) := by
  cases usable with
  | false =>
    rw [if_neg (by simp)]
    exact tallied.addMissing (Nat.succ_le_of_lt short)
  | true => exact ⟨by simp [tallied.received, SlotTally.step], tallied.runs, tallied.longest, rfl⟩

section

variable (rounding : ℚ → ℚ) {spec : SignalSpec} {phase : ℕ}

structure SignalState.Follows (state : SignalState) (spec : SignalSpec) (phase : ℕ)
    (rows : List Sample) : Prop where
  same : state.spec = spec
  regular : state.deadlineScheduled = false
  tallied : state.Tallied
    (SlotTally.walk state.nextOpportunity fun j => recorded spec rows (phase + spec.every * j))
  capped : state.nextOpportunity ≤ MAX_EXPECTED_CYCLES
  behind : ∀ row ∈ rows, row.sequence % spec.every = phase →
    (row.sequence - phase) / spec.every < MAX_EXPECTED_CYCLES →
      (row.sequence - phase) / spec.every < state.nextOpportunity
  reached : state.nextOpportunity = 0 ∨ ∃ row ∈ rows, row.sequence % spec.every = phase ∧
    (row.sequence - phase) / spec.every + 1 = state.nextOpportunity

theorem follows_start : (SignalState.start spec).Follows spec phase [] where
  same := rfl
  regular := rfl
  tallied := ⟨rfl, rfl, rfl, rfl⟩
  capped := Nat.zero_le _
  behind := by simp
  reached := .inl rfl

theorem add_cases (early : phase < spec.every) {state : SignalState} (same : state.spec = spec)
    (regular : state.deadlineScheduled = false) (row : Sample) :
    let opportunity := (row.sequence - phase) / spec.every
    (¬(row.sequence % spec.every = phase ∧ opportunity < MAX_EXPECTED_CYCLES) ∧
      ∃ cadence, state.add rounding row phase = { state with cadence }) ∨
    (row.sequence % spec.every = phase ∧ opportunity < MAX_EXPECTED_CYCLES ∧
      ∃ cadence,
        let missed := { state with cadence }.addMissing (opportunity - state.nextOpportunity)
        state.add rounding row phase = { (if (state.readAt row).isSome then { missed with
              receivedCount := missed.receivedCount + 1
              currentMissingRun := 0 }
            else missed.addMissing 1 : SignalState) with nextOpportunity := opportunity + 1 }) := by
  subst same
  have late (on : row.sequence % state.spec.every = phase) : ¬row.sequence < phase :=
    Nat.not_lt.mpr (on ▸ Nat.mod_le _ _)
  have cycled : ¬state.deadlineScheduled = true := by simp [regular]
  unfold SignalState.add
  cases read : state.readAt row with
  | none =>
    dsimp only
    rw [if_neg cycled]
    by_cases on : row.sequence % state.spec.every = phase
    · rw [if_neg (by simp [on, late on])]
      by_cases low : (row.sequence - phase) / state.spec.every < MAX_EXPECTED_CYCLES
      · rw [if_neg (Nat.not_le.mpr low)]
        exact .inr ⟨on, low, state.cadence, rfl⟩
      · rw [if_pos (Nat.le_of_not_lt low)]
        exact .inl ⟨fun both => low both.2, state.cadence, rfl⟩
    · rw [if_pos (.inr on)]
      exact .inl ⟨fun both => on both.1, state.cadence, rfl⟩
  | some at_ =>
    dsimp only
    rw [if_neg cycled]
    by_cases on : row.sequence % state.spec.every = phase
    · rw [if_neg (by simp [on, late on])]
      by_cases low : (row.sequence - phase) / state.spec.every < MAX_EXPECTED_CYCLES
      · rw [if_neg (Nat.not_le.mpr low)]
        exact .inr ⟨on, low, _, rfl⟩
      · rw [if_pos (Nat.le_of_not_lt low)]
        exact .inl ⟨fun both => low both.2, _, rfl⟩
    · rw [if_pos (.inr on)]
      exact .inl ⟨fun both => on both.1, _, rfl⟩

theorem readAt_start {state : SignalState} (same : state.spec = spec)
    (regular : state.deadlineScheduled = false) (row : Sample) :
    state.readAt row = (SignalState.start spec).readAt row := by
  simp only [SignalState.readAt, SignalState.start, same, regular]
  rfl

theorem recorded_append (rows : List Sample) (row : Sample) (cycle : ℕ) :
    recorded spec (rows ++ [row]) cycle = (recorded spec rows cycle ||
      (row.sequence = cycle && ((SignalState.start spec).readAt row).isSome)) := by
  simp [recorded]

theorem SignalState.Follows.absent (early : phase < spec.every) {state : SignalState}
    {rows : List Sample} (follows : state.Follows spec phase rows) {j : ℕ}
    (late : state.nextOpportunity ≤ j) (below : j < MAX_EXPECTED_CYCLES) :
    recorded spec rows (phase + spec.every * j) = false := by
  obtain ⟨on, opportunity⟩ := slot_eq early j
  refine List.any_eq_false.mpr fun other among found => ?_
  simp only [Bool.and_eq_true, decide_eq_true_eq] at found
  have known := follows.behind other among (found.1 ▸ on)
  rw [found.1, opportunity] at known
  exact absurd (known below) (Nat.not_lt.mpr late)

theorem SignalState.Follows.add (early : phase < spec.every) {state : SignalState}
    {rows : List Sample} (follows : state.Follows spec phase rows) {row : Sample}
    (later : ∀ other ∈ rows, other.sequence < row.sequence) :
    (state.add rounding row phase).Follows spec phase (rows ++ [row]) := by
  have slot := slot_eq early
  obtain ⟨same, regular, tallied, capped, behind, reached⟩ := id follows
  obtain ⟨passed, cadence, eq⟩ | ⟨on, low, cadence, eq⟩ :=
    add_cases rounding early same regular row
  · rw [eq]
    refine ⟨same, regular, ?_, capped, ?_, ?_⟩
    · have walk : SlotTally.walk state.nextOpportunity (fun j =>
          recorded spec (rows ++ [row]) (phase + spec.every * j)) =
          SlotTally.walk state.nextOpportunity fun j =>
            recorded spec rows (phase + spec.every * j) := by
        refine SlotTally.walk_congr fun j before => ?_
        have other : row.sequence ≠ phase + spec.every * j := fun here => passed (by
          rw [here, (slot j).1, (slot j).2]
          exact ⟨rfl, before.trans_le capped⟩)
        simp [recorded_append, other]
      exact walk ▸ ⟨tallied.received, tallied.runs, tallied.longest, tallied.current⟩
    · intro other member on low
      obtain among | rfl := by simpa using member
      · exact behind other among on low
      · exact absurd ⟨on, low⟩ passed
    · exact reached.imp_right fun ⟨other, among, rest⟩ =>
        ⟨other, List.mem_append_left _ among, rest⟩
  · have here : phase + spec.every * ((row.sequence - phase) / spec.every) = row.sequence :=
      sequence_eq early on
    have strict (other : Sample) (among : other ∈ rows)
        (otherOn : other.sequence % spec.every = phase) :
        (other.sequence - phase) / spec.every < (row.sequence - phase) / spec.every := by
      have order := later other among
      rw [← sequence_eq early otherOn, ← here] at order
      exact Nat.lt_of_mul_lt_mul_left (Nat.lt_of_add_lt_add_left order)
    rw [eq, readAt_start same regular]
    generalize opportunityEq : (row.sequence - phase) / spec.every = opportunity at *
    have ahead : state.nextOpportunity ≤ opportunity := by
      obtain zero | ⟨other, among, otherOn, next⟩ := reached
      · omega
      · have order := strict other among otherOn
        omega
    let hits (j : ℕ) : Bool := recorded spec (rows ++ [row]) (phase + spec.every * j)
    have earlier (j : ℕ) (before : j < opportunity) :
        hits j = recorded spec rows (phase + spec.every * j) := by
      have other : row.sequence ≠ phase + spec.every * j := fun here => by
        rw [here, (slot j).2] at opportunityEq
        omega
      simp [hits, recorded_append, other]
    have block : SlotTally.walk opportunity hits = (SlotTally.walk state.nextOpportunity fun j =>
        recorded spec rows (phase + spec.every * j)).skip
          (opportunity - state.nextOpportunity) := by
      rw [SlotTally.walk_congr earlier]
      obtain ⟨k, rfl⟩ := Nat.exists_eq_add_of_le ahead
      rw [Nat.add_sub_cancel_left]
      exact SlotTally.walk_add fun j late before => follows.absent early late (before.trans low)
    have usable : hits opportunity = ((SignalState.start spec).readAt row).isSome := by
      have missing := follows.absent early ahead low
      rw [here] at missing
      simp [hits, recorded_append, here, missing]
    have began : { state with cadence }.Tallied (SlotTally.walk state.nextOpportunity fun j =>
        recorded spec rows (phase + spec.every * j)) :=
      ⟨tallied.received, tallied.runs, tallied.longest, tallied.current⟩
    have run := SlotTally.walk_current_le state.nextOpportunity
      fun j => recorded spec rows (phase + spec.every * j)
    have skipped := began.addMissing (n := opportunity - state.nextOpportunity) (by omega)
    have asked := skipped.ask (by rw [SlotTally.skip_current]; omega) (hits opportunity)
    rw [← block, ← SlotTally.walk_succ, usable] at asked
    refine ⟨?_, ?_, ⟨asked.received, asked.runs, asked.longest, asked.current⟩, low, ?_, ?_⟩
    · split <;> simp [same]
    · split <;> simp [regular]
    · intro other member otherOn otherLow
      obtain among | rfl := by simpa using member
      · exact (strict other among otherOn).trans (Nat.lt_succ_self _)
      · exact opportunityEq ▸ Nat.lt_succ_self _
    · exact .inr ⟨row, by simp, on, by rw [opportunityEq]⟩

theorem follows_addAll (early : phase < spec.every) {rows : List Sample}
    (increasing : (rows.map Sample.sequence).Pairwise (· < ·)) :
    ((SignalState.start spec).addAll rounding phase rows).Follows spec phase rows := by
  induction rows using List.reverseRecOn with
  | nil => exact follows_start
  | append_singleton rows row ih =>
    rw [List.map_append, List.pairwise_append] at increasing
    have step := (ih increasing.1).add rounding early fun other among =>
      increasing.2.2 other.sequence (List.mem_map_of_mem among) row.sequence (by simp)
    simpa [SignalState.addAll] using step

end

section

variable {spec : SignalSpec} {phase : ℕ}

theorem enumerate_eq (early : phase < spec.every) (rows : List Sample) (cycles : ℕ) :
    enumerate spec true rows cycles phase =
      SlotTally.walk (phaseOpportunities cycles spec.every phase) fun j =>
        recorded spec rows (phase + spec.every * j) := by
  rw [enumerate, scheduledCycles_eq early, List.foldl_map]
  rfl

theorem phaseOpportunities_le (every cycles : ℕ) :
    phaseOpportunities cycles every phase ≤ cycles := by
  unfold phaseOpportunities
  split
  · exact Nat.zero_le _
  · have quotient := Nat.div_le_self (cycles - 1 - phase) every
    omega

theorem cyclesOf_le (rows : List Sample) (startedAt finishedAt : Time) (cycleS : ℚ) :
    cyclesOf rows startedAt finishedAt cycleS ≤ MAX_EXPECTED_CYCLES := Nat.min_le_right _ _

theorem sequence_lt_cyclesOf {rows : List Sample} (startedAt finishedAt : Time) (cycleS : ℚ)
    {row : Sample} (member : row ∈ rows) (small : row.sequence < MAX_EXPECTED_CYCLES) :
    row.sequence < cyclesOf rows startedAt finishedAt cycleS := by
  refine Nat.lt_of_lt_of_le ?_ cycles_le_expectedCycles
  have among := List.mem_map_of_mem (f := Sample.sequence) member
  cases last : maximumSequence rows with
  | none =>
    rw [maximumSequence, List.max?_eq_none_iff] at last
    simp [last] at among
  | some most =>
    have below : row.sequence ≤ most := (List.max?_eq_some_iff.mp last).2 _ among
    exact Nat.lt_min.mpr ⟨Nat.lt_succ_of_le below, small⟩

theorem finish_tallied (early : phase < spec.every) {state : SignalState} {rows : List Sample}
    (follows : state.Follows spec phase rows) {cycles : ℕ} (capped : cycles ≤ MAX_EXPECTED_CYCLES) :
    let tally := SlotTally.walk (max (phaseOpportunities cycles spec.every phase) state.nextOpportunity)
      fun j => recorded spec rows (phase + spec.every * j)
    let result := state.finish rnd true cycles phase
    result.received = tally.received ∧
      result.expected = phaseOpportunities cycles spec.every phase ∧
      result.missingRunCount = some tally.runs ∧ result.longestMissingRun = some tally.longest := by
  have within : phaseOpportunities cycles spec.every phase ≤ MAX_EXPECTED_CYCLES :=
    (phaseOpportunities_le _ _).trans capped
  have cycled : state.deadlineScheduled = false := follows.regular
  have asked : phaseOpportunities cycles state.spec.every phase =
      phaseOpportunities cycles spec.every phase := by rw [follows.same]
  simp only [SignalState.finish, cycled, asked, if_true, Bool.true_and, Bool.not_false,
    Bool.false_and, Bool.false_eq_true, if_false, addMissing_deadlineScheduled]
  generalize phaseOpportunities cycles spec.every phase = expected at *
  have tail : SlotTally.walk (max expected state.nextOpportunity)
      (fun j => recorded spec rows (phase + spec.every * j)) =
      (SlotTally.walk state.nextOpportunity fun j => recorded spec rows (phase + spec.every * j)).skip
        (expected - state.nextOpportunity) := by
    obtain before | after := Nat.le_total state.nextOpportunity expected
    · obtain ⟨k, rfl⟩ := Nat.exists_eq_add_of_le before
      rw [Nat.max_eq_left before, Nat.add_sub_cancel_left]
      exact SlotTally.walk_add fun j late early' => follows.absent early late (early'.trans_le within)
    · rw [Nat.max_eq_right after, Nat.sub_eq_zero_of_le after, SlotTally.skip_zero]
  have run := SlotTally.walk_current_le state.nextOpportunity
    fun j => recorded spec rows (phase + spec.every * j)
  have all := follows.tallied.addMissing (n := expected - state.nextOpportunity) (by
    have next := follows.capped
    omega)
  rw [tail]
  exact ⟨all.received, trivial, congrArg some all.runs, congrArg some all.longest⟩

@[simp] theorem addMissing_cadence (state : SignalState) (n : ℕ) :
    (state.addMissing n).cadence = state.cadence := by
  unfold SignalState.addMissing
  split <;> rfl

theorem observe_count (rounding : ℚ → ℚ) (cadence : Cadence) (at_ : Time) (expectedS : ℚ) :
    (cadence.observe rounding at_ expectedS).count = cadence.count + 1 := by
  have value (c : Cadence) (interval : ℚ) : (c.addValue interval).count = c.count := by
    unfold Cadence.addValue
    dsimp only
    split <;> split <;> rfl
  have gap (c : Cadence) (before now : Time) (interval : ℚ) :
      (c.addGap rounding before now interval expectedS).count = c.count := by
    unfold Cadence.addGap
    split <;> rfl
  unfold Cadence.observe
  dsimp only
  split
  · rfl
  · split
    · rfl
    · rw [gap, value]

theorem add_count (rounding : ℚ → ℚ) (state : SignalState) (row : Sample) (phase : ℕ) :
    (state.add rounding row phase).cadence.count =
      state.cadence.count + (state.readAt row).toList.length := by
  unfold SignalState.add
  cases state.readAt row with
  | none =>
    dsimp only
    split
    · rfl
    · split
      · rfl
      · split
        · rfl
        · simp
  | some at_ =>
    have seen := observe_count rounding state.cadence at_ state.spec.cadenceS
    dsimp only
    split
    · simp [seen]
    · split
      · simp [seen]
      · split <;> simp [seen]

theorem addAll_count_le (rounding : ℚ → ℚ) (phase : ℕ) (state : SignalState)
    (rows : List Sample) :
    state.cadence.count ≤ (state.addAll rounding phase rows).cadence.count := by
  induction rows generalizing state with
  | nil => exact le_rfl
  | cons row rest ih =>
    have first := add_count rounding state row phase
    exact (by omega : _ ≤ _).trans (ih (state.add rounding row phase))

theorem finish_received_unsupported (state : SignalState) (cycles phase : ℕ) :
    (state.finish rnd false cycles phase).received = state.cadence.count := by
  simp [SignalState.finish]

def coverage (spec : SignalSpec) (supported : Bool) (phase : ℕ) (startedAt finishedAt : Time)
    (cycleS : ℚ) (rows : List Sample) : SignalResult :=
  ((SignalState.start spec).addAll rnd phase rows).finish rnd supported
    (cyclesOf rows startedAt finishedAt cycleS) phase

def WithinCaps (every phase : ℕ) (sequences : List ℕ) : Prop :=
  ∀ sequence ∈ sequences, sequence % every = phase →
    (sequence - phase) / every < MAX_EXPECTED_CYCLES → sequence < MAX_EXPECTED_CYCLES

variable (startedAt finishedAt : Time) (cycleS : ℚ)

theorem coverage_enumerates (early : phase < spec.every) {rows : List Sample}
    (increasing : (rows.map Sample.sequence).Pairwise (· < ·))
    (within : WithinCaps spec.every phase (rows.map Sample.sequence)) :
    (coverage spec true phase startedAt finishedAt cycleS rows).Enumerates
      (enumerate spec true rows (cyclesOf rows startedAt finishedAt cycleS) phase) := by
  have follows := follows_addAll rnd early increasing
  have behind : ((SignalState.start spec).addAll rnd phase rows).nextOpportunity ≤
      phaseOpportunities (cyclesOf rows startedAt finishedAt cycleS) spec.every phase := by
    obtain zero | ⟨row, member, on, next⟩ := follows.reached
    · omega
    · have low : (row.sequence - phase) / spec.every < MAX_EXPECTED_CYCLES := by
        have capped := follows.capped
        omega
      have small := within row.sequence (List.mem_map_of_mem member) on low
      have known : (row.sequence - phase) / spec.every < phaseOpportunities _ spec.every phase :=
        opportunity_lt (sequence_lt_cyclesOf startedAt finishedAt cycleS member small)
          (on ▸ Nat.mod_le _ _)
      omega
  obtain ⟨received, expected, runs, longest⟩ := finish_tallied early follows
    (cyclesOf_le rows startedAt finishedAt cycleS)
  rw [Nat.max_eq_left behind, ← enumerate_eq early] at received runs longest
  have sum := SlotTally.walk_sum (phaseOpportunities (cyclesOf rows startedAt finishedAt cycleS)
    spec.every phase) fun j => recorded spec rows (phase + spec.every * j)
  rw [← enumerate_eq early] at sum
  have missing : (coverage spec true phase startedAt finishedAt cycleS rows).missing =
      (coverage spec true phase startedAt finishedAt cycleS rows).expected -
        (coverage spec true phase startedAt finishedAt cycleS rows).received := rfl
  unfold coverage at missing ⊢
  refine ⟨received, by omega, runs, longest, by omega, fun q share small => ?_⟩
  rw [(finish_coverage _ _ _ _).2] at share
  split at share
  · cases share
  · obtain rfl := Option.some.inj share
    exact (percentage_mem_Icc (by omega) small).2

def readEverywhere (sequences : List ℕ) : List Sample := sequences.map fun sequence =>
  { drive := "", sequence, capturedAt := 0, ecuDataStatus := none, value := fun _ => .int 0
    quality := .null }

theorem readEverywhere_sequence (sequences : List ℕ) :
    (readEverywhere sequences).map Sample.sequence = sequences := by
  simp [readEverywhere, Function.comp_def]

theorem readEverywhere_readAt {sequences : List ℕ} {row : Sample}
    (member : row ∈ readEverywhere sequences) :
    ((SignalState.start spec).readAt row).isSome = true := by
  obtain ⟨sequence, -, rfl⟩ := List.mem_map.mp member
  unfold SignalState.readAt SignalState.start
  dsimp only
  rw [if_pos (by simp [Sample.has, Json.IsNull])]
  split
  · split <;> rfl
  · rfl

theorem not_enumerates (early : phase < spec.every) {rows : List Sample}
    (increasing : (rows.map Sample.sequence).Pairwise (· < ·)) {row : Sample} (member : row ∈ rows)
    (usable : ((SignalState.start spec).readAt row).isSome = true)
    (on : row.sequence % spec.every = phase)
    (low : (row.sequence - phase) / spec.every < MAX_EXPECTED_CYCLES)
    (large : MAX_EXPECTED_CYCLES ≤ row.sequence) :
    ¬(coverage spec true phase startedAt finishedAt cycleS rows).Enumerates
      (enumerate spec true rows (cyclesOf rows startedAt finishedAt cycleS) phase) := by
  intro enumerates
  have follows := follows_addAll rnd early increasing
  have capped := cyclesOf_le rows startedAt finishedAt cycleS
  have received := (finish_tallied early follows capped).1
  have outside : phaseOpportunities (cyclesOf rows startedAt finishedAt cycleS) spec.every phase ≤
      (row.sequence - phase) / spec.every := by
    rw [← phaseOpportunities_self early on]
    exact phaseOpportunities_mono (capped.trans large) _ _
  have more := SlotTally.walk_received_lt (fun j => recorded spec rows (phase + spec.every * j)) outside
    ((follows.behind row member on low).trans_le (Nat.le_max_right (phaseOpportunities
      (cyclesOf rows startedAt finishedAt cycleS) spec.every phase) _))
    (show recorded spec rows (phase + spec.every * ((row.sequence - phase) / spec.every)) = true by
      rw [sequence_eq early on]
      exact List.any_eq_true.mpr ⟨row, member, by simp [usable]⟩)
  have equal := enumerates.received
  rw [enumerate_eq early] at equal
  exact absurd (received.symm.trans equal) more.ne'

/-- Whatever was read at these sequences, the counts are those of the walk: exactly when no
sequence is between the caps, and for an unsupported signal when there is none. -/
theorem coverage_enumerates_iff (early : phase < spec.every) (supported : Bool)
    {sequences : List ℕ} (increasing : sequences.Pairwise (· < ·)) :
    (∀ rows : List Sample, rows.map Sample.sequence = sequences →
      (coverage spec supported phase startedAt finishedAt cycleS rows).Enumerates
        (enumerate spec supported rows (cyclesOf rows startedAt finishedAt cycleS) phase)) ↔
      if supported then WithinCaps spec.every phase sequences else sequences = [] := by
  cases supported with
  | true =>
    simp only [if_true]
    constructor
    · intro all sequence among on low
      by_contra large
      obtain ⟨row, member, rfl⟩ := List.mem_map.mp
        ((readEverywhere_sequence sequences).symm ▸ among)
      exact not_enumerates startedAt finishedAt cycleS early
        (by rwa [readEverywhere_sequence]) member (readEverywhere_readAt member) on low
        (Nat.le_of_not_lt large) (all _ (readEverywhere_sequence sequences))
    · rintro within rows rfl
      exact coverage_enumerates startedAt finishedAt cycleS early increasing within
  | false =>
    simp only [Bool.false_eq_true, if_false]
    constructor
    · intro all
      cases sequences with
      | nil => rfl
      | cons first rest =>
        have equal := (all _ (readEverywhere_sequence (first :: rest))).received
        obtain ⟨row, later, split⟩ : ∃ row later, readEverywhere (first :: rest) = row :: later :=
          ⟨_, _, rfl⟩
        have usable : ((SignalState.start spec).readAt row).isSome = true :=
          readEverywhere_readAt (split ▸ List.mem_cons_self)
        have once := add_count rnd (SignalState.start spec) row phase
        have more := addAll_count_le rnd phase ((SignalState.start spec).add rnd row phase) later
        obtain ⟨at_, read⟩ := Option.isSome_iff_exists.mp usable
        rw [split, coverage, finish_received_unsupported] at equal
        have none : (SignalState.addAll rnd phase (SignalState.start spec)
            (row :: later)).cadence.count = 0 := equal
        have whole :
            SignalState.addAll rnd phase ((SignalState.start spec).add rnd row phase) later =
              SignalState.addAll rnd phase (SignalState.start spec) (row :: later) := rfl
        rw [whole, none, once, read] at more
        simp at more
    · rintro rfl rows none
      obtain rfl := List.map_eq_nil_iff.mp none
      exact ⟨rfl, rfl, rfl, rfl, rfl, by simp [coverage, SignalState.finish]⟩

end

-- `mass_air_flow`, asked for at every third cycle
def massAirFlow : SignalSpec :=
  { name := "mass_air_flow", column := "mass_air_flow_g_s", label := "Mass air flow"
    pid := some 0x10, tier := "medium", every := 3 }

/-- One reading of the air flow at the largest sequence of the database: received, and at none of
its cycles. -/
theorem ceiling_not_enumerates :
    ¬(coverage massAirFlow true 1 0 0 5 (readEverywhere [2 ^ 63 - 1])).Enumerates
      (enumerate massAirFlow true (readEverywhere [2 ^ 63 - 1])
        (cyclesOf (readEverywhere [2 ^ 63 - 1]) 0 0 5) 1) :=
  not_enumerates 0 0 5 (by decide) (by simp [readEverywhere]) List.mem_cons_self
    (@readEverywhere_readAt massAirFlow [2 ^ 63 - 1] _ List.mem_cons_self) (by decide) (by decide)
    (by decide)

/-- The counts of the air flow of an ordinary drive, every fifth cycle of which was lost -/
theorem coverage_enumerates_iff_airFlow :
    (∀ rows : List Sample, rows.map Sample.sequence = [0, 1, 2, 3, 5, 6, 7, 8] →
      (coverage massAirFlow true 1 0 0 5 rows).Enumerates
        (enumerate massAirFlow true rows (cyclesOf rows 0 0 5) 1)) ↔
      WithinCaps 3 1 [0, 1, 2, 3, 5, 6, 7, 8] :=
  coverage_enumerates_iff 0 0 5 (by decide) true (by decide)

end DashcamStats.Reconciliation
