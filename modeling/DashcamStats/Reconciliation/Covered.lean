import Mathlib.Algebra.Group.Action.Defs
import DashcamStats.Reconciliation.Projection

namespace DashcamStats.Reconciliation

open Bundle Obd

structure Stored.Valid (stored : Stored) : Prop where
  distinct : (stored.samples.map Sample.sequence).Nodup
  -- The largest `obd_max_samples`
  bounded : stored.samples.length ≤ 100000

section

variable (rounding : ℚ → ℚ) (state : SignalState) (row : Sample) (phase : ℕ)

@[simp] theorem addMissing_spec (n : ℕ) : (state.addMissing n).spec = state.spec := by
  unfold SignalState.addMissing
  split <;> rfl

@[simp] theorem addMissing_deadlineScheduled (n : ℕ) :
    (state.addMissing n).deadlineScheduled = state.deadlineScheduled := by
  unfold SignalState.addMissing
  split <;> rfl

@[simp] theorem addMissing_receivedCount (n : ℕ) :
    (state.addMissing n).receivedCount = state.receivedCount := by
  unfold SignalState.addMissing
  split <;> rfl

def SignalState.scheduled : Bool :=
  decide (phase ≤ row.sequence ∧ row.sequence % state.spec.every = phase) &&
    (state.readAt row).isSome

theorem add_kept : (state.add rounding row phase).spec = state.spec ∧
    (state.add rounding row phase).deadlineScheduled = state.deadlineScheduled := by
  unfold SignalState.add
  simp only
  split
  all_goals
    split
    · split <;> exact ⟨rfl, rfl⟩
    · split
      · exact ⟨rfl, rfl⟩
      · split
        · exact ⟨rfl, rfl⟩
        · split
          all_goals simp

theorem add_receivedCount_le :
    (state.add rounding row phase).receivedCount ≤ state.receivedCount + 1 := by
  unfold SignalState.add
  simp only
  split
  all_goals
    split
    · split <;> simp
    · split
      · simp
      · split
        · simp
        · split
          all_goals simp

theorem add_receivedCount_of_not (regular : state.deadlineScheduled = false)
    (not : state.scheduled row phase = false) :
    (state.add rounding row phase).receivedCount = state.receivedCount := by
  unfold SignalState.add
  simp only
  unfold SignalState.scheduled at not
  cases read : state.readAt row with
  | none =>
    simp only [regular, Bool.false_eq_true, if_false, Option.isSome_none]
    split
    · rfl
    · split
      · rfl
      · simp
  | some at_ =>
    simp only [regular, Bool.false_eq_true, if_false]
    have off : row.sequence < phase ∨ row.sequence % state.spec.every ≠ phase := by
      by_contra on
      rw [not_or, not_lt, not_not] at on
      simp [read, on.1, on.2] at not
    simp only [off, if_true]

end

def SignalState.addAll (rounding : ℚ → ℚ) (phase : ℕ) (state : SignalState) (rows : List Sample) :
    SignalState := rows.foldl (fun state row => state.add rounding row phase) state

section

variable (rounding : ℚ → ℚ) (phase : ℕ)

theorem addAll_kept (state : SignalState) (rows : List Sample) :
    (state.addAll rounding phase rows).spec = state.spec ∧
      (state.addAll rounding phase rows).deadlineScheduled = state.deadlineScheduled := by
  unfold SignalState.addAll
  induction rows generalizing state with
  | nil => exact ⟨rfl, rfl⟩
  | cons row rest ih =>
    obtain ⟨spec, deadline⟩ := add_kept rounding state row phase
    obtain ⟨laterSpec, laterDeadline⟩ := ih (state.add rounding row phase)
    exact ⟨laterSpec.trans spec, laterDeadline.trans deadline⟩

theorem addAll_receivedCount_le (state : SignalState) (rows : List Sample) :
    (state.addAll rounding phase rows).receivedCount ≤ state.receivedCount + rows.length := by
  unfold SignalState.addAll
  induction rows generalizing state with
  | nil => simp
  | cons row rest ih =>
    have first := add_receivedCount_le rounding state row phase
    have later := ih (state.add rounding row phase)
    simp only [List.foldl_cons, List.length_cons]
    omega

theorem addAll_receivedCount_le_scheduled (state : SignalState) (rows : List Sample)
    (regular : state.deadlineScheduled = false) :
    (state.addAll rounding phase rows).receivedCount ≤
      state.receivedCount + (rows.filter (state.scheduled · phase)).length := by
  unfold SignalState.addAll
  induction rows generalizing state with
  | nil => simp
  | cons row rest ih =>
    obtain ⟨spec, deadline⟩ := add_kept rounding state row phase
    have later := ih (state.add rounding row phase) (deadline.trans regular)
    have same : (fun other => (state.add rounding row phase).scheduled other phase) =
        fun other => state.scheduled other phase := by
      funext other
      simp only [SignalState.scheduled, SignalState.readAt, spec, deadline]
    rw [same] at later
    simp only [List.foldl_cons, List.filter_cons]
    split
    · have first := add_receivedCount_le rounding state row phase
      simp only [List.length_cons]
      omega
    · rename_i not
      have first := add_receivedCount_of_not rounding state row phase regular
        (by simpa using not)
      omega

end

theorem phaseOpportunities_mono {fewer more : ℕ} (h : fewer ≤ more) (every phase : ℕ) :
    phaseOpportunities fewer every phase ≤ phaseOpportunities more every phase := by
  unfold phaseOpportunities
  split
  · exact Nat.zero_le _
  · split
    · omega
    · have order : fewer - 1 - phase ≤ more - 1 - phase := by omega
      have quotient := Nat.div_le_div_right (c := every) order
      omega

theorem opportunity_lt {sequence cycles every phase : ℕ} (known : sequence < cycles)
    (late : phase ≤ sequence) : (sequence - phase) / every <
      phaseOpportunities cycles every phase := by
  unfold phaseOpportunities
  rw [if_neg (by omega)]
  have quotient := Nat.div_le_div_right (c := every)
    (show sequence - phase ≤ cycles - 1 - phase by omega)
  omega

theorem length_filter_le {rows : List Sample} (distinct : (rows.map Sample.sequence).Nodup)
    {p : Sample → Bool} {every phase cycles : ℕ} (known : ∀ row ∈ rows, row.sequence < cycles)
    (on : ∀ row ∈ rows, p row = true → phase ≤ row.sequence ∧ row.sequence % every = phase) :
    (rows.filter p).length ≤ phaseOpportunities cycles every phase := by
  let opportunity (row : Sample) : ℕ := (row.sequence - phase) / every
  have different : ((rows.filter p).map opportunity).Nodup := by
    have pairs := (List.pairwise_map.mp distinct).sublist (List.filter_sublist (p := p))
    refine List.pairwise_map.mpr (pairs.imp_of_mem fun {a b} left right apart same => apart ?_)
    obtain ⟨leftMember, leftOn⟩ := List.mem_filter.mp left
    obtain ⟨rightMember, rightOn⟩ := List.mem_filter.mp right
    obtain ⟨leftLate, leftPhase⟩ := on a leftMember leftOn
    obtain ⟨rightLate, rightPhase⟩ := on b rightMember rightOn
    have leftSplit := Nat.div_add_mod a.sequence every
    have rightSplit := Nat.div_add_mod b.sequence every
    rw [leftPhase] at leftSplit
    rw [rightPhase] at rightSplit
    obtain rfl | positive := Nat.eq_zero_or_pos every
    · simp only [Nat.zero_mul, Nat.zero_add] at leftSplit rightSplit
      exact leftSplit.symm.trans rightSplit
    · have quotient : ∀ n, (every * n + phase - phase) / every = n := by
        intro n
        rw [Nat.add_sub_cancel, Nat.mul_div_cancel_left n positive]
      have here : (a.sequence - phase) / every = (b.sequence - phase) / every := same
      rw [← leftSplit, ← rightSplit, quotient, quotient] at here
      rw [← leftSplit, ← rightSplit, here]
  have within : (rows.filter p).map opportunity ⊆
      List.range (phaseOpportunities cycles every phase) := by
    intro value member
    obtain ⟨row, among, rfl⟩ := List.mem_map.mp member
    obtain ⟨rowMember, rowOn⟩ := List.mem_filter.mp among
    exact List.mem_range.mpr (opportunity_lt (known row rowMember) (on row rowMember rowOn).1)
  simpa using (List.subperm_of_subset different within).length_le

theorem observeAll_signals {cycleS : ℚ} {specs : List SignalSpec} {phases : Phases}
    (start : Streams) (rows : List Sample) :
    (rows.foldl (Streams.observe rnd cycleS specs phases) start).signals =
      start.signals.map fun state =>
        state.addAll rnd (signalPhase state.spec phases) rows := by
  induction rows generalizing start with
  | nil => exact (List.map_id _).symm
  | cons row rest ih =>
    rw [List.foldl_cons, ih]
    simp only [Streams.observe, List.map_map]
    refine List.map_congr_left fun state _ => ?_
    simp only [Function.comp_apply, (add_kept rnd state row _).1]
    rfl

theorem observeAll_maximumSequence (cycleS : ℚ) (specs : List SignalSpec) (phases : Phases)
    (start : Streams) (rows : List Sample) :
    let last := (rows.foldl (Streams.observe rnd cycleS specs phases) start).maximumSequence
    (∀ n ∈ start.maximumSequence, n < last.elim 0 (· + 1)) ∧
      ∀ row ∈ rows, row.sequence < last.elim 0 (· + 1) := by
  induction rows generalizing start with
  | nil =>
    refine ⟨fun n known => ?_, by simp⟩
    rw [Option.mem_def] at known
    simp [known]
  | cons row rest ih =>
    obtain ⟨before, later⟩ := ih (start.observe rnd cycleS specs phases row)
    have here := before (start.maximumSequence.elim row.sequence (max · row.sequence)) rfl
    refine ⟨fun n known => ?_, fun other member => ?_⟩
    · rw [Option.mem_def] at known
      simp only [known, Option.elim_some] at here
      exact (le_max_left _ _).trans_lt here
    · obtain rfl | among := List.mem_cons.mp member
      · refine lt_of_le_of_lt ?_ here
        cases start.maximumSequence <;> simp
      · exact later other among

theorem cycles_le_expectedCycles {startedAt finishedAt : Time} {sampleCount : ℕ}
    {maximumSequence : Option ℕ} {cycleS : ℚ} :
    min (maximumSequence.elim 0 (· + 1)) MAX_EXPECTED_CYCLES ≤
      (expectedCycles rnd startedAt finishedAt sampleCount maximumSequence cycleS).1 :=
  min_le_min_right _ (le_max_right _ _)

theorem scheduled_le {stored : Stored} (valid : stored.Valid) (state : SignalState) (phase : ℕ)
    {cycles : ℕ} {last : Option ℕ} (short : 0 < state.spec.every ∧ state.spec.every ≤ 20)
    (known : ∀ row ∈ stored.samples, row.sequence < last.elim 0 (· + 1))
    (enough : min (last.elim 0 (· + 1)) MAX_EXPECTED_CYCLES ≤ cycles) :
    (stored.samples.filter (state.scheduled · phase)).length ≤
      phaseOpportunities cycles state.spec.every phase := by
  have on : ∀ row ∈ stored.samples, state.scheduled row phase = true →
      phase ≤ row.sequence ∧ row.sequence % state.spec.every = phase := by
    intro row _ scheduled
    simp only [SignalState.scheduled, Bool.and_eq_true, decide_eq_true_eq] at scheduled
    exact scheduled.1
  by_cases few : last.elim 0 (· + 1) ≤ MAX_EXPECTED_CYCLES
  · rw [min_eq_left few] at enough
    exact (length_filter_le valid.distinct known on).trans
      (phaseOpportunities_mono enough _ _)
  · rw [min_eq_right (by omega)] at enough
    by_cases none : stored.samples.filter (state.scheduled · phase) = []
    · simp [none]
    · -- the drive is too short for the cap
      obtain ⟨row, member⟩ := List.exists_mem_of_ne_nil _ none
      obtain ⟨among, scheduled⟩ := List.mem_filter.mp member
      have early : phase < 20 := by
        obtain ⟨-, same⟩ := on row among scheduled
        have less := Nat.mod_lt row.sequence short.1
        omega
      have length := (List.length_filter_le (state.scheduled · phase) stored.samples).trans
        valid.bounded
      refine length.trans (le_trans ?_ (phaseOpportunities_mono enough _ _))
      unfold phaseOpportunities MAX_EXPECTED_CYCLES
      rw [if_neg (by omega)]
      have quotient : 100000 ≤ (2 ^ 63 - 1 - 1 - phase) / state.spec.every := by
        rw [Nat.le_div_iff_mul_le short.1]
        have product : 100000 * state.spec.every ≤ 100000 * 20 :=
          Nat.mul_le_mul_left _ short.2
        omega
      omega

theorem percentage_mem_Icc {received expected : ℕ} (order : received ≤ expected)
    (small : received ≤ 2 ^ 40) :
    0 ≤ percentage rnd received expected ∧ percentage rnd received expected ≤ 100 := by
  have exactly : rnd (100 * received) = 100 * received := by
    have whole : ((100 * received : ℕ) : ℤ) = 100 * (received : ℤ) := by push_cast; ring
    have narrow : |((100 * received : ℕ) : ℤ)| < 2 ^ 53 := by
      rw [Nat.abs_cast]
      exact_mod_cast (by omega : 100 * received < 2 ^ 53)
    have rounded := Binary64.round_intCast narrow
    push_cast at rounded
    exact rounded
  have range : |(0 : ℤ)| ≤ 2 ^ 53 ∧ |(100 : ℤ)| ≤ 2 ^ 53 := by decide
  have share : ((0 : ℤ) : ℚ) ≤ rnd (100 * received) / rnd expected ∧
      rnd (100 * received) / rnd expected ≤ ((100 : ℤ) : ℚ) := by
    rw [exactly]
    obtain rfl | positive := Nat.eq_zero_or_pos received
    · simp
    · have least : (received : ℚ) ≤ rnd expected := by
        have below : ((received : ℤ) : ℚ) ≤ (expected : ℚ) := by exact_mod_cast order
        have narrow : |(received : ℤ)| ≤ 2 ^ 53 := by
          rw [Nat.abs_cast]
          exact_mod_cast (by omega : received ≤ 2 ^ 53)
        exact_mod_cast Binary64.intCast_le_round narrow below
      have some : (0 : ℚ) < received := by exact_mod_cast positive
      have whole : (0 : ℚ) < rnd expected := some.trans_le least
      refine ⟨by simpa using by positivity, ?_⟩
      rw [div_le_iff₀ whole]
      push_cast
      linarith
  have rounded := Binary64.round_mem_Icc share.1 share.2 range
  exact ⟨by simpa [percentage] using rounded.1, by simpa [percentage] using rounded.2⟩

theorem receivedPercentage_mem_Icc (received expected : ℕ) :
    0 ≤ receivedPercentage received expected ∧ receivedPercentage received expected ≤ 100 := by
  have nonneg : ∀ q : ℚ, 0 ≤ q → 0 ≤ rnd q := fun q => Binary64.round_nonneg
  unfold receivedPercentage
  split
  · exact ⟨le_rfl, by norm_num⟩
  · refine ⟨le_min (by norm_num) ?_, min_le_left _ _⟩
    exact nonneg _ (div_nonneg (nonneg _ (by positivity)) (nonneg _ (by positivity)))

structure SignalResult.Covered (result : SignalResult) : Prop where
  order : result.supported = true → result.received ≤ result.expected
  short : result.supported = true → result.received ≤ 100000
  share : ∀ q, result.coveragePercentage = some q → 0 ≤ q ∧ q ≤ 100

theorem finish_expected (state : SignalState) (supported : Bool) (cycles phase : ℕ) :
    (state.finish rnd supported cycles phase).expected =
      if supported then phaseOpportunities cycles state.spec.every phase else 0 := rfl

theorem finish_received (state : SignalState) (cycles phase : ℕ) :
    (state.finish rnd true cycles phase).received =
      if state.deadlineScheduled then
        min state.receivedCount (phaseOpportunities cycles state.spec.every phase)
      else state.receivedCount := by
  cases deadline : state.deadlineScheduled <;> simp [SignalState.finish, deadline]

theorem finish_coverage (state : SignalState) (supported : Bool) (cycles phase : ℕ) :
    let result := state.finish rnd supported cycles phase
    result.supported = supported ∧ result.coveragePercentage =
      if result.expected = 0 then none
      else some (percentage rnd result.received result.expected) := ⟨rfl, rfl⟩

theorem finish_covered {stored : Stored} (valid : stored.Valid) {spec : SignalSpec}
    {deadline supported : Bool} {phase cycles : ℕ} {last : Option ℕ}
    (short : 0 < spec.every ∧ spec.every ≤ 20)
    (known : ∀ row ∈ stored.samples, row.sequence < last.elim 0 (· + 1))
    (enough : min (last.elim 0 (· + 1)) MAX_EXPECTED_CYCLES ≤ cycles) :
    ((SignalState.addAll rnd phase { spec, deadlineScheduled := deadline } stored.samples).finish
      rnd supported cycles phase).Covered := by
  let start : SignalState := { spec, deadlineScheduled := deadline }
  obtain ⟨sameSpec, sameDeadline⟩ := addAll_kept rnd phase start
    stored.samples
  have all := addAll_receivedCount_le rnd phase start stored.samples
  have few := valid.bounded
  cases supported with
  | false => exact ⟨by simp [finish_coverage], by simp [finish_coverage], by
      simp [finish_coverage, finish_expected]⟩
  | true =>
    have bounded : ((start.addAll rnd phase stored.samples).finish rnd true cycles
        phase).received ≤ 100000 ∧
        ((start.addAll rnd phase stored.samples).finish rnd true cycles phase).received ≤
          ((start.addAll rnd phase stored.samples).finish rnd true cycles phase).expected := by
      rw [finish_received, finish_expected, sameDeadline, sameSpec, if_pos rfl]
      have none : start.receivedCount = 0 := rfl
      cases deadline with
      | true =>
        rw [if_pos rfl]
        exact ⟨(min_le_left _ _).trans (by omega), min_le_right _ _⟩
      | false =>
        have counted := addAll_receivedCount_le_scheduled rnd phase start
          stored.samples rfl
        have most := scheduled_le valid start phase short known enough
        rw [if_neg (by simp [start])]
        exact ⟨by omega, by omega⟩
    refine ⟨fun _ => bounded.2, fun _ => bounded.1, fun q share => ?_⟩
    rw [(finish_coverage _ true cycles phase).2] at share
    split at share
    · cases share
    · obtain rfl := Option.some.inj share
      exact percentage_mem_Icc bounded.2 (bounded.1.trans (by norm_num))

theorem gather_covered (lib : Library) (drive : Imported) (finishedAt : Time) {stored : Stored}
    (valid : stored.Valid) :
    ∀ result ∈ (gather lib drive finishedAt stored).coverage.results, result.Covered := by
  intro result member
  obtain ⟨state, among, rfl⟩ := List.mem_map.mp member
  let plan := Reconciliation.member drive.manifest "poll_plan_version"
  have signals : state ∈ (streamsOf plan stored).signals := among
  rw [streamsOf, observeAll_signals, List.map_map] at signals
  obtain ⟨spec, planned, rfl⟩ := List.mem_map.mp signals
  have short := every_of_mem planned
  obtain ⟨-, known⟩ := observeAll_maximumSequence
    (nominalCycleS (some (specsForPollPlan plan).1)) (specsForPollPlan plan).2
    (phasesOf (specsForPollPlan plan).1)
    { rollup := .start (nominalCycleS (some (specsForPollPlan plan).1))
        (mafCadenceS (some (specsForPollPlan plan).1)) ((specsForPollPlan plan).1 = 8)
      signals := (specsForPollPlan plan).2.map fun spec =>
        { spec, deadlineScheduled := (specsForPollPlan plan).1 = 8 } } stored.samples
  simp only [Function.comp_apply, (addAll_kept _ _ _ _).1]
  exact finish_covered valid short known cycles_le_expectedCycles

theorem specs_length_le (plan : Json) : (specsForPollPlan plan).2.length ≤ 23 := by
  have all : ∀ specs ∈ [SIGNALS_V2, SIGNALS, SIGNALS_V4, SIGNALS_V8], specs.length ≤ 23 := by
    decide
  exact all _ (specsForPollPlan_mem plan)

theorem gather_length_le (lib : Library) (drive : Imported) (finishedAt : Time)
    (stored : Stored) : (gather lib drive finishedAt stored).coverage.results.length ≤ 23 := by
  let plan := Reconciliation.member drive.manifest "poll_plan_version"
  have same : (gather lib drive finishedAt stored).coverage.results.length =
      (streamsOf plan stored).signals.length := List.length_map _
  rw [same, streamsOf, observeAll_signals, List.length_map, List.length_map]
  exact specs_length_le plan

theorem completeness_mem_Icc (lib : Library) (drive : Imported) (finishedAt : Time)
    {stored : Stored} (valid : stored.Valid) {q : ℚ}
    (share : completeness (gather lib drive finishedAt stored).coverage = some q) :
    0 ≤ q ∧ q ≤ 100 := by
  have covered := gather_covered lib drive finishedAt valid
  have length := gather_length_le lib drive finishedAt stored
  let coverage := (gather lib drive finishedAt stored).coverage
  let measured := coverage.results.filter fun result =>
    result.supported && result.spec.provenance = "measured"
  have among : ∀ result ∈ measured, result.Covered ∧ result.supported = true := by
    intro result member
    obtain ⟨known, kind⟩ := List.mem_filter.mp member
    simp only [Bool.and_eq_true] at kind
    exact ⟨covered result known, kind.1⟩
  have order : coverage.receivedTotal ≤ coverage.expectedTotal :=
    List.sum_le_sum fun result member => (among result member).1.order (among result member).2
  have small : coverage.receivedTotal ≤ 23 * 100000 := by
    have each := List.sum_le_card_nsmul (measured.map (·.received)) 100000 fun n member => by
      obtain ⟨result, known, rfl⟩ := List.mem_map.mp member
      exact (among result known).1.short (among result known).2
    have fewer := List.length_filter_le (fun result : SignalResult =>
      result.supported && result.spec.provenance = "measured") coverage.results
    rw [List.length_map, smul_eq_mul] at each
    exact each.trans (Nat.mul_le_mul_right _ (fewer.trans length))
  unfold completeness at share
  split at share
  · cases share
  · obtain rfl := Option.some.inj share
    exact percentage_mem_Icc order (small.trans (by norm_num))

end DashcamStats.Reconciliation
