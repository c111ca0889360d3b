import DashcamStats.Bundle.PipelineMetrics
import DashcamStats.Logger.MetricsHistory

namespace DashcamStats.Logger

open DashcamStats.Bundle Observed

namespace RollingTiming

variable {r : RollingTiming} {xs : List ℕ}

def fields (name : String) : List String :=
  [samplesField name, medianField name, maximumField name, totalField name]

theorem members_names (r : RollingTiming) (name : String) :
    memberNames (r.members name) ⊆ fields name := by
  unfold RollingTiming.members
  cases median r.samples <;>
    simp [memberNames, fields, samplesField, maximumField, totalField, medianField]

theorem median_eq_none {samples : List ℕ} : median samples = none ↔ samples.length = 0 := by
  unfold RollingTiming.median
  split_ifs <;> simp_all

structure Carried (payload : Members) (name : String) (r : RollingTiming) : Prop where
  samples : item payload (samplesField name) = .ok (.int r.samples.length)
  maximum : item payload (maximumField name) = .ok (.int r.maximumMillis)
  total : item payload (totalField name) = .ok (.int r.totalMillis)
  medians : ∀ q, median r.samples = some q → item payload (medianField name) = .ok (.double q)
  no_median : median r.samples = none → medianField name ∉ memberNames payload

theorem carried_members (r : RollingTiming) (name : String) (after : Members)
    (distinct : (fields name).Nodup) (last : medianField name ∉ memberNames after) :
    Carried (r.members name ++ after) name r := by
  simp only [fields, List.nodup_cons, List.mem_cons, List.not_mem_nil, or_false, not_or] at distinct
  obtain ⟨⟨sm, sx, st⟩, ⟨mx, mt⟩, xt, -⟩ := distinct
  cases found : median r.samples with
  | none =>
    have folded : r.members name =
        [(samplesField name, .int r.samples.length), (maximumField name, .int r.maximumMillis),
          (totalField name, .int r.totalMillis)] := by
      rw [RollingTiming.members, found]
      rfl
    rw [folded]
    simp only [List.nil_append, List.cons_append]
    constructor
    · exact item_cons_self _ _ _
    · rw [item_cons_of_ne (Ne.symm sx), item_cons_self]
    · rw [item_cons_of_ne (Ne.symm st), item_cons_of_ne (Ne.symm xt), item_cons_self]
    · intro q same
      rw [found] at same
      cases same
    · intro _ member
      rcases List.mem_cons.mp member with same | member
      · exact sm same.symm
      · rcases List.mem_cons.mp member with same | member
        · exact mx same
        · rcases List.mem_cons.mp member with same | member
          · exact mt same
          · exact last member
  | some q =>
    have folded : r.members name =
        [(samplesField name, .int r.samples.length), (medianField name, .double q),
          (maximumField name, .int r.maximumMillis), (totalField name, .int r.totalMillis)] := by
      rw [RollingTiming.members, found]
      rfl
    rw [folded]
    simp only [List.nil_append, List.cons_append]
    constructor
    · exact item_cons_self _ _ _
    · rw [item_cons_of_ne (Ne.symm sx), item_cons_of_ne (Ne.symm mx), item_cons_self]
    · rw [item_cons_of_ne (Ne.symm st), item_cons_of_ne (Ne.symm mt),
        item_cons_of_ne (Ne.symm xt), item_cons_self]
    · intro other same
      obtain rfl := Option.some.inj (found.symm.trans same)
      rw [item_cons_of_ne (Ne.symm sm), item_cons_self]
    · intro missing
      rw [found] at missing
      cases missing

theorem Carried.append (before : Members) {payload : Members} {name : String} {r : RollingTiming}
    (carried : Carried payload name r)
    (fresh : ∀ field ∈ fields name, field ∉ memberNames before) :
    Carried (before ++ payload) name r := by
  have skip {field : String} (listed : field ∈ fields name) :
      item (before ++ payload) field = item payload field :=
    item_append_of_absent (lookup_eq_none (fresh field listed))
  have s : samplesField name ∈ fields name := by simp [fields]
  have m : medianField name ∈ fields name := by simp [fields]
  have x : maximumField name ∈ fields name := by simp [fields]
  have t : totalField name ∈ fields name := by simp [fields]
  constructor
  · rw [skip s, carried.samples]
  · rw [skip x, carried.maximum]
  · rw [skip t, carried.total]
  · intro q found
    rw [skip m, carried.medians q found]
  · intro missing
    rw [memberNames_append, List.mem_append, not_or]
    exact ⟨fresh _ m, carried.no_median missing⟩

theorem round_natCast {n : ℕ} (small : n ≤ 2 * limit) : Binary64.round n = n := by
  simp only [limit] at small
  exact Binary64.round_intCast (n := n) (abs_lt.mpr ⟨by omega, by omega⟩)

theorem median_range {samples : List ℕ} {most : ℕ} {q : ℚ} (found : median samples = some q)
    (bounded : ∀ x ∈ samples, x ≤ most) (small : most ≤ limit) : 0 ≤ q ∧ q ≤ most := by
  have upper := ranked_le bounded (samples.length / 2)
  have lower := ranked_le bounded (samples.length / 2 - 1)
  unfold RollingTiming.median at found
  split_ifs at found with none_left odd
  · obtain rfl := Option.some.inj found
    rw [round_natCast (by omega)]
    exact ⟨by positivity, by exact_mod_cast upper⟩
  · obtain rfl := Option.some.inj found
    generalize ranked samples (samples.length / 2 - 1) = a at *
    generalize ranked samples (samples.length / 2) = b at *
    have sum : Binary64.round ((a : ℚ) + b) = (a : ℚ) + b := by
      have whole := round_natCast (n := a + b) (by omega)
      push_cast at whole
      exact whole
    have half : Binary64.round (((a : ℚ) + b) / 2) = ((a : ℚ) + b) / 2 := by
      have narrow : |((a + b : ℕ) : ℤ)| < 2 ^ 53 := by
        simp only [limit] at small
        exact abs_lt.mpr ⟨by omega, by omega⟩
      have exact_half := Binary64.round_half narrow
      push_cast at exact_half
      exact exact_half
    rw [round_natCast (by omega), round_natCast (by omega), sum, half]
    have a_le : (a : ℚ) ≤ most := by exact_mod_cast lower
    have b_le : (b : ℚ) ≤ most := by exact_mod_cast upper
    exact ⟨by positivity, by linarith⟩

theorem Carried.timingValue {payload : Members} {name : String} (carried : Carried payload name r)
    (summary : r.Summarises xs) :
    Bundle.timingValue payload name =
      .ok { sampleCount := r.samples.length, totalMs := r.totalMillis } := by
  have few : r.samples.length ≤ 256 := by
    rw [summary.length]
    exact min_le_right _ _
  have greatest_bound : greatest xs ≤ limit := greatest_le summary.bounded
  have maximum_le : r.maximumMillis ≤ limit := summary.maximum ▸ greatest_bound
  have total_le : r.totalMillis ≤ limit := summary.total ▸ capped_le
  have maximum_total : r.maximumMillis ≤ r.totalMillis := by
    rw [summary.maximum, summary.total]
    exact greatest_le_capped greatest_bound
  have medians : timingMedian payload name r.samples.length r.maximumMillis r.totalMillis =
      .ok () := by
    cases found : median r.samples with
    | none =>
      have none_left := median_eq_none.mp found
      have unseen : xs = [] := by
        have length := summary.length
        exact List.eq_nil_of_length_eq_zero (by omega)
      have zero : r.maximumMillis = 0 ∧ r.totalMillis = 0 := by
        simp [summary.maximum, summary.total, unseen]
      have absent := carried.no_median found
      simp [timingMedian, none_left, zero, refuse, absent]
    | some q =>
      have left : r.samples.length ≠ 0 := by
        intro none_left
        rw [median_eq_none.mpr none_left] at found
        cases found
      have member_le : ∀ x ∈ r.samples, x ≤ r.maximumMillis := by
        intro x member
        rw [summary.samples] at member
        rw [summary.maximum]
        exact le_greatest (mem_of_mem_recent member)
      obtain ⟨nonneg, below⟩ := median_range found member_le maximum_le
      have carried_median := carried.medians q found
      have listed := mem_of_item carried_median
      have below_limit : q ≤ (limit : ℕ) := below.trans (by exact_mod_cast maximum_le)
      have narrow : |q| < 2 ^ 53 := by
        rw [abs_of_nonneg nonneg]
        exact below_limit.trans_lt (by norm_num [limit])
      have accepted (field : String) : number (.double q) field (some 0)
          (some pipelineMetricTimingMaximumMs) false = .ok (some q) :=
        number_double (by simpa using nonneg)
          (by simpa [pipelineMetricTimingMaximumMs, limit] using below_limit) narrow
      have ordered : ¬(((r.maximumMillis : ℤ) : ℚ) < q ∨
          (r.totalMillis : ℤ) < (r.maximumMillis : ℤ)) := by
        rw [not_or, not_lt, not_lt]
        exact ⟨by exact_mod_cast below, by exact_mod_cast maximum_total⟩
      simp only [timingMedian, Nat.cast_eq_zero, left, ↓reduceIte, carried_median, ok_bind]
      rw [refuse_of_not (not_not.mpr listed), ok_bind, accepted, ok_bind, present, ok_bind,
        refuse_of_not ordered]
  have small : limit = 1000000000000 := rfl
  simp only [Bundle.timingValue, metric, carried.samples, carried.maximum, carried.total, ok_bind,
    pipelineMetricTimingSampleLimit, pipelineMetricTimingMaximumMs]
  rw [integer_ok (by omega) (by omega), ok_bind, integer_ok (by omega) (by omega), ok_bind,
    integer_ok (by omega) (by omega), ok_bind, medians]
  rfl

end RollingTiming

namespace PipelineMetrics

variable {m : PipelineMetrics} {h : CallHistory}

theorem counter_item (m : PipelineMetrics) (reading : ℤ) (counter : Counter) :
    item (m.snapshot reading) counter.name = .ok (.int (m.counters counter)) := by
  cases counter <;> rfl

def headNames : List String :=
  Counter.all.map Counter.name ++
    ["queue_depth", "maximum_queue_depth", "observation_window_ms", "polling_duty_cycle_percent"]

theorem counterMembers_names (m : PipelineMetrics) (reading : ℤ) :
    memberNames (m.counterMembers reading) = headNames := rfl

open RollingTiming (fields members_names Carried carried_members)

theorem not_mem_members {r : RollingTiming} {name field : String}
    (absent : field ∉ fields name) : field ∉ memberNames (r.members name) :=
  fun member => absent (members_names r name member)

theorem carried_snapshot (m : PipelineMetrics) (reading : ℤ) :
    Carried (m.snapshot reading) "connection_time" m.connectionTiming ∧
      Carried (m.snapshot reading) "command_response_time" m.commandTiming ∧
      Carried (m.snapshot reading) "voltage_response_time" m.voltageCommandTiming ∧
      Carried (m.snapshot reading) "connected_time" m.connectedTiming := by
  have apart : ∀ name ∈ pipelineMetricTimingNamesCurrent, ∀ field ∈ fields name,
      field ∉ headNames ∧ ∀ other ∈ pipelineMetricTimingNamesCurrent, other ≠ name →
        field ∉ fields other := by
    decide
  have distinct : ∀ name ∈ pipelineMetricTimingNamesCurrent, (fields name).Nodup := by decide
  have median_listed (name : String) : medianField name ∈ fields name := by simp [fields]
  have head {name : String} (listed : name ∈ pipelineMetricTimingNamesCurrent) :
      ∀ field ∈ fields name, field ∉ memberNames (m.counterMembers reading) :=
    fun field member => (apart name listed field member).1
  have other {name : String} (listed : name ∈ pipelineMetricTimingNamesCurrent) (r : RollingTiming)
      {k : String} (next : k ∈ pipelineMetricTimingNamesCurrent) (differs : k ≠ name) :
      ∀ field ∈ fields name, field ∉ memberNames (r.members k) :=
    fun field member => not_mem_members ((apart name listed field member).2 k next differs)
  have connection : "connection_time" ∈ pipelineMetricTimingNamesCurrent := by decide
  have command : "command_response_time" ∈ pipelineMetricTimingNamesCurrent := by decide
  have voltage : "voltage_response_time" ∈ pipelineMetricTimingNamesCurrent := by decide
  have connected : "connected_time" ∈ pipelineMetricTimingNamesCurrent := by decide
  unfold snapshot
  refine ⟨?_, ?_, ?_, ?_⟩
  · refine (carried_members _ _ _ (distinct _ connection) ?_).append _ (head connection)
    have last := fun r next listed differs =>
      other connection r (k := next) listed differs _ (median_listed _)
    simp only [memberNames_append, List.mem_append, not_or]
    exact ⟨last _ _ command (by decide), last _ _ voltage (by decide),
      last _ _ connected (by decide)⟩
  · refine Carried.append _ (Carried.append _ (carried_members _ _ _ (distinct _ command) ?_)
      (other command _ connection (by decide))) (head command)
    have last := fun r next listed differs =>
      other command r (k := next) listed differs _ (median_listed _)
    simp only [memberNames_append, List.mem_append, not_or]
    exact ⟨last _ _ voltage (by decide), last _ _ connected (by decide)⟩
  · refine Carried.append _ (Carried.append _ (Carried.append _
      (carried_members _ _ _ (distinct _ voltage) ?_) (other voltage _ command (by decide)))
      (other voltage _ connection (by decide))) (head voltage)
    exact other voltage _ connected (by decide) _ (median_listed _)
  · have alone := carried_members m.connectedTiming "connected_time" [] (distinct _ connected)
      (by simp [memberNames])
    rw [List.append_nil] at alone
    exact Carried.append _ (Carried.append _ (Carried.append _ (Carried.append _ alone
      (other connected _ voltage (by decide))) (other connected _ command (by decide)))
      (other connected _ connection (by decide))) (head connected)

theorem required_listed (m : PipelineMetrics) (reading : ℤ) :
    ∀ name ∈ pipelineMetricFieldsCurrentRequired, name ∈ memberNames (m.snapshot reading) := by
  obtain ⟨connection, command, voltage, connected⟩ := carried_snapshot m reading
  have timings : ∀ name ∈ pipelineMetricTimingNamesCurrent,
      samplesField name ∈ memberNames (m.snapshot reading) ∧
        maximumField name ∈ memberNames (m.snapshot reading) ∧
        totalField name ∈ memberNames (m.snapshot reading) := by
    have listed {name : String} {r : RollingTiming} (carried : Carried (m.snapshot reading) name r) :=
      And.intro (mem_of_item carried.samples)
        (And.intro (mem_of_item carried.maximum) (mem_of_item carried.total))
    intro name member
    simp only [pipelineMetricTimingNamesCurrent, List.mem_cons, List.not_mem_nil, or_false] at member
    rcases member with rfl | rfl | rfl | rfl
    · exact listed connection
    · exact listed command
    · exact listed voltage
    · exact listed connected
  intro name member
  simp only [pipelineMetricFieldsCurrentRequired, List.mem_append, List.mem_flatMap] at member
  rcases member with head | ⟨timing, member, field⟩
  · unfold snapshot
    rw [memberNames_append, counterMembers_names]
    refine List.mem_append_left _ ?_
    have same : pipelineMetricCounterFieldsCurrent ++
        ["queue_depth", "maximum_queue_depth", "observation_window_ms",
          "polling_duty_cycle_percent"] = headNames := rfl
    rw [← same]
    exact List.mem_append.mpr head
  · obtain ⟨samples, maximum, total⟩ := timings timing member
    simp only [List.mem_cons, List.not_mem_nil, or_false] at field
    rcases field with rfl | rfl | rfl <;> assumption

theorem listed_allowed (m : PipelineMetrics) (reading : ℤ) :
    ∀ name ∈ memberNames (m.snapshot reading),
      name ∈ pipelineMetricFieldsCurrentRequired ++ pipelineMetricFieldsCurrentOptional := by
  have heads : ∀ name ∈ headNames,
      name ∈ pipelineMetricFieldsCurrentRequired ++ pipelineMetricFieldsCurrentOptional := by decide
  have timings : ∀ timing ∈ pipelineMetricTimingNamesCurrent, ∀ name ∈ fields timing,
      name ∈ pipelineMetricFieldsCurrentRequired ++ pipelineMetricFieldsCurrentOptional := by decide
  intro name member
  simp only [snapshot, memberNames_append, List.mem_append] at member
  rcases member with head | first | second | third | fourth
  · exact heads name head
  · exact timings "connection_time" (by decide) name (members_names _ _ first)
  · exact timings "command_response_time" (by decide) name (members_names _ _ second)
  · exact timings "voltage_response_time" (by decide) name (members_names _ _ third)
  · exact timings "connected_time" (by decide) name (members_names _ _ fourth)

theorem not_v1 (m : PipelineMetrics) (reading : ℤ) :
    ¬KeysAre (m.snapshot reading) pipelineMetricFieldsV1 := by
  intro same
  have listed := required_listed m reading "observation_window_ms" (by decide)
  exact absurd (same.1 _ listed) (by decide)

theorem dutyCycle_range (m : PipelineMetrics) (reading : ℤ) :
    0 ≤ m.dutyCycle reading ∧ m.dutyCycle reading ≤ 100 := by
  unfold dutyCycle
  dsimp only
  split_ifs <;> constructor <;> linarith

theorem dutyCycle_eq (m : PipelineMetrics) {reading : ℤ} (total : m.connectedTiming.totalMillis ≤
    RollingTiming.limit) (window : m.observationWindow reading ≤ RollingTiming.limit) :
    m.dutyCycle reading = min 100 (Binary64.round (Binary64.round
      (((m.connectedTiming.totalMillis : ℤ) : ℚ) / (m.observationWindow reading : ℚ)) * 100)) := by
  have positive : 1 ≤ m.observationWindow reading := le_max_right _ _
  simp only [RollingTiming.limit] at total window
  have exact_total := Binary64.round_intCast (n := m.connectedTiming.totalMillis)
    (abs_lt.mpr ⟨by omega, by omega⟩)
  have exact_window := Binary64.round_intCast (n := m.observationWindow reading)
    (abs_lt.mpr ⟨by omega, by omega⟩)
  rw [Int.cast_natCast] at exact_total ⊢
  have nonneg : (0 : ℚ) ≤ (m.connectedTiming.totalMillis : ℚ) / (m.observationWindow reading : ℚ) := by
    have window_nonneg : (0 : ℚ) ≤ (m.observationWindow reading : ℚ) := by
      exact_mod_cast (by omega : 0 ≤ m.observationWindow reading)
    positivity
  have percent : (0 : ℚ) ≤ Binary64.round (Binary64.round
      ((m.connectedTiming.totalMillis : ℚ) / (m.observationWindow reading : ℚ)) * 100) :=
    Binary64.round_nonneg (mul_nonneg (Binary64.round_nonneg nonneg) (by norm_num))
  rw [dutyCycle, exact_total, exact_window]
  split_ifs with negative above
  · linarith
  · rw [min_eq_left above.le]
  · rw [min_eq_right (not_lt.mp above)]

theorem metrics_ok (payload : Members) (names : List String) (most : ℤ)
    (each : ∀ name ∈ names, ∃ n : ℕ, item payload name = .ok (.int n) ∧ n ≤ most) :
    metrics payload (fun _ => most) names = .ok () := by
  induction names with
  | nil => rfl
  | cons name names ih =>
    obtain ⟨n, found, small⟩ := each name (by simp)
    have rest := ih fun other member => each other (by simp [member])
    simp only [metrics, metric, found, ok_bind]
    rw [integer_ok (by omega) small, ok_bind, rest]

structure Consistent (m : PipelineMetrics) : Prop where
  most : ∀ counter, m.counters counter ≤ maximumCounter
  sent : m.counters .commandsSent ≤ m.counters .commandsRequested
  completed : m.counters .commandsCompleted ≤ m.counters .commandsSent
  timedOut : m.counters .commandTimeouts ≤ m.counters .commandsSent
  adapterLocal : m.counters .adapterLocalCommands ≤ m.counters .commandsRequested
  vehicleBus : m.counters .vehicleBusCommands ≤ m.counters .commandsRequested
  parsed : m.counters .checksumFailures ≤ m.counters .parseFailures
  queued : m.counters .samplesQueued ≤ m.counters .samplesCreated
  settled : m.counters .samplesPersisted + m.counters .samplesDropped ≤ m.counters .samplesQueued
  connection : m.connectionTiming.samples.length ≤ m.counters .bleConnectionSuccesses
  command : m.commandTiming.samples.length ≤ m.counters .commandsCompleted
  connected : m.connectedTiming.samples.length ≤ m.counters .bleConnectionSuccesses
  voltage : m.voltageCommandTiming.samples.length ≤ m.commandTiming.samples.length

theorem Sound.consistent {started : ℤ} (sound : m.Sound h started)
    (below : ∀ counter, m.counters counter < maximumCounter) : m.Consistent := by
  obtain ⟨n, counts, tallied⟩ := sound.tally
  have count (counter : Counter) : m.counters counter = n counter := by
    have stopped := counts counter
    have short := below counter
    omega
  have sent := Finset.card_le_card sound.ordered.sent
  have completed := Finset.card_le_card sound.ordered.completed
  have timedOut := Finset.card_le_card sound.ordered.timedOut
  have closed := Finset.card_le_card sound.ordered.closed
  have queued := Finset.card_le_card sound.ordered.queued
  have settled := Finset.card_le_card sound.ordered.settled
  obtain ⟨⟨xs, connection, connections⟩, ⟨ys, zs, command, voltage, commands, voltages⟩,
    ⟨us, connected, connecteds⟩⟩ := sound.timed
  have tally := tallied
  constructor
  · exact fun counter => (below counter).le
  all_goals
    simp only [count, connection.length, command.length, voltage.length, connected.length,
      tallied.requested, tallied.sent, tallied.completed, tallied.timedOut, tallied.connected,
      tallied.created, tallied.queued]
  · exact sent
  · exact completed
  · exact timedOut
  · exact tallied.requested ▸ tallied.adapterLocal
  · exact tallied.requested ▸ tallied.vehicleBus
  · exact tallied.parsed
  · exact queued
  · exact tallied.settled.trans settled
  · omega
  · omega
  · omega
  · omega

theorem counted_snapshot (most : ∀ counter, m.counters counter ≤ maximumCounter) (reading : ℤ)
    (counter : Counter) :
    counted (m.snapshot reading) counter.name = .ok (m.counters counter : ℤ) := by
  have bound := most counter
  have limit : (maximumCounter : ℤ) = pipelineMetricCounterMaximum := rfl
  simp only [counted, metric, counter_item, ok_bind]
  exact integer_ok (by omega) (by omega)

theorem Sound.current_accepted {started reading : ℤ} (sound : m.Sound h started)
    (below : ∀ counter, m.counters counter < maximumCounter)
    (window : m.observationWindow reading ≤ RollingTiming.limit) :
    validateCurrentMetrics (m.snapshot reading) = .ok () := by
  have consistent := sound.consistent below
  obtain ⟨connection, command, voltage, connected⟩ := carried_snapshot m reading
  obtain ⟨⟨xs, connections, -⟩, ⟨ys, zs, commands, voltages, -⟩, ⟨us, connecteds, -⟩⟩ := sound.timed
  have nothing_missing : pipelineMetricFieldsCurrentRequired.filter
      (· ∉ memberNames (m.snapshot reading)) = [] := by
    simpa using required_listed m reading
  have nothing_extra : (memberNames (m.snapshot reading)).filter
      (· ∉ pipelineMetricFieldsCurrentRequired ++ pipelineMetricFieldsCurrentOptional) = [] := by
    apply List.filter_eq_nil_iff.mpr
    intro name member
    rw [decide_eq_true_eq, not_not]
    exact listed_allowed m reading name member
  have counters : metrics (m.snapshot reading) (fun _ => pipelineMetricCounterMaximum)
      pipelineMetricCounterFieldsCurrent = .ok () := by
    apply metrics_ok
    have names : pipelineMetricCounterFieldsCurrent = Counter.all.map Counter.name := rfl
    rw [names]
    intro name member
    obtain ⟨counter, -, rfl⟩ := List.mem_map.mp member
    have most := consistent.most counter
    have limit : (maximumCounter : ℤ) = pipelineMetricCounterMaximum := rfl
    exact ⟨_, counter_item m reading counter, by omega⟩
  have queues : metrics (m.snapshot reading) (fun _ => 1) queueFields = .ok () := by
    apply metrics_ok
    have queue := sound.queue
    intro name member
    simp only [queueFields, List.mem_cons, List.not_mem_nil, or_false] at member
    rcases member with rfl | rfl
    · exact ⟨m.queueDepth, rfl, by omega⟩
    · exact ⟨m.maximumQueueDepth, rfl, by omega⟩
  have observed : metric (m.snapshot reading) "observation_window_ms" 1
      pipelineMetricTimingMaximumMs = .ok (m.observationWindow reading) :=
    integer_ok (le_max_right _ _) window
  have duty_item : item (m.snapshot reading) "polling_duty_cycle_percent" =
      .ok (.double (m.dutyCycle reading)) := rfl
  obtain ⟨duty_nonneg, duty_le⟩ := dutyCycle_range m reading
  have duty (name : String) : number (.double (m.dutyCycle reading)) name (some 0) (some 100) false =
      .ok (some (m.dutyCycle reading)) := by
    apply number_double (by simpa using duty_nonneg) (by simpa using duty_le)
    rw [abs_of_nonneg duty_nonneg]
    exact duty_le.trans_lt (by norm_num)
  have total_le : m.connectedTiming.totalMillis ≤ RollingTiming.limit :=
    connecteds.total ▸ capped_le
  have close := dutyCycle_eq m total_le window
  have requested : counted (m.snapshot reading) "commands_requested" = .ok _ :=
    counted_snapshot consistent.most reading .commandsRequested
  have sent : counted (m.snapshot reading) "commands_sent" = .ok _ :=
    counted_snapshot consistent.most reading .commandsSent
  have completed : counted (m.snapshot reading) "commands_completed" = .ok _ :=
    counted_snapshot consistent.most reading .commandsCompleted
  have timeouts : counted (m.snapshot reading) "command_timeouts" = .ok _ :=
    counted_snapshot consistent.most reading .commandTimeouts
  have adapterLocal : counted (m.snapshot reading) "adapter_local_commands" = .ok _ :=
    counted_snapshot consistent.most reading .adapterLocalCommands
  have vehicleBus : counted (m.snapshot reading) "vehicle_bus_commands" = .ok _ :=
    counted_snapshot consistent.most reading .vehicleBusCommands
  have parses : counted (m.snapshot reading) "parse_failures" = .ok _ :=
    counted_snapshot consistent.most reading .parseFailures
  have checksums : counted (m.snapshot reading) "checksum_failures" = .ok _ :=
    counted_snapshot consistent.most reading .checksumFailures
  have created : counted (m.snapshot reading) "samples_created" = .ok _ :=
    counted_snapshot consistent.most reading .samplesCreated
  have queued : counted (m.snapshot reading) "samples_queued" = .ok _ :=
    counted_snapshot consistent.most reading .samplesQueued
  have successes : counted (m.snapshot reading) "ble_connection_successes" = .ok _ :=
    counted_snapshot consistent.most reading .bleConnectionSuccesses
  obtain ⟨-, sent_le, completed_le, timeouts_le, local_le, bus_le, parsed_le, queued_le, -,
    connection_le, command_le, connected_le, voltage_le⟩ := consistent
  simp only [validateCurrentMetrics, nothing_missing, nothing_extra, counters, queues, observed,
    duty_item, duty, present, ok_bind, connection.timingValue connections,
    command.timingValue commands, voltage.timingValue voltages, connected.timingValue connecteds,
    requested, sent, completed, timeouts, adapterLocal, vehicleBus, parses, checksums, created,
    queued, successes]
  rw [refuse_of_not (by simp), ok_bind, refuse_of_not (by omega), ok_bind,
    refuse_of_not (by omega), ok_bind, refuse_of_not (by omega), ok_bind,
    refuse_of_not (by omega), ok_bind, refuse_of_not (by omega), ok_bind,
    refuse_of_not (by omega), ok_bind, refuse_of_not (by omega), ok_bind,
    refuse_of_not (by omega), ok_bind, refuse_of_not (by omega), ok_bind,
    refuse_of_not (not_not.mpr (.inl close))]

theorem Sound.accepted {started reading : ℤ} (sound : m.Sound h started)
    (below : ∀ counter, m.counters counter < maximumCounter)
    (window : m.observationWindow reading ≤ RollingTiming.limit) :
    validatePipelineMetrics (m.snapshot reading) = .ok () := by
  have current := sound.current_accepted below window
  have queue := sound.queue
  obtain ⟨most, sent, completed, -, -, -, -, -, settled, -⟩ := sound.consistent below
  have depth : metric (m.snapshot reading) "queue_depth" 0 1 = .ok (m.queueDepth : ℤ) :=
    integer_ok (by omega) (by omega)
  have maximum_depth : metric (m.snapshot reading) "maximum_queue_depth" 0 1 =
      .ok (m.maximumQueueDepth : ℤ) :=
    integer_ok (by omega) (by omega)
  have requests : counted (m.snapshot reading) "commands_requested" = .ok _ :=
    counted_snapshot most reading .commandsRequested
  have completions : counted (m.snapshot reading) "commands_completed" = .ok _ :=
    counted_snapshot most reading .commandsCompleted
  have queued : counted (m.snapshot reading) "samples_queued" = .ok _ :=
    counted_snapshot most reading .samplesQueued
  have persisted : counted (m.snapshot reading) "samples_persisted" = .ok _ :=
    counted_snapshot most reading .samplesPersisted
  have dropped : counted (m.snapshot reading) "samples_dropped" = .ok _ :=
    counted_snapshot most reading .samplesDropped
  simp only [validatePipelineMetrics, not_v1, ↓reduceIte, current, ok_bind, depth, maximum_depth,
    requests, completions, queued, persisted, dropped]
  rw [refuse_of_not (by omega), ok_bind, refuse_of_not (by omega), ok_bind,
    refuse_of_not (by omega)]

theorem window_of_accepted {reading : ℤ}
    (accepted : validatePipelineMetrics (m.snapshot reading) = .ok ()) :
    m.observationWindow reading ≤ RollingTiming.limit := by
  simp only [validatePipelineMetrics, not_v1, ↓reduceIte] at accepted
  obtain ⟨_, current, -⟩ := bind_eq_ok.mp accepted
  obtain ⟨_, -, current⟩ := bind_eq_ok.mp current
  obtain ⟨_, -, current⟩ := bind_eq_ok.mp current
  obtain ⟨_, -, current⟩ := bind_eq_ok.mp current
  obtain ⟨window, observed, -⟩ := bind_eq_ok.mp current
  have read : integer (.int (m.observationWindow reading))
      "diagnostic.pipeline_metrics.observation_window_ms" 1 pipelineMetricTimingMaximumMs =
      .ok window := observed
  by_contra long_window
  have above : ¬m.observationWindow reading ≤ pipelineMetricTimingMaximumMs := long_window
  simp [integer, above] at read

/-- Below the maximum of the counters a snapshot is accepted exactly as long as the clock has not
run further than the server's bound since the metrics were created. -/
theorem snapshot_accepted_iff (started : ℤ) (calls : List MetricCall)
    (run : Run Stepped Allowed (create started, {}) calls (m, h))
    (below : ∀ counter, m.counters counter < maximumCounter) (reading : ℤ) :
    validatePipelineMetrics (m.snapshot reading) = .ok () ↔
      long (long reading - long started) ≤ 1000000000000 := by
  have sound := run_sound run
  have window : m.observationWindow reading = max (long (long reading - long started)) 1 := by
    rw [observationWindow, sound.start]
  have limit : (RollingTiming.limit : ℤ) = 1000000000000 := rfl
  constructor
  · intro accepted
    have bound := window_of_accepted accepted
    omega
  · intro bound
    exact sound.accepted below (by omega)

theorem snapshot_accepted_session :
    ∃ calls m h, Run Stepped Allowed (create 1000, {}) calls (m, h) ∧
      validatePipelineMetrics (m.snapshot 61000) = .ok () := by
  have fresh : Run Stepped Allowed (create 1000, {}) [] (create 1000, {}) := .refl
  have connected := run_call fresh (.connectionSucceeded 7 250) (Finset.notMem_empty 7)
  have closed := run_call connected (.connectedSessionClosed 7 42000)
    ⟨Finset.mem_insert_self 7 ∅, Finset.notMem_empty 7⟩
  exact ⟨_, _, _, closed, (snapshot_accepted_iff 1000 _ closed
    (by intro counter; cases counter <;> decide) 61000).mpr (by decide)⟩

theorem not_always_accepted :
    ¬∀ (started reading : ℤ) (calls : List MetricCall) (m : PipelineMetrics) (h : CallHistory),
      Run Stepped Allowed (create started, {}) calls (m, h) →
      (∀ counter, m.counters counter < maximumCounter) →
      validatePipelineMetrics (m.snapshot reading) = .ok () := by
  intro always
  have accepted := always 0 1000000000001 [] _ _ .refl (fun _ => by decide : ∀ _ : Counter, 0 < maximumCounter)
  exact absurd (window_of_accepted accepted) (by decide)

end PipelineMetrics

end DashcamStats.Logger
