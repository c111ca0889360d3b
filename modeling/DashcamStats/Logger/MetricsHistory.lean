import DashcamStats.Library.Run
import DashcamStats.Logger.PipelineMetrics

namespace DashcamStats.Logger

open Observed

namespace RollingTiming

structure Summarises (r : RollingTiming) (xs : List ℕ) : Prop where
  samples : r.samples = recent 256 xs
  total : r.totalMillis = capped limit xs
  maximum : r.maximumMillis = greatest xs
  bounded : ∀ x ∈ xs, x ≤ limit

theorem empty_summarises : empty.Summarises [] := by
  constructor <;> simp [empty]

variable {r : RollingTiming} {xs : List ℕ}

theorem Summarises.observe (summary : r.Summarises xs) (duration : ℤ) :
    ∃ x, (r.observe duration).Summarises (xs ++ [x]) := by
  refine ⟨(coerceIn duration 0 limit).toNat, ?_⟩
  have range : (coerceIn duration 0 limit).toNat ≤ limit := by
    unfold coerceIn
    split_ifs <;> omega
  constructor
  · simp only [RollingTiming.observe, summary.samples]
    exact (recent_append_trim _ (by omega : 0 < 256)).symm
  · simp only [RollingTiming.observe, summary.total, capped_append]
  · simp only [RollingTiming.observe, summary.maximum, greatest_append]
  · intro x member
    cases List.mem_append.mp member with
    | inl earlier => exact summary.bounded x earlier
    | inr latest => exact List.mem_singleton.mp latest ▸ range

theorem Summarises.length (summary : r.Summarises xs) : r.samples.length = min xs.length 256 := by
  simp [summary.samples]

end RollingTiming

namespace MetricCall

def counted : MetricCall → List Counter
  | .commandRequested _ (some .adapterLocal) => [.commandsRequested, .adapterLocalCommands]
  | .commandRequested _ (some .vehicleBus) => [.commandsRequested, .vehicleBusCommands]
  | .commandRequested _ none => [.commandsRequested]
  | .commandSent _ => [.commandsSent]
  | .commandCompleted _ _ _ => [.commandsCompleted]
  | .commandTimedOut _ => [.commandTimeouts]
  | .commandBlocked => [.commandsBlocked]
  | .connectionAttempted => [.bleConnectionAttempts]
  | .adapterTargetResolved => [.adapterTargetsResolved]
  | .gattConnectionEstablished => [.gattConnectionsEstablished]
  | .notificationSubscriptionEnabled => [.notificationSubscriptionsEnabled]
  | .connectionSucceeded _ _ => [.bleConnectionSuccesses]
  | .connectionFailed => [.bleConnectionFailures]
  | .connectedSessionClosed _ _ => []
  | .voltageReadSucceeded => [.voltageReadsSuccessful]
  | .voltageReadInvalid => [.invalidVoltageResponses]
  | .voltageReadFailed => [.voltageReadsFailed]
  | .notificationReceived => [.notificationsReceived, .notificationFragmentsReceived]
  | .frameAssembled => [.framesAssembled]
  | .parserFailure true => [.parseFailures, .checksumFailures]
  | .parserFailure false => [.parseFailures]
  | .sampleCreated _ => [.samplesCreated]
  | .sampleQueued _ => [.samplesQueued]
  | .samplePersisted _ => [.samplesPersisted]
  | .sampleDropped _ => [.samplesDropped]
  | .databaseWriteFailed _ => [.databaseWriteFailures]
  | .bleDisconnected => [.bleDisconnects]
  | .reconnectAttempted => [.reconnectAttempts]
  | .radioShutdownObserved => [.radioShutdowns]

end MetricCall

namespace PipelineMetrics

variable {m : PipelineMetrics} {n : Counter → ℕ} {h : CallHistory}

def Counts (m : PipelineMetrics) (n : Counter → ℕ) : Prop :=
  ∀ counter, m.counters counter = min (n counter) maximumCounter

theorem Counts.increment (counts : m.Counts n) (counter : Counter) :
    (m.increment counter).Counts fun other => n other + [counter].count other := by
  intro other
  have before := counts other
  by_cases same : counter = other
  · subst same
    simp [PipelineMetrics.increment, before]
    omega
  · have apart : other ≠ counter := fun h => same h.symm
    simp [PipelineMetrics.increment, before, apart, same]

theorem Counts.call (counts : m.Counts n) (call : MetricCall) :
    (m.call call).Counts fun other => n other + call.counted.count other := by
  have twice (first second : Counter) : ((m.increment first).increment second).Counts
      fun other => n other + [first, second].count other := by
    intro other
    have both := (counts.increment first).increment second other
    have split : ([first] ++ [second]).count other = [first].count other + [second].count other :=
      List.count_append
    rw [List.singleton_append] at split
    simp only [both, split, Nat.add_assoc]
  cases call with
  | commandRequested command category =>
    cases category with
    | none => exact counts.increment _
    | some category => cases category <;> exact twice _ _
  | commandCompleted command durationMillis voltageCommand =>
    cases durationMillis <;> exact counts.increment _
  | connectedSessionClosed session durationMillis =>
    intro other
    exact counts other
  | notificationReceived => exact twice _ _
  | parserFailure checksumFailure =>
    cases checksumFailure with
    | true => exact twice _ _
    | false => exact counts.increment _
  | _ => exact counts.increment _

structure Tallied (n : Counter → ℕ) (h : CallHistory) : Prop where
  requested : n .commandsRequested = h.requested.card
  sent : n .commandsSent = h.sent.card
  completed : n .commandsCompleted = h.completed.card
  timedOut : n .commandTimeouts = h.timedOut.card
  connected : n .bleConnectionSuccesses = h.connected.card
  created : n .samplesCreated = h.created.card
  queued : n .samplesQueued = h.queued.card
  settled : n .samplesPersisted + n .samplesDropped ≤ h.settled.card
  adapterLocal : n .adapterLocalCommands ≤ n .commandsRequested
  vehicleBus : n .vehicleBusCommands ≤ n .commandsRequested
  parsed : n .checksumFailures ≤ n .parseFailures

theorem Tallied.record (tallied : Tallied n h) {call : MetricCall} (allowed : h.Allows call) :
    Tallied (fun other => n other + call.counted.count other) (h.record call) := by
  obtain ⟨requested, sent, completed, timedOut, connected, created, queued, settled, adapterLocal,
    vehicleBus, parsed⟩ := tallied
  cases call with
  | commandRequested command category =>
    have card := Finset.card_insert_of_notMem (s := h.requested) allowed
    rcases category with _ | _ | _ <;> constructor <;>
      simp [MetricCall.counted, CallHistory.record] <;> omega
  | commandSent command =>
    have card := Finset.card_insert_of_notMem (s := h.sent) allowed.2
    constructor <;> simp [MetricCall.counted, CallHistory.record] <;> omega
  | commandCompleted command durationMillis voltageCommand =>
    have card := Finset.card_insert_of_notMem (s := h.completed) allowed.2
    constructor <;> simp [MetricCall.counted, CallHistory.record] <;> omega
  | commandTimedOut command =>
    have card := Finset.card_insert_of_notMem (s := h.timedOut) allowed.2
    constructor <;> simp [MetricCall.counted, CallHistory.record] <;> omega
  | connectionSucceeded session durationMillis =>
    have card := Finset.card_insert_of_notMem (s := h.connected) allowed
    constructor <;> simp [MetricCall.counted, CallHistory.record] <;> omega
  | parserFailure checksumFailure =>
    cases checksumFailure <;> constructor <;>
      simp [MetricCall.counted, CallHistory.record] <;> omega
  | sampleCreated sample =>
    have card := Finset.card_insert_of_notMem (s := h.created) allowed
    constructor <;> simp [MetricCall.counted, CallHistory.record] <;> omega
  | sampleQueued sample =>
    have card := Finset.card_insert_of_notMem (s := h.queued) allowed.2
    constructor <;> simp [MetricCall.counted, CallHistory.record] <;> omega
  | samplePersisted sample | sampleDropped sample | databaseWriteFailed sample =>
    have card := Finset.card_insert_of_notMem (s := h.settled) allowed.2
    constructor <;> simp [MetricCall.counted, CallHistory.record] <;> omega
  | _ => constructor <;> simp [MetricCall.counted, CallHistory.record] <;> omega

end PipelineMetrics

namespace CallHistory

structure Ordered (h : CallHistory) : Prop where
  sent : h.sent ⊆ h.requested
  completed : h.completed ⊆ h.sent
  timedOut : h.timedOut ⊆ h.sent
  closed : h.closed ⊆ h.connected
  queued : h.queued ⊆ h.created
  settled : h.settled ⊆ h.queued

variable {h : CallHistory}

theorem ordered_empty : Ordered {} := by
  constructor <;> exact Finset.Subset.refl _

theorem Ordered.record (ordered : h.Ordered) {call : MetricCall} (allowed : h.Allows call) :
    (h.record call).Ordered := by
  obtain ⟨sent, completed, timedOut, closed, queued, settled⟩ := ordered
  have grown {s t : Finset ℕ} (x : ℕ) (inside : s ⊆ t) : s ⊆ insert x t :=
    inside.trans (Finset.subset_insert x t)
  have added {s t : Finset ℕ} {x : ℕ} (member : x ∈ t) (inside : s ⊆ t) : insert x s ⊆ t :=
    Finset.insert_subset member inside
  cases call with
  | commandRequested command category =>
    exact ⟨grown command sent, completed, timedOut, closed, queued, settled⟩
  | commandSent command =>
    exact ⟨added allowed.1 sent, grown command completed, grown command timedOut, closed, queued,
      settled⟩
  | commandCompleted command durationMillis voltageCommand =>
    exact ⟨sent, added allowed.1 completed, timedOut, closed, queued, settled⟩
  | commandTimedOut command =>
    exact ⟨sent, completed, added allowed.1 timedOut, closed, queued, settled⟩
  | connectionSucceeded session durationMillis =>
    exact ⟨sent, completed, timedOut, grown session closed, queued, settled⟩
  | connectedSessionClosed session durationMillis =>
    exact ⟨sent, completed, timedOut, added allowed.1 closed, queued, settled⟩
  | sampleCreated sample =>
    exact ⟨sent, completed, timedOut, closed, grown sample queued, settled⟩
  | sampleQueued sample =>
    exact ⟨sent, completed, timedOut, closed, added allowed.1 queued, grown sample settled⟩
  | samplePersisted sample | sampleDropped sample | databaseWriteFailed sample =>
    exact ⟨sent, completed, timedOut, closed, queued, added allowed.1 settled⟩
  | _ => exact ⟨sent, completed, timedOut, closed, queued, settled⟩

end CallHistory

namespace PipelineMetrics

variable {m : PipelineMetrics} {n : Counter → ℕ} {h : CallHistory}

structure Timed (m : PipelineMetrics) (h : CallHistory) : Prop where
  connection : ∃ xs, m.connectionTiming.Summarises xs ∧ xs.length ≤ h.connected.card
  command : ∃ xs ys, m.commandTiming.Summarises xs ∧ m.voltageCommandTiming.Summarises ys ∧
    xs.length ≤ h.completed.card ∧ ys.length ≤ xs.length
  connected : ∃ xs, m.connectedTiming.Summarises xs ∧ xs.length ≤ h.closed.card

theorem Timed.call (timed : m.Timed h) {call : MetricCall} (allowed : h.Allows call) :
    (m.call call).Timed (h.record call) := by
  obtain ⟨connection, command, connected⟩ := timed
  cases call with
  | connectionSucceeded session durationMillis =>
    obtain ⟨xs, summary, counted⟩ := connection
    obtain ⟨x, observed⟩ := summary.observe durationMillis
    have card := Finset.card_insert_of_notMem (s := h.connected) allowed
    refine ⟨⟨xs ++ [x], observed, ?_⟩, command, connected⟩
    simp only [CallHistory.record, card, List.length_append, List.length_singleton]
    omega
  | connectedSessionClosed session durationMillis =>
    obtain ⟨xs, summary, counted⟩ := connected
    obtain ⟨x, observed⟩ := summary.observe durationMillis
    have card := Finset.card_insert_of_notMem (s := h.closed) allowed.2
    refine ⟨connection, command, xs ++ [x], observed, ?_⟩
    simp only [CallHistory.record, card, List.length_append, List.length_singleton]
    omega
  | commandCompleted id durationMillis voltageCommand =>
    obtain ⟨xs, ys, commands, voltages, counted, fewer⟩ := command
    have card := Finset.card_insert_of_notMem (s := h.completed) allowed.2
    cases durationMillis with
    | none =>
      refine ⟨connection, ⟨xs, ys, commands, voltages, ?_, fewer⟩, connected⟩
      simp only [CallHistory.record, card]
      omega
    | some duration =>
      obtain ⟨x, command⟩ := commands.observe duration
      have counted : (xs ++ [x]).length ≤ (h.record (.commandCompleted id (some duration)
          voltageCommand)).completed.card := by
        simp only [CallHistory.record, card, List.length_append, List.length_singleton]
        omega
      cases voltageCommand with
      | true =>
        obtain ⟨y, voltage⟩ := voltages.observe duration
        exact ⟨connection, ⟨xs ++ [x], ys ++ [y], command, voltage, counted, by simpa using fewer⟩,
          connected⟩
      | false =>
        refine ⟨connection, ⟨xs ++ [x], ys, command, voltages, counted, ?_⟩, connected⟩
        rw [List.length_append, List.length_singleton]
        omega
  | commandRequested id category =>
    rcases category with _ | _ | _ <;> exact ⟨connection, command, connected⟩
  | parserFailure checksumFailure =>
    cases checksumFailure <;> exact ⟨connection, command, connected⟩
  | _ => exact ⟨connection, command, connected⟩

theorem startedAtMillis_call (m : PipelineMetrics) (call : MetricCall) :
    (m.call call).startedAtMillis = m.startedAtMillis := by
  cases call with
  | commandRequested id category => rcases category with _ | _ | _ <;> rfl
  | commandCompleted id durationMillis voltageCommand => cases durationMillis <;> rfl
  | parserFailure checksumFailure => cases checksumFailure <;> rfl
  | _ => rfl

theorem queue_call (queue : m.queueDepth ≤ m.maximumQueueDepth ∧ m.maximumQueueDepth ≤ 1)
    (call : MetricCall) :
    (m.call call).queueDepth ≤ (m.call call).maximumQueueDepth ∧
      (m.call call).maximumQueueDepth ≤ 1 := by
  cases call with
  | commandRequested id category => rcases category with _ | _ | _ <;> exact queue
  | commandCompleted id durationMillis voltageCommand => cases durationMillis <;> exact queue
  | parserFailure checksumFailure => cases checksumFailure <;> exact queue
  | sampleQueued sample =>
    simp only [PipelineMetrics.call, sampleQueued]
    omega
  | samplePersisted sample =>
    simp only [PipelineMetrics.call, samplePersisted, sampleSettled, increment]
    omega
  | sampleDropped sample =>
    simp only [PipelineMetrics.call, sampleDropped, sampleSettled, increment]
    omega
  | databaseWriteFailed sample =>
    simp only [PipelineMetrics.call, databaseWriteFailed, sampleSettled, increment]
    omega
  | _ => exact queue

structure Sound (m : PipelineMetrics) (h : CallHistory) (started : ℤ) : Prop where
  tally : ∃ n, m.Counts n ∧ Tallied n h
  ordered : h.Ordered
  timed : m.Timed h
  queue : m.queueDepth ≤ m.maximumQueueDepth ∧ m.maximumQueueDepth ≤ 1
  start : m.startedAtMillis = long started

theorem create_sound (started : ℤ) : (create started).Sound {} started where
  tally := ⟨fun _ => 0, fun _ => rfl, by constructor <;> simp⟩
  ordered := CallHistory.ordered_empty
  timed := ⟨⟨[], RollingTiming.empty_summarises, le_rfl⟩,
    ⟨[], [], RollingTiming.empty_summarises, RollingTiming.empty_summarises, le_rfl, le_rfl⟩,
    ⟨[], RollingTiming.empty_summarises, le_rfl⟩⟩
  queue := by simp [create]
  start := rfl

def Stepped (s : PipelineMetrics × CallHistory) (call : MetricCall)
    (t : PipelineMetrics × CallHistory) : Prop :=
  t = (s.1.call call, s.2.record call)

def Allowed (s : PipelineMetrics × CallHistory) (call : MetricCall) : Prop := s.2.Allows call

theorem Sound.call {started : ℤ} (sound : m.Sound h started) {call : MetricCall}
    (allowed : h.Allows call) : (m.call call).Sound (h.record call) started where
  tally := by
    obtain ⟨n, counts, tallied⟩ := sound.tally
    exact ⟨_, counts.call call, tallied.record allowed⟩
  ordered := sound.ordered.record allowed
  timed := sound.timed.call allowed
  queue := queue_call sound.queue call
  start := (startedAtMillis_call m call).trans sound.start

theorem run_call {started : ℤ} {calls : List MetricCall}
    (run : Run Stepped Allowed (create started, {}) calls (m, h)) (call : MetricCall)
    (allowed : h.Allows call) :
    Run Stepped Allowed (create started, {}) (calls ++ [call]) (m.call call, h.record call) :=
  run.tail allowed rfl

theorem run_sound {started : ℤ} {calls : List MetricCall}
    (run : Run Stepped Allowed (create started, {}) calls (m, h)) : m.Sound h started :=
  run.invariant (fun s => s.1.Sound s.2 started)
    (fun s call t sound allowed stepped => by
      rw [stepped]
      exact sound.call allowed)
    (create_sound started)

end PipelineMetrics

end DashcamStats.Logger
