import DashcamStats.Logger.PollTiming

namespace DashcamStats.Logger

open DashcamStats.Bundle (Json Members)

structure RollingTiming where
  samples : List ℕ
  totalMillis : ℕ
  maximumMillis : ℕ

namespace RollingTiming

def empty : RollingTiming := { samples := [], totalMillis := 0, maximumMillis := 0 }

def limit : ℕ := 1000000000000

def observe (r : RollingTiming) (durationMillis : ℤ) : RollingTiming :=
  let bounded := (coerceIn durationMillis 0 limit).toNat
  let samples := r.samples ++ [bounded]
  { samples := if 256 < samples.length then samples.tail else samples
    totalMillis := min (r.totalMillis + bounded) limit
    maximumMillis := max r.maximumMillis bounded }

-- The median of the sorted samples, in the arithmetic of `Double`.
def median (samples : List ℕ) : Option ℚ :=
  if samples.length = 0 then none
  else if samples.length % 2 = 1 then
    some (Binary64.round (Observed.ranked samples (samples.length / 2)))
  else
    let lower := Binary64.round (Observed.ranked samples (samples.length / 2 - 1))
    let upper := Binary64.round (Observed.ranked samples (samples.length / 2))
    some (Binary64.round (Binary64.round (lower + upper) / 2))

-- What `toJson` writes of the summary of one timing.
def members (r : RollingTiming) (name : String) : Members :=
  [(name ++ "_samples", .int r.samples.length)] ++
    (match median r.samples with
    | some q => [("median_" ++ name ++ "_ms", Json.double q)]
    | none => []) ++
    [("maximum_" ++ name ++ "_ms", .int r.maximumMillis),
      ("total_" ++ name ++ "_ms", .int r.totalMillis)]

end RollingTiming

inductive Counter
  | commandsRequested | commandsBlocked | commandsSent | commandsCompleted | commandTimeouts
  | adapterLocalCommands | vehicleBusCommands | bleConnectionAttempts | adapterTargetsResolved
  | gattConnectionsEstablished | notificationSubscriptionsEnabled | bleConnectionSuccesses
  | bleConnectionFailures | voltageReadsSuccessful | voltageReadsFailed | invalidVoltageResponses
  | notificationsReceived | notificationFragmentsReceived | framesAssembled | checksumFailures
  | parseFailures | samplesCreated | samplesQueued | samplesPersisted | samplesDropped
  | databaseWriteFailures | bleDisconnects | reconnectAttempts | radioShutdowns
  deriving DecidableEq

namespace Counter

-- The keys of `counters`, in its order.
def all : List Counter :=
  [commandsRequested, commandsBlocked, commandsSent, commandsCompleted, commandTimeouts,
    adapterLocalCommands, vehicleBusCommands, bleConnectionAttempts, adapterTargetsResolved,
    gattConnectionsEstablished, notificationSubscriptionsEnabled, bleConnectionSuccesses,
    bleConnectionFailures, voltageReadsSuccessful, voltageReadsFailed, invalidVoltageResponses,
    notificationsReceived, notificationFragmentsReceived, framesAssembled, checksumFailures,
    parseFailures, samplesCreated, samplesQueued, samplesPersisted, samplesDropped,
    databaseWriteFailures, bleDisconnects, reconnectAttempts, radioShutdowns]

def name : Counter → String
  | commandsRequested => "commands_requested"
  | commandsBlocked => "commands_blocked"
  | commandsSent => "commands_sent"
  | commandsCompleted => "commands_completed"
  | commandTimeouts => "command_timeouts"
  | adapterLocalCommands => "adapter_local_commands"
  | vehicleBusCommands => "vehicle_bus_commands"
  | bleConnectionAttempts => "ble_connection_attempts"
  | adapterTargetsResolved => "adapter_targets_resolved"
  | gattConnectionsEstablished => "gatt_connections_established"
  | notificationSubscriptionsEnabled => "notification_subscriptions_enabled"
  | bleConnectionSuccesses => "ble_connection_successes"
  | bleConnectionFailures => "ble_connection_failures"
  | voltageReadsSuccessful => "voltage_reads_successful"
  | voltageReadsFailed => "voltage_reads_failed"
  | invalidVoltageResponses => "invalid_voltage_responses"
  | notificationsReceived => "notifications_received"
  | notificationFragmentsReceived => "notification_fragments_received"
  | framesAssembled => "frames_assembled"
  | checksumFailures => "checksum_failures"
  | parseFailures => "parse_failures"
  | samplesCreated => "samples_created"
  | samplesQueued => "samples_queued"
  | samplesPersisted => "samples_persisted"
  | samplesDropped => "samples_dropped"
  | databaseWriteFailures => "database_write_failures"
  | bleDisconnects => "ble_disconnects"
  | reconnectAttempts => "reconnect_attempts"
  | radioShutdowns => "radio_shutdowns"

end Counter

inductive ElmCommandCategory
  | adapterLocal
  | vehicleBus
  deriving DecidableEq

structure PipelineMetrics where
  startedAtMillis : ℤ
  counters : Counter → ℕ
  connectionTiming : RollingTiming
  commandTiming : RollingTiming
  voltageCommandTiming : RollingTiming
  connectedTiming : RollingTiming
  queueDepth : ℕ
  maximumQueueDepth : ℕ

namespace PipelineMetrics

-- `maximumCounter`, at the default that every caller leaves it at.
def maximumCounter : ℕ := 2 ^ 31 - 1

def create (reading : ℤ) : PipelineMetrics :=
  { startedAtMillis := long reading
    counters := fun _ => 0
    connectionTiming := .empty
    commandTiming := .empty
    voltageCommandTiming := .empty
    connectedTiming := .empty
    queueDepth := 0
    maximumQueueDepth := 0 }

def increment (m : PipelineMetrics) (counter : Counter) : PipelineMetrics :=
  { m with
    counters :=
      Function.update m.counters counter (min (m.counters counter + 1) maximumCounter) }

def commandRequested (m : PipelineMetrics) (category : Option ElmCommandCategory) :
    PipelineMetrics :=
  match category with
  | some .adapterLocal => (m.increment .commandsRequested).increment .adapterLocalCommands
  | some .vehicleBus => (m.increment .commandsRequested).increment .vehicleBusCommands
  | none => m.increment .commandsRequested

def commandCompleted (m : PipelineMetrics) (durationMillis : Option ℤ) (voltageCommand : Bool) :
    PipelineMetrics :=
  match durationMillis with
  | none => m.increment .commandsCompleted
  | some duration =>
    { m.increment .commandsCompleted with
      commandTiming := m.commandTiming.observe duration
      voltageCommandTiming :=
        if voltageCommand then m.voltageCommandTiming.observe duration
        else m.voltageCommandTiming }

def connectionSucceeded (m : PipelineMetrics) (durationMillis : ℤ) : PipelineMetrics :=
  { m.increment .bleConnectionSuccesses with
    connectionTiming := m.connectionTiming.observe durationMillis }

def connectedSessionClosed (m : PipelineMetrics) (durationMillis : ℤ) : PipelineMetrics :=
  { m with connectedTiming := m.connectedTiming.observe durationMillis }

def notificationReceived (m : PipelineMetrics) : PipelineMetrics :=
  (m.increment .notificationsReceived).increment .notificationFragmentsReceived

def parserFailure (m : PipelineMetrics) (checksumFailure : Bool) : PipelineMetrics :=
  if checksumFailure then (m.increment .parseFailures).increment .checksumFailures
  else m.increment .parseFailures

def sampleQueued (m : PipelineMetrics) : PipelineMetrics :=
  let queueDepth := min (m.queueDepth + 1) 1
  { m.increment .samplesQueued with
    queueDepth
    maximumQueueDepth := max m.maximumQueueDepth queueDepth }

-- `samplePersisted`, `sampleDropped` and `databaseWriteFailed`.
def sampleSettled (m : PipelineMetrics) (counter : Counter) : PipelineMetrics :=
  { m.increment counter with queueDepth := m.queueDepth - 1 }

def samplePersisted (m : PipelineMetrics) : PipelineMetrics := m.sampleSettled .samplesPersisted
def sampleDropped (m : PipelineMetrics) : PipelineMetrics := m.sampleSettled .samplesDropped
def databaseWriteFailed (m : PipelineMetrics) : PipelineMetrics :=
  m.sampleSettled .databaseWriteFailures

-- `observationWindowMillis`
def observationWindow (m : PipelineMetrics) (reading : ℤ) : ℤ :=
  max (long (long reading - m.startedAtMillis)) 1

-- `pollingDutyCyclePercent`, in the arithmetic of `Double`.
def dutyCycle (m : PipelineMetrics) (reading : ℤ) : ℚ :=
  let percent := Binary64.round
    (Binary64.round (Binary64.round m.connectedTiming.totalMillis /
      Binary64.round (m.observationWindow reading)) * 100)
  if percent < 0 then 0 else if 100 < percent then 100 else percent

-- What `toJson` writes before the timings.
def counterMembers (m : PipelineMetrics) (reading : ℤ) : Members :=
  (Counter.all.map fun counter => (counter.name, .int (m.counters counter))) ++
    [("queue_depth", .int m.queueDepth),
      ("maximum_queue_depth", .int m.maximumQueueDepth),
      ("observation_window_ms", .int (m.observationWindow reading)),
      ("polling_duty_cycle_percent", .double (m.dutyCycle reading))]

-- `snapshot().toJson()`
def snapshot (m : PipelineMetrics) (reading : ℤ) : Members :=
  m.counterMembers reading ++
    (m.connectionTiming.members "connection_time" ++
      (m.commandTiming.members "command_response_time" ++
        (m.voltageCommandTiming.members "voltage_response_time" ++
          m.connectedTiming.members "connected_time")))

end PipelineMetrics

/-- The calls of `PipelineMetrics`, with the identity of what they are about. -/
inductive MetricCall
  | commandRequested (command : ℕ) (category : Option ElmCommandCategory)
  | commandSent (command : ℕ)
  | commandCompleted (command : ℕ) (durationMillis : Option ℤ) (voltageCommand : Bool)
  | commandTimedOut (command : ℕ)
  | commandBlocked
  | connectionAttempted
  | adapterTargetResolved
  | gattConnectionEstablished
  | notificationSubscriptionEnabled
  | connectionSucceeded (session : ℕ) (durationMillis : ℤ)
  | connectionFailed
  | connectedSessionClosed (session : ℕ) (durationMillis : ℤ)
  | voltageReadSucceeded
  | voltageReadInvalid
  | voltageReadFailed
  | notificationReceived
  | frameAssembled
  | parserFailure (checksumFailure : Bool)
  | sampleCreated (sample : ℕ)
  | sampleQueued (sample : ℕ)
  | samplePersisted (sample : ℕ)
  | sampleDropped (sample : ℕ)
  | databaseWriteFailed (sample : ℕ)
  | bleDisconnected
  | reconnectAttempted
  | radioShutdownObserved
  deriving DecidableEq

namespace PipelineMetrics

def call (m : PipelineMetrics) : MetricCall → PipelineMetrics
  | .commandRequested _ category => m.commandRequested category
  | .commandSent _ => m.increment .commandsSent
  | .commandCompleted _ durationMillis voltageCommand =>
    m.commandCompleted durationMillis voltageCommand
  | .commandTimedOut _ => m.increment .commandTimeouts
  | .commandBlocked => m.increment .commandsBlocked
  | .connectionAttempted => m.increment .bleConnectionAttempts
  | .adapterTargetResolved => m.increment .adapterTargetsResolved
  | .gattConnectionEstablished => m.increment .gattConnectionsEstablished
  | .notificationSubscriptionEnabled => m.increment .notificationSubscriptionsEnabled
  | .connectionSucceeded _ durationMillis => m.connectionSucceeded durationMillis
  | .connectionFailed => m.increment .bleConnectionFailures
  | .connectedSessionClosed _ durationMillis => m.connectedSessionClosed durationMillis
  | .voltageReadSucceeded => m.increment .voltageReadsSuccessful
  | .voltageReadInvalid => m.increment .invalidVoltageResponses
  | .voltageReadFailed => m.increment .voltageReadsFailed
  | .notificationReceived => m.notificationReceived
  | .frameAssembled => m.increment .framesAssembled
  | .parserFailure checksumFailure => m.parserFailure checksumFailure
  | .sampleCreated _ => m.increment .samplesCreated
  | .sampleQueued _ => m.sampleQueued
  | .samplePersisted _ => m.samplePersisted
  | .sampleDropped _ => m.sampleDropped
  | .databaseWriteFailed _ => m.databaseWriteFailed
  | .bleDisconnected => m.increment .bleDisconnects
  | .reconnectAttempted => m.increment .reconnectAttempts
  | .radioShutdownObserved => m.increment .radioShutdowns

end PipelineMetrics

structure CallHistory where
  requested : Finset ℕ := ∅
  sent : Finset ℕ := ∅
  completed : Finset ℕ := ∅
  timedOut : Finset ℕ := ∅
  connected : Finset ℕ := ∅
  closed : Finset ℕ := ∅
  created : Finset ℕ := ∅
  queued : Finset ℕ := ∅
  settled : Finset ℕ := ∅

namespace CallHistory

def Allows (h : CallHistory) : MetricCall → Prop
  | .commandRequested command _ => command ∉ h.requested
  | .commandSent command => command ∈ h.requested ∧ command ∉ h.sent
  | .commandCompleted command _ _ => command ∈ h.sent ∧ command ∉ h.completed
  | .commandTimedOut command => command ∈ h.sent ∧ command ∉ h.timedOut
  | .connectionSucceeded session _ => session ∉ h.connected
  | .connectedSessionClosed session _ => session ∈ h.connected ∧ session ∉ h.closed
  | .sampleCreated sample => sample ∉ h.created
  | .sampleQueued sample => sample ∈ h.created ∧ sample ∉ h.queued
  | .samplePersisted sample | .sampleDropped sample | .databaseWriteFailed sample =>
    sample ∈ h.queued ∧ sample ∉ h.settled
  | _ => True

def record (h : CallHistory) : MetricCall → CallHistory
  | .commandRequested command _ => { h with requested := insert command h.requested }
  | .commandSent command => { h with sent := insert command h.sent }
  | .commandCompleted command _ _ => { h with completed := insert command h.completed }
  | .commandTimedOut command => { h with timedOut := insert command h.timedOut }
  | .connectionSucceeded session _ => { h with connected := insert session h.connected }
  | .connectedSessionClosed session _ => { h with closed := insert session h.closed }
  | .sampleCreated sample => { h with created := insert sample h.created }
  | .sampleQueued sample => { h with queued := insert sample h.queued }
  | .samplePersisted sample | .sampleDropped sample | .databaseWriteFailed sample =>
    { h with settled := insert sample h.settled }
  | _ => h

end CallHistory

end DashcamStats.Logger
