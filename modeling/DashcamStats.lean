import DashcamStats.Osd.ReadBack
import DashcamStats.Pipeline.TelemetryQuality
import DashcamStats.Osd.Locate
import DashcamStats.Geometry.Simplify
import DashcamStats.Queue.Attempts
import DashcamStats.Queue.Rebuilt
import DashcamStats.Workers.Exclusion
import DashcamStats.Ingest.Adoption
import DashcamStats.Ingest.Settlement
import DashcamStats.Ingest.SingleOwner
import DashcamStats.Transfer.Tombstone
import DashcamStats.Bundle.History
import DashcamStats.Logger.PollAgreement
import DashcamStats.Logger.MetricsAgreement
import DashcamStats.Logger.CalculationAgreement
import DashcamStats.Clips.PairGate
import DashcamStats.Parked.Omission
import DashcamStats.Parked.GuardAgreement
import DashcamStats.Events.Counts
import DashcamStats.Quiesce.Cleanup
import DashcamStats.Sleep.Awake
import DashcamStats.Sleep.Continuity
import DashcamStats.Status.Estimate
import DashcamStats.Quiesce.Lease
import DashcamStats.Duplicates.Kept
import DashcamStats.Footage.Convergence
import DashcamStats.Scanner.Missing
import DashcamStats.Drives.Life
import DashcamStats.Drives.Rearmed
import DashcamStats.Elm.Agreement
import DashcamStats.Migration.Committed
import DashcamStats.Auth.Passwords
import DashcamStats.Settings.Agreement
import DashcamStats.Pipeline.Dependents
import DashcamStats.Restore.Exact
import DashcamStats.Pictures.Owned
import DashcamStats.Indexing.Judged
import DashcamStats.Scheduling.Notified
import DashcamStats.Inference.Lanes
import DashcamStats.Events.Retained
import DashcamStats.Hardware.Slot
import DashcamStats.UnitLogs.Faithful
import DashcamStats.UnitLogs.Collected
import DashcamStats.Radios.Disarmed
import DashcamStats.Journeys.Coverage
import DashcamStats.Journeys.Measure
import DashcamStats.Journeys.Sentinels
import DashcamStats.Retention.Permitted
import DashcamStats.Temperature.Identities
import DashcamStats.Ble.Attributed
import DashcamStats.Reconciliation.Settled
import DashcamStats.Tracking.Runs
import DashcamStats.Plates.Agreement
import DashcamStats.Indexing.Undone
import DashcamStats.Transfer.Committed
import DashcamStats.Auth.Answered
import DashcamStats.Reconciliation.Enumerated
import DashcamStats.Obd.CountedOnce
import DashcamStats.Elm.ReadOnly
import DashcamStats.Motion.Accounted
import DashcamStats.Auth.Ratelimit
import DashcamStats.Logger.Coordinator
import DashcamStats.Clips.QuietRetry
import DashcamStats.Logging.Sink
import DashcamStats.Obd.Charted
import DashcamStats.Logger.LivePoll
