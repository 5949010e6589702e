import Praxis.Durable.Transactions
import Praxis.Durable.ReadinessLaws
import Praxis.Durable.Independence
import Praxis.Durable.WakeUps
import Praxis.Durable.MessageLists
import Praxis.Session.FileLock
import Praxis.Session.Parity
import Praxis.Session.MigrationSurvives
import Praxis.Session.StorageAgreement
import Praxis.Session.StartupRecovery
import Praxis.Agent.ContextSelection
import Praxis.Agent.SteerDelivery
import Praxis.Agent.TruncatedTurns
import Praxis.Agent.PairedCalls
import Praxis.Commands.RoutedInvocations
import Praxis.Memory.ExpiredRecords
import Praxis.Memory.FittedSummaries
import Praxis.Review.SkippedItems
import Praxis.Planner.DagSupervision
import Praxis.Planner.MergeTruth
import Praxis.Process.SettledRequests
import Praxis.Durable.RemoteCalls
import Praxis.Durable.GraphCycles
import Praxis.Durable.ExhaustedBudgets
import Praxis.Durable.BundleBindings
import Praxis.Session.FailedAppends
import Praxis.Session.RunRecovery
import Praxis.Session.Replanning
import Praxis.Session.Compaction
import Praxis.Review.BoundAcceptance
import Praxis.Review.EvidenceBudgets
import Praxis.Memory.CompactionBoundaries
import Praxis.Review.ReviewDecisions
