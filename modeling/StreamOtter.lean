import StreamOtter.Machine
import StreamOtter.Protocol
import StreamOtter.Budget
import StreamOtter.ServerSubscription
import StreamOtter.ServerRun
import StreamOtter.WireTrace
import StreamOtter.ServerAttempts
import StreamOtter.ServerCapture
import StreamOtter.ServerSafety
import StreamOtter.SyncProtocol
import StreamOtter.SupersededAttempts
import StreamOtter.Termination
import StreamOtter.ClientSubscription
import StreamOtter.ClientListeners
import StreamOtter.ClientDelivery
import StreamOtter.Link
import StreamOtter.ServerWire
import StreamOtter.ClientTracking
import StreamOtter.LiveSoundness
import StreamOtter.StreamClient
import StreamOtter.StreamClientListeners
import StreamOtter.StreamClientSteps
import StreamOtter.StreamClientAdoption
import StreamOtter.IdentityIsolation
import StreamOtter.ClientClosing
import StreamOtter.ConnectionDiscipline
import StreamOtter.RecordClassification
import StreamOtter.RevocationCompleteness
import StreamOtter.FailureStore
import StreamOtter.StoreEquivalence
import StreamOtter.BoundaryChain
import StreamOtter.HeaderCodec
import StreamOtter.Quarantine
import StreamOtter.OperationRetention
import StreamOtter.IncidentPaging
import StreamOtter.MemoryAtomicity
import StreamOtter.ResolutionSafety
import StreamOtter.CircuitBreaker
import StreamOtter.RoutingKeys
import StreamOtter.TraceBuffer
import StreamOtter.ControlRequests
import StreamOtter.BudgetConservation
import StreamOtter.OutageAttempts
import StreamOtter.SnapshotPermits
import StreamOtter.Revisions
import StreamOtter.TextLengths
import StreamOtter.TokenBucket
import StreamOtter.OperatorFraming
import StreamOtter.Rebaseline
import StreamOtter.ConfigRoundTrip
import StreamOtter.KafkaHealth
import StreamOtter.CommitMonotonicity
import StreamOtter.KafkaGroup
import StreamOtter.EvidenceLocation
import StreamOtter.OperatorOperations
import StreamOtter.RedrivePlans
import StreamOtter.FixtureSource
import StreamOtter.RestartReconciliation
import StreamOtter.SourceIsolation
import StreamOtter.WatchedSources
import StreamOtter.GuardRelease
import StreamOtter.TypeExpressions
import StreamOtter.TypeDeclarations
import StreamOtter.TypeGeneration
import StreamOtter.TypeNames
import StreamOtter.IntegerNumerals
import StreamOtter.GeneratedContracts
import StreamOtter.WaiterSet
import StreamOtter.ServerBoundaries
import StreamOtter.ServerInForce
