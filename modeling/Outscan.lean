import Outscan.Library.Table
import Outscan.Library.Transaction
import Outscan.Library.Run
import Outscan.ScanProtocol.ResultCommit
import Outscan.ScannerOutput.Projection
import Outscan.Target.Hostname
import Outscan.GuestCrypto.ResultToken
import Outscan.GuestIdempotency.Decide
import Outscan.Lifecycle.Refinement
import Outscan.Quota.Reserve
import Outscan.Creation.Admission
import Outscan.Lifecycle.Retention
import Outscan.Lifecycle.Calls
import Outscan.Lifecycle.Shape
import Outscan.Lifecycle.Acceptance
import Outscan.Lifecycle.Fencing
import Outscan.Quota.Conservation
import Outscan.Quota.Slots
import Outscan.Lifecycle.References
import Outscan.Lifecycle.Writes
import Outscan.Lifecycle.Agreement
import Outscan.ScannerIpc.Frame
import Outscan.ScannerIpc.Read
import Outscan.Library.Hex
import Outscan.Library.Record
import Outscan.Library.SelfDelimiting
import Outscan.ResultEnvelope.Codec
import Outscan.ResultEnvelope.Verify
import Outscan.ResultEnvelope.Sign
import Outscan.ResultEnvelope.Binding
import Outscan.GuestTelemetry.Runtime
import Outscan.GuestTelemetry.Conservation
import Outscan.GuestTelemetry.Scheduler
import Outscan.GuestTelemetry.Store
import Outscan.Library.IpAddress
import Outscan.Target.IpPolicy
import Outscan.Target.AddressLiteral
import Outscan.Target.DestinationPolicy
import Outscan.Library.Dialogue
import Outscan.Target.PinnedRequest
import Outscan.Target.Resolver
import Outscan.Target.SafeHttpFlow
import Outscan.Target.FlowSafety
import Outscan.GuestQueue.Heartbeat
import Outscan.GuestQueue.Standing
import Outscan.GuestQueue.HeartbeatRuns
import Outscan.Lifecycle.Transitions
import Outscan.Quota.Windows
import Outscan.Creation.Replay
import Outscan.Lifecycle.Closing
import Outscan.Creation.Progress
import Outscan.Quota.Policy
import Outscan.Creation.Expired
import Outscan.Creation.Admits
import Outscan.Creation.Reorder
import Outscan.GuestAbuse.NetworkAddress
import Outscan.GuestAbuse.TrustedIngress
import Outscan.GuestCrypto.GuestSession
import Outscan.GuestCrypto.GuestSessionHttp
import Outscan.GuestAbuse.NetworkSignal
import Outscan.GuestScan.RequestHash
import Outscan.Notifications.Idempotency
import Outscan.Notifications.TelegramSecurity
import Outscan.GuestCrypto.DomainSeparation
import Outscan.Target.PinAgreement
import Outscan.GuestScanner.Headers
import Outscan.GuestScanner.SecurityTxt
import Outscan.ScannerPolicy.Validate
import Outscan.GuestScanner.Bounded
import Outscan.GuestScanner.ByteBudget
import Outscan.Persistence.Committer
import Outscan.Persistence.ResultRejection
import Outscan.GuestQueue.Rejection
import Outscan.Target.PinnedTransport
import Outscan.Target.TransportMachine
import Outscan.GuestCrypto.ResultAccess
import Outscan.GuestHttp.Faithful
import Outscan.Library.Json.Grammar
import Outscan.Library.Json.Reading
import Outscan.ScannerOutput.JsonKeys
import Outscan.GuestCrypto.TokenMessage
import Outscan.GuestAbuse.CidrText
import Outscan.GuestAbuse.SignalKeyring
import Outscan.Lifecycle.LeaseWait
import Outscan.GuestRetention.Record
import Outscan.GuestRetention.Runtime
import Outscan.GuestRetention.Storable
import Outscan.Creation.PureAdmission
import Outscan.Lifecycle.Retries
import Outscan.GuestQueue.Context
import Outscan.Supervisor.Process
import Outscan.Supervisor.Runs
import Outscan.Capabilities.Projection
import Outscan.Db.Migrate
import Outscan.Db.MigrateHistory
import Outscan.GuestAbuse.AddressText
import Outscan.GuestScanner.SecurityTxtLayout
import Outscan.Notifications.Delivery
import Outscan.Notifications.DeliveryOrder
import Outscan.Notifications.Recipients
import Outscan.GuestHttp.CreationAgreement
import Outscan.Library.Grouping
import Outscan.YandexMetrika.Attempts
import Outscan.YandexMetrika.Candidates
import Outscan.YandexMetrika.Complete
import Outscan.GuestScanner.Report
import Outscan.Supervisor.Ingress
import Outscan.GuestScan.ReadRecord
import Outscan.Persistence.ResultRow
import Outscan.GuestHttp.RawHeaders
import Outscan.GuestHttp.ResultRoute
import Outscan.Library.Expiring
import Outscan.GuestHttp.SessionRoute
import Outscan.GuestQueue.Processor
import Outscan.Library.Stamped
import Outscan.Supervisor.OfflineContainer
import Outscan.TrustedFiles.Keyrings
import Outscan.GuestRetention.Audit
import Outscan.GuestRetention.Scheduler
