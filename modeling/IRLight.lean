import IRLight.Interleaving.Program
import IRLight.Interleaving.Pool
import IRLight.Interleaving.Contract
import IRLight.Python
import IRLight.Session.Record
import IRLight.Session.Store
import IRLight.Session.Effects
import IRLight.Session.Lifecycle
import IRLight.Session.Occupancy
import IRLight.ControlPlane.Authorities
import IRLight.ControlPlane.Operations
import IRLight.ControlPlane.Workflow
import IRLight.ControlPlane.Reaper
import IRLight.ControlPlane.Api
import IRLight.ControlPlane.NodeApi
import IRLight.ControlPlane.System
import IRLight.ControlPlane.Discipline
import IRLight.ControlPlane.Conduct
import IRLight.ControlPlane.Obedience
import IRLight.ControlPlane.Programs
import IRLight.Theorems.Provisioner
import IRLight.Theorems.LosingPrepare
import IRLight.Theorems.Capacity
import IRLight.ControlPlane.Cleanups
import IRLight.ControlPlane.Failures
import IRLight.ControlPlane.Sweeps
import IRLight.ControlPlane.Upkeep
import IRLight.Interleaving.Solo
import IRLight.Theorems.CleanupLeases
import IRLight.Theorems.CredentialLife
import IRLight.Theorems.Handshake
import IRLight.Theorems.Heartbeat
import IRLight.Theorems.RecordLife
import IRLight.Theorems.SweepIsolation
import IRLight.ControlPlane.Bindings
import IRLight.ControlPlane.Callers
import IRLight.ControlPlane.Registry
import IRLight.ControlPlane.RegistryLock
import IRLight.Theorems.Bootstrap
import IRLight.Theorems.NodeBinding
import IRLight.Theorems.NodeFencing
import IRLight.Collections.Dict
import IRLight.Collections.FinalChain
import IRLight.Continuity.State
import IRLight.Destinations.Catalog
import IRLight.Destinations.Verification
import IRLight.Egress.Attempt
import IRLight.Egress.Gateway
import IRLight.IngestAuth.AuthCache
import IRLight.IngestAuth.Authorize
import IRLight.IngestAuth.Proxy
import IRLight.IngestAuth.ProxyRuns
import IRLight.IngestAuth.Window
import IRLight.Interleaving.Alone
import IRLight.Session.EventPage
import IRLight.Theorems.AudioCommands
import IRLight.Theorems.ContinuityTrace
import IRLight.Theorems.DestinationVerification
import IRLight.Theorems.EgressCadence
import IRLight.Theorems.EventPaging
import IRLight.Theorems.FallbackStaleness
import IRLight.Theorems.GuardWindow
import IRLight.Theorems.HoldRecovery
import IRLight.Theorems.LaterDenial
import IRLight.Theorems.PrepareBinding
import IRLight.Theorems.ResourceOwnership
import IRLight.Assets.ImageHeader
import IRLight.Assets.Processing
import IRLight.Assets.Standby
import IRLight.ControlPlane.RateLimit
import IRLight.Egress.AttemptSupervisor
import IRLight.Egress.IsolatedAttempt
import IRLight.IngestAuth.CredentialStore
import IRLight.Theorems.ChildSupervision
import IRLight.Theorems.CredentialStore
import IRLight.Theorems.Overtaking
import IRLight.Theorems.RateLimit
import IRLight.Theorems.RetryDelay
import IRLight.Theorems.StandbyImages
import IRLight.ControlPlane.BodyLimit
import IRLight.ControlPlane.ClientAddress
import IRLight.Formats.Template
import IRLight.Formats.Url
import IRLight.Theorems.BodyLimit
import IRLight.Theorems.ClientAddress
import IRLight.Collections.Splits
import IRLight.Destinations.EgressDestination
import IRLight.Destinations.SrtProbe
import IRLight.Formats.UrlJoin
import IRLight.Interleaving.Amid
import IRLight.NodeAgent.IngestPolicy
import IRLight.Provider.Pagination
import IRLight.Theorems.EgressUrl
import IRLight.Theorems.GatewayOutcome
import IRLight.Theorems.IngestBitrate
import IRLight.Theorems.LivenessWindow
import IRLight.Theorems.Pagination
import IRLight.Theorems.PipelineLatch
import IRLight.Theorems.SinkPoll
import IRLight.Theorems.SrtParameters
import IRLight.Collections.SlidingWindow
import IRLight.Collections.Worklist
import IRLight.ControlPlane.Beats
import IRLight.ControlPlane.EventPayload
import IRLight.ControlPlane.JsonlSafety
import IRLight.ControlPlane.Reconcile
import IRLight.Destinations.SrtStderr
import IRLight.Theorems.EventPayload
import IRLight.Theorems.JpegHeader
import IRLight.Theorems.JsonlReaders
import IRLight.Theorems.ProviderReconcile
import IRLight.Theorems.SrtMarker
import IRLight.Assets.Catalog
import IRLight.ControlPlane.RateLimitShard
import IRLight.Theorems.AssetLifecycle
import IRLight.Theorems.RateLimitShard
import IRLight.ControlPlane.NodeDocument
import IRLight.ControlPlane.NodeHandlers
import IRLight.ControlPlane.NodeRecords
import IRLight.ControlPlane.NodeReports
import IRLight.Theorems.NodeDocument
import IRLight.NodeAgent.MediaStop
import IRLight.Theorems.MediaStop
import IRLight.Continuity.ControlState
import IRLight.ControlPlane.AuthStore
import IRLight.ControlPlane.AuthTransactions
import IRLight.Theorems.AuthAccounts
import IRLight.Theorems.AuthSessions
import IRLight.Theorems.ControlCommands
import IRLight.Theorems.SessionGc
import IRLight.ControlPlane.EntitlementStore
import IRLight.Destinations.SecretStore
import IRLight.Interleaving.Observe
import IRLight.Theorems.DestinationSecrets
import IRLight.Theorems.Entitlements
import IRLight.Theorems.SweepDecisions
