import ReplicaFabric.Safety.SinglePrimary
import ReplicaFabric.Safety.BootFencing
import ReplicaFabric.Safety.Supersession
import ReplicaFabric.Safety.Representation
import ReplicaFabric.Safety.Backing
import ReplicaFabric.Safety.Restorability
import ReplicaFabric.Safety.Recovery
import ReplicaFabric.Safety.Routing
import ReplicaFabric.Safety.LateDisconnect
import ReplicaFabric.Safety.DeadIncarnations
import ReplicaFabric.Safety.Reuse
import ReplicaFabric.Safety.Isolation
import ReplicaFabric.Safety.EpochFencing
import ReplicaFabric.Safety.MessageFencing
import ReplicaFabric.Safety.Impersonation
import ReplicaFabric.Safety.HealthRounds
import ReplicaFabric.Safety.Availability
import ReplicaFabric.Persistence.Checksum
import ReplicaFabric.Safety.Validation
import ReplicaFabric.Safety.Hosting
import ReplicaFabric.Safety.Compatible
import ReplicaFabric.Safety.HealthFencing
import ReplicaFabric.Safety.Grants
import ReplicaFabric.Safety.Selection
import ReplicaFabric.Safety.Frame
import ReplicaFabric.Safety.DrainLog
import ReplicaFabric.Safety.SetLifecycle
import ReplicaFabric.Safety.PolicyGates
import ReplicaFabric.Safety.Provenance
import ReplicaFabric.Safety.Retry
import ReplicaFabric.Safety.HealthLoss
import ReplicaFabric.Safety.Freshness
import ReplicaFabric.Safety.InFlight
import ReplicaFabric.Safety.PromotionLog
import ReplicaFabric.Safety.Results
import ReplicaFabric.Safety.Provisioned
import ReplicaFabric.Safety.Decoding
import ReplicaFabric.Safety.Framing
import ReplicaFabric.Safety.SnapshotReader
import ReplicaFabric.Safety.Identities
import ReplicaFabric.Safety.HardConstraints
import ReplicaFabric.Safety.Diversity
import ReplicaFabric.Safety.Preference
import ReplicaFabric.Safety.DomainKinds
import ReplicaFabric.Safety.IdentityTexts
import ReplicaFabric.Distributed.Payload
import ReplicaFabric.Library.Duplex
import ReplicaFabric.Distributed.Worker
import ReplicaFabric.Distributed.Handlers
import ReplicaFabric.Safety.Uptime
import ReplicaFabric.Safety.Confinement
import ReplicaFabric.Safety.Traffic
import ReplicaFabric.Safety.ResultProvenance
import ReplicaFabric.Safety.BringUp
import ReplicaFabric.Safety.AtMostOnce
import ReplicaFabric.Safety.Wire
import ReplicaFabric.Safety.Alone
import ReplicaFabric.Safety.Addressing
import ReplicaFabric.Safety.Sessions
import ReplicaFabric.Safety.Invocations
import ReplicaFabric.Safety.PlacementCommand
