import PoolPlanner.Binary64.Rounding
import PoolPlanner.Binary64.Shortest
import PoolPlanner.Capacity
import PoolPlanner.Fault
import PoolPlanner.Hook.ClusterConfigRound
import PoolPlanner.Hook.ClusterPlanRound
import PoolPlanner.Hook.PoolClusterRound
import PoolPlanner.Hook.Request
import PoolPlanner.Hook.Round
import PoolPlanner.Hook.StatusUpdate
import PoolPlanner.Hook.StorageSetRound
import PoolPlanner.Hook.Sync
import PoolPlanner.Json.Decoding
import PoolPlanner.Json.Number
import PoolPlanner.Json.Reader
import PoolPlanner.Json.Value
import PoolPlanner.Json.Writer
import PoolPlanner.Ledger.Basic
import PoolPlanner.Ledger.Program
import PoolPlanner.OperatorConfig
import PoolPlanner.Ordering
import PoolPlanner.Planning.Intent
import PoolPlanner.Planning.NodeSelection
import PoolPlanner.Planning.PoolAssembly
import PoolPlanner.Planning.RaidGroups
import PoolPlanner.Planning.Reservations
import PoolPlanner.Planning.SlotMerge
import PoolPlanner.Planning.StorageSets
import PoolPlanner.Proofs.AcceptedPlan
import PoolPlanner.Proofs.Attachments
import PoolPlanner.Proofs.CapacityGrammar
import PoolPlanner.Proofs.ChangedEntries
import PoolPlanner.Proofs.CleanHandOver
import PoolPlanner.Proofs.CleanUp
import PoolPlanner.Proofs.DateTimeText
import PoolPlanner.Proofs.Decoding
import PoolPlanner.Proofs.DiskClaims
import PoolPlanner.Proofs.ExactReservation
import PoolPlanner.Proofs.ExclusiveReservation
import PoolPlanner.Proofs.FailedRounds
import PoolPlanner.Proofs.Fallible
import PoolPlanner.Proofs.FencingTokens
import PoolPlanner.Proofs.FirstPass
import PoolPlanner.Proofs.FirstPlan
import PoolPlanner.Proofs.FirstPoolCluster
import PoolPlanner.Proofs.FirstPools
import PoolPlanner.Proofs.ForeignObjects
import PoolPlanner.Proofs.FullPools
import PoolPlanner.Proofs.Intent
import PoolPlanner.Proofs.Interference
import PoolPlanner.Proofs.LedgerHoldings
import PoolPlanner.Proofs.LedgerPrograms
import PoolPlanner.Proofs.ListingOrder
import PoolPlanner.Proofs.MarkerAgreement
import PoolPlanner.Proofs.MoreAttachments
import PoolPlanner.Proofs.NodeCodec
import PoolPlanner.Proofs.NodeSelection
import PoolPlanner.Proofs.NormalForm
import PoolPlanner.Proofs.ObjectCodec
import PoolPlanner.Proofs.Orchestration
import PoolPlanner.Proofs.Ordering
import PoolPlanner.Proofs.PlanStability
import PoolPlanner.Proofs.PlannedCluster
import PoolPlanner.Proofs.PoolAssembly
import PoolPlanner.Proofs.PoolHosts
import PoolPlanner.Proofs.ReleasingWrites
import PoolPlanner.Proofs.Reservations
import PoolPlanner.Proofs.ResolvedIntent
import PoolPlanner.Proofs.ResourceCodec
import PoolPlanner.Proofs.SelectedNodes
import PoolPlanner.Proofs.SelectorDemands
import PoolPlanner.Proofs.SelectorLaws
import PoolPlanner.Proofs.SettledReservation
import PoolPlanner.Proofs.SharedStatus
import PoolPlanner.Proofs.SlotLayout
import PoolPlanner.Proofs.SlotMerge
import PoolPlanner.Proofs.SlotRounds
import PoolPlanner.Proofs.SlotStability
import PoolPlanner.Proofs.StatusConvergence
import PoolPlanner.Proofs.StatusMerging
import PoolPlanner.Proofs.StatusProgress
import PoolPlanner.Proofs.StorageSetCalls
import PoolPlanner.Proofs.StorageSetConvergence
import PoolPlanner.Proofs.StorageSetEffect
import PoolPlanner.Proofs.StorageSetNames
import PoolPlanner.Proofs.StorageSetPlanning
import PoolPlanner.Proofs.StorageSetReuse
import PoolPlanner.Proofs.StorageSetRun
import PoolPlanner.Proofs.Sync
import PoolPlanner.Proofs.Table
import PoolPlanner.RaidLayout
import PoolPlanner.Resource.BlockDevice
import PoolPlanner.Resource.ClusterConfig
import PoolPlanner.Resource.ClusterPlan
import PoolPlanner.Resource.Definition
import PoolPlanner.Resource.DiskClaim
import PoolPlanner.Resource.Kind
import PoolPlanner.Resource.Metadata
import PoolPlanner.Resource.Node
import PoolPlanner.Resource.NodeStatus
import PoolPlanner.Resource.PoolCluster
import PoolPlanner.Resource.Status
import PoolPlanner.Resource.StorageSet
import PoolPlanner.Selector.Basic
import PoolPlanner.Selector.Evaluation
import PoolPlanner.Server.ListenAddress
import PoolPlanner.Server.MediaType
import PoolPlanner.Server.Metrics
import PoolPlanner.Server.RequestBody
import PoolPlanner.Server.Router
import PoolPlanner.Server.SettingsFile
import PoolPlanner.Table
import PoolPlanner.Text.Blank
import PoolPlanner.Text.Glyphless
import PoolPlanner.Text.Quoted
import PoolPlanner.Time.Calendar
import PoolPlanner.Time.DateTime
import PoolPlanner.Yaml.BlockScalar
import PoolPlanner.Yaml.FlowScalar
import PoolPlanner.Yaml.Node
import PoolPlanner.Yaml.Placed
import PoolPlanner.Yaml.Property
import PoolPlanner.Yaml.Reader
import PoolPlanner.Yaml.Token
import PoolPlanner.Yaml.TokenSequence
