import DeepOrc.Agent.PeerRoutes
import DeepOrc.Incus.Operations
import DeepOrc.Lib.IpAddress
import DeepOrc.Agent.Egress
import DeepOrc.Lib.Fields
import DeepOrc.Metrics.HostStats
import DeepOrc.Lib.Shell
import DeepOrc.Lib.ShellGrammar
import DeepOrc.Agent.IncusScript
import DeepOrc.Agent.WgDump
import DeepOrc.Lib.Heredoc
import DeepOrc.Lib.ShellLoss
import DeepOrc.CloudInit.GatewayFiles
import DeepOrc.CloudInit.TailscaleEnv
import DeepOrc.Backhaul.ExitEnv
import DeepOrc.Workers.ProvisioningOutcome
import DeepOrc.Lib.Machine
import DeepOrc.Headscale.Registry
import DeepOrc.Headscale.Machine
import DeepOrc.Headscale.NodeOwnership
import DeepOrc.Headscale.ExitNodes
import DeepOrc.Headscale.ExitNodeNames
import DeepOrc.Headscale.ExitRoutes
import DeepOrc.Agent.SuspendChain
import DeepOrc.Lib.Text
import DeepOrc.Lib.Ipv6
import DeepOrc.Lan.Groups
import DeepOrc.Agent.ResumedAddresses
import DeepOrc.Backhaul.Machine
import DeepOrc.Backhaul.Keys
import DeepOrc.Backhaul.Suspension
import DeepOrc.Lib.Leases
import DeepOrc.Allocation.Transactions
import DeepOrc.Allocation.Addresses
import DeepOrc.Incus.AddressReuse
import DeepOrc.Workers.Ledger
import DeepOrc.Workers.Deletions
import DeepOrc.Workers.DeletionStands
import DeepOrc.Workers.GatewayRows
import DeepOrc.Workers.SweepServes
import DeepOrc.Allocation.Operations
import DeepOrc.Allocation.Subnets
import DeepOrc.Allocation.Leaks
import DeepOrc.Lan.Ipam
import DeepOrc.Services.CreationRoutes
import DeepOrc.Services.PeerGroupService
import DeepOrc.Services.WorkerRegistration
import DeepOrc.Services.LanRounds
import DeepOrc.Services.GroupRuns
import DeepOrc.Services.ExitHostSlots
import DeepOrc.Allocation.Batches
import DeepOrc.Allocation.LanAddresses
import DeepOrc.Allocation.BackhaulPeers
import DeepOrc.Allocation.PeerAddresses
import DeepOrc.Lib.Json
import DeepOrc.Agent.Health
import DeepOrc.Backhaul.SuspendedTraffic
import DeepOrc.Lib.Commands
import DeepOrc.ExitHost.Host
import DeepOrc.ExitHost.Cleanup
import DeepOrc.ExitHost.CleanupSafe
import DeepOrc.ExitHost.CleanupFrame
import DeepOrc.Backhaul.Faults
import DeepOrc.Backhaul.Resync
import DeepOrc.Metrics.Egress
import DeepOrc.Metrics.EgressCooldown
import DeepOrc.Metrics.EgressCountry
import DeepOrc.Metrics.GeoCache
import DeepOrc.Registration.Requests
import DeepOrc.Registration.Outcomes
import DeepOrc.Registration.Approvals
import DeepOrc.Web.Views
import DeepOrc.Workers.JobTypes
import DeepOrc.Workers.DeletionRecord
import DeepOrc.Enrollment.Enrollments
import DeepOrc.Enrollment.Usable
import DeepOrc.Enrollment.Sessions
import DeepOrc.Enrollment.Completion
import DeepOrc.Lib.PolicyRouting
import DeepOrc.Lib.PolicyEdits
import DeepOrc.Routing.Script
import DeepOrc.Routing.Leaks
import DeepOrc.Routing.OwnedRules
import DeepOrc.HostSetup.Script
import DeepOrc.HostSetup.Rendering
import DeepOrc.Lib.ShellStatus
import DeepOrc.HostSetup.FailureReports
import DeepOrc.HostSetup.GroupNames
import DeepOrc.HostSetup.Blocks
import DeepOrc.HostSetup.Settled
import DeepOrc.HostSetup.Reversible
import DeepOrc.Services.ExitHostScripts
import DeepOrc.Lib.Processes
import DeepOrc.Routing.Steps
import DeepOrc.Routing.Undisturbed
import DeepOrc.Routing.Firewall
import DeepOrc.Routing.Interleavings
import DeepOrc.Lib.LineFilters
import DeepOrc.Lib.Nftables
import DeepOrc.Agent.Server
import DeepOrc.Lib.JsonText
import DeepOrc.Agent.Remote
import DeepOrc.Agent.RemoteCalls
import DeepOrc.Agent.ListedPeers
