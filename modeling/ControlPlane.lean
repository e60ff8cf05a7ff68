import ControlPlane.Main
import ControlPlane.Table.Entry
import ControlPlane.Text.Decimal
import ControlPlane.Proofs.KeyMap
import ControlPlane.Proofs.Runs
import ControlPlane.Proofs.Alloc.IndexPool
import ControlPlane.Proofs.Alloc.SpanPool
import ControlPlane.Proofs.Alloc.FirstFit
import ControlPlane.Proofs.Alloc.NextFit
import ControlPlane.Proofs.Alloc.Reuse
import ControlPlane.Proofs.Routing.Intact
import ControlPlane.Proofs.Device.Refusals
import ControlPlane.Proofs.Routing.Changes
import ControlPlane.Proofs.Routing.Operations
import ControlPlane.Proofs.Routing.Requests
import ControlPlane.Proofs.Routing.View
import ControlPlane.Proofs.Kernel.Reroute
import ControlPlane.Proofs.Kernel.Books
import ControlPlane.Proofs.Kernel.Steps
import ControlPlane.Proofs.Kernel.Effects
import ControlPlane.Proofs.Kernel.Neighbors
import ControlPlane.Proofs.Kernel.Events
import ControlPlane.Proofs.Kernel.Settling
import ControlPlane.Proofs.Kernel.HostRoutes
import ControlPlane.Proofs.Kernel.Gateways
import ControlPlane.Proofs.Kernel.Waiting
import ControlPlane.Proofs.Kernel.Coverage
import ControlPlane.Proofs.Kernel.HostAddresses
import ControlPlane.Proofs.Kernel.Announcements
import ControlPlane.Proofs.Kernel.Stations
import ControlPlane.Proofs.Kernel.Picture
import ControlPlane.Proofs.Operation
import ControlPlane.Proofs.Device.Pool
import ControlPlane.Proofs.Device.Exchanges
import ControlPlane.Proofs.Device.Transfers
import ControlPlane.Proofs.Device.MemoryBus
import ControlPlane.Proofs.Device.Reach
import ControlPlane.Proofs.Packet.Layout
import ControlPlane.Proofs.Packet.Buffers
import ControlPlane.Proofs.Packet.Sending
import ControlPlane.Proofs.Packet.Receiving
import ControlPlane.Proofs.Packet.HandOff
import ControlPlane.Proofs.Packet.Sharing
import ControlPlane.Proofs.Table.Sites
import ControlPlane.Proofs.Table.Reflection
import ControlPlane.Proofs.Table.Overlaps
import ControlPlane.Proofs.Table.Codecs
import ControlPlane.Proofs.Table.Residue
import ControlPlane.Proofs.Table.Totality
import ControlPlane.Proofs.Table.Prefixes
import ControlPlane.Proofs.Routing.Commands
import ControlPlane.Proofs.Routing.Entries
import ControlPlane.Proofs.Forwarding.Vlans
import ControlPlane.Proofs.Forwarding.Commands
import ControlPlane.Proofs.Forwarding.StationKeys
import ControlPlane.Proofs.Switch.Records
import ControlPlane.Proofs.Switch.Reflects
import ControlPlane.Proofs.Switch.Bridging
import ControlPlane.Proofs.Switch.Runs
import ControlPlane.Proofs.Switch.Mirror
import ControlPlane.Proofs.Switch.SharedSlots
import ControlPlane.Proofs.Switch.BridgeTables
import ControlPlane.Proofs.Switch.GroupTables
import ControlPlane.Proofs.Switch.FailedCreations
import ControlPlane.Proofs.Switch.FailedRequests
import ControlPlane.Proofs.Switch.RouteTable
import ControlPlane.Proofs.Switch.RouteSlots
import ControlPlane.Proofs.Switch.RouteMap
import ControlPlane.Proofs.Switch.VlanMap
import ControlPlane.Proofs.Switch.Lanes
import ControlPlane.Proofs.Switch.LinkPolls
import ControlPlane.Proofs.Kernel.Orders
import ControlPlane.Proofs.Kernel.Repeats
import ControlPlane.Proofs.Kernel.NeighborStations
import ControlPlane.Proofs.Kernel.Coherence
import ControlPlane.Proofs.Forwarding.StationMap
import ControlPlane.Proofs.Forwarding.Buckets
import ControlPlane.Proofs.Kernel.FailedEvents
import ControlPlane.Proofs.Kernel.AddressRemoval
import ControlPlane.Proofs.Kernel.Listening
import ControlPlane.Proofs.Kernel.Watching
import ControlPlane.Proofs.Switch.Widths
import ControlPlane.Proofs.Switch.Telling
import ControlPlane.Proofs.Text.Numerals
import ControlPlane.Proofs.Text.Cuts
import ControlPlane.Proofs.Panel.Names
import ControlPlane.Proofs.Table.Words
import ControlPlane.Proofs.MacAddr
import ControlPlane.Proofs.Scripts
