import Inetmanet.Aodv.ControlPackets
import Inetmanet.Aodv.DuplicateRREQs
import Inetmanet.Aodv.Freshness
import Inetmanet.Aodv.RouteAgeing
import Inetmanet.Arp.PendingPackets
import Inetmanet.Dhcp.LeaseTable
import Inetmanet.Ieee8021d.RSTPBackup
import Inetmanet.Ieee8021d.RSTPSpanningTree
import Inetmanet.Ieee8021d.STPAgeing
import Inetmanet.Ieee8021d.STPHello
import Inetmanet.Igmp.Membership
import Inetmanet.Ipv4.AddressText
import Inetmanet.Ipv4.LocalAddresses
import Inetmanet.Ipv4.RoundTrip
import Inetmanet.Ipv4.RouteRules
import Inetmanet.Ipv6.AddressRoundTrip
import Inetmanet.Ipv6.Reachability
import Inetmanet.Ipv6.RoundTrip
import Inetmanet.Ipv6.RouteOrder
import Inetmanet.Ospf.AgeingRuns
import Inetmanet.Ospf.DelayedAcknowledgements
import Inetmanet.Ospf.RoutingLookup
import Inetmanet.Ospf.TreeNextHops
import Inetmanet.Rip.FullUpdate
import Inetmanet.Rip.RIPDistances
import Inetmanet.Sctp.FragmentsTogether
import Inetmanet.Sctp.SackTotal
import Inetmanet.Sctp.SchedulerPeek
import Inetmanet.Sctp.SimpleGapListRuns
import Inetmanet.Tcp.ByteStreamRcvQueue
import Inetmanet.Tcp.GoBackN
import Inetmanet.Tcp.Handshake
import Inetmanet.Tcp.MsgBasedDelivery
import Inetmanet.Tcp.PipeRuns
import Inetmanet.Tcp.QueueHistories
import Inetmanet.Tcp.SACKArrivals
import Inetmanet.Tcp.SegmentArrival
import Inetmanet.Tcp.ShiftedNewReno
import Inetmanet.Tcp.TransmitHistory
import Inetmanet.Tcp.WindowRuns
import Inetmanet.Tcp.WireRoundTrip
import Inetmanet.Ted.FloodingConvergence
import Inetmanet.Ted.RoutesUpToDate
import Inetmanet.Udp.Demultiplexing
