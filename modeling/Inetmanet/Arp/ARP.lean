import Inetmanet.Ipv4.IPv4

/-!
# Datagrams between IPv4 and ARP

`IPv4.cc` (`sendDatagramToOutput` and the signals of ARP) and `ARP.cc`. A signal is
handled by IPv4 while ARP is still at work, so the two modules are one state. The
`log` holds in their order the things a node is judged by. The interfaces are those
of the configuration; what the routing table says comes with an ARP packet.
-/
namespace Inet.Arp

open Inet.Ipv4 (IPv4Address IPv4Datagram)

/-- The unspecified address is 0. -/
abbrev MACAddress := BitVec 48

abbrev InterfaceId := Nat

/-- `simtime_t` -/
abbrev Time := Nat

def BROADCAST_ADDRESS : MACAddress := BitVec.allOnes 48

/-- `makeMulticastAddress` -/
def makeMulticastAddress (addr : IPv4Address) : MACAddress := 0x01005e000000 ||| (addr &&& 0x007fffff).setWidth 48

def isLimitedBroadcastAddress (addr : IPv4Address) : Prop := addr = 0xFFFFFFFF
deriving Decidable

def isMulticast (addr : IPv4Address) : Prop := addr &&& 0xF0000000 = 0xE0000000
deriving Decidable

structure InterfaceEntry where
  isBroadcast : Bool
  macAddress : MACAddress
  ipAddress : IPv4Address
  netmask : IPv4Address
  deriving DecidableEq, Repr

def InterfaceEntry.getNetworkBroadcastAddress (ie : InterfaceEntry) : IPv4Address := ie.ipAddress ||| ~~~ ie.netmask

/-- The parameters of the two modules. -/
structure Config where
  interfaces : InterfaceId → InterfaceEntry
  useProxyARP : Bool
  retryTimeout : Time
  retryCount : Int
  cacheTimeout : Time
  respondToProxyARP : Bool
  globalARP : Bool
  deletePackets : Bool

structure ARPCacheEntry where
  ie : InterfaceId
  pending : Bool := false
  /-- if `pending`: when the request times out -/
  timer : Option Time := none
  numRetries : Int := 0
  macAddress : MACAddress := 0
  lastUpdate : Time := 0
  deriving DecidableEq, Repr

structure ARPPacket where
  opcode : Int
  srcMACAddress : MACAddress
  destMACAddress : MACAddress
  srcIPAddress : IPv4Address
  destIPAddress : IPv4Address
  deriving DecidableEq, Repr

def ARP_REQUEST : Int := 1
def ARP_REPLY : Int := 2
def ARP_RARP_REQUEST : Int := 3
def ARP_RARP_REPLY : Int := 4

inductive Occurrence where
  /-- The datagram was routed to the interface. -/
  | routed (ie : InterfaceId) (nextHop : IPv4Address) (datagram : IPv4Datagram)
  /-- The datagram goes out on the interface. -/
  | sent (ie : InterfaceId) (nextHop : IPv4Address) (macAddress : MACAddress) (datagram : IPv4Datagram)
  | dropped (nextHop : IPv4Address) (datagram : IPv4Datagram)
  /-- `deletePacket`: not even queued -/
  | deleted (nextHop : IPv4Address) (datagram : IPv4Datagram)
  /-- `initiatedARPResolutionSignal` -/
  | initiated (addr : IPv4Address) (ie : InterfaceId)
  /-- `completedARPResolutionSignal` -/
  | completed (addr : IPv4Address) (macAddress : MACAddress) (ie : InterfaceId)
  /-- `failedARPResolutionSignal` -/
  | failed (addr : IPv4Address) (ie : InterfaceId)
  /-- An ARP packet goes out on the interface. -/
  | sentARP (ie : InterfaceId) (macAddress : MACAddress) (arp : ARPPacket)
  deriving DecidableEq, Repr

structure Node where
  arpCache : IPv4Address → Option ARPCacheEntry := fun _ => none
  pendingPackets : IPv4Address → Option (List IPv4Datagram) := fun _ => none
  log : List Occurrence := []

namespace Node

variable (c : Config) (s : Node)

def setEntry (addr : IPv4Address) (entry : Option ARPCacheEntry) : Node :=
  { s with arpCache := Function.update s.arpCache addr entry }

def setQueue (addr : IPv4Address) (q : Option (List IPv4Datagram)) : Node :=
  { s with pendingPackets := Function.update s.pendingPackets addr q }

def record (l : List Occurrence) : Node := { s with log := s.log ++ l }

def arpResolutionCompleted (addr : IPv4Address) (macAddress : MACAddress) (ie : InterfaceId) : Node :=
  match s.pendingPackets addr with
  | some packetQueue => (s.record (packetQueue.map fun msg => .sent ie addr macAddress msg)).setQueue addr none
  | none => s

def arpResolutionTimedOut (addr : IPv4Address) : Node :=
  match s.pendingPackets addr with
  | some packetQueue => (s.record (packetQueue.map fun msg => .dropped addr msg)).setQueue addr none
  | none => s

def sendARPRequest (ie : InterfaceId) (ipAddress : IPv4Address) : Sim Node := do
  let myMACAddress := (c.interfaces ie).macAddress
  let myIPAddress := (c.interfaces ie).ipAddress
  ensure (myMACAddress ≠ 0) "!myMACAddress.isUnspecified()"
  ensure (myIPAddress ≠ 0) "!myIPAddress.isUnspecified()"
  .ok (s.record [.sentARP ie BROADCAST_ADDRESS
    { opcode := ARP_REQUEST, srcMACAddress := myMACAddress, destMACAddress := 0, srcIPAddress := myIPAddress, destIPAddress := ipAddress }])

def initiateARPResolution (simTime : Time) (nextHopAddr : IPv4Address) (entry : ARPCacheEntry) : Sim Node := do
  let s ← s.sendARPRequest c entry.ie nextHopAddr
  let entry := { entry with
    pending := true, numRetries := 0, lastUpdate := 0, macAddress := 0, timer := some (simTime + c.retryTimeout) }
  .ok ((s.setEntry nextHopAddr (some entry)).record [.initiated nextHopAddr entry.ie])

def startAddressResolution (simTime : Time) (addr : IPv4Address) (ie : InterfaceId) : Sim Node :=
  if c.globalARP then .error (.runtime "globalARP does not support dynamic address resolution")
  else
    match s.arpCache addr with
    | none => s.initiateARPResolution c simTime addr { ie }
    | some entry => if entry.pending then .ok s else s.initiateARPResolution c simTime addr { entry with ie }

/-- `globalArpCache`: the addresses of all nodes -/
def getMACAddressFor (simTime : Time) (globalArpCache : IPv4Address → Option MACAddress) (addr : IPv4Address) : MACAddress :=
  if c.globalARP then (globalArpCache addr).getD 0
  else
    match s.arpCache addr with
    | some entry => if ¬ entry.pending ∧ simTime ≤ entry.lastUpdate + c.cacheTimeout then entry.macAddress else 0
    | none => 0

/-- Nothing arrives where no timer is scheduled. -/
def requestTimedOut (simTime : Time) (addr : IPv4Address) : Sim Node :=
  match s.arpCache addr with
  | none => .ok s
  | some entry =>
    if entry.timer = none then .ok s
    else
      let entry := { entry with numRetries := entry.numRetries + 1 }
      if entry.numRetries < c.retryCount then do
        let s ← s.sendARPRequest c entry.ie addr
        .ok (s.setEntry addr (some { entry with timer := some (simTime + c.retryTimeout) }))
      else .ok (((s.record [.failed addr entry.ie]).arpResolutionTimedOut addr).setEntry addr none)

def updateARPCache (simTime : Time) (addr : IPv4Address) (entry : ARPCacheEntry) (macAddress : MACAddress) : Node :=
  let entry := if entry.pending then { entry with pending := false, timer := none, numRetries := 0 } else entry
  let entry := { entry with macAddress, lastUpdate := simTime }
  ((s.setEntry addr (some entry)).record [.completed addr macAddress entry.ie]).arpResolutionCompleted addr macAddress entry.ie

/-- What ARP asks the routing table. -/
structure IRoutingTable where
  isLocalAddress : IPv4Address → Bool
  getInterfaceForDestAddr : IPv4Address → Option InterfaceId

def addressRecognized (rt : IRoutingTable) (destAddr : IPv4Address) (ie : InterfaceId) : Bool :=
  if rt.isLocalAddress destAddr then true
  else if c.respondToProxyARP then
    match rt.getInterfaceForDestAddr destAddr with
    | some rtie => decide (rtie ≠ ie)
    | none => false
  else false

/-- "Swap hardware and protocol fields", etc. -/
def reply (arp : ARPPacket) (ie : InterfaceId) : Occurrence :=
  .sentARP ie arp.srcMACAddress
    { opcode := ARP_REPLY, srcMACAddress := (c.interfaces ie).macAddress, destMACAddress := arp.srcMACAddress,
      srcIPAddress := arp.destIPAddress, destIPAddress := arp.srcIPAddress }

def processARPPacket (simTime : Time) (rt : IRoutingTable) (arp : ARPPacket) (ie : InterfaceId) : Sim Node :=
  if arp.srcMACAddress = 0 then .error (.runtime "wrong ARP packet: source MAC address is empty")
  else if arp.srcIPAddress = 0 then .error (.runtime "wrong ARP packet: source IPv4 address is empty")
  else
    let merged := match s.arpCache arp.srcIPAddress with
      | some entry => s.updateARPCache simTime arp.srcIPAddress entry arp.srcMACAddress
      | none => s
    if addressRecognized c rt arp.destIPAddress ie then
      let s := match s.arpCache arp.srcIPAddress with
        | some _ => merged
        | none => s.updateARPCache simTime arp.srcIPAddress { ie } arp.srcMACAddress
      if arp.opcode = ARP_REQUEST then .ok (s.record [reply c arp ie])
      else if arp.opcode = ARP_REPLY then .ok s
      else if arp.opcode = ARP_RARP_REQUEST then .error (.runtime "RARP request received: RARP is not supported")
      else if arp.opcode = ARP_RARP_REPLY then .error (.runtime "RARP reply received: RARP is not supported")
      else .error (.runtime "Unsupported opcode %d in received ARP packet")
    else .ok merged

def resolveNextHopMacAddress (simTime : Time) (globalArpCache : IPv4Address → Option MACAddress) (nextHopAddr : IPv4Address)
    (destIE : InterfaceId) : MACAddress :=
  if isLimitedBroadcastAddress nextHopAddr ∨ nextHopAddr = (c.interfaces destIE).getNetworkBroadcastAddress then BROADCAST_ADDRESS
  else if isMulticast nextHopAddr then makeMulticastAddress nextHopAddr
  else s.getMACAddressFor c simTime globalArpCache nextHopAddr

/-- The assertion in `sendDatagramToOutput`. -/
def queueNotEmpty : CRuntimeError :=
  .assertion "pendingPackets.find(nextHopAddr) == pendingPackets.end()"

/-- The part of `sendDatagramToOutput` for a broadcast interface, with the next hop. -/
def sendToNextHop (simTime : Time) (globalArpCache : IPv4Address → Option MACAddress) (datagram : IPv4Datagram) (ie : InterfaceId)
    (nextHopAddr : IPv4Address) : Sim Node :=
  let nextHopMacAddr := s.resolveNextHopMacAddress c simTime globalArpCache nextHopAddr ie
  if nextHopMacAddr = 0 then
    if c.globalARP ∧ c.deletePackets then .ok (s.record [.deleted nextHopAddr datagram])
    else
      let packetQueue := (s.pendingPackets nextHopAddr).getD [] ++ [datagram]
      ((s.record [.routed ie nextHopAddr datagram]).setQueue nextHopAddr (some packetQueue)).startAddressResolution c simTime
        nextHopAddr ie
  else if s.pendingPackets nextHopAddr ≠ none then .error queueNotEmpty
  else .ok (s.record [.routed ie nextHopAddr datagram, .sent ie nextHopAddr nextHopMacAddr datagram])

/-- `isIeee802Lan` -/
def isIeee802Lan (ie : InterfaceId) : Prop := (c.interfaces ie).isBroadcast ∧ (c.interfaces ie).macAddress ≠ 0
deriving Decidable

def sendDatagramToOutput (simTime : Time) (globalArpCache : IPv4Address → Option MACAddress) (datagram : IPv4Datagram)
    (ie : InterfaceId) (nextHopAddr : IPv4Address) : Sim Node :=
  if ¬ isIeee802Lan c ie then .ok (s.record [.routed ie nextHopAddr datagram, .sent ie nextHopAddr 0 datagram])
  else if nextHopAddr = 0 then
    if c.useProxyARP then s.sendToNextHop c simTime globalArpCache datagram ie datagram.destAddress
    else .error (.runtime "Cannot send datagram on broadcast interface: no next-hop address and Proxy ARP is disabled")
  else s.sendToNextHop c simTime globalArpCache datagram ie nextHopAddr

inductive Event where
  | sendDatagramToOutput (simTime : Time) (globalArpCache : IPv4Address → Option MACAddress) (datagram : IPv4Datagram)
      (ie : InterfaceId) (nextHopAddr : IPv4Address)
  | processARPPacket (simTime : Time) (rt : IRoutingTable) (arp : ARPPacket) (ie : InterfaceId)
  | requestTimedOut (simTime : Time) (addr : IPv4Address)

def step : Event → Sim Node
  | .sendDatagramToOutput simTime globalArpCache datagram ie nextHopAddr =>
    s.sendDatagramToOutput c simTime globalArpCache datagram ie nextHopAddr
  | .processARPPacket simTime rt arp ie => s.processARPPacket c simTime rt arp ie
  | .requestTimedOut simTime addr => s.requestTimedOut c simTime addr

end Node

end Inet.Arp
