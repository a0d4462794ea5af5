import Inetmanet.Ipv6.NeighbourCache

/-!
# Neighbour discovery

`IPv6NeighbourDiscovery.cc`, built with `WITH_xMIPv6`: next hop determination, address
resolution, neighbour unreachability detection, and the solicitations and
advertisements that are received. The clock is that of the routing table.
-/
namespace Inet.Ipv6

open Inet.Arp (MACAddress)

def IPv6Address.isLinkLocal (address : IPv6Address) : Bool := address >>> 118 == 0x3fa

def IPv6Address.isMulticast (address : IPv6Address) : Bool := address >>> 120 == 0xff

def IPv6Address.formSolicitedNodeMulticastAddress (address : IPv6Address) : IPv6Address :=
  (0xff0200000000000000000001ff : IPv6Address) <<< 24 ||| address &&& 0xffffff

def ALL_NODES_2 : IPv6Address := 0xff020000000000000000000000000001

/-- The addresses of an interface, which other modules configure. -/
structure InterfaceAddresses where
  hasAddress : IPv6Address → Bool := fun _ => false
  isTentativeAddress : IPv6Address → Bool := fun _ => false
  preferredAddress : IPv6Address := 0
  isDADInProgress : Bool := false

/-- What is read of an interface; the times are node constants. -/
structure IPv6InterfaceData where
  isPointToPoint : Bool := false
  macAddress : MACAddress := 0
  advSendAdvertisements : Bool := false
  maxMulticastSolicit : Nat := 3
  maxUnicastSolicit : Nat := 3
  reachableTime : Nat := 30000
  retransTimer : Nat := 1000
  delayFirstProbeTime : Nat := 5000
  addresses : InterfaceAddresses := {}

structure IPv6ControlInfo where
  srcAddr : IPv6Address
  destAddr : IPv6Address
  hopLimit : Nat := 255
  /-- Is the protocol `IP_PROT_IPv6_ICMP`? -/
  isICMP : Bool := true
  interfaceId : Int
  deriving DecidableEq, Repr

structure IPv6NeighbourSolicitation where
  targetAddress : IPv6Address
  sourceLinkLayerAddress : MACAddress
  deriving DecidableEq, Repr

structure IPv6NeighbourAdvertisement where
  targetAddress : IPv6Address
  targetLinkLayerAddress : MACAddress
  routerFlag : Bool
  solicitedFlag : Bool
  overrideFlag : Bool
  deriving DecidableEq, Repr

structure IPv6NDPrefixInformation where
  addrPrefix : IPv6Address
  prefixLength : Nat
  onlinkFlag : Bool
  validLifetime : Nat
  deriving DecidableEq, Repr

structure IPv6RouterAdvertisement where
  sourceLinkLayerAddress : MACAddress
  routerLifetime : Nat
  homeAgentFlag : Bool := false
  prefixInformation : List IPv6NDPrefixInformation
  deriving DecidableEq, Repr

inductive ICMPv6Code where
  | NO_ROUTE_TO_DEST
  | ADDRESS_UNREACHABLE
  deriving DecidableEq, Repr

/-- What leaves the module. -/
inductive Output where
  /-- `send(msg, "ipv6Out")` -/
  | datagram (msg : Datagram)
  /-- `sendPacketToIPv6Module` -/
  | datagramTo (msg : Datagram) (destAddr srcAddr : IPv6Address) (interfaceId : Int)
  | neighbourSolicitation (ns : IPv6NeighbourSolicitation) (ctrlInfo : IPv6ControlInfo)
  | neighbourAdvertisement (na : IPv6NeighbourAdvertisement) (ctrlInfo : IPv6ControlInfo)
  /-- `sendErrorMessage`, type `ICMPv6_DESTINATION_UNREACHABLE` -/
  | unreachable (msg : Datagram) (code : ICMPv6Code)
  deriving DecidableEq, Repr

structure IPv6NeighbourDiscovery where
  neighbourCache : NeighbourCache := {}
  rt6 : RoutingTable6
  ift : Int → IPv6InterfaceData
  isRouter : Bool := false
  pendingQueue : List Datagram := []
  /-- the next route object -/
  nextRoute : RouteRef := 0
  /-- the last first -/
  sent : List Output := []

def RoutingTable6.isPrefixPresent (t : RoutingTable6) (addrPrefix : IPv6Address) : Bool :=
  t.routeList.any fun e => addrPrefix.matches (t.heap e).destPrefix 128

namespace IPv6NeighbourDiscovery

def simTime (s : IPv6NeighbourDiscovery) : Nat := s.rt6.simTime

def send (s : IPv6NeighbourDiscovery) (out : Output) : IPv6NeighbourDiscovery := { s with sent := out :: s.sent }

def setCache (s : IPv6NeighbourDiscovery) (cache : NeighbourCache) : IPv6NeighbourDiscovery :=
  { s with neighbourCache := cache }

def setTable (s : IPv6NeighbourDiscovery) (t : RoutingTable6) : IPv6NeighbourDiscovery := { s with rt6 := t }

def write (s : IPv6NeighbourDiscovery) (key : NeighbourKey) (nce : Neighbour) : IPv6NeighbourDiscovery :=
  s.setCache (s.neighbourCache.write key nce)

def createAndSendNSPacket (s : IPv6NeighbourDiscovery) (nsTargetAddr dgDestAddr dgSrcAddr : IPv6Address)
    (interfaceID : Int) : IPv6NeighbourDiscovery :=
  let myMacAddr := (s.ift interfaceID).macAddress
  s.send (.neighbourSolicitation
    ⟨nsTargetAddr, if isSolicitedNodeMulticastAddress dgDestAddr ∧ dgSrcAddr ≠ 0 then myMacAddr else 0⟩
    { srcAddr := dgSrcAddr, destAddr := dgDestAddr, interfaceId := interfaceID })

/-- `operator++` -/
def nextRouter (cache : NeighbourCache) (start : Option NeighbourPtr) (current : NeighbourPtr) : Option NeighbourPtr :=
  if cache.defaultRouterList.nextDefaultRouter current = start then none
  else cache.defaultRouterList.nextDefaultRouter current

/-- The first loop of `selectDefaultRouter`, for at most `fuel` rounds. -/
def findRouter (simTime : Nat) (start : Option NeighbourPtr) :
    Nat → NeighbourCache → Option NeighbourPtr → Sim (Option NeighbourPtr × NeighbourCache)
  | _, cache, none => .ok (none, cache)
  | 0, _, some _ => .error .diverges
  | fuel + 1, cache, some router => do
    let (router, nce) ← cache.deref (some router)
    if nce.routerExpiryTime < simTime then do
      let cache' ← cache.remove router.nceKey
      findRouter simTime start fuel cache' (nextRouter cache start router)
    else if nce.reachabilityState ≠ .INCOMPLETE then do
      let cache' ← cache.setHead (cache.defaultRouterList.nextDefaultRouter router)
      return (some router, cache')
    else findRouter simTime start fuel cache (nextRouter cache start router)

/-- No router is passed twice unless one is removed in between; otherwise the loop never ends. -/
def rounds (cache : NeighbourCache) : Nat := (cache.fresh + 1) ^ 2

/-- When none is known to be reachable, the routers take turns. -/
def nextInTurn (cache : NeighbourCache) : Sim (Option NeighbourPtr × NeighbourCache) :=
  match cache.defaultRouterList.head with
  | none => .ok (none, cache)
  | some head => do
    let (head, _) ← cache.deref (some head)
    let cache' ← cache.setHead (cache.defaultRouterList.nextDefaultRouter head)
    return (some head, cache')

/-- The first router that is not INCOMPLETE, or else the next in turn. -/
def chooseRouter (simTime : Nat) (cache : NeighbourCache) : Sim (Option NeighbourPtr × NeighbourCache) := do
  let head := cache.defaultRouterList.head
  let (found, cache) ← findRouter simTime head (rounds cache) cache head
  if found.isSome then return (found, cache) else nextInTurn cache

def selectDefaultRouter (s : IPv6NeighbourDiscovery) : Sim (RoutingTable6.Hop × IPv6NeighbourDiscovery) := do
  let (router, cache) ← chooseRouter s.simTime s.neighbourCache
  match router with
  | some router => return (⟨router.nceKey.address, router.nceKey.interfaceID⟩, s.setCache cache)
  | none => return (⟨0, -1⟩, s.setCache cache)

def determineNextHop (s : IPv6NeighbourDiscovery) (destAddr : IPv6Address) :
    Sim (RoutingTable6.Hop × IPv6NeighbourDiscovery) := do
  let (route, t) ← s.rt6.doLongestPrefixMatch destAddr
  match route with
  | some route =>
    let hop := RoutingTable6.hopOn (t.heap route) destAddr
    return (hop, s.setTable (t.updateDestCache destAddr hop.nextHop hop.interfaceId (t.heap route).expiryTime))
  | none => do
    let (hop, s) ← (s.setTable t).selectDefaultRouter
    return (hop, s.setTable (s.rt6.updateDestCache destAddr hop.nextHop hop.interfaceId 0))

def initiateNeighbourUnreachabilityDetection (s : IPv6NeighbourDiscovery) (key : NeighbourKey) (nce : Neighbour) :
    Sim IPv6NeighbourDiscovery := do
  ensure (nce.reachabilityState = .STALE) "nce->reachabilityState == IPv6NeighbourCache::STALE"
  let nce := { nce with reachabilityState := .DELAY, nudTimeoutEvent := some s.neighbourCache.fresh }
  let s := s.write key nce
  return s.setCache (s.neighbourCache.schedule .NUD_TIMEOUT ⟨key, nce.object⟩
    (s.simTime + (s.ift key.interfaceID).delayFirstProbeTime))

def initiateAddressResolution (s : IPv6NeighbourDiscovery) (dgSrcAddr : IPv6Address) (key : NeighbourKey)
    (nce : Neighbour) : Sim IPv6NeighbourDiscovery := do
  let ie := s.ift key.interfaceID
  let nsSrcAddr := if ie.addresses.hasAddress dgSrcAddr then dgSrcAddr else ie.addresses.preferredAddress
  ensure (key.interfaceID ≠ -1) "ifID != -1"
  let s := s.createAndSendNSPacket key.address key.address.formSolicitedNodeMulticastAddress nsSrcAddr key.interfaceID
  let nce := { nce with
    reachabilityState := .INCOMPLETE, numOfARNSSent := 1, nsSrcAddr, arTimer := some s.neighbourCache.fresh }
  let s := s.write key nce
  return s.setCache (s.neighbourCache.schedule .AR_TIMEOUT ⟨key, nce.object⟩ (s.simTime + ie.retransTimer))

/-- The entry that `processIPv6Datagram` looks for is made if there is none. -/
def createEntry (s : IPv6NeighbourDiscovery) (dgSrcAddr : IPv6Address) (key : NeighbourKey) :
    Sim IPv6NeighbourDiscovery :=
  match s.neighbourCache.lookup key with
  | some _ => .ok s
  | none =>
    if (s.ift key.interfaceID).isPointToPoint then do
      let cache ← s.neighbourCache.addNeighbour key 0
      return s.setCache cache
    else do
      let cache ← s.neighbourCache.addIncomplete key
      match cache.lookup key with
      | none => .error (.nullPointer "nce")
      | some nce => (s.setCache cache).initiateAddressResolution dgSrcAddr key nce

/-- What is done with a datagram depends on the state of the entry. -/
def sendOrQueue (s : IPv6NeighbourDiscovery) (msg : Datagram) (key : NeighbourKey) (nce : Neighbour) :
    Sim IPv6NeighbourDiscovery :=
  match nce.reachabilityState with
  | .INCOMPLETE =>
    .ok { s.write key { nce with pendingPackets := nce.pendingPackets ++ [msg] } with
      pendingQueue := s.pendingQueue ++ [msg] }
  | .STALE => (s.send (.datagram msg)).initiateNeighbourUnreachabilityDetection key nce
  | .REACHABLE => .ok (s.send (.datagramTo msg key.address msg.srcAddr key.interfaceID))
  | .DELAY => .ok (s.send (.datagramTo msg key.address msg.srcAddr key.interfaceID))
  | .PROBE => .error (.runtime "Unknown Neighbour cache entry state.")

def processIPv6Datagram (s : IPv6NeighbourDiscovery) (msg : Datagram) : Sim IPv6NeighbourDiscovery := do
  let (hop, s) ← s.determineNextHop msg.destAddr
  if hop.interfaceId = -1 then return s.send (.unreachable msg .NO_ROUTE_TO_DEST)
  else do
    let s ← s.createEntry msg.srcAddr ⟨hop.nextHop, hop.interfaceId⟩
    match s.neighbourCache.lookup ⟨hop.nextHop, hop.interfaceId⟩ with
    | none => .error (.nullPointer "nce")
    | some nce => s.sendOrQueue msg ⟨hop.nextHop, hop.interfaceId⟩ nce

/-- The MAC address, and the state afterwards. -/
def resolveNeighbour (s : IPv6NeighbourDiscovery) (key : NeighbourKey) : Sim (MACAddress × IPv6NeighbourDiscovery) :=
  match s.neighbourCache.lookup key with
  | none => .ok (0, s)
  | some nce =>
    match nce.reachabilityState with
    | .INCOMPLETE => .ok (0, s)
    | .STALE => do
      let s ← s.initiateNeighbourUnreachabilityDetection key nce
      return (nce.macAddress, s)
    | .REACHABLE =>
      if nce.reachabilityExpires < s.simTime then do
        let nce := { nce with reachabilityState := .STALE }
        let s ← (s.write key nce).initiateNeighbourUnreachabilityDetection key nce
        return (nce.macAddress, s)
      else .ok (nce.macAddress, s)
    | .DELAY => .ok (nce.macAddress, s)
    | .PROBE => .ok (nce.macAddress, s)

/-- From DELAY to PROBE. -/
def enterProbe (nce : Neighbour) : Neighbour :=
  if nce.reachabilityState = .DELAY then { nce with reachabilityState := .PROBE, numProbesSent := 0 } else nce

def processNUDTimeout (s : IPv6NeighbourDiscovery) (timeoutMsg : Timer) : Sim IPv6NeighbourDiscovery := do
  let (p, nce) ← s.neighbourCache.deref (some timeoutMsg.contextPointer)
  let ie := s.ift p.nceKey.interfaceID
  let nce := enterProbe nce
  if nce.numProbesSent = ie.maxUnicastSolicit then do
    let cache ← (s.neighbourCache.write p.nceKey nce).remove p.nceKey
    return s.setCache cache
  else
    let s := s.createAndSendNSPacket p.nceKey.address p.nceKey.address ie.addresses.preferredAddress p.nceKey.interfaceID
    let s := s.write p.nceKey { nce with numProbesSent := nce.numProbesSent + 1 }
    return s.setCache (s.neighbourCache.reschedule timeoutMsg (s.simTime + ie.retransTimer))

def dropQueuedPacketsAwaitingAR (s : IPv6NeighbourDiscovery) (key : NeighbourKey) (nce : Neighbour) :
    Sim IPv6NeighbourDiscovery := do
  let s := nce.pendingPackets.foldl
    (fun s msg => { s.send (.unreachable msg .ADDRESS_UNREACHABLE) with pendingQueue := s.pendingQueue.erase msg }) s
  let cache ← s.neighbourCache.remove key
  return s.setCache cache

def processARTimeout (s : IPv6NeighbourDiscovery) (arTimeoutMsg : Timer) : Sim IPv6NeighbourDiscovery := do
  let (p, nce) ← s.neighbourCache.deref (some arTimeoutMsg.contextPointer)
  let ie := s.ift p.nceKey.interfaceID
  if nce.numOfARNSSent < ie.maxMulticastSolicit then
    let s := s.createAndSendNSPacket p.nceKey.address p.nceKey.address.formSolicitedNodeMulticastAddress nce.nsSrcAddr
      p.nceKey.interfaceID
    let s := s.write p.nceKey { nce with numOfARNSSent := nce.numOfARNSSent + 1 }
    return s.setCache (s.neighbourCache.reschedule arTimeoutMsg (s.simTime + ie.retransTimer))
  else s.dropQueuedPacketsAwaitingAR p.nceKey nce

def sendQueuedPacketsToIPv6Module (s : IPv6NeighbourDiscovery) (pendingPackets : List Datagram) :
    IPv6NeighbourDiscovery :=
  pendingPackets.foldl (fun s msg => { s.send (.datagram msg) with pendingQueue := s.pendingQueue.erase msg }) s

def timeoutDefaultRouter (s : IPv6NeighbourDiscovery) (key : NeighbourKey) : Sim IPv6NeighbourDiscovery := do
  let cache ← s.neighbourCache.remove key
  return (s.setCache cache).setTable (s.rt6.purgeDestCacheEntriesToNeighbour key.address key.interfaceID)

/-- One round of the loop of `routersUnreachabilityDetection`. -/
def timeoutIfRouterOn (interfaceID : Int) (s : IPv6NeighbourDiscovery) (key : NeighbourKey) :
    Sim IPv6NeighbourDiscovery :=
  match s.neighbourCache.lookup key with
  | none => .ok s
  | some nce =>
    if key.interfaceID = interfaceID ∧ s.neighbourCache.isDefaultRouter ⟨key, nce.object⟩ then
      s.timeoutDefaultRouter key
    else .ok s

def routersUnreachabilityDetection (s : IPv6NeighbourDiscovery) (interfaceID : Int) : Sim IPv6NeighbourDiscovery :=
  let s := s.setTable ((s.rt6.removeDefaultRoutes interfaceID).removePrefixes interfaceID)
  s.neighbourCache.neighbourMap.keys.foldlM (timeoutIfRouterOn interfaceID) s

section Advertisements

variable (S : StdSort)

/-- A route object is made for each prefix, used or not. -/
def processRAPrefixInfo (interfaceID : Int) : IPv6NeighbourDiscovery → List IPv6NDPrefixInformation →
    IPv6NeighbourDiscovery
  | s, [] => s
  | s, prefixInfo :: rest =>
    if !prefixInfo.onlinkFlag then s
    else if prefixInfo.addrPrefix.isLinkLocal then s
    else if !s.rt6.isPrefixPresent prefixInfo.addrPrefix ∧ prefixInfo.validLifetime = 0 then
      processRAPrefixInfo interfaceID s rest
    else if prefixInfo.validLifetime = 0 then
      s.setTable (s.rt6.removeOnLinkPrefix prefixInfo.addrPrefix prefixInfo.prefixLength)
    else
      let t := s.rt6.addOrUpdateOnLinkPrefix S s.nextRoute prefixInfo.addrPrefix prefixInfo.prefixLength interfaceID
        (s.simTime + prefixInfo.validLifetime)
      processRAPrefixInfo interfaceID { s.setTable t with nextRoute := s.nextRoute + 1 } rest

/-- The entry of a router that is not a default router. -/
def addAdvertiser (cache : NeighbourCache) (key : NeighbourKey) (macAddress : MACAddress) : Sim NeighbourCache :=
  if macAddress = 0 then cache.addIncomplete key else cache.addNeighbour key macAddress

/-- An advertisement from an address that has no entry. -/
def newRouter (s : IPv6NeighbourDiscovery) (ra : IPv6RouterAdvertisement) (key : NeighbourKey) :
    Sim IPv6NeighbourDiscovery :=
  if ra.routerLifetime ≠ 0 then do
    let s ← s.routersUnreachabilityDetection key.interfaceID
    let cache ← s.neighbourCache.addRouter key ra.sourceLinkLayerAddress (s.simTime + ra.routerLifetime)
      ra.homeAgentFlag
    let t := s.rt6.addDefaultRoute S s.nextRoute key.address key.interfaceID (s.simTime + ra.routerLifetime)
    return { (s.setCache cache).setTable t with nextRoute := s.nextRoute + 1 }
  else do
    let cache ← addAdvertiser s.neighbourCache key ra.sourceLinkLayerAddress
    match cache.lookup key with
    | none => .error (.nullPointer "neighbour")
    | some nce => return s.setCache (cache.write key { nce with isRouter := true })

/-- An advertisement from an address that has an entry. -/
def knownRouter (s : IPv6NeighbourDiscovery) (ra : IPv6RouterAdvertisement) (key : NeighbourKey) (neighbour : Neighbour) :
    Sim IPv6NeighbourDiscovery :=
  let neighbour := { neighbour with isRouter := true }
  let neighbour :=
    if ra.sourceLinkLayerAddress ≠ 0 ∧ neighbour.macAddress ≠ ra.sourceLinkLayerAddress then
      { neighbour with macAddress := ra.sourceLinkLayerAddress }
    else neighbour
  let s := s.write key { neighbour with routerExpiryTime := s.simTime + ra.routerLifetime }
  if ra.routerLifetime = 0 then s.timeoutDefaultRouter key else .ok s

def updateRouter (s : IPv6NeighbourDiscovery) (ra : IPv6RouterAdvertisement) (key : NeighbourKey) :
    Sim IPv6NeighbourDiscovery :=
  match s.neighbourCache.lookup key with
  | none => s.newRouter S ra key
  | some neighbour => s.knownRouter ra key neighbour

def processRAForRouterUpdates (s : IPv6NeighbourDiscovery) (ra : IPv6RouterAdvertisement)
    (raCtrlInfo : IPv6ControlInfo) : Sim IPv6NeighbourDiscovery := do
  let s ← s.updateRouter S ra ⟨raCtrlInfo.srcAddr, raCtrlInfo.interfaceId⟩
  return processRAPrefixInfo S raCtrlInfo.interfaceId s ra.prefixInformation

def validateRAPacket (ra : IPv6RouterAdvertisement) (raCtrlInfo : IPv6ControlInfo) : Bool :=
  raCtrlInfo.srcAddr.isLinkLocal && raCtrlInfo.hopLimit == 255 && raCtrlInfo.isICMP && !ra.prefixInformation.isEmpty

/-- The configuration of addresses by prefixes is left to other modules. -/
def processRAPacket (s : IPv6NeighbourDiscovery) (ra : IPv6RouterAdvertisement) (raCtrlInfo : IPv6ControlInfo) :
    Sim IPv6NeighbourDiscovery :=
  let ie := s.ift raCtrlInfo.interfaceId
  if ie.advSendAdvertisements then .ok s
  else if !validateRAPacket ra raCtrlInfo then .ok s
  else if ie.addresses.isDADInProgress then .ok s
  else s.processRAForRouterUpdates S ra raCtrlInfo

end Advertisements

def validateNSPacket (ns : IPv6NeighbourSolicitation) (nsCtrlInfo : IPv6ControlInfo) : Bool :=
  nsCtrlInfo.hopLimit == 255 && !ns.targetAddress.isMulticast &&
    (nsCtrlInfo.srcAddr ≠ 0 || isSolicitedNodeMulticastAddress nsCtrlInfo.destAddr && ns.sourceLinkLayerAddress == 0)

def sendSolicitedNA (s : IPv6NeighbourDiscovery) (ns : IPv6NeighbourSolicitation) (nsCtrlInfo : IPv6ControlInfo) :
    IPv6NeighbourDiscovery :=
  let ie := s.ift nsCtrlInfo.interfaceId
  s.send (.neighbourAdvertisement
    { targetAddress := ns.targetAddress, targetLinkLayerAddress := ie.macAddress, routerFlag := s.isRouter,
      solicitedFlag := nsCtrlInfo.srcAddr ≠ 0, overrideFlag := ns.sourceLinkLayerAddress ≠ 0 }
    { srcAddr := ie.addresses.preferredAddress, interfaceId := nsCtrlInfo.interfaceId
      destAddr := if nsCtrlInfo.srcAddr = 0 then ALL_NODES_2 else nsCtrlInfo.srcAddr })

def processNSForTentativeAddress (s : IPv6NeighbourDiscovery) (nsCtrlInfo : IPv6ControlInfo) :
    Sim IPv6NeighbourDiscovery := do
  ensure (¬ nsCtrlInfo.srcAddr.isMulticast) "nsSrcAddr.isUnicast() || nsSrcAddr.isUnspecified()"
  if nsCtrlInfo.srcAddr = 0 then .error (.runtime "Duplicate Address Detected! Manual Attention Required!")
  else .ok s

/-- The address of the sender is recorded. -/
def updateEntry (s : IPv6NeighbourDiscovery) (key : NeighbourKey) (nsMacAddr : MACAddress) :
    Sim IPv6NeighbourDiscovery :=
  match s.neighbourCache.lookup key with
  | none => do
    let cache ← s.neighbourCache.addNeighbour key nsMacAddr
    return s.setCache cache
  | some entry =>
    if entry.macAddress ≠ nsMacAddr ∧ nsMacAddr ≠ 0 then
      .ok (s.write key { entry with macAddress := nsMacAddr, reachabilityState := .STALE })
    else .ok s

def processNSWithSpecifiedSrcAddr (s : IPv6NeighbourDiscovery) (ns : IPv6NeighbourSolicitation)
    (nsCtrlInfo : IPv6ControlInfo) : Sim IPv6NeighbourDiscovery := do
  let s ← s.updateEntry ⟨nsCtrlInfo.srcAddr, nsCtrlInfo.interfaceId⟩ ns.sourceLinkLayerAddress
  return s.sendSolicitedNA ns nsCtrlInfo

def processNSPacket (s : IPv6NeighbourDiscovery) (ns : IPv6NeighbourSolicitation) (nsCtrlInfo : IPv6ControlInfo) :
    Sim IPv6NeighbourDiscovery :=
  let addresses := (s.ift nsCtrlInfo.interfaceId).addresses
  if !validateNSPacket ns nsCtrlInfo || !addresses.hasAddress ns.targetAddress then .ok s
  else if addresses.isTentativeAddress ns.targetAddress then s.processNSForTentativeAddress nsCtrlInfo
  else if nsCtrlInfo.srcAddr = 0 then .ok (s.sendSolicitedNA ns nsCtrlInfo)
  else s.processNSWithSpecifiedSrcAddr ns nsCtrlInfo

def validateNAPacket (na : IPv6NeighbourAdvertisement) (naCtrlInfo : IPv6ControlInfo) : Bool :=
  naCtrlInfo.hopLimit == 255 && !na.targetAddress.isMulticast &&
    !(naCtrlInfo.destAddr.isMulticast && na.solicitedFlag)

/-- A router that is none any more leaves the list. -/
def leaveList (cache : NeighbourCache) (nce : NeighbourPtr) (isRouter : Bool) : Sim NeighbourCache :=
  if isRouter then .ok cache else cache.removeFromList nce

def setRouterFlag (s : IPv6NeighbourDiscovery) (key : NeighbourKey) (nce : Neighbour) (naRouterFlag : Bool) :
    Sim IPv6NeighbourDiscovery := do
  let cache ← leaveList (s.neighbourCache.write key { nce with isRouter := naRouterFlag }) ⟨key, nce.object⟩ naRouterFlag
  return s.setCache cache

def processNAForIncompleteNCEState (s : IPv6NeighbourDiscovery) (na : IPv6NeighbourAdvertisement)
    (key : NeighbourKey) (nce : Neighbour) : Sim IPv6NeighbourDiscovery :=
  if na.targetLinkLayerAddress = 0 then .ok s
  else do
    let nce := { nce with macAddress := na.targetLinkLayerAddress }
    let nce :=
      if na.solicitedFlag then
        { nce with
          reachabilityState := .REACHABLE,
          reachabilityExpires := s.simTime + (s.ift key.interfaceID).reachableTime }
      else { nce with reachabilityState := .STALE }
    let s ← s.setRouterFlag key nce na.routerFlag
    let s := s.sendQueuedPacketsToIPv6Module nce.pendingPackets
    let s := s.setCache (s.neighbourCache.cancelAndDelete nce.arTimer)
    return s.write key { nce with isRouter := na.routerFlag, pendingPackets := [], arTimer := none }

/-- The effect of the Solicited flag on an entry that is not INCOMPLETE. -/
def confirm (s : IPv6NeighbourDiscovery) (na : IPv6NeighbourAdvertisement) (key : NeighbourKey) (nce : Neighbour) :
    IPv6NeighbourDiscovery × Neighbour :=
  if na.solicitedFlag then
    let nce := { nce with reachabilityState := .REACHABLE }
    if nce.nudTimeoutEvent.isSome then
      (s.setCache (s.neighbourCache.cancelAndDelete nce.nudTimeoutEvent),
        { nce with
          reachabilityExpires := s.simTime + (s.ift key.interfaceID).reachableTime, nudTimeoutEvent := none })
    else (s, nce)
  -- the address has been replaced already
  else if na.targetLinkLayerAddress ≠ nce.macAddress then (s, { nce with reachabilityState := .STALE })
  else (s, nce)

def processNAForOtherNCEStates (s : IPv6NeighbourDiscovery) (na : IPv6NeighbourAdvertisement) (key : NeighbourKey)
    (nce : Neighbour) : Sim IPv6NeighbourDiscovery :=
  let naMacAddr := na.targetLinkLayerAddress
  if na.overrideFlag = false ∧ naMacAddr ≠ nce.macAddress ∧ naMacAddr ≠ 0 then
    if nce.reachabilityState = .REACHABLE then .ok (s.write key { nce with reachabilityState := .STALE }) else .ok s
  else
    let nce := if naMacAddr ≠ 0 ∧ naMacAddr ≠ nce.macAddress then { nce with macAddress := naMacAddr } else nce
    let (s, nce) := s.confirm na key nce
    s.setRouterFlag key nce na.routerFlag

def processNAPacket (s : IPv6NeighbourDiscovery) (na : IPv6NeighbourAdvertisement) (naCtrlInfo : IPv6ControlInfo) :
    Sim IPv6NeighbourDiscovery :=
  if !validateNAPacket na naCtrlInfo then .ok s
  else if (s.ift naCtrlInfo.interfaceId).addresses.isTentativeAddress na.targetAddress then
    .error (.runtime "Duplicate Address Detected! Manual attention needed!")
  else
    let key := ⟨na.targetAddress, naCtrlInfo.interfaceId⟩
    match s.neighbourCache.lookup key with
    | none => .ok s
    | some nce =>
      if nce.reachabilityState = .INCOMPLETE then s.processNAForIncompleteNCEState na key nce
      else s.processNAForOtherNCEStates na key nce

/-- A timer message is no longer scheduled when it is handled. -/
def handleTimer (s : IPv6NeighbourDiscovery) (t : Timer) : Sim IPv6NeighbourDiscovery :=
  let s := s.setCache { s.neighbourCache with timers := s.neighbourCache.timers.erase t }
  match t.kind with
  | .NUD_TIMEOUT => s.processNUDTimeout t
  | .AR_TIMEOUT => s.processARTimeout t

def configure (s : IPv6NeighbourDiscovery) (interfaceID : Int) (addresses : InterfaceAddresses) :
    IPv6NeighbourDiscovery :=
  { s with ift := Function.update s.ift interfaceID { s.ift interfaceID with addresses := addresses } }

inductive Event where
  | datagram (msg : Datagram)
  | resolveNeighbour (key : NeighbourKey)
  | determineOutputInterface (destAddress : IPv6Address)
  | solicitation (ns : IPv6NeighbourSolicitation) (nsCtrlInfo : IPv6ControlInfo)
  | advertisement (na : IPv6NeighbourAdvertisement) (naCtrlInfo : IPv6ControlInfo)
  | routerAdvertisement (ra : IPv6RouterAdvertisement) (raCtrlInfo : IPv6ControlInfo)
  | timeout (t : Timer)
  /-- The addresses of an interface change. -/
  | configure (interfaceID : Int) (addresses : InterfaceAddresses)
  /-- Time passes. -/
  | elapse (time : Nat)

def step (S : StdSort) (s : IPv6NeighbourDiscovery) : Event → Sim IPv6NeighbourDiscovery
  | .datagram msg => s.processIPv6Datagram msg
  | .resolveNeighbour key => (s.resolveNeighbour key).map Prod.snd
  | .determineOutputInterface destAddress => (s.rt6.determineOutputInterface destAddress).map fun res => s.setTable res.2
  | .solicitation ns nsCtrlInfo => s.processNSPacket ns nsCtrlInfo
  | .advertisement na naCtrlInfo => s.processNAPacket na naCtrlInfo
  | .routerAdvertisement ra raCtrlInfo => s.processRAPacket S ra raCtrlInfo
  | .timeout t => s.handleTimer t
  | .configure interfaceID addresses => .ok (s.configure interfaceID addresses)
  | .elapse time => .ok (s.setTable { s.rt6 with simTime := s.simTime + time })

/-- A message object is held by one module, and timer messages arrive on time. -/
def Possible (s : IPv6NeighbourDiscovery) : Event → Prop
  | .datagram msg => msg ∉ s.pendingQueue
  | .timeout t => t ∈ s.neighbourCache.timers ∧ t.arrivalTime = s.simTime
  | .elapse time => ∀ t ∈ s.neighbourCache.timers, s.simTime + time ≤ t.arrivalTime
  | _ => True

structure Initial (s : IPv6NeighbourDiscovery) : Prop where
  neighbourCache : s.neighbourCache = {}
  pendingQueue : s.pendingQueue = []
  sent : s.sent = []

/-- The events so far with the states after them, the last first. -/
abbrev Trace := List (Event × IPv6NeighbourDiscovery)

/-- The runs in which every event meets a condition. -/
inductive Reached (S : StdSort) (Meets : IPv6NeighbourDiscovery → Event → Prop) :
    Trace → IPv6NeighbourDiscovery → Prop where
  | start {s : IPv6NeighbourDiscovery} (hs : s.Initial) : Reached S Meets [] s
  | step {tr : Trace} {s s' : IPv6NeighbourDiscovery} {event : Event} (hs : Reached S Meets tr s)
      (hpossible : s.Possible event) (hmeets : Meets s event) (hstep : s.step S event = .ok s') :
      Reached S Meets ((event, s') :: tr) s'

end IPv6NeighbourDiscovery

end Inet.Ipv6
