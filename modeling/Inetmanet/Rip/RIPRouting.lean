import Inetmanet.Ipv4.RoutingTable

/-!
# The RIP module

`RIPRouting.cc`: the table of RIP routes of a host, kept from the responses of the
neighbours and from the notifications of the host's own routing table. Only what
`get4()` gives of an address is used. RIP route objects are told apart by where they
stand in `ripRoutes`, IPv4 routes by their references.
-/
namespace Inet.Rip

open Ipv4 IPv4Address

def RIP_INFINITE_METRIC : Nat := 16

/-- The payload octets of a packet. -/
def IPv6_HEADER_BYTES : Nat := 40
def UDP_HEADER_BYTES : Nat := 8
def RIP_HEADER_SIZE : Nat := 4
def RIP_RTE_SIZE : Nat := 20

inductive RouteType where
  | RIP_ROUTE_RTE | RIP_ROUTE_STATIC | RIP_ROUTE_DEFAULT | RIP_ROUTE_REDISTRIBUTE | RIP_ROUTE_INTERFACE
  deriving DecidableEq, Repr

structure RIPRoute where
  type : RouteType
  /-- The route in the host routing table that is associated with this route. -/
  route : Option RouteRef
  dest : IPv4Address
  prefixLength : Int
  nextHop : IPv4Address
  ie : Option InterfaceRef
  /-- `from`: only for RTE routes. -/
  sender : IPv4Address := 0
  metric : Nat
  tag : Nat
  changed : Bool := false
  lastUpdateTime : Nat := 0
  deriving DecidableEq, Repr

/-- The constructor: a RIP route that stands for an IPv4 route. -/
def RIPRoute.new (route : RouteRef) (entry : IPv4Route) (type : RouteType) (metric : Nat) (routeTag : Nat) :
    RIPRoute where
  type := type
  route := some route
  dest := entry.dest
  prefixLength := getNetmaskLength entry.netmask
  nextHop := entry.gateway
  ie := entry.interfacePtr
  metric := metric
  tag := routeTag

inductive RIPMode where
  | NO_RIP | NO_SPLIT_HORIZON | SPLIT_HORIZON | SPLIT_HORIZON_POISONED_REVERSE
  deriving DecidableEq, Repr

structure RIPInterfaceEntry where
  ie : InterfaceRef
  metric : Nat := 1
  mode : RIPMode := .NO_RIP
  /-- What `configure` checks of the metric. -/
  inRange : 1 ≤ metric ∧ metric < RIP_INFINITE_METRIC := by decide
  deriving DecidableEq, Repr

/-- The attributes of an `<interface>` element. -/
structure InterfaceConfig where
  metricAttr : Option Int
  ripModeAttr : Option String
  deriving DecidableEq, Repr

namespace RIPInterfaceEntry

def parseMode : Option String → Option RIPMode
  | none => some .SPLIT_HORIZON_POISONED_REVERSE
  | some "NoRIP" => some .NO_RIP
  | some "NoSplitHorizon" => some .NO_SPLIT_HORIZON
  | some "SplitHorizon" => some .SPLIT_HORIZON
  | some "SplitHorizonPoisonedReverse" => some .SPLIT_HORIZON_POISONED_REVERSE
  | some _ => none

def configure (e : RIPInterfaceEntry) (config : InterfaceConfig) : Sim RIPInterfaceEntry := do
  let e ← match config.metricAttr with
    | none => pure e
    | some metric =>
      if h : 1 ≤ metric.toNat ∧ metric.toNat < RIP_INFINITE_METRIC then pure { e with metric := metric.toNat, inRange := h }
      else throw (.runtime "RIP: invalid metric in <interface> element at %s: %s")
  match parseMode config.ripModeAttr with
  | none => throw (.runtime "RIP: invalid split-horizon-mode attribute in <interface> element at %s: %s")
  | some mode => return { e with mode := mode }

def new (ie : InterfaceRef) : Option InterfaceConfig → Sim RIPInterfaceEntry
  | some config => configure { ie := ie } config
  | none => .ok { ie := ie }

end RIPInterfaceEntry

/-- What of an interface of the host is used. -/
structure InterfaceEntry where
  ie : InterfaceRef
  loopback : Bool := false
  multicast : Bool := true
  mtu : Nat := 1500
  /-- Address and netmask. -/
  ipv4Data : Option (IPv4Address × IPv4Address)
  deriving DecidableEq, Repr

def RIP_AF_NONE : Nat := 0
def RIP_AF_INET : Nat := 2

structure RIPEntry where
  addressFamilyId : Nat := RIP_AF_INET
  routeTag : Nat := 0
  address : IPv4Address := 0
  prefixLength : Int := 0
  nextHop : IPv4Address := 0
  metric : Nat
  deriving DecidableEq, Repr

def RIP_REQUEST : Nat := 1
def RIP_RESPONSE : Nat := 2

structure RIPPacket where
  command : Nat
  entry : List RIPEntry
  deriving DecidableEq, Repr

structure UDPDataIndication where
  srcAddr : IPv4Address
  srcPort : Nat
  interfaceId : InterfaceRef
  ttl : Nat := 255
  deriving DecidableEq, Repr

/-- A packet handed to UDP; unicast ones are sent by the host's routing table. -/
structure Sent where
  packet : RIPPacket
  destAddr : IPv4Address
  destPort : Nat
  outInterface : Option InterfaceRef
  deriving DecidableEq, Repr

inductive Mode where
  | RIPv2 | RIPng
  deriving DecidableEq, Repr

def isUnicast (addr : IPv4Address) : Bool :=
  addr &&& 0xF0000000#32 != 0xE0000000#32 && addr != BitVec.allOnes 32

def isMulticast (addr : IPv4Address) : Bool := addr &&& 0xF0000000#32 == 0xE0000000#32

def ALL_RIP_ROUTERS_MCAST : IPv4Address := 0xE0000009

def makeNetmask (length : Int) : Sim IPv4Address :=
  if length < 0 ∨ length > 32 then throw (.runtime "IPv4Address: wrong netmask length %d (not in 0..32)")
  else pure (_makeNetmask length.toNat)

structure RIPRouting where
  -- environment
  ift : List InterfaceEntry
  rt : RoutingTable
  /-- Where the next route object is allocated. -/
  nextRef : RouteRef := 0
  /-- The values that `par("triggeredUpdateDelay")` takes, and how many have been drawn. -/
  triggeredUpdateDelay : Nat → Nat
  draws : Nat := 0
  -- state
  ripInterfaces : List RIPInterfaceEntry := []
  ripRoutes : List RIPRoute := []
  /-- The arrival times of the timers that are scheduled. -/
  updateTimer : Option Nat := none
  triggeredUpdateTimer : Option Nat := none
  startupTimer : Option Nat
  -- parameters
  mode : Mode := .RIPv2
  ripUdpPort : Nat := 520
  updateInterval : Nat := 30
  routeExpiryTime : Nat := 180
  routePurgeTime : Nat := 120

namespace RIPRouting

/-- The module as the source of its routes. -/
def this : Source := .module 0

def simTime (m : RIPRouting) : Nat := m.rt.simTime

def findInterfaceById (m : RIPRouting) (interfaceId : InterfaceRef) : Option RIPInterfaceEntry :=
  m.ripInterfaces.find? fun i => i.ie = interfaceId

def getInterfaceMetric (m : RIPRouting) (ie : InterfaceRef) : Nat :=
  match m.findInterfaceById ie with
  | some ripIe => ripIe.metric
  | none => 1

def isLoopback (m : RIPRouting) (ie : InterfaceRef) : Bool := m.ift.any fun i => i.ie == ie && i.loopback

def isLoopbackInterfaceRoute (m : RIPRouting) (route : IPv4Route) : Bool :=
  match route.interfacePtr with
  | some ie => m.isLoopback ie
  | none => false

/-- The interface that a local interface route belongs to. -/
def localInterface (m : RIPRouting) (route : IPv4Route) : Option InterfaceRef :=
  match route.source with
  | some (.interface ie) => if m.isLoopback ie then none else some ie
  | _ => none

def findRoute (m : RIPRouting) (destination : IPv4Address) (prefixLength : Int) : Option Nat :=
  m.ripRoutes.findIdx? fun q => q.dest = destination ∧ q.prefixLength = prefixLength

def findRouteByRef (m : RIPRouting) (route : RouteRef) : Option Nat :=
  m.ripRoutes.findIdx? fun q => q.route = some route

def findRouteByInterface (m : RIPRouting) (ie : InterfaceRef) (type : RouteType) : Option Nat :=
  m.ripRoutes.findIdx? fun q => q.type = type ∧ q.ie = some ie

def addInterface (m : RIPRouting) (ie : InterfaceRef) (config : Option InterfaceConfig) : Sim RIPRouting := do
  let ripInterface ← RIPInterfaceEntry.new ie config
  return { m with ripInterfaces := m.ripInterfaces ++ [ripInterface] }

/-- Change the object at position `i`. -/
def modifyRoute (m : RIPRouting) (i : Nat) (f : RIPRoute → RIPRoute) : RIPRouting :=
  { m with ripRoutes := m.ripRoutes.modify i f }

def triggerUpdate (m : RIPRouting) : RIPRouting :=
  if m.triggeredUpdateTimer.isSome then m
  else
    let updateTime := m.simTime + m.triggeredUpdateDelay m.draws
    -- Triggered updates may be suppressed if a regular
    -- update is due by the time the triggered update would be sent.
    let scheduled := match m.updateTimer with
      | some arrivalTime => if arrivalTime > updateTime then some updateTime else none
      | none => some updateTime
    { m with draws := m.draws + 1, triggeredUpdateTimer := scheduled }

/-- What a route without an IPv4 route becomes when it is invalidated. -/
def invalidated (q : RIPRoute) : RIPRoute :=
  { q with route := none, metric := RIP_INFINITE_METRIC, changed := true }

/-- `NF_IPv4_ROUTE_DELETED`: remove references to the deleted route and invalidate the RIP route. -/
def routeDeleted (m : RIPRouting) (route : RouteRef) : RIPRouting :=
  if (m.rt.heap route).source = some this then m
  else
    let hits := m.ripRoutes.countP fun q => q.route = some route
    let m := { m with ripRoutes := m.ripRoutes.map fun q => if q.route = some route then invalidated q else q }
    triggerUpdate^[hits] m

/-- `rt->deleteRoute`, and the notification. -/
def deleteIPv4Route (m : RIPRouting) (route : RouteRef) : RIPRouting :=
  if route ∈ m.rt.routes then { m.routeDeleted route with rt := m.rt.deleteRoute route } else m

/-- The notification about the default route that is replaced when `route` is put into the table. -/
def replaceDefaultRoute (m : RIPRouting) (route : RouteRef) : RIPRouting :=
  if (m.rt.heap route).netmask = 0 then
    match m.rt.getDefaultRoute with
    | none => m
    | some oldDefaultRoute => m.routeDeleted oldDefaultRoute
  else m

/-- `new IPv4Route()`, with its fields set. -/
def newIPv4Route (m : RIPRouting) (entry : IPv4Route) : RIPRouting :=
  { m with nextRef := m.nextRef + 1, rt := m.rt.store m.nextRef entry }

def addIPv4Route (m : RIPRouting) (dest : IPv4Address) (prefixLength : Int) (ie : InterfaceRef)
    (nextHop : IPv4Address) (metric : Nat) : Sim (RIPRouting × RouteRef) := do
  let netmask ← makeNetmask prefixLength
  let route := m.nextRef
  let m := m.newIPv4Route {
    sourceType := .RIP
    source := some this
    dest := dest
    netmask := netmask
    interfacePtr := some ie
    gateway := nextHop
    metric := metric }
  let rt ← m.rt.addRoute route
  return ({ m.replaceDefaultRoute route with rt := rt }, route)

/-- While a route is out of the table, with its new fields. -/
def without (m : RIPRouting) (route : RouteRef) (entry : IPv4Route) : RIPRouting :=
  { m with rt := { m.rt.store route entry with routes := m.rt.routes.erase route } }

def setInterface (m : RIPRouting) (i : Nat) (q : RIPRoute) (ie : InterfaceRef) : Sim RIPRouting :=
  let m := m.modifyRoute i fun q => { q with ie := some ie }
  match q.route, q.type with
  | some route, .RIP_ROUTE_RTE => do return { m with rt := ← m.rt.setInterface route (some ie) }
  | _, _ => pure m

/-- The metric decides where the IPv4 route stands, so it is taken out and put in again. -/
def setMetric (m : RIPRouting) (i : Nat) (q : RIPRoute) (metric : Nat) : Sim RIPRouting :=
  let m := m.modifyRoute i fun q => { q with metric := metric }
  match q.route, q.type with
  | some route, .RIP_ROUTE_RTE =>
    if (m.rt.heap route).metric ≠ metric ∧ (m.rt.heap route).inTable then do
      let m' := m.without route { m.rt.heap route with metric := metric }
      return { m'.replaceDefaultRoute route with rt := ← m.rt.setMetric route metric }
    else do return { m with rt := ← m.rt.setMetric route metric }
  | _, _ => pure m

def invalidateRoute (m : RIPRouting) (i : Nat) : RIPRouting :=
  match m.ripRoutes[i]? with
  | none => m
  | some ripRoute =>
    let m := m.modifyRoute i fun q => { q with route := none }
    let m := match ripRoute.route with
      | some route => m.deleteIPv4Route route
      | none => m
    (m.modifyRoute i fun q => { q with metric := RIP_INFINITE_METRIC, changed := true }).triggerUpdate

def purgeRoute (m : RIPRouting) (i : Nat) : RIPRouting :=
  match m.ripRoutes[i]? with
  | none => m
  | some ripRoute =>
    let m := match ripRoute.route with
      | some route => (m.modifyRoute i fun q => { q with route := none }).deleteIPv4Route route
      | none => m
    { m with ripRoutes := m.ripRoutes.eraseIdx i }

/-- Is a learned route to be taken for lost at the time `now`? -/
def expired (m : RIPRouting) (q : RIPRoute) (now : Nat) : Prop :=
  q.type = .RIP_ROUTE_RTE ∧ q.lastUpdateTime + m.routeExpiryTime ≤ now
deriving Decidable

/-- The module afterwards, and whether the route is valid. -/
def checkRouteIsExpired (m : RIPRouting) (i : Nat) (route : RIPRoute) : RIPRouting × Bool :=
  if route.type = .RIP_ROUTE_RTE then
    if m.simTime ≥ route.lastUpdateTime + m.routeExpiryTime + m.routePurgeTime then (m.purgeRoute i, false)
    else if m.simTime ≥ route.lastUpdateTime + m.routeExpiryTime then (m.invalidateRoute i, false)
    else (m, true)
  else (m, true)

/-- Negative where an entry is longer than what the link takes. -/
def maxEntries (m : RIPRouting) (ie : InterfaceRef) : Int :=
  match m.mode with
  | .RIPv2 => 25
  | .RIPng =>
    let mtu := (m.ift.find? fun i => i.ie = ie).elim 0 InterfaceEntry.mtu
    Int.tdiv (mtu - IPv6_HEADER_BYTES - UDP_HEADER_BYTES - RIP_HEADER_SIZE) RIP_RTE_SIZE

/-- Split Horizon, with or without Poisoned Reverse: the metric that is sent. -/
def splitHorizon (ripInterface : RIPInterfaceEntry) (ripRoute : RIPRoute) : Option Nat :=
  if ripRoute.ie = some ripInterface.ie then
    match ripInterface.mode with
    | .SPLIT_HORIZON => none
    | .SPLIT_HORIZON_POISONED_REVERSE => some RIP_INFINITE_METRIC
    | _ => some ripRoute.metric
  else some ripRoute.metric

def fillEntry (ripRoute : RIPRoute) (metric : Nat) : RIPEntry where
  address := ripRoute.dest
  prefixLength := ripRoute.prefixLength
  routeTag := ripRoute.tag
  metric := metric

/-- One turn of the loop of `sendRoutes`, for the route at position `i`. `packet` is what has been
filled in, `sent` the packets that were full. -/
def sendRoute (ripInterface : RIPInterfaceEntry) (changedOnly : Bool) (maxEntries : Nat) (i : Nat)
    (ripRoute : RIPRoute) (m : RIPRouting) (packet : List RIPEntry) (sent : List RIPPacket) :
    Sim (RIPRouting × List RIPEntry × List RIPPacket) :=
  let (m, valid) := m.checkRouteIsExpired i ripRoute
  if ¬ valid then .ok (m, packet, sent)
  else if changedOnly ∧ ¬ ripRoute.changed then .ok (m, packet, sent)
  else
    match splitHorizon ripInterface ripRoute with
    | none => .ok (m, packet, sent)
    | some metric =>
      if packet.length ≥ maxEntries then .error (.outOfBounds "entry")
      else
        let packet := packet ++ [fillEntry ripRoute metric]
        -- if packet is full, then send it and allocate a new one
        if packet.length ≥ maxEntries then .ok (m, [], sent ++ [⟨RIP_RESPONSE, packet⟩])
        else .ok (m, packet, sent)

/-- Send last packet if it has entries. -/
def lastPacket (packet : List RIPEntry) (sent : List RIPPacket) : List RIPPacket :=
  if packet = [] then sent else sent ++ [⟨RIP_RESPONSE, packet⟩]

/-- The loop of `sendRoutes` from position `i` on, which ends after `n` turns at the latest. An
iterator that is moved beyond the end reads what lies behind the vector. -/
def sendLoop (ripInterface : RIPInterfaceEntry) (changedOnly : Bool) (maxEntries : Nat) :
    Nat → Nat → RIPRouting → List RIPEntry → List RIPPacket → Sim (RIPRouting × List RIPPacket)
  | 0, i, m, packet, sent =>
    if i = m.ripRoutes.length then .ok (m, lastPacket packet sent) else .error (.outOfBounds "ripRoutes")
  | n + 1, i, m, packet, sent =>
    if i = m.ripRoutes.length then .ok (m, lastPacket packet sent)
    else
      match m.ripRoutes[i]? with
      | none => .error (.outOfBounds "ripRoutes")
      | some ripRoute => do
        let (m, packet, sent) ← sendRoute ripInterface changedOnly maxEntries i ripRoute m packet sent
        sendLoop ripInterface changedOnly maxEntries n (i + 1) m packet sent

def sendPacket (packet : RIPPacket) (destAddr : IPv4Address) (destPort : Nat) (destInterface : InterfaceRef) : Sent :=
  ⟨packet, destAddr, destPort, if isMulticast destAddr then some destInterface else none⟩

def sendRoutes (m : RIPRouting) (address : IPv4Address) (port : Nat) (ripInterface : RIPInterfaceEntry)
    (changedOnly : Bool) : Sim (RIPRouting × List Sent) := do
  -- the size of the array is taken for an unsigned number, and there is no memory for so many entries
  if m.maxEntries ripInterface.ie < 0 then throw (.runtime "std::bad_alloc")
  let (m, packets) ← sendLoop ripInterface changedOnly (m.maxEntries ripInterface.ie).toNat m.ripRoutes.length 0 m [] []
  return (m, packets.map fun packet => sendPacket packet address port ripInterface.ie)

/-- Send on one interface after the other. -/
def sendOnInterfaces (triggered : Bool) : List RIPInterfaceEntry → RIPRouting → Sim (RIPRouting × List Sent)
  | [], m => .ok (m, [])
  | i :: ripInterfaces, m => do
    if i.mode = .NO_RIP then sendOnInterfaces triggered ripInterfaces m
    else
      let (m, sent) ← m.sendRoutes ALL_RIP_ROUTERS_MCAST m.ripUdpPort i triggered
      let (m, rest) ← sendOnInterfaces triggered ripInterfaces m
      return (m, sent ++ rest)

def processUpdate (m : RIPRouting) (triggered : Bool) : Sim (RIPRouting × List Sent) := do
  let (m, sent) ← sendOnInterfaces triggered m.ripInterfaces m
  -- clear changed flags
  return ({ m with ripRoutes := m.ripRoutes.map fun q => { q with changed := false } }, sent)

def sendRIPRequest (m : RIPRouting) (ripInterface : RIPInterfaceEntry) : Sent :=
  sendPacket ⟨RIP_REQUEST, [{ addressFamilyId := RIP_AF_NONE, metric := RIP_INFINITE_METRIC }]⟩
    ALL_RIP_ROUTERS_MCAST m.ripUdpPort ripInterface.ie

/-- Fill in the metrics of the requested prefixes. -/
def fillRequest (m : RIPRouting) (numEntries : Nat) : List RIPEntry → Sim (List RIPEntry)
  | [] => .ok []
  | entry :: entries =>
    if entry.addressFamilyId = RIP_AF_NONE then .error (.runtime "RIP: invalid request.")
    else if entry.addressFamilyId = RIP_AF_INET then do
      let metric := match (m.findRoute entry.address entry.prefixLength).bind fun i => m.ripRoutes[i]? with
        | some ripRoute => ripRoute.metric
        | none => RIP_INFINITE_METRIC
      return { entry with metric := metric } :: (← m.fillRequest numEntries entries)
    else .error (.runtime "RIP: request has invalid addressFamilyId: %d.")

def processRequest (m : RIPRouting) (packet : RIPPacket) (ctrlInfo : UDPDataIndication) :
    Sim (RIPRouting × List Sent) :=
  match packet.entry with
  | [] => .ok (m, [])
  | entry :: entries =>
    if entry.addressFamilyId = RIP_AF_NONE ∧ entries = [] ∧ entry.metric = RIP_INFINITE_METRIC then
      match m.findInterfaceById ctrlInfo.interfaceId with
      | some ripInterface => m.sendRoutes ctrlInfo.srcAddr ctrlInfo.srcPort ripInterface false
      | none => .ok (m, [])
    else do
      let filled ← m.fillRequest packet.entry.length packet.entry
      return (m, [⟨⟨RIP_RESPONSE, filled⟩, ctrlInfo.srcAddr, ctrlInfo.srcPort, none⟩])

def isLocalAddress (m : RIPRouting) (addr : IPv4Address) : Bool :=
  m.ift.any fun i => i.ipv4Data.any fun data => data.1 == addr

/-- The first interface on whose network the address is decides. -/
def isNeighborAddress (m : RIPRouting) (addr : IPv4Address) : Bool :=
  addr != 0 &&
  match m.ift.find? fun i => i.ipv4Data.any fun data => IPv4Address.maskedAddrAreEqual addr data.1 data.2 with
  | some i => i.ipv4Data.any fun data => addr != data.1
  | none => false

def isValidEntry (mode : Mode) (entry : RIPEntry) : Bool :=
  -- check that metric is in range [1,16]
  decide (1 ≤ entry.metric) && decide (entry.metric ≤ RIP_INFINITE_METRIC) &&
  -- check that destination address is a unicast address
  isUnicast entry.address &&
  (mode == .RIPv2 || (decide (0 ≤ entry.prefixLength) && decide (entry.prefixLength ≤ 32)))

def isValidResponse (m : RIPRouting) (packet : RIPPacket) (ctrlInfo : UDPDataIndication) : Bool :=
  ctrlInfo.srcPort == m.ripUdpPort &&
  -- check that it is not our response (received own multicast message)
  !m.isLocalAddress ctrlInfo.srcAddr &&
  (match m.mode with
    | .RIPng => false  -- source address is not link-local
    | .RIPv2 => m.isNeighborAddress ctrlInfo.srcAddr) &&
  packet.entry.all (isValidEntry m.mode)

def addRoute (m : RIPRouting) (dest : IPv4Address) (prefixLength : Int) (ie : InterfaceRef) (nextHop : IPv4Address)
    (metric : Nat) (routeTag : Nat) (sender : IPv4Address) : Sim RIPRouting := do
  let (m, route) ← m.addIPv4Route dest prefixLength ie nextHop metric
  let ripRoute := { RIPRoute.new route (m.rt.heap route) .RIP_ROUTE_RTE metric routeTag with
    sender := sender
    lastUpdateTime := m.simTime
    changed := true }
  return triggerUpdate { m with ripRoutes := m.ripRoutes ++ [ripRoute] }

/-- Put the route into the host's table in the place of the one that was lost. -/
def revive (m : RIPRouting) (i : Nat) (q : RIPRoute) (ie : InterfaceRef) (nextHop : IPv4Address) (metric : Nat) :
    Sim RIPRouting := do
  let (m, route) ← m.addIPv4Route q.dest q.prefixLength ie nextHop metric
  return m.modifyRoute i fun q => { q with route := some route }

/-- The part of `updateRoute` that puts the IPv4 route right. -/
def replaceIPv4Route (m : RIPRouting) (i : Nat) (ripRoute : RIPRoute) (ie : InterfaceRef) (nextHop : IPv4Address)
    (metric : Nat) : Sim RIPRouting :=
  if ripRoute.metric = RIP_INFINITE_METRIC then
    if metric < RIP_INFINITE_METRIC then do
      ensure (ripRoute.route = none) "!ripRoute->getRoute()"
      let m := m.modifyRoute i fun q => { q with type := .RIP_ROUTE_RTE, nextHop := nextHop }
      m.revive i ripRoute ie nextHop metric
    else .ok m
  else
    match ripRoute.route with
    | none => .error (.assertion "route")
    | some route =>
      let m := (m.modifyRoute i fun q => { q with route := none }).deleteIPv4Route route
      let m := m.modifyRoute i fun q => { q with nextHop := nextHop }
      if metric < RIP_INFINITE_METRIC then m.revive i ripRoute ie nextHop metric else .ok m

def updateRoute (m : RIPRouting) (i : Nat) (ripRoute : RIPRoute) (ie : InterfaceRef) (nextHop : IPv4Address)
    (metric : Nat) (routeTag : Nat) (sender : IPv4Address) : Sim RIPRouting := do
  let m ← m.setInterface i ripRoute ie
  let m ← m.setMetric i ripRoute metric
  let m := m.modifyRoute i fun q => { q with sender := sender, tag := routeTag }
  let m ← m.replaceIPv4Route i ripRoute ie nextHop metric
  let m := (m.modifyRoute i fun q => { q with changed := true }).triggerUpdate
  return if metric = RIP_INFINITE_METRIC ∧ ripRoute.metric ≠ RIP_INFINITE_METRIC then m.invalidateRoute i
    else m.modifyRoute i fun q => { q with lastUpdateTime := m.simTime }

/-- What is done with a route when an entry for it comes with the metric `metric` by now. -/
def receiveEntry (m : RIPRouting) (i : Nat) (ripRoute : RIPRoute) (ie : InterfaceRef) (nextHop : IPv4Address)
    (metric : Nat) (routeTag : Nat) (srcAddr : IPv4Address) : Sim RIPRouting :=
  if (ripRoute.type = .RIP_ROUTE_STATIC ∨ ripRoute.type = .RIP_ROUTE_DEFAULT) ∧
      ripRoute.metric ≠ RIP_INFINITE_METRIC then .ok m
  else
    let m := if ripRoute.sender = srcAddr then m.modifyRoute i fun q => { q with lastUpdateTime := m.simTime } else m
    if (ripRoute.sender = srcAddr ∧ ripRoute.metric ≠ metric) ∨ metric < ripRoute.metric then
      m.updateRoute i ripRoute ie nextHop metric routeTag srcAddr
    else .ok m

def processEntry (m : RIPRouting) (incomingIe : RIPInterfaceEntry) (srcAddr : IPv4Address) (entry : RIPEntry) :
    Sim RIPRouting :=
  let metric := min (entry.metric + incomingIe.metric) RIP_INFINITE_METRIC
  let nextHop := if entry.nextHop = 0 then srcAddr else entry.nextHop
  match m.findRoute entry.address entry.prefixLength with
  | some i =>
    match m.ripRoutes[i]? with
    | some ripRoute => m.receiveEntry i ripRoute incomingIe.ie nextHop metric entry.routeTag srcAddr
    | none => .ok m
  | none =>
    if metric ≠ RIP_INFINITE_METRIC then
      m.addRoute entry.address entry.prefixLength incomingIe.ie nextHop metric entry.routeTag srcAddr
    else .ok m

def processEntries (m : RIPRouting) (incomingIe : RIPInterfaceEntry) (srcAddr : IPv4Address) :
    List RIPEntry → Sim RIPRouting
  | [] => .ok m
  | entry :: entries => do (← m.processEntry incomingIe srcAddr entry).processEntries incomingIe srcAddr entries

def processResponse (m : RIPRouting) (packet : RIPPacket) (ctrlInfo : UDPDataIndication) : Sim RIPRouting :=
  if ¬ m.isValidResponse packet ctrlInfo then .ok m
  else
    match m.findInterfaceById ctrlInfo.interfaceId with
    | none => .ok m
    | some incomingIe => m.processEntries incomingIe ctrlInfo.srcAddr packet.entry

def importRoute (m : RIPRouting) (route : RouteRef) (type : RouteType) (metric : Nat) : Sim RIPRouting := do
  ensure (metric < RIP_INFINITE_METRIC) "metric < RIP_INFINITE_METRIC"
  let entry := m.rt.heap route
  let ie ←
    if type = .RIP_ROUTE_INTERFACE then
      match entry.source with
      | some (.interface ie) => pure (some ie)
      | _ => throw (.runtime "check_and_cast(): cannot cast source to InterfaceEntry")
    else pure entry.interfacePtr
  let ripRoute := { RIPRoute.new route entry type metric 0 with ie := ie }
  return { m with ripRoutes := m.ripRoutes ++ [ripRoute] }

def configureInitialRoute (m : RIPRouting) (route : RouteRef) : Sim RIPRouting :=
  let entry := m.rt.heap route
  if m.isLoopbackInterfaceRoute entry then .ok m
  else
    match m.localInterface entry with
    | some ie => m.importRoute route .RIP_ROUTE_INTERFACE (m.getInterfaceMetric ie)
    | none =>
      if entry.netmask = 0 then m.importRoute route .RIP_ROUTE_DEFAULT 1
      else if isMulticast entry.dest then .ok m
      else m.importRoute route .RIP_ROUTE_STATIC 1

def configureInitialRoutes (m : RIPRouting) : List RouteRef → Sim RIPRouting
  | [] => .ok m
  | route :: routes => do (← m.configureInitialRoute route).configureInitialRoutes routes

/-- `config` gives the `<interface>` element that matches an interface. -/
def configureInterfaces (m : RIPRouting) (config : InterfaceRef → Option InterfaceConfig) :
    List InterfaceEntry → Sim RIPRouting
  | [] => .ok m
  | ie :: ift =>
    if ie.multicast ∧ ¬ ie.loopback then do
      (← m.addInterface ie.ie (config ie.ie)).configureInterfaces config ift
    else m.configureInterfaces config ift

def startRIPRouting (m : RIPRouting) (config : InterfaceRef → Option InterfaceConfig) :
    Sim (RIPRouting × List Sent) := do
  let m ← m.configureInterfaces config m.ift
  let m ← m.configureInitialRoutes m.rt.routes
  let active := m.ripInterfaces.filter fun i => i.mode ≠ .NO_RIP
  return ({ m with startupTimer := none, updateTimer := some (m.simTime + m.updateInterval) },
    active.map m.sendRIPRequest)

/-- Notifications and packets come only after the startup. -/
def started (m : RIPRouting) : Bool := m.startupTimer.isNone

/-- `NF_IPv4_ROUTE_ADDED`: add or update the RIP route. -/
def routeAdded (m : RIPRouting) (route : RouteRef) : Sim RIPRouting :=
  let entry := m.rt.heap route
  if ¬ m.started ∨ entry.source = some this ∨ m.isLoopbackInterfaceRoute entry then .ok m
  else
    match m.localInterface entry with
    | none => .ok m  -- TODO import external routes from other routing daemons
    | some ie =>
      match m.findRouteByInterface ie .RIP_ROUTE_INTERFACE with
      | some i =>  -- readded
        let m := m.modifyRoute i fun q =>
          { q with route := some route, metric := m.getInterfaceMetric ie, changed := true }
        .ok m.triggerUpdate
      | none => m.importRoute route .RIP_ROUTE_INTERFACE (m.getInterfaceMetric ie)

/-- `NF_IPv4_ROUTE_CHANGED`. -/
def routeChanged (m : RIPRouting) (route : RouteRef) : Sim RIPRouting :=
  let entry := m.rt.heap route
  if entry.source = some this then .ok m
  else
    match m.findRouteByRef route with
    | none => .ok m
    | some i =>
      match m.ripRoutes[i]? with
      | none => .ok m
      | some ripRoute => do
        let changed : Prop := entry.dest ≠ ripRoute.dest ∨ entry.netmask ≠ (← makeNetmask ripRoute.prefixLength) ∨
          entry.gateway ≠ ripRoute.nextHop ∨ entry.interfacePtr ≠ ripRoute.ie
        let m := m.modifyRoute i fun q => { q with
          dest := entry.dest
          prefixLength := getNetmaskLength entry.netmask
          nextHop := entry.gateway
          ie := entry.interfacePtr }
        if changed then return (m.modifyRoute i fun q => { q with changed := true }).triggerUpdate
        else return m

def deleteInterface (m : RIPRouting) (ie : InterfaceRef) : RIPRouting :=
  { m with
    ripInterfaces := m.ripInterfaces.filter fun i => i.ie ≠ ie
    ripRoutes := m.ripRoutes.filter fun q => q.ie ≠ some ie }

/-- The loop of `invalidateRoutes` over the positions. -/
def invalidateRoutes (m : RIPRouting) (ie : InterfaceRef) : List Nat → RIPRouting
  | [] => m
  | i :: positions =>
    if (m.ripRoutes[i]?).any fun q => q.ie = some ie then (m.invalidateRoute i).invalidateRoutes ie positions
    else m.invalidateRoutes ie positions

inductive Event where
  /-- Time passes, up to the next timer. -/
  | advance (time : Nat)
  | startup (config : InterfaceRef → Option InterfaceConfig)
  | updateTimer
  | triggeredUpdateTimer
  | packet (packet : RIPPacket) (ctrlInfo : UDPDataIndication)
  | interfaceCreated (entry : InterfaceEntry) (config : Option InterfaceConfig)
  | interfaceDeleted (ie : InterfaceRef)
  | interfaceStateChanged (ie : InterfaceRef) (isUp : Bool)
  /-- Another module adds a route with `addRoute`. -/
  | addRoute (route : IPv4Route)
  /-- `updateNetmaskRoutes` adds a route, after it has deleted the old ones. -/
  | addNetmaskRoute (route : IPv4Route)
  /-- Another module, or the table itself, removes a route. -/
  | deleteRoute (route : RouteRef)
  /-- A setter of a route is called. -/
  | changeRoute (route : RouteRef) (entry : IPv4Route) (fieldCode : RoutingTable.FieldCode)

/-- The timers that are scheduled do not let time pass beyond them. -/
def nextTime (m : RIPRouting) (time : Nat) : Nat :=
  [m.startupTimer, m.updateTimer, m.triggeredUpdateTimer].foldl (fun t timer => min t (timer.getD t)) (m.simTime + time)

def deleteInterfaceRoutes (m : RIPRouting) : List RouteRef → RIPRouting
  | [] => m
  | route :: routes => (m.deleteIPv4Route route).deleteInterfaceRoutes routes

def changeIPv4Route (m : RIPRouting) (route : RouteRef) (entry : IPv4Route) (fieldCode : RoutingTable.FieldCode) :
    Sim RIPRouting := do
  let rt ← m.rt.change route entry fieldCode
  if entry = m.rt.heap route ∨ ¬ (m.rt.heap route).inTable then return { m with rt := rt }
  else
    let m := if fieldCode = .F_DESTINATION ∨ fieldCode = .F_NETMASK ∨ fieldCode = .F_METRIC then
        (m.without route entry).replaceDefaultRoute route
      else m
    { m with rt := rt }.routeChanged route

def step (m : RIPRouting) : Event → Sim (RIPRouting × List Sent)
  | .advance time => .ok ({ m with rt := { m.rt with simTime := m.nextTime time } }, [])
  | .startup config => if m.startupTimer = some m.simTime then m.startRIPRouting config else .ok (m, [])
  | .updateTimer =>
    if m.updateTimer = some m.simTime then do
      let (m, sent) ← { m with updateTimer := none }.processUpdate false
      return ({ m with updateTimer := some (m.simTime + m.updateInterval) }, sent)
    else .ok (m, [])
  | .triggeredUpdateTimer =>
    if m.triggeredUpdateTimer = some m.simTime then { m with triggeredUpdateTimer := none }.processUpdate true
    else .ok (m, [])
  | .packet packet ctrlInfo =>
    if ¬ m.started then .ok (m, [])
    else if packet.command = RIP_REQUEST then m.processRequest packet ctrlInfo
    else if packet.command = RIP_RESPONSE then do return (← m.processResponse packet ctrlInfo, [])
    else .error (.runtime "RIP: unknown command (%d)")
  | .interfaceCreated entry config => do
    let m := { m with ift := m.ift ++ [entry] }
    -- configure interface for RIP
    if m.started ∧ entry.multicast ∧ ¬ entry.loopback ∧ config.isSome then
      return (← m.addInterface entry.ie config, [])
    else return (m, [])
  | .interfaceDeleted ie =>
    -- the routing table subscribed first
    let m := m.deleteInterfaceRoutes (m.rt.routes.filter fun route => (m.rt.heap route).interfacePtr = some ie)
    let m := { m with ift := m.ift.filter fun i => i.ie ≠ ie }
    .ok (m.deleteInterface ie, [])
  | .interfaceStateChanged ie isUp =>
    if ¬ m.started then .ok (m, [])
    else if ¬ isUp then .ok (m.invalidateRoutes ie (List.range m.ripRoutes.length), [])
    else
      match m.findInterfaceById ie with
      | some ripInterface =>
        if ripInterface.mode ≠ .NO_RIP then .ok (m, [m.sendRIPRequest ripInterface]) else .ok (m, [])
      | none => .ok (m, [])
  | .addRoute route => do
    let e := m.nextRef
    let m := m.newIPv4Route route
    let rt ← m.rt.addRoute e
    return (← { m.replaceDefaultRoute e with rt := rt }.routeAdded e, [])
  | .addNetmaskRoute route => do
    let e := m.nextRef
    let m := m.newIPv4Route { route with inTable := true }
    return (← { m with rt := (m.rt.insertRoute e).invalidateCache }.routeAdded e, [])
  | .deleteRoute route => .ok (m.deleteIPv4Route route, [])
  | .changeRoute route entry fieldCode => do return (← m.changeIPv4Route route entry fieldCode, [])

/-- The module after the events, and everything it has sent. -/
def run (m : RIPRouting) : List Event → Sim (RIPRouting × List Sent)
  | [] => .ok (m, [])
  | event :: events => do
    let (m, sent) ← m.step event
    let (m, rest) ← m.run events
    return (m, sent ++ rest)

end RIPRouting

end Inet.Rip
