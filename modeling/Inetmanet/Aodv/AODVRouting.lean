import Inetmanet.Aodv.AODVRoutes

/-!
# The AODV module

`AODVRouting.cc` on a node that stays up. Times are raw `simtime_t` values, one tick
a picosecond; `unsigned int` is 32 bits wide. The jitter of a packet is not part of
it: `jitter` says whether it is sent with one.
-/
namespace Inet.Aodv

open Ipv4

def SimTime.second : Int := 10 ^ 12
def SimTime.getMaxTime : Int := 2 ^ 63 - 1

/-- Milliseconds. -/
def SimTime.ms (n : Int) : Int := n * 10 ^ 9

/-- `std::map`; the order of its keys is never used. -/
abbrev StdMap (α β : Type) := AList fun _ : α => β

structure UnreachableNode where
  addr : IPv4Address
  seqNum : BitVec 32
  deriving DecidableEq, Repr

/-- Fields of the packets that are neither set nor read are left out. -/
structure AODVRREQ where
  gratuitousRREPFlag : Bool := false
  unknownSeqNumFlag : Bool := false
  hopCount : BitVec 32 := 0
  rreqId : BitVec 32 := 0
  destAddr : IPv4Address := 0
  destSeqNum : BitVec 32 := 0
  originatorAddr : IPv4Address := 0
  originatorSeqNum : BitVec 32 := 0
  deriving DecidableEq, Repr

structure AODVRREP where
  ackRequiredFlag : Bool := false
  hopCount : BitVec 32 := 0
  destAddr : IPv4Address := 0
  destSeqNum : BitVec 32 := 0
  originatorAddr : IPv4Address := 0
  originatorSeqNum : BitVec 32 := 0
  lifeTime : Int := 0
  deriving DecidableEq, Repr

structure AODVRERR where
  unreachableNodes : List UnreachableNode := []
  deriving DecidableEq, Repr

inductive AODVControlPacket where
  | RREQ (rreq : AODVRREQ)
  | RREP (rrep : AODVRREP)
  | RERR (rerr : AODVRERR)
  | RREPACK
  deriving DecidableEq, Repr

/-- The timer for a Route Reply; its `destAddr` is the key it is stored under. -/
structure WaitForRREP where
  lastTTL : BitVec 32
  fromInvalidEntry : Bool
  /-- The arrival time, if the timer is scheduled. -/
  scheduled : Option Int
  deriving DecidableEq, Repr

/-- With the defaults of `AODVRouting.ned`. -/
structure Parameters where
  askGratuitousRREP : Bool := false
  useHelloMessages : Bool := false
  activeRouteTimeout : Int := SimTime.ms 3000
  helloInterval : Int := SimTime.ms 1000
  allowedHelloLoss : BitVec 32 := 2
  netDiameter : BitVec 32 := 35
  nodeTraversalTime : Int := SimTime.ms 40
  rerrRatelimit : BitVec 32 := 10
  rreqRetries : BitVec 32 := 2
  rreqRatelimit : BitVec 32 := 10
  timeoutBuffer : BitVec 32 := 2
  ttlStart : BitVec 32 := 2
  ttlIncrement : BitVec 32 := 2
  ttlThreshold : BitVec 32 := 7
  myRouteTimeout : Int := SimTime.ms 6000
  deletePeriod : Int := SimTime.ms 15000
  blacklistTimeout : Int := SimTime.ms 5600
  netTraversalTime : Int := SimTime.ms 2800
  nextHopWait : Int := SimTime.ms 50
  pathDiscoveryTime : Int := SimTime.ms 5600

/-- What the module hands to the network layer. -/
inductive Output where
  | sent (packet : AODVControlPacket) (destAddr : IPv4Address) (timeToLive : BitVec 32) (jitter : Bool)
  | reinjected (datagram : IPv4Datagram)
  deriving DecidableEq

/-- The state of route discovery. -/
structure RouteDiscovery where
  waitForRREPTimers : StdMap IPv4Address WaitForRREP := ∅
  /-- Number of re-discovery attempts per address. -/
  addressToRreqRetries : StdMap IPv4Address (BitVec 32) := ∅
  /-- The datagrams there is no route for, in the order they came; their keys are their destinations. -/
  targetAddressToDelayedPackets : List IPv4Datagram := []
  /-- Number of RREQs originated in the last second. -/
  rreqCount : BitVec 32 := 0

structure AODVRouting where
  -- environment
  routerId : IPv4Address
  localAddresses : List IPv4Address
  otherRoutes : List OtherRoute := []
  simTime : Int := 0
  par : Parameters
  /-- The routes of this module. -/
  table : AODVRoutes := ∅
  -- state
  rreqId : BitVec 32 := 0
  sequenceNum : BitVec 32 := 0
  discovery : RouteDiscovery := {}
  /-- Keyed by RREQ identifiers, of which `RREQIdentifierCompare` compares the `rreqID` only. -/
  rreqsArrivalTime : StdMap (BitVec 32) Int := ∅
  failedNextHop : IPv4Address := 0
  blacklist : StdMap IPv4Address Int := ∅
  rerrCount : BitVec 32 := 0
  lastBroadcastTime : Int := 0
  rebootTime : Int := 0
  -- the arrival times of the self messages that are scheduled
  helloMsgTimer : Option Int := none
  expungeTimer : Option Int := none
  counterTimer : Option Int := none
  rrepAckTimer : Option Int := none
  blacklistTimer : Option Int := none
  /-- What has been sent so far. -/
  output : List Output := []

namespace IPv4Address

def isUnspecified (addr : IPv4Address) : Bool := addr == 0
def ALLONES_ADDRESS : IPv4Address := BitVec.allOnes 32
def isLimitedBroadcastAddress (addr : IPv4Address) : Bool := addr == ALLONES_ADDRESS
def isMulticast (addr : IPv4Address) : Bool := addr &&& 0xF0000000#32 == 0xE0000000#32

end IPv4Address

namespace AODVRouting

open IPv4Address

variable (m : AODVRouting)

def getSelfIPAddress : IPv4Address := m.routerId

def isLocalAddress (addr : IPv4Address) : Bool := m.localAddresses.contains addr

/-- The best matching route to `dest`, if it is one of this module. -/
def findRoute (dest : IPv4Address) : Option AODVRoute := m.table.find? dest

def scheduleAt (t : Int) : Sim Int :=
  if t < m.simTime then throw (.runtime "Cannot schedule message to the past") else pure t

def nextExpungeTime : Int :=
  m.table.routes.foldl (fun next r => if r.lifeTime < next then r.lifeTime else next) SimTime.getMaxTime

/-- Rescheduling the timer for the time it is scheduled at changes nothing. -/
def scheduleExpungeRoutes : Sim AODVRouting :=
  if m.nextExpungeTime = SimTime.getMaxTime then pure { m with expungeTimer := none }
  else if m.expungeTimer = some m.nextExpungeTime then pure m
  else do
    let t ← m.scheduleAt m.nextExpungeTime
    return { m with expungeTimer := some t }

def modifyRoute (dest : IPv4Address) (f : AODVRoute → AODVRoute) : AODVRouting :=
  { m with table := m.table.modify dest f }

def createRoute (destAddr nextHop : IPv4Address) (hopCount : BitVec 32) (hasValidDestNum : Bool)
    (destSeqNum : BitVec 32) (isActive : Bool) (lifeTime : Int) : Sim AODVRouting :=
  let newRoute : AODVRoute :=
    { destination := destAddr, gateway := nextHop, metric := hopCount, active := isActive,
      validDestNum := hasValidDestNum, destSeqNum := destSeqNum, lifeTime := lifeTime }
  m.table.addRoute newRoute >>= fun table => { m with table := table }.scheduleExpungeRoutes

/-- `route` is the route to `destAddr`. -/
def updateRoutingTable (destAddr nextHop : IPv4Address) (hopCount : BitVec 32) (hasValidDestNum : Bool)
    (destSeqNum : BitVec 32) (isActive : Bool) (lifeTime : Int) : Sim AODVRouting :=
  (m.modifyRoute destAddr fun route =>
    { route with
      gateway := nextHop, metric := hopCount, lifeTime := lifeTime, destSeqNum := destSeqNum, active := isActive,
      validDestNum := hasValidDestNum }).scheduleExpungeRoutes

def updateValidRouteLifeTime (destAddr : IPv4Address) (lifetime : Int) : AODVRouting :=
  m.modifyRoute destAddr fun route =>
    if route.active then { route with lifeTime := max route.lifeTime lifetime } else route

def hasOngoingRouteDiscovery (target : IPv4Address) : Bool :=
  (m.discovery.waitForRREPTimers.lookup target).isSome

/-- The timer has gone off before. -/
def expungeRoutes : Sim AODVRouting :=
  { m with
    table := m.table.expunge m.simTime m.par.deletePeriod m.par.netTraversalTime m.hasOngoingRouteDiscovery
  }.scheduleExpungeRoutes

/-- Is this node past the wait of `Actions After Reboot`? -/
def rebooted : Bool := decide (m.rebootTime + m.par.deletePeriod < m.simTime) || m.rebootTime == 0

def sendAODVPacket (packet : AODVControlPacket) (destAddr : IPv4Address) (timeToLive : BitVec 32) (jitter : Bool) :
    Sim AODVRouting := do
  ensure (timeToLive ≠ 0) "timeToLive != 0"
  return { m with
    lastBroadcastTime := if isLimitedBroadcastAddress destAddr then m.simTime else m.lastBroadcastTime
    output := m.output ++ [.sent packet destAddr timeToLive jitter] }

def createRREQ (destAddr : IPv4Address) : AODVRREQ × AODVRouting :=
  let sequenceNum := m.sequenceNum + 1
  let rreqId := m.rreqId + 1
  let rreq : AODVRREQ :=
    { gratuitousRREPFlag := m.par.askGratuitousRREP, originatorSeqNum := sequenceNum,
      originatorAddr := m.getSelfIPAddress, destAddr := destAddr, rreqId := rreqId, hopCount := 0 }
  let rreq := match m.findRoute destAddr with
    | some lastKnownRoute =>
      if lastKnownRoute.validDestNum then
        { rreq with destSeqNum := lastKnownRoute.destSeqNum, unknownSeqNumFlag := false }
      else { rreq with unknownSeqNumFlag := true }
    | none => { rreq with unknownSeqNumFlag := true }
  (rreq, { m with
    sequenceNum := sequenceNum, rreqId := rreqId,
    rreqsArrivalTime := m.rreqsArrivalTime.insert rreqId m.simTime })

def setTimer (target : IPv4Address) (timer : WaitForRREP) : AODVRouting :=
  { m with discovery.waitForRREPTimers := m.discovery.waitForRREPTimers.insert target timer }

/-- The timer of the discovery with the TTL that is to be used next. -/
def nextRing (target : IPv4Address) (timeToLive : BitVec 32) : Sim (WaitForRREP × BitVec 32) :=
  match m.discovery.waitForRREPTimers.lookup target with
  | some rrepTimerMsg =>
    if timeToLive ≠ 0 then
      pure ({ rrepTimerMsg with lastTTL := timeToLive, fromInvalidEntry := true, scheduled := none }, timeToLive)
    else do
      ensure (rrepTimerMsg.scheduled = none) "!rrepTimerMsg->isScheduled()"
      let timeToLive :=
        if rrepTimerMsg.lastTTL + m.par.ttlIncrement < m.par.ttlThreshold then
          rrepTimerMsg.lastTTL + m.par.ttlIncrement
        else m.par.netDiameter
      return ({ rrepTimerMsg with lastTTL := timeToLive }, timeToLive)
  | none => pure ({ lastTTL := m.par.ttlStart, fromInvalidEntry := false, scheduled := none }, m.par.ttlStart)

def ringTraversalTime (timeToLive : BitVec 32) : Int :=
  2 * m.par.nodeTraversalTime * (timeToLive + m.par.timeoutBuffer).toNat

def sendRREQ (rreq : AODVRREQ) (destAddr : IPv4Address) (timeToLive : BitVec 32) : Sim AODVRouting :=
  if m.par.rreqRatelimit ≤ m.discovery.rreqCount then pure m
  else do
    let (rrepTimerMsg, timeToLive) ← m.nextRing rreq.destAddr timeToLive
    let t ← m.scheduleAt (m.simTime + m.ringTraversalTime timeToLive)
    let m := m.setTimer rreq.destAddr { rrepTimerMsg with scheduled := some t }
    let m ← m.sendAODVPacket (.RREQ rreq) destAddr timeToLive true
    return { m with discovery.rreqCount := m.discovery.rreqCount + 1 }

/-- The routes given are those to `rreq.destAddr` and `rreq.originatorAddr`. -/
def createRREP (rreq : AODVRREQ) (destRoute originatorRoute : Option AODVRoute) (lastHopAddr : IPv4Address) :
    Sim (AODVRREP × AODVRouting) :=
  let rrep : AODVRREP :=
    { destAddr := rreq.destAddr, originatorSeqNum := rreq.originatorSeqNum, originatorAddr := rreq.originatorAddr }
  if rreq.destAddr = m.getSelfIPAddress then
    let sequenceNum :=
      if ¬ rreq.unknownSeqNumFlag ∧ m.sequenceNum + 1 = rreq.destSeqNum then m.sequenceNum + 1 else m.sequenceNum
    pure ({ rrep with destSeqNum := sequenceNum, hopCount := 0, lifeTime := m.par.myRouteTimeout },
      { m with sequenceNum := sequenceNum })
  else match destRoute, originatorRoute with
    | some destRoute, some _ =>
      let m := m.modifyRoute rreq.destAddr fun r => r.addPrecursor lastHopAddr
      let m := m.modifyRoute rreq.originatorAddr fun r => r.addPrecursor destRoute.gateway
      pure ({ rrep with destSeqNum := destRoute.destSeqNum, hopCount := destRoute.metric,
                        lifeTime := destRoute.lifeTime - m.simTime }, m)
    | none, _ => throw (.nullPointer "destRoute")
    | _, none => throw (.nullPointer "originatorRoute")

/-- Remembers the neighbour and waits for its acknowledgement, if the link to it may be unidirectional. -/
def requireAck (destRoute : AODVRoute) (rrep : AODVRREP) : Sim (AODVRREP × AODVRouting) :=
  if destRoute.metric = 1 then do
    let t ← m.scheduleAt (m.simTime + m.par.nextHopWait)
    return ({ rrep with ackRequiredFlag := true },
      { m with failedNextHop := destRoute.gateway, rrepAckTimer := some t })
  else pure (rrep, m)

def sendRREP (rrep : AODVRREP) (destAddr : IPv4Address) (timeToLive : BitVec 32) : Sim AODVRouting :=
  match m.findRoute destAddr with
  | none => throw (.nullPointer "destRoute")
  | some destRoute => do
    let m := m.modifyRoute destAddr fun r => r.addPrecursor destRoute.gateway
    let (rrep, m) ← m.requireAck destRoute rrep
    m.sendAODVPacket (.RREP rrep) destRoute.gateway timeToLive false

def createGratuitousRREP (rreq : AODVRREQ) (originatorRoute : AODVRoute) : AODVRREP :=
  { hopCount := originatorRoute.metric, destAddr := rreq.originatorAddr, destSeqNum := rreq.originatorSeqNum,
    originatorAddr := rreq.destAddr, lifeTime := originatorRoute.lifeTime }

def sendGRREP (grrep : AODVRREP) (destAddr : IPv4Address) (timeToLive : BitVec 32) : Sim AODVRouting :=
  match m.findRoute destAddr with
  | none => throw (.nullPointer "destRoute")
  | some destRoute => m.sendAODVPacket (.RREP grrep) destRoute.gateway timeToLive false

/-- The caller's `timeToLive` is not used. -/
def forwardRREP (rrep : AODVRREP) (destAddr : IPv4Address) (_timeToLive : BitVec 32) : Sim AODVRouting :=
  m.sendAODVPacket (.RREP rrep) destAddr 100 true

def forwardRREQ (rreq : AODVRREQ) (timeToLive : BitVec 32) : Sim AODVRouting :=
  m.sendAODVPacket (.RREQ rreq) ALLONES_ADDRESS timeToLive true

def sendRREPACK (destAddr : IPv4Address) : Sim AODVRouting := m.sendAODVPacket .RREPACK destAddr 100 false

def createRERR (unreachableNodes : List UnreachableNode) : AODVRERR := { unreachableNodes := unreachableNodes }

def startRouteDiscovery (target : IPv4Address) (timeToLive : BitVec 32) : Sim AODVRouting := do
  ensure (m.hasOngoingRouteDiscovery target = false) "!hasOngoingRouteDiscovery(target)"
  let (rreq, m) := m.createRREQ target
  let m := { m with discovery.addressToRreqRetries := m.discovery.addressToRreqRetries.insert target 0 }
  m.sendRREQ rreq ALLONES_ADDRESS timeToLive

def delayDatagram (datagram : IPv4Datagram) : AODVRouting :=
  { m with
    discovery.targetAddressToDelayedPackets := m.discovery.targetAddressToDelayedPackets ++ [datagram] }

def delayedTo (target : IPv4Address) : List IPv4Datagram :=
  m.discovery.targetAddressToDelayedPackets.filter fun d => d.destAddress = target

def completeRouteDiscovery (target : IPv4Address) : Sim AODVRouting := do
  ensure (m.hasOngoingRouteDiscovery target = true) "hasOngoingRouteDiscovery(target)"
  return { m with
    output := m.output ++ (m.delayedTo target).map .reinjected
    discovery.targetAddressToDelayedPackets :=
      m.discovery.targetAddressToDelayedPackets.filter fun d => d.destAddress ≠ target
    discovery.waitForRREPTimers := m.discovery.waitForRREPTimers.erase target }

/-- `rrepTimer` is the timer of the discovery of `destAddr`, which has gone off. -/
def handleWaitForRREP (destAddr : IPv4Address) (rrepTimer : WaitForRREP) : Sim AODVRouting :=
  match m.discovery.addressToRreqRetries.lookup destAddr with
  | none => throw (.assertion "addressToRreqRetries.find(destAddr) != addressToRreqRetries.end()")
  | some retries =>
    if retries = m.par.rreqRetries then pure m
    else
      let (rreq, m) := m.createRREQ destAddr
      let m :=
        if rrepTimer.lastTTL = m.par.netDiameter then
          { m with discovery.addressToRreqRetries := m.discovery.addressToRreqRetries.insert destAddr (retries + 1) }
        else m
      m.sendRREQ rreq ALLONES_ADDRESS 0

/-- The route to the node a RREQ or a RREP comes from. -/
def updatePreviousHopRoute (sourceAddr : IPv4Address) (originatorSeqNum : BitVec 32) : Sim AODVRouting :=
  match m.findRoute sourceAddr with
  | none =>
    m.createRoute sourceAddr sourceAddr 1 false originatorSeqNum true (m.simTime + m.par.activeRouteTimeout)
  | some _ =>
    m.updateRoutingTable sourceAddr sourceAddr 1 false originatorSeqNum true (m.simTime + m.par.activeRouteTimeout)

def handleHelloMessage (helloMessage : AODVRREP) : Sim AODVRouting :=
  let newLifeTime := m.simTime + m.par.allowedHelloLoss.toNat * m.par.helloInterval
  match m.findRoute helloMessage.destAddr with
  | none =>
    m.createRoute helloMessage.destAddr helloMessage.destAddr 1 true helloMessage.destSeqNum true newLifeTime
  | some routeHelloOriginator =>
    m.updateRoutingTable helloMessage.destAddr helloMessage.destAddr 1 true helloMessage.destSeqNum true
      (max routeHelloOriginator.lifeTime newLifeTime)

/-- Is the entry for the destination updated? The hop count of the RREP has been incremented. -/
def isUpdatedBy (destRoute : RouteEntry) (rrep : AODVRREP) : Prop :=
  ¬ destRoute.validDestNum ∨ destRoute.destSeqNum < rrep.destSeqNum ∨
    rrep.destSeqNum = destRoute.destSeqNum ∧ ¬ destRoute.active ∨
    rrep.destSeqNum = destRoute.destSeqNum ∧ rrep.hopCount < destRoute.metric
deriving Decidable

def updateForwardRoute (rrep : AODVRREP) (sourceAddr : IPv4Address) : Sim AODVRouting :=
  match m.findRoute rrep.destAddr with
  | some destRoute =>
    if isUpdatedBy destRoute.toRouteEntry rrep then
      m.updateRoutingTable rrep.destAddr sourceAddr rrep.hopCount true rrep.destSeqNum true (m.simTime + rrep.lifeTime)
    else pure m
  | none => m.createRoute rrep.destAddr sourceAddr rrep.hopCount true rrep.destSeqNum true (m.simTime + rrep.lifeTime)

def acknowledgeRREP (rrep : AODVRREP) (sourceAddr : IPv4Address) : Sim AODVRouting :=
  if rrep.ackRequiredFlag then m.sendRREPACK sourceAddr else pure m

/-- The precursors of a RREP that is relayed to `nextHop`. -/
def addPrecursors (rrep : AODVRREP) (nextHop : IPv4Address) : Sim AODVRouting :=
  match m.findRoute rrep.destAddr with
  | none => throw (.nullPointer "destRoute")
  | some destRoute =>
    let m := m.modifyRoute rrep.destAddr fun r => r.addPrecursor nextHop
    match m.findRoute destRoute.gateway with
    | none => throw (.assertion "nextHopToDestRoute")
    | some _ => pure (m.modifyRoute destRoute.gateway fun r => r.addPrecursor nextHop)

/-- A RREP for another node goes on along the reverse route, if there is one. -/
def relayRREP (rrep : AODVRREP) (sourceAddr : IPv4Address) : Sim AODVRouting :=
  match m.findRoute rrep.originatorAddr with
  | none => pure m
  | some originatorRoute =>
    let m := m.modifyRoute rrep.originatorAddr fun r =>
      { r with lifeTime := max (m.simTime + m.par.activeRouteTimeout) r.lifeTime }
    if m.rebooted then do
      let m ← m.acknowledgeRREP rrep sourceAddr
      let m ← m.addPrecursors rrep originatorRoute.gateway
      m.forwardRREP { rrep with ackRequiredFlag := false } originatorRoute.gateway 100
    else pure m

/-- A RREP for this node. -/
def acceptRREP (rrep : AODVRREP) (sourceAddr : IPv4Address) : Sim AODVRouting :=
  if m.hasOngoingRouteDiscovery rrep.destAddr then do
    let m ← m.updateRoutingTable rrep.destAddr sourceAddr rrep.hopCount true rrep.destSeqNum true
      (m.simTime + rrep.lifeTime)
    m.completeRouteDiscovery rrep.destAddr
  else pure m

def handleRREP (rrep : AODVRREP) (sourceAddr : IPv4Address) : Sim AODVRouting :=
  if isUnspecified rrep.originatorAddr then m.handleHelloMessage rrep
  else do
    let m ← m.updatePreviousHopRoute sourceAddr rrep.originatorSeqNum
    let rrep := { rrep with hopCount := rrep.hopCount + 1 }
    let m ← m.updateForwardRoute rrep sourceAddr
    if m.getSelfIPAddress ≠ rrep.originatorAddr then m.relayRREP rrep sourceAddr
    else m.acceptRREP rrep sourceAddr

/-- `std::max` of the numbers read as `int`. -/
def maxSeqNum (routeSeqNum rreqSeqNum : BitVec 32) : BitVec 32 :=
  if routeSeqNum.slt rreqSeqNum then rreqSeqNum else routeSeqNum

/-- Is the reverse route updated? The hop count of the RREQ has been incremented. -/
def isReversedBy (reverseRoute : RouteEntry) (rreq : AODVRREQ) : Prop :=
  reverseRoute.destSeqNum.slt rreq.originatorSeqNum ∨
    rreq.originatorSeqNum = reverseRoute.destSeqNum ∧ rreq.hopCount.slt reverseRoute.metric ∨ rreq.unknownSeqNumFlag
deriving Decidable

def updateReverseRoute (rreq : AODVRREQ) (sourceAddr : IPv4Address) : Sim AODVRouting :=
  let minimalLifeTime := m.simTime + 2 * m.par.netTraversalTime - (2 * rreq.hopCount).toNat * m.par.nodeTraversalTime
  let newLifeTime := max m.simTime minimalLifeTime
  match m.findRoute rreq.originatorAddr with
  | none => m.createRoute rreq.originatorAddr sourceAddr rreq.hopCount true rreq.originatorSeqNum true newLifeTime
  | some reverseRoute =>
    if isReversedBy reverseRoute.toRouteEntry rreq then
      m.updateRoutingTable rreq.originatorAddr sourceAddr rreq.hopCount true
        (maxSeqNum reverseRoute.destSeqNum rreq.originatorSeqNum) true newLifeTime
    else pure m

/-- Has a RREQ with this identifier arrived within `PATH_DISCOVERY_TIME`? -/
def hasSeen (rreq : AODVRREQ) : Bool :=
  match m.rreqsArrivalTime.lookup rreq.rreqId with
  | some arrivalTime => decide (m.simTime - arrivalTime ≤ m.par.pathDiscoveryTime)
  | none => false

def sendGratuitousRREP (rreq : AODVRREQ) : Sim AODVRouting :=
  match m.findRoute rreq.originatorAddr with
  | none => throw (.assertion "originatorRoute != NULL")
  | some originatorRoute => m.sendGRREP (createGratuitousRREP rreq originatorRoute) rreq.destAddr 100

/-- A node answers for the destination it is or, as an intermediate node, has a route to. -/
def replyToRREQ (rreq : AODVRREQ) (destRoute : Option AODVRoute) (sourceAddr : IPv4Address) : Sim AODVRouting := do
  let (rrep, m) ← m.createRREP rreq destRoute (m.findRoute rreq.originatorAddr) sourceAddr
  m.sendRREP rrep rreq.originatorAddr 255

def relayRREQ (rreq : AODVRREQ) (destRoute : Option AODVRoute) (timeToLive : BitVec 32) : Sim AODVRouting :=
  if 0 < timeToLive ∧ m.rebooted then
    let destSeqNum := match destRoute with
      | some destRoute => if destRoute.destSeqNum < rreq.destSeqNum then rreq.destSeqNum else destRoute.destSeqNum
      | none => rreq.destSeqNum
    m.forwardRREQ { rreq with destSeqNum := destSeqNum, unknownSeqNumFlag := false } timeToLive
  else pure m

/-- Is the node's own route good enough to answer with? -/
def answers (destRoute : RouteEntry) (rreq : AODVRREQ) : Prop :=
  destRoute.active ∧ destRoute.validDestNum ∧ rreq.destSeqNum ≤ destRoute.destSeqNum
deriving Decidable

/-- An intermediate node does not answer with a route the RREQ came along. -/
def answerRREQ (rreq : AODVRREQ) (destRoute : AODVRoute) (sourceAddr : IPv4Address) : Sim AODVRouting :=
  if destRoute.gateway = sourceAddr then pure m
  else do
    let m ← m.replyToRREQ rreq (some destRoute) sourceAddr
    if rreq.gratuitousRREPFlag then m.sendGratuitousRREP rreq else pure m

def disseminateRREQ (rreq : AODVRREQ) (sourceAddr : IPv4Address) (timeToLive : BitVec 32) : Sim AODVRouting :=
  if rreq.destAddr = m.getSelfIPAddress then m.replyToRREQ rreq (m.findRoute rreq.destAddr) sourceAddr
  else match m.findRoute rreq.destAddr with
    | some destRoute =>
      if answers destRoute.toRouteEntry rreq then m.answerRREQ rreq destRoute sourceAddr
      else m.relayRREQ rreq (some destRoute) timeToLive
    | none => m.relayRREQ rreq none timeToLive

def handleRREQ (rreq : AODVRREQ) (sourceAddr : IPv4Address) (timeToLive : BitVec 32) : Sim AODVRouting :=
  if (m.blacklist.lookup sourceAddr).isSome then pure m
  else do
    let m ← m.updatePreviousHopRoute sourceAddr rreq.originatorSeqNum
    if m.hasSeen rreq then pure m
    else
      let m := { m with rreqsArrivalTime := m.rreqsArrivalTime.insert rreq.rreqId m.simTime }
      let rreq := { rreq with hopCount := rreq.hopCount + 1 }
      let m ← m.updateReverseRoute rreq sourceAddr
      m.disseminateRREQ rreq sourceAddr timeToLive

/-- What `handleRERR` does with a route over the sender for one listed node. -/
def handleUnreachableNode (route : AODVRoute) (acc : AODVRouting × List UnreachableNode) (node : UnreachableNode) :
    Sim (AODVRouting × List UnreachableNode) :=
  if route.destination = node.addr then do
    let m := acc.1
    let m ← (m.modifyRoute route.destination fun r =>
      { r with destSeqNum := node.seqNum, active := false, lifeTime := m.simTime + m.par.deletePeriod }
      ).scheduleExpungeRoutes
    return (m, if route.precursorList.length > 0 then acc.2 ++ [⟨route.destination, node.seqNum⟩] else acc.2)
  else return acc

def handleRERRForRoute (rerr : AODVRERR) (sourceAddr : IPv4Address) (acc : AODVRouting × List UnreachableNode)
    (route : AODVRoute) : Sim (AODVRouting × List UnreachableNode) :=
  if route.gateway = sourceAddr then rerr.unreachableNodes.foldlM (handleUnreachableNode route) acc
  else return acc

def handleRERR (rerr : AODVRERR) (sourceAddr : IPv4Address) : Sim AODVRouting := do
  let (m, unreachableNeighbors) ← m.table.routes.foldlM (handleRERRForRoute rerr sourceAddr) (m, [])
  if m.par.rerrRatelimit ≤ m.rerrCount then pure m
  else if unreachableNeighbors.length > 0 ∧ m.rebooted then do
    let m ← m.sendAODVPacket (.RERR (createRERR unreachableNeighbors)) ALLONES_ADDRESS 1 false
    return { m with rerrCount := m.rerrCount + 1 }
  else pure m

/-- What a link break does with a route. -/
def breakRoute (unreachableAddr : IPv4Address) (acc : AODVRouting × List UnreachableNode) (route : AODVRoute) :
    Sim (AODVRouting × List UnreachableNode) :=
  if route.gateway = unreachableAddr then do
    let m := acc.1
    let destSeqNum := if route.validDestNum then route.destSeqNum + 1 else route.destSeqNum
    let m ← (m.modifyRoute route.destination fun r =>
      { r with destSeqNum := destSeqNum, active := false, lifeTime := m.simTime + m.par.deletePeriod }
      ).scheduleExpungeRoutes
    return (m, acc.2 ++ [⟨route.destination, destSeqNum⟩])
  else return acc

/-- Only routes of this module carry the protocol data the loop casts to. -/
def handleLinkBreakSendRERR (unreachableAddr : IPv4Address) : Sim AODVRouting :=
  match m.findRoute unreachableAddr with
  | none => pure m
  | some unreachableRoute => do
    let (m, unreachableNodes) ← m.table.routes.foldlM (breakRoute unreachableAddr)
      (m, [⟨unreachableAddr, unreachableRoute.destSeqNum⟩])
    if m.otherRoutes.any fun route => route.gateway == unreachableAddr then
      throw (.runtime "check_and_cast(): cannot cast NULL pointer to type 'AODVRouteData *'")
    else if m.par.rerrRatelimit ≤ m.rerrCount then pure m
    else
      let m := { m with rerrCount := m.rerrCount + 1 }
      m.sendAODVPacket (.RERR (createRERR unreachableNodes)) ALLONES_ADDRESS 1 true

/-- The link break found when `datagram` was transmitted. -/
def receiveChangeNotification (datagram : IPv4Datagram) : Sim AODVRouting :=
  match m.findRoute datagram.destAddress with
  | some route => m.handleLinkBreakSendRERR route.gateway
  | none => pure m

def sendRERRWhenNoRouteToForward (unreachableAddr : IPv4Address) : Sim AODVRouting :=
  if m.par.rerrRatelimit ≤ m.rerrCount then pure m
  else
    let seqNum := match m.findRoute unreachableAddr with
      | some unreachableRoute => if unreachableRoute.validDestNum then unreachableRoute.destSeqNum else 0
      | none => 0
    let m := { m with rerrCount := m.rerrCount + 1 }
    m.sendAODVPacket (.RERR (createRERR [⟨unreachableAddr, seqNum⟩])) ALLONES_ADDRESS 1 true

def handleRREPACK (neighborAddr : IPv4Address) : Sim AODVRouting := do
  ensure (m.rrepAckTimer.isSome = true) "rrepAckTimer->isScheduled()"
  match m.findRoute neighborAddr with
  | some _ => return { m.modifyRoute neighborAddr fun r => { r with active := true } with rrepAckTimer := none }
  | none => return m

/-- The timer has gone off before. -/
def handleRREPACKTimer : Sim AODVRouting :=
  let m := { m with blacklist := m.blacklist.insert m.failedNextHop (m.simTime + m.par.blacklistTimeout) }
  match m.blacklistTimer with
  | some _ => pure m
  | none => do
    let t ← m.scheduleAt (m.simTime + m.par.blacklistTimeout)
    return { m with blacklistTimer := some t }

/-- Nodes are removed from the blacklist after `BLACKLIST_TIMEOUT`. The timer has gone off before. -/
def handleBlackListTimer : Sim AODVRouting :=
  let expired := m.blacklist.entries.filter fun e => e.2 ≤ m.simTime
  let blacklist := expired.foldl (fun blacklist e => blacklist.erase e.1) m.blacklist
  let nextTime := blacklist.entries.foldl (fun next e => if e.2 < next then e.2 else next) SimTime.getMaxTime
  let m := { m with blacklist := blacklist }
  if nextTime = SimTime.getMaxTime then pure m
  else do
    let t ← m.scheduleAt nextTime
    return { m with blacklistTimer := some t }

def createHelloMessage : AODVRREP :=
  { destAddr := m.getSelfIPAddress, destSeqNum := m.sequenceNum, hopCount := 0,
    lifeTime := m.par.allowedHelloLoss.toNat * m.par.helloInterval }

def needsHello : Bool :=
  m.table.routes.any (·.active) &&
    (m.lastBroadcastTime == 0 || decide (m.par.helloInterval < m.simTime - m.lastBroadcastTime))

def sendHelloMessage : Sim AODVRouting :=
  if m.needsHello then m.sendAODVPacket (.RREP m.createHelloMessage) ALLONES_ADDRESS 1 false else pure m

def sendHelloMessagesIfNeeded (periodicJitter : Int) : Sim AODVRouting := do
  ensure (m.par.useHelloMessages = true) "useHelloMessages"
  let m ← m.sendHelloMessage
  let t ← m.scheduleAt (m.simTime + m.par.helloInterval - periodicJitter)
  return { m with helloMsgTimer := some t }

def handleCounterTimer : Sim AODVRouting := do
  let t ← m.scheduleAt (m.simTime + SimTime.second)
  return { m with rerrCount := 0, discovery.rreqCount := 0, counterTimer := some t }

inductive Result where
  | ACCEPT | QUEUE
  deriving DecidableEq, Repr

/-- Datagrams the module lets pass: it does not route broadcasts, multicasts and what is for the node itself. -/
def isNotRouted (destAddr : IPv4Address) : Bool :=
  isLimitedBroadcastAddress destAddr || m.isLocalAddress destAddr || isMulticast destAddr

/-- `datagramPreRoutingHook` and `datagramLocalOutHook`. -/
def ensureRouteForDatagram (datagram : IPv4Datagram) : Sim (Result × AODVRouting) :=
  let destAddr := datagram.destAddress
  let sourceAddr := datagram.srcAddress
  if m.isNotRouted destAddr then pure (.ACCEPT, m)
  else
    let route := (m.findRoute destAddr).filter fun r => r.active && !isUnspecified r.gateway
    match route with
    | some route =>
      let m := m.updateValidRouteLifeTime destAddr (m.simTime + m.par.activeRouteTimeout)
      let m := m.updateValidRouteLifeTime route.gateway (m.simTime + m.par.activeRouteTimeout)
      pure (.ACCEPT, m)
    | none =>
      if isUnspecified sourceAddr || m.isLocalAddress sourceAddr then
        let m := m.delayDatagram datagram
        if m.hasOngoingRouteDiscovery destAddr then pure (.QUEUE, m)
        else do
          let timeToLive := match m.findRoute destAddr with
            | some route => if route.active then 0 else route.metric + m.par.ttlIncrement
            | none => 0
          let m ← m.startRouteDiscovery destAddr timeToLive
          return (.QUEUE, m)
      else pure (.ACCEPT, m)

/-- The next hop of a route that is used stays valid. -/
def updateNextHopLifeTime : Option AODVRoute → AODVRouting
  | some route => m.updateValidRouteLifeTime route.gateway (m.simTime + m.par.activeRouteTimeout)
  | none => m

/-- Source, destination and the next hops on the paths to them stay valid when a datagram is forwarded. -/
def updateLifeTimes (datagram : IPv4Datagram) : AODVRouting :=
  let ipSource := m.findRoute datagram.srcAddress
  let routeDest := m.findRoute datagram.destAddress
  let m := m.updateValidRouteLifeTime datagram.srcAddress (m.simTime + m.par.activeRouteTimeout)
  let m := m.updateValidRouteLifeTime datagram.destAddress (m.simTime + m.par.activeRouteTimeout)
  let m := m.updateNextHopLifeTime routeDest
  m.updateNextHopLifeTime ipSource

/-- The forward hook accepts every datagram. -/
def datagramForwardHook (datagram : IPv4Datagram) : Sim AODVRouting :=
  let destAddr := datagram.destAddress
  if m.isNotRouted destAddr then
    pure (if m.isLocalAddress destAddr then m.updateNextHopLifeTime (m.findRoute datagram.srcAddress) else m)
  else
    let routeDest := m.findRoute destAddr
    let m := m.updateLifeTimes datagram
    match routeDest with
    | some routeDest =>
      if routeDest.active then pure m
      else
        let m := m.modifyRoute destAddr fun r =>
          { r with
            destSeqNum := if r.validDestNum then r.destSeqNum + 1 else r.destSeqNum
            lifeTime := m.simTime + m.par.deletePeriod }
        m.sendRERRWhenNoRouteToForward destAddr
    | none => m.sendRERRWhenNoRouteToForward destAddr

/-- The arrival times of everything that is scheduled. -/
def pending : List Int :=
  [m.helloMsgTimer, m.expungeTimer, m.counterTimer, m.rrepAckTimer, m.blacklistTimer].filterMap id ++
    m.discovery.waitForRREPTimers.entries.filterMap fun e => e.2.scheduled

inductive Event where
  /-- Simulation time passes; nothing that is scheduled is skipped. -/
  | elapse (simTime : Int)
  /-- A datagram leaves the node or arrives at it. -/
  | datagramHook (datagram : IPv4Datagram)
  | datagramForwardHook (datagram : IPv4Datagram)
  | linkBreak (datagram : IPv4Datagram)
  | packet (packet : AODVControlPacket) (sourceAddr : IPv4Address) (timeToLive : BitVec 32)
  -- self messages
  | waitForRREP (destAddr : IPv4Address)
  | helloMsgTimer (periodicJitter : Int)
  | expungeTimer
  | counterTimer
  | rrepAckTimer
  | blacklistTimer
  deriving DecidableEq

def handlePacket (sourceAddr : IPv4Address) (timeToLive : BitVec 32) : AODVControlPacket → Sim AODVRouting
  | .RREQ rreq => m.handleRREQ rreq sourceAddr timeToLive
  | .RREP rrep => m.handleRREP rrep sourceAddr
  | .RERR rerr => m.handleRERR rerr sourceAddr
  | .RREPACK => m.handleRREPACK sourceAddr

/-- The timer of the discovery of `destAddr` goes off. -/
def waitForRREPTimer (destAddr : IPv4Address) : Sim AODVRouting :=
  match m.discovery.waitForRREPTimers.lookup destAddr with
  | some timer =>
    if timer.scheduled = some m.simTime then
      (m.setTimer destAddr { timer with scheduled := none }).handleWaitForRREP destAddr timer
    else pure m
  | none => pure m

/-- A self message goes off at the time it is scheduled for; time stands still where it would pass one. -/
def handleMessage : Event → Sim AODVRouting
  | .elapse simTime =>
    if m.simTime ≤ simTime ∧ ∀ t ∈ m.pending, simTime ≤ t then pure { m with simTime := simTime } else pure m
  | .datagramHook datagram => (m.ensureRouteForDatagram datagram).map (·.2)
  | .datagramForwardHook datagram => m.datagramForwardHook datagram
  | .linkBreak datagram => m.receiveChangeNotification datagram
  | .packet packet sourceAddr timeToLive => m.handlePacket sourceAddr timeToLive packet
  | .waitForRREP destAddr => m.waitForRREPTimer destAddr
  | .helloMsgTimer periodicJitter =>
    if m.helloMsgTimer = some m.simTime then
      { m with helloMsgTimer := none }.sendHelloMessagesIfNeeded periodicJitter
    else pure m
  | .expungeTimer =>
    if m.expungeTimer = some m.simTime then { m with expungeTimer := none }.expungeRoutes else pure m
  | .counterTimer =>
    if m.counterTimer = some m.simTime then { m with counterTimer := none }.handleCounterTimer else pure m
  | .rrepAckTimer =>
    if m.rrepAckTimer = some m.simTime then { m with rrepAckTimer := none }.handleRREPACKTimer else pure m
  | .blacklistTimer =>
    if m.blacklistTimer = some m.simTime then { m with blacklistTimer := none }.handleBlackListTimer else pure m

/-- The module after its initialisation. -/
def initial (routerId : IPv4Address) (localAddresses : List IPv4Address) (otherRoutes : List OtherRoute)
    (par : Parameters) (periodicJitter : Int) : AODVRouting where
  routerId := routerId
  localAddresses := localAddresses
  otherRoutes := otherRoutes
  par := par
  helloMsgTimer := if par.useHelloMessages then some (par.helloInterval - periodicJitter) else none
  counterTimer := some SimTime.second

end AODVRouting

end Inet.Aodv
