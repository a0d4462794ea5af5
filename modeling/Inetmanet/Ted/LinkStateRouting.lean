import Inetmanet.Ipv4.IPv4

/-!
# Flooding of link state information

`TED.cc` (the database), `LinkStateRouting.cc`. A bandwidth is a `double`, so a rational
number; a metric is a `double` that holds the `int` of an interface. The routers are a
network: a message that has been sent may arrive at any time, once, often or never. What
a router has published and forwarded is kept beside its state.
-/
namespace Inet.Ted

open Inet.Ipv4 (IPv4Address)

structure TELinkStateInfo where
  /-- the router that advertises the link -/
  advrouter : IPv4Address
  /-- the neighbour -/
  linkid : IPv4Address
  localAddr : IPv4Address
  remote : IPv4Address
  metric : Nat
  MaxBandwidth : Rat
  UnResvBandwidth : Vector Rat 8
  /-- `simtime_t` -/
  timestamp : Nat
  sourceId : Nat
  messageId : Nat
  state : Bool
  deriving DecidableEq

inductive Validity where
  | ignored
  | interesting
  /-- The entry at this position is older. -/
  | newer (match_ : Nat)
  deriving DecidableEq, Repr

/-- The loop of `checkLinkValidity`, from the position `i` on. -/
def checkLinkValidity (link : TELinkStateInfo) : Nat → List TELinkStateInfo → Validity
  | _, [] => .interesting
  | i, it :: ted =>
    if it.sourceId = link.sourceId ∧ it.messageId = link.messageId ∧ it.timestamp = link.timestamp then .ignored
    else if it.advrouter = link.advrouter ∧ it.linkid = link.linkid then
      if it.timestamp < link.timestamp ∨ (it.timestamp = link.timestamp ∧ it.messageId < link.messageId) then .newer i
      else .ignored
    else checkLinkValidity link (i + 1) ted

/-- Copy over the information. -/
def copyInfo (link entry : TELinkStateInfo) : TELinkStateInfo :=
  { entry with
    state := link.state, messageId := link.messageId, sourceId := link.sourceId, timestamp := link.timestamp,
    UnResvBandwidth := link.UnResvBandwidth, MaxBandwidth := link.MaxBandwidth, metric := link.metric }

/-- The variables of the loop in `processLINK_STATE_MESSAGE`. -/
structure Loop where
  ted : List TELinkStateInfo
  forward : List TELinkStateInfo := []
  change : Bool := false

def processLink (l : Loop) (link : TELinkStateInfo) : Sim Loop :=
  match checkLinkValidity link 0 l.ted with
  | .ignored => .ok l
  | .interesting => do
    ensure (link.sourceId = link.advrouter.toNat) "link.sourceId == link.advrouter.getInt()"
    .ok { ted := l.ted ++ [link], forward := l.forward ++ [link], change := true }
  | .newer i => do
    ensure (link.sourceId = link.advrouter.toNat) "link.sourceId == link.advrouter.getInt()"
    let change := (l.ted[i]?.map (·.state)).any (· != link.state)
    .ok { ted := l.ted.modify i (copyInfo link), forward := l.forward ++ [link], change := l.change || change }

def processLinks (ted : List TELinkStateInfo) (linkInfo : List TELinkStateInfo) : Sim Loop :=
  linkInfo.foldlM processLink { ted }

structure LinkStateMsg where
  linkInfo : List TELinkStateInfo
  request : Bool := false

structure Packet where
  srcAddr : IPv4Address
  destAddr : IPv4Address
  msg : LinkStateMsg

structure Router where
  routerId : IPv4Address
  ted : List TELinkStateInfo
  maxMessageId : Nat
  /-- the interfaces in the parameter `peers` -/
  peerIfAddrs : List IPv4Address
  published : List TELinkStateInfo
  forwarded : List TELinkStateInfo := []

namespace Router

variable (r : Router)

def sendToPeer (peer : IPv4Address) (list : List TELinkStateInfo) (req : Bool) : Packet :=
  { srcAddr := r.routerId, destAddr := peer, msg := { linkInfo := list, request := req } }

def sendToPeers (list : List TELinkStateInfo) (req : Bool) (exceptPeer : IPv4Address) : List Packet :=
  (r.ted.filter fun link =>
      link.advrouter = r.routerId ∧ link.linkid ≠ exceptPeer ∧ link.state ∧ link.localAddr ∈ r.peerIfAddrs).map fun link =>
    r.sendToPeer link.linkid list req

/-- The routing table is rebuilt from the database and does not change it. -/
def processLINK_STATE_MESSAGE (msg : LinkStateMsg) (sender : IPv4Address) : Sim (Router × List Packet) := do
  let l ← processLinks r.ted msg.linkInfo
  let r := { r with ted := l.ted, forwarded := r.forwarded ++ l.forward }
  let answer := if msg.request then [r.sendToPeer sender r.ted false] else []
  let flood := if l.forward.length > 0 then r.sendToPeers l.forward false sender else []
  .ok (r, answer ++ flood)

/-- The announcement at the start. -/
def announce : List Packet := r.sendToPeers r.ted true 0

/-- The counter is an `int`, its overflow is undefined. -/
def updateTimestamp (simTime : Nat) (link : TELinkStateInfo) : Sim (TELinkStateInfo × Router) := do
  ensure (link.advrouter = r.routerId) "link->advrouter == routerId"
  if 2 ^ 31 ≤ r.maxMessageId + 1 then .error (.outOfBounds "++maxMessageId")
  else .ok ({ link with timestamp := simTime, messageId := r.maxMessageId + 1 }, { r with maxMessageId := r.maxMessageId + 1 })

/-- LDP and RSVP change the state or the unreserved bandwidth of a link and announce it; then `receiveChangeNotification`. -/
def announceLinkChange (simTime : Nat) (index : Nat) (state : Bool) (UnResvBandwidth : Vector Rat 8) : Sim (Router × List Packet) :=
  match r.ted[index]? with
  | none => .error (.outOfBounds "tedmod->ted[index]")
  | some entry => do
    let (link, r) ← r.updateTimestamp simTime { entry with state, UnResvBandwidth }
    let r := { r with ted := r.ted.set index link, published := r.published ++ [link] }
    .ok (r, r.sendToPeers [link] false 0)

end Router

/-- A link that `initializeTED` finds. -/
structure Link where
  linkid : IPv4Address
  localAddr : IPv4Address
  remote : IPv4Address
  metric : Nat
  linkBandwidth : Rat

structure RouterConfig where
  links : List Link
  peerIfAddrs : List IPv4Address
  /-- "MPLS models assume interfaces to have unique addresses" -/
  unique : (links.map (·.localAddr)).Nodup

/-- The entries of `initializeTED`, after `n` others. -/
def initialEntries (routerId : IPv4Address) : Nat → List Link → List TELinkStateInfo
  | _, [] => []
  | n, link :: links =>
    { advrouter := routerId, linkid := link.linkid, localAddr := link.localAddr, remote := link.remote, metric := link.metric,
      MaxBandwidth := link.linkBandwidth, UnResvBandwidth := Vector.replicate 8 link.linkBandwidth, timestamp := 0,
      sourceId := routerId.toNat, messageId := n + 1, state := true } :: initialEntries routerId (n + 1) links

def initializeTED (routerId : IPv4Address) (config : RouterConfig) : Router where
  routerId
  ted := initialEntries routerId 0 config.links
  maxMessageId := config.links.length
  peerIfAddrs := config.peerIfAddrs
  published := initialEntries routerId 0 config.links

structure Network where
  simTime : Nat := 0
  router : IPv4Address → Option Router
  sent : List Packet := []

namespace Network

inductive Event where
  | tick (d : Nat)
  | announce (routerId : IPv4Address)
  /-- The message at this place of those that have been sent arrives. -/
  | deliver (n : Nat)
  | linkChange (routerId : IPv4Address) (index : Nat) (state : Bool) (UnResvBandwidth : Vector Rat 8)

def initial (config : IPv4Address → Option RouterConfig) : Network where
  router routerId := (config routerId).map (initializeTED routerId)

variable (n : Network)

def setRouter (routerId : IPv4Address) (r : Router) (out : List Packet) : Network :=
  { n with router := Function.update n.router routerId (some r), sent := n.sent ++ out }

def step : Event → Sim Network
  | .tick d => .ok { n with simTime := n.simTime + d }
  | .announce routerId =>
    match n.router routerId with
    | none => .ok n
    | some r => .ok { n with sent := n.sent ++ r.announce }
  | .deliver k =>
    match n.sent[k]? with
    | none => .ok n
    | some packet =>
      match n.router packet.destAddr with
      | none => .ok n
      | some r => do
        let (r, out) ← r.processLINK_STATE_MESSAGE packet.msg packet.srcAddr
        .ok (n.setRouter packet.destAddr r out)
  | .linkChange routerId index state UnResvBandwidth =>
    match n.router routerId with
    | none => .ok n
    | some r => do
      let (r, out) ← r.announceLinkChange n.simTime index state UnResvBandwidth
      .ok (n.setRouter routerId r out)

end Network

end Inet.Ted
