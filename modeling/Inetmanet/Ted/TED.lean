import Inetmanet.Lib.BellmanFord
import Inetmanet.Ted.LinkStateRouting

/-!
# The traffic engineering database

`TED.cc`: shortest paths in the database, and the routes made from them. A vertex is
told by its address instead of its index, a parent of -1 is `none`; an interface is told
by its address, as `getInterfaceByAddress` finds it.
-/
namespace Inet.Ted

open Inet.Ipv4 (IPv4Address)
open BellmanFord (Edge Label)

def LS_INFINITY : Nat := 10 ^ 16

/-- The vertices and edges of `calculateShortestPaths`. -/
structure Topology where
  vertices : List IPv4Address := []
  edges : List (Edge IPv4Address) := []

def assignIndex (vertices : List IPv4Address) (nodeAddr : IPv4Address) : List IPv4Address :=
  if nodeAddr ∈ vertices then vertices else vertices ++ [nodeAddr]

/-- Select edges that have enough bandwidth left. -/
def Topology.addLink (req_bandwidth : Rat) (priority : Fin 8) (t : Topology) (link : TELinkStateInfo) : Topology :=
  if ¬ link.state then t
  else if link.UnResvBandwidth[priority] < req_bandwidth then t
  else {
    vertices := assignIndex (assignIndex t.vertices link.advrouter) link.linkid
    edges := t.edges ++ [⟨link.advrouter, link.linkid, link.metric⟩] }

def collect (topology : List TELinkStateInfo) (req_bandwidth : Rat) (priority : Fin 8) : Topology :=
  topology.foldl (Topology.addLink req_bandwidth priority) {}

/-- One pass over the edges, and `mod`. -/
def relaxEdges : List (Edge IPv4Address) → (IPv4Address → Label IPv4Address) × Bool → Sim ((IPv4Address → Label IPv4Address) × Bool)
  | [], r => .ok r
  | edge :: edges, r => do
    ensure (edge.src ≠ edge.dest) "src != dest"
    relaxEdges edges ((BellmanFord.relax r.1 edge).1, r.2 || (BellmanFord.relax r.1 edge).2)

def relaxPasses (edges : List (Edge IPv4Address)) : Nat → (IPv4Address → Label IPv4Address) → Sim (IPv4Address → Label IPv4Address)
  | 0, labels => .ok labels
  | n + 1, labels => do
    let (labels', mod) ← relaxEdges edges (labels, false)
    if mod then relaxPasses edges n labels' else .ok labels

structure ShortestPaths where
  vertices : List IPv4Address
  labels : IPv4Address → Label IPv4Address

def calculateShortestPaths (routerId : IPv4Address) (topology : List TELinkStateInfo) (req_bandwidth : Rat) (priority : Fin 8) :
    Sim ShortestPaths := do
  let g := collect topology req_bandwidth priority
  let vertices := assignIndex g.vertices routerId
  let labels ← relaxPasses g.edges (vertices.length - 1) (BellmanFord.start LS_INFINITY routerId)
  .ok { vertices, labels }

/-- The vertex of `minIndex`, among those that follow. -/
def closest (labels : IPv4Address → Label IPv4Address) (dest : List IPv4Address) :
    List IPv4Address → Nat → Option IPv4Address → Option IPv4Address
  | [], _, minVertex => minVertex
  | v :: vertices, minDist, minVertex =>
    if minDist ≤ (labels v).dist then closest labels dest vertices minDist minVertex
    else if v ∉ dest then closest labels dest vertices minDist minVertex
    else closest labels dest vertices (labels v).dist (some v)

/-- The loop that puts the parents in front; without an end after so many parents, it has none. -/
def insertParents (labels : IPv4Address → Label IPv4Address) : Nat → IPv4Address → List IPv4Address → Sim (List IPv4Address)
  | 0, _, _ => .error .diverges
  | n + 1, v, result =>
    match (labels v).parent with
    | none => .ok (v :: result)
    | some u => insertParents labels n u (v :: result)

def calculateShortestPath (routerId : IPv4Address) (dest : List IPv4Address) (topology : List TELinkStateInfo) (req_bandwidth : Rat)
    (priority : Fin 8) : Sim (List IPv4Address) := do
  let V ← calculateShortestPaths routerId topology req_bandwidth priority
  match closest V.labels dest V.vertices LS_INFINITY none with
  | none => .ok []
  | some minVertex => insertParents V.labels V.vertices.length minVertex []

/-- A route; its source type is OSPF, its netmask that of a host and its metric 0. -/
structure Route where
  destination : IPv4Address
  gateway : IPv4Address
  interface : IPv4Address
  deriving DecidableEq

def isMulticast (addr : IPv4Address) : Bool := addr &&& 0xF0000000 == 0xE0000000

structure TED where
  routerId : IPv4Address
  ted : List TELinkStateInfo
  interfaceAddrs : List IPv4Address

namespace TED

variable (t : TED)

/-- The entry that `getInterfaceAddrByPeerAddress` stops at. -/
def findPeer (peerIP : IPv4Address) : Option TELinkStateInfo :=
  t.ted.find? fun it => it.linkid = peerIP ∧ it.advrouter = t.routerId

def isLocalPeer (inetAddr : IPv4Address) : Bool := (t.findPeer inetAddr).isSome

def getInterfaceAddrByPeerAddress (peerIP : IPv4Address) : Sim IPv4Address :=
  match t.findPeer peerIP with
  | some it => .ok it.localAddr
  | none => .error (.runtime "not a local peer: %s")

/-- With `linkIndex`, which fails where the interface has no entry. -/
def getPeerByLocalAddress (localInf : IPv4Address) : Sim IPv4Address :=
  match t.ted.find? fun it => it.advrouter = t.routerId ∧ it.localAddr = localInf with
  | some it => .ok it.linkid
  | none => .error (.assertion "false")

/-- Up the parents to a local peer. -/
def nextHop (labels : IPv4Address → Label IPv4Address) : Nat → IPv4Address → Sim IPv4Address
  | 0, _ => .error .diverges
  | n + 1, nHop =>
    if t.isLocalPeer nHop then .ok nHop
    else match (labels nHop).parent with
      | none => .error (.outOfBounds "V[nHop]")
      | some u => nextHop labels n u

def remoteRoute (V : ShortestPaths) (node : IPv4Address) : Sim Route := do
  let nHop ← t.nextHop V.labels V.vertices.length node
  let interface ← t.getInterfaceAddrByPeerAddress nHop
  .ok { destination := node, gateway := if node = nHop then 0 else nHop, interface }

def localRoute (interfaceAddr : IPv4Address) : Sim Route := do
  let destination ← t.getPeerByLocalAddress interfaceAddr
  .ok { destination, gateway := 0, interface := interfaceAddr }

/-- The vertices that get a route over a next hop. -/
def remoteVertices (V : ShortestPaths) : List IPv4Address :=
  V.vertices.filter fun v => v ≠ t.routerId ∧ (V.labels v).parent ≠ none ∧ t.isLocalPeer v = false

def rebuildRoutingTable (routes : List Route) : Sim (List Route) := do
  let V ← calculateShortestPaths t.routerId t.ted 0 7
  let remote ← (t.remoteVertices V).mapM (t.remoteRoute V)
  let peers ← t.interfaceAddrs.mapM t.localRoute
  .ok (routes.filter (isMulticast ·.destination) ++ remote ++ peers)

/-- What `LinkStateRouting` does to the database and the routes when a message arrives. -/
def processLINK_STATE_MESSAGE (routes : List Route) (linkInfo : List TELinkStateInfo) : Sim (TED × List Route) := do
  let l ← processLinks t.ted linkInfo
  let t' := { t with ted := l.ted }
  if l.change then (t'.rebuildRoutingTable routes).map fun routes => (t', routes) else .ok (t', routes)

end TED

end Inet.Ted
