import Inetmanet.Ospf.OSPFArea

/-!
# The shortest-path tree of an area

`OSPFArea.cc`: `calculateShortestPathTree`, `calculateNextHops` and `hasLink`. A vertex
is a router LSA or a network LSA; of a tree vertex only what the tree needs is kept, the
entries of the routing table and the stub links are left out.
-/
namespace Inet.Ospf

open Ipv4

def LS_INFINITY : Nat := 16777215

structure NextHop where
  ifIndex : Int
  hopAddress : IPv4Address
  advertisingRouter : RouterID
  deriving DecidableEq, Repr

/-- The `OSPFLSA*` of a vertex: what its casts to the two kinds of LSAs give. -/
inductive Vertex where
  | router (lsa : RouterLSA)
  | network (lsa : NetworkLSA)
  deriving DecidableEq, Repr

def Vertex.header : Vertex → OSPFLSAHeader
  | .router lsa => lsa.header
  | .network lsa => lsa.header

structure RoutingInfo where
  distance : Nat := 0
  nextHops : List NextHop := []
  parent : Option Vertex := none
  deriving DecidableEq, Repr

structure AttachedNeighbor where
  neighborID : RouterID
  address : IPv4Address
  deriving DecidableEq, Repr

/-- What the calculation reads of an interface. -/
structure AttachedInterface where
  type : OSPFInterfaceType
  state : InterfaceStateType := .POINTTOPOINT_STATE
  ifIndex : Int
  /-- `getDesignatedRouter().ipInterfaceAddress` -/
  designatedRouter : IPv4Address := 0
  outputCost : Nat := 1
  neighboringRouters : List AttachedNeighbor := []
  deriving DecidableEq, Repr

/-- The LSAs of an area, one for each link state ID, with the router's own one. -/
structure LinkStateDatabase where
  routerLSAs : List RouterLSA
  networkLSAs : List NetworkLSA
  associatedInterfaces : List AttachedInterface
  spfTreeRoot : RouterLSA
  root_mem : spfTreeRoot ∈ routerLSAs
  routerLSAsByID : (routerLSAs.map (·.header.linkStateID)).Nodup
  networkLSAsByID : (networkLSAs.map (·.header.linkStateID)).Nodup
  linkCost_pos : ∀ lsa ∈ routerLSAs, ∀ link ∈ lsa.contents.links, 0 < link.linkCost

def AttachedInterface.getNeighborByID (intf : AttachedInterface) (neighborID : RouterID) : Option AttachedNeighbor :=
  intf.neighboringRouters.find? (·.neighborID = neighborID)

/-- The link of a router goes to the network, as a transit link or as a stub link to one of its addresses. -/
def Link.attachedTo (link : Link) (lsa : NetworkLSA) : Prop :=
  link.type = .TRANSIT_LINK ∧ link.linkID = lsa.header.linkStateID ∨
    link.type = .STUB_LINK ∧
      link.linkID &&& BitVec.ofNat 32 link.linkData = lsa.header.linkStateID &&& lsa.contents.networkMask
deriving Decidable

def hasLink : (fromLSA toLSA : Vertex) → Prop
  | .router fromLSA, .router toLSA =>
    ∃ link ∈ fromLSA.contents.links,
      (link.type = .POINTTOPOINT_LINK ∨ link.type = .VIRTUAL_LINK) ∧ link.linkID = toLSA.header.linkStateID
  | .router fromLSA, .network toLSA => ∃ link ∈ fromLSA.contents.links, link.attachedTo toLSA
  | .network fromLSA, .router toLSA => toLSA.header.linkStateID ∈ fromLSA.contents.attachedRouters
  | .network _, .network _ => False

instance : (fromLSA toLSA : Vertex) → Decidable (hasLink fromLSA toLSA)
  | .router fromLSA, .router _ => inferInstanceAs (Decidable (∃ link ∈ fromLSA.contents.links, _))
  | .router fromLSA, .network _ => inferInstanceAs (Decidable (∃ link ∈ fromLSA.contents.links, _))
  | .network fromLSA, .router _ => inferInstanceAs (Decidable (_ ∈ fromLSA.contents.attachedRouters))
  | .network _, .network _ => inferInstanceAs (Decidable False)

/-- The next hops over one interface, if it leads to the router. -/
def AttachedInterface.hopsTo (intf : AttachedInterface) (rootID : RouterID) (lsa : RouterLSA) : Option (List NextHop) :=
  match intf.type with
  | .POINTTOPOINT => ptpHop intf lsa
  | .VIRTUAL => if intf.state ≠ .DOWN_STATE ∧ intf.state ≠ .LOOPBACK_STATE then ptpHop intf lsa else none
  | .POINTTOMULTIPOINT =>
    match intf.getNeighborByID lsa.header.linkStateID with
    | some _ => some ((lsa.contents.links.filter (·.linkID = rootID)).map fun link =>
        ⟨intf.ifIndex, BitVec.ofNat 32 link.linkData, lsa.header.advertisingRouter⟩)
    | none => none
  | _ => none
where
  ptpHop (intf : AttachedInterface) (lsa : RouterLSA) : Option (List NextHop) :=
    match intf.neighboringRouters.head? with
    | some ptpNeighbor =>
      if ptpNeighbor.neighborID = lsa.header.linkStateID then
        some [⟨intf.ifIndex, ptpNeighbor.address, lsa.header.advertisingRouter⟩]
      else none
    | none => none

/-- The interface is one to the network with this designated router. -/
def AttachedInterface.onNetwork (intf : AttachedInterface) (networkDesignatedRouter : IPv4Address) : Prop :=
  (intf.type = .BROADCAST ∨ intf.type = .NBMA) ∧ intf.designatedRouter = networkDesignatedRouter
deriving Decidable

/-- The next hop to a router on a network of the root. -/
def AttachedInterface.hopOver (intf : AttachedInterface) (n : NetworkLSA) (r : RouterLSA) : Option NextHop :=
  if intf.onNetwork n.header.linkStateID then
    (intf.getNeighborByID r.header.linkStateID).map fun nextHopNeighbor =>
      ⟨intf.ifIndex, nextHopNeighbor.address, r.header.advertisingRouter⟩
  else none

namespace LinkStateDatabase

variable (area : LinkStateDatabase)

def root : Vertex := .router area.spfTreeRoot

def findRouterLSA (linkStateID : LinkStateID) : Option RouterLSA :=
  area.routerLSAs.find? (·.header.linkStateID = linkStateID)

def findNetworkLSA (linkStateID : LinkStateID) : Option NetworkLSA :=
  area.networkLSAs.find? (·.header.linkStateID = linkStateID)

/-- The loop over the interfaces stops at the first one that leads to the router. -/
def hopsToRouter (lsa : RouterLSA) : List NextHop :=
  (area.associatedInterfaces.findSome? (·.hopsTo area.spfTreeRoot.header.linkStateID lsa)).getD []

def hopsToNetwork (lsa : NetworkLSA) : List NextHop :=
  (area.associatedInterfaces.filter (·.onNetwork lsa.header.linkStateID)).map fun intf =>
    ⟨intf.ifIndex, 0, lsa.header.advertisingRouter⟩

def hopsOver (n : NetworkLSA) (r : RouterLSA) : List NextHop :=
  (r.contents.links.filter (·.attachedTo n)).flatMap fun _ => area.associatedInterfaces.filterMap (·.hopOver n r)

def calculateNextHops (info : Vertex → RoutingInfo) : (destination parent : Vertex) → List NextHop
  | destination, .router routerLSA =>
    if routerLSA ≠ area.spfTreeRoot then (info (.router routerLSA)).nextHops
    else
      match destination with
      | .router destinationRouterLSA => area.hopsToRouter destinationRouterLSA
      | .network destinationNetworkLSA => area.hopsToNetwork destinationNetworkLSA
  | destination, .network networkLSA =>
    if (info (.network networkLSA)).parent ≠ some area.root then (info (.network networkLSA)).nextHops
    else
      match destination with
      | .router destinationRouterLSA => area.hopsOver networkLSA destinationRouterLSA
      | .network _ => []

/-- The vertex that a link of a router goes to. -/
def joiningVertex (link : Link) : Option Vertex :=
  match link.type with
  | .STUB_LINK => none
  | .TRANSIT_LINK => (area.findNetworkLSA link.linkID).map .network
  | _ => (area.findRouterLSA link.linkID).map .router

/-- The vertices a vertex has links to, with the costs of the links. -/
def joiningVertices : Vertex → List (Vertex × Nat)
  | .router lsa => lsa.contents.links.filterMap fun link => (area.joiningVertex link).map fun v => (v, link.linkCost)
  | .network lsa => lsa.contents.attachedRouters.filterMap fun id => (area.findRouterLSA id).map fun r => (.router r, 0)

/-- Steps (2) (a) and (b): the links that are looked at. -/
def usableLinks (justAddedVertex : Vertex) : List (Vertex × Nat) :=
  (area.joiningVertices justAddedVertex).filter fun x => x.1.header.lsAge ≠ MAX_AGE ∧ hasLink x.1 justAddedVertex

structure Tree where
  info : Vertex → RoutingInfo
  treeVertices : List Vertex
  candidateVertices : List Vertex

namespace Tree

def setInfo (t : Tree) (v : Vertex) (i : RoutingInfo) : Tree :=
  { t with info := fun w => if w = v then i else t.info w }

/-- Steps (2) (c) and (d). -/
def join (t : Tree) (justAddedVertex : Vertex) (x : Vertex × Nat) : Tree :=
  let (joiningVertex, linkCost) := x
  if joiningVertex ∈ t.treeVertices then t
  else
    let linkStateCost := (t.info justAddedVertex).distance + linkCost
    let candidate := t.info joiningVertex
    let newNextHops := area.calculateNextHops t.info joiningVertex justAddedVertex
    if joiningVertex ∈ t.candidateVertices then
      if linkStateCost > candidate.distance then t
      else if linkStateCost < candidate.distance then
        t.setInfo joiningVertex { candidate with distance := linkStateCost, nextHops := newNextHops }
      else t.setInfo joiningVertex { candidate with nextHops := candidate.nextHops ++ newNextHops }
    else
      { t.setInfo joiningVertex {
          distance := linkStateCost
          nextHops := candidate.nextHops ++ newNextHops
          parent := some justAddedVertex } with
        candidateVertices := t.candidateVertices ++ [joiningVertex] }

def joinAll (t : Tree) (justAddedVertex : Vertex) : Tree :=
  (area.usableLinks justAddedVertex).foldl (fun t x => t.join area justAddedVertex x) t

end Tree

/-- One round of the loop that looks for the closest vertex. -/
def closer (info : Vertex → RoutingInfo) (closest : Vertex × Nat) (v : Vertex) : Vertex × Nat :=
  let (closestVertex, minDistance) := closest
  if (info v).distance < minDistance then (v, (info v).distance)
  else
    match closestVertex, v with
    | .router _, .network _ => if (info v).distance = minDistance then (v, minDistance) else closest
    | _, _ => closest

def closestVertex (info : Vertex → RoutingInfo) : List Vertex → Option Vertex
  | [] => none
  | v :: vs => some ((v :: vs).foldl (closer info) (v, LS_INFINITY)).1

/-- The main loop, from a vertex that has just been added to the tree. -/
def grow : Nat → Vertex → Tree → Sim Tree
  | 0, _, _ => .error .diverges
  | rounds + 1, justAddedVertex, t =>
    let t := t.joinAll area justAddedVertex
    match closestVertex t.info t.candidateVertices with
    | none => .ok t
    | some v => grow rounds v { t with
        treeVertices := t.treeVertices ++ [v]
        candidateVertices := t.candidateVertices.erase v }

/-- The tree, from what an earlier calculation has left in the LSAs. -/
def calculateShortestPathTree (info : Vertex → RoutingInfo) : Sim Tree :=
  let cleared : Vertex → RoutingInfo := fun v => { info v with nextHops := [] }
  area.grow (area.routerLSAs.length + area.networkLSAs.length + 1) area.root {
    info := fun v => if v = area.root then { cleared v with distance := 0 } else cleared v
    treeVertices := [area.root]
    candidateVertices := [] }

end LinkStateDatabase

end Inet.Ospf
