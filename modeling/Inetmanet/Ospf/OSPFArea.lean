import Inetmanet.Lib.IndexedStore
import Inetmanet.Ospf.LSA

/-!
# The link state database of an area

`OSPFArea.cc`: installing LSAs and letting them age. The three kinds of LSAs are kept
in the same way, in a vector and a map of pointers.
-/
namespace Inet.Ospf

open Ipv4

inductive NeighborStateType where
  | DOWN_STATE | ATTEMPT_STATE | INIT_STATE | TWOWAY_STATE | EXCHANGE_START_STATE | EXCHANGE_STATE | LOADING_STATE
  | FULL_STATE
  deriving DecidableEq, Repr

inductive InterfaceStateType where
  | DOWN_STATE | LOOPBACK_STATE | WAITING_STATE | POINTTOPOINT_STATE | NOT_DESIGNATED_ROUTER_STATE | BACKUP_STATE
  | DESIGNATED_ROUTER_STATE
  deriving DecidableEq, Repr

inductive OSPFInterfaceType where
  | UNKNOWN_TYPE | POINTTOPOINT | BROADCAST | NBMA | POINTTOMULTIPOINT | VIRTUAL
  deriving DecidableEq, Repr

structure Neighbor where
  neighborID : RouterID
  state : NeighborStateType
  deriving DecidableEq, Repr

structure Interface where
  type : OSPFInterfaceType
  state : InterfaceStateType
  address : IPv4Address
  mask : IPv4Address
  neighboringRouters : List Neighbor
  deriving DecidableEq, Repr

def Interface.hasAnyNeighborInStates (intf : Interface) (states : List NeighborStateType) : Prop :=
  ∃ n ∈ intf.neighboringRouters, n.state ∈ states
deriving Decidable

/-- What the area and the router around it are like when an LSA ages. The answers that depend on the routing
table and on the retransmission lists may be any. -/
structure Surroundings where
  routerID : RouterID
  externalRoutingCapability : Bool
  associatedInterfaces : List Interface
  /-- `isDestinationUnreachable(lsa)` -/
  unreachable : Bool
  /-- `isOnAnyRetransmissionList(lsaKey)` -/
  isOnAnyRetransmissionList : Bool
  /-- what `originateRouterLSA` puts together from the interfaces -/
  routerContents : RouterContents
  /-- what `originateSummaryLSA(lsa)` makes of the routing table -/
  originateSummaryLSA : Option OSPFSummaryLSA
  deriving DecidableEq, Repr

namespace Surroundings

variable (around : Surroundings)

def hasAnyNeighborInStates (states : List NeighborStateType) : Prop :=
  ∃ intf ∈ around.associatedInterfaces, intf.hasAnyNeighborInStates states
deriving Decidable

def getInterface (address : IPv4Address) : Option Interface :=
  around.associatedInterfaces.find? fun intf => intf.type ≠ .VIRTUAL ∧ intf.address = address

def lsOptions : OSPFOptions := { E_ExternalRoutingCapability := around.externalRoutingCapability }

def originateRouterLSA : OSPFRouterLSA where
  header := {
    lsOptions := around.lsOptions
    lsType := .ROUTERLSA_TYPE
    linkStateID := around.routerID
    advertisingRouter := around.routerID
    lsSequenceNumber := INITIAL_SEQUENCE_NUMBER }
  contents := around.routerContents

def originateNetworkLSA (intf : Interface) : Option OSPFNetworkLSA :=
  if intf.hasAnyNeighborInStates [.FULL_STATE] then
    some {
      header := {
        lsOptions := around.lsOptions
        lsType := .NETWORKLSA_TYPE
        linkStateID := intf.address
        advertisingRouter := around.routerID
        lsSequenceNumber := INITIAL_SEQUENCE_NUMBER }
      contents := {
        networkMask := intf.mask
        attachedRouters :=
          (intf.neighboringRouters.filter (·.state = .FULL_STATE)).map (·.neighborID) ++ [around.routerID] } }
  else none

end Surroundings

/-- What decides how an LSA ages. -/
structure Ageing (β : Type) where
  selfOriginated : Bool
  unreachable : Bool
  isOnAnyRetransmissionList : Bool
  /-- Is a neighbor in state EXCHANGE or LOADING? -/
  exchanging : Bool
  newLSA : Option (OSPFLSA β)

/-- What becomes of an LSA. -/
inductive Aged (β : Type) where
  | stays (lsa : DatabaseLSA β) (flooded : Bool) (shouldRebuildRoutingTable : Bool)
  /-- Erased from the map, deleted, and its slot set to NULL. -/
  | erased
  /-- Deleted only. -/
  | deleted
  deriving DecidableEq, Repr

namespace DatabaseLSA

variable {β : Type} [DecidableEq β] (lsa : DatabaseLSA β)

def reachesMaxAge : Aged β := .stays (lsa.setLsAge MAX_AGE).incrementInstallTime true false

def isUpdatedWith (newLSA : OSPFLSA β) (sequenceNumber : Int) : Aged β :=
  let (lsa, different) := lsa.update { newLSA with header := { newLSA.header with lsSequenceNumber := sequenceNumber } }
  .stays lsa true different

/-- One round of the loop over the LSAs of a kind; `missing` is what happens to an LSA of age `MAX_AGE` for which
there is no new one. -/
def ages (a : Ageing β) (missing : Aged β) : Aged β :=
  let lsAge := lsa.header.lsAge
  let sequenceNumber := lsa.header.lsSequenceNumber
  if a.selfOriginated ∧ lsAge < LS_REFRESH_TIME - 1 ∨ ¬ a.selfOriginated ∧ lsAge < MAX_AGE - 1 then
    .stays (lsa.setLsAge (lsAge + 1)).incrementInstallTime false false
  else if a.selfOriginated ∧ lsAge = LS_REFRESH_TIME - 1 then
    if a.unreachable then lsa.reachesMaxAge
    else if sequenceNumber = MAX_SEQUENCE_NUMBER then lsa.reachesMaxAge
    else
      match a.newLSA with
      | some newLSA => lsa.isUpdatedWith newLSA (sequenceNumber + 1)
      | none => lsa.reachesMaxAge
  else if ¬ a.selfOriginated ∧ lsAge = MAX_AGE - 1 then lsa.reachesMaxAge
  else if lsAge = MAX_AGE then
    if ¬ a.isOnAnyRetransmissionList ∧ ¬ a.exchanging then
      if ¬ a.selfOriginated ∨ a.unreachable then .erased
      else
        match a.newLSA with
        | some newLSA =>
          lsa.isUpdatedWith newLSA
            (if sequenceNumber = MAX_SEQUENCE_NUMBER then INITIAL_SEQUENCE_NUMBER else sequenceNumber + 1)
        | none => missing
    else .stays lsa false false
  else .stays lsa false false

end DatabaseLSA

namespace Surroundings

variable (around : Surroundings)

def ageingOfRouterLSA (lsa : RouterLSA) : Ageing RouterContents where
  selfOriginated := decide (lsa.header.advertisingRouter = around.routerID)
  unreachable := around.unreachable
  isOnAnyRetransmissionList := around.isOnAnyRetransmissionList
  exchanging := decide (around.hasAnyNeighborInStates [.EXCHANGE_STATE, .LOADING_STATE])
  newLSA := some around.originateRouterLSA

/-- `localIntf`, if this router is the designated one there and a neighbor is FULL. -/
def originatingInterface (lsa : NetworkLSA) : Option Interface :=
  (around.getInterface lsa.header.linkStateID).filter fun intf =>
    intf.state = .DESIGNATED_ROUTER_STATE ∧ intf.neighboringRouters.length > 0 ∧ intf.hasAnyNeighborInStates [.FULL_STATE]

def ageingOfNetworkLSA (lsa : NetworkLSA) : Ageing NetworkContents where
  selfOriginated := (around.originatingInterface lsa).isSome
  unreachable := around.unreachable
  isOnAnyRetransmissionList := around.isOnAnyRetransmissionList
  exchanging := decide (around.hasAnyNeighborInStates [.EXCHANGE_STATE, .LOADING_STATE])
  newLSA := (around.getInterface lsa.header.linkStateID).bind around.originateNetworkLSA

def ageingOfSummaryLSA (lsa : SummaryLSA) : Ageing SummaryContents where
  selfOriginated := decide (lsa.header.advertisingRouter = around.routerID)
  unreachable := around.unreachable
  isOnAnyRetransmissionList := around.isOnAnyRetransmissionList
  exchanging := decide (around.hasAnyNeighborInStates [.EXCHANGE_STATE, .LOADING_STATE])
  newLSA := around.originateSummaryLSA

def ageRouterLSA (lsa : RouterLSA) : Aged RouterContents := lsa.ages (around.ageingOfRouterLSA lsa) .erased

/-- Where no new LSA can be originated, the old one is deleted but neither its slot nor the map is changed. -/
def ageNetworkLSA (lsa : NetworkLSA) : Aged NetworkContents := lsa.ages (around.ageingOfNetworkLSA lsa) .deleted

def ageSummaryLSA (lsa : SummaryLSA) : Aged SummaryContents := lsa.ages (around.ageingOfSummaryLSA lsa) .erased

end Surroundings

/-- A vector of pointers to LSAs and the map from the keys of the LSAs to the same pointers. -/
abbrev LSAs (κ β : Type) := IndexedStore κ (DatabaseLSA β)

namespace LSAs

variable {κ β : Type} [DecidableEq κ] [DecidableEq β]

def install (key : OSPFLSAHeader → κ) (lsas : LSAs κ β) (lsa : OSPFLSA β) : Sim (LSAs κ β × Bool) :=
  match lsas.index (key lsa.header) with
  | some p =>
    match lsas.objects p with
    | some old =>
      let (new, different) := old.update lsa
      .ok (lsas.write p new, different)
    | none => .error (.nullPointer "lsaIt->second")
  | none => .ok (lsas.add (key lsa.header) { toOSPFLSA := lsa }, true)

/-- LSA `i` ages. -/
def ageAt (key : OSPFLSAHeader → κ) (age : Nat → DatabaseLSA β → Aged β) (acc : LSAs κ β × Bool) (i : Nat) :
    Sim (LSAs κ β × Bool) :=
  match acc.1.vector[i]? with
  | some (some p) =>
    match acc.1.objects p with
    | some lsa =>
      match age i lsa with
      | .stays lsa _ different => .ok (acc.1.write p lsa, acc.2 || different)
      | .erased => .ok (acc.1.erase i p (key lsa.header), true)
      | .deleted => .ok (acc.1.delete p, acc.2)
    | none => .error (.nullPointer "lsa")
  | _ => .error (.nullPointer "lsa")

/-- The loop over the LSAs and the one that takes out the slots set to NULL. -/
def ageAll (key : OSPFLSAHeader → κ) (age : Nat → DatabaseLSA β → Aged β) (lsas : LSAs κ β) : Sim (LSAs κ β × Bool) := do
  let (lsas, shouldRebuildRoutingTable) ← (List.range lsas.vector.length).foldlM (ageAt key age) (lsas, false)
  return (lsas.compact, shouldRebuildRoutingTable)

end LSAs

structure Area where
  routerLSAs : LSAs LinkStateID RouterContents := .empty
  networkLSAs : LSAs LinkStateID NetworkContents := .empty
  summaryLSAs : LSAs LSAKeyType SummaryContents := .empty

namespace Area

variable (area : Area)

def installRouterLSA (lsa : OSPFRouterLSA) : Sim (Area × Bool) := do
  let (lsas, different) ← area.routerLSAs.install (·.linkStateID) lsa
  return ({ area with routerLSAs := lsas }, different)

def installNetworkLSA (lsa : OSPFNetworkLSA) : Sim (Area × Bool) := do
  let (lsas, different) ← area.networkLSAs.install (·.linkStateID) lsa
  return ({ area with networkLSAs := lsas }, different)

def installSummaryLSA (lsa : OSPFSummaryLSA) : Sim (Area × Bool) := do
  let (lsas, different) ← area.summaryLSAs.install (·.lsaKey) lsa
  return ({ area with summaryLSAs := lsas }, different)

def findRouterLSA (linkStateID : LinkStateID) : Option RouterLSA := area.routerLSAs.find linkStateID
def findNetworkLSA (linkStateID : LinkStateID) : Option NetworkLSA := area.networkLSAs.find linkStateID

/-- What each LSA finds around it when its turn comes. -/
structure Ages where
  router : Nat → Surroundings
  network : Nat → Surroundings
  summary : Nat → Surroundings

/-- The area and whether the routing table is to be rebuilt. -/
def ageDatabase (around : Ages) : Sim (Area × Bool) := do
  let (routerLSAs, rebuild₁) ← area.routerLSAs.ageAll (·.linkStateID) fun i => (around.router i).ageRouterLSA
  let (networkLSAs, rebuild₂) ← area.networkLSAs.ageAll (·.linkStateID) fun i => (around.network i).ageNetworkLSA
  let (summaryLSAs, rebuild₃) ← area.summaryLSAs.ageAll (·.lsaKey) fun i => (around.summary i).ageSummaryLSA
  return ({ routerLSAs, networkLSAs, summaryLSAs }, rebuild₁ || rebuild₂ || rebuild₃)

end Area

end Inet.Ospf
