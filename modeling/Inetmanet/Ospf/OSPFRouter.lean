import Inetmanet.Ospf.OSPFArea

/-!
# The AS external LSAs of a router

`OSPFRouter.cc`: the AS external LSAs age in the router, all others in its areas. They
are refreshed with a copy of themselves.
-/
namespace Inet.Ospf

open Ipv4

structure ExternalTOSInfo where
  tosData : TOSData
  E_ExternalMetricType : Bool
  forwardingAddress : IPv4Address
  externalRouteTag : Int
  deriving DecidableEq, Repr

structure ASExternalContents where
  networkMask : IPv4Address := 0
  E_ExternalMetricType : Bool := false
  routeCost : Nat := 1
  forwardingAddress : IPv4Address := 0
  externalRouteTag : Int := 0
  externalTOSInfo : List ExternalTOSInfo := []
  deriving DecidableEq, Repr

abbrev OSPFASExternalLSA := OSPFLSA ASExternalContents
abbrev ASExternalLSA := DatabaseLSA ASExternalContents

/-- What the router is like when an AS external LSA ages. -/
structure ExternalSurroundings where
  routerID : RouterID
  /-- the interfaces of each area -/
  areas : List (List Interface)
  /-- `isDestinationUnreachable(lsa)` -/
  unreachable : Bool
  /-- `isOnAnyRetransmissionList(lsaKey)` -/
  isOnAnyRetransmissionList : Bool
  /-- `lsa->getPurgeable()`; `removeExternalRoute` sets it -/
  purgeable : Bool
  deriving DecidableEq, Repr

namespace ExternalSurroundings

variable (around : ExternalSurroundings)

def hasAnyNeighborInStates (states : List NeighborStateType) : Prop :=
  ∃ interfaces ∈ around.areas, ∃ intf ∈ interfaces, intf.hasAnyNeighborInStates states
deriving Decidable

end ExternalSurroundings

def originateASExternalLSA (lsa : ASExternalLSA) : OSPFASExternalLSA where
  header := {
    lsa.header with
    lsAge := 0
    lsOptions := { E_ExternalRoutingCapability := true }
    lsSequenceNumber := INITIAL_SEQUENCE_NUMBER }
  contents := lsa.contents

namespace ExternalSurroundings

variable (around : ExternalSurroundings)

/-- A purgeable LSA of age `MAX_AGE` is not originated again. -/
def ageingOfASExternalLSA (lsa : ASExternalLSA) : Ageing ASExternalContents where
  selfOriginated := decide (lsa.header.advertisingRouter = around.routerID)
  unreachable := around.unreachable
  isOnAnyRetransmissionList := around.isOnAnyRetransmissionList
  exchanging := decide (around.hasAnyNeighborInStates [.EXCHANGE_STATE, .LOADING_STATE])
  newLSA := if lsa.header.lsAge = MAX_AGE ∧ around.purgeable then none else some (originateASExternalLSA lsa)

def ageASExternalLSA (lsa : ASExternalLSA) : Aged ASExternalContents := lsa.ages (around.ageingOfASExternalLSA lsa) .erased

end ExternalSurroundings

structure Router where
  asExternalLSAs : LSAs LSAKeyType ASExternalContents := .empty
  areas : List Area := []

namespace Router

/-- What the LSAs of the router and of each area find around them when their turn comes. -/
structure Ages where
  external : Nat → ExternalSurroundings
  area : Nat → Area.Ages

/-- The router and whether the routing table is to be rebuilt once more behind the areas. -/
def ageDatabase (router : Router) (around : Ages) : Sim (Router × Bool) := do
  let (asExternalLSAs, shouldRebuildRoutingTable) ←
    router.asExternalLSAs.ageAll (·.lsaKey) fun i => (around.external i).ageASExternalLSA
  let areas ← router.areas.zipIdx.mapM fun (area, j) => Prod.fst <$> area.ageDatabase (around.area j)
  return ({ asExternalLSAs, areas }, shouldRebuildRoutingTable)

end Router

end Inet.Ospf
