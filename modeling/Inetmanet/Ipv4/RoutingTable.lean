import Inetmanet.Lib.UpperBound
import Inetmanet.Ipv4.IPv4

/-!
# The IPv4 routing table

`RoutingTable.cc` and `IPv4Route.h`: the unicast routes, the order in which the
vector `routes` stores them, and the cache of `findBestMatchingRoute`. Route
objects are told apart by their references, as the table holds pointers.
-/
namespace Inet.Ipv4

namespace IPv4Address

def _makeNetmask (length : Nat) : IPv4Address :=
  if length ≥ 32 then BitVec.allOnes 32 else ~~~(BitVec.allOnes 32 >>> length)

def getNetmaskLength (addr : IPv4Address) : Nat :=
  match (List.range 32).find? fun i => addr.getLsbD i with
  | some i => 32 - i
  | none => 0

def isValidNetmask (addr : IPv4Address) : Prop := addr = _makeNetmask (getNetmaskLength addr)
deriving Decidable

def maskedAddrAreEqual (addr1 addr2 netmask : IPv4Address) : Prop := (addr1 ^^^ addr2) &&& netmask = 0
deriving Decidable

end IPv4Address

/-- A pointer to a route object. -/
abbrev RouteRef := Nat

/-- A pointer to an interface entry. -/
abbrev InterfaceRef := Nat

inductive SourceType where
  | MANUAL | IFACENETMASK | RIP | OSPF | BGP | ZEBRA | MANET | MANET2 | DYMO | AODV
  deriving DecidableEq, Repr

/-- Who has made a route: an interface it belongs to, or a module. -/
inductive Source where
  | interface (ie : InterfaceRef)
  | module (id : Nat)
  deriving DecidableEq, Repr

/-- `dDirectlyConnected` and `dUnknown` of `RouteAdminDist`. -/
def dDirectlyConnected : Nat := 0
def dUnknown : Nat := 255

/-- Times are in the ticks of a clock. -/
structure IPv4Route where
  /-- Is `rt` set to the routing table? -/
  inTable : Bool := false
  dest : IPv4Address := 0
  netmask : IPv4Address := 0
  gateway : IPv4Address := 0
  interfacePtr : Option InterfaceRef := none
  sourceType : SourceType := .MANUAL
  adminDist : Nat := dUnknown
  metric : Int := 0
  source : Option Source := none
  /-- Only routes of class `DSDVIPv4Route` expire; for the others it is 0. -/
  expiryTime : Nat := 0
  deriving DecidableEq, Repr

namespace IPv4Route

def isValid (simTime : Nat) (e : IPv4Route) : Bool := e.expiryTime == 0 || decide (simTime < e.expiryTime)

/-- A route that has expired does not come back. -/
theorem isValid_of_le {t t' : Nat} (h : t ≤ t') {e : IPv4Route} (hv : e.isValid t' = true) : e.isValid t = true := by
  simp only [isValid, Bool.or_eq_true, beq_iff_eq, decide_eq_true_eq] at hv ⊢
  omega

def matchesAddr (e : IPv4Route) (dest : IPv4Address) : Prop :=
  IPv4Address.maskedAddrAreEqual dest e.dest e.netmask
deriving Decidable

end IPv4Route

/-- The best matching route should precede the other matching routes. -/
def routeLessThan (a b : IPv4Route) : Bool :=
  -- longer prefixes are better, because they are more specific
  if a.netmask ≠ b.netmask then decide (b.netmask < a.netmask)
  else if a.dest ≠ b.dest then decide (a.dest < b.dest)
  -- for the same destination/netmask:
  else if a.adminDist ≠ b.adminDist then decide (a.adminDist < b.adminDist)
  else decide (a.metric < b.metric)

/-- What of the interface table the routes are made from. -/
structure InterfaceTableEntry where
  ie : InterfaceRef
  /-- Address, netmask and metric, where the interface has IPv4 data. -/
  ipv4Data : Option (IPv4Address × IPv4Address × Int)
  deriving DecidableEq, Repr

structure RoutingTable where
  simTime : Nat
  /-- The route objects. -/
  heap : RouteRef → IPv4Route
  routes : List RouteRef
  routingCache : IPv4Address → Option (Option RouteRef)

namespace RoutingTable

/-- Before anything has been added. -/
def init (heap : RouteRef → IPv4Route) : RoutingTable := ⟨0, heap, [], fun _ => none⟩

def store (t : RoutingTable) (e : RouteRef) (r : IPv4Route) : RoutingTable :=
  { t with heap := Function.update t.heap e r }

def invalidateCache (t : RoutingTable) : RoutingTable := { t with routingCache := fun _ => none }

def less (t : RoutingTable) (a b : RouteRef) : Bool := routeLessThan (t.heap a) (t.heap b)

/-- A valid route that matches. -/
def candidate (t : RoutingTable) (dest : IPv4Address) (e : RouteRef) : Bool :=
  (t.heap e).isValid t.simTime && decide ((t.heap e).matchesAddr dest)

/-- The loop of `findBestMatchingRoute`. -/
def scan (t : RoutingTable) (dest : IPv4Address) : Option RouteRef := t.routes.find? (t.candidate dest)

def findBestMatchingRoute (t : RoutingTable) (dest : IPv4Address) : Option RouteRef × RoutingTable :=
  let miss := (t.scan dest, { t with routingCache := Function.update t.routingCache dest (some (t.scan dest)) })
  match t.routingCache dest with
  | some none => (none, t)
  | some (some e) => if (t.heap e).isValid t.simTime then (some e, t) else miss
  | none => miss

def getDefaultRoute (t : RoutingTable) : Option RouteRef :=
  (t.routes.reverse.takeWhile fun e => (t.heap e).netmask = 0).find? fun e => (t.heap e).isValid t.simTime

def internalRemoveRoute (t : RoutingTable) (e : RouteRef) : Option RoutingTable :=
  if e ∈ t.routes then some { t with routes := t.routes.erase e } else none

def removeRoute (t : RoutingTable) (e : RouteRef) : RoutingTable :=
  match t.internalRemoveRoute e with
  | none => t
  | some t => t.invalidateCache.store e { t.heap e with inTable := false }

/-- The object is gone afterwards; its fields are left as the listeners saw them. -/
def deleteRoute (t : RoutingTable) (e : RouteRef) : RoutingTable :=
  match t.internalRemoveRoute e with
  | none => t
  | some t => t.invalidateCache

/-- A default route replaces the old one. -/
def replaceDefaultRoute (t : RoutingTable) (e : RouteRef) : RoutingTable :=
  if (t.heap e).netmask = 0 then
    match t.getDefaultRoute with
    | none => t
    | some oldDefaultRoute => t.deleteRoute oldDefaultRoute
  else t

def insertRoute (t : RoutingTable) (e : RouteRef) : RoutingTable :=
  { t with routes := UpperBound.insert t.less t.routes e }

def internalAddRoute (t : RoutingTable) (e : RouteRef) : Sim RoutingTable := do
  let entry := t.heap e
  if ¬ IPv4Address.isValidNetmask entry.netmask then
    throw (.runtime "addRoute(): wrong netmask %s in route")
  if entry.netmask ≠ 0 ∧ entry.dest &&& entry.netmask = 0 then
    throw (.runtime "addRoute(): all bits of destination address %s is 0 inside non zero netmask %s")
  if entry.dest &&& ~~~entry.netmask ≠ 0 then
    throw (.runtime "addRoute(): suspicious route: destination IP address %s has bits set outside netmask %s")
  if entry.interfacePtr = none then
    throw (.runtime "addRoute(): interface cannot be NULL")
  let t := (t.replaceDefaultRoute e).insertRoute e
  return t.store e { t.heap e with inTable := true }

def addRoute (t : RoutingTable) (e : RouteRef) : Sim RoutingTable := do
  return (← t.internalAddRoute e).invalidateCache

inductive FieldCode where
  | F_DESTINATION | F_NETMASK | F_GATEWAY | F_IFACE | F_TYPE | F_SOURCE | F_ADMINDIST | F_METRIC
  deriving DecidableEq, Repr

def routeChanged (t : RoutingTable) (e : RouteRef) (fieldCode : FieldCode) : Sim RoutingTable :=
  if fieldCode = .F_DESTINATION ∨ fieldCode = .F_NETMASK ∨ fieldCode = .F_METRIC then
    match t.internalRemoveRoute e with
    | none => .error (.assertion "entry != NULL")
    | some t => do return (← t.internalAddRoute e).invalidateCache
  else .ok t

/-- A setter of `IPv4Route`: nothing happens where the value is the old one. -/
def change (t : RoutingTable) (e : RouteRef) (r : IPv4Route) (fieldCode : FieldCode) : Sim RoutingTable :=
  if r = t.heap e then .ok t
  else if (t.heap e).inTable then (t.store e r).routeChanged e fieldCode
  else .ok (t.store e r)

def setDestination (t : RoutingTable) (e : RouteRef) (dest : IPv4Address) : Sim RoutingTable :=
  t.change e { t.heap e with dest := dest } .F_DESTINATION

def setNetmask (t : RoutingTable) (e : RouteRef) (netmask : IPv4Address) : Sim RoutingTable :=
  t.change e { t.heap e with netmask := netmask } .F_NETMASK

def setGateway (t : RoutingTable) (e : RouteRef) (gateway : IPv4Address) : Sim RoutingTable :=
  t.change e { t.heap e with gateway := gateway } .F_GATEWAY

def setInterface (t : RoutingTable) (e : RouteRef) (interfacePtr : Option InterfaceRef) : Sim RoutingTable :=
  t.change e { t.heap e with interfacePtr := interfacePtr } .F_IFACE

def setSourceType (t : RoutingTable) (e : RouteRef) (sourceType : SourceType) : Sim RoutingTable :=
  t.change e { t.heap e with sourceType := sourceType } .F_SOURCE

def setSource (t : RoutingTable) (e : RouteRef) (source : Option Source) : Sim RoutingTable :=
  t.change e { t.heap e with source := source } .F_SOURCE

def setAdminDist (t : RoutingTable) (e : RouteRef) (adminDist : Nat) : Sim RoutingTable :=
  t.change e { t.heap e with adminDist := adminDist } .F_ADMINDIST

def setMetric (t : RoutingTable) (e : RouteRef) (metric : Int) : Sim RoutingTable :=
  t.change e { t.heap e with metric := metric } .F_METRIC

/-- Delete the routes that are not to be kept. -/
def keepRoutes (t : RoutingTable) (keep : IPv4Route → Bool) : RoutingTable :=
  { t with routes := t.routes.filter fun e => keep (t.heap e) }

def deleteInterfaceRoutes (t : RoutingTable) (ie : InterfaceRef) : RoutingTable :=
  if ∃ e ∈ t.routes, (t.heap e).interfacePtr = some ie then
    (t.keepRoutes fun r => r.interfacePtr ≠ some ie).invalidateCache
  else t

def purge (t : RoutingTable) : RoutingTable :=
  if ∃ e ∈ t.routes, (t.heap e).isValid t.simTime = false then
    (t.keepRoutes (IPv4Route.isValid t.simTime)).invalidateCache
  else t

/-- The netmask route of an interface, if it is to have one. -/
def netmaskRoute (i : InterfaceTableEntry) : Option IPv4Route :=
  match i.ipv4Data with
  | none => none
  | some (ipAddress, netmask, metric) =>
    if netmask = BitVec.allOnes 32 then none
    else some {
      inTable := true
      dest := ipAddress &&& netmask
      netmask := netmask
      gateway := 0
      interfacePtr := some i.ie
      sourceType := .IFACENETMASK
      adminDist := dDirectlyConnected
      metric := metric
      source := some (.interface i.ie) }

/-- Insert new route objects, which get references that are not in use. -/
def insertNew (t : RoutingTable) : List (RouteRef × IPv4Route) → RoutingTable
  | [] => t
  | (e, r) :: l => ((t.store e r).insertRoute e).insertNew l

/-- The loop over the interfaces; `refs` are the addresses of the objects it creates. -/
def updateNetmaskRoutes (t : RoutingTable) (refs : List RouteRef) (ift : List InterfaceTableEntry) : RoutingTable :=
  let t := t.keepRoutes fun r => r.sourceType ≠ .IFACENETMASK
  (t.insertNew (refs.zip (ift.filterMap netmaskRoute))).invalidateCache

inductive Notification where
  | NF_INTERFACE_CREATED | NF_INTERFACE_DELETED (entry : InterfaceRef) | NF_INTERFACE_STATE_CHANGED
  | NF_INTERFACE_CONFIG_CHANGED | NF_INTERFACE_IPv4CONFIG_CHANGED
  deriving DecidableEq, Repr

def receiveChangeNotification (t : RoutingTable) (refs : List RouteRef) (ift : List InterfaceTableEntry) :
    Notification → RoutingTable
  -- add netmask route for the new interface
  | .NF_INTERFACE_CREATED => t.updateNetmaskRoutes refs ift
  -- remove all routes that point to that interface
  | .NF_INTERFACE_DELETED entry => t.deleteInterfaceRoutes entry
  | .NF_INTERFACE_STATE_CHANGED => t.invalidateCache
  | .NF_INTERFACE_CONFIG_CHANGED => t.invalidateCache
  -- interface netmask based routes have to be re-built
  | .NF_INTERFACE_IPv4CONFIG_CHANGED => t.updateNetmaskRoutes refs ift

end RoutingTable

end Inet.Ipv4
