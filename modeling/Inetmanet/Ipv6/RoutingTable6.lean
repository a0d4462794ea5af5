import Inetmanet.Ipv6.IPv6Datagram

/-!
# The IPv6 routing table

`RoutingTable6.cc` and `determineOutputInterface` of `IPv6.cc`: the routes in the
order in which they are tried, and the destination cache. Route objects are told
apart by their references, as the table holds pointers. Times are in the ticks of
a clock.
-/
namespace Inet.Ipv6

/-- A pointer to a route object. -/
abbrev RouteRef := Nat

/-- As far as the `prefixLength` bits at the front. -/
def IPv6Address.matches (address addrPrefix : IPv6Address) (prefixLength : Nat) : Bool :=
  (address ^^^ addrPrefix) >>> (128 - prefixLength) == 0

inductive RouteSrc where
  | FROM_RA
  | OWN_ADV_PREFIX
  | STATIC
  | ROUTING_PROT
  deriving DecidableEq, Repr

inductive ChangeCode where
  | F_NEXTHOP
  | F_IFACE
  | F_METRIC
  | F_EXPIRYTIME
  | F_ADMINDIST
  deriving DecidableEq, Repr

/-- Some of the values of `RouteAdminDist`. -/
def dDirectlyConnected : Nat := 0
def dStatic : Nat := 1
def dUnknown : Nat := 255

structure IPv6Route where
  /-- Has `_rt` been set? -/
  inTable : Bool := false
  destPrefix : IPv6Address
  prefixLength : Nat
  src : RouteSrc
  interfaceId : Int := -1
  /-- 0 means direct. -/
  nextHop : IPv6Address := 0
  /-- 0 means never. -/
  expiryTime : Nat := 0
  metric : Int := 0
  adminDist : Nat := dUnknown
  deriving DecidableEq, Repr

namespace IPv6Route

def matchesAddr (r : IPv6Route) (dest : IPv6Address) : Bool := dest.matches r.destPrefix r.prefixLength

def isExpired (simTime : Nat) (r : IPv6Route) : Prop := r.expiryTime < simTime ∧ r.expiryTime ≠ 0
deriving Decidable

end IPv6Route

/-- Longer prefixes, and then smaller distances and metrics, to the front. -/
def routeLessThan (a b : IPv6Route) : Bool :=
  if a.prefixLength ≠ b.prefixLength then decide (b.prefixLength < a.prefixLength)
  else if a.adminDist ≠ b.adminDist then decide (a.adminDist < b.adminDist)
  else decide (a.metric < b.metric)

/-- `std::sort`, which may put equivalent elements in any order. -/
structure StdSort where
  sort : (RouteRef → RouteRef → Bool) → List RouteRef → List RouteRef
  perm : ∀ less l, (sort less l).Perm l
  sorted : ∀ less l, (∀ a b, less a b = true → less b a = false) →
    (∀ a b c, less b a = false → less c b = false → less c a = false) →
    (sort less l).Pairwise fun a b => less b a = false

structure DestCacheEntry where
  interfaceId : Int
  nextHopAddr : IPv6Address
  expiryTime : Nat
  deriving DecidableEq, Repr

def DestCacheEntry.isExpired (simTime : Nat) (entry : DestCacheEntry) : Prop :=
  0 < entry.expiryTime ∧ entry.expiryTime < simTime
deriving Decidable

structure RoutingTable6 where
  simTime : Nat
  /-- The route objects. -/
  heap : RouteRef → IPv6Route
  routeList : List RouteRef
  destCache : IPv6Address → Option DestCacheEntry

namespace RoutingTable6

/-- Before anything has been added. -/
def init (heap : RouteRef → IPv6Route) : RoutingTable6 := ⟨0, heap, [], fun _ => none⟩

def store (t : RoutingTable6) (e : RouteRef) (r : IPv6Route) : RoutingTable6 :=
  { t with heap := Function.update t.heap e r }

def purgeDestCache (t : RoutingTable6) : RoutingTable6 := { t with destCache := fun _ => none }

/-- The entries with some property are removed. -/
def purgeEntries (t : RoutingTable6) (p : DestCacheEntry → Bool) : RoutingTable6 :=
  { t with destCache := fun dest => (t.destCache dest).filter fun entry => !p entry }

def purgeDestCacheEntriesToNeighbour (t : RoutingTable6) (nextHopAddr : IPv6Address) (interfaceId : Int) :
    RoutingTable6 :=
  t.purgeEntries fun entry => entry.interfaceId == interfaceId && entry.nextHopAddr == nextHopAddr

def purgeDestCacheForInterfaceID (t : RoutingTable6) (interfaceId : Int) : RoutingTable6 :=
  t.purgeEntries fun entry => entry.interfaceId == interfaceId

def updateDestCache (t : RoutingTable6) (dest nextHopAddr : IPv6Address) (interfaceId : Int) (expiryTime : Nat) :
    RoutingTable6 :=
  { t with destCache := Function.update t.destCache dest (some ⟨interfaceId, nextHopAddr, expiryTime⟩) }

/-- The entry found, and the table afterwards. -/
def lookupDestCache (t : RoutingTable6) (dest : IPv6Address) : Option DestCacheEntry × RoutingTable6 :=
  match t.destCache dest with
  | none => (none, t)
  | some entry =>
    if entry.isExpired t.simTime then (none, { t with destCache := Function.update t.destCache dest none })
    else (some entry, t)

/-- The loop of `doLongestPrefixMatch`: the route, and the list without the routes that were erased. -/
def longestPrefixMatchLoop (simTime : Nat) (heap : RouteRef → IPv6Route) (dest : IPv6Address) :
    List RouteRef → Sim (Option RouteRef × List RouteRef)
  | [] => .ok (none, [])
  | e :: l =>
    if (heap e).matchesAddr dest then
      if (heap e).isExpired simTime then
        if (heap e).src = .FROM_RA then longestPrefixMatchLoop simTime heap dest l
        -- the iterator does not move
        else .error .diverges
      else .ok (some e, e :: l)
    else (longestPrefixMatchLoop simTime heap dest l).map fun res => (res.1, e :: res.2)

def doLongestPrefixMatch (t : RoutingTable6) (dest : IPv6Address) : Sim (Option RouteRef × RoutingTable6) :=
  (longestPrefixMatchLoop t.simTime t.heap dest t.routeList).map fun res => (res.1, { t with routeList := res.2 })

def routeChanged (t : RoutingTable6) (fieldCode : ChangeCode) : RoutingTable6 :=
  if fieldCode = .F_NEXTHOP ∨ fieldCode = .F_IFACE then t.purgeDestCache else t

/-- A setter of `IPv6Route` that changes its field. -/
def setField (t : RoutingTable6) (e : RouteRef) (r : IPv6Route) (fieldCode : ChangeCode) : RoutingTable6 :=
  let t := t.store e r
  if r.inTable then t.routeChanged fieldCode else t

def setInterfaceId (t : RoutingTable6) (e : RouteRef) (interfaceId : Int) : RoutingTable6 :=
  if interfaceId ≠ (t.heap e).interfaceId then
    t.setField e { t.heap e with interfaceId := interfaceId } .F_IFACE
  else t

def setNextHop (t : RoutingTable6) (e : RouteRef) (nextHop : IPv6Address) : RoutingTable6 :=
  if nextHop ≠ (t.heap e).nextHop then t.setField e { t.heap e with nextHop := nextHop } .F_NEXTHOP else t

def setExpiryTime (t : RoutingTable6) (e : RouteRef) (expiryTime : Nat) : RoutingTable6 :=
  if expiryTime ≠ (t.heap e).expiryTime then
    t.setField e { t.heap e with expiryTime := expiryTime } .F_EXPIRYTIME
  else t

def setMetric (t : RoutingTable6) (e : RouteRef) (metric : Int) : RoutingTable6 :=
  if metric ≠ (t.heap e).metric then t.setField e { t.heap e with metric := metric } .F_METRIC else t

def setAdminDist (t : RoutingTable6) (e : RouteRef) (adminDist : Nat) : RoutingTable6 :=
  if adminDist ≠ (t.heap e).adminDist then
    t.setField e { t.heap e with adminDist := adminDist } .F_ADMINDIST
  else t

/-- Is there a route from this source to the prefix? -/
def isPrefixRoute (t : RoutingTable6) (src : RouteSrc) (destPrefix : IPv6Address) (prefixLength : Nat) (e : RouteRef) :
    Bool :=
  (t.heap e).src = src ∧ (t.heap e).destPrefix = destPrefix ∧ (t.heap e).prefixLength = prefixLength

section Add

variable (S : StdSort)

/-- The reference of a route object that has just been made. -/
def addRoute (t : RoutingTable6) (e : RouteRef) : RoutingTable6 :=
  let t := t.store e { t.heap e with inTable := true }
  let t := { t with
    routeList := S.sort (fun a b => routeLessThan (t.heap a) (t.heap b)) (t.routeList ++ [e]) }
  t.purgeDestCache

/-- `addOrUpdateOnLinkPrefix` and `addOrUpdateOwnAdvPrefix`; `e` is the new object, should one be made. -/
def addOrUpdatePrefix (src : RouteSrc) (t : RoutingTable6) (e : RouteRef) (destPrefix : IPv6Address)
    (prefixLength : Nat) (interfaceId : Int) (expiryTime : Nat) : RoutingTable6 :=
  match t.routeList.find? (t.isPrefixRoute src destPrefix prefixLength) with
  | none => (t.store e { destPrefix, prefixLength, src, interfaceId, expiryTime, adminDist := dDirectlyConnected }).addRoute S e
  | some route => (t.setInterfaceId route interfaceId).setExpiryTime route expiryTime

def addOrUpdateOnLinkPrefix : RoutingTable6 → RouteRef → IPv6Address → Nat → Int → Nat → RoutingTable6 :=
  addOrUpdatePrefix S .FROM_RA

def addOrUpdateOwnAdvPrefix : RoutingTable6 → RouteRef → IPv6Address → Nat → Int → Nat → RoutingTable6 :=
  addOrUpdatePrefix S .OWN_ADV_PREFIX

def addStaticRoute (t : RoutingTable6) (e : RouteRef) (destPrefix : IPv6Address) (prefixLength : Nat)
    (interfaceId : Int) (nextHop : IPv6Address) (metric : Int) : RoutingTable6 :=
  (t.store e { destPrefix, prefixLength, src := .STATIC, interfaceId, nextHop,
               metric := if metric = 0 then 10 else metric, adminDist := dStatic }).addRoute S e

def addDefaultRoute (t : RoutingTable6) (e : RouteRef) (nextHop : IPv6Address) (ifID : Int) (routerLifetime : Nat) :
    RoutingTable6 :=
  (t.store e { destPrefix := 0, prefixLength := 0, src := .FROM_RA, interfaceId := ifID, nextHop, metric := 10,
               adminDist := dStatic, expiryTime := routerLifetime }).addRoute S e

/-- The route object is made by the routing protocol. -/
def addRoutingProtocolRoute (t : RoutingTable6) (e : RouteRef) (route : IPv6Route) : Sim RoutingTable6 :=
  if route.src = .ROUTING_PROT then .ok ((t.store e route).addRoute S e)
  else .error (.assertion "route->getSrc()==IPv6Route::ROUTING_PROT")

end Add

def removeRoute (t : RoutingTable6) (e : RouteRef) : Sim RoutingTable6 :=
  if e ∈ t.routeList then .ok { t with routeList := t.routeList.erase e }.purgeDestCache
  else .error (.assertion "it!=routeList.end()")

def removeOnLinkPrefix (t : RoutingTable6) (destPrefix : IPv6Address) (prefixLength : Nat) : RoutingTable6 :=
  { t with routeList := t.routeList.eraseP (t.isPrefixRoute .FROM_RA destPrefix prefixLength) }

/-- Every route with some property is erased. -/
def eraseRoutes (t : RoutingTable6) (p : IPv6Route → Bool) : RoutingTable6 :=
  { t with routeList := t.routeList.filter fun e => !p (t.heap e) }

def removeDefaultRoutes (t : RoutingTable6) (interfaceID : Int) : RoutingTable6 :=
  t.eraseRoutes fun r => r.interfaceId == interfaceID && r.prefixLength == 0

def removeAllRoutes (t : RoutingTable6) : RoutingTable6 := { t with routeList := [] }

def removePrefixes (t : RoutingTable6) (interfaceID : Int) : RoutingTable6 :=
  t.eraseRoutes fun r => r.interfaceId == interfaceID && decide (0 < r.prefixLength)

/-- `NF_INTERFACE_DELETED` and `NF_INTERFACE_STATE_CHANGED` -/
def receiveChangeNotification (t : RoutingTable6) (deleted isUp : Bool) (interfaceId : Int) : RoutingTable6 :=
  if deleted ∨ ¬ isUp then t.purgeDestCacheForInterfaceID interfaceId else t

/-- Where a datagram goes. -/
structure Hop where
  nextHop : IPv6Address
  interfaceId : Int
  deriving DecidableEq, Repr

/-- What `determineOutputInterface` has found, and where. -/
inductive Determined where
  | cached (hop : Hop)
  | routed (hop : Hop)
  | unroutable
  deriving DecidableEq, Repr

/-- The next hop on a route. -/
def hopOn (r : IPv6Route) (dest : IPv6Address) : Hop :=
  ⟨if r.nextHop = 0 then dest else r.nextHop, r.interfaceId⟩

/-- The destination is not in the cache. -/
def matchOutputInterface (t : RoutingTable6) (destAddress : IPv6Address) : Sim (Determined × RoutingTable6) :=
  (t.doLongestPrefixMatch destAddress).map fun res =>
    match res.1 with
    | none => (.unroutable, res.2)
    | some route =>
      let hop := hopOn (t.heap route) destAddress
      (.routed hop, res.2.updateDestCache destAddress hop.nextHop hop.interfaceId (t.heap route).expiryTime)

def determineOutputInterface (t : RoutingTable6) (destAddress : IPv6Address) : Sim (Determined × RoutingTable6) :=
  match t.lookupDestCache destAddress with
  | (none, t) => t.matchOutputInterface destAddress
  -- interface -1 stands for an entry that is not there
  | (some entry, t) =>
    if entry.interfaceId = -1 then t.matchOutputInterface destAddress
    else .ok (.cached ⟨entry.nextHopAddr, entry.interfaceId⟩, t)

end RoutingTable6

end Inet.Ipv6
