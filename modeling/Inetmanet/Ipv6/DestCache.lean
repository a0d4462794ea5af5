import Inetmanet.Ipv6.RoutingTable6

/-!
# The destination cache and the routing table

Whether the next hops in the cache are those of the routes, in every run of the
table's operations and the passing of time.
-/
namespace Inet.Ipv6

open List Function Option

namespace RoutingTable6

/-- What may happen to a table; new route objects come with their references. -/
inductive Event where
  | addOrUpdateOnLinkPrefix (e : RouteRef) (destPrefix : IPv6Address) (prefixLength : Nat) (interfaceId : Int)
      (expiryTime : Nat)
  | addOrUpdateOwnAdvPrefix (e : RouteRef) (destPrefix : IPv6Address) (prefixLength : Nat) (interfaceId : Int)
      (expiryTime : Nat)
  | addStaticRoute (e : RouteRef) (destPrefix : IPv6Address) (prefixLength : Nat) (interfaceId : Int)
      (nextHop : IPv6Address) (metric : Int)
  | addDefaultRoute (e : RouteRef) (nextHop : IPv6Address) (ifID : Int) (routerLifetime : Nat)
  | addRoutingProtocolRoute (e : RouteRef) (route : IPv6Route)
  | removeRoute (e : RouteRef)
  | removeOnLinkPrefix (destPrefix : IPv6Address) (prefixLength : Nat)
  | removeDefaultRoutes (interfaceID : Int)
  | removeAllRoutes
  | removePrefixes (interfaceID : Int)
  | setInterfaceId (e : RouteRef) (interfaceId : Int)
  | setNextHop (e : RouteRef) (nextHop : IPv6Address)
  | setExpiryTime (e : RouteRef) (expiryTime : Nat)
  | setMetric (e : RouteRef) (metric : Int)
  | setAdminDist (e : RouteRef) (adminDist : Nat)
  | interfaceDeleted (interfaceId : Int)
  | interfaceStateChanged (interfaceId : Int) (isUp : Bool)
  | purgeDestCacheEntriesToNeighbour (nextHopAddr : IPv6Address) (interfaceId : Int)
  | determineOutputInterface (destAddress : IPv6Address)
  /-- Time passes. -/
  | elapse (time : Nat)
  deriving DecidableEq, Repr

def step (S : StdSort) (t : RoutingTable6) : Event → Sim RoutingTable6
  | .addOrUpdateOnLinkPrefix e destPrefix prefixLength interfaceId expiryTime =>
    .ok (t.addOrUpdateOnLinkPrefix S e destPrefix prefixLength interfaceId expiryTime)
  | .addOrUpdateOwnAdvPrefix e destPrefix prefixLength interfaceId expiryTime =>
    .ok (t.addOrUpdateOwnAdvPrefix S e destPrefix prefixLength interfaceId expiryTime)
  | .addStaticRoute e destPrefix prefixLength interfaceId nextHop metric =>
    .ok (t.addStaticRoute S e destPrefix prefixLength interfaceId nextHop metric)
  | .addDefaultRoute e nextHop ifID routerLifetime => .ok (t.addDefaultRoute S e nextHop ifID routerLifetime)
  | .addRoutingProtocolRoute e route => t.addRoutingProtocolRoute S e route
  | .removeRoute e => t.removeRoute e
  | .removeOnLinkPrefix destPrefix prefixLength => .ok (t.removeOnLinkPrefix destPrefix prefixLength)
  | .removeDefaultRoutes interfaceID => .ok (t.removeDefaultRoutes interfaceID)
  | .removeAllRoutes => .ok t.removeAllRoutes
  | .removePrefixes interfaceID => .ok (t.removePrefixes interfaceID)
  | .setInterfaceId e interfaceId => .ok (t.setInterfaceId e interfaceId)
  | .setNextHop e nextHop => .ok (t.setNextHop e nextHop)
  | .setExpiryTime e expiryTime => .ok (t.setExpiryTime e expiryTime)
  | .setMetric e metric => .ok (t.setMetric e metric)
  | .setAdminDist e adminDist => .ok (t.setAdminDist e adminDist)
  | .interfaceDeleted interfaceId => .ok (t.receiveChangeNotification true false interfaceId)
  | .interfaceStateChanged interfaceId isUp => .ok (t.receiveChangeNotification false isUp interfaceId)
  | .purgeDestCacheEntriesToNeighbour nextHopAddr interfaceId =>
    .ok (t.purgeDestCacheEntriesToNeighbour nextHopAddr interfaceId)
  | .determineOutputInterface destAddress => (t.determineOutputInterface destAddress).map Prod.snd
  | .elapse time => .ok { t with simTime := t.simTime + time }

def run (S : StdSort) : RoutingTable6 → List Event → Sim RoutingTable6
  | t, [] => .ok t
  | t, event :: events => t.step S event >>= fun t => run S t events

/-- What the cache answers is what the routes would give now. -/
def Coherent (t : RoutingTable6) : Prop :=
  ∀ dest hop t', t.determineOutputInterface dest = .ok (.cached hop, t') →
    ∃ e t'', t.doLongestPrefixMatch dest = .ok (some e, t'') ∧ hop = hopOn (t.heap e) dest

/-- The entry is used for `dest`. -/
def Used (t : RoutingTable6) (dest : IPv6Address) (entry : DestCacheEntry) : Prop :=
  t.destCache dest = some entry ∧ entry.interfaceId ≠ -1 ∧ ¬ entry.isExpired t.simTime

/-- The first route that matches. -/
def firstMatch (t : RoutingTable6) (dest : IPv6Address) : Option RouteRef :=
  t.routeList.find? fun e => (t.heap e).matchesAddr dest

/-- No later than the route that it was made from. -/
def DiesWith (entry : DestCacheEntry) (expiryTime : Nat) : Prop :=
  expiryTime = 0 ∨ 0 < entry.expiryTime ∧ entry.expiryTime ≤ expiryTime

structure RestsOn (t : RoutingTable6) (dest : IPv6Address) (entry : DestCacheEntry) (e : RouteRef) : Prop where
  first : t.firstMatch dest = some e
  hop : (⟨entry.nextHopAddr, entry.interfaceId⟩ : Hop) = hopOn (t.heap e) dest
  expiry : DiesWith entry (t.heap e).expiryTime

/-- Every entry that is used rests on a route. -/
structure CacheInvariant (t : RoutingTable6) : Prop where
  inTable : ∀ e ∈ t.routeList, (t.heap e).inTable = true
  rests : ∀ dest entry, t.Used dest entry → ∃ e, t.RestsOn dest entry e

/-- No entry that is used rests on `e`. -/
def NotInUse (t : RoutingTable6) (e : RouteRef) : Prop :=
  ∀ dest entry, t.Used dest entry → t.firstMatch dest ≠ some e

/-- The entries that rest on `e` are not used any longer than its new lifetime. -/
def OutlivesEntries (t : RoutingTable6) (e : RouteRef) (expiryTime : Nat) : Prop :=
  ∀ dest entry, t.Used dest entry → t.firstMatch dest = some e → DiesWith entry expiryTime

/-- The route of a prefix that is announced again; on another interface, the cache is purged. -/
def OutlivesPrefix (t : RoutingTable6) (src : RouteSrc) (destPrefix : IPv6Address) (prefixLength : Nat)
    (interfaceId : Int) (expiryTime : Nat) : Prop :=
  ∀ e, t.routeList.find? (t.isPrefixRoute src destPrefix prefixLength) = some e →
    interfaceId = (t.heap e).interfaceId → t.OutlivesEntries e expiryTime

/-- An operation does not pull a route from under the cache. -/
def Harmless (t : RoutingTable6) : Event → Prop
  | .removeOnLinkPrefix destPrefix prefixLength =>
    ∀ e, t.routeList.find? (t.isPrefixRoute .FROM_RA destPrefix prefixLength) = some e → t.NotInUse e
  | .removeDefaultRoutes interfaceID =>
    ∀ e ∈ t.routeList, (t.heap e).interfaceId = interfaceID → (t.heap e).prefixLength = 0 → t.NotInUse e
  | .removePrefixes interfaceID =>
    ∀ e ∈ t.routeList, (t.heap e).interfaceId = interfaceID → 0 < (t.heap e).prefixLength → t.NotInUse e
  | .removeAllRoutes => ∀ e ∈ t.routeList, t.NotInUse e
  | .setExpiryTime e expiryTime => t.OutlivesEntries e expiryTime
  | .addOrUpdateOnLinkPrefix _ destPrefix prefixLength interfaceId expiryTime =>
    t.OutlivesPrefix .FROM_RA destPrefix prefixLength interfaceId expiryTime
  | .addOrUpdateOwnAdvPrefix _ destPrefix prefixLength interfaceId expiryTime =>
    t.OutlivesPrefix .OWN_ADV_PREFIX destPrefix prefixLength interfaceId expiryTime
  | _ => True

/-- All operations of a run are harmless where they happen. -/
def HarmlessRun (S : StdSort) : RoutingTable6 → List Event → Prop
  | _, [] => True
  | t, event :: events => t.Harmless event ∧ ∀ t', t.step S event = .ok t' → HarmlessRun S t' events

section Lookup

variable {t t' : RoutingTable6} {dest dest' : IPv6Address} {entry : DestCacheEntry} {e : RouteRef} {simTime : Nat}
  {heap : RouteRef → IPv6Route} {l l' : List RouteRef} {res : Option RouteRef}

theorem DiesWith.not_expired {r : IPv6Route} (h : DiesWith entry r.expiryTime) (hlive : ¬ entry.isExpired simTime) :
    ¬ r.isExpired simTime := by
  unfold DiesWith at h
  unfold DestCacheEntry.isExpired at hlive
  unfold IPv6Route.isExpired
  omega

/-- The first route that matches is taken unless it has expired. -/
theorem longestPrefixMatchLoop_first (hfirst : l.find? (fun e => (heap e).matchesAddr dest) = some e)
    (hlive : ¬ (heap e).isExpired simTime) : longestPrefixMatchLoop simTime heap dest l = .ok (some e, l) := by
  induction l with
  | nil => cases hfirst
  | cons e' l ih =>
    rw [longestPrefixMatchLoop]
    rw [find?_cons] at hfirst
    cases hmatch : (heap e').matchesAddr dest with
    | true =>
      rw [hmatch] at hfirst
      obtain rfl := some.inj hfirst
      rw [if_pos rfl, if_neg hlive]
    | false =>
      rw [hmatch] at hfirst
      rw [if_neg Bool.false_ne_true, ih hfirst]
      rfl

/-- A loop that ends passes over the first route, erases it as expired or takes it. -/
theorem longestPrefixMatchLoop_cons (h : longestPrefixMatchLoop simTime heap dest (e :: l) = .ok (res, l')) :
    (heap e).matchesAddr dest = false ∧ (∃ l₁, longestPrefixMatchLoop simTime heap dest l = .ok (res, l₁) ∧ l' = e :: l₁) ∨
      (heap e).isExpired simTime ∧ longestPrefixMatchLoop simTime heap dest l = .ok (res, l') ∨
      (heap e).matchesAddr dest = true ∧ ¬ (heap e).isExpired simTime ∧ res = some e ∧ l' = e :: l := by
  rw [longestPrefixMatchLoop] at h
  cases hmatch : (heap e).matchesAddr dest with
  | true =>
    rw [hmatch, if_pos rfl] at h
    by_cases hexp : (heap e).isExpired simTime
    · rw [if_pos hexp] at h
      split at h
      · exact .inr (.inl ⟨hexp, h⟩)
      · cases h
    · rw [if_neg hexp] at h
      cases h
      exact .inr (.inr ⟨rfl, hexp, rfl, rfl⟩)
  | false =>
    rw [hmatch, if_neg Bool.false_ne_true] at h
    cases hrest : longestPrefixMatchLoop simTime heap dest l with
    | error err =>
      rw [hrest] at h
      cases h
    | ok out =>
      rw [hrest] at h
      cases h
      exact .inl ⟨rfl, out.2, rfl, rfl⟩

/-- The route that is taken is the first that matches then. -/
theorem longestPrefixMatchLoop_some (h : longestPrefixMatchLoop simTime heap dest l = .ok (some e, l')) :
    l'.find? (fun e => (heap e).matchesAddr dest) = some e ∧ ¬ (heap e).isExpired simTime := by
  induction l generalizing l' with
  | nil => cases h
  | cons e' l ih =>
    obtain ⟨hmatch, l₁, hrest, rfl⟩ | ⟨-, hrest⟩ | ⟨hmatch, hlive, hres, rfl⟩ := longestPrefixMatchLoop_cons h
    · rw [find?_cons, hmatch]
      exact ih hrest
    · exact ih hrest
    · cases hres
      exact ⟨by rw [find?_cons, hmatch], hlive⟩

/-- Only routes that have expired are erased. -/
theorem longestPrefixMatchLoop_keeps (h : longestPrefixMatchLoop simTime heap dest l = .ok (res, l'))
    (hfirst : l.find? (fun e => (heap e).matchesAddr dest') = some e) (hlive : ¬ (heap e).isExpired simTime) :
    l'.find? (fun e => (heap e).matchesAddr dest') = some e := by
  induction l generalizing l' with
  | nil => cases hfirst
  | cons e' l ih =>
    obtain ⟨-, l₁, hrest, rfl⟩ | ⟨hexp, hrest⟩ | ⟨-, -, -, rfl⟩ := longestPrefixMatchLoop_cons h
    · rw [find?_cons] at hfirst ⊢
      cases hother : (heap e').matchesAddr dest' with
      | true =>
        rw [hother] at hfirst
        exact hfirst
      | false =>
        rw [hother] at hfirst
        exact ih hrest hfirst
    · apply ih hrest
      rw [find?_cons] at hfirst
      cases hother : (heap e').matchesAddr dest' with
      | true =>
        rw [hother] at hfirst
        obtain rfl := some.inj hfirst
        exact absurd hexp hlive
      | false =>
        rw [hother] at hfirst
        exact hfirst
    · exact hfirst

theorem longestPrefixMatchLoop_sublist (h : longestPrefixMatchLoop simTime heap dest l = .ok (res, l')) :
    l'.Sublist l := by
  induction l generalizing l' with
  | nil =>
    cases h
    exact Sublist.refl _
  | cons e' l ih =>
    obtain ⟨-, l₁, hrest, rfl⟩ | ⟨-, hrest⟩ | ⟨-, -, -, rfl⟩ := longestPrefixMatchLoop_cons h
    · exact (ih hrest).cons_cons e'
    · exact (ih hrest).cons e'
    · exact Sublist.refl _

end Lookup

variable {dest : IPv6Address} {out : Determined} {t t' : RoutingTable6}

/-- What is done for a destination that is not in the cache. -/
theorem matchOutputInterface_ok
    (h : t.matchOutputInterface dest = .ok (out, t')) :
    ∃ res l', longestPrefixMatchLoop t.simTime t.heap dest t.routeList = .ok (res, l') ∧
      ((res = none ∧ out = .unroutable ∧ t' = { t with routeList := l' }) ∨
        ∃ e, res = some e ∧ out = .routed (hopOn (t.heap e) dest) ∧
          t' = { t with
            routeList := l'
            destCache := update t.destCache dest (some ⟨(t.heap e).interfaceId,
              (hopOn (t.heap e) dest).nextHop, (t.heap e).expiryTime⟩) }) := by
  unfold matchOutputInterface doLongestPrefixMatch at h
  cases hmatch : longestPrefixMatchLoop t.simTime t.heap dest t.routeList with
  | error err =>
    rw [hmatch] at h
    cases h
  | ok out' =>
    rw [hmatch] at h
    obtain ⟨res, l'⟩ := out'
    cases res with
    | none =>
      simp only [Except.map, Except.ok.injEq, Prod.mk.injEq] at h
      exact ⟨none, l', rfl, .inl ⟨rfl, h.1.symm, h.2.symm⟩⟩
    | some e =>
      simp only [Except.map, Except.ok.injEq, Prod.mk.injEq] at h
      exact ⟨some e, l', rfl, .inr ⟨e, rfl, h.1.symm, h.2.symm⟩⟩

/-- Either the cache answers, or the routes do, after the entry has been dropped if it had expired. -/
theorem determineOutputInterface_ok
    (h : t.determineOutputInterface dest = .ok (out, t')) :
    (∃ entry, t.Used dest entry ∧ out = .cached ⟨entry.nextHopAddr, entry.interfaceId⟩ ∧ t' = t) ∨
      t.matchOutputInterface dest = .ok (out, t') ∨
      matchOutputInterface { t with destCache := update t.destCache dest none } dest = .ok (out, t') := by
  unfold determineOutputInterface lookupDestCache at h
  cases hcache : t.destCache dest with
  | none =>
    simp only [hcache] at h
    exact .inr (.inl h)
  | some entry =>
    by_cases hexp : entry.isExpired t.simTime
    · simp only [hcache, if_pos hexp] at h
      exact .inr (.inr h)
    · simp only [hcache, if_neg hexp] at h
      by_cases hid : entry.interfaceId = -1
      · rw [if_pos hid] at h
        exact .inr (.inl h)
      · rw [if_neg hid] at h
        simp only [Except.ok.injEq, Prod.mk.injEq] at h
        exact .inl ⟨entry, ⟨hcache, hid, hexp⟩, h.1.symm, h.2.symm⟩

theorem matchOutputInterface_ne_cached {hop : Hop} :
    t.matchOutputInterface dest ≠ .ok (.cached hop, t') := by
  intro h
  obtain ⟨res, l', -, ⟨-, hout, -⟩ | ⟨e, -, hout, -⟩⟩ := matchOutputInterface_ok h
  · cases hout
  · cases hout

/-- In a table with the invariant, the cache answers what the routes would give. -/
theorem CacheInvariant.coherent {t : RoutingTable6} (h : t.CacheInvariant) : t.Coherent := by
  intro dest hop t' hdet
  rcases determineOutputInterface_ok hdet with ⟨entry, hentry, hhop, -⟩ | hmatch | hmatch
  · obtain ⟨e, hrests⟩ := h.rests dest entry hentry
    have hlive := hrests.expiry.not_expired hentry.2.2
    refine ⟨e, t, ?_, (Determined.cached.inj hhop).trans hrests.hop⟩
    rw [doLongestPrefixMatch, longestPrefixMatchLoop_first hrests.first hlive]
    rfl
  · exact absurd hmatch matchOutputInterface_ne_cached
  · exact absurd hmatch matchOutputInterface_ne_cached

section Operations

variable {t t' : RoutingTable6} {e : RouteRef} {r : IPv6Route}

/-- Enough that every entry that is used was used before, and rests on the same route as before. -/
theorem CacheInvariant.transfer (h : t.CacheInvariant) (hin : ∀ e ∈ t'.routeList, (t'.heap e).inTable = true)
    (hused : ∀ dest entry, t'.Used dest entry → t.Used dest entry)
    (hrests : ∀ dest entry e, t'.Used dest entry → t.RestsOn dest entry e → t'.RestsOn dest entry e) :
    t'.CacheInvariant := by
  refine ⟨hin, fun dest entry hentry => ?_⟩
  obtain ⟨e, he⟩ := h.rests dest entry (hused dest entry hentry)
  exact ⟨e, hrests dest entry e hentry he⟩

/-- Nothing is used of an empty cache. -/
theorem cacheInvariant_of_empty (hin : ∀ e ∈ t.routeList, (t.heap e).inTable = true)
    (hempty : ∀ dest, t.destCache dest = none) : t.CacheInvariant := by
  refine ⟨hin, fun dest entry hentry => ?_⟩
  rw [Used, hempty dest] at hentry
  cases hentry.1

theorem purgeEntries_invariant (h : t.CacheInvariant) (p : DestCacheEntry → Bool) :
    (t.purgeEntries p).CacheInvariant := by
  have hused : ∀ dest entry, (t.purgeEntries p).Used dest entry → t.Used dest entry := by
    rintro dest entry ⟨hcache, hid, hlive⟩
    refine ⟨?_, hid, hlive⟩
    have hfilter : (t.destCache dest).filter (fun entry => !p entry) = some entry := hcache
    rw [filter_eq_some_iff] at hfilter
    exact hfilter.1
  exact h.transfer h.inTable hused fun _ _ _ _ hrests => ⟨hrests.first, hrests.hop, hrests.expiry⟩

theorem addRoute_invariant (S : StdSort) (hin : ∀ e' ∈ t.routeList, e' ≠ e → (t.heap e').inTable = true) :
    (t.addRoute S e).CacheInvariant := by
  refine cacheInvariant_of_empty (fun e' he' => ?_) fun _ => rfl
  have hmem : e' ∈ t.routeList ++ [e] := (S.perm _ _).mem_iff.mp he'
  have hheap : (t.addRoute S e).heap = update t.heap e { t.heap e with inTable := true } := rfl
  rw [hheap]
  by_cases heq : e' = e
  · rw [heq, update_self]
  · rw [update_of_ne heq]
    rw [mem_append, mem_singleton] at hmem
    exact hin e' (hmem.resolve_right heq) heq

/-- A new route. -/
theorem store_addRoute_invariant (S : StdSort) (h : t.CacheInvariant) (e : RouteRef) (r : IPv6Route) :
    ((t.store e r).addRoute S e).CacheInvariant := by
  refine addRoute_invariant S fun e' he' hne => ?_
  have hheap : (t.store e r).heap e' = t.heap e' := update_of_ne hne _ _
  rw [hheap]
  exact h.inTable e' he'

variable {prefixLength expiryTime : Nat}

section

variable (h : t.CacheInvariant)
include h

/-- A field of a route that the cache does not depend on, or a change that purges the cache. -/
theorem setField_invariant {code : ChangeCode} (hin : r.inTable = (t.heap e).inTable)
    (hmatch : r.destPrefix = (t.heap e).destPrefix ∧ r.prefixLength = (t.heap e).prefixLength)
    (hkeep : (code = .F_NEXTHOP ∨ code = .F_IFACE) ∨
      (r.nextHop = (t.heap e).nextHop ∧ r.interfaceId = (t.heap e).interfaceId ∧ t.OutlivesEntries e r.expiryTime)) :
    (t.setField e r code).CacheInvariant := by
  have hin' : ∀ e' ∈ t.routeList, ((t.store e r).heap e').inTable = true := by
    intro e' he'
    by_cases heq : e' = e
    · have hheap : (t.store e r).heap e' = r := by rw [heq]; exact update_self e r t.heap
      rw [hheap, hin, ← heq]
      exact h.inTable e' he'
    · have hheap : (t.store e r).heap e' = t.heap e' := update_of_ne heq _ _
      rw [hheap]
      exact h.inTable e' he'
  have hsame : ∀ dest, (t.store e r).firstMatch dest = t.firstMatch dest := by
    intro dest
    refine find?_congr fun e' _ => ?_
    by_cases heq : e' = e
    · have hheap : (t.store e r).heap e' = r := by rw [heq]; exact update_self e r t.heap
      rw [hheap, heq, IPv6Route.matchesAddr, hmatch.1, hmatch.2]
      rfl
    · have hheap : (t.store e r).heap e' = t.heap e' := update_of_ne heq _ _
      rw [hheap]
  -- no purge: either the route is not in the table, or its hop is the same
  have hstore : (r.inTable = false ∨ ¬ (code = .F_NEXTHOP ∨ code = .F_IFACE)) → (t.store e r).CacheInvariant := by
    intro hcase
    refine h.transfer hin' (fun _ _ hused => hused) fun dest entry e' hused hrests => ?_
    have hfirst : (t.store e r).firstMatch dest = some e' := (hsame dest).trans hrests.first
    by_cases heq : e' = e
    · have hheap : (t.store e r).heap e' = r := by rw [heq]; exact update_self e r t.heap
      have hmem : e' ∈ t.routeList := mem_of_find?_eq_some hrests.first
      have htable : r.inTable = true := by
        rw [hin, ← heq]
        exact h.inTable e' hmem
      have hnot : ¬ (code = .F_NEXTHOP ∨ code = .F_IFACE) := by
        refine hcase.resolve_left fun hfalse => ?_
        rw [htable] at hfalse
        cases hfalse
      obtain ⟨hhop, hid, hlives⟩ := hkeep.resolve_left hnot
      have hfirst' := hrests.first
      have hhop' := hrests.hop
      rw [heq] at hfirst' hhop'
      refine ⟨hfirst, ?_, ?_⟩
      · rw [hheap, hhop', hopOn, hopOn, hhop, hid]
      · rw [hheap]
        exact hlives dest entry hused hfirst'
    · have hheap : (t.store e r).heap e' = t.heap e' := update_of_ne heq _ _
      refine ⟨hfirst, ?_, ?_⟩
      · rw [hheap]
        exact hrests.hop
      · rw [hheap]
        exact hrests.expiry
  unfold setField routeChanged
  cases htable : r.inTable with
  | false =>
    exact hstore (.inl htable)
  | true =>
    by_cases hcode : code = .F_NEXTHOP ∨ code = .F_IFACE
    · simp only [if_true, if_pos hcode]
      exact cacheInvariant_of_empty hin' fun _ => rfl
    · simp only [if_true, if_neg hcode]
      exact hstore (.inr hcode)

/-- An entry that is used does not outlive its route. -/
theorem CacheInvariant.outlives (e : RouteRef) : t.OutlivesEntries e (t.heap e).expiryTime := by
  intro dest entry hused hfirst
  obtain ⟨e', hrests⟩ := h.rests dest entry hused
  have heq : e' = e := some.inj (hrests.first.symm.trans hfirst)
  rw [← heq]
  exact hrests.expiry

theorem setInterfaceId_invariant (e : RouteRef) (interfaceId : Int) :
    (t.setInterfaceId e interfaceId).CacheInvariant := by
  unfold setInterfaceId
  split
  · exact setField_invariant h rfl ⟨rfl, rfl⟩ (.inl (.inr rfl))
  · exact h

theorem setNextHop_invariant (e : RouteRef) (nextHop : IPv6Address) :
    (t.setNextHop e nextHop).CacheInvariant := by
  unfold setNextHop
  split
  · exact setField_invariant h rfl ⟨rfl, rfl⟩ (.inl (.inl rfl))
  · exact h

theorem setExpiryTime_invariant (hlives : t.OutlivesEntries e expiryTime) :
    (t.setExpiryTime e expiryTime).CacheInvariant := by
  unfold setExpiryTime
  split
  · exact setField_invariant h rfl ⟨rfl, rfl⟩ (.inr ⟨rfl, rfl, hlives⟩)
  · exact h

theorem setMetric_invariant (e : RouteRef) (metric : Int) :
    (t.setMetric e metric).CacheInvariant := by
  unfold setMetric
  split
  · exact setField_invariant h rfl ⟨rfl, rfl⟩ (.inr ⟨rfl, rfl, h.outlives e⟩)
  · exact h

theorem setAdminDist_invariant (e : RouteRef) (adminDist : Nat) :
    (t.setAdminDist e adminDist).CacheInvariant := by
  unfold setAdminDist
  split
  · exact setField_invariant h rfl ⟨rfl, rfl⟩ (.inr ⟨rfl, rfl, h.outlives e⟩)
  · exact h

end

/-- A prefix that is announced again. -/
theorem addOrUpdatePrefix_invariant (S : StdSort) (h : t.CacheInvariant) {src : RouteSrc} (e : RouteRef)
    {destPrefix : IPv6Address} {interfaceId : Int}
    (hlives : t.OutlivesPrefix src destPrefix prefixLength interfaceId expiryTime) :
    (addOrUpdatePrefix S src t e destPrefix prefixLength interfaceId expiryTime).CacheInvariant := by
  unfold addOrUpdatePrefix
  cases hfind : t.routeList.find? (t.isPrefixRoute src destPrefix prefixLength) with
  | none => exact store_addRoute_invariant S h e _
  | some route =>
    refine setExpiryTime_invariant (setInterfaceId_invariant h route interfaceId) ?_
    by_cases hid : interfaceId = (t.heap route).interfaceId
    · have hsame : t.setInterfaceId route interfaceId = t := if_neg (not_not_intro hid)
      rw [hsame]
      exact hlives route hfind hid
    · -- the interface changes, so that nothing is left in the cache
      have htable := h.inTable route (mem_of_find?_eq_some hfind)
      have hempty : ∀ dest, (t.setInterfaceId route interfaceId).destCache dest = none := by
        intro dest
        rw [setInterfaceId, if_pos hid, setField]
        simp only [htable, if_true]
        rfl
      intro dest entry hused
      rw [Used, hempty dest] at hused
      cases hused.1

/-- Routes that are not in use can be taken out of the list. -/
theorem erase_invariant (h : t.CacheInvariant) {l : List RouteRef} (hsub : l.Sublist t.routeList)
    (hkeep : ∀ dest entry e, t.Used dest entry → t.firstMatch dest = some e →
      l.find? (fun e => (t.heap e).matchesAddr dest) = some e) :
    CacheInvariant { t with routeList := l } := by
  refine h.transfer (fun e he => h.inTable e (hsub.mem he)) (fun _ _ hused => hused) fun dest entry e hused hrests => ?_
  exact ⟨hkeep dest entry e hused hrests.first, hrests.hop, hrests.expiry⟩

theorem find?_eraseP_of_ne {α : Type} {p q : α → Bool} {l : List α} {x : α} (hp : l.find? p = some x)
    (hq : l.find? q ≠ some x) : (l.eraseP q).find? p = some x := by
  induction l with
  | nil => cases hp
  | cons y l ih =>
    rw [find?_cons] at hp hq
    rw [eraseP_cons]
    cases hqy : q y with
    | true =>
      rw [hqy] at hq
      cases hpy : p y with
      | true =>
        rw [hpy] at hp
        exact absurd hp hq
      | false =>
        rw [hpy] at hp
        exact hp
    | false =>
      rw [hqy] at hq
      cases hpy : p y with
      | true =>
        simpa [hpy] using hp
      | false =>
        rw [hpy] at hp
        simpa [hpy] using ih hp hq

section

variable (h : t.CacheInvariant)
include h

theorem removeOnLinkPrefix_invariant {destPrefix : IPv6Address}
    (hnot : ∀ e, t.routeList.find? (t.isPrefixRoute .FROM_RA destPrefix prefixLength) = some e → t.NotInUse e) :
    (t.removeOnLinkPrefix destPrefix prefixLength).CacheInvariant := by
  refine erase_invariant h eraseP_sublist fun dest entry e hused hfirst => ?_
  exact find?_eraseP_of_ne hfirst fun hfind => hnot e hfind dest entry hused hfirst

theorem eraseRoutes_invariant {p : IPv6Route → Bool}
    (hnot : ∀ e ∈ t.routeList, p (t.heap e) = true → t.NotInUse e) : (t.eraseRoutes p).CacheInvariant := by
  refine erase_invariant h filter_sublist fun dest entry e hused hfirst => ?_
  have hmem : e ∈ t.routeList := mem_of_find?_eq_some hfirst
  have hstays : p (t.heap e) = false := by
    cases hp : p (t.heap e) with
    | false => rfl
    | true => exact absurd hfirst (hnot e hmem hp dest entry hused)
  rw [find?_filter]
  rw [firstMatch, find?_eq_some_iff_append] at hfirst
  obtain ⟨hmatch, before, after, hl, hbefore⟩ := hfirst
  rw [find?_eq_some_iff_append]
  refine ⟨by simp [hmatch, hstays], before, after, hl, fun e' he' => ?_⟩
  have hno := hbefore e' he'
  simp [hno]

/-- The lookup that fills the cache. -/
theorem matchOutputInterface_invariant
    (hok : t.matchOutputInterface dest = .ok (out, t')) : t'.CacheInvariant := by
  obtain ⟨res, l', hloop, hcase⟩ := matchOutputInterface_ok hok
  have hlist : CacheInvariant { t with routeList := l' } := by
    refine h.transfer (fun e he => h.inTable e ((longestPrefixMatchLoop_sublist hloop).mem he))
      (fun _ _ hused => hused) fun dest' entry e hused hrests => ?_
    have hlive := hrests.expiry.not_expired hused.2.2
    exact ⟨longestPrefixMatchLoop_keeps hloop hrests.first hlive, hrests.hop, hrests.expiry⟩
  rcases hcase with ⟨-, -, ht'⟩ | ⟨e, hres, -, ht'⟩
  · rw [ht']
    exact hlist
  · rw [hres] at hloop
    obtain ⟨hfirst, -⟩ := longestPrefixMatchLoop_some hloop
    rw [ht']
    refine ⟨hlist.inTable, fun dest' entry hused => ?_⟩
    obtain ⟨hcache, hid, hlive⟩ := hused
    by_cases hdest : dest' = dest
    · -- the new entry
      rw [hdest] at hcache ⊢
      simp only [update_self, some.injEq] at hcache
      rw [← hcache]
      refine ⟨e, hfirst, rfl, ?_⟩
      unfold DiesWith
      simp only
      omega
    · simp only [update_of_ne hdest] at hcache
      obtain ⟨e', hrests⟩ := hlist.rests dest' entry ⟨hcache, hid, hlive⟩
      exact ⟨e', hrests.first, hrests.hop, hrests.expiry⟩

theorem determineOutputInterface_invariant
    (hok : t.determineOutputInterface dest = .ok (out, t')) : t'.CacheInvariant := by
  rcases determineOutputInterface_ok hok with ⟨entry, -, -, ht'⟩ | hmatch | hmatch
  · rw [ht']
    exact h
  · exact matchOutputInterface_invariant h hmatch
  · refine matchOutputInterface_invariant ?_ hmatch
    have hused : ∀ dest' entry, Used { t with destCache := update t.destCache dest none } dest' entry →
        t.Used dest' entry := by
      rintro dest' entry ⟨hcache, hid, hlive⟩
      by_cases hdest : dest' = dest
      · rw [hdest] at hcache
        simp at hcache
      · simp only [update_of_ne hdest] at hcache
        exact ⟨hcache, hid, hlive⟩
    exact h.transfer h.inTable hused fun _ _ _ _ hrests => ⟨hrests.first, hrests.hop, hrests.expiry⟩

theorem elapse_invariant (time : Nat) :
    CacheInvariant { t with simTime := t.simTime + time } := by
  have hused : ∀ dest entry, Used { t with simTime := t.simTime + time } dest entry → t.Used dest entry := by
    rintro dest entry ⟨hcache, hid, hlive⟩
    refine ⟨hcache, hid, fun hexp => hlive ?_⟩
    unfold DestCacheEntry.isExpired at hexp ⊢
    simp only
    omega
  exact h.transfer h.inTable hused fun _ _ _ _ hrests => ⟨hrests.first, hrests.hop, hrests.expiry⟩

end

end Operations

section Run

variable {S : StdSort} {t t' : RoutingTable6}

theorem step_invariant (h : t.CacheInvariant) {event : Event} (hharmless : t.Harmless event)
    (hok : t.step S event = .ok t') : t'.CacheInvariant := by
  cases event with
  | addOrUpdateOnLinkPrefix e destPrefix prefixLength interfaceId expiryTime =>
    cases hok
    exact addOrUpdatePrefix_invariant S h e hharmless
  | addOrUpdateOwnAdvPrefix e destPrefix prefixLength interfaceId expiryTime =>
    cases hok
    exact addOrUpdatePrefix_invariant S h e hharmless
  | addStaticRoute e destPrefix prefixLength interfaceId nextHop metric =>
    cases hok
    exact store_addRoute_invariant S h e _
  | addDefaultRoute e nextHop ifID routerLifetime =>
    cases hok
    exact store_addRoute_invariant S h e _
  | addRoutingProtocolRoute e route =>
    simp only [step, addRoutingProtocolRoute] at hok
    split at hok
    · cases hok
      exact store_addRoute_invariant S h e route
    · cases hok
  | removeRoute e =>
    simp only [step, removeRoute] at hok
    split at hok
    · cases hok
      exact cacheInvariant_of_empty (fun e' he' => h.inTable e' (mem_of_mem_erase he')) fun _ => rfl
    · cases hok
  | removeOnLinkPrefix destPrefix prefixLength =>
    cases hok
    exact removeOnLinkPrefix_invariant h hharmless
  | removeDefaultRoutes interfaceID =>
    cases hok
    refine eraseRoutes_invariant h fun e he hp => ?_
    simp only [Bool.and_eq_true, beq_iff_eq] at hp
    exact hharmless e he hp.1 hp.2
  | removeAllRoutes =>
    cases hok
    refine erase_invariant h (nil_sublist _) fun dest entry e hused hfirst => ?_
    exact absurd hfirst (hharmless e (mem_of_find?_eq_some hfirst) dest entry hused)
  | removePrefixes interfaceID =>
    cases hok
    refine eraseRoutes_invariant h fun e he hp => ?_
    simp only [Bool.and_eq_true, beq_iff_eq, decide_eq_true_eq] at hp
    exact hharmless e he hp.1 hp.2
  | setInterfaceId e interfaceId =>
    cases hok
    exact setInterfaceId_invariant h e interfaceId
  | setNextHop e nextHop =>
    cases hok
    exact setNextHop_invariant h e nextHop
  | setExpiryTime e expiryTime =>
    cases hok
    exact setExpiryTime_invariant h hharmless
  | setMetric e metric =>
    cases hok
    exact setMetric_invariant h e metric
  | setAdminDist e adminDist =>
    cases hok
    exact setAdminDist_invariant h e adminDist
  | interfaceDeleted interfaceId =>
    cases hok
    exact purgeEntries_invariant h _
  | interfaceStateChanged interfaceId isUp =>
    cases hok
    unfold receiveChangeNotification
    split
    · exact purgeEntries_invariant h _
    · exact h
  | purgeDestCacheEntriesToNeighbour nextHopAddr interfaceId =>
    cases hok
    exact purgeEntries_invariant h _
  | determineOutputInterface destAddress =>
    simp only [step] at hok
    cases hdet : t.determineOutputInterface destAddress with
    | error err =>
      rw [hdet] at hok
      cases hok
    | ok out =>
      rw [hdet] at hok
      cases hok
      exact determineOutputInterface_invariant h hdet
  | elapse time =>
    cases hok
    exact elapse_invariant h time

theorem run_invariant (h : t.CacheInvariant) {events : List Event} (hharmless : HarmlessRun S t events)
    (hok : run S t events = .ok t') : t'.CacheInvariant := by
  induction events generalizing t with
  | nil =>
    cases hok
    exact h
  | cons event events ih =>
    obtain ⟨t₁, hstep, hrest⟩ := bind_ok.mp hok
    exact ih (step_invariant h hharmless.1 hstep) (hharmless.2 t₁ hstep) hrest

/-- In every run whose operations are all harmless, the cache answers what the routes would give. -/
theorem run_coherent {heap : RouteRef → IPv6Route} {events : List Event} (hok : run S (init heap) events = .ok t')
    (hharmless : HarmlessRun S (init heap) events) : t'.Coherent :=
  (run_invariant (cacheInvariant_of_empty (fun _ h => by cases h) fun _ => rfl) hharmless hok).coherent

end Run

section Example

/-- Equivalent elements stay in their order. -/
def insertionSort : StdSort where
  sort less l := l.insertionSort fun a b => less b a = false
  perm less l := perm_insertionSort _ l
  sorted less l hasymm htrans := by
    have htotal : Std.Total fun a b : RouteRef => less b a = false := by
      refine ⟨fun a b => ?_⟩
      cases hba : less b a with
      | false => exact .inl rfl
      | true => exact .inr (hasymm b a hba)
    have htransitive : IsTrans RouteRef fun a b => less b a = false := ⟨fun a b c hab hbc => htrans a b c hab hbc⟩
    exact pairwise_insertionSort _ l

/-- No route object has been made yet. -/
def emptyTable : RoutingTable6 := init fun _ => ⟨false, 0, 0, .STATIC, -1, 0, 0, 0, dUnknown⟩

/-- A default route over router 7 on interface 1, used for a datagram to 5. -/
def useDefaultRoute : List Event := [.addDefaultRoute 0 7 1 100, .determineOutputInterface 5]

/-- The datagrams after the default route has been removed still go to the router. -/
theorem removed_default_route_is_used :
    ∃ t, run insertionSort emptyTable (useDefaultRoute ++ [.removeDefaultRoutes 1]) = .ok t ∧
      (t.determineOutputInterface 5).map Prod.fst = .ok (.cached ⟨7, 1⟩) ∧
      (t.doLongestPrefixMatch 5).map Prod.fst = .ok none ∧ ¬ t.Coherent := by
  obtain ⟨t, hrun, hcached, hmatch⟩ : ∃ t, run insertionSort emptyTable
      (useDefaultRoute ++ [.removeDefaultRoutes 1]) = .ok t ∧
      (t.determineOutputInterface 5).map Prod.fst = .ok (.cached ⟨7, 1⟩) ∧
      (t.doLongestPrefixMatch 5).map Prod.fst = .ok none := by
    refine exists_ok (by decide) ?_
    decide
  refine ⟨t, hrun, hcached, hmatch, fun hcoherent => ?_⟩
  obtain ⟨t₁, hdet⟩ := map_fst_ok hcached
  obtain ⟨t₂, hnone⟩ := map_fst_ok hmatch
  obtain ⟨e, t₃, hsome, -⟩ := hcoherent 5 ⟨7, 1⟩ t₁ hdet
  rw [hnone] at hsome
  cases hsome

/-- Default routes of another interface may go. -/
theorem run_coherent_other_interface :
    ∃ t, run insertionSort emptyTable (useDefaultRoute ++ [.removeDefaultRoutes 2, .elapse 50]) = .ok t ∧
      (t.determineOutputInterface 5).map Prod.fst = .ok (.cached ⟨7, 1⟩) ∧ t.Coherent := by
  obtain ⟨t, hrun, hcached⟩ : ∃ t, run insertionSort emptyTable
      (useDefaultRoute ++ [.removeDefaultRoutes 2, .elapse 50]) = .ok t ∧
      (t.determineOutputInterface 5).map Prod.fst = .ok (.cached ⟨7, 1⟩) := by
    refine exists_ok (by decide) ?_
    decide
  refine ⟨t, hrun, hcached, run_coherent hrun ?_⟩
  refine ⟨trivial, fun t₁ h₁ => ⟨trivial, fun t₂ h₂ => ⟨?_, fun t₃ h₃ => ⟨trivial, fun _ _ => trivial⟩⟩⟩⟩
  have hnone : ∀ t₂, run insertionSort emptyTable useDefaultRoute = .ok t₂ →
      ∀ e ∈ t₂.routeList, (t₂.heap e).interfaceId ≠ 2 := by
    decide
  have hrun₂ : run insertionSort emptyTable useDefaultRoute = .ok t₂ :=
    bind_ok.mpr ⟨t₁, h₁, bind_ok.mpr ⟨t₂, h₂, rfl⟩⟩
  exact fun e he hid => absurd hid (hnone t₂ hrun₂ e he)

end Example

end RoutingTable6

end Inet.Ipv6
