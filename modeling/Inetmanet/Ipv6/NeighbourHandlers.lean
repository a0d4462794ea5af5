import Inetmanet.Ipv6.NeighbourTimers
import Inetmanet.Lib.Ensures

/-!
# What the handlers keep

Every handler of neighbour discovery keeps the timers and the queues in order, unless
it meets an entry in a state that it does not expect.
-/
namespace Inet.Ipv6

open Option Nat RoutingTable6 NeighbourCache List
open Inet.Arp (MACAddress)

namespace IPv6NeighbourDiscovery

/-- The clock is not touched. -/
theorem addOrUpdateOnLinkPrefix_simTime (S : StdSort) (table : RoutingTable6) (e : RouteRef) (destPrefix : IPv6Address)
    (prefixLength : Nat) (interfaceId : Int) (expiryTime : Nat) :
    (table.addOrUpdateOnLinkPrefix S e destPrefix prefixLength interfaceId expiryTime).simTime = table.simTime := by
  have hchanged (t : RoutingTable6) (e : RouteRef) (r : IPv6Route) (code : ChangeCode) :
      (t.setField e r code).simTime = t.simTime := by
    rw [setField, RoutingTable6.routeChanged]
    split
    · split <;> rfl
    · rfl
  rw [RoutingTable6.addOrUpdateOnLinkPrefix, addOrUpdatePrefix]
  split
  · rfl
  · rw [RoutingTable6.setExpiryTime, RoutingTable6.setInterfaceId]
    split <;> split <;> simp only [hchanged]

section Handlers

variable {tr : Trace} {s s' : IPv6NeighbourDiscovery} {key : NeighbourKey} {nce : Neighbour} {t : Timer}
  {cache cache' : NeighbourCache} {pending : List Datagram} {timers : List Timer} {hop : RoutingTable6.Hop}

theorem Kept.relink (h : s.Kept tr)
    (hlist : NeighbourCache.Relinked s.neighbourCache cache' fun _ => False) : (s.setCache cache').Kept tr := by
  have hlookup := lookup_congr hlist.neighbourMap
  have htimers := timersOf_congr hlist.timers
  constructor
  · exact h.clocked.congr hlist.timers hlist.fresh
  · exact fun k => (h.entry k).congr (hlookup k) (htimers k) rfl rfl (Nat.le_of_eq hlist.fresh.symm)
  · intro p hp
    obtain ⟨hobject, hstate⟩ := h.linked p ((hlist.on p hp).resolve_right id)
    exact ⟨hlist.fresh ▸ hobject, fun nce hnce => hstate nce (hlookup p.nceKey ▸ hnce)⟩
  · have hpending : cache'.pendingOf = s.neighbourCache.pendingOf := funext fun k => pendingOf_congr (hlookup k)
    change Accounts tr cache'.pendingOf s.pendingQueue s.sent
    rw [hpending]
    exact h.accounts

/-- An open entry is erased. -/
theorem KeptBut.erase (h : KeptBut tr key [] [] (s.setCache cache)) (hgone : cache'.lookup key = none)
    (hothers : ∀ k, k ≠ key → cache'.lookup k = cache.lookup k) (htimers : cache'.timers = cache.timers)
    (hfresh : cache'.fresh = cache.fresh)
    (hon : ∀ p, cache'.defaultRouterList.On p → cache.defaultRouterList.On p) : (s.setCache cache').Kept tr := by
  have htimersOf := timersOf_congr htimers
  have hopen : KeptBut tr key [] [] (s.setCache cache') := by
    constructor
    · exact h.clocked.congr htimers hfresh
    · exact (htimersOf key).trans h.mine
    · exact fun k hk => (h.others k hk).congr (hothers k hk) (htimersOf k) rfl rfl (Nat.le_of_eq hfresh.symm)
    · intro p hp
      obtain ⟨hobject, hstate⟩ := h.linked p (hon p hp)
      exact ⟨hfresh ▸ hobject, fun hk nce hnce => hstate hk nce (hothers p.nceKey hk ▸ hnce)⟩
    · have haccounts : Accounts tr (Function.update cache.pendingOf key []) s.pendingQueue s.sent := h.accounts
      rw [← update_pendingOf [] hothers] at haccounts
      exact haccounts
  exact hopen.gone hgone

/-- The timer of an entry that is not INCOMPLETE goes with it. -/
theorem Kept.remove (h : s.Kept tr) (hremove : s.neighbourCache.remove key = .ok cache')
    (hstate : ∀ nce, s.neighbourCache.lookup key = some nce → nce.reachabilityState ≠ .INCOMPLETE) :
    (s.setCache cache').Kept tr := by
  obtain ⟨nce, hnce, hremoved⟩ := remove_ok hremove
  have htimed := ((h.entry key).found hnce).timed
  have hopen := h.openFound hnce
  have htimers := hremoved.timers
  generalize s.neighbourCache.timersOf key = timers at htimed hopen
  cases htimed with
  | resolving t hincomplete => exact absurd hincomplete (hstate nce hnce)
  | detecting t hdetecting hcontext hkind hnud hempty =>
    rw [hnud, h.clocked.cancel (mem_of_timersOf hopen.mine).1] at htimers
    rw [hempty] at hopen
    exact hopen.take.erase hremoved.gone hremoved.others htimers hremoved.fresh hremoved.on
  | idle hidle hnud hempty =>
    rw [hnud, cancel_none] at htimers
    rw [hempty] at hopen
    exact KeptBut.erase (s := s) hopen hremoved.gone hremoved.others htimers hremoved.fresh hremoved.on

/-- The entry that is pointed to, if it is there, is not INCOMPLETE. -/
def Resolved (cache : NeighbourCache) (p : NeighbourPtr) : Prop :=
  ∀ nce, cache.lookup p.nceKey = some nce → nce.object = p.object → nce.reachabilityState ≠ .INCOMPLETE

variable {start found : Option NeighbourPtr} {now sent : Nat} {ie : IPv6InterfaceData}
    {msg : Datagram} {ra : IPv6RouterAdvertisement} {na : IPv6NeighbourAdvertisement}

theorem Kept.nextRouter (h : s.Kept tr) {router p : NeighbourPtr}
    (hnext : nextRouter s.neighbourCache start router = some p) : Resolved s.neighbourCache p := by
  rw [IPv6NeighbourDiscovery.nextRouter] at hnext
  split at hnext
  · cases hnext
  · exact (h.linked p (.next hnext)).2

theorem Kept.findRouter {fuel : Nat} {current : Option NeighbourPtr} (h : (s.setCache cache).Kept tr)
    (hcurrent : ∀ p, current = some p → Resolved cache p)
    (hfind : findRouter now start fuel cache current = .ok (found, cache')) : (s.setCache cache').Kept tr := by
  induction fuel generalizing cache current with
  | zero =>
    cases current with
    | none =>
      cases hfind
      exact h
    | some router => cases hfind
  | succ fuel ih =>
    cases current with
    | none =>
      cases hfind
      exact h
    | some router =>
      rw [IPv6NeighbourDiscovery.findRouter] at hfind
      obtain ⟨⟨p, nce⟩, hderef, hfind⟩ := bind_ok.mp hfind
      obtain ⟨hp, hnce, hobject⟩ := deref_ok hderef
      obtain rfl := some.inj hp
      simp only at hfind
      split at hfind
      · obtain ⟨cache₁, hremove, hfind⟩ := bind_ok.mp hfind
        have hstate (nce' : Neighbour) (hnce' : cache.lookup router.nceKey = some nce') :
            nce'.reachabilityState ≠ .INCOMPLETE := by
          cases hnce.symm.trans hnce'
          exact hcurrent router rfl nce hnce hobject
        refine ih (Kept.remove (s := s.setCache cache) h hremove hstate) ?_ hfind
        intro q hq nce' hnce' hobject'
        obtain ⟨nce₁, -, hremoved⟩ := remove_ok hremove
        by_cases hk : q.nceKey = router.nceKey
        · rw [hk, hremoved.gone] at hnce'
          cases hnce'
        · rw [hremoved.others q.nceKey hk] at hnce'
          exact h.nextRouter hq nce' hnce' hobject'
      · split at hfind
        · obtain ⟨cache₁, hhead, hfind⟩ := bind_ok.mp hfind
          cases hfind
          exact Kept.relink (s := s.setCache cache) h (setHead_relinked hhead)
        · exact ih h (fun q hq => h.nextRouter hq) hfind

theorem Kept.nextInTurn (h : (s.setCache cache).Kept tr)
    (hturn : nextInTurn cache = .ok (found, cache')) : (s.setCache cache').Kept tr := by
  rw [IPv6NeighbourDiscovery.nextInTurn] at hturn
  split at hturn
  · cases hturn
    exact h
  · obtain ⟨⟨head, _⟩, -, hturn⟩ := bind_ok.mp hturn
    obtain ⟨cache₁, hhead, hturn⟩ := bind_ok.mp hturn
    cases hturn
    exact Kept.relink (s := s.setCache cache) h (setHead_relinked hhead)

theorem Kept.selectDefaultRouter (h : s.Kept tr) (hselect : s.selectDefaultRouter = .ok (hop, s')) :
    s'.Kept tr ∧ s'.simTime = s.simTime ∧ s'.pendingQueue = s.pendingQueue := by
  rw [IPv6NeighbourDiscovery.selectDefaultRouter] at hselect
  obtain ⟨⟨router, cache'⟩, hchoose, hselect⟩ := bind_ok.mp hselect
  have hkept : (s.setCache cache').Kept tr := by
    rw [chooseRouter] at hchoose
    obtain ⟨⟨found, cache⟩, hfind, hchoose⟩ := bind_ok.mp hchoose
    have hkept : (s.setCache cache).Kept tr := h.findRouter (fun p hp => (h.linked p (.head hp)).2) hfind
    simp only at hchoose
    split at hchoose
    · cases hchoose
      exact hkept
    · exact hkept.nextInTurn hchoose
  cases router with
  | none =>
    cases hselect
    exact ⟨hkept, rfl, rfl⟩
  | some router =>
    cases hselect
    exact ⟨hkept, rfl, rfl⟩

theorem doLongestPrefixMatch_simTime {table table' : RoutingTable6} {dest : IPv6Address} {route : Option RouteRef}
    (h : table.doLongestPrefixMatch dest = .ok (route, table')) : table'.simTime = table.simTime := by
  rw [doLongestPrefixMatch] at h
  cases hloop : longestPrefixMatchLoop table.simTime table.heap dest table.routeList with
  | error e =>
    rw [hloop] at h
    cases h
  | ok res =>
    rw [hloop] at h
    cases h
    rfl

theorem Kept.determineNextHop (h : s.Kept tr) {destAddr : IPv6Address}
    (hnext : s.determineNextHop destAddr = .ok (hop, s')) :
    s'.Kept tr ∧ s'.simTime = s.simTime ∧ s'.pendingQueue = s.pendingQueue := by
  rw [IPv6NeighbourDiscovery.determineNextHop] at hnext
  obtain ⟨⟨route, table⟩, hmatch, hnext⟩ := bind_ok.mp hnext
  have htime := doLongestPrefixMatch_simTime hmatch
  cases route with
  | some route =>
    cases hnext
    exact ⟨h.setTable htime, htime, rfl⟩
  | none =>
    obtain ⟨⟨hop', s₁⟩, hselect, hnext⟩ := bind_ok.mp hnext
    obtain ⟨hkept, htime', hqueue⟩ := (h.setTable htime).selectDefaultRouter hselect
    cases hnext
    exact ⟨hkept.setTable rfl, htime'.trans htime, hqueue⟩

/-- An open entry without a timer gets that of unreachability detection. -/
theorem KeptBut.detect (h : KeptBut tr key [] [] s)
    (hrun : s.initiateNeighbourUnreachabilityDetection key nce = .ok s') (hempty : nce.pendingPackets = [])
    (hmac : (s.ift key.interfaceID).isPointToPoint = true ∨ nce.macAddress ≠ 0)
    (hobject : nce.object < s.neighbourCache.fresh) : s'.Kept tr ∧ s'.simTime = s.simTime ∧ s'.ift = s.ift := by
  rw [initiateNeighbourUnreachabilityDetection] at hrun
  obtain ⟨-, hrun⟩ := ensure_bind_ok.mp hrun
  cases hrun
  refine ⟨?_, rfl, rfl⟩
  rw [← hempty] at h
  have hopen := h.write { nce with
    reachabilityState := .DELAY, nudTimeoutEvent := some s.neighbourCache.fresh } (Nat.le_refl _)
  have hput := hopen.put (t := ⟨s.neighbourCache.fresh, .NUD_TIMEOUT, ⟨key, nce.object⟩,
      s.simTime + (s.ift key.interfaceID).delayFirstProbeTime⟩) (fun t' ht' => Nat.ne_of_lt (h.clocked.fresh t' ht'))
    (lt_succ_self _) (le_succ _) rfl (Nat.le_add_right _ _)
  refine hput.close { nce with
    reachabilityState := .DELAY, nudTimeoutEvent := some s.neighbourCache.fresh }
    lookup_write_self ⟨?_, .inr hmac, lt_succ_of_lt hobject⟩ nofun
  exact .detecting _ (.inl rfl) rfl rfl rfl hempty

/-- An open entry without a timer gets that of address resolution. -/
theorem KeptBut.resolve (h : KeptBut tr key [] [] s) {dgSrcAddr : IPv6Address}
    (hrun : s.initiateAddressResolution dgSrcAddr key nce = .ok s') (hempty : nce.pendingPackets = [])
    (hnud : nce.nudTimeoutEvent = none) (hobject : nce.object < s.neighbourCache.fresh)
    (hoff : ¬ s.neighbourCache.defaultRouterList.On ⟨key, nce.object⟩) :
    s'.Kept tr ∧ s'.simTime = s.simTime ∧ s'.ift = s.ift ∧ s'.pendingQueue = s.pendingQueue := by
  rw [initiateAddressResolution] at hrun
  obtain ⟨-, hrun⟩ := ensure_bind_ok.mp hrun
  generalize hsrc : (if (s.ift key.interfaceID).addresses.hasAddress dgSrcAddr = true then dgSrcAddr
    else (s.ift key.interfaceID).addresses.preferredAddress) = nsSrcAddr at hrun
  cases hrun
  refine ⟨?_, rfl, rfl, rfl⟩
  rw [← hempty] at h
  have hopen := (h.solicit key.address key.address.formSolicitedNodeMulticastAddress nsSrcAddr key.interfaceID).write { nce with
    reachabilityState := .INCOMPLETE, numOfARNSSent := 1, nsSrcAddr := nsSrcAddr,
    arTimer := some s.neighbourCache.fresh } (Nat.le_refl _)
  have hput := hopen.put (t := ⟨s.neighbourCache.fresh, .AR_TIMEOUT, ⟨key, nce.object⟩,
      s.simTime + (s.ift key.interfaceID).retransTimer⟩) (fun t' ht' => Nat.ne_of_lt (h.clocked.fresh t' ht'))
    (lt_succ_self _) (le_succ _) rfl (Nat.le_add_right _ _)
  refine hput.close { nce with
    reachabilityState := .INCOMPLETE, numOfARNSSent := 1, nsSrcAddr := nsSrcAddr,
    arTimer := some s.neighbourCache.fresh }
    lookup_write_self ⟨?_, .inl rfl, lt_succ_of_lt hobject⟩ fun _ => hoff
  refine .resolving _ rfl rfl hnud ⟨rfl, rfl, Nat.le_refl _, Nat.le_refl _, fun msg hmsg => ?_⟩
  rw [hempty] at hmsg
  cases hmsg

/-- A new entry is open. -/
theorem Kept.added (h : s.Kept tr) (hadd : s.neighbourCache.add key nce = .ok cache') :
    KeptBut tr key [] [] (s.setCache cache') ∧
      cache'.lookup key = some { nce with object := s.neighbourCache.fresh } ∧
      cache'.fresh = s.neighbourCache.fresh + 1 ∧
      ¬ cache'.defaultRouterList.On ⟨key, s.neighbourCache.fresh⟩ := by
  obtain ⟨hnone, rfl⟩ := add_ok hadd
  refine ⟨(h.openAbsent hnone).write _ (le_succ _), lookup_write_self, rfl, fun hon => ?_⟩
  exact Nat.lt_irrefl _ (h.linked _ hon).1

variable {mac : MACAddress}

/-- A new entry that is STALE. -/
theorem Kept.addStale (h : s.Kept tr) (hadd : s.neighbourCache.addNeighbour key mac = .ok cache')
    (hmac : (s.ift key.interfaceID).isPointToPoint = true ∨ mac ≠ 0) : (s.setCache cache').Kept tr := by
  obtain ⟨hopen, hlookup, hfresh, -⟩ := h.added hadd
  refine hopen.closeIdle _ hlookup (.inr rfl) rfl rfl hmac ?_
  change s.neighbourCache.fresh < cache'.fresh
  omega

theorem Kept.createEntry (h : s.Kept tr) {dgSrcAddr : IPv6Address} (hrun : s.createEntry dgSrcAddr key = .ok s') :
    s'.Kept tr ∧ s'.simTime = s.simTime ∧ s'.pendingQueue = s.pendingQueue := by
  rw [IPv6NeighbourDiscovery.createEntry] at hrun
  cases hnce : s.neighbourCache.lookup key with
  | some nce =>
    rw [hnce] at hrun
    cases hrun
    exact ⟨h, rfl, rfl⟩
  | none =>
    rw [hnce] at hrun
    simp only at hrun
    split at hrun
    · next hp2p =>
      obtain ⟨cache, hadd, hrun⟩ := bind_ok.mp hrun
      cases hrun
      exact ⟨h.addStale hadd (.inl hp2p), rfl, rfl⟩
    · obtain ⟨cache, hadd, hrun⟩ := bind_ok.mp hrun
      obtain ⟨hopen, hlookup, hfresh, hoff⟩ := h.added hadd
      rw [hlookup] at hrun
      have hobject : s.neighbourCache.fresh < cache.fresh := by omega
      obtain ⟨hkept, htime, -, hqueue⟩ := hopen.resolve hrun rfl rfl hobject hoff
      exact ⟨hkept, htime, hqueue⟩

/-- The attempts that are left take no longer than all of them. -/
theorem waits_from_now {arrivalTime : Nat} (hsoon : arrivalTime ≤ now + ie.retransTimer)
    (hsent : 1 ≤ sent) :
    arrivalTime + (ie.maxMulticastSolicit - sent) * ie.retransTimer ≤ now + longestWait ie := by
  have hle : 1 + (ie.maxMulticastSolicit - sent) ≤ max 1 ie.maxMulticastSolicit := by omega
  calc arrivalTime + (ie.maxMulticastSolicit - sent) * ie.retransTimer
      ≤ now + ie.retransTimer + (ie.maxMulticastSolicit - sent) * ie.retransTimer := Nat.add_le_add_right hsoon _
    _ = now + (1 + (ie.maxMulticastSolicit - sent)) * ie.retransTimer := by rw [Nat.add_mul, Nat.one_mul, Nat.add_assoc]
    _ ≤ now + longestWait ie := Nat.add_le_add_left (Nat.mul_le_mul_right _ hle) _

/-- One more datagram waits for the address. -/
theorem Kept.enqueue (h : s.Kept tr) (hnce : s.neighbourCache.lookup key = some nce)
    (hstate : nce.reachabilityState = .INCOMPLETE) (hnew : msg ∉ s.pendingQueue)
    (e : Event × IPv6NeighbourDiscovery) (he : e.1.arrival = some msg) (htime : e.2.simTime = s.simTime) :
    Kept (e :: tr) { s.write key { nce with pendingPackets := nce.pendingPackets ++ [msg] } with
      pendingQueue := s.pendingQueue ++ [msg] } := by
  have hentry := (h.entry key).found hnce
  have hopen := (h.openFound hnce).write { nce with pendingPackets := nce.pendingPackets ++ [msg] } (Nat.le_refl _)
  refine (hopen.enqueue hnew e he).close { nce with pendingPackets := nce.pendingPackets ++ [msg] }
    lookup_write_self ⟨?_, .inl hstate, hentry.object⟩
    fun _ hon => (h.linked _ hon).2 nce hnce rfl hstate
  have htimed := hentry.timed
  generalize s.neighbourCache.timersOf key = timers at htimed
  cases htimed with
  | resolving t _ hcontext hnud hresolving =>
    refine .resolving t hstate hcontext hnud ⟨hresolving.kind, hresolving.arTimer, hresolving.started,
      hresolving.soon, fun m hm => ?_⟩
    cases mem_append.mp hm with
    | inl hm =>
      obtain ⟨e', he', harrival, hle⟩ := hresolving.waiting m hm
      exact ⟨e', mem_cons_of_mem _ he', harrival, hle⟩
    | inr hm =>
      rw [mem_singleton.mp hm]
      refine ⟨e, mem_cons_self, he, ?_⟩
      rw [htime]
      exact waits_from_now hresolving.soon hresolving.started
  | detecting t hdetecting =>
    rw [hstate] at hdetecting
    rcases hdetecting with hdetecting | hdetecting <;> cases hdetecting
  | idle hidle =>
    rw [hstate] at hidle
    rcases hidle with hidle | hidle <;> cases hidle

/-- A state that an entry with a timer does not have. -/
theorem Timed.idle_of (h : Timed tr now ie key nce timers)
    (hstate : nce.reachabilityState = .REACHABLE ∨ nce.reachabilityState = .STALE) :
    timers = [] ∧ nce.nudTimeoutEvent = none ∧ nce.pendingPackets = [] := by
  cases h with
  | resolving t hresolving =>
    rw [hresolving] at hstate
    rcases hstate with hstate | hstate <;> cases hstate
  | detecting t hdetecting =>
    rcases hstate with hstate | hstate <;> rw [hstate] at hdetecting <;> rcases hdetecting with hdetecting | hdetecting <;>
      cases hdetecting
  | idle _ hnud hempty => exact ⟨rfl, hnud, hempty⟩

/-- An entry without a timer is open with no timer. -/
theorem Kept.openIdle (h : s.Kept tr) (hnce : s.neighbourCache.lookup key = some nce)
    (hstate : nce.reachabilityState = .REACHABLE ∨ nce.reachabilityState = .STALE) :
    KeptBut tr key [] [] s ∧ nce.nudTimeoutEvent = none ∧ nce.pendingPackets = [] ∧
      ((s.ift key.interfaceID).isPointToPoint = true ∨ nce.macAddress ≠ 0) ∧ nce.object < s.neighbourCache.fresh := by
  have hentry := (h.entry key).found hnce
  obtain ⟨htimers, hnud, hempty⟩ := hentry.timed.idle_of hstate
  have hopen := h.openFound hnce
  rw [htimers, hempty] at hopen
  refine ⟨hopen, hnud, hempty, hentry.mac.resolve_left fun hincomplete => ?_, hentry.object⟩
  rw [hincomplete] at hstate
  rcases hstate with hstate | hstate <;> cases hstate

theorem Kept.sendOrQueue (h : s.Kept tr) (hnce : s.neighbourCache.lookup key = some nce)
    (hnew : msg ∉ s.pendingQueue) (e : Event × IPv6NeighbourDiscovery) (he : e.1.arrival = some msg)
    (htime : e.2.simTime = s.simTime) (hrun : s.sendOrQueue msg key nce = .ok s') : s'.Kept (e :: tr) := by
  rw [IPv6NeighbourDiscovery.sendOrQueue] at hrun
  cases hstate : nce.reachabilityState with
  | INCOMPLETE =>
    rw [hstate] at hrun
    cases hrun
    have hkept := h.enqueue hnce hstate hnew e he htime
    rw [hstate] at hkept
    exact hkept
  | STALE =>
    rw [hstate] at hrun
    have hsent := h.passOn (.datagram msg) rfl e he
    obtain ⟨hopen, -, hempty, hmac, hobject⟩ := hsent.openIdle hnce (.inr hstate)
    exact (hopen.detect hrun hempty hmac hobject).1
  | REACHABLE =>
    rw [hstate] at hrun
    cases hrun
    exact h.passOn _ rfl e he
  | DELAY =>
    rw [hstate] at hrun
    cases hrun
    exact h.passOn _ rfl e he
  | PROBE =>
    rw [hstate] at hrun
    cases hrun

/-- The entry of the next hop is not being probed. -/
def NextHopNotProbed (s : IPv6NeighbourDiscovery) (msg : Datagram) : Prop :=
  ∀ hop s', s.determineNextHop msg.destAddr = .ok (hop, s') →
    ∀ nce, s'.neighbourCache.lookup ⟨hop.nextHop, hop.interfaceId⟩ = some nce → nce.reachabilityState ≠ .PROBE

theorem sendOrQueue_simTime (hrun : s.sendOrQueue msg key nce = .ok s') : s'.simTime = s.simTime := by
  rw [IPv6NeighbourDiscovery.sendOrQueue] at hrun
  split at hrun
  · cases hrun
    rfl
  · rw [initiateNeighbourUnreachabilityDetection] at hrun
    obtain ⟨-, hrun⟩ := ensure_bind_ok.mp hrun
    cases hrun
    rfl
  · cases hrun
    rfl
  · cases hrun
    rfl
  · cases hrun

theorem Kept.processIPv6Datagram (h : s.Kept tr) (hnew : msg ∉ s.pendingQueue)
    (hrun : s.processIPv6Datagram msg = .ok s') : s'.Kept ((.datagram msg, s') :: tr) := by
  rw [IPv6NeighbourDiscovery.processIPv6Datagram] at hrun
  obtain ⟨⟨hop, s₁⟩, hnext, hrun⟩ := bind_ok.mp hrun
  obtain ⟨h₁, htime₁, hqueue₁⟩ := h.determineNextHop hnext
  simp only at hrun
  split at hrun
  · cases hrun
    exact h₁.passOn _ rfl _ rfl
  · obtain ⟨s₂, hcreate, hrun⟩ := bind_ok.mp hrun
    obtain ⟨h₂, htime₂, hqueue₂⟩ := h₁.createEntry hcreate
    have hnew' : msg ∉ s₂.pendingQueue := by rwa [hqueue₂, hqueue₁]
    cases hnce : s₂.neighbourCache.lookup ⟨hop.nextHop, hop.interfaceId⟩ with
    | none =>
      rw [hnce] at hrun
      cases hrun
    | some nce =>
      rw [hnce] at hrun
      exact h₂.sendOrQueue hnce hnew' _ rfl (sendOrQueue_simTime hrun) hrun

theorem Kept.resolveNeighbour (h : s.Kept tr) (hrun : s.resolveNeighbour key = .ok (mac, s')) :
    s'.Kept tr ∧ s'.simTime = s.simTime := by
  rw [IPv6NeighbourDiscovery.resolveNeighbour] at hrun
  cases hnce : s.neighbourCache.lookup key with
  | none =>
    rw [hnce] at hrun
    cases hrun
    exact ⟨h, rfl⟩
  | some nce =>
    rw [hnce] at hrun
    cases hstate : nce.reachabilityState with
    | INCOMPLETE =>
      simp only [hstate] at hrun
      cases hrun
      exact ⟨h, rfl⟩
    | STALE =>
      simp only [hstate] at hrun
      obtain ⟨s₁, hdetect, hrun⟩ := bind_ok.mp hrun
      cases hrun
      obtain ⟨hopen, -, hempty, hmac, hobject⟩ := h.openIdle hnce (.inr hstate)
      obtain ⟨hkept, htime, -⟩ := hopen.detect hdetect hempty hmac hobject
      exact ⟨hkept, htime⟩
    | REACHABLE =>
      simp only [hstate] at hrun
      split at hrun
      · obtain ⟨s₁, hdetect, hrun⟩ := bind_ok.mp hrun
        cases hrun
        obtain ⟨hopen, -, hempty, hmac, hobject⟩ := h.openIdle hnce (.inl hstate)
        obtain ⟨hkept, htime, -⟩ := (hopen.write _ (Nat.le_refl _)).detect hdetect hempty hmac hobject
        exact ⟨hkept, htime⟩
      · cases hrun
        exact ⟨h, rfl⟩
    | DELAY =>
      simp only [hstate] at hrun
      cases hrun
      exact ⟨h, rfl⟩
    | PROBE =>
      simp only [hstate] at hrun
      cases hrun
      exact ⟨h, rfl⟩

/-- The timer is that of an entry. -/
theorem Kept.timer (h : s.Kept tr) (ht : t ∈ s.neighbourCache.timers) :
    ∃ nce, s.neighbourCache.lookup t.contextPointer.nceKey = some nce ∧ nce.object = t.contextPointer.object ∧
      s.neighbourCache.timersOf t.contextPointer.nceKey = [t] := by
  have hmem : t ∈ s.neighbourCache.timersOf t.contextPointer.nceKey := mem_filter.mpr ⟨ht, by simp⟩
  cases hnce : s.neighbourCache.lookup t.contextPointer.nceKey with
  | none =>
    rw [(h.entry _).absent hnce] at hmem
    cases hmem
  | some nce =>
    have htimed := ((h.entry _).found hnce).timed
    generalize s.neighbourCache.timersOf t.contextPointer.nceKey = timers at htimed hmem
    cases htimed with
    | resolving t' _ hcontext =>
      obtain rfl := mem_singleton.mp hmem
      exact ⟨nce, rfl, by rw [hcontext], rfl⟩
    | detecting t' _ hcontext =>
      obtain rfl := mem_singleton.mp hmem
      exact ⟨nce, rfl, by rw [hcontext], rfl⟩
    | idle => cases hmem

/-- Once it is no longer scheduled, no other timer has its message. -/
theorem Clocked.absent (h : Clocked now cache) (ht : t ∈ cache.timers) :
    ∀ t' ∈ cache.timers.erase t, t'.msg ≠ t.msg := by
  intro t' ht' heq
  have hnodup : cache.timers.Nodup := List.Nodup.of_map _ h.nodup
  obtain ⟨hne, hmem⟩ := (hnodup.mem_erase_iff).mp ht'
  exact hne (inj_on_of_nodup_map h.nodup hmem ht heq)

/-- The state once a timer message has arrived. -/
def withoutTimer (s : IPv6NeighbourDiscovery) (t : Timer) : IPv6NeighbourDiscovery :=
  s.setCache { s.neighbourCache with timers := s.neighbourCache.timers.erase t }

theorem Kept.nudTimeout (h : s.Kept tr) (ht : t ∈ s.neighbourCache.timers)
    (hnce : s.neighbourCache.lookup t.contextPointer.nceKey = some nce)
    (hopen : KeptBut tr t.contextPointer.nceKey nce.pendingPackets [] (s.withoutTimer t))
    (hentry : EntryKept tr s.simTime (s.ift t.contextPointer.nceKey.interfaceID) s.neighbourCache.fresh
      t.contextPointer.nceKey nce [t])
    (hstate : nce.reachabilityState = .DELAY ∨ nce.reachabilityState = .PROBE) (hkind : t.kind = .NUD_TIMEOUT)
    (hcontext : t.contextPointer = ⟨t.contextPointer.nceKey, nce.object⟩)
    (hnud : nce.nudTimeoutEvent = some t.msg) (hempty : nce.pendingPackets = [])
    (hrun : (s.withoutTimer t).processNUDTimeout t = .ok s') : s'.Kept tr ∧ s'.simTime = s.simTime := by
  rw [processNUDTimeout] at hrun
  obtain ⟨⟨p, nce'⟩, hderef, hrun⟩ := bind_ok.mp hrun
  obtain ⟨hp, hnce', -⟩ := deref_ok hderef
  obtain rfl := some.inj hp
  cases hnce.symm.trans hnce'
  have hprobe : ∃ n, enterProbe nce = { nce with reachabilityState := .PROBE, numProbesSent := n } := by
    rw [enterProbe]
    cases hstate with
    | inl hstate => exact ⟨0, if_pos hstate⟩
    | inr hstate =>
      refine ⟨nce.numProbesSent, ?_⟩
      rw [if_neg (by rw [hstate]; decide), ← hstate]
  obtain ⟨n, hprobe⟩ := hprobe
  simp only [hprobe] at hrun
  split at hrun
  · obtain ⟨cache, hremove, hrun⟩ := bind_ok.mp hrun
    cases hrun
    refine ⟨?_, rfl⟩
    obtain ⟨nce', hnce', hremoved⟩ := remove_ok hremove
    rw [lookup_write_self] at hnce'
    cases hnce'
    rw [hempty] at hopen
    have hwritten := hopen.write { nce with reachabilityState := .PROBE, numProbesSent := n } (Nat.le_refl _)
    refine hwritten.erase hremoved.gone hremoved.others (hremoved.timers.trans ?_) hremoved.fresh hremoved.on
    rw [hnud]
    exact cancel_absent (h.clocked.absent ht)
  · cases hrun
    refine ⟨?_, rfl⟩
    have hwritten := (hopen.solicit t.contextPointer.nceKey.address t.contextPointer.nceKey.address
      (s.ift t.contextPointer.nceKey.interfaceID).addresses.preferredAddress t.contextPointer.nceKey.interfaceID).write
      { nce with reachabilityState := .PROBE, numProbesSent := n + 1 } (Nat.le_refl _)
    have hput := hwritten.put (t := { t with
        arrivalTime := s.simTime + (s.ift t.contextPointer.nceKey.interfaceID).retransTimer })
      (h.clocked.absent ht) (h.clocked.fresh t ht) (Nat.le_refl _) rfl (Nat.le_add_right _ _)
    refine hput.close { nce with reachabilityState := .PROBE, numProbesSent := n + 1 }
      lookup_write_self ⟨.detecting _ (.inr rfl) hcontext hkind hnud hempty, ?_, hentry.object⟩ nofun
    refine .inr (hentry.mac.resolve_left fun hincomplete => ?_)
    rw [hincomplete] at hstate
    rcases hstate with hstate | hstate <;> cases hstate

theorem fold_neighbourCache (out : Datagram → Output) (pending : List Datagram) :
    (pending.foldl (fun s msg => { s.send (out msg) with pendingQueue := s.pendingQueue.erase msg }) s).neighbourCache =
        s.neighbourCache ∧
      (pending.foldl (fun s msg => { s.send (out msg) with pendingQueue := s.pendingQueue.erase msg }) s).rt6 =
        s.rt6 := by
  induction pending generalizing s with
  | nil => exact ⟨rfl, rfl⟩
  | cons msg rest ih => exact ih

/-- One attempt is used up, and its time has passed. -/
theorem next_attempt (now : Nat) (hmore : sent < ie.maxMulticastSolicit) :
    now + ie.retransTimer + (ie.maxMulticastSolicit - (sent + 1)) * ie.retransTimer =
      now + (ie.maxMulticastSolicit - sent) * ie.retransTimer := by
  have hleft : ie.maxMulticastSolicit - sent = ie.maxMulticastSolicit - (sent + 1) + 1 := by omega
  rw [hleft, Nat.add_mul]
  omega

theorem Kept.arTimeout (h : s.Kept tr) (ht : t ∈ s.neighbourCache.timers) (hdue : t.arrivalTime = s.simTime)
    (hnce : s.neighbourCache.lookup t.contextPointer.nceKey = some nce)
    (hopen : KeptBut tr t.contextPointer.nceKey nce.pendingPackets [] (s.withoutTimer t))
    (hobject : nce.object < s.neighbourCache.fresh)
    (hstate : nce.reachabilityState = .INCOMPLETE)
    (hcontext : t.contextPointer = ⟨t.contextPointer.nceKey, nce.object⟩) (hnud : nce.nudTimeoutEvent = none)
    (hresolving : Resolving tr s.simTime (s.ift t.contextPointer.nceKey.interfaceID) nce t)
    (hrun : (s.withoutTimer t).processARTimeout t = .ok s') : s'.Kept tr ∧ s'.simTime = s.simTime := by
  rw [processARTimeout] at hrun
  obtain ⟨⟨p, nce'⟩, hderef, hrun⟩ := bind_ok.mp hrun
  obtain ⟨hp, hnce', -⟩ := deref_ok hderef
  obtain rfl := some.inj hp
  cases hnce.symm.trans hnce'
  simp only at hrun
  split at hrun
  · next hmore =>
    cases hrun
    refine ⟨?_, rfl⟩
    have hwritten := (hopen.solicit t.contextPointer.nceKey.address
      t.contextPointer.nceKey.address.formSolicitedNodeMulticastAddress nce.nsSrcAddr
      t.contextPointer.nceKey.interfaceID).write { nce with numOfARNSSent := nce.numOfARNSSent + 1 } (Nat.le_refl _)
    have hput := hwritten.put (t := { t with
        arrivalTime := s.simTime + (s.ift t.contextPointer.nceKey.interfaceID).retransTimer })
      (h.clocked.absent ht) (h.clocked.fresh t ht) (Nat.le_refl _) rfl (Nat.le_add_right _ _)
    refine hput.close { nce with numOfARNSSent := nce.numOfARNSSent + 1 } lookup_write_self
      ⟨.resolving _ hstate hcontext hnud ⟨hresolving.kind, hresolving.arTimer, Nat.le_add_left _ _, Nat.le_refl _, ?_⟩,
        .inl hstate, hobject⟩ fun _ hon => (h.linked _ hon).2 nce hnce rfl hstate
    intro msg hmsg
    obtain ⟨e, he, harrival, hle⟩ := hresolving.waiting msg hmsg
    rw [hdue] at hle
    exact ⟨e, he, harrival, Nat.le_trans (Nat.le_of_eq (next_attempt s.simTime hmore)) hle⟩
  · rw [dropQueuedPacketsAwaitingAR] at hrun
    obtain ⟨cache, hremove, hrun⟩ := bind_ok.mp hrun
    have hreleased := hopen.release (fun msg => .unreachable msg .ADDRESS_UNREACHABLE) fun _ => rfl
    obtain ⟨hcache, htable⟩ := fold_neighbourCache (s := s.withoutTimer t)
      (fun msg => .unreachable msg .ADDRESS_UNREACHABLE) nce.pendingPackets
    cases hrun
    refine ⟨?_, congrArg RoutingTable6.simTime htable⟩
    obtain ⟨nce', hnce', hremoved⟩ := remove_ok hremove
    rw [hcache] at hnce'
    cases hnce.symm.trans hnce'
    refine KeptBut.erase hreleased hremoved.gone hremoved.others (hremoved.timers.trans ?_) hremoved.fresh hremoved.on
    rw [hnud]
    exact cancel_none

theorem Kept.handleTimer (h : s.Kept tr) (ht : t ∈ s.neighbourCache.timers) (hdue : t.arrivalTime = s.simTime)
    (hrun : s.handleTimer t = .ok s') : s'.Kept tr ∧ s'.simTime = s.simTime := by
  obtain ⟨nce, hnce, hobject, htimers⟩ := h.timer ht
  have hopen := h.openFound hnce
  have hentry := (h.entry _).found hnce
  rw [htimers] at hopen hentry
  rw [IPv6NeighbourDiscovery.handleTimer] at hrun
  cases hentry.timed with
  | resolving _ hstate hcontext hnud hresolving =>
    simp only [hresolving.kind] at hrun
    exact h.arTimeout ht hdue hnce hopen.take hentry.object hstate hcontext hnud hresolving hrun
  | detecting _ hstate hcontext hkind hnud hempty =>
    simp only [hkind] at hrun
    exact h.nudTimeout ht hnce hopen.take hentry hstate hkind hcontext hnud hempty hrun

/-- What its timers say about an entry. -/
structure SameTimers (nce nce' : Neighbour) : Prop where
  object : nce'.object = nce.object
  reachabilityState : nce'.reachabilityState = nce.reachabilityState
  nudTimeoutEvent : nce'.nudTimeoutEvent = nce.nudTimeoutEvent
  arTimer : nce'.arTimer = nce.arTimer
  numOfARNSSent : nce'.numOfARNSSent = nce.numOfARNSSent
  pendingPackets : nce'.pendingPackets = nce.pendingPackets

theorem Timed.congr {nce' : Neighbour}
    (h : Timed tr now ie key nce timers) (hsame : SameTimers nce nce') : Timed tr now ie key nce' timers := by
  cases h with
  | resolving t hstate hcontext hnud hresolving =>
    refine .resolving t (hsame.reachabilityState.trans hstate) (hsame.object ▸ hcontext)
      (hsame.nudTimeoutEvent.trans hnud) ⟨hresolving.kind, hsame.arTimer.trans hresolving.arTimer,
        hsame.numOfARNSSent ▸ hresolving.started, hresolving.soon, ?_⟩
    rw [hsame.pendingPackets, hsame.numOfARNSSent]
    exact hresolving.waiting
  | detecting t hstate hcontext hkind hnud hempty =>
    exact .detecting t (hsame.reachabilityState ▸ hstate) (hsame.object ▸ hcontext) hkind
      (hsame.nudTimeoutEvent.trans hnud) (hsame.pendingPackets.trans hempty)
  | idle hstate hnud hempty =>
    exact .idle (hsame.reachabilityState ▸ hstate) (hsame.nudTimeoutEvent.trans hnud)
      (hsame.pendingPackets.trans hempty)

section

variable (h : s.Kept tr)
include h

/-- An entry is written, and neither its state nor its timers change. -/
theorem Kept.rewrite (hnce : s.neighbourCache.lookup key = some nce) {nce' : Neighbour}
    (hsame : SameTimers nce nce') (hmac : nce'.macAddress = nce.macAddress ∨ nce'.macAddress ≠ 0) :
    (s.write key nce').Kept tr := by
  have hentry := (h.entry key).found hnce
  have hopen := (h.openFound hnce).write nce' (Nat.le_refl _)
  rw [← hsame.pendingPackets] at hopen
  refine hopen.close _ lookup_write_self ⟨hentry.timed.congr hsame, ?_, hsame.object ▸ hentry.object⟩ ?_
  · rw [hsame.reachabilityState]
    cases hmac with
    | inl hmac => rw [hmac]; exact hentry.mac
    | inr hmac => exact .inr (.inr hmac)
  · intro hstate hon
    rw [hsame.object] at hon
    exact (h.linked _ hon).2 nce hnce rfl (hsame.reachabilityState ▸ hstate)

/-- The routes, and the objects for new ones. -/
theorem Kept.setRoutes {table : RoutingTable6} (htime : table.simTime = s.simTime) (n : RouteRef) :
    Kept tr { s.setTable table with nextRoute := n } :=
  ⟨(h.setTable htime).clocked, (h.setTable htime).entry, h.linked, h.accounts⟩

theorem Kept.timeoutDefaultRouter (hrun : s.timeoutDefaultRouter key = .ok s')
    (hstate : ∀ nce, s.neighbourCache.lookup key = some nce → nce.reachabilityState ≠ .INCOMPLETE) :
    s'.Kept tr ∧ s'.simTime = s.simTime ∧ s'.ift = s.ift := by
  rw [IPv6NeighbourDiscovery.timeoutDefaultRouter] at hrun
  obtain ⟨cache, hremove, hrun⟩ := bind_ok.mp hrun
  cases hrun
  exact ⟨(h.remove hremove hstate).setTable rfl, rfl, rfl⟩

variable {interfaceID : Int}

theorem Kept.timeoutIfRouterOn
    (hrun : timeoutIfRouterOn interfaceID s key = .ok s') : s'.Kept tr ∧ s'.simTime = s.simTime ∧ s'.ift = s.ift := by
  rw [IPv6NeighbourDiscovery.timeoutIfRouterOn] at hrun
  cases hnce : s.neighbourCache.lookup key with
  | none =>
    rw [hnce] at hrun
    cases hrun
    exact ⟨h, rfl, rfl⟩
  | some nce =>
    rw [hnce] at hrun
    simp only at hrun
    split at hrun
    · next hrouter =>
      apply h.timeoutDefaultRouter hrun
      intro nce' hnce'
      cases hnce.symm.trans hnce'
      exact (h.linked _ (on_of_isDefaultRouter hrouter.2)).2 nce hnce rfl
    · cases hrun
      exact ⟨h, rfl, rfl⟩

theorem Kept.timeoutRouters {keys : List NeighbourKey}
    (hrun : keys.foldlM (IPv6NeighbourDiscovery.timeoutIfRouterOn interfaceID) s = .ok s') :
    s'.Kept tr ∧ s'.simTime = s.simTime ∧ s'.ift = s.ift := by
  have hstep (s₁ : IPv6NeighbourDiscovery) (key : NeighbourKey)
      (h₁ : s₁.Kept tr ∧ s₁.simTime = s.simTime ∧ s₁.ift = s.ift) :
      Ensures (IPv6NeighbourDiscovery.timeoutIfRouterOn interfaceID s₁ key) fun s₂ =>
        s₂.Kept tr ∧ s₂.simTime = s.simTime ∧ s₂.ift = s.ift := by
    intro s₂ hone
    obtain ⟨h₂, htime, hift⟩ := h₁.1.timeoutIfRouterOn hone
    exact ⟨h₂, htime.trans h₁.2.1, hift.trans h₁.2.2⟩
  exact Ensures.foldlM_invariant hstep ⟨h, rfl, rfl⟩ s' hrun

theorem Kept.routersUnreachabilityDetection
    (hrun : s.routersUnreachabilityDetection interfaceID = .ok s') :
    s'.Kept tr ∧ s'.simTime = s.simTime ∧ s'.ift = s.ift := by
  have hrouted : (s.setTable ((s.rt6.removeDefaultRoutes interfaceID).removePrefixes interfaceID)).Kept tr :=
    h.setTable rfl
  exact hrouted.timeoutRouters hrun

theorem Kept.addRouter {expiryTime : Nat} {isHomeAgent : Bool}
    (hadd : s.neighbourCache.addRouter key mac expiryTime isHomeAgent = .ok cache')
    (hmac : (s.ift key.interfaceID).isPointToPoint = true ∨ mac ≠ 0) : (s.setCache cache').Kept tr := by
  rw [NeighbourCache.addRouter] at hadd
  obtain ⟨cache, hadd, hrouter⟩ := bind_ok.mp hadd
  obtain ⟨hopen, hlookup, hfresh, -⟩ := h.added hadd
  have hrelinked := addDefaultRouter_relinked hrouter
  have hlisted : KeptBut tr key [] [] (s.setCache cache') := by
    refine KeptBut.relink (s := s.setCache cache) hopen hrelinked fun p hp => ?_
    rw [hp]
    refine ⟨rfl, ?_⟩
    change s.neighbourCache.fresh < cache.fresh
    omega
  have hlookup' := (lookup_congr hrelinked.neighbourMap key).trans hlookup
  refine hlisted.closeIdle _ hlookup' (.inr rfl) rfl rfl hmac ?_
  change s.neighbourCache.fresh < cache'.fresh
  rw [hrelinked.fresh]
  omega

end

/-- An advertisement from a new address names its MAC address, or is from a default router on a link without. -/
def NamesAddress (s : IPv6NeighbourDiscovery) (ra : IPv6RouterAdvertisement) (key : NeighbourKey) : Prop :=
  ra.sourceLinkLayerAddress ≠ 0 ∨ ra.routerLifetime ≠ 0 ∧ (s.ift key.interfaceID).isPointToPoint = true

theorem Kept.newRouter (S : StdSort) (h : s.Kept tr) (hnames : s.NamesAddress ra key)
    (hrun : s.newRouter S ra key = .ok s') : s'.Kept tr ∧ s'.simTime = s.simTime := by
  rw [IPv6NeighbourDiscovery.newRouter] at hrun
  split at hrun
  · obtain ⟨s₁, hdetection, hrun⟩ := bind_ok.mp hrun
    obtain ⟨cache, hadd, hrun⟩ := bind_ok.mp hrun
    obtain ⟨h₁, htime₁, hift₁⟩ := h.routersUnreachabilityDetection hdetection
    cases hrun
    have hmac : (s₁.ift key.interfaceID).isPointToPoint = true ∨ ra.sourceLinkLayerAddress ≠ 0 := by
      rw [hift₁]
      exact hnames.symm.imp And.right id
    refine ⟨?_, htime₁⟩
    apply Kept.setRoutes (s := s₁.setCache cache)
    · exact h₁.addRouter hadd hmac
    · rfl
  · next hlifetime =>
    have hmac : ra.sourceLinkLayerAddress ≠ 0 := hnames.resolve_right fun hp2p => hlifetime hp2p.1
    obtain ⟨cache, hadd, hrun⟩ := bind_ok.mp hrun
    rw [addAdvertiser, if_neg hmac] at hadd
    obtain ⟨-, hlookup, -, -⟩ := h.added hadd
    simp only [hlookup] at hrun
    cases hrun
    have hstale := h.addStale hadd (.inr hmac)
    exact ⟨Kept.rewrite (s := s.setCache cache) hstale hlookup ⟨rfl, rfl, rfl, rfl, rfl, rfl⟩ (.inl rfl), rfl⟩

theorem Kept.knownRouter (h : s.Kept tr) (hnce : s.neighbourCache.lookup key = some nce)
    (hresolved : ra.routerLifetime = 0 → nce.reachabilityState ≠ .INCOMPLETE)
    (hrun : s.knownRouter ra key nce = .ok s') : s'.Kept tr ∧ s'.simTime = s.simTime := by
  rw [IPv6NeighbourDiscovery.knownRouter] at hrun
  obtain ⟨mac, hmac, hnce'⟩ : ∃ mac, (mac = nce.macAddress ∨ mac ≠ 0) ∧
      (if ra.sourceLinkLayerAddress ≠ 0 ∧ { nce with isRouter := true }.macAddress ≠ ra.sourceLinkLayerAddress then
        { nce with isRouter := true, macAddress := ra.sourceLinkLayerAddress }
      else { nce with isRouter := true }) = { nce with isRouter := true, macAddress := mac } := by
    split
    · next hnew => exact ⟨ra.sourceLinkLayerAddress, .inr hnew.1, rfl⟩
    · exact ⟨nce.macAddress, .inl rfl, rfl⟩
  simp only [hnce'] at hrun
  have hkept : (s.write key { nce with
      isRouter := true, macAddress := mac, routerExpiryTime := s.simTime + ra.routerLifetime }).Kept tr :=
    h.rewrite hnce ⟨rfl, rfl, rfl, rfl, rfl, rfl⟩ hmac
  split at hrun
  · next hlifetime =>
    obtain ⟨hkept', htime, -⟩ := hkept.timeoutDefaultRouter hrun fun nce' hnce' => by
      rw [write, setCache, lookup_write_self] at hnce'
      cases hnce'
      exact hresolved hlifetime
    exact ⟨hkept', htime⟩
  · cases hrun
    exact ⟨hkept, rfl⟩

/-- Prefixes are of no concern to the cache. -/
theorem processRAPrefixInfo_eq (S : StdSort) (interfaceID : Int) (s : IPv6NeighbourDiscovery)
    (prefixes : List IPv6NDPrefixInformation) :
    ∃ table n, processRAPrefixInfo S interfaceID s prefixes = { s.setTable table with nextRoute := n } ∧
      table.simTime = s.simTime := by
  induction prefixes generalizing s with
  | nil => exact ⟨s.rt6, s.nextRoute, rfl, rfl⟩
  | cons prefixInfo rest ih =>
    rw [processRAPrefixInfo]
    split
    · exact ⟨s.rt6, s.nextRoute, rfl, rfl⟩
    split
    · exact ⟨s.rt6, s.nextRoute, rfl, rfl⟩
    split
    · exact ih s
    split
    · exact ⟨s.rt6.removeOnLinkPrefix prefixInfo.addrPrefix prefixInfo.prefixLength, s.nextRoute, rfl, rfl⟩
    · obtain ⟨table, n, heq, htime⟩ := ih { s.setTable (s.rt6.addOrUpdateOnLinkPrefix S s.nextRoute
        prefixInfo.addrPrefix prefixInfo.prefixLength interfaceID (s.simTime + prefixInfo.validLifetime)) with
        nextRoute := s.nextRoute + 1 }
      refine ⟨table, n, heq, htime.trans ?_⟩
      exact addOrUpdateOnLinkPrefix_simTime S ..

/-- An entry is not timed out while its address is being resolved. -/
def FitsRouterAdvertisement (s : IPv6NeighbourDiscovery) (ra : IPv6RouterAdvertisement) (key : NeighbourKey) : Prop :=
  match s.neighbourCache.lookup key with
  | none => s.NamesAddress ra key
  | some nce => ra.routerLifetime = 0 → nce.reachabilityState ≠ .INCOMPLETE

theorem Kept.updateRouter (S : StdSort) (h : s.Kept tr)
    (hfits : s.FitsRouterAdvertisement ra key) (hrun : s.updateRouter S ra key = .ok s') :
    s'.Kept tr ∧ s'.simTime = s.simTime := by
  rw [IPv6NeighbourDiscovery.updateRouter] at hrun
  rw [FitsRouterAdvertisement] at hfits
  cases hnce : s.neighbourCache.lookup key with
  | none =>
    rw [hnce] at hrun hfits
    exact h.newRouter S hfits hrun
  | some nce =>
    rw [hnce] at hrun hfits
    exact h.knownRouter hnce hfits hrun

/-- An advertisement is taken note of. -/
def TakesRouterAdvertisement (s : IPv6NeighbourDiscovery) (ra : IPv6RouterAdvertisement) (raCtrlInfo : IPv6ControlInfo) :
    Prop :=
  (s.ift raCtrlInfo.interfaceId).advSendAdvertisements = false ∧ validateRAPacket ra raCtrlInfo = true ∧
    (s.ift raCtrlInfo.interfaceId).addresses.isDADInProgress = false

theorem Kept.processRAPacket (S : StdSort) (h : s.Kept tr)
    {raCtrlInfo : IPv6ControlInfo} (hfits : s.TakesRouterAdvertisement ra raCtrlInfo →
      s.FitsRouterAdvertisement ra ⟨raCtrlInfo.srcAddr, raCtrlInfo.interfaceId⟩)
    (hrun : s.processRAPacket S ra raCtrlInfo = .ok s') : s'.Kept tr ∧ s'.simTime = s.simTime := by
  rw [IPv6NeighbourDiscovery.processRAPacket] at hrun
  split at hrun
  · cases hrun
    exact ⟨h, rfl⟩
  next hadv =>
  split at hrun
  · cases hrun
    exact ⟨h, rfl⟩
  next hvalid =>
  split at hrun
  · cases hrun
    exact ⟨h, rfl⟩
  next hdad =>
  rw [processRAForRouterUpdates] at hrun
  obtain ⟨s₁, hupdate, hrun⟩ := bind_ok.mp hrun
  obtain ⟨h₁, htime₁⟩ :=
    h.updateRouter S (hfits ⟨by simpa using hadv, by simpa using hvalid, by simpa using hdad⟩) hupdate
  obtain ⟨table, n, heq, htime⟩ := processRAPrefixInfo_eq S raCtrlInfo.interfaceId s₁ ra.prefixInformation
  cases hrun
  rw [heq]
  exact ⟨h₁.setRoutes htime n, htime.trans htime₁⟩

/-- A solicitation changes the address only of an entry without a timer. -/
def FitsSolicitation (s : IPv6NeighbourDiscovery) (nsMacAddr : MACAddress) (key : NeighbourKey) : Prop :=
  match s.neighbourCache.lookup key with
  | none => nsMacAddr ≠ 0 ∨ (s.ift key.interfaceID).isPointToPoint = true
  | some entry => entry.macAddress ≠ nsMacAddr ∧ nsMacAddr ≠ 0 →
      entry.reachabilityState = .REACHABLE ∨ entry.reachabilityState = .STALE

theorem Kept.updateEntry (h : s.Kept tr) {nsMacAddr : MACAddress} (hfits : s.FitsSolicitation nsMacAddr key)
    (hrun : s.updateEntry key nsMacAddr = .ok s') : s'.Kept tr ∧ s'.simTime = s.simTime := by
  rw [IPv6NeighbourDiscovery.updateEntry] at hrun
  rw [FitsSolicitation] at hfits
  cases hnce : s.neighbourCache.lookup key with
  | none =>
    rw [hnce] at hrun hfits
    obtain ⟨cache, hadd, hrun⟩ := bind_ok.mp hrun
    cases hrun
    exact ⟨h.addStale hadd hfits.symm, rfl⟩
  | some nce =>
    rw [hnce] at hrun hfits
    simp only at hrun
    split at hrun
    · next hnew =>
      cases hrun
      refine ⟨?_, rfl⟩
      obtain ⟨hopen, hnud, hempty, -, hobject⟩ := h.openIdle hnce (hfits hnew)
      rw [← hempty] at hopen
      exact (hopen.write { nce with macAddress := nsMacAddr, reachabilityState := .STALE } (Nat.le_refl _)).closeIdle
        { nce with macAddress := nsMacAddr, reachabilityState := .STALE } lookup_write_self
        (.inr rfl) hnud hempty (.inr hnew.2) hobject
    · cases hrun
      exact ⟨h, rfl⟩

/-- A solicitation is answered, and the sender has an entry. -/
def TakesSolicitation (s : IPv6NeighbourDiscovery) (ns : IPv6NeighbourSolicitation) (nsCtrlInfo : IPv6ControlInfo) :
    Prop :=
  validateNSPacket ns nsCtrlInfo = true ∧
    (s.ift nsCtrlInfo.interfaceId).addresses.hasAddress ns.targetAddress = true ∧
    (s.ift nsCtrlInfo.interfaceId).addresses.isTentativeAddress ns.targetAddress = false ∧ nsCtrlInfo.srcAddr ≠ 0

theorem Kept.processNSPacket (h : s.Kept tr) {ns : IPv6NeighbourSolicitation} {nsCtrlInfo : IPv6ControlInfo}
    (hfits : s.TakesSolicitation ns nsCtrlInfo →
      s.FitsSolicitation ns.sourceLinkLayerAddress ⟨nsCtrlInfo.srcAddr, nsCtrlInfo.interfaceId⟩)
    (hrun : s.processNSPacket ns nsCtrlInfo = .ok s') : s'.Kept tr ∧ s'.simTime = s.simTime := by
  rw [IPv6NeighbourDiscovery.processNSPacket] at hrun
  split at hrun
  · cases hrun
    exact ⟨h, rfl⟩
  next hvalid =>
  split at hrun
  · rw [processNSForTentativeAddress] at hrun
    obtain ⟨-, hrun⟩ := ensure_bind_ok.mp hrun
    split at hrun
    · cases hrun
    · cases hrun
      exact ⟨h, rfl⟩
  next htentative =>
  split at hrun
  · cases hrun
    exact ⟨h.send rfl, rfl⟩
  next hsrc =>
  rw [processNSWithSpecifiedSrcAddr] at hrun
  obtain ⟨s₁, hupdate, hrun⟩ := bind_ok.mp hrun
  simp only [Bool.or_eq_true, Bool.not_eq_true', not_or, Bool.not_eq_false] at hvalid
  obtain ⟨h₁, htime⟩ := h.updateEntry (hfits ⟨hvalid.1, hvalid.2, by simpa using htentative, hsrc⟩) hupdate
  cases hrun
  exact ⟨h₁.send rfl, htime⟩

/-- The router flag of an open entry. -/
theorem KeptBut.setRouterFlag (h : KeptBut tr key pending timers s) {naRouterFlag : Bool}
    (hrun : s.setRouterFlag key nce naRouterFlag = .ok s') :
    KeptBut tr key pending timers s' ∧ s'.simTime = s.simTime ∧ s'.ift = s.ift ∧
      s'.neighbourCache.lookup key = some { nce with isRouter := naRouterFlag } ∧
      s'.neighbourCache.fresh = s.neighbourCache.fresh ∧ s'.neighbourCache.timers = s.neighbourCache.timers ∧
      (∀ p, s'.neighbourCache.defaultRouterList.On p → s.neighbourCache.defaultRouterList.On p) := by
  rw [IPv6NeighbourDiscovery.setRouterFlag] at hrun
  obtain ⟨cache, hlist, hrun⟩ := bind_ok.mp hrun
  have hrelinked : NeighbourCache.Relinked (s.neighbourCache.write key { nce with isRouter := naRouterFlag }) cache
      fun _ => False := by
    rw [leaveList] at hlist
    split at hlist
    · cases hlist
      exact ⟨rfl, rfl, rfl, fun p hp => .inl hp⟩
    · exact removeFromList_relinked hlist
  cases hrun
  have hwritten := h.write { nce with isRouter := naRouterFlag } (Nat.le_refl _)
  refine ⟨hwritten.relink hrelinked fun _ hp => hp.elim, rfl, rfl, ?_, hrelinked.fresh, hrelinked.timers,
    fun p hp => (hrelinked.on p hp).resolve_right id⟩
  change cache.lookup key = _
  rw [NeighbourCache.lookup, hrelinked.neighbourMap]
  exact lookup_write_self

/-- The timer of the open entry is cancelled by its message. -/
theorem KeptBut.cancel (h : KeptBut tr key pending [t] s) :
    KeptBut tr key pending [] (s.setCache (s.neighbourCache.cancelAndDelete (some t.msg))) := by
  rw [h.clocked.cancel (mem_of_timersOf h.mine).1]
  exact h.take

theorem Kept.advertisementAwaited (h : s.Kept tr) (hnce : s.neighbourCache.lookup key = some nce)
    (hstate : nce.reachabilityState = .INCOMPLETE)
    (hrun : s.processNAForIncompleteNCEState na key nce = .ok s') : s'.Kept tr ∧ s'.simTime = s.simTime := by
  rw [processNAForIncompleteNCEState] at hrun
  split at hrun
  · cases hrun
    exact ⟨h, rfl⟩
  next hmac =>
  obtain ⟨expires, state, hstate', hnce'⟩ : ∃ expires state, (state = .REACHABLE ∨ state = .STALE) ∧
      (if na.solicitedFlag then
        { nce with
          macAddress := na.targetLinkLayerAddress, reachabilityState := .REACHABLE,
          reachabilityExpires := s.simTime + (s.ift key.interfaceID).reachableTime }
      else { nce with macAddress := na.targetLinkLayerAddress, reachabilityState := .STALE }) =
        { nce with
          macAddress := na.targetLinkLayerAddress, reachabilityState := state, reachabilityExpires := expires } := by
    split
    · exact ⟨_, .REACHABLE, .inl rfl, rfl⟩
    · exact ⟨nce.reachabilityExpires, .STALE, .inr rfl, rfl⟩
  simp only [hnce'] at hrun
  obtain ⟨s₁, hflag, hrun⟩ := bind_ok.mp hrun
  have hentry := (h.entry key).found hnce
  have hopen := h.openFound hnce
  have htimed := hentry.timed
  generalize s.neighbourCache.timersOf key = timers at htimed hopen
  obtain ⟨h₁, htime₁, hift₁, -, hfresh₁, -, -⟩ := hopen.setRouterFlag hflag
  obtain ⟨hcache, htable⟩ := fold_neighbourCache (s := s₁) (fun msg => .datagram msg) nce.pendingPackets
  have hreleased := h₁.release (fun msg => .datagram msg) fun _ => rfl
  cases htimed with
  | resolving t _ _ hnud hresolving =>
    cases hrun
    refine ⟨?_, (congrArg RoutingTable6.simTime htable).trans htime₁⟩
    simp only [hresolving.arTimer]
    refine (hreleased.cancel.write { nce with
      macAddress := na.targetLinkLayerAddress, isRouter := na.routerFlag, reachabilityState := state,
      reachabilityExpires := expires, pendingPackets := [], arTimer := none } (Nat.le_refl _)).closeIdle
      { nce with
        macAddress := na.targetLinkLayerAddress, isRouter := na.routerFlag, reachabilityState := state,
        reachabilityExpires := expires, pendingPackets := [], arTimer := none }
      lookup_write_self hstate' hnud rfl (.inr hmac) ?_
    change nce.object < (nce.pendingPackets.foldl _ s₁).neighbourCache.fresh
    rw [hcache, hfresh₁]
    exact hentry.object
  | detecting t hdetecting =>
    rw [hstate] at hdetecting
    rcases hdetecting with hdetecting | hdetecting <;> cases hdetecting
  | idle hidle =>
    rw [hstate] at hidle
    rcases hidle with hidle | hidle <;> cases hidle

/-- An advertisement that does not name an address leaves the entries with a timer alone. -/
def FitsAdvertisement (na : IPv6NeighbourAdvertisement) (nce : Neighbour) : Prop :=
  na.solicitedFlag = false → na.targetLinkLayerAddress = 0 → nce.macAddress ≠ 0 →
    nce.reachabilityState ≠ .DELAY ∧ nce.reachabilityState ≠ .PROBE

/-- An entry that has been opened, and what it will be. -/
structure Opened (tr : Trace) (key : NeighbourKey) (nce : Neighbour) (s : IPv6NeighbourDiscovery)
    (s' : IPv6NeighbourDiscovery) (nce' : Neighbour) : Prop where
  kept : ∃ timers, KeptBut tr key nce'.pendingPackets timers s' ∧
    Timed tr s.simTime (s.ift key.interfaceID) key nce' timers
  object : nce'.object = nce.object
  macAddress : nce'.macAddress = nce.macAddress
  resolved : nce'.reachabilityState ≠ .INCOMPLETE
  simTime : s'.simTime = s.simTime
  ift : s'.ift = s.ift
  fresh : s'.neighbourCache.fresh = s.neighbourCache.fresh

theorem Kept.confirm (h : s.Kept tr) (hnce : s.neighbourCache.lookup key = some nce)
    (hstate : nce.reachabilityState ≠ .INCOMPLETE) {nce₁ : Neighbour}
    (hsame : SameTimers nce nce₁) (hfits : na.solicitedFlag = false → na.targetLinkLayerAddress ≠ nce₁.macAddress →
      nce.reachabilityState ≠ .DELAY ∧ nce.reachabilityState ≠ .PROBE) :
    Opened tr key nce₁ s (s.confirm na key nce₁).1 (s.confirm na key nce₁).2 := by
  have htimed := ((h.entry key).found hnce).timed.congr hsame
  have hopen := h.openFound hnce
  rw [← hsame.pendingPackets] at hopen
  generalize s.neighbourCache.timersOf key = timers at htimed hopen
  rw [← hsame.reachabilityState] at hstate hfits
  rw [IPv6NeighbourDiscovery.confirm]
  split
  · cases htimed with
    | resolving t hincomplete => exact absurd hincomplete hstate
    | detecting t hdetecting hcontext hkind hnud hempty =>
      simp only [hnud, isSome_some, if_true]
      exact ⟨⟨[], hopen.cancel, .idle (.inl rfl) rfl hempty⟩, rfl, rfl, by simp, rfl, rfl, rfl⟩
    | idle hidle hnud hempty =>
      simp only [hnud, isSome_none, Bool.false_eq_true, if_false]
      exact ⟨⟨[], hopen, .idle (.inl rfl) rfl hempty⟩, rfl, rfl, by simp, rfl, rfl, rfl⟩
  · next hsolicited =>
    split
    · next hmac =>
      obtain ⟨hdelay, hprobe⟩ := hfits (by simpa using hsolicited) hmac
      cases htimed with
      | resolving t hincomplete => exact absurd hincomplete hstate
      | detecting t hdetecting =>
        cases hdetecting with
        | inl hstate => exact absurd hstate hdelay
        | inr hstate => exact absurd hstate hprobe
      | idle hidle hnud hempty =>
        exact ⟨⟨[], hopen, .idle (.inr rfl) hnud hempty⟩, rfl, rfl, by simp, rfl, rfl, rfl⟩
    · exact ⟨⟨timers, hopen, htimed⟩, rfl, rfl, hstate, rfl, rfl, rfl⟩

theorem Kept.advertisementOther (h : s.Kept tr) (hnce : s.neighbourCache.lookup key = some nce)
    (hstate : nce.reachabilityState ≠ .INCOMPLETE) (hfits : FitsAdvertisement na nce)
    (hrun : s.processNAForOtherNCEStates na key nce = .ok s') : s'.Kept tr ∧ s'.simTime = s.simTime := by
  rw [processNAForOtherNCEStates] at hrun
  split at hrun
  · split at hrun
    · next hreachable =>
      cases hrun
      refine ⟨?_, rfl⟩
      obtain ⟨hopen, hnud, hempty, hmac, hobject⟩ := h.openIdle hnce (.inl hreachable)
      rw [← hempty] at hopen
      exact (hopen.write { nce with reachabilityState := .STALE } (Nat.le_refl _)).closeIdle
        { nce with reachabilityState := .STALE } lookup_write_self (.inr rfl) hnud hempty hmac
        hobject
    · cases hrun
      exact ⟨h, rfl⟩
  · obtain ⟨mac, hmac, hnce₁⟩ : ∃ mac, (mac = nce.macAddress ∧ (na.targetLinkLayerAddress = 0 ∨
          na.targetLinkLayerAddress = mac) ∨ mac ≠ 0 ∧ na.targetLinkLayerAddress = mac) ∧
        (if na.targetLinkLayerAddress ≠ 0 ∧ na.targetLinkLayerAddress ≠ nce.macAddress then
          { nce with macAddress := na.targetLinkLayerAddress }
        else nce) = { nce with macAddress := mac } := by
      split
      · next hnew => exact ⟨_, .inr ⟨hnew.1, rfl⟩, rfl⟩
      · next hold =>
        refine ⟨nce.macAddress, .inl ⟨rfl, ?_⟩, rfl⟩
        by_cases hzero : na.targetLinkLayerAddress = 0
        · exact .inl hzero
        · exact .inr (by_contra fun hne => hold ⟨hzero, hne⟩)
    simp only [hnce₁] at hrun
    have hopened : Opened tr key { nce with macAddress := mac } s (s.confirm na key { nce with macAddress := mac }).1
        (s.confirm na key { nce with macAddress := mac }).2 := by
      refine h.confirm hnce hstate ⟨rfl, rfl, rfl, rfl, rfl, rfl⟩ fun hsolicited hne => ?_
      -- the address is the old one, and none is named
      rcases hmac with ⟨rfl, hzero | hsame⟩ | ⟨-, hsame⟩
      · exact hfits hsolicited hzero fun hold => hne (hzero.trans hold.symm)
      · exact absurd hsame hne
      · exact absurd hsame hne
    generalize s.confirm na key { nce with macAddress := mac } = res at hrun hopened
    obtain ⟨timers, hopen, htimed⟩ := hopened.kept
    obtain ⟨h₁, htime, hift, hlookup, hfresh, -, -⟩ := hopen.setRouterFlag hrun
    have hentry := (h.entry key).found hnce
    refine ⟨?_, htime.trans hopened.simTime⟩
    refine h₁.close { res.2 with isRouter := na.routerFlag } hlookup ⟨?_, .inr ?_, ?_⟩
      fun hincomplete => absurd hincomplete hopened.resolved
    · rw [htime, hopened.simTime, hift, hopened.ift]
      exact htimed.congr ⟨rfl, rfl, rfl, rfl, rfl, rfl⟩
    · rw [hift, hopened.ift]
      rw [hopened.macAddress]
      rcases hmac with ⟨rfl, -⟩ | ⟨hne, -⟩
      · exact hentry.mac.resolve_left hstate
      · exact .inr hne
    · rw [hfresh, hopened.fresh]
      change res.2.object < _
      rw [hopened.object]
      exact hentry.object

theorem Kept.processNAPacket (h : s.Kept tr) {naCtrlInfo : IPv6ControlInfo}
    (hfits : validateNAPacket na naCtrlInfo = true → ∀ nce,
      s.neighbourCache.lookup ⟨na.targetAddress, naCtrlInfo.interfaceId⟩ = some nce → FitsAdvertisement na nce)
    (hrun : s.processNAPacket na naCtrlInfo = .ok s') : s'.Kept tr ∧ s'.simTime = s.simTime := by
  rw [IPv6NeighbourDiscovery.processNAPacket] at hrun
  split at hrun
  · cases hrun
    exact ⟨h, rfl⟩
  next hvalid =>
  split at hrun
  · cases hrun
  cases hnce : s.neighbourCache.lookup ⟨na.targetAddress, naCtrlInfo.interfaceId⟩ with
  | none =>
    simp only [hnce] at hrun
    cases hrun
    exact ⟨h, rfl⟩
  | some nce =>
    simp only [hnce] at hrun
    split at hrun
    · next hstate => exact h.advertisementAwaited hnce hstate hrun
    · next hstate => exact h.advertisementOther hnce hstate (hfits (by simpa using hvalid) nce hnce) hrun

end Handlers

end IPv6NeighbourDiscovery

end Inet.Ipv6
