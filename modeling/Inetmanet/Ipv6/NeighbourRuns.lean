import Inetmanet.Ipv6.DestCache
import Inetmanet.Ipv6.NeighbourHandlers

/-!
# Runs of neighbour discovery

The runs in which no handler meets an entry in a state that it does not expect are
sound, and do not fail for an entry whose state is unknown.
-/
namespace Inet.Ipv6

open List Except RoutingTable6 NeighbourCache
open Inet.Arp (MACAddress)

namespace IPv6NeighbourDiscovery

section Runs

variable {tr : Trace} {s s' : IPv6NeighbourDiscovery} {key : NeighbourKey} {nce : Neighbour} {t : Timer}

/-- No handler meets an entry in a state that it does not expect. -/
def Fits (s : IPv6NeighbourDiscovery) : Event → Prop
  | .datagram msg => s.NextHopNotProbed msg
  | .solicitation ns nsCtrlInfo => s.TakesSolicitation ns nsCtrlInfo →
    s.FitsSolicitation ns.sourceLinkLayerAddress ⟨nsCtrlInfo.srcAddr, nsCtrlInfo.interfaceId⟩
  | .advertisement na naCtrlInfo => validateNAPacket na naCtrlInfo = true → ∀ nce,
    s.neighbourCache.lookup ⟨na.targetAddress, naCtrlInfo.interfaceId⟩ = some nce → FitsAdvertisement na nce
  | .routerAdvertisement ra raCtrlInfo => s.TakesRouterAdvertisement ra raCtrlInfo →
    s.FitsRouterAdvertisement ra ⟨raCtrlInfo.srcAddr, raCtrlInfo.interfaceId⟩
  | _ => True

theorem determineOutputInterface_simTime {table table' : RoutingTable6} {dest : IPv6Address}
    {found : Determined} (h : table.determineOutputInterface dest = .ok (found, table')) :
    table'.simTime = table.simTime := by
  have hmatch {t : RoutingTable6} (htime : t.simTime = table.simTime)
      (h : t.matchOutputInterface dest = .ok (found, table')) : table'.simTime = table.simTime := by
    rw [matchOutputInterface] at h
    cases hroute : t.doLongestPrefixMatch dest with
    | error e =>
      rw [hroute] at h
      cases h
    | ok res =>
      obtain ⟨route, t'⟩ := res
      rw [hroute] at h
      have htime' := (doLongestPrefixMatch_simTime hroute).trans htime
      cases route with
      | none =>
        cases h
        exact htime'
      | some route =>
        cases h
        exact htime'
  rw [determineOutputInterface, lookupDestCache] at h
  split at h
  · next hlookup =>
    refine hmatch ?_ h
    split at hlookup
    · cases hlookup
      rfl
    · split at hlookup
      · cases hlookup
        rfl
      · cases hlookup
  · next hlookup =>
    split at hlookup
    · cases hlookup
    · split at hlookup
      · cases hlookup
      · cases hlookup
        split at h
        · exact hmatch rfl h
        · cases h
          rfl

theorem Kept.configure (h : s.Kept tr) (interfaceID : Int) (addresses : InterfaceAddresses) :
    (s.configure interfaceID addresses).Kept tr := by
  refine ⟨h.clocked, fun key => ?_, h.linked, h.accounts⟩
  cases hnce : s.neighbourCache.lookup key with
  | none => exact .of_absent (s := s.configure interfaceID addresses) hnce ((h.entry key).absent hnce)
  | some nce =>
    refine .of_found (s := s.configure interfaceID addresses) hnce ?_
    refine ((h.entry key).found hnce).mono (fun _ he => he) (Nat.le_refl _) (Nat.le_refl _) ?_
    rw [IPv6NeighbourDiscovery.configure]
    by_cases hie : key.interfaceID = interfaceID
    · simp only [hie, Function.update_self]
    · simp only [Function.update_of_ne hie]

theorem Kept.elapse (h : s.Kept tr) {time : Nat}
    (hdue : ∀ t ∈ s.neighbourCache.timers, s.simTime + time ≤ t.arrivalTime) :
    (s.setTable { s.rt6 with simTime := s.simTime + time }).Kept tr := by
  refine ⟨⟨h.clocked.nodup, h.clocked.fresh, hdue⟩, fun key => ?_, h.linked, h.accounts⟩
  cases hnce : s.neighbourCache.lookup key with
  | none => exact .of_absent (s := s.setTable _) hnce ((h.entry key).absent hnce)
  | some nce =>
    refine .of_found (s := s.setTable _) hnce ?_
    exact ((h.entry key).found hnce).mono (fun _ he => he) (Nat.le_add_right _ _) (Nat.le_refl _) rfl

theorem Kept.step (S : StdSort) (h : s.Kept tr) {event : Event} (hpossible : s.Possible event) (hfits : s.Fits event)
    (hrun : s.step S event = .ok s') : s'.Kept ((event, s') :: tr) := by
  cases event with
  | datagram msg => exact h.processIPv6Datagram hpossible hrun
  | resolveNeighbour key =>
    rw [IPv6NeighbourDiscovery.step] at hrun
    cases hres : s.resolveNeighbour key with
    | error e =>
      rw [hres] at hrun
      cases hrun
    | ok res =>
      rw [hres] at hrun
      cases hrun
      exact (h.resolveNeighbour hres).1.quietEvent _ rfl
  | determineOutputInterface destAddress =>
    rw [IPv6NeighbourDiscovery.step] at hrun
    cases hres : s.rt6.determineOutputInterface destAddress with
    | error e =>
      rw [hres] at hrun
      cases hrun
    | ok res =>
      rw [hres] at hrun
      cases hrun
      exact (h.setTable (determineOutputInterface_simTime hres)).quietEvent _ rfl
  | solicitation ns nsCtrlInfo => exact (h.processNSPacket hfits hrun).1.quietEvent _ rfl
  | advertisement na naCtrlInfo => exact (h.processNAPacket hfits hrun).1.quietEvent _ rfl
  | routerAdvertisement ra raCtrlInfo => exact (h.processRAPacket S hfits hrun).1.quietEvent _ rfl
  | timeout t => exact (h.handleTimer hpossible.1 hpossible.2 hrun).1.quietEvent _ rfl
  | configure interfaceID addresses =>
    cases hrun
    exact (h.configure interfaceID addresses).quietEvent _ rfl
  | elapse time =>
    cases hrun
    exact (h.elapse hpossible).quietEvent _ rfl

theorem Initial.kept (h : s.Initial) : s.Kept [] := by
  constructor
  · rw [h.neighbourCache]
    exact ⟨nodup_nil, nofun, nofun⟩
  · intro key
    apply KeyKept.of_absent
    · rw [h.neighbourCache]
      rfl
    · rw [h.neighbourCache]
      rfl
  · intro p hp
    rw [h.neighbourCache] at hp
    rcases hp with hp | hp | hp | ⟨q, hp | hp⟩
    · cases hp
    · exact absurd rfl hp
    · exact absurd rfl hp
    · cases hp
    · cases hp
  · have hpending (key : NeighbourKey) : s.neighbourCache.pendingOf key = [] := by
      apply pendingOf_absent
      rw [h.neighbourCache]
      rfl
    rw [h.pendingQueue, h.sent]
    refine ⟨nodup_nil, fun key => ?_, fun key key' msg hmsg => ?_, fun msg => ?_, fun msg => rfl⟩
    · rw [hpending]
      exact nodup_nil
    · rw [hpending] at hmsg
      cases hmsg
    · simp [hpending]

theorem Reached.kept {S : StdSort} (h : Reached S Fits tr s) : s.Kept tr := by
  induction h with
  | start hs => exact hs.kept
  | step _ hpossible hfits hstep ih => exact ih.step S hpossible hfits hstep

theorem mem_timersOf (s : IPv6NeighbourDiscovery) (key : NeighbourKey) (nce : Neighbour) (kind : TimerKind)
    (h : ∃ t ∈ s.neighbourCache.timers, t.kind = kind ∧ t.contextPointer = ⟨key, nce.object⟩) :
    ∃ t ∈ s.neighbourCache.timersOf key, t.kind = kind := by
  obtain ⟨t, ht, hkind, hcontext⟩ := h
  exact ⟨t, mem_filter.mpr ⟨ht, by rw [hcontext]; simp⟩, hkind⟩

/-- The kinds of timers that an entry has. -/
theorem Kept.scheduled (h : s.Kept tr) (hnce : s.neighbourCache.lookup key = some nce) (kind : TimerKind) :
    (∃ t ∈ s.neighbourCache.timers, t.kind = kind ∧ t.contextPointer = ⟨key, nce.object⟩) ↔
      kind = .AR_TIMEOUT ∧ nce.reachabilityState = .INCOMPLETE ∨
        kind = .NUD_TIMEOUT ∧ (nce.reachabilityState = .DELAY ∨ nce.reachabilityState = .PROBE) := by
  have htimed := ((h.entry key).found hnce).timed
  have hmem := mem_timersOf s key nce kind
  have hback (t : Timer) (ht : t ∈ s.neighbourCache.timersOf key) : t ∈ s.neighbourCache.timers :=
    (mem_filter.mp ht).1
  generalize s.neighbourCache.timersOf key = timers at htimed hmem hback
  cases htimed with
  | resolving t hstate hcontext _ hresolving =>
    constructor
    · intro hkind
      obtain ⟨t', ht', hkind⟩ := hmem hkind
      rw [mem_singleton.mp ht', hresolving.kind] at hkind
      exact .inl ⟨hkind.symm, hstate⟩
    · intro hkind
      rcases hkind with ⟨rfl, -⟩ | ⟨-, hdetecting⟩
      · exact ⟨t, hback t (mem_singleton_self t), hresolving.kind, hcontext⟩
      · rw [hstate] at hdetecting
        rcases hdetecting with hdetecting | hdetecting <;> cases hdetecting
  | detecting t hstate hcontext hkind' =>
    constructor
    · intro hkind
      obtain ⟨t', ht', hkind⟩ := hmem hkind
      rw [mem_singleton.mp ht', hkind'] at hkind
      exact .inr ⟨hkind.symm, hstate⟩
    · intro hkind
      rcases hkind with ⟨-, hincomplete⟩ | ⟨rfl, -⟩
      · rw [hincomplete] at hstate
        rcases hstate with hstate | hstate <;> cases hstate
      · exact ⟨t, hback t (mem_singleton_self t), hkind', hcontext⟩
  | idle hstate =>
    constructor
    · intro hkind
      obtain ⟨t', ht', -⟩ := hmem hkind
      cases ht'
    · intro hkind
      rcases hkind with ⟨-, hincomplete⟩ | ⟨-, hdetecting⟩
      · rw [hincomplete] at hstate
        rcases hstate with hstate | hstate <;> cases hstate
      · rcases hstate with hstate | hstate <;> rw [hstate] at hdetecting <;>
          rcases hdetecting with hdetecting | hdetecting <;> cases hdetecting

/-- Where datagrams wait, the address is being resolved. -/
theorem Kept.resolving (h : s.Kept tr) (hnce : s.neighbourCache.lookup key = some nce) (hne : nce.pendingPackets ≠ []) :
    nce.reachabilityState = .INCOMPLETE ∧ ∃ t ∈ s.neighbourCache.timers,
      Resolving tr s.simTime (s.ift key.interfaceID) nce t := by
  have htimed := ((h.entry key).found hnce).timed
  have hback (t : Timer) (ht : t ∈ s.neighbourCache.timersOf key) : t ∈ s.neighbourCache.timers :=
    (mem_filter.mp ht).1
  generalize s.neighbourCache.timersOf key = timers at htimed hback
  cases htimed with
  | resolving t hstate _ _ hresolving => exact ⟨hstate, t, hback t (mem_singleton_self t), hresolving⟩
  | detecting t _ _ _ _ hempty => exact absurd hempty hne
  | idle _ _ hempty => exact absurd hempty hne

theorem Kept.sound (h : s.Kept tr) : s.Sound tr where
  arTimer key nce hnce := by
    rw [h.scheduled hnce]
    simp
  nudTimer key nce hnce := by
    rw [h.scheduled hnce]
    simp
  single key := by
    cases hnce : s.neighbourCache.lookup key with
    | none => rw [(h.entry key).absent hnce]; exact Nat.zero_le _
    | some nce =>
      have htimed := ((h.entry key).found hnce).timed
      generalize s.neighbourCache.timersOf key = timers at htimed
      cases htimed with
      | resolving t => exact Nat.le_refl _
      | detecting t => exact Nat.le_refl _
      | idle => exact Nat.zero_le _
  live t ht := by
    obtain ⟨nce, hnce, hobject, -⟩ := h.timer ht
    exact ⟨nce, hnce, hobject⟩
  incomplete key nce hnce hne := (h.resolving hnce hne).1
  mac key nce hnce hstate hp2p := by
    cases ((h.entry key).found hnce).mac.resolve_left hstate with
    | inl hp2p' => rw [hp2p] at hp2p'; cases hp2p'
    | inr hmac => exact hmac
  waiting := h.accounts.waiting
  alone := h.accounts.alone
  nodup := h.accounts.each
  once := h.accounts.once
  soon key msg hmsg := by
    cases hnce : s.neighbourCache.lookup key with
    | none =>
      rw [pendingOf_absent hnce] at hmsg
      cases hmsg
    | some nce =>
      rw [pendingOf_found hnce] at hmsg
      obtain ⟨-, t, ht, hresolving⟩ := h.resolving hnce (ne_nil_of_mem hmsg)
      obtain ⟨e, he, harrival, hle⟩ := hresolving.waiting msg hmsg
      exact ⟨e, he, harrival, Nat.le_trans (h.clocked.due t ht) (Nat.le_trans (Nat.le_add_right _ _) hle)⟩

end Runs

/-- A computation does not fail with the error for entries of an unknown state. -/
def Knows {α : Type} (x : Sim α) : Prop := x ≠ .error (.runtime "Unknown Neighbour cache entry state.")

section Knows

variable {α β : Type} {x : Sim α} {f : α → Sim β} {s : IPv6NeighbourDiscovery} {key : NeighbourKey} {nce : Neighbour}
  {cache : NeighbourCache}

theorem Knows.ok (a : α) : Knows (.ok a : Sim α) := nofun

theorem Knows.bind (hx : Knows x) (hf : ∀ a, x = .ok a → Knows (f a)) : Knows (x >>= f) := by
  intro h
  rcases bind_error.mp h with h | ⟨a, ha, h⟩
  · exact hx h
  · exact hf a ha h

theorem Knows.ensure {p : Prop} [Decidable p] {text : String} : Knows (ensure p text) := by
  intro h
  cases (ensure_error.mp h).2

theorem knows_deref (p : Option NeighbourPtr) : Knows (cache.deref p) := by
  rw [deref.eq_def]
  split
  · nofun
  split
  · nofun
  split
  · exact .ok _
  · nofun

theorem knows_add : Knows (cache.add key nce) := Knows.ensure.bind fun _ _ => .ok _

theorem knows_setHead (p : Option NeighbourPtr) : Knows (cache.setHead p) :=
  (knows_deref p).bind fun _ _ => Knows.ensure.bind fun _ _ => .ok _

theorem knows_unlink (p : NeighbourPtr) (l : DefaultRouterList) : Knows (cache.unlink p l) := by
  rw [unlink]
  split
  · exact .ok _
  · exact (knows_deref _).bind fun _ _ => (knows_deref _).bind fun _ _ => .ok _

theorem knows_removeFromList (p : NeighbourPtr) : Knows (cache.removeFromList p) := by
  rw [removeFromList]
  split
  · exact Knows.ensure.bind fun _ _ => (knows_unlink _ _).bind fun _ _ => .ok _
  · exact .ok _

theorem knows_remove : Knows (cache.remove key) := by
  rw [remove.eq_def]
  split
  · nofun
  · exact (knows_removeFromList _).bind fun _ _ => .ok _

theorem knows_addDefaultRouter (p : NeighbourPtr) : Knows (cache.addDefaultRouter p) := by
  refine (knows_deref _).bind fun _ _ => Knows.ensure.bind fun _ _ => Knows.ensure.bind fun _ _ =>
    Knows.ensure.bind fun _ _ => Knows.bind ?_ fun _ _ => .ok _
  rw [linkBefore.eq_def]
  split
  · exact (knows_deref _).bind fun _ _ => (knows_deref _).bind fun _ _ => .ok _
  · exact .ok _

theorem knows_findRouter (now : Nat) (start : Option NeighbourPtr) (fuel : Nat) (current : Option NeighbourPtr) :
    Knows (findRouter now start fuel cache current) := by
  induction fuel generalizing cache current with
  | zero =>
    cases current with
    | none => exact .ok _
    | some router => nofun
  | succ fuel ih =>
    cases current with
    | none => exact .ok _
    | some router =>
      rw [findRouter]
      refine (knows_deref _).bind fun res _ => ?_
      simp only
      split
      · exact knows_remove.bind fun _ _ => ih _
      split
      · exact (knows_setHead _).bind fun _ _ => .ok _
      · exact ih _

theorem knows_selectDefaultRouter : Knows s.selectDefaultRouter := by
  rw [selectDefaultRouter]
  refine Knows.bind ?_ fun res _ => ?_
  · rw [chooseRouter]
    refine Knows.bind (knows_findRouter _ _ _ _) fun res _ => ?_
    simp only
    split
    · exact .ok _
    · rw [nextInTurn]
      split
      · exact .ok _
      · exact (knows_deref _).bind fun _ _ => (knows_setHead _).bind fun _ _ => .ok _
  · obtain ⟨router, cache⟩ := res
    cases router with
    | none => exact .ok _
    | some router => exact .ok _

theorem knows_doLongestPrefixMatch (t : RoutingTable6) (dest : IPv6Address) : Knows (t.doLongestPrefixMatch dest) := by
  have hloop (l : List RouteRef) : Knows (longestPrefixMatchLoop t.simTime t.heap dest l) := by
    induction l with
    | nil => exact .ok _
    | cons e l ih =>
      rw [longestPrefixMatchLoop]
      split
      · split
        · split
          · exact ih
          · rintro ⟨⟩
        · exact .ok _
      · cases hrest : longestPrefixMatchLoop t.simTime t.heap dest l with
        | ok res => exact .ok _
        | error e' =>
          rw [hrest] at ih
          intro h
          exact ih (congrArg error (error.inj h))
  rw [doLongestPrefixMatch]
  have h := hloop t.routeList
  cases hrest : longestPrefixMatchLoop t.simTime t.heap dest t.routeList with
  | ok res => exact .ok _
  | error e =>
    rw [hrest] at h
    intro h'
    exact h (congrArg error (error.inj h'))

theorem knows_determineNextHop (dest : IPv6Address) : Knows (s.determineNextHop dest) := by
  refine (knows_doLongestPrefixMatch _ _).bind fun res _ => ?_
  obtain ⟨route, t⟩ := res
  cases route with
  | some route => exact .ok _
  | none => exact knows_selectDefaultRouter.bind fun _ _ => .ok _

theorem knows_detect : Knows (s.initiateNeighbourUnreachabilityDetection key nce) := Knows.ensure.bind fun _ _ => .ok _

theorem knows_resolve (dgSrcAddr : IPv6Address) : Knows (s.initiateAddressResolution dgSrcAddr key nce) :=
  Knows.ensure.bind fun _ _ => .ok _

theorem knows_createEntry (dgSrcAddr : IPv6Address) : Knows (s.createEntry dgSrcAddr key) := by
  rw [createEntry]
  split
  · exact .ok _
  split
  · exact knows_add.bind fun _ _ => .ok _
  · refine knows_add.bind fun cache _ => ?_
    split
    · rintro ⟨⟩
    · exact knows_resolve _

theorem knows_sendOrQueue (msg : Datagram) (hprobe : nce.reachabilityState ≠ .PROBE) :
    Knows (s.sendOrQueue msg key nce) := by
  rw [sendOrQueue]
  cases hstate : nce.reachabilityState with
  | INCOMPLETE => exact .ok _
  | STALE => exact knows_detect
  | REACHABLE => exact .ok _
  | DELAY => exact .ok _
  | PROBE => exact absurd hstate hprobe

/-- A new entry is not in PROBE. -/
theorem createEntry_notProbed {s' : IPv6NeighbourDiscovery} {dgSrcAddr : IPv6Address}
    (hrun : s.createEntry dgSrcAddr key = .ok s')
    (hold : ∀ nce, s.neighbourCache.lookup key = some nce → nce.reachabilityState ≠ .PROBE) :
    ∀ nce, s'.neighbourCache.lookup key = some nce → nce.reachabilityState ≠ .PROBE := by
  intro nce hnce
  rw [createEntry] at hrun
  cases hlookup : s.neighbourCache.lookup key with
  | some old =>
    rw [hlookup] at hrun
    cases hrun
    exact hold nce hnce
  | none =>
    rw [hlookup] at hrun
    simp only at hrun
    split at hrun
    · obtain ⟨cache, hadd, hrun⟩ := bind_ok.mp hrun
      obtain ⟨-, rfl⟩ := add_ok hadd
      cases hrun
      cases lookup_write_self.symm.trans hnce
      rintro ⟨⟩
    · obtain ⟨cache, hadd, hrun⟩ := bind_ok.mp hrun
      split at hrun
      · cases hrun
      · rw [initiateAddressResolution] at hrun
        obtain ⟨-, hrun⟩ := ensure_bind_ok.mp hrun
        cases hrun
        cases lookup_write_self.symm.trans hnce
        rintro ⟨⟩

theorem knows_processIPv6Datagram {msg : Datagram} (h : s.NextHopNotProbed msg) : Knows (s.processIPv6Datagram msg) := by
  refine (knows_determineNextHop _).bind fun res hnext => ?_
  obtain ⟨hop, s₁⟩ := res
  simp only
  split
  · exact .ok _
  · refine (knows_createEntry _).bind fun s₂ hcreate => ?_
    split
    · nofun
    · next nce hnce => exact knows_sendOrQueue msg (createEntry_notProbed hcreate (h hop s₁ hnext) nce hnce)

theorem knows_resolveNeighbour : Knows (s.resolveNeighbour key) := by
  rw [resolveNeighbour]
  split
  · exact .ok _
  split
  · exact .ok _
  · exact knows_detect.bind fun _ _ => .ok _
  · split
    · exact knows_detect.bind fun _ _ => .ok _
    · exact .ok _
  · exact .ok _
  · exact .ok _

theorem knows_handleTimer (t : Timer) : Knows (s.handleTimer t) := by
  rw [handleTimer]
  split
  · refine (knows_deref _).bind fun res _ => ?_
    simp only
    split
    · exact knows_remove.bind fun _ _ => .ok _
    · exact .ok _
  · refine (knows_deref _).bind fun res _ => ?_
    simp only
    split
    · exact .ok _
    · exact knows_remove.bind fun _ _ => .ok _

theorem knows_timeoutRouters (interfaceID : Int) (keys : List NeighbourKey) :
    Knows (keys.foldlM (timeoutIfRouterOn interfaceID) s) := by
  induction keys generalizing s with
  | nil => exact .ok _
  | cons key keys ih =>
    refine Knows.bind ?_ fun _ _ => ih
    rw [timeoutIfRouterOn]
    split
    · exact .ok _
    split
    · exact knows_remove.bind fun _ _ => .ok _
    · exact .ok _

theorem knows_updateRouter (S : StdSort) (ra : IPv6RouterAdvertisement) : Knows (s.updateRouter S ra key) := by
  rw [updateRouter]
  split
  · rw [newRouter]
    split
    · refine (knows_timeoutRouters _ _).bind fun _ _ => Knows.bind ?_ fun _ _ => .ok _
      exact knows_add.bind fun _ _ => knows_addDefaultRouter _
    · refine Knows.bind ?_ fun cache _ => ?_
      · rw [addAdvertiser]
        split
        · exact knows_add
        · exact knows_add
      · split
        · rintro ⟨⟩
        · exact .ok _
  · rw [knownRouter]
    split
    · exact knows_remove.bind fun _ _ => .ok _
    · exact .ok _

theorem knows_processRAPacket (S : StdSort) (ra : IPv6RouterAdvertisement) (raCtrlInfo : IPv6ControlInfo) :
    Knows (s.processRAPacket S ra raCtrlInfo) := by
  rw [processRAPacket]
  split
  · exact .ok _
  split
  · exact .ok _
  split
  · exact .ok _
  · exact (knows_updateRouter S ra).bind fun _ _ => .ok _

/-- The error that is raised is another. -/
theorem knows_runtime {text : String} (hne : text ≠ "Unknown Neighbour cache entry state.") :
    Knows (.error (.runtime text) : Sim α) := by
  intro h
  injection h with h
  injection h with h
  exact hne h

theorem knows_processNSPacket (ns : IPv6NeighbourSolicitation) (nsCtrlInfo : IPv6ControlInfo) :
    Knows (s.processNSPacket ns nsCtrlInfo) := by
  rw [processNSPacket]
  split
  · exact .ok _
  split
  · refine Knows.ensure.bind fun _ _ => ?_
    split
    · exact knows_runtime (by decide)
    · exact .ok _
  split
  · exact .ok _
  · refine Knows.bind ?_ fun _ _ => .ok _
    rw [updateEntry]
    split
    · exact knows_add.bind fun _ _ => .ok _
    split
    · exact .ok _
    · exact .ok _

theorem knows_setRouterFlag (naRouterFlag : Bool) : Knows (s.setRouterFlag key nce naRouterFlag) := by
  refine Knows.bind ?_ fun _ _ => .ok _
  rw [leaveList]
  split
  · exact .ok _
  · exact knows_removeFromList _

theorem knows_processNAPacket (na : IPv6NeighbourAdvertisement) (naCtrlInfo : IPv6ControlInfo) :
    Knows (s.processNAPacket na naCtrlInfo) := by
  rw [processNAPacket]
  split
  · exact .ok _
  split
  · exact knows_runtime (by decide)
  simp only
  split
  · exact .ok _
  split
  · rw [processNAForIncompleteNCEState]
    split
    · exact .ok _
    · exact (knows_setRouterFlag _).bind fun _ _ => .ok _
  · rw [processNAForOtherNCEStates]
    split
    · split
      · exact .ok _
      · exact .ok _
    · exact knows_setRouterFlag _

theorem knows_determineOutputInterface (t : RoutingTable6) (dest : IPv6Address) :
    Knows (t.determineOutputInterface dest) := by
  have hmatch (t : RoutingTable6) : Knows (t.matchOutputInterface dest) := by
    rw [matchOutputInterface]
    have h := knows_doLongestPrefixMatch t dest
    cases hroute : t.doLongestPrefixMatch dest with
    | ok res => exact .ok _
    | error e =>
      rw [hroute] at h
      intro h'
      exact h (congrArg error (error.inj h'))
  rw [determineOutputInterface]
  split
  · exact hmatch _
  · split
    · exact hmatch _
    · exact .ok _

/-- A computation and what is read off its result. -/
theorem Knows.map (hx : Knows x) (g : α → β) : Knows (x.map g) := by
  cases x with
  | ok a => exact .ok _
  | error e =>
    intro h
    exact hx (congrArg error (error.inj h))

theorem knows_step (S : StdSort) {event : Event} (hfits : s.Fits event) : Knows (s.step S event) := by
  cases event with
  | datagram msg => exact knows_processIPv6Datagram hfits
  | resolveNeighbour key => exact knows_resolveNeighbour.map _
  | determineOutputInterface destAddress => exact (knows_determineOutputInterface _ _).map _
  | solicitation ns nsCtrlInfo => exact knows_processNSPacket ns nsCtrlInfo
  | advertisement na naCtrlInfo => exact knows_processNAPacket na naCtrlInfo
  | routerAdvertisement ra raCtrlInfo => exact knows_processRAPacket S ra raCtrlInfo
  | timeout t => exact knows_handleTimer t
  | configure interfaceID addresses => exact .ok _
  | elapse time => exact .ok _

end Knows

/-- In every run in which the handlers meet only states that they expect, the timers and the queues are in order,
and no state is unknown. -/
theorem reached_sound {S : StdSort} {tr : Trace} {s : IPv6NeighbourDiscovery} (h : Reached S Fits tr s) :
    s.Sound tr ∧ ∀ event, s.Fits event →
      s.step S event ≠ .error (.runtime "Unknown Neighbour cache entry state.") :=
  ⟨h.kept.sound, fun _ hfits => knows_step S hfits⟩

section Example

/-- A host on the prefix `2001:db8::/64`. -/
def onLinkHost : IPv6NeighbourDiscovery where
  rt6 := { emptyTable with
    heap := fun _ =>
      { inTable := true, destPrefix := 0x20010db8 <<< 96, prefixLength := 64, src := .FROM_RA, interfaceId := 1 }
    routeList := [0] }
  ift _ := { addresses := { hasAddress := fun address => address == 0x20010db8000000000000000000000001 } }

theorem onLinkHost_initial : onLinkHost.Initial := ⟨rfl, rfl, rfl⟩

/-- The neighbour `2001:db8::2`. -/
def neighbour : NeighbourKey := ⟨0x20010db8000000000000000000000002, 1⟩

def toNeighbour : Datagram := ⟨0, 0x20010db8000000000000000000000001, neighbour.address⟩

theorem toNeighbour_possible : onLinkHost.Possible (.datagram toNeighbour) := not_mem_nil

/-- The neighbour asks for our address. -/
def solicited : Event :=
  .solicitation ⟨0x20010db8000000000000000000000001, 0xaabb⟩
    { srcAddr := neighbour.address, destAddr := 0xff0200000000000000000001ff000001, interfaceId := 1 }

/-- While the address of a neighbour is being resolved, a solicitation from it leaves the datagram in the queue of
an entry that is STALE, with the timer of address resolution. -/
theorem crossing_unsound :
    ¬ ∀ S tr s, Reached S (fun _ _ => True) tr s → s.Sound tr := by
  intro hall
  obtain ⟨s₂, hrun, hstale⟩ : ∃ s, (onLinkHost.step insertionSort (.datagram toNeighbour) >>= fun s =>
      s.step insertionSort solicited) = .ok s ∧
      (s.neighbourCache.lookup neighbour).any fun nce =>
        nce.reachabilityState = .STALE ∧ nce.pendingPackets = [toNeighbour] := by
    refine exists_ok (by decide) ?_
    decide
  obtain ⟨s₁, hdatagram, hsolicited⟩ := bind_ok.mp hrun
  have hpossible : s₁.Possible solicited := trivial
  have hreached : Reached insertionSort (fun _ _ => True) _ s₂ :=
    ((Reached.start onLinkHost_initial).step toNeighbour_possible trivial hdatagram).step hpossible trivial hsolicited
  cases hnce : s₂.neighbourCache.lookup neighbour with
  | none =>
    rw [hnce] at hstale
    cases hstale
  | some nce =>
    rw [hnce] at hstale
    obtain ⟨hstate, hpending⟩ := of_decide_eq_true hstale
    have hincomplete := (hall _ _ s₂ hreached).incomplete neighbour nce hnce (by rw [hpending]; nofun)
    rw [hstate] at hincomplete
    cases hincomplete

/-- With nothing but a datagram all is in order, and the datagram waits. -/
theorem queueing_sound :
    ∃ tr s, Reached insertionSort Fits tr s ∧ s.pendingQueue = [toNeighbour] ∧ s.Sound tr := by
  obtain ⟨s, hrun, hqueue⟩ : ∃ s, onLinkHost.step insertionSort (.datagram toNeighbour) = .ok s ∧
      s.pendingQueue = [toNeighbour] := by
    refine exists_ok (by decide) ?_
    decide
  have hnew : ∀ res, onLinkHost.determineNextHop toNeighbour.destAddr = .ok res →
      res.2.neighbourCache.lookup ⟨res.1.nextHop, res.1.interfaceId⟩ = none := by
    decide
  have hfits : onLinkHost.Fits (.datagram toNeighbour) := by
    intro hop s' hnext nce hnce
    rw [hnew (hop, s') hnext] at hnce
    cases hnce
  have hreached := (Reached.start onLinkHost_initial).step toNeighbour_possible hfits hrun
  exact ⟨_, s, hreached, hqueue, (reached_sound hreached).1⟩

/-- The router `fe80::1`. -/
def router : NeighbourPtr := ⟨⟨0xfe80 <<< 112 + 1, 1⟩, 0⟩

/-- The router advertises itself and the prefix. -/
def announced : Event :=
  .routerAdvertisement ⟨0xccdd, 1800, false, [⟨0x20010db8 <<< 96, 64, true, 3600⟩]⟩
    { srcAddr := router.nceKey.address, destAddr := 0xff02 <<< 112 + 1, interfaceId := 1 }

end Example

end IPv6NeighbourDiscovery

end Inet.Ipv6
