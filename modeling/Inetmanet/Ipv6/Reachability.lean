import Inetmanet.Ipv6.NeighbourRuns

/-!
# Confirmed reachability

In which runs an address that is given out as that of a neighbour that is REACHABLE
has been confirmed by a solicited advertisement within the last ReachableTime.
-/
namespace Inet.Ipv6

open NeighbourCache RoutingTable6

open Inet.Arp (MACAddress)

namespace NeighbourCache

/-- An entry keeps its address and does not become REACHABLE. -/
structure Calmer (nce nce' : Neighbour) : Prop where
  object : nce'.object = nce.object
  macAddress : nce'.macAddress = nce.macAddress
  reachabilityExpires : nce'.reachabilityExpires = nce.reachabilityExpires
  reachable : nce'.reachabilityState = .REACHABLE → nce.reachabilityState = .REACHABLE

/-- The entries of a cache are calmer than those of one before it, or new. -/
structure Calm (cache cache' : NeighbourCache) : Prop where
  fresh : cache.fresh ≤ cache'.fresh
  entry : ∀ key nce', cache'.lookup key = some nce' → (∃ nce, cache.lookup key = some nce ∧ Calmer nce nce') ∨
    cache.fresh ≤ nce'.object ∧ nce'.object < cache'.fresh ∧ nce'.reachabilityExpires = 0 ∧
      nce'.reachabilityState ≠ .REACHABLE

section Calm

variable {cache cache' cache'' : NeighbourCache} {key : NeighbourKey} {nce nce' : Neighbour}

theorem Calmer.refl (nce : Neighbour) : Calmer nce nce := ⟨rfl, rfl, rfl, id⟩

theorem Calmer.trans {nce'' : Neighbour} (h : Calmer nce nce') (h' : Calmer nce' nce'') : Calmer nce nce'' :=
  ⟨h'.object.trans h.object, h'.macAddress.trans h.macAddress, h'.reachabilityExpires.trans h.reachabilityExpires,
    fun hr => h.reachable (h'.reachable hr)⟩

theorem Calm.of_lookup (hfresh : cache.fresh ≤ cache'.fresh)
    (h : ∀ k nce', cache'.lookup k = some nce' → cache.lookup k = some nce') : Calm cache cache' :=
  ⟨hfresh, fun k nce' hnce' => .inl ⟨nce', h k nce' hnce', .refl nce'⟩⟩

theorem Calm.refl (cache : NeighbourCache) : Calm cache cache := .of_lookup (Nat.le_refl _) fun _ _ h => h

theorem Calm.trans (h : Calm cache cache') (h' : Calm cache' cache'') : Calm cache cache'' := by
  refine ⟨Nat.le_trans h.fresh h'.fresh, fun key nce'' hnce'' => ?_⟩
  rcases h'.entry key nce'' hnce'' with ⟨nce', hnce', hcalmer'⟩ | ⟨hnew, hobject, hexpires, hstate⟩
  · rcases h.entry key nce' hnce' with ⟨nce, hnce, hcalmer⟩ | ⟨hnew, hobject, hexpires, hstate⟩
    · exact .inl ⟨nce, hnce, hcalmer.trans hcalmer'⟩
    · refine .inr ⟨hcalmer'.object ▸ hnew, ?_, hcalmer'.reachabilityExpires.trans hexpires,
        fun hr => hstate (hcalmer'.reachable hr)⟩
      rw [hcalmer'.object]
      exact Nat.lt_of_lt_of_le hobject h'.fresh
  · exact .inr ⟨Nat.le_trans h.fresh hnew, hobject, hexpires, hstate⟩

theorem Calm.write (hnce : cache.lookup key = some nce) (nce' : Neighbour) (hcalmer : Calmer nce nce') :
    Calm cache (cache.write key nce') := by
  refine ⟨Nat.le_refl _, fun k nce'' hnce'' => .inl ?_⟩
  rw [lookup_write] at hnce''
  split at hnce''
  · next hk =>
    cases hnce''
    exact ⟨nce, hk ▸ hnce, hcalmer⟩
  · exact ⟨nce'', hnce'', .refl nce''⟩

theorem Calm.add (h : cache.add key nce = .ok cache') (hexpires : nce.reachabilityExpires = 0)
    (hstate : nce.reachabilityState ≠ .REACHABLE) : Calm cache cache' := by
  obtain ⟨-, rfl⟩ := add_ok h
  refine ⟨Nat.le_succ _, fun k nce' hnce' => ?_⟩
  have hlookup := hnce'
  change (cache.write key { nce with object := cache.fresh }).lookup k = some nce' at hlookup
  rw [lookup_write] at hlookup
  split at hlookup
  · cases hlookup
    exact .inr ⟨Nat.le_refl _, Nat.lt_succ_self _, hexpires, hstate⟩
  · exact .inl ⟨nce', hlookup, .refl nce'⟩

theorem Relinked.calm {newcomer : NeighbourPtr → Prop} (h : Relinked cache cache' newcomer) : Calm cache cache' := by
  refine .of_lookup (Nat.le_of_eq h.fresh.symm) fun k nce' hnce' => ?_
  rw [lookup, ← h.neighbourMap]
  exact hnce'

theorem Calm.remove (h : cache.remove key = .ok cache') : Calm cache cache' := by
  obtain ⟨nce, -, hremoved⟩ := remove_ok h
  refine .of_lookup (Nat.le_of_eq hremoved.fresh.symm) fun k nce' hnce' => ?_
  by_cases hk : k = key
  · rw [hk, hremoved.gone] at hnce'
    cases hnce'
  · rwa [hremoved.others k hk] at hnce'

end Calm

end NeighbourCache

namespace IPv6NeighbourDiscovery

open NeighbourCache (Calm Calmer)

/-- A solicited advertisement for a neighbour. -/
def Confirms (event : Event) (key : NeighbourKey) : Prop :=
  match event with
  | .advertisement na naCtrlInfo => validateNAPacket na naCtrlInfo = true ∧ na.solicitedFlag = true ∧
      na.targetAddress = key.address ∧ naCtrlInfo.interfaceId = key.interfaceID
  | _ => False

/-- A solicited advertisement was received, and `mac` was then the cached address; it holds until `time`. -/
def Confirmed (tr : Trace) (key : NeighbourKey) (mac : MACAddress) (time : Nat) : Prop :=
  ∃ e ∈ tr, Confirms e.1 key ∧ (∃ nce, e.2.neighbourCache.lookup key = some nce ∧ nce.macAddress = mac) ∧
    time ≤ e.2.simTime + (e.2.ift key.interfaceID).reachableTime

/-- An address that is replaced without a confirmation is STALE. -/
def ReplacesStale (s s' : IPv6NeighbourDiscovery) (event : Event) : Prop :=
  ∀ key nce nce', s.neighbourCache.lookup key = some nce → s'.neighbourCache.lookup key = some nce' →
    nce'.object = nce.object → nce'.macAddress ≠ nce.macAddress → ¬ Confirms event key →
    nce'.reachabilityState = .STALE

/-- An address that is given out, while the entry is left REACHABLE, has been confirmed. -/
def ResolvesConfirmed (tr : Trace) (s : IPv6NeighbourDiscovery) : Prop :=
  ∀ key mac s' nce, s.resolveNeighbour key = .ok (mac, s') → s'.neighbourCache.lookup key = some nce →
    nce.reachabilityState = .REACHABLE → Confirmed tr key mac s'.simTime

/-- Another address for an entry that is not STALE comes with a solicited advertisement or a solicitation. -/
def Cautious (s : IPv6NeighbourDiscovery) : Event → Prop
  | .advertisement na naCtrlInfo => validateNAPacket na naCtrlInfo = true → ∀ nce,
    s.neighbourCache.lookup ⟨na.targetAddress, naCtrlInfo.interfaceId⟩ = some nce →
    nce.reachabilityState ≠ .INCOMPLETE → na.solicitedFlag = false → na.overrideFlag = true →
    na.targetLinkLayerAddress ≠ 0 → na.targetLinkLayerAddress ≠ nce.macAddress → nce.reachabilityState = .STALE
  | .routerAdvertisement ra raCtrlInfo => s.TakesRouterAdvertisement ra raCtrlInfo → ∀ nce,
    s.neighbourCache.lookup ⟨raCtrlInfo.srcAddr, raCtrlInfo.interfaceId⟩ = some nce → ra.routerLifetime ≠ 0 →
    ra.sourceLinkLayerAddress ≠ 0 → ra.sourceLinkLayerAddress ≠ nce.macAddress → nce.reachabilityState = .STALE
  | _ => True

/-- The entries are calmer than before, or new. -/
structure CalmStep (s s' : IPv6NeighbourDiscovery) : Prop where
  simTime : s.simTime ≤ s'.simTime
  reachableTime : ∀ i, (s'.ift i).reachableTime = (s.ift i).reachableTime
  cache : Calm s.neighbourCache s'.neighbourCache

variable {mac : MACAddress}

section Handlers

variable {tr : Trace} {s s' s'' : IPv6NeighbourDiscovery} {key : NeighbourKey} {nce : Neighbour} {t : Timer}
  {cache cache' : NeighbourCache} {hop : RoutingTable6.Hop}

theorem CalmStep.refl (s : IPv6NeighbourDiscovery) : CalmStep s s := ⟨Nat.le_refl _, fun _ => rfl, .refl _⟩

theorem CalmStep.trans (h : CalmStep s s') (h' : CalmStep s' s'') : CalmStep s s'' :=
  ⟨Nat.le_trans h.simTime h'.simTime, fun i => (h'.reachableTime i).trans (h.reachableTime i), h.cache.trans h'.cache⟩

theorem CalmStep.send (h : CalmStep s s') (out : Output) : CalmStep s (s'.send out) :=
  ⟨h.simTime, h.reachableTime, h.cache⟩

theorem CalmStep.setCache (h : CalmStep s s') (hcache : Calm s'.neighbourCache cache') : CalmStep s (s'.setCache cache') :=
  ⟨h.simTime, h.reachableTime, h.cache.trans hcache⟩

variable {table : RoutingTable6} {ra : IPv6RouterAdvertisement} {event : Event}
    {na : IPv6NeighbourAdvertisement} {nce' : Neighbour}

theorem CalmStep.setTable (h : CalmStep s s') (htime : table.simTime = s'.simTime) :
    CalmStep s (s'.setTable table) :=
  ⟨h.simTime.trans_eq htime.symm, h.reachableTime, h.cache⟩

theorem CalmStep.setRoutes (h : CalmStep s s') (htime : table.simTime = s'.simTime)
    (n : RouteRef) : CalmStep s { s'.setTable table with nextRoute := n } :=
  ⟨h.simTime.trans_eq htime.symm, h.reachableTime, h.cache⟩

theorem CalmStep.fold (h : CalmStep s s') (out : Datagram → Output) (pending : List Datagram) :
    CalmStep s (pending.foldl
      (fun s msg => { s.send (out msg) with pendingQueue := s.pendingQueue.erase msg }) s') := by
  induction pending generalizing s' with
  | nil => exact h
  | cons msg rest ih => exact ih ⟨h.simTime, h.reachableTime, h.cache⟩

theorem calm_findRouter {now fuel : Nat} {start current found : Option NeighbourPtr}
    (hfind : findRouter now start fuel cache current = .ok (found, cache')) : Calm cache cache' := by
  induction fuel generalizing cache current with
  | zero =>
    cases current with
    | none =>
      cases hfind
      exact .refl _
    | some router => cases hfind
  | succ fuel ih =>
    cases current with
    | none =>
      cases hfind
      exact .refl _
    | some router =>
      rw [findRouter] at hfind
      obtain ⟨⟨p, nce⟩, -, hfind⟩ := bind_ok.mp hfind
      simp only at hfind
      split at hfind
      · obtain ⟨cache₁, hremove, hfind⟩ := bind_ok.mp hfind
        exact (Calm.remove hremove).trans (ih hfind)
      · split at hfind
        · obtain ⟨cache₁, hhead, hfind⟩ := bind_ok.mp hfind
          cases hfind
          exact (setHead_relinked hhead).calm
        · exact ih hfind

theorem calm_chooseRouter {now : Nat} {found : Option NeighbourPtr}
    (hchoose : chooseRouter now cache = .ok (found, cache')) : Calm cache cache' := by
  rw [chooseRouter] at hchoose
  obtain ⟨⟨found₁, cache₁⟩, hfind, hchoose⟩ := bind_ok.mp hchoose
  have hcalm := calm_findRouter hfind
  simp only at hchoose
  split at hchoose
  · cases hchoose
    exact hcalm
  · rw [nextInTurn] at hchoose
    split at hchoose
    · cases hchoose
      exact hcalm
    · obtain ⟨⟨head, _⟩, -, hchoose⟩ := bind_ok.mp hchoose
      obtain ⟨cache₂, hhead, hchoose⟩ := bind_ok.mp hchoose
      cases hchoose
      exact hcalm.trans (setHead_relinked hhead).calm

theorem calm_selectDefaultRouter (hselect : s.selectDefaultRouter = .ok (hop, s')) : CalmStep s s' := by
  rw [selectDefaultRouter] at hselect
  obtain ⟨⟨router, cache⟩, hchoose, hselect⟩ := bind_ok.mp hselect
  have hcalm := (CalmStep.refl s).setCache (calm_chooseRouter hchoose)
  cases router with
  | none =>
    cases hselect
    exact hcalm
  | some router =>
    cases hselect
    exact hcalm

theorem calm_determineNextHop {destAddr : IPv6Address} (hnext : s.determineNextHop destAddr = .ok (hop, s')) :
    CalmStep s s' := by
  rw [determineNextHop] at hnext
  obtain ⟨⟨route, table⟩, hmatch, hnext⟩ := bind_ok.mp hnext
  have htime := doLongestPrefixMatch_simTime hmatch
  cases route with
  | some route =>
    cases hnext
    exact (CalmStep.refl s).setTable htime
  | none =>
    obtain ⟨⟨hop', s₁⟩, hselect, hnext⟩ := bind_ok.mp hnext
    cases hnext
    exact (((CalmStep.refl s).setTable htime).trans (calm_selectDefaultRouter hselect)).setTable rfl

theorem calm_detect (hnce : s.neighbourCache.lookup key = some nce) (hcalmer : Calmer nce nce')
    (hrun : s.initiateNeighbourUnreachabilityDetection key nce' = .ok s') : CalmStep s s' := by
  rw [initiateNeighbourUnreachabilityDetection] at hrun
  obtain ⟨-, hrun⟩ := ensure_bind_ok.mp hrun
  cases hrun
  have hwrite := Calm.write hnce { nce' with
    reachabilityState := .DELAY, nudTimeoutEvent := some s.neighbourCache.fresh }
    ⟨hcalmer.object, hcalmer.macAddress, hcalmer.reachabilityExpires, by rintro ⟨⟩⟩
  exact ⟨Nat.le_refl _, fun _ => rfl, hwrite.trans (.of_lookup (Nat.le_succ _) fun _ _ h => h)⟩

theorem calm_resolve (hnce : s.neighbourCache.lookup key = some nce) {dgSrcAddr : IPv6Address}
    (hrun : s.initiateAddressResolution dgSrcAddr key nce = .ok s') : CalmStep s s' := by
  rw [initiateAddressResolution] at hrun
  obtain ⟨-, hrun⟩ := ensure_bind_ok.mp hrun
  generalize (if (s.ift key.interfaceID).addresses.hasAddress dgSrcAddr = true then dgSrcAddr
    else (s.ift key.interfaceID).addresses.preferredAddress) = nsSrcAddr at hrun
  cases hrun
  have hwrite := Calm.write hnce { nce with
    reachabilityState := .INCOMPLETE, numOfARNSSent := 1, nsSrcAddr := nsSrcAddr
    arTimer := some s.neighbourCache.fresh } ⟨rfl, rfl, rfl, by rintro ⟨⟩⟩
  exact ⟨Nat.le_refl _, fun _ => rfl, hwrite.trans (.of_lookup (Nat.le_succ _) fun _ _ h => h)⟩

theorem calm_createEntry {dgSrcAddr : IPv6Address} (hrun : s.createEntry dgSrcAddr key = .ok s') : CalmStep s s' := by
  rw [createEntry] at hrun
  split at hrun
  · cases hrun
    exact .refl s
  split at hrun
  · obtain ⟨cache, hadd, hrun⟩ := bind_ok.mp hrun
    cases hrun
    exact (CalmStep.refl s).setCache (Calm.add hadd rfl (by rintro ⟨⟩))
  · obtain ⟨cache, hadd, hrun⟩ := bind_ok.mp hrun
    have hcalm := Calm.add hadd rfl (by rintro ⟨⟩)
    split at hrun
    · cases hrun
    · next nce hnce =>
      exact ((CalmStep.refl s).setCache hcalm).trans (calm_resolve (s := s.setCache cache) hnce hrun)

theorem calm_sendOrQueue (hnce : s.neighbourCache.lookup key = some nce) {msg : Datagram}
    (hrun : s.sendOrQueue msg key nce = .ok s') : CalmStep s s' := by
  rw [sendOrQueue] at hrun
  split at hrun
  · cases hrun
    exact ⟨Nat.le_refl _, fun _ => rfl, .write hnce _ ⟨rfl, rfl, rfl, id⟩⟩
  · exact (CalmStep.send (.refl s) _).trans (calm_detect (s := s.send _) hnce (.refl nce) hrun)
  · cases hrun
    exact CalmStep.send (.refl s) _
  · cases hrun
    exact CalmStep.send (.refl s) _
  · cases hrun

theorem calm_processIPv6Datagram {msg : Datagram} (hrun : s.processIPv6Datagram msg = .ok s') : CalmStep s s' := by
  rw [processIPv6Datagram] at hrun
  obtain ⟨⟨hop, s₁⟩, hnext, hrun⟩ := bind_ok.mp hrun
  have h₁ := calm_determineNextHop hnext
  simp only at hrun
  split at hrun
  · cases hrun
    exact h₁.send _
  · obtain ⟨s₂, hcreate, hrun⟩ := bind_ok.mp hrun
    have h₂ := h₁.trans (calm_createEntry hcreate)
    split at hrun
    · cases hrun
    · next nce hnce => exact h₂.trans (calm_sendOrQueue hnce hrun)

theorem calm_resolveNeighbour (hrun : s.resolveNeighbour key = .ok (mac, s')) : CalmStep s s' := by
  rw [resolveNeighbour] at hrun
  split at hrun
  · cases hrun
    exact .refl s
  next nce hnce =>
  split at hrun
  · cases hrun
    exact .refl s
  · obtain ⟨s₁, hdetect, hrun⟩ := bind_ok.mp hrun
    cases hrun
    exact calm_detect hnce (.refl nce) hdetect
  · split at hrun
    · obtain ⟨s₁, hdetect, hrun⟩ := bind_ok.mp hrun
      cases hrun
      have hcalmer : Calmer nce { nce with reachabilityState := .STALE } := ⟨rfl, rfl, rfl, by rintro ⟨⟩⟩
      have hwrite := (CalmStep.refl s).setCache (Calm.write hnce _ hcalmer)
      exact hwrite.trans (calm_detect lookup_write_self (.refl _) hdetect)
    · cases hrun
      exact .refl s
  · cases hrun
    exact .refl s
  · cases hrun
    exact .refl s

theorem calm_enterProbe (nce : Neighbour) : Calmer nce (enterProbe nce) := by
  rw [enterProbe]
  split
  · exact ⟨rfl, rfl, rfl, by rintro ⟨⟩⟩
  · exact .refl nce

theorem calm_processNUDTimeout (hrun : s.processNUDTimeout t = .ok s') : CalmStep s s' := by
  rw [processNUDTimeout] at hrun
  obtain ⟨⟨p, nce⟩, hderef, hrun⟩ := bind_ok.mp hrun
  obtain ⟨-, hnce, -⟩ := deref_ok hderef
  have hprobe := calm_enterProbe nce
  simp only at hrun
  split at hrun
  · obtain ⟨cache, hremove, hrun⟩ := bind_ok.mp hrun
    cases hrun
    exact (CalmStep.refl s).setCache ((Calm.write hnce _ hprobe).trans (Calm.remove hremove))
  · cases hrun
    have hwrite := Calm.write hnce { enterProbe nce with numProbesSent := (enterProbe nce).numProbesSent + 1 }
      ⟨hprobe.object, hprobe.macAddress, hprobe.reachabilityExpires, hprobe.reachable⟩
    exact ⟨Nat.le_refl _, fun _ => rfl, hwrite.trans (.of_lookup (Nat.le_refl _) fun _ _ h => h)⟩

theorem calm_processARTimeout (hrun : s.processARTimeout t = .ok s') : CalmStep s s' := by
  rw [processARTimeout] at hrun
  obtain ⟨⟨p, nce⟩, hderef, hrun⟩ := bind_ok.mp hrun
  obtain ⟨-, hnce, -⟩ := deref_ok hderef
  simp only at hrun
  split at hrun
  · cases hrun
    have hwrite := Calm.write hnce { nce with numOfARNSSent := nce.numOfARNSSent + 1 } ⟨rfl, rfl, rfl, id⟩
    exact ⟨Nat.le_refl _, fun _ => rfl, hwrite.trans (.of_lookup (Nat.le_refl _) fun _ _ h => h)⟩
  · rw [dropQueuedPacketsAwaitingAR] at hrun
    obtain ⟨cache, hremove, hrun⟩ := bind_ok.mp hrun
    cases hrun
    exact ((CalmStep.refl s).fold _ _).setCache (Calm.remove hremove)

theorem calm_handleTimer (hrun : s.handleTimer t = .ok s') : CalmStep s s' := by
  have harrived : CalmStep s (s.withoutTimer t) :=
    ⟨Nat.le_refl _, fun _ => rfl, .of_lookup (Nat.le_refl _) fun _ _ h => h⟩
  rw [handleTimer] at hrun
  split at hrun
  · exact harrived.trans (calm_processNUDTimeout (s := s.withoutTimer t) hrun)
  · exact harrived.trans (calm_processARTimeout (s := s.withoutTimer t) hrun)

theorem calm_timeoutDefaultRouter (hrun : s.timeoutDefaultRouter key = .ok s') : CalmStep s s' := by
  rw [timeoutDefaultRouter] at hrun
  obtain ⟨cache, hremove, hrun⟩ := bind_ok.mp hrun
  cases hrun
  exact ((CalmStep.refl s).setCache (Calm.remove hremove)).setTable rfl

theorem calm_timeoutRouters {interfaceID : Int} {keys : List NeighbourKey}
    (hrun : keys.foldlM (timeoutIfRouterOn interfaceID) s = .ok s') : CalmStep s s' := by
  have hstep (s₁ : IPv6NeighbourDiscovery) (key : NeighbourKey) (h : CalmStep s s₁) :
      Ensures (timeoutIfRouterOn interfaceID s₁ key) (CalmStep s) := by
    intro s₂ hone
    rw [timeoutIfRouterOn] at hone
    split at hone
    · cases hone
      exact h
    split at hone
    · exact h.trans (calm_timeoutDefaultRouter hone)
    · cases hone
      exact h
  exact Ensures.foldlM_invariant hstep (.refl s) s' hrun

theorem calm_newRouter (S : StdSort) (hrun : s.newRouter S ra key = .ok s') : CalmStep s s' := by
  rw [newRouter] at hrun
  split at hrun
  · obtain ⟨s₁, hdetection, hrun⟩ := bind_ok.mp hrun
    obtain ⟨cache, hadd, hrun⟩ := bind_ok.mp hrun
    cases hrun
    rw [routersUnreachabilityDetection] at hdetection
    have hrouted : CalmStep s (s.setTable ((s.rt6.removeDefaultRoutes key.interfaceID).removePrefixes key.interfaceID)) :=
      (CalmStep.refl s).setTable rfl
    have hdetected := hrouted.trans (calm_timeoutRouters hdetection)
    obtain ⟨cache₁, hentry, hlist⟩ := bind_ok.mp hadd
    have hlisted := (addDefaultRouter_relinked hlist).calm
    have hadded := hdetected.setCache ((Calm.add hentry rfl (by rintro ⟨⟩)).trans hlisted)
    exact ⟨hadded.simTime, hadded.reachableTime, hadded.cache⟩
  · obtain ⟨cache, hadd, hrun⟩ := bind_ok.mp hrun
    have hcalm : Calm s.neighbourCache cache := by
      rw [addAdvertiser] at hadd
      split at hadd
      · exact Calm.add hadd rfl (by rintro ⟨⟩)
      · exact Calm.add hadd rfl (by rintro ⟨⟩)
    split at hrun
    · cases hrun
    · next nce hnce =>
      cases hrun
      exact (CalmStep.refl s).setCache (hcalm.trans (Calm.write hnce _ ⟨rfl, rfl, rfl, id⟩))

theorem calm_configure (s : IPv6NeighbourDiscovery) (interfaceID : Int) (addresses : InterfaceAddresses) :
    CalmStep s (s.configure interfaceID addresses) := by
  refine ⟨Nat.le_refl _, fun i => ?_, .refl _⟩
  rw [configure]
  by_cases hi : i = interfaceID
  · simp only [hi, Function.update_self]
  · simp only [Function.update_of_ne hi]

theorem calm_elapse (s : IPv6NeighbourDiscovery) (time : Nat) : CalmStep s (s.setTable { s.rt6 with simTime := s.simTime + time }) :=
  ⟨Nat.le_add_right _ _, fun _ => rfl, .refl _⟩

/-- The expiry time of an entry is not too far ahead, and one that is REACHABLE has been confirmed until then. -/
structure Dated (tr : Trace) (s : IPv6NeighbourDiscovery) (key : NeighbourKey) (nce : Neighbour) : Prop where
  object : nce.object < s.neighbourCache.fresh
  expires : nce.reachabilityExpires ≤ s.simTime + (s.ift key.interfaceID).reachableTime
  confirmed : nce.reachabilityState = .REACHABLE → Confirmed tr key nce.macAddress nce.reachabilityExpires

def AllDated (tr : Trace) (s : IPv6NeighbourDiscovery) : Prop :=
  ∀ key nce, s.neighbourCache.lookup key = some nce → Dated tr s key nce

/-- What is to be shown of an event. -/
def Admits (tr : Trace) (s s' : IPv6NeighbourDiscovery) (event : Event) : Prop :=
  AllDated ((event, s') :: tr) s' ∧ ReplacesStale s s' event

theorem Confirmed.cons {time : Nat} (h : Confirmed tr key mac time) (e : Event × IPv6NeighbourDiscovery) :
    Confirmed (e :: tr) key mac time := by
  obtain ⟨e', he', hconfirms⟩ := h
  exact ⟨e', List.mem_cons_of_mem _ he', hconfirms⟩

theorem AllDated.calm (h : AllDated tr s) (hcalm : CalmStep s s') (event : Event) : Admits tr s s' event := by
  constructor
  · intro key nce' hnce'
    rcases hcalm.cache.entry key nce' hnce' with ⟨nce, hnce, hcalmer⟩ | ⟨-, hobject, hexpires, hstate⟩
    · have hdated := h key nce hnce
      constructor
      · rw [hcalmer.object]
        exact Nat.lt_of_lt_of_le hdated.object hcalm.cache.fresh
      · rw [hcalmer.reachabilityExpires, hcalm.reachableTime]
        exact Nat.le_trans hdated.expires (Nat.add_le_add_right hcalm.simTime _)
      · intro hreachable
        rw [hcalmer.macAddress, hcalmer.reachabilityExpires]
        exact (hdated.confirmed (hcalmer.reachable hreachable)).cons _
    · refine ⟨hobject, ?_, fun hreachable => absurd hreachable hstate⟩
      rw [hexpires]
      exact Nat.zero_le _
  · intro key nce nce' hnce hnce' hobject hmac
    rcases hcalm.cache.entry key nce' hnce' with ⟨nce₁, hnce₁, hcalmer⟩ | ⟨hnew, -⟩
    · cases hnce.symm.trans hnce₁
      exact absurd hcalmer.macAddress hmac
    · have := (h key nce hnce).object
      omega

/-- One entry is rewritten, and the others are left alone. -/
structure Rewritten (s s' : IPv6NeighbourDiscovery) (key : NeighbourKey) (nce nce' : Neighbour) : Prop where
  simTime : s'.simTime = s.simTime
  ift : s'.ift = s.ift
  fresh : s'.neighbourCache.fresh = s.neighbourCache.fresh
  before : s.neighbourCache.lookup key = some nce
  after : s'.neighbourCache.lookup key = some nce'
  others : ∀ k, k ≠ key → s'.neighbourCache.lookup k = s.neighbourCache.lookup k
  object : nce'.object = nce.object

theorem Rewritten.setRoutes (h : Rewritten s s' key nce nce')
    (htime : table.simTime = s'.simTime) (n : RouteRef) :
    Rewritten s { s'.setTable table with nextRoute := n } key nce nce' :=
  ⟨htime.trans h.simTime, h.ift, h.fresh, h.before, h.after, h.others, h.object⟩

/-- The entry that is written is REACHABLE because of a confirmation or as it was, and a replaced address is STALE. -/
theorem AllDated.rewritten (h : AllDated tr s) (hrewritten : Rewritten s s' key nce nce')
    (hexpires : nce'.reachabilityExpires = nce.reachabilityExpires ∨
      nce'.reachabilityExpires = s.simTime + (s.ift key.interfaceID).reachableTime)
    (hreachable : nce'.reachabilityState = .REACHABLE → ¬ Confirms event key →
      nce.reachabilityState = .REACHABLE ∧ nce'.reachabilityExpires = nce.reachabilityExpires)
    (hstale : nce'.macAddress ≠ nce.macAddress → ¬ Confirms event key → nce'.reachabilityState = .STALE) :
    Admits tr s s' event := by
  have hsoon : nce'.reachabilityExpires ≤ s'.simTime + (s'.ift key.interfaceID).reachableTime := by
    rw [hrewritten.simTime, hrewritten.ift]
    cases hexpires with
    | inl hold =>
      rw [hold]
      exact (h key nce hrewritten.before).expires
    | inr hnew => exact Nat.le_of_eq hnew
  constructor
  · intro k nce₁ hnce₁
    by_cases hk : k = key
    · subst hk
      cases hrewritten.after.symm.trans hnce₁
      have hdated := h k nce hrewritten.before
      refine ⟨?_, hsoon, fun hstate => ?_⟩
      · rw [hrewritten.object, hrewritten.fresh]
        exact hdated.object
      · by_cases hconfirms : Confirms event k
        · exact ⟨_, List.mem_cons_self, hconfirms, ⟨nce', hnce₁, rfl⟩, hsoon⟩
        · obtain ⟨hstate₀, hsame⟩ := hreachable hstate hconfirms
          have hmac : nce'.macAddress = nce.macAddress := by
            by_contra hne
            rw [hstale hne hconfirms] at hstate
            cases hstate
          rw [hmac, hsame]
          exact (hdated.confirmed hstate₀).cons _
    · rw [hrewritten.others k hk] at hnce₁
      have hdated := h k nce₁ hnce₁
      refine ⟨?_, ?_, fun hstate => (hdated.confirmed hstate).cons _⟩
      · rw [hrewritten.fresh]
        exact hdated.object
      · rw [hrewritten.simTime, hrewritten.ift]
        exact hdated.expires
  · intro k nce₁ nce₂ hnce₁ hnce₂ _ hmac hconfirms
    by_cases hk : k = key
    · subst hk
      cases hrewritten.before.symm.trans hnce₁
      cases hrewritten.after.symm.trans hnce₂
      exact hstale hmac hconfirms
    · rw [hrewritten.others k hk] at hnce₂
      cases hnce₁.symm.trans hnce₂
      exact absurd rfl hmac

theorem rewritten_write (hnce : s.neighbourCache.lookup key = some nce) (nce' : Neighbour)
    (hobject : nce'.object = nce.object) : Rewritten s (s.write key nce') key nce nce' :=
  ⟨rfl, rfl, rfl, hnce, lookup_write_self, fun _ hk => lookup_write_of_ne hk, hobject⟩

theorem AllDated.knownRouter (h : AllDated tr s) (hnce : s.neighbourCache.lookup key = some nce)
    (hcautious : ra.routerLifetime ≠ 0 → ra.sourceLinkLayerAddress ≠ 0 →
      ra.sourceLinkLayerAddress ≠ nce.macAddress → nce.reachabilityState = .STALE)
    {n : RouteRef} (hrun : s.knownRouter ra key nce = .ok s') (htime : table.simTime = s'.simTime) :
    Admits tr s { s'.setTable table with nextRoute := n } event := by
  rw [IPv6NeighbourDiscovery.knownRouter] at hrun
  obtain ⟨mac, hmac, hnce'⟩ : ∃ mac, (mac = nce.macAddress ∨
        ra.sourceLinkLayerAddress ≠ 0 ∧ ra.sourceLinkLayerAddress ≠ nce.macAddress) ∧
      (if ra.sourceLinkLayerAddress ≠ 0 ∧ { nce with isRouter := true }.macAddress ≠ ra.sourceLinkLayerAddress then
        { nce with isRouter := true, macAddress := ra.sourceLinkLayerAddress }
      else { nce with isRouter := true }) = { nce with isRouter := true, macAddress := mac } := by
    split
    · next hnew => exact ⟨ra.sourceLinkLayerAddress, .inr ⟨hnew.1, hnew.2.symm⟩, rfl⟩
    · exact ⟨nce.macAddress, .inl rfl, rfl⟩
  simp only [hnce'] at hrun
  have hrewritten := rewritten_write hnce { nce with
    isRouter := true, macAddress := mac, routerExpiryTime := s.simTime + ra.routerLifetime } rfl
  split at hrun
  · rw [timeoutDefaultRouter] at hrun
    obtain ⟨cache, hremove, hrun⟩ := bind_ok.mp hrun
    obtain ⟨nce₁, -, hremoved⟩ := remove_ok hremove
    cases hrun
    -- whatever was written is gone
    have hcalm : Calm s.neighbourCache cache := by
      refine .of_lookup (Nat.le_of_eq hremoved.fresh.symm) fun k nce₂ hnce₂ => ?_
      by_cases hk : k = key
      · rw [hk, hremoved.gone] at hnce₂
        cases hnce₂
      · rw [hremoved.others k hk] at hnce₂
        exact (hrewritten.others k hk).symm.trans hnce₂
    apply h.calm
    exact ⟨Nat.le_of_eq htime.symm, fun _ => rfl, hcalm⟩
  · next hlifetime =>
    cases hrun
    refine h.rewritten (hrewritten.setRoutes htime n) (.inl rfl) (fun hstate _ => ⟨hstate, rfl⟩) fun hne _ => ?_
    obtain ⟨hsource, hother⟩ := hmac.resolve_left hne
    exact hcautious hlifetime hsource hother

theorem AllDated.processRAPacket (S : StdSort) (h : AllDated tr s)
    {raCtrlInfo : IPv6ControlInfo} (hcautious : s.Cautious (.routerAdvertisement ra raCtrlInfo))
    (hrun : s.processRAPacket S ra raCtrlInfo = .ok s') : Admits tr s s' (.routerAdvertisement ra raCtrlInfo) := by
  rw [IPv6NeighbourDiscovery.processRAPacket] at hrun
  split at hrun
  · cases hrun
    exact h.calm (.refl s) _
  next hadv =>
  split at hrun
  · cases hrun
    exact h.calm (.refl s) _
  next hvalid =>
  split at hrun
  · cases hrun
    exact h.calm (.refl s) _
  next hdad =>
  rw [processRAForRouterUpdates] at hrun
  obtain ⟨s₁, hupdate, hrun⟩ := bind_ok.mp hrun
  obtain ⟨table, n, heq, htime⟩ := processRAPrefixInfo_eq S raCtrlInfo.interfaceId s₁ ra.prefixInformation
  cases hrun
  rw [heq]
  rw [updateRouter] at hupdate
  split at hupdate
  · exact h.calm ((calm_newRouter S hupdate).setRoutes htime n) _
  · next nce hnce =>
    have htakes : s.TakesRouterAdvertisement ra raCtrlInfo :=
      ⟨by simpa using hadv, by simpa using hvalid, by simpa using hdad⟩
    exact h.knownRouter hnce (hcautious htakes nce hnce) hupdate htime

theorem AllDated.processNSPacket (h : AllDated tr s) {ns : IPv6NeighbourSolicitation} {nsCtrlInfo : IPv6ControlInfo}
    (hrun : s.processNSPacket ns nsCtrlInfo = .ok s') : Admits tr s s' (.solicitation ns nsCtrlInfo) := by
  rw [IPv6NeighbourDiscovery.processNSPacket] at hrun
  split at hrun
  · cases hrun
    exact h.calm (.refl s) _
  split at hrun
  · rw [processNSForTentativeAddress] at hrun
    obtain ⟨-, hrun⟩ := ensure_bind_ok.mp hrun
    split at hrun
    · cases hrun
    · cases hrun
      exact h.calm (.refl s) _
  split at hrun
  · cases hrun
    exact h.calm ((CalmStep.refl s).send _) _
  rw [processNSWithSpecifiedSrcAddr] at hrun
  obtain ⟨s₁, hupdate, hrun⟩ := bind_ok.mp hrun
  cases hrun
  rw [updateEntry] at hupdate
  split at hupdate
  · obtain ⟨cache, hadd, hupdate⟩ := bind_ok.mp hupdate
    cases hupdate
    exact h.calm (((CalmStep.refl s).setCache (Calm.add hadd rfl (by rintro ⟨⟩))).send _) _
  · next nce hnce =>
    split at hupdate
    · cases hupdate
      have hrewritten := rewritten_write hnce { nce with
        macAddress := ns.sourceLinkLayerAddress, reachabilityState := .STALE } rfl
      have hsent : Rewritten s ((s.write _ _).sendSolicitedNA ns nsCtrlInfo) _ nce _ :=
        ⟨rfl, rfl, rfl, hnce, hrewritten.after, hrewritten.others, rfl⟩
      exact h.rewritten hsent (.inl rfl) (by rintro ⟨⟩) fun _ _ => rfl
    · cases hupdate
      exact h.calm ((CalmStep.refl s).send _) _

theorem Rewritten.fold (h : Rewritten s s' key nce nce') (out : Datagram → Output)
    (pending : List Datagram) : Rewritten s (pending.foldl
      (fun s msg => { s.send (out msg) with pendingQueue := s.pendingQueue.erase msg }) s') key nce nce' := by
  induction pending generalizing s' with
  | nil => exact h
  | cons msg rest ih => exact ih ⟨h.simTime, h.ift, h.fresh, h.before, h.after, h.others, h.object⟩

theorem Rewritten.writeAgain {nce₁ : Neighbour} (h : Rewritten s s' key nce nce₁) (msg : Option Nat) (nce' : Neighbour)
    (hobject : nce'.object = nce.object) :
    Rewritten s ((s'.setCache (s'.neighbourCache.cancelAndDelete msg)).write key nce') key nce nce' :=
  ⟨h.simTime, h.ift, h.fresh, h.before, lookup_write_self,
    fun k hk => (lookup_write_of_ne hk).trans (h.others k hk), hobject⟩

/-- The router flag is written last. -/
theorem rewritten_setRouterFlag (timers : List Timer) (hnce : s.neighbourCache.lookup key = some nce)
    (hobject : nce'.object = nce.object) {naRouterFlag : Bool}
    (hrun : (s.setCache { s.neighbourCache with timers := timers }).setRouterFlag key nce' naRouterFlag = .ok s') :
    Rewritten s s' key nce { nce' with isRouter := naRouterFlag } := by
  rw [setRouterFlag] at hrun
  obtain ⟨cache, hlist, hrun⟩ := bind_ok.mp hrun
  cases hrun
  have hmap : cache.neighbourMap = (s.neighbourCache.write key { nce' with isRouter := naRouterFlag }).neighbourMap ∧
      cache.fresh = s.neighbourCache.fresh := by
    rw [leaveList] at hlist
    split at hlist
    · cases hlist
      exact ⟨rfl, rfl⟩
    · have hrelinked := removeFromList_relinked hlist
      exact ⟨hrelinked.neighbourMap, hrelinked.fresh⟩
  have hlookup (k : NeighbourKey) : cache.lookup k =
      (s.neighbourCache.write key { nce' with isRouter := naRouterFlag }).lookup k := by
    rw [lookup, hmap.1, lookup]
  exact ⟨rfl, rfl, hmap.2, hnce, (hlookup key).trans lookup_write_self,
    fun k hk => (hlookup k).trans (lookup_write_of_ne hk), hobject⟩

/-- What the Solicited flag does. -/
theorem confirm_cases (s : IPv6NeighbourDiscovery) (na : IPv6NeighbourAdvertisement) (key : NeighbourKey)
    (nce : Neighbour) : ∃ timers state expires nud,
      s.confirm na key nce = (s.setCache { s.neighbourCache with timers := timers },
        { nce with reachabilityState := state, reachabilityExpires := expires, nudTimeoutEvent := nud }) ∧
      (na.solicitedFlag = true ∧ (expires = nce.reachabilityExpires ∨
          expires = s.simTime + (s.ift key.interfaceID).reachableTime) ∨
        na.solicitedFlag = false ∧ expires = nce.reachabilityExpires ∧
          (state = .STALE ∨ state = nce.reachabilityState)) := by
  rw [confirm]
  split
  · next hsolicited =>
    simp only
    split
    · refine ⟨_, .REACHABLE, _, none, rfl, .inl ⟨hsolicited, .inr rfl⟩⟩
    · exact ⟨s.neighbourCache.timers, .REACHABLE, nce.reachabilityExpires, nce.nudTimeoutEvent, rfl,
        .inl ⟨hsolicited, .inl rfl⟩⟩
  · next hsolicited =>
    have hunsolicited : na.solicitedFlag = false := by simpa using hsolicited
    split
    · exact ⟨s.neighbourCache.timers, .STALE, nce.reachabilityExpires, nce.nudTimeoutEvent, rfl,
        .inr ⟨hunsolicited, rfl, .inl rfl⟩⟩
    · exact ⟨s.neighbourCache.timers, nce.reachabilityState, nce.reachabilityExpires, nce.nudTimeoutEvent, rfl,
        .inr ⟨hunsolicited, rfl, .inr rfl⟩⟩

theorem AllDated.advertisementAwaited (h : AllDated tr s) (hnce : s.neighbourCache.lookup key = some nce)
    (hevent : na.solicitedFlag = true → Confirms event key)
    (hrun : s.processNAForIncompleteNCEState na key nce = .ok s') : Admits tr s s' event := by
  rw [processNAForIncompleteNCEState] at hrun
  split at hrun
  · cases hrun
    exact h.calm (.refl s) _
  obtain ⟨expires, state, hstate, hnce'⟩ : ∃ expires state,
      (na.solicitedFlag = true ∧ expires = s.simTime + (s.ift key.interfaceID).reachableTime ∨
        expires = nce.reachabilityExpires ∧ state = .STALE) ∧
      (if na.solicitedFlag then
        { nce with
          macAddress := na.targetLinkLayerAddress, reachabilityState := .REACHABLE,
          reachabilityExpires := s.simTime + (s.ift key.interfaceID).reachableTime }
      else { nce with macAddress := na.targetLinkLayerAddress, reachabilityState := .STALE }) =
        { nce with
          macAddress := na.targetLinkLayerAddress, reachabilityState := state, reachabilityExpires := expires } := by
    split
    · next hsolicited => exact ⟨_, .REACHABLE, .inl ⟨hsolicited, rfl⟩, rfl⟩
    · exact ⟨nce.reachabilityExpires, .STALE, .inr ⟨rfl, rfl⟩, rfl⟩
  simp only [hnce'] at hrun
  obtain ⟨s₁, hflag, hrun⟩ := bind_ok.mp hrun
  have hflagged := rewritten_setRouterFlag s.neighbourCache.timers hnce (by rfl) hflag
  cases hrun
  have hrewritten := (hflagged.fold (fun msg => .datagram msg) nce.pendingPackets).writeAgain nce.arTimer { nce with
    macAddress := na.targetLinkLayerAddress, isRouter := na.routerFlag, reachabilityState := state,
    reachabilityExpires := expires, pendingPackets := [], arTimer := none } rfl
  apply h.rewritten hrewritten
  · exact hstate.symm.imp And.left And.right
  · intro hreachable hconfirms
    rcases hstate with ⟨hsolicited, -⟩ | ⟨-, rfl⟩
    · exact absurd (hevent hsolicited) hconfirms
    · cases hreachable
  · intro _ hconfirms
    rcases hstate with ⟨hsolicited, -⟩ | ⟨-, rfl⟩
    · exact absurd (hevent hsolicited) hconfirms
    · rfl

theorem AllDated.advertisementOther (h : AllDated tr s) (hnce : s.neighbourCache.lookup key = some nce)
    (hevent : na.solicitedFlag = true → Confirms event key)
    (hcautious : na.solicitedFlag = false → na.overrideFlag = true → na.targetLinkLayerAddress ≠ 0 →
      na.targetLinkLayerAddress ≠ nce.macAddress → nce.reachabilityState = .STALE)
    (hrun : s.processNAForOtherNCEStates na key nce = .ok s') : Admits tr s s' event := by
  rw [processNAForOtherNCEStates] at hrun
  split at hrun
  · split at hrun
    · cases hrun
      have hrewritten := rewritten_write hnce { nce with reachabilityState := .STALE } rfl
      exact h.rewritten hrewritten (.inl rfl) (by rintro ⟨⟩) fun hne => absurd rfl hne
    · cases hrun
      exact h.calm (.refl s) _
  · next hoverride =>
    obtain ⟨mac, hmac, hnce₁⟩ : ∃ mac, (mac ≠ nce.macAddress → na.targetLinkLayerAddress ≠ 0 ∧
          na.targetLinkLayerAddress ≠ nce.macAddress) ∧
        (if na.targetLinkLayerAddress ≠ 0 ∧ na.targetLinkLayerAddress ≠ nce.macAddress then
          { nce with macAddress := na.targetLinkLayerAddress }
        else nce) = { nce with macAddress := mac } := by
      split
      · next hnew => exact ⟨_, fun _ => hnew, rfl⟩
      · exact ⟨nce.macAddress, fun hne => absurd rfl hne, rfl⟩
    simp only [hnce₁] at hrun
    obtain ⟨timers, state, expires, nud, hconfirm, hstate⟩ := s.confirm_cases na key { nce with macAddress := mac }
    rw [hconfirm] at hrun
    have hrewritten := rewritten_setRouterFlag timers hnce (by rfl) hrun
    apply h.rewritten hrewritten
    · rcases hstate with ⟨-, hexpires⟩ | ⟨-, hexpires, -⟩
      · exact hexpires
      · exact .inl hexpires
    · intro hreachable hconfirms
      rcases hstate with ⟨hsolicited, -⟩ | ⟨-, hexpires, rfl | rfl⟩
      · exact absurd (hevent hsolicited) hconfirms
      · cases hreachable
      · exact ⟨hreachable, hexpires⟩
    · intro hne hconfirms
      obtain ⟨hnamed, hother⟩ := hmac hne
      rcases hstate with ⟨hsolicited, -⟩ | ⟨hunsolicited, -, rfl | rfl⟩
      · exact absurd (hevent hsolicited) hconfirms
      · rfl
      · have hset : na.overrideFlag = true := by
          by_contra hunset
          exact hoverride ⟨by simpa using hunset, hother, hnamed⟩
        exact hcautious hunsolicited hset hnamed hother

theorem AllDated.processNAPacket (h : AllDated tr s) {naCtrlInfo : IPv6ControlInfo}
    (hcautious : s.Cautious (.advertisement na naCtrlInfo)) (hrun : s.processNAPacket na naCtrlInfo = .ok s') :
    Admits tr s s' (.advertisement na naCtrlInfo) := by
  rw [IPv6NeighbourDiscovery.processNAPacket] at hrun
  split at hrun
  · cases hrun
    exact h.calm (.refl s) _
  next hvalid =>
  split at hrun
  · cases hrun
  have hvalid : validateNAPacket na naCtrlInfo = true := by simpa using hvalid
  have hevent (hsolicited : na.solicitedFlag = true) :
      Confirms (.advertisement na naCtrlInfo) ⟨na.targetAddress, naCtrlInfo.interfaceId⟩ :=
    ⟨hvalid, hsolicited, rfl, rfl⟩
  simp only at hrun
  split at hrun
  · cases hrun
    exact h.calm (.refl s) _
  next nce hnce =>
  split at hrun
  · exact h.advertisementAwaited hnce hevent hrun
  · next hstate => exact h.advertisementOther hnce hevent (hcautious hvalid nce hnce hstate) hrun

theorem AllDated.step (S : StdSort) (h : AllDated tr s) (hcautious : s.Cautious event)
    (hrun : s.step S event = .ok s') : Admits tr s s' event := by
  cases event with
  | datagram msg => exact h.calm (calm_processIPv6Datagram hrun) _
  | resolveNeighbour key =>
    rw [IPv6NeighbourDiscovery.step] at hrun
    cases hres : s.resolveNeighbour key with
    | error e =>
      rw [hres] at hrun
      cases hrun
    | ok res =>
      rw [hres] at hrun
      cases hrun
      exact h.calm (calm_resolveNeighbour hres) _
  | determineOutputInterface destAddress =>
    rw [IPv6NeighbourDiscovery.step] at hrun
    cases hres : s.rt6.determineOutputInterface destAddress with
    | error e =>
      rw [hres] at hrun
      cases hrun
    | ok res =>
      rw [hres] at hrun
      cases hrun
      exact h.calm ((CalmStep.refl s).setTable (determineOutputInterface_simTime hres)) _
  | solicitation ns nsCtrlInfo => exact h.processNSPacket hrun
  | advertisement na naCtrlInfo => exact h.processNAPacket hcautious hrun
  | routerAdvertisement ra raCtrlInfo => exact h.processRAPacket S hcautious hrun
  | timeout t => exact h.calm (calm_handleTimer hrun) _
  | configure interfaceID addresses =>
    cases hrun
    exact h.calm (s.calm_configure interfaceID addresses) _
  | elapse time =>
    cases hrun
    exact h.calm (s.calm_elapse time) _

theorem Reached.allDated {S : StdSort} (h : Reached S Cautious tr s) : AllDated tr s := by
  induction h with
  | start hs =>
    intro key nce hnce
    rw [hs.neighbourCache] at hnce
    cases hnce
  | step _ _ hcautious hstep ih => exact (ih.step S hcautious hstep).1

/-- An entry that is REACHABLE afterwards has not expired, and was so before. -/
theorem resolveNeighbour_reachable (hrun : s.resolveNeighbour key = .ok (mac, s'))
    (hleft : s'.neighbourCache.lookup key = some nce) (hstate : nce.reachabilityState = .REACHABLE) :
    s' = s ∧ mac = nce.macAddress ∧ s.simTime ≤ nce.reachabilityExpires := by
  have hdelay {s₁ : IPv6NeighbourDiscovery} {nce₁ : Neighbour}
      (hdetect : s₁.initiateNeighbourUnreachabilityDetection key nce₁ = .ok s') : False := by
    rw [initiateNeighbourUnreachabilityDetection] at hdetect
    obtain ⟨-, hdetect⟩ := ensure_bind_ok.mp hdetect
    cases hdetect
    have hwritten := lookup_write_self.symm.trans hleft
    cases hwritten
    cases hstate
  rw [resolveNeighbour] at hrun
  split at hrun
  · next hnone =>
    cases hrun
    rw [hnone] at hleft
    cases hleft
  next nce₁ hnce₁ =>
  split at hrun
  · next hstate₁ =>
    cases hrun
    cases hnce₁.symm.trans hleft
    cases hstate₁.symm.trans hstate
  · obtain ⟨s₁, hdetect, hrun⟩ := bind_ok.mp hrun
    cases hrun
    exact (hdelay hdetect).elim
  · split at hrun
    · obtain ⟨s₁, hdetect, hrun⟩ := bind_ok.mp hrun
      cases hrun
      exact (hdelay hdetect).elim
    · next hexpires =>
      cases hrun
      cases hnce₁.symm.trans hleft
      exact ⟨rfl, rfl, Nat.le_of_not_lt hexpires⟩
  · next hstate₁ =>
    cases hrun
    cases hnce₁.symm.trans hleft
    cases hstate₁.symm.trans hstate
  · next hstate₁ =>
    cases hrun
    cases hnce₁.symm.trans hleft
    cases hstate₁.symm.trans hstate

/-- In every run in which no address is replaced by an advertisement that does not confirm it, unless the entry is
STALE, what is given out as REACHABLE is confirmed and what is replaced is STALE. -/
theorem reachable_confirmed {S : StdSort} (h : Reached S Cautious tr s) :
    ResolvesConfirmed tr s ∧
      ∀ event s', s.Cautious event → s.step S event = .ok s' → s.ReplacesStale s' event := by
  constructor
  · intro key mac s' nce hrun hleft hstate
    obtain ⟨rfl, rfl, hexpires⟩ := resolveNeighbour_reachable hrun hleft hstate
    obtain ⟨e, he, hconfirms, hmac, hdue⟩ := (h.allDated key nce hleft).confirmed hstate
    exact ⟨e, he, hconfirms, hmac, Nat.le_trans hexpires hdue⟩
  · intro event s' hcautious hrun
    exact (h.allDated.step S hcautious hrun).2

end Handlers

section Example

/-- An advertisement of the neighbour. -/
def advertised (mac : MACAddress) (solicitedFlag : Bool) : Event :=
  .advertisement ⟨neighbour.address, mac, false, solicitedFlag, true⟩
    { srcAddr := neighbour.address, destAddr := 0x20010db8000000000000000000000001, interfaceId := 1 }

/-- The datagram asks for the neighbour, which answers. -/
def answered : Sim IPv6NeighbourDiscovery := do
  let s ← onLinkHost.step insertionSort (.datagram toNeighbour)
  s.step insertionSort (advertised 0xaabb true)

def reachableAt (s : IPv6NeighbourDiscovery) (mac : MACAddress) : Bool :=
  (s.neighbourCache.lookup neighbour).any fun nce => nce.reachabilityState = .REACHABLE ∧ nce.macAddress = mac

theorem reachableAt_lookup {s : IPv6NeighbourDiscovery} (h : s.reachableAt mac = true) :
    ∃ nce, s.neighbourCache.lookup neighbour = some nce ∧ nce.reachabilityState = .REACHABLE ∧ nce.macAddress = mac := by
  rw [reachableAt] at h
  cases hnce : s.neighbourCache.lookup neighbour with
  | none =>
    rw [hnce] at h
    cases h
  | some nce =>
    rw [hnce] at h
    exact ⟨nce, rfl, of_decide_eq_true h⟩

theorem answered_reachableAt : ∀ s, answered = .ok s → s.reachableAt 0xaabb = true := by
  decide

/-- An unsolicited advertisement replaces the address that was confirmed, and the entry stays REACHABLE. -/
theorem replaced_unconfirmed :
    ¬ ∀ S tr s, Reached S (fun _ _ => True) tr s → ResolvesConfirmed tr s ∧
      ∀ event s', s.step S event = .ok s' → s.ReplacesStale s' event := by
  intro hall
  obtain ⟨s₃, hrun, hreachable, hnow⟩ : ∃ s, (answered >>= fun s =>
      s.step insertionSort (advertised 0xccdd false)) = .ok s ∧ s.reachableAt 0xccdd = true ∧
      s.simTime = 0 := by
    refine exists_ok (by decide) ?_
    decide
  obtain ⟨s₂, hanswered, hreplaced⟩ := bind_ok.mp hrun
  obtain ⟨s₁, hdatagram, hconfirmed⟩ := bind_ok.mp hanswered
  have hreached : Reached insertionSort (fun _ _ => True) _ s₃ :=
    (((Reached.start onLinkHost_initial).step toNeighbour_possible trivial hdatagram).step (by trivial) trivial
      hconfirmed).step (by trivial) trivial hreplaced
  obtain ⟨nce, hnce, hstate, hmac⟩ := reachableAt_lookup hreachable
  have hresolved : s₃.resolveNeighbour neighbour = .ok (0xccdd, s₃) := by
    rw [resolveNeighbour, hnce]
    simp only [hstate, hmac]
    exact if_neg (by rw [hnow]; exact Nat.not_lt_zero _)
  obtain ⟨e, he, hconfirms, ⟨nce₂, hnce₂, hmac₂⟩, -⟩ := (hall _ _ s₃ hreached).1 neighbour _ s₃ nce hresolved hnce hstate
  simp only [List.mem_cons, List.not_mem_nil, or_false] at he
  rcases he with rfl | rfl | rfl
  · cases hconfirms.2.1
  · obtain ⟨nce₁, hnce₁, -, hmac₁⟩ := reachableAt_lookup (answered_reachableAt s₂ hanswered)
    cases hnce₁.symm.trans hnce₂
    cases hmac₁.symm.trans hmac₂
  · exact hconfirms

/-- What the neighbour has answered is confirmed. -/
theorem answered_confirmed :
    ∃ tr s, Reached insertionSort Cautious tr s ∧ s.reachableAt 0xaabb = true ∧ ResolvesConfirmed tr s ∧
      ∀ event s', s.Cautious event → s.step insertionSort event = .ok s' → s.ReplacesStale s' event := by
  obtain ⟨s₂, hanswered, hreachable⟩ : ∃ s, answered = .ok s ∧ s.reachableAt 0xaabb = true :=
    exists_ok (by decide) answered_reachableAt
  obtain ⟨s₁, hdatagram, hconfirmed⟩ := bind_ok.mp hanswered
  have hcautious : s₁.Cautious (advertised 0xaabb true) := by
    intro _ _ _ _ hunsolicited
    cases hunsolicited
  have hreached : Reached insertionSort Cautious _ s₂ :=
    ((Reached.start onLinkHost_initial).step toNeighbour_possible trivial hdatagram).step (by trivial) hcautious
      hconfirmed
  exact ⟨_, s₂, hreached, hreachable, reachable_confirmed hreached⟩

end Example

end IPv6NeighbourDiscovery

end Inet.Ipv6
