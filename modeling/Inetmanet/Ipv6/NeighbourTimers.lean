import Inetmanet.Ipv6.NeighbourDiscovery

/-!
# Timers and queues of the neighbour cache

In which runs every entry has the timer that its state calls for, and every
datagram is waiting, or has been sent or reported, exactly once.
-/
namespace Inet.Ipv6

open List Function NeighbourCache
open Inet.Arp (MACAddress)

namespace NeighbourCache

/-- The timers of the entries that have, or had, this key. -/
def timersOf (cache : NeighbourCache) (key : NeighbourKey) : List Timer :=
  cache.timers.filter fun t => t.contextPointer.nceKey = key

/-- The datagrams that wait for an address. -/
def pendingOf (cache : NeighbourCache) (key : NeighbourKey) : List Datagram :=
  ((cache.lookup key).map Neighbour.pendingPackets).getD []

end NeighbourCache

namespace IPv6NeighbourDiscovery

def Event.arrival : Event → Option Datagram
  | .datagram msg => some msg
  | _ => none

/-- The datagram that is sent or reported. -/
def disposed : Output → Option Datagram
  | .datagram msg => some msg
  | .datagramTo msg _ _ _ => some msg
  | .unreachable msg _ => some msg
  | _ => none

/-- The datagrams that the module has been given. -/
def arrivals (tr : Trace) : List Datagram := tr.filterMap fun e => e.1.arrival

/-- A datagram that waits has been given to the module at most this long ago. -/
def longestWait (ie : IPv6InterfaceData) : Nat := max 1 ie.maxMulticastSolicit * ie.retransTimer

/-- The timers and the queues are those that the states of the entries call for. -/
structure Sound (tr : Trace) (s : IPv6NeighbourDiscovery) : Prop where
  arTimer : ∀ key nce, s.neighbourCache.lookup key = some nce →
    ((∃ t ∈ s.neighbourCache.timers, t.kind = .AR_TIMEOUT ∧ t.contextPointer = ⟨key, nce.object⟩) ↔
      nce.reachabilityState = .INCOMPLETE)
  nudTimer : ∀ key nce, s.neighbourCache.lookup key = some nce →
    ((∃ t ∈ s.neighbourCache.timers, t.kind = .NUD_TIMEOUT ∧ t.contextPointer = ⟨key, nce.object⟩) ↔
      nce.reachabilityState = .DELAY ∨ nce.reachabilityState = .PROBE)
  single : ∀ key, (s.neighbourCache.timersOf key).length ≤ 1
  live : ∀ t ∈ s.neighbourCache.timers, ∃ nce, s.neighbourCache.lookup t.contextPointer.nceKey = some nce ∧
    nce.object = t.contextPointer.object
  incomplete : ∀ key nce, s.neighbourCache.lookup key = some nce → nce.pendingPackets ≠ [] →
    nce.reachabilityState = .INCOMPLETE
  mac : ∀ key nce, s.neighbourCache.lookup key = some nce → nce.reachabilityState ≠ .INCOMPLETE →
    (s.ift key.interfaceID).isPointToPoint = false → nce.macAddress ≠ 0
  waiting : ∀ msg, msg ∈ s.pendingQueue ↔ ∃ key, msg ∈ s.neighbourCache.pendingOf key
  alone : ∀ key key' msg, msg ∈ s.neighbourCache.pendingOf key → msg ∈ s.neighbourCache.pendingOf key' → key = key'
  nodup : ∀ key, (s.neighbourCache.pendingOf key).Nodup
  once : ∀ msg, (arrivals tr).count msg = s.pendingQueue.count msg + (s.sent.filterMap disposed).count msg
  soon : ∀ key, ∀ msg ∈ s.neighbourCache.pendingOf key, ∃ e ∈ tr, e.1.arrival = some msg ∧
    s.simTime ≤ e.2.simTime + longestWait (s.ift key.interfaceID)

/-- The state of an entry whose address is being resolved. -/
structure Resolving (tr : Trace) (now : Nat) (ie : IPv6InterfaceData) (nce : Neighbour) (t : Timer) : Prop where
  kind : t.kind = .AR_TIMEOUT
  arTimer : nce.arTimer = some t.msg
  started : 1 ≤ nce.numOfARNSSent
  soon : t.arrivalTime ≤ now + ie.retransTimer
  waiting : ∀ msg ∈ nce.pendingPackets, ∃ e ∈ tr, e.1.arrival = some msg ∧
    t.arrivalTime + (ie.maxMulticastSolicit - nce.numOfARNSSent) * ie.retransTimer ≤ e.2.simTime + longestWait ie

/-- The timers that an entry has. -/
inductive Timed (tr : Trace) (now : Nat) (ie : IPv6InterfaceData) (key : NeighbourKey) (nce : Neighbour) :
    List Timer → Prop where
  | resolving (t : Timer) (hstate : nce.reachabilityState = .INCOMPLETE) (hcontext : t.contextPointer = ⟨key, nce.object⟩)
      (hnud : nce.nudTimeoutEvent = none) (hresolving : Resolving tr now ie nce t) : Timed tr now ie key nce [t]
  | detecting (t : Timer) (hstate : nce.reachabilityState = .DELAY ∨ nce.reachabilityState = .PROBE)
      (hcontext : t.contextPointer = ⟨key, nce.object⟩) (hkind : t.kind = .NUD_TIMEOUT)
      (hnud : nce.nudTimeoutEvent = some t.msg) (hempty : nce.pendingPackets = []) : Timed tr now ie key nce [t]
  | idle (hstate : nce.reachabilityState = .REACHABLE ∨ nce.reachabilityState = .STALE)
      (hnud : nce.nudTimeoutEvent = none) (hempty : nce.pendingPackets = []) : Timed tr now ie key nce []

/-- What is kept of an entry and its timers. -/
structure EntryKept (tr : Trace) (now : Nat) (ie : IPv6InterfaceData) (fresh : Nat) (key : NeighbourKey) (nce : Neighbour)
    (timers : List Timer) : Prop where
  timed : Timed tr now ie key nce timers
  mac : nce.reachabilityState = .INCOMPLETE ∨ ie.isPointToPoint = true ∨ nce.macAddress ≠ 0
  object : nce.object < fresh

/-- Every datagram is accounted for. -/
structure Accounts (tr : Trace) (pending : NeighbourKey → List Datagram) (queue : List Datagram) (sent : List Output) :
    Prop where
  nodup : queue.Nodup
  each : ∀ key, (pending key).Nodup
  alone : ∀ key key' msg, msg ∈ pending key → msg ∈ pending key' → key = key'
  waiting : ∀ msg, msg ∈ queue ↔ ∃ key, msg ∈ pending key
  once : ∀ msg, (arrivals tr).count msg = queue.count msg + (sent.filterMap disposed).count msg

/-- The entry of `key`, if there is one, is kept. -/
def KeyKept (tr : Trace) (s : IPv6NeighbourDiscovery) (key : NeighbourKey) : Prop :=
  match s.neighbourCache.lookup key with
  | none => s.neighbourCache.timersOf key = []
  | some nce =>
    EntryKept tr s.simTime (s.ift key.interfaceID) s.neighbourCache.fresh key nce (s.neighbourCache.timersOf key)

/-- The messages of timers are told apart, and none is late. -/
structure Clocked (now : Nat) (cache : NeighbourCache) : Prop where
  nodup : (cache.timers.map Timer.msg).Nodup
  fresh : ∀ t ∈ cache.timers, t.msg < cache.fresh
  due : ∀ t ∈ cache.timers, now ≤ t.arrivalTime

structure Kept (tr : Trace) (s : IPv6NeighbourDiscovery) : Prop where
  clocked : Clocked s.simTime s.neighbourCache
  entry : ∀ key, s.KeyKept tr key
  linked : ∀ p, s.neighbourCache.defaultRouterList.On p → p.object < s.neighbourCache.fresh ∧
    ∀ nce, s.neighbourCache.lookup p.nceKey = some nce → nce.object = p.object → nce.reachabilityState ≠ .INCOMPLETE
  accounts : Accounts tr s.neighbourCache.pendingOf s.pendingQueue s.sent

/-- All is kept apart from the entry of `key`, which has these timers and datagrams. -/
structure KeptBut (tr : Trace) (key : NeighbourKey) (pending : List Datagram) (timers : List Timer)
    (s : IPv6NeighbourDiscovery) : Prop where
  clocked : Clocked s.simTime s.neighbourCache
  mine : s.neighbourCache.timersOf key = timers
  others : ∀ k, k ≠ key → s.KeyKept tr k
  linked : ∀ p, s.neighbourCache.defaultRouterList.On p → p.object < s.neighbourCache.fresh ∧ (p.nceKey ≠ key →
    ∀ nce, s.neighbourCache.lookup p.nceKey = some nce → nce.object = p.object → nce.reachabilityState ≠ .INCOMPLETE)
  accounts : Accounts tr (update s.neighbourCache.pendingOf key pending) s.pendingQueue s.sent

section Invariant

variable {tr tr' : Trace} {s s' : IPv6NeighbourDiscovery} {key k : NeighbourKey} {nce : Neighbour} {t : Timer}
  {now fresh : Nat} {ie : IPv6InterfaceData} {cache cache' : NeighbourCache} {timers : List Timer}
  {pending : List Datagram}

theorem KeyKept.found (h : s.KeyKept tr key) (hnce : s.neighbourCache.lookup key = some nce) :
    EntryKept tr s.simTime (s.ift key.interfaceID) s.neighbourCache.fresh key nce (s.neighbourCache.timersOf key) := by
  rw [KeyKept, hnce] at h
  exact h

theorem KeyKept.absent (h : s.KeyKept tr key) (hnone : s.neighbourCache.lookup key = none) :
    s.neighbourCache.timersOf key = [] := by
  rw [KeyKept, hnone] at h
  exact h

theorem KeyKept.of_found (hnce : s.neighbourCache.lookup key = some nce)
    (h : EntryKept tr s.simTime (s.ift key.interfaceID) s.neighbourCache.fresh key nce
      (s.neighbourCache.timersOf key)) : s.KeyKept tr key := by
  rw [KeyKept, hnce]
  exact h

theorem KeyKept.of_absent (hnone : s.neighbourCache.lookup key = none) (h : s.neighbourCache.timersOf key = []) :
    s.KeyKept tr key := by
  rw [KeyKept, hnone]
  exact h

/-- Time passes, numbers are used up, and the trace grows. -/
theorem EntryKept.mono (h : EntryKept tr now ie fresh key nce timers) {now' fresh' : Nat} {ie' : IPv6InterfaceData}
    (htr : ∀ e ∈ tr, e ∈ tr') (hnow : now ≤ now') (hfresh : fresh ≤ fresh')
    (hie : ie' = { ie with addresses := ie'.addresses }) : EntryKept tr' now' ie' fresh' key nce timers := by
  have hmulticast : ie'.maxMulticastSolicit = ie.maxMulticastSolicit := by rw [hie]
  have hretrans : ie'.retransTimer = ie.retransTimer := by rw [hie]
  have hp2p : ie'.isPointToPoint = ie.isPointToPoint := by rw [hie]
  have hwait : longestWait ie' = longestWait ie := by rw [longestWait, longestWait, hmulticast, hretrans]
  refine ⟨?_, hp2p ▸ h.mac, Nat.lt_of_lt_of_le h.object hfresh⟩
  cases h.timed with
  | resolving t hstate hcontext hnud hresolving =>
    refine .resolving t hstate hcontext hnud ⟨hresolving.kind, hresolving.arTimer, hresolving.started, ?_, ?_⟩
    · rw [hretrans]
      exact Nat.le_trans hresolving.soon (Nat.add_le_add_right hnow _)
    · intro msg hmsg
      obtain ⟨e, he, harrival, hle⟩ := hresolving.waiting msg hmsg
      rw [hmulticast, hretrans, hwait]
      exact ⟨e, htr e he, harrival, hle⟩
  | detecting t hstate hcontext hkind hnud hempty => exact .detecting t hstate hcontext hkind hnud hempty
  | idle hstate hnud hempty => exact .idle hstate hnud hempty

theorem KeyKept.mono (h : s.KeyKept tr k) (htr : ∀ e ∈ tr, e ∈ tr') : s.KeyKept tr' k := by
  cases hnce : s.neighbourCache.lookup k with
  | none => exact .of_absent hnce (h.absent hnce)
  | some nce => exact .of_found hnce ((h.found hnce).mono htr (Nat.le_refl _) (Nat.le_refl _) rfl)

theorem timersOf_erase (hk : t.contextPointer.nceKey ≠ k) :
    NeighbourCache.timersOf { cache with timers := cache.timers.erase t } k = cache.timersOf k := by
  unfold NeighbourCache.timersOf
  induction cache.timers with
  | nil => rfl
  | cons t' l ih =>
    rw [erase_cons]
    split
    · next heq =>
      rw [filter_cons_of_neg]
      simpa [← beq_iff_eq.mp heq] using hk
    · rw [filter_cons, filter_cons, ih]

theorem timersOf_erase_self (htimers : cache.timersOf key = [t]) :
    NeighbourCache.timersOf { cache with timers := cache.timers.erase t } key = [] := by
  have hmem : t ∈ cache.timersOf key := by rw [htimers]; exact mem_singleton_self t
  unfold NeighbourCache.timersOf at htimers hmem ⊢
  rw [← erase_filter, htimers, erase_cons_head]

theorem mem_of_timersOf (htimers : cache.timersOf key = [t]) : t ∈ cache.timers ∧ t.contextPointer.nceKey = key := by
  have hmem : t ∈ cache.timersOf key := by rw [htimers]; exact mem_singleton_self t
  simpa [NeighbourCache.timersOf] using hmem

theorem Clocked.erase (h : Clocked now cache) (t : Timer) :
    Clocked now { cache with timers := cache.timers.erase t } :=
  ⟨h.nodup.sublist (erase_sublist.map _), fun t' ht' => h.fresh t' (mem_of_mem_erase ht'),
    fun t' ht' => h.due t' (mem_of_mem_erase ht')⟩

/-- The message of a timer stands for the timer. -/
theorem Clocked.cancel (h : Clocked now cache) (ht : t ∈ cache.timers) :
    cache.cancelAndDelete (some t.msg) = { cache with timers := cache.timers.erase t } := by
  have hnodup : cache.timers.Nodup := Nodup.of_map _ h.nodup
  rw [cancelAndDelete, hnodup.erase_eq_filter]
  congr 1
  apply filter_congr
  intro t' ht'
  have hinj : t'.msg = t.msg ↔ t' = t := ⟨fun heq => inj_on_of_nodup_map h.nodup ht' ht heq, fun heq => heq ▸ rfl⟩
  rw [Bool.eq_iff_iff]
  simp [hinj]

theorem cancel_none : (cache.cancelAndDelete none).timers = cache.timers := by
  simp [cancelAndDelete]

theorem cancel_absent {msg : Nat} (h : ∀ t ∈ cache.timers, t.msg ≠ msg) :
    (cache.cancelAndDelete (some msg)).timers = cache.timers := by
  rw [cancelAndDelete]
  apply filter_eq_self.mpr
  simpa using h

theorem pendingOf_found (hnce : cache.lookup key = some nce) : cache.pendingOf key = nce.pendingPackets := by
  rw [NeighbourCache.pendingOf, hnce]
  rfl

theorem pendingOf_absent (hnone : cache.lookup key = none) : cache.pendingOf key = [] := by
  rw [NeighbourCache.pendingOf, hnone]
  rfl

theorem lookup_congr (h : cache'.neighbourMap = cache.neighbourMap) (k : NeighbourKey) : cache'.lookup k = cache.lookup k := by
  rw [NeighbourCache.lookup, NeighbourCache.lookup, h]

theorem timersOf_congr (h : cache'.timers = cache.timers) (k : NeighbourKey) : cache'.timersOf k = cache.timersOf k := by
  rw [NeighbourCache.timersOf, NeighbourCache.timersOf, h]

theorem Clocked.congr {now : Nat} (h : Clocked now cache) (htimers : cache'.timers = cache.timers)
    (hfresh : cache'.fresh = cache.fresh) : Clocked now cache' where
  nodup := htimers ▸ h.nodup
  fresh t ht := hfresh ▸ h.fresh t (htimers ▸ ht)
  due t ht := h.due t (htimers ▸ ht)

theorem pendingOf_congr (h : cache'.lookup k = cache.lookup k) : cache'.pendingOf k = cache.pendingOf k := by
  rw [NeighbourCache.pendingOf, NeighbourCache.pendingOf, h]

/-- Only the datagrams of `key` are not looked up. -/
theorem update_pendingOf (pending : List Datagram)
    (hothers : ∀ k, k ≠ key → cache'.lookup k = cache.lookup k) :
    update cache'.pendingOf key pending = update cache.pendingOf key pending := by
  funext k
  by_cases hk : k = key
  · rw [hk, update_self, update_self]
  · rw [update_of_ne hk, update_of_ne hk]
    exact pendingOf_congr (hothers k hk)

theorem KeyKept.congr (h : s.KeyKept tr k) (hlookup : s'.neighbourCache.lookup k = s.neighbourCache.lookup k)
    (htimers : s'.neighbourCache.timersOf k = s.neighbourCache.timersOf k) (htime : s'.simTime = s.simTime)
    (hift : s'.ift = s.ift) (hfresh : s.neighbourCache.fresh ≤ s'.neighbourCache.fresh) : s'.KeyKept tr k := by
  rw [KeyKept, hlookup, htimers, htime, hift]
  rw [KeyKept] at h
  cases hnce : s.neighbourCache.lookup k with
  | none =>
    rw [hnce] at h
    exact h
  | some nce =>
    rw [hnce] at h
    exact h.mono (fun _ he => he) (Nat.le_refl _) hfresh rfl

theorem Kept.openFound (h : s.Kept tr) (hnce : s.neighbourCache.lookup key = some nce) :
    KeptBut tr key nce.pendingPackets (s.neighbourCache.timersOf key) s := by
  constructor
  · exact h.clocked
  · rfl
  · exact fun k _ => h.entry k
  · exact fun p hp => ⟨(h.linked p hp).1, fun _ => (h.linked p hp).2⟩
  · rw [← pendingOf_found hnce, update_eq_self]
    exact h.accounts

theorem Kept.openAbsent (h : s.Kept tr) (hnone : s.neighbourCache.lookup key = none) : KeptBut tr key [] [] s := by
  constructor
  · exact h.clocked
  · exact (h.entry key).absent hnone
  · exact fun k _ => h.entry k
  · exact fun p hp => ⟨(h.linked p hp).1, fun _ => (h.linked p hp).2⟩
  · rw [← pendingOf_absent hnone, update_eq_self]
    exact h.accounts

/-- The timer of the open entry is no longer scheduled. -/
theorem KeptBut.take (h : KeptBut tr key pending [t] s) :
    KeptBut tr key pending [] (s.setCache { s.neighbourCache with timers := s.neighbourCache.timers.erase t }) := by
  have hkey := (mem_of_timersOf h.mine).2
  constructor
  · exact h.clocked.erase t
  · exact timersOf_erase_self h.mine
  · intro k hk
    exact (h.others k hk).congr rfl (timersOf_erase (hkey ▸ hk.symm)) rfl rfl (Nat.le_refl _)
  · exact h.linked
  · exact h.accounts

/-- A timer of the open entry is scheduled; numbers may be used up. -/
theorem KeptBut.put (h : KeptBut tr key pending [] s) (ht : ∀ t' ∈ s.neighbourCache.timers, t'.msg ≠ t.msg)
    (hmsg : t.msg < fresh) (hfresh : s.neighbourCache.fresh ≤ fresh) (hkey : t.contextPointer.nceKey = key)
    (hdue : s.simTime ≤ t.arrivalTime) :
    KeptBut tr key pending [t]
      (s.setCache { s.neighbourCache with timers := t :: s.neighbourCache.timers, fresh := fresh }) := by
  have htimers (k : NeighbourKey) :
      NeighbourCache.timersOf { s.neighbourCache with timers := t :: s.neighbourCache.timers, fresh := fresh } k =
        if k = key then t :: s.neighbourCache.timersOf k else s.neighbourCache.timersOf k := by
    unfold NeighbourCache.timersOf
    by_cases hk : k = key
    · rw [if_pos hk, filter_cons_of_pos (by simp [hkey, hk])]
    · rw [if_neg hk, filter_cons_of_neg (by simpa [hkey] using Ne.symm hk)]
  constructor
  · constructor
    · apply nodup_cons.mpr
      constructor
      · intro hmem
        obtain ⟨t', ht', heq⟩ := mem_map.mp hmem
        exact ht t' ht' heq
      · exact h.clocked.nodup
    · intro t' ht'
      cases mem_cons.mp ht' with
      | inl heq => exact heq ▸ hmsg
      | inr ht' => exact Nat.lt_of_lt_of_le (h.clocked.fresh t' ht') hfresh
    · intro t' ht'
      cases mem_cons.mp ht' with
      | inl heq => exact heq ▸ hdue
      | inr ht' => exact h.clocked.due t' ht'
  · have hself := htimers key
    rw [if_pos rfl, h.mine] at hself
    exact hself
  · exact fun k hk => (h.others k hk).congr rfl ((htimers k).trans (if_neg hk)) rfl rfl hfresh
  · exact fun p hp => ⟨Nat.lt_of_lt_of_le (h.linked p hp).1 hfresh, (h.linked p hp).2⟩
  · exact h.accounts

/-- The open entry is written, or made; numbers may be used up. -/
theorem KeptBut.write (h : KeptBut tr key pending timers s) (nce : Neighbour)
    (hfresh : s.neighbourCache.fresh ≤ fresh) :
    KeptBut tr key pending timers (s.setCache { s.neighbourCache.write key nce with fresh := fresh }) := by
  have hothers (k : NeighbourKey) (hk : k ≠ key) :
      NeighbourCache.lookup { s.neighbourCache.write key nce with fresh := fresh } k = s.neighbourCache.lookup k :=
    lookup_write_of_ne hk
  constructor
  · exact ⟨h.clocked.nodup, fun t ht => Nat.lt_of_lt_of_le (h.clocked.fresh t ht) hfresh, h.clocked.due⟩
  · exact h.mine
  · intro k hk
    exact (h.others k hk).congr (hothers k hk) rfl rfl rfl hfresh
  · intro p hp
    obtain ⟨hobject, hstate⟩ := h.linked p hp
    refine ⟨Nat.lt_of_lt_of_le hobject hfresh, fun hk nce' hnce' => hstate hk nce' ?_⟩
    rw [← hothers p.nceKey hk]
    exact hnce'
  · have haccounts := h.accounts
    rw [← update_pendingOf pending hothers] at haccounts
    exact haccounts

/-- The list of routers changes; a newcomer has the open entry. -/
theorem KeptBut.relink (h : KeptBut tr key pending timers s) {newcomer : NeighbourPtr → Prop}
    (hlist : NeighbourCache.Relinked s.neighbourCache cache' newcomer)
    (hnew : ∀ p, newcomer p → p.nceKey = key ∧ p.object < s.neighbourCache.fresh) :
    KeptBut tr key pending timers (s.setCache cache') := by
  have hlookup := lookup_congr hlist.neighbourMap
  have htimers := timersOf_congr hlist.timers
  constructor
  · exact h.clocked.congr hlist.timers hlist.fresh
  · exact (htimers key).trans h.mine
  · exact fun k hk => (h.others k hk).congr (hlookup k) (htimers k) rfl rfl (Nat.le_of_eq hlist.fresh.symm)
  · intro p hp
    change p.object < cache'.fresh ∧ _
    rw [hlist.fresh]
    cases hlist.on p hp with
    | inl hp =>
      obtain ⟨hobject, hstate⟩ := h.linked p hp
      exact ⟨hobject, fun hk nce hnce => hstate hk nce (hlookup p.nceKey ▸ hnce)⟩
    | inr hp => exact ⟨(hnew p hp).2, fun hk => absurd (hnew p hp).1 hk⟩
  · change Accounts tr (update cache'.pendingOf key pending) s.pendingQueue s.sent
    rw [update_pendingOf pending fun k _ => hlookup k]
    exact h.accounts

/-- The open entry is closed as it is. -/
theorem KeptBut.close (nce : Neighbour) (h : KeptBut tr key nce.pendingPackets timers s)
    (hnce : s.neighbourCache.lookup key = some nce)
    (hkept : EntryKept tr s.simTime (s.ift key.interfaceID) s.neighbourCache.fresh key nce timers)
    (hlinked : nce.reachabilityState = .INCOMPLETE → ¬ s.neighbourCache.defaultRouterList.On ⟨key, nce.object⟩) :
    s.Kept tr := by
  constructor
  · exact h.clocked
  · intro k
    by_cases hk : k = key
    · subst hk
      refine .of_found hnce ?_
      rw [h.mine]
      exact hkept
    · exact h.others k hk
  · intro p hp
    refine ⟨(h.linked p hp).1, fun nce' hnce' hobject' hstate => ?_⟩
    by_cases hk : p.nceKey = key
    · rw [hk, hnce] at hnce'
      cases hnce'
      apply hlinked hstate
      rw [← hk, hobject']
      exact hp
    · exact (h.linked p hp).2 hk nce' hnce' hobject' hstate
  · have haccounts := h.accounts
    rwa [← pendingOf_found hnce, update_eq_self] at haccounts

/-- An entry that has no timer. -/
theorem KeptBut.closeIdle (nce : Neighbour) (h : KeptBut tr key nce.pendingPackets [] s)
    (hnce : s.neighbourCache.lookup key = some nce)
    (hstate : nce.reachabilityState = .REACHABLE ∨ nce.reachabilityState = .STALE) (hnud : nce.nudTimeoutEvent = none)
    (hempty : nce.pendingPackets = []) (hmac : (s.ift key.interfaceID).isPointToPoint = true ∨ nce.macAddress ≠ 0)
    (hobject : nce.object < s.neighbourCache.fresh) : s.Kept tr := by
  refine h.close nce hnce ⟨.idle hstate hnud hempty, .inr hmac, hobject⟩ fun hincomplete => ?_
  rw [hincomplete] at hstate
  cases hstate with
  | inl hstate => cases hstate
  | inr hstate => cases hstate

theorem KeptBut.gone (h : KeptBut tr key [] [] s) (hnone : s.neighbourCache.lookup key = none) : s.Kept tr := by
  constructor
  · exact h.clocked
  · intro k
    by_cases hk : k = key
    · subst hk
      exact .of_absent hnone h.mine
    · exact h.others k hk
  · intro p hp
    refine ⟨(h.linked p hp).1, fun nce hnce hobject => ?_⟩
    by_cases hk : p.nceKey = key
    · rw [hk, hnone] at hnce
      cases hnce
    · exact (h.linked p hp).2 hk nce hnce hobject
  · have haccounts := h.accounts
    rwa [← pendingOf_absent hnone, update_eq_self] at haccounts

variable {pend : NeighbourKey → List Datagram}

theorem Accounts.congr {tr' : Trace} {queue : List Datagram} {sent sent' : List Output}
    (h : Accounts tr pend queue sent) (htr : arrivals tr' = arrivals tr)
    (hsent : sent'.filterMap disposed = sent.filterMap disposed) : Accounts tr' pend queue sent' := by
  refine ⟨h.nodup, h.each, h.alone, h.waiting, fun msg => ?_⟩
  rw [htr, hsent]
  exact h.once msg

variable {msg : Datagram}

/-- A new datagram is put in a queue. -/
theorem Accounts.enqueue {queue : List Datagram} {sent : List Output}
    (h : Accounts tr pend queue sent) (hnew : msg ∉ queue) (key : NeighbourKey)
    (e : Event × IPv6NeighbourDiscovery) (he : e.1.arrival = some msg) :
    Accounts (e :: tr) (update pend key (pend key ++ [msg])) (queue ++ [msg]) sent := by
  have hmem (k : NeighbourKey) (m : Datagram) :
      m ∈ update pend key (pend key ++ [msg]) k ↔ m ∈ pend k ∨ k = key ∧ m = msg := by
    by_cases hk : k = key
    · subst hk
      simp
    · simp [hk]
  have hnot (k : NeighbourKey) : msg ∉ pend k := fun hm => hnew ((h.waiting msg).mpr ⟨k, hm⟩)
  constructor
  · exact nodup_append.mpr ⟨h.nodup, nodup_singleton msg, fun m hm m' hm' heq => by
      rw [mem_singleton.mp hm'] at heq
      exact hnew (heq ▸ hm)⟩
  · intro k
    by_cases hk : k = key
    · subst hk
      rw [update_self]
      exact nodup_append.mpr ⟨h.each k, nodup_singleton msg, fun m hm m' hm' heq => by
        rw [mem_singleton.mp hm'] at heq
        exact hnot k (heq ▸ hm)⟩
    · rw [update_of_ne hk]
      exact h.each k
  · intro k k' m hm hm'
    rw [hmem] at hm hm'
    rcases hm with hm | ⟨rfl, rfl⟩
    · rcases hm' with hm' | ⟨rfl, rfl⟩
      · exact h.alone k k' m hm hm'
      · exact absurd hm (hnot k)
    · rcases hm' with hm' | ⟨rfl, -⟩
      · exact absurd hm' (hnot k')
      · rfl
  · intro m
    rw [mem_append, mem_singleton, h.waiting]
    constructor
    · intro hm
      rcases hm with ⟨k, hm⟩ | rfl
      · exact ⟨k, (hmem k m).mpr (.inl hm)⟩
      · exact ⟨key, (hmem key m).mpr (.inr ⟨rfl, rfl⟩)⟩
    · intro hm
      obtain ⟨k, hm⟩ := hm
      rcases (hmem k m).mp hm with hm | ⟨-, rfl⟩
      · exact .inl ⟨k, hm⟩
      · exact .inr rfl
  · intro m
    have harrivals : arrivals (e :: tr) = msg :: arrivals tr := filterMap_cons_some he
    rw [harrivals, count_cons, count_append, count_cons, count_nil, h.once m]
    omega

/-- What is sent is not a datagram. -/
theorem Kept.send (h : s.Kept tr) {out : Output} (hout : disposed out = none) : (s.send out).Kept tr := by
  refine ⟨h.clocked, h.entry, h.linked, h.accounts.congr rfl ?_⟩
  exact filterMap_cons_none hout

theorem KeptBut.send (h : KeptBut tr key pending timers s) {out : Output} (hout : disposed out = none) :
    KeptBut tr key pending timers (s.send out) := by
  refine ⟨h.clocked, h.mine, h.others, h.linked, h.accounts.congr rfl ?_⟩
  exact filterMap_cons_none hout

theorem KeptBut.solicit (h : KeptBut tr key pending timers s) (nsTargetAddr dgDestAddr dgSrcAddr : IPv6Address)
    (interfaceID : Int) :
    KeptBut tr key pending timers (s.createAndSendNSPacket nsTargetAddr dgDestAddr dgSrcAddr interfaceID) :=
  h.send rfl

/-- The routing table has no part in this, but for its clock. -/
theorem Kept.setTable (h : s.Kept tr) {table : RoutingTable6} (htime : table.simTime = s.simTime) :
    (s.setTable table).Kept tr := by
  refine ⟨?_, fun key => (h.entry key).congr rfl rfl htime rfl (Nat.le_refl _), h.linked, h.accounts⟩
  exact ⟨h.clocked.nodup, h.clocked.fresh, fun t ht => (h.clocked.due t ht).trans' (Nat.le_of_eq htime)⟩

/-- The trace grows, with or without a new datagram. -/
theorem Kept.grow (h : s.Kept tr) (e : Event × IPv6NeighbourDiscovery)
    (haccounts : Accounts (e :: tr) s.neighbourCache.pendingOf s.pendingQueue s'.sent)
    (hs : s' = { s with sent := s'.sent }) : s'.Kept (e :: tr) := by
  rw [hs]
  refine ⟨h.clocked, fun key => ?_, h.linked, haccounts⟩
  exact ((h.entry key).mono fun _ he => mem_cons_of_mem _ he).congr rfl rfl rfl rfl (Nat.le_refl _)

/-- The open entry gets one more datagram. -/
theorem KeptBut.enqueue (h : KeptBut tr key pending timers s) (hnew : msg ∉ s.pendingQueue)
    (e : Event × IPv6NeighbourDiscovery) (he : e.1.arrival = some msg) :
    KeptBut (e :: tr) key (pending ++ [msg]) timers { s with pendingQueue := s.pendingQueue ++ [msg] } := by
  refine ⟨h.clocked, h.mine, fun k hk => ?_, h.linked, ?_⟩
  · exact ((h.others k hk).mono fun _ he => mem_cons_of_mem _ he).congr rfl rfl rfl rfl (Nat.le_refl _)
  · have haccounts := h.accounts.enqueue hnew key e he
    rwa [update_self, update_idem] at haccounts

theorem Kept.quietEvent (h : s.Kept tr) (e : Event × IPv6NeighbourDiscovery) (he : e.1.arrival = none) :
    s.Kept (e :: tr) :=
  h.grow e (h.accounts.congr (filterMap_cons_none he) rfl) rfl

/-- A datagram that is passed on at once. -/
theorem Kept.passOn (h : s.Kept tr) (out : Output) (hout : disposed out = some msg)
    (e : Event × IPv6NeighbourDiscovery) (he : e.1.arrival = some msg) : (s.send out).Kept (e :: tr) := by
  refine h.grow e ⟨h.accounts.nodup, h.accounts.each, h.accounts.alone, h.accounts.waiting, fun msg' => ?_⟩ rfl
  have honce := h.accounts.once msg'
  have harrivals : arrivals (e :: tr) = msg :: arrivals tr := filterMap_cons_some he
  have hsent : (s.send out).sent.filterMap disposed = msg :: s.sent.filterMap disposed := filterMap_cons_some hout
  rw [harrivals, hsent, count_cons, count_cons, honce]
  omega

/-- The datagrams of an open entry leave the queue. -/
theorem KeptBut.release (h : KeptBut tr key pending timers s) (out : Datagram → Output)
    (hout : ∀ msg, disposed (out msg) = some msg) :
    KeptBut tr key [] timers
      (pending.foldl (fun s msg => { s.send (out msg) with pendingQueue := s.pendingQueue.erase msg }) s) := by
  induction pending generalizing s with
  | nil => exact h
  | cons msg rest ih =>
    apply ih
    refine ⟨h.clocked, h.mine, h.others, h.linked, ?_⟩
    have ha := h.accounts
    have heach := ha.each key
    rw [update_self] at heach
    obtain ⟨hnotin, hrest⟩ := nodup_cons.mp heach
    have hsub (k : NeighbourKey) (m : Datagram)
        (hm : m ∈ update s.neighbourCache.pendingOf key rest k) :
        m ∈ update s.neighbourCache.pendingOf key (msg :: rest) k := by
      by_cases hk : k = key
      · subst hk
        rw [update_self] at hm ⊢
        exact mem_cons_of_mem _ hm
      · rw [update_of_ne hk] at hm ⊢
        exact hm
    constructor
    · exact ha.nodup.erase msg
    · intro k
      by_cases hk : k = key
      · subst hk
        rwa [update_self]
      · have hk' := ha.each k
        rw [update_of_ne hk] at hk' ⊢
        exact hk'
    · exact fun k k' m hm hm' => ha.alone k k' m (hsub k m hm) (hsub k' m hm')
    · intro m
      rw [ha.nodup.mem_erase_iff, ha.waiting]
      constructor
      · intro hm
        obtain ⟨hne, k, hm⟩ := hm
        refine ⟨k, ?_⟩
        by_cases hk : k = key
        · subst hk
          rw [update_self] at hm ⊢
          exact (mem_cons.mp hm).resolve_left hne
        · rw [update_of_ne hk] at hm ⊢
          exact hm
      · intro hm
        obtain ⟨k, hm⟩ := hm
        refine ⟨?_, k, hsub k m hm⟩
        intro heq
        subst heq
        have hhead : m ∈ update s.neighbourCache.pendingOf key (m :: rest) key := by
          rw [update_self]
          exact mem_cons_self
        obtain rfl := ha.alone k key m (hsub k m hm) hhead
        rw [update_self] at hm
        exact hnotin hm
    · intro m
      have hmem : msg ∈ s.pendingQueue := by
        rw [ha.waiting]
        refine ⟨key, ?_⟩
        rw [update_self]
        exact mem_cons_self
      have hsent : (s.send (out msg)).sent.filterMap disposed = msg :: s.sent.filterMap disposed :=
        filterMap_cons_some (hout msg)
      rw [hsent, ha.once m, count_cons, count_erase]
      by_cases heq : msg = m
      · subst heq
        have hpos := count_pos_iff.mpr hmem
        simp only [beq_self_eq_true, if_true]
        omega
      · simp [heq]

end Invariant

end IPv6NeighbourDiscovery

end Inet.Ipv6
