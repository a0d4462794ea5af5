import Inetmanet.Arp.ARP
import Inetmanet.Ipv6.RoutingTable6

/-!
# The neighbour cache

`IPv6NeighbourCache.cc`, and the timers whose messages point to its entries. An
entry and a timer message have numbers of their own, so that a pointer to an entry
that has been erased is told apart from one to an entry that came later.
-/
namespace Inet.Ipv6

open Inet.Arp (MACAddress)

/-- A datagram, by the message object that it is. -/
structure Datagram where
  msg : Nat
  srcAddr : IPv6Address
  destAddr : IPv6Address
  deriving DecidableEq, Repr

inductive ReachabilityState where
  | INCOMPLETE
  | REACHABLE
  | STALE
  | DELAY
  | PROBE
  deriving DecidableEq, Repr

/-- `Key` of the neighbour cache. -/
structure NeighbourKey where
  address : IPv6Address
  interfaceID : Int
  deriving DecidableEq, Repr

/-- `Key::operator<` -/
def NeighbourKey.cmp : NeighbourKey → NeighbourKey → Ordering :=
  compareLex (compareOn NeighbourKey.interfaceID) (compareOn NeighbourKey.address)

instance : Std.TransCmp NeighbourKey.cmp := inferInstanceAs (Std.TransCmp (compareLex _ _))

instance : Std.LawfulEqCmp NeighbourKey.cmp where
  eq_of_compare {a b} h := by
    simp only [NeighbourKey.cmp, compareLex_eq_eq, compareOn, Std.compare_eq_iff_eq] at h
    cases a
    cases b
    simp_all

/-- A pointer to an entry. -/
structure NeighbourPtr where
  nceKey : NeighbourKey
  object : Nat
  deriving DecidableEq, Repr

/-- The MAC address is 0 where it is not specified. -/
structure Neighbour where
  /-- tells the entry apart from others with its key -/
  object : Nat := 0
  macAddress : MACAddress := 0
  isRouter : Bool := false
  isHomeAgent : Bool := false
  reachabilityState : ReachabilityState
  reachabilityExpires : Nat := 0
  numProbesSent : Nat := 0
  nudTimeoutEvent : Option Nat := none
  numOfARNSSent : Nat := 0
  arTimer : Option Nat := none
  pendingPackets : List Datagram := []
  nsSrcAddr : IPv6Address := 0
  routerExpiryTime : Nat := 0
  deriving DecidableEq, Repr

/-- The links are kept apart from the entries. -/
structure DefaultRouterList where
  head : Option NeighbourPtr := none
  prevDefaultRouter : NeighbourPtr → Option NeighbourPtr := fun _ => none
  nextDefaultRouter : NeighbourPtr → Option NeighbourPtr := fun _ => none

namespace DefaultRouterList

def setPrev (l : DefaultRouterList) (router : NeighbourPtr) (prev : Option NeighbourPtr) : DefaultRouterList :=
  { l with prevDefaultRouter := Function.update l.prevDefaultRouter router prev }

def setNext (l : DefaultRouterList) (router : NeighbourPtr) (next : Option NeighbourPtr) : DefaultRouterList :=
  { l with nextDefaultRouter := Function.update l.nextDefaultRouter router next }

end DefaultRouterList

inductive TimerKind where
  | NUD_TIMEOUT
  | AR_TIMEOUT
  deriving DecidableEq, Repr

/-- A timer message that is scheduled. -/
structure Timer where
  msg : Nat
  kind : TimerKind
  contextPointer : NeighbourPtr
  arrivalTime : Nat
  deriving DecidableEq, Repr

structure NeighbourCache where
  neighbourMap : Std.TreeMap NeighbourKey Neighbour NeighbourKey.cmp := ∅
  defaultRouterList : DefaultRouterList := {}
  timers : List Timer := []
  /-- no entry and no timer message has a number from here on -/
  fresh : Nat := 0

namespace NeighbourCache

def lookup (cache : NeighbourCache) (key : NeighbourKey) : Option Neighbour := cache.neighbourMap[key]?

/-- A write through a pointer to an entry, or a new entry. -/
def write (cache : NeighbourCache) (key : NeighbourKey) (nce : Neighbour) : NeighbourCache :=
  { cache with neighbourMap := cache.neighbourMap.insert key nce }

/-- `cancelAndDelete`, which takes a null pointer as well. -/
def cancelAndDelete (cache : NeighbourCache) (msg : Option Nat) : NeighbourCache :=
  { cache with timers := cache.timers.filter fun t => some t.msg ≠ msg }

/-- A timer message is made and scheduled; its number is `cache.fresh`. -/
def schedule (cache : NeighbourCache) (kind : TimerKind) (nce : NeighbourPtr) (arrivalTime : Nat) : NeighbourCache :=
  { cache with timers := ⟨cache.fresh, kind, nce, arrivalTime⟩ :: cache.timers, fresh := cache.fresh + 1 }

/-- A timer message that has arrived is scheduled once more. -/
def reschedule (cache : NeighbourCache) (t : Timer) (arrivalTime : Nat) : NeighbourCache :=
  { cache with timers := { t with arrivalTime := arrivalTime } :: cache.timers }

def isDefaultRouter (cache : NeighbourCache) (nce : NeighbourPtr) : Bool :=
  (cache.defaultRouterList.prevDefaultRouter nce).isSome && (cache.defaultRouterList.nextDefaultRouter nce).isSome

/-- The entry that a pointer is followed to; it may be null, or the entry erased. -/
def deref (cache : NeighbourCache) : Option NeighbourPtr → Sim (NeighbourPtr × Neighbour)
  | none => .error (.nullPointer "Neighbour")
  | some p =>
    match cache.lookup p.nceKey with
    | none => .error (.outOfBounds "Neighbour")
    | some nce => if nce.object = p.object then .ok (p, nce) else .error (.outOfBounds "Neighbour")

/-- The link of a new router to the one before it is set to the head. -/
def linkBefore (cache : NeighbourCache) (router : NeighbourPtr) (l : DefaultRouterList) :
    Option NeighbourPtr → Sim DefaultRouterList
  | some head => do
    let (head, _) ← cache.deref (some head)
    let (last, _) ← cache.deref (l.prevDefaultRouter head)
    return (((l.setNext last (some router)).setPrev router (some head)).setPrev head (some router)).setNext router
      (some head)
  | none => .ok { (l.setNext router (some router)).setPrev router (some router) with head := some router }

/-- `DefaultRouterList::add` -/
def addDefaultRouter (cache : NeighbourCache) (router : NeighbourPtr) : Sim NeighbourCache := do
  let (_, nce) ← cache.deref (some router)
  ensure nce.isRouter "router.isRouter"
  ensure (cache.defaultRouterList.nextDefaultRouter router = none) "!router.nextDefaultRouter"
  ensure (cache.defaultRouterList.prevDefaultRouter router = none) "!router.prevDefaultRouter"
  let l ← cache.linkBefore router cache.defaultRouterList cache.defaultRouterList.head
  return { cache with defaultRouterList := l }

/-- The neighbours of a router in the list are linked to each other. -/
def unlink (cache : NeighbourCache) (router : NeighbourPtr) (l : DefaultRouterList) : Sim DefaultRouterList :=
  if l.nextDefaultRouter router = some router then .ok { l with head := none }
  else do
    let l := if l.head = some router then { l with head := l.nextDefaultRouter router } else l
    let (next, _) ← cache.deref (l.nextDefaultRouter router)
    let l := l.setPrev next (l.prevDefaultRouter router)
    let (prev, _) ← cache.deref (l.prevDefaultRouter router)
    return l.setNext prev (l.nextDefaultRouter router)

/-- `DefaultRouterList::remove` -/
def removeDefaultRouter (cache : NeighbourCache) (router : NeighbourPtr) : Sim NeighbourCache := do
  ensure (cache.isDefaultRouter router) "router.isDefaultRouter()"
  let l ← cache.unlink router cache.defaultRouterList
  return { cache with defaultRouterList := (l.setNext router none).setPrev router none }

/-- `setHead`, with a pointer where the source has a reference. -/
def setHead (cache : NeighbourCache) (router : Option NeighbourPtr) : Sim NeighbourCache := do
  let (router, _) ← cache.deref router
  ensure (cache.isDefaultRouter router) "router.isDefaultRouter()"
  return { cache with defaultRouterList := { cache.defaultRouterList with head := some router } }

/-- A new entry, with the number `cache.fresh`. -/
def add (cache : NeighbourCache) (key : NeighbourKey) (nce : Neighbour) : Sim NeighbourCache := do
  ensure (cache.lookup key = none) "neighbourMap.find(key) == neighbourMap.end()"
  return { cache.write key { nce with object := cache.fresh } with fresh := cache.fresh + 1 }

/-- `addNeighbour` without a MAC address. -/
def addIncomplete (cache : NeighbourCache) (key : NeighbourKey) : Sim NeighbourCache :=
  cache.add key { reachabilityState := .INCOMPLETE }

/-- `addNeighbour` with a MAC address. -/
def addNeighbour (cache : NeighbourCache) (key : NeighbourKey) (macAddress : MACAddress) : Sim NeighbourCache :=
  cache.add key { macAddress := macAddress, reachabilityState := .STALE }

def addRouter (cache : NeighbourCache) (key : NeighbourKey) (macAddress : MACAddress) (expiryTime : Nat)
    (isHomeAgent : Bool) : Sim NeighbourCache := do
  let c ← cache.add key
    { macAddress := macAddress, isRouter := true, isHomeAgent := isHomeAgent, reachabilityState := .STALE,
      routerExpiryTime := expiryTime }
  c.addDefaultRouter ⟨key, cache.fresh⟩

/-- Off the list, if the entry is on it. -/
def removeFromList (cache : NeighbourCache) (nce : NeighbourPtr) : Sim NeighbourCache :=
  if cache.isDefaultRouter nce then cache.removeDefaultRouter nce else .ok cache

/-- The address resolution timer is left alone. -/
def remove (cache : NeighbourCache) (key : NeighbourKey) : Sim NeighbourCache :=
  match cache.lookup key with
  | none => throw (.assertion "it!=neighbourMap.end()")
  | some nce => do
    let cache := (cache.cancelAndDelete nce.nudTimeoutEvent).write key { nce with nudTimeoutEvent := none }
    let cache ← cache.removeFromList ⟨key, nce.object⟩
    return { cache with neighbourMap := cache.neighbourMap.erase key }

section Operations

variable {cache cache' : NeighbourCache} {key k : NeighbourKey} {nce : Neighbour} {p router : NeighbourPtr}

theorem lookup_write (cache : NeighbourCache) (key k : NeighbourKey) (nce : Neighbour) :
    (cache.write key nce).lookup k = if key = k then some nce else cache.lookup k := by
  rw [lookup, write, Std.TreeMap.getElem?_insert]
  simp [lookup]

@[simp] theorem lookup_write_self : (cache.write key nce).lookup key = some nce := by
  rw [lookup_write, if_pos rfl]

theorem lookup_write_of_ne (hne : k ≠ key) : (cache.write key nce).lookup k = cache.lookup k := by
  rw [lookup_write, if_neg hne.symm]

/-- The entry after a write through the pointer is still the one pointed to. -/
theorem deref_ok {router : Option NeighbourPtr} (h : cache.deref router = .ok (p, nce)) :
    router = some p ∧ cache.lookup p.nceKey = some nce ∧ nce.object = p.object := by
  cases router with
  | none => cases h
  | some q =>
    rw [deref] at h
    cases hq : cache.lookup q.nceKey with
    | none =>
      rw [hq] at h
      cases h
    | some entry =>
      rw [hq] at h
      by_cases hobject : entry.object = q.object
      · simp only [if_pos hobject, Except.ok.injEq, Prod.mk.injEq] at h
        obtain ⟨rfl, rfl⟩ := h
        exact ⟨rfl, hq, hobject⟩
      · simp only [if_neg hobject] at h
        cases h

theorem add_ok (h : cache.add key nce = .ok cache') :
    cache.lookup key = none ∧
      cache' = { cache.write key { nce with object := cache.fresh } with fresh := cache.fresh + 1 } := by
  rw [add, ensure_bind_ok] at h
  exact ⟨h.1, (Except.ok.inj h.2).symm⟩

end Operations

end NeighbourCache

namespace DefaultRouterList

variable {l l' : DefaultRouterList} {p router : NeighbourPtr} {link : Option NeighbourPtr}

theorem prev_setPrev (l : DefaultRouterList) (router : NeighbourPtr) (link : Option NeighbourPtr) (p : NeighbourPtr) :
    (l.setPrev router link).prevDefaultRouter p = if p = router then link else l.prevDefaultRouter p :=
  Function.update_apply ..

theorem next_setNext (l : DefaultRouterList) (router : NeighbourPtr) (link : Option NeighbourPtr) (p : NeighbourPtr) :
    (l.setNext router link).nextDefaultRouter p = if p = router then link else l.nextDefaultRouter p :=
  Function.update_apply ..

/-- The entry has a link, or is linked to. -/
def On (l : DefaultRouterList) (p : NeighbourPtr) : Prop :=
  l.head = some p ∨ l.prevDefaultRouter p ≠ none ∨ l.nextDefaultRouter p ≠ none ∨
    ∃ q, l.prevDefaultRouter q = some p ∨ l.nextDefaultRouter q = some p

theorem On.head (h : l.head = some p) : l.On p := .inl h

theorem On.prev (h : l.prevDefaultRouter router = some p) : l.On p := .inr (.inr (.inr ⟨router, .inl h⟩))

theorem On.next (h : l.nextDefaultRouter router = some p) : l.On p := .inr (.inr (.inr ⟨router, .inr h⟩))

/-- A link that is set may only bring in its two ends. -/
theorem On.of_setPrev (h : (l.setPrev router link).On p) : l.On p ∨ p = router ∨ link = some p := by
  rcases h with h | h | h | ⟨q, h | h⟩
  · exact .inl (.inl h)
  · by_cases hp : p = router
    · exact .inr (.inl hp)
    · rw [prev_setPrev, if_neg hp] at h
      exact .inl (.inr (.inl h))
  · exact .inl (.inr (.inr (.inl h)))
  · by_cases hq : q = router
    · rw [prev_setPrev, if_pos hq] at h
      exact .inr (.inr h)
    · rw [prev_setPrev, if_neg hq] at h
      exact .inl (.prev h)
  · exact .inl (.next h)

theorem On.of_setNext (h : (l.setNext router link).On p) : l.On p ∨ p = router ∨ link = some p := by
  rcases h with h | h | h | ⟨q, h | h⟩
  · exact .inl (.inl h)
  · exact .inl (.inr (.inl h))
  · by_cases hp : p = router
    · exact .inr (.inl hp)
    · rw [next_setNext, if_neg hp] at h
      exact .inl (.inr (.inr (.inl h)))
  · exact .inl (.prev h)
  · by_cases hq : q = router
    · rw [next_setNext, if_pos hq] at h
      exact .inr (.inr h)
    · rw [next_setNext, if_neg hq] at h
      exact .inl (.next h)

/-- Between two entries of the list. -/
theorem On.between (h : l.On p ∨ p = router ∨ link = some p) (hrouter : l.On router)
    (hlink : ∀ q, link = some q → l.On q) : l.On p := by
  rcases h with h | rfl | h
  · exact h
  · exact hrouter
  · exact hlink p h

theorem On.of_setHead (h : On { l with head := some router } p) (hrouter : l.On router) : l.On p := by
  rcases h with h | h
  · cases h
    exact hrouter
  · exact .inr h

end DefaultRouterList

namespace NeighbourCache

section Lists

variable {cache cache' : NeighbourCache} {key k : NeighbourKey} {nce : Neighbour} {p router : NeighbourPtr}
  {l : DefaultRouterList}

/-- The entries and the timers are left alone; the list may be changed, also by `newcomer`. -/
structure Relinked (cache cache' : NeighbourCache) (newcomer : NeighbourPtr → Prop) : Prop where
  neighbourMap : cache'.neighbourMap = cache.neighbourMap
  timers : cache'.timers = cache.timers
  fresh : cache'.fresh = cache.fresh
  on : ∀ p, cache'.defaultRouterList.On p → cache.defaultRouterList.On p ∨ newcomer p

theorem on_of_isDefaultRouter (h : cache.isDefaultRouter p = true) : cache.defaultRouterList.On p := by
  rw [isDefaultRouter, Bool.and_eq_true, Option.isSome_iff_ne_none] at h
  exact .inr (.inl h.1)

theorem setHead_ok {link : Option NeighbourPtr} (h : cache.setHead link = .ok cache') :
    ∃ router, link = some router ∧ cache.isDefaultRouter router = true ∧
      cache' = { cache with defaultRouterList := { cache.defaultRouterList with head := some router } } := by
  rw [setHead] at h
  obtain ⟨⟨router, nce⟩, hderef, h⟩ := bind_ok.mp h
  obtain ⟨hrouter, hcache⟩ := ensure_bind_ok.mp h
  exact ⟨router, (deref_ok hderef).1, hrouter, (Except.ok.inj hcache).symm⟩

theorem setHead_relinked {link : Option NeighbourPtr} (h : cache.setHead link = .ok cache') :
    Relinked cache cache' fun _ => False := by
  obtain ⟨router, -, hrouter, rfl⟩ := setHead_ok h
  exact ⟨rfl, rfl, rfl, fun p hp => .inl (hp.of_setHead (on_of_isDefaultRouter hrouter))⟩

theorem unlink_on {l' : DefaultRouterList} (h : cache.unlink router l = .ok l') (hp : l'.On p) : l.On p := by
  rw [unlink] at h
  split at h
  · cases h
    rcases hp with hp | hp
    · cases hp
    · exact .inr hp
  · generalize hhead : (if l.head = some router then { l with head := l.nextDefaultRouter router } else l) = l₁ at h
    have hon (q : NeighbourPtr) (hq : l₁.On q) : l.On q := by
      rw [← hhead] at hq
      split at hq
      · rcases hq with hq | hq
        · exact .next hq
        · exact .inr hq
      · exact hq
    obtain ⟨⟨next, _⟩, hnext, h⟩ := bind_ok.mp h
    obtain ⟨⟨prev, _⟩, hprev, h⟩ := bind_ok.mp h
    have hnext' := (deref_ok hnext).1
    have hprev' := (deref_ok hprev).1
    have hback (q : NeighbourPtr) (hq : (l₁.setPrev next (l₁.prevDefaultRouter router)).On q) : l₁.On q :=
      .between hq.of_setPrev (.next hnext') fun q hq => .prev hq
    cases h
    apply hon
    apply hback
    exact .between hp.of_setNext (.prev hprev') fun q hq => .next hq

theorem removeDefaultRouter_relinked (h : cache.removeDefaultRouter router = .ok cache') :
    Relinked cache cache' fun _ => False := by
  rw [removeDefaultRouter] at h
  obtain ⟨hrouter, h⟩ := ensure_bind_ok.mp h
  obtain ⟨l, hunlink, h⟩ := bind_ok.mp h
  cases h
  have hon := on_of_isDefaultRouter hrouter
  refine ⟨rfl, rfl, rfl, fun p hp => .inl ?_⟩
  rcases hp.of_setPrev with hp | rfl | hp
  · rcases hp.of_setNext with hp | rfl | hp
    · exact unlink_on hunlink hp
    · exact hon
    · cases hp
  · exact hon
  · cases hp

theorem removeFromList_relinked (h : cache.removeFromList router = .ok cache') :
    Relinked cache cache' fun _ => False := by
  rw [removeFromList] at h
  split at h
  · exact removeDefaultRouter_relinked h
  · cases h
    exact ⟨rfl, rfl, rfl, fun p hp => .inl hp⟩

theorem linkBefore_on {head : Option NeighbourPtr} {l' : DefaultRouterList} (h : cache.linkBefore router l head = .ok l')
    (hhead : l.head = head) (hp : l'.On p) : l.On p ∨ p = router := by
  cases head with
  | none =>
    cases h
    rcases hp with hp | hp
    · exact .inr (Option.some.inj hp).symm
    · have hp' : ((l.setNext router (some router)).setPrev router (some router)).On p := .inr hp
      rcases hp'.of_setPrev with hp' | rfl | hp'
      · rcases hp'.of_setNext with hp' | rfl | hp'
        · exact .inl hp'
        · exact .inr rfl
        · exact .inr (Option.some.inj hp').symm
      · exact .inr rfl
      · exact .inr (Option.some.inj hp').symm
  | some head =>
    rw [linkBefore] at h
    obtain ⟨⟨head', _⟩, hderef, h⟩ := bind_ok.mp h
    obtain ⟨⟨last, _⟩, hlast, h⟩ := bind_ok.mp h
    obtain rfl := Option.some.inj (deref_ok hderef).1
    have hon : l.On head := .head hhead
    have honlast : l.On last := .prev (deref_ok hlast).1
    cases h
    rcases hp.of_setNext with hp | rfl | hp
    · rcases hp.of_setPrev with hp | rfl | hp
      · rcases hp.of_setPrev with hp | rfl | hp
        · rcases hp.of_setNext with hp | rfl | hp
          · exact .inl hp
          · exact .inl honlast
          · exact .inr (Option.some.inj hp).symm
        · exact .inr rfl
        · exact .inl (Option.some.inj hp ▸ hon)
      · exact .inl hon
      · exact .inr (Option.some.inj hp).symm
    · exact .inr rfl
    · exact .inl (Option.some.inj hp ▸ hon)

theorem addDefaultRouter_relinked (h : cache.addDefaultRouter router = .ok cache') :
    Relinked cache cache' fun p => p = router := by
  rw [addDefaultRouter] at h
  obtain ⟨⟨q, nce⟩, -, h⟩ := bind_ok.mp h
  obtain ⟨-, h⟩ := ensure_bind_ok.mp h
  obtain ⟨-, h⟩ := ensure_bind_ok.mp h
  obtain ⟨-, h⟩ := ensure_bind_ok.mp h
  obtain ⟨l, hlink, h⟩ := bind_ok.mp h
  cases h
  exact ⟨rfl, rfl, rfl, fun p hp => linkBefore_on hlink rfl hp⟩

/-- What is left when an entry has been removed. -/
structure Removed (cache cache' : NeighbourCache) (key : NeighbourKey) (nce : Neighbour) : Prop where
  gone : cache'.lookup key = none
  others : ∀ k, k ≠ key → cache'.lookup k = cache.lookup k
  timers : cache'.timers = (cache.cancelAndDelete nce.nudTimeoutEvent).timers
  fresh : cache'.fresh = cache.fresh
  on : ∀ p, cache'.defaultRouterList.On p → cache.defaultRouterList.On p

theorem remove_ok (h : cache.remove key = .ok cache') :
    ∃ nce, cache.lookup key = some nce ∧ Removed cache cache' key nce := by
  rw [remove] at h
  cases hnce : cache.lookup key with
  | none =>
    rw [hnce] at h
    cases h
  | some nce =>
    rw [hnce] at h
    obtain ⟨cache₁, hlist, h⟩ := bind_ok.mp h
    have hrelinked := removeFromList_relinked hlist
    cases h
    refine ⟨nce, rfl, ?_, ?_, hrelinked.timers, hrelinked.fresh, fun p hp => (hrelinked.on p hp).resolve_right id⟩
    · rw [lookup, Std.TreeMap.getElem?_erase, if_pos (by simp)]
    · intro k hne
      rw [lookup, Std.TreeMap.getElem?_erase, if_neg (by simpa using hne.symm), hrelinked.neighbourMap]
      exact lookup_write_of_ne hne

end Lists

end NeighbourCache

end Inet.Ipv6
