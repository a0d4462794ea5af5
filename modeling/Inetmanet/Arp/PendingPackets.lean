import Inetmanet.Arp.ARP
import Inetmanet.Lib.Histories
import Inetmanet.Lib.Runs

/-!
# The packets that wait for ARP

While a resolution is under way the datagrams for its address are queued. They leave
in their order: all of them when the resolution ends, on the interface of its entry.
-/
namespace Inet.Arp

open List Function Option Except Histories Node
open Inet.Ipv4 (IPv4Address IPv4Datagram)
open Histories (Throughout)

/-- The datagrams for a next hop, with the interfaces they were routed to. -/
def routedTo (a : IPv4Address) (log : List Occurrence) : List (InterfaceId × IPv4Datagram) :=
  log.filterMap fun
    | .routed ie b datagram => if b = a then some (ie, datagram) else none
    | _ => none

/-- The datagrams for a next hop that have left, with the interfaces they went out on. -/
def leftFor (a : IPv4Address) (log : List Occurrence) : List (Option InterfaceId × IPv4Datagram) :=
  log.filterMap fun
    | .sent ie b _ datagram => if b = a then some (some ie, datagram) else none
    | .dropped b datagram => if b = a then some (none, datagram) else none
    | _ => none

/-- The datagram has been dropped, or sent where it was routed to. -/
def Leaves (routed : InterfaceId × IPv4Datagram) (left : Option InterfaceId × IPv4Datagram) : Prop :=
  left.2 = routed.2 ∧ (left.1 = none ∨ left.1 = some routed.1)
deriving Decidable

/-- The datagrams leave once each and in their order, the others wait. -/
def Served (routed : List (InterfaceId × IPv4Datagram)) (left : List (Option InterfaceId × IPv4Datagram)) (queue : List IPv4Datagram) :
    Prop :=
  ∃ gone waiting, routed = gone ++ waiting ∧ List.Forall₂ Leaves gone left ∧ waiting.map Prod.snd = queue

/-- The requests of the resolution that is under way. -/
def countRequests (a : IPv4Address) (n : Nat) : Occurrence → Nat
  | .sentARP _ _ arp => if arp.opcode = ARP_REQUEST ∧ arp.destIPAddress = a then n + 1 else n
  | .completed b _ _ => if b = a then 0 else n
  | .failed b _ => if b = a then 0 else n
  | _ => n

def requests (a : IPv4Address) (log : List Occurrence) : Nat := log.foldl (countRequests a) 0

/-- A resolution fails after `retryCount` requests, and a datagram is dropped only then. -/
def Justified (retryCount : Int) (before : List Occurrence) : Occurrence → Prop
  | .failed a _ => requests a before = retryCount
  | .dropped a _ => ∃ (earlier : List Occurrence) (ie : InterfaceId) (queue : List IPv4Datagram),
      before = earlier ++ .failed a ie :: queue.map (.dropped a)
  | _ => True

structure Delivered (c : Config) (s : Node) : Prop where
  pending : ∀ a queue, s.pendingPackets a = some queue →
    queue ≠ [] ∧ ∃ entry, s.arpCache a = some entry ∧ entry.pending = true ∧ entry.timer ≠ none
  served : ∀ a, Served (routedTo a s.log) (leftFor a s.log) ((s.pendingPackets a).getD [])
  justified : Throughout (Justified c.retryCount) s.log

/-- The address that is looked up for a datagram. -/
def hop (c : Config) (datagram : IPv4Datagram) (ie : InterfaceId) (nextHopAddr : IPv4Address) : IPv4Address :=
  if isIeee802Lan c ie ∧ nextHopAddr = 0 then datagram.destAddress else nextHopAddr

/-- A datagram whose next hop is being resolved is routed to the interface of the resolution. -/
def Allowed (c : Config) (s : Node) : Node.Event → Prop
  | .sendDatagramToOutput _ _ datagram ie nextHopAddr =>
    ∀ entry, s.arpCache (hop c datagram ie nextHopAddr) = some entry → entry.pending = true → entry.ie = ie
  | _ => True

def about : Occurrence → Option IPv4Address
  | .routed _ a _ | .sent _ a _ _ | .dropped a _ | .completed a _ _ | .failed a _ => some a
  | .sentARP _ _ arp => if arp.opcode = ARP_REQUEST then some arp.destIPAddress else none
  | _ => none

theorem routedTo_append (a : IPv4Address) (l l' : List Occurrence) : routedTo a (l ++ l') = routedTo a l ++ routedTo a l' :=
  filterMap_append

theorem leftFor_append (a : IPv4Address) (l l' : List Occurrence) : leftFor a (l ++ l') = leftFor a l ++ leftFor a l' :=
  filterMap_append

theorem requests_append (a : IPv4Address) (l l' : List Occurrence) : requests a (l ++ l') = l'.foldl (countRequests a) (requests a l) :=
  foldl_append

section

variable {a : IPv4Address} {l : List Occurrence}

section

variable (h : ∀ o ∈ l, about o ≠ some a)
include h

theorem routedTo_elsewhere : routedTo a l = [] := by
  apply filterMap_eq_nil_iff.mpr
  intro o ho
  have hne := h o ho
  cases o <;> simp_all [about]

theorem leftFor_elsewhere : leftFor a l = [] := by
  apply filterMap_eq_nil_iff.mpr
  intro o ho
  have hne := h o ho
  cases o <;> simp_all [about]

theorem countRequests_elsewhere (n : Nat) : l.foldl (countRequests a) n = n := by
  induction l with
  | nil => rfl
  | cons o l ih =>
    have hstep : countRequests a n o = n := by
      cases o <;> simp_all [about, countRequests]
    rw [foldl_cons, hstep]
    exact ih fun o ho => h o (mem_cons_of_mem _ ho)

end

end

structure KeptAt (c : Config) (s : Node) (a : IPv4Address) : Prop where
  queue : ∀ q, s.pendingPackets a = some q → q ≠ [] ∧ ∃ entry, s.arpCache a = some entry ∧ entry.pending = true
  served : ∃ gone waiting, routedTo a s.log = gone ++ waiting ∧ List.Forall₂ Leaves gone (leftFor a s.log) ∧
    waiting.map Prod.snd = (s.pendingPackets a).getD [] ∧
    ∀ entry, s.arpCache a = some entry → ∀ routed ∈ waiting, routed.1 = entry.ie
  calm : ∀ entry, s.arpCache a = some entry → entry.pending = false → entry.timer = none
  idle : (∀ entry, s.arpCache a = some entry → entry.pending = false) → requests a s.log = 0
  busy : ∀ entry, s.arpCache a = some entry → entry.pending = true →
    c.globalARP = false ∧ entry.timer ≠ none ∧ (requests a s.log : Int) = entry.numRetries + 1 ∧ entry.numRetries < c.retryCount ∧
      isIeee802Lan c entry.ie ∧ ¬ isLimitedBroadcastAddress a ∧ a ≠ (c.interfaces entry.ie).getNetworkBroadcastAddress ∧
      ¬ isMulticast a

structure Kept (c : Config) (s : Node) : Prop where
  at_ : ∀ a, KeptAt c s a
  justified : Throughout (Justified c.retryCount) s.log

variable {c : Config} {s s' : Node} {a : IPv4Address} {l : List Occurrence}

theorem kept_empty (c : Config) : Kept c {} := by
  constructor
  · intro a
    constructor
    · intro q hq
      cases hq
    · exact ⟨[], [], rfl, Forall₂.nil, rfl, fun entry hentry => nomatch hentry⟩
    · intro entry hentry
      cases hentry
    · intro _
      rfl
    · intro entry hentry
      cases hentry
  · exact throughout_nil

theorem Kept.delivered (h : Kept c s) : Delivered c s := by
  constructor
  · intro a queue hqueue
    obtain ⟨hne, entry, hentry, hpending⟩ := (h.at_ a).queue queue hqueue
    exact ⟨hne, entry, hentry, hpending, ((h.at_ a).busy entry hentry hpending).2.1⟩
  · intro a
    obtain ⟨gone, waiting, hrouted, hleft, hqueue, -⟩ := (h.at_ a).served
    exact ⟨gone, waiting, hrouted, hleft, hqueue⟩
  · exact h.justified

/-- All that is done is about one address. -/
structure Touches (s s' : Node) (a : IPv4Address) (l : List Occurrence) : Prop where
  log : s'.log = s.log ++ l
  entries : ∀ b, b ≠ a → s'.arpCache b = s.arpCache b
  queues : ∀ b, b ≠ a → s'.pendingPackets b = s.pendingPackets b
  about : ∀ o ∈ l, ∀ b, about o = some b → b = a

/-- What is not touched is kept. -/
theorem KeptAt.elsewhere {b : IPv4Address} (h : KeptAt c s b) (hlog : s'.log = s.log ++ l) (hentry : s'.arpCache b = s.arpCache b)
    (hqueue : s'.pendingPackets b = s.pendingPackets b) (habout : ∀ o ∈ l, Arp.about o ≠ some b) : KeptAt c s' b := by
  constructor
  · rw [hentry, hqueue]
    exact h.queue
  · rw [hentry, hqueue, hlog, routedTo_append, leftFor_append, routedTo_elsewhere habout, leftFor_elsewhere habout,
      append_nil, append_nil]
    exact h.served
  · rw [hentry]
    exact h.calm
  · rw [hentry, hlog, requests_append, countRequests_elsewhere habout]
    exact h.idle
  · rw [hentry, hlog, requests_append, countRequests_elsewhere habout]
    exact h.busy

theorem Touches.kept (ht : Touches s s' a l) (h : Kept c s) (ha : KeptAt c s' a)
    (hl : Throughout (fun before => Justified c.retryCount (s.log ++ before)) l) : Kept c s' := by
  constructor
  · intro b
    by_cases hb : b = a
    · exact hb ▸ ha
    · exact (h.at_ b).elsewhere ht.log (ht.entries b hb) (ht.queues b hb) fun o ho heq => hb (ht.about o ho b heq)
  · rw [ht.log]
    exact h.justified.append hl

/-- Nothing waits where no resolution is under way. -/
theorem KeptAt.nothing_waits (h : KeptAt c s a) (hidle : ∀ entry, s.arpCache a = some entry → entry.pending = false) :
    s.pendingPackets a = none := by
  cases hqueue : s.pendingPackets a with
  | none => rfl
  | some q =>
    obtain ⟨-, entry, hentry, hpending⟩ := h.queue q hqueue
    rw [hidle entry hentry] at hpending
    cases hpending

variable {ie : InterfaceId} {datagram : IPv4Datagram} {entry : ARPCacheEntry}
    {globalArpCache : IPv4Address → Option MACAddress} {simTime : Time}

variable {left : List (Option InterfaceId × IPv4Datagram)}

theorem Served.all_gone {routed : List (InterfaceId × IPv4Datagram)}
    (h : Served routed left []) : Forall₂ Leaves routed left := by
  obtain ⟨gone, waiting, rfl, hleft, hnil⟩ := h
  rw [map_eq_nil_iff.mp hnil, append_nil]
  exact hleft

/-- A datagram that goes out at once. -/
theorem Kept.send (h : Kept c s) (ie : InterfaceId) (macAddress : MACAddress) (datagram : IPv4Datagram)
    (hnone : s.pendingPackets a = none) : Kept c (s.record [.routed ie a datagram, .sent ie a macAddress datagram]) := by
  have hk := h.at_ a
  have ht : Touches s (s.record [.routed ie a datagram, .sent ie a macAddress datagram]) a
      [.routed ie a datagram, .sent ie a macAddress datagram] :=
    ⟨rfl, fun _ _ => rfl, fun _ _ => rfl, by simp [about]⟩
  refine ht.kept h ?_ (throughout_of_forall (by simp [Justified]))
  constructor
  · exact hk.queue
  · obtain ⟨gone, waiting, hrouted, hleft, hwaiting, -⟩ := hk.served
    have hall : Served (routedTo a s.log) (leftFor a s.log) [] := ⟨gone, waiting, hrouted, hleft, by rw [hwaiting, hnone]; rfl⟩
    refine ⟨routedTo a s.log ++ [(ie, datagram)], [], ?_, ?_, ?_, fun entry _ routed hmem => absurd hmem not_mem_nil⟩
    · simp [Node.record, routedTo]
    · have happend : leftFor a (s.record [.routed ie a datagram, .sent ie a macAddress datagram]).log =
          leftFor a s.log ++ [(some ie, datagram)] := by
        simp [Node.record, leftFor]
      rw [happend]
      exact rel_append hall.all_gone (.cons ⟨rfl, .inr rfl⟩ .nil)
    · rw [Node.record, hnone]
      rfl
  · exact hk.calm
  · intro hidle
    simp only [Node.record, requests_append]
    exact hk.idle hidle
  · intro entry hentry hpending
    simp only [Node.record, requests_append]
    exact hk.busy entry hentry hpending

/-- What says nothing about any address. -/
theorem Kept.record (h : Kept c s) (hl : ∀ o ∈ l, about o = none) : Kept c (s.record l) := by
  constructor
  · intro b
    exact (h.at_ b).elsewhere rfl rfl rfl fun o ho heq => by
      rw [hl o ho] at heq
      cases heq
  · refine h.justified.append (throughout_of_forall fun o ho before => ?_)
    have hnone := hl o ho
    cases o <;> simp_all [about, Justified]

theorem sendARPRequest_ok (h : s.sendARPRequest c ie a = .ok s') :
    ∃ arp, arp.opcode = ARP_REQUEST ∧ arp.destIPAddress = a ∧ s' = s.record [.sentARP ie BROADCAST_ADDRESS arp] := by
  obtain ⟨-, h⟩ := ensure_bind_ok.mp h
  obtain ⟨-, h⟩ := ensure_bind_ok.mp h
  cases h
  exact ⟨_, rfl, rfl, rfl⟩

theorem sendARPRequest_error : s.sendARPRequest c ie a ≠ .error queueNotEmpty := by
  intro h
  cases bind_error.mp h with
  | inl hmac => exact absurd (ensure_error.mp hmac).2 (by decide)
  | inr hrest =>
    obtain ⟨-, -, hrest⟩ := hrest
    cases bind_error.mp hrest with
    | inl hip => exact absurd (ensure_error.mp hip).2 (by decide)
    | inr hsent =>
      obtain ⟨-, -, hsent⟩ := hsent
      cases hsent

variable {arp : ARPPacket}

/-- The first datagram for an address starts the resolution. -/
theorem Kept.initiate (h : Kept c s)
    (hentries : s'.arpCache = Function.update s.arpCache a (some entry))
    (hqueues : s'.pendingPackets = Function.update s.pendingPackets a (some [datagram]))
    (hlog : s'.log = s.log ++ [.routed ie a datagram, .sentARP ie BROADCAST_ADDRESS arp, .initiated a ie])
    (hcount : 0 < c.retryCount) (hidle : ∀ entry, s.arpCache a = some entry → entry.pending = false)
    (harp : arp.opcode = ARP_REQUEST) (hdest : arp.destIPAddress = a) (hglobal : c.globalARP = false)
    (hlan : isIeee802Lan c ie) (hlimited : ¬ isLimitedBroadcastAddress a)
    (hnetwork : a ≠ (c.interfaces ie).getNetworkBroadcastAddress) (hmulticast : ¬ isMulticast a)
    (hie : entry.ie = ie) (hpending : entry.pending = true) (htimer : entry.timer ≠ none) (hretries : entry.numRetries = 0) :
    Kept c s' := by
  have hk := h.at_ a
  have hentry : s'.arpCache a = some entry := by rw [hentries, update_self]
  have hqueue : s'.pendingPackets a = some [datagram] := by rw [hqueues, update_self]
  have ht : Touches s s' a [.routed ie a datagram, .sentARP ie BROADCAST_ADDRESS arp, .initiated a ie] := by
    constructor
    · exact hlog
    · intro b hb
      rw [hentries, update_of_ne hb]
    · intro b hb
      rw [hqueues, update_of_ne hb]
    · simp [about, harp, hdest]
  have hrequests : requests a s'.log = 1 := by
    rw [hlog, requests_append, hk.idle hidle]
    simp [countRequests, harp, hdest]
  refine ht.kept h ?_ (throughout_of_forall (by simp [Justified]))
  constructor
  · intro q hq
    rw [hqueue] at hq
    cases hq
    exact ⟨cons_ne_nil _ _, entry, hentry, hpending⟩
  · obtain ⟨gone, waiting, hrouted, hleft, hwaiting, -⟩ := hk.served
    have hall : Served (routedTo a s.log) (leftFor a s.log) [] :=
      ⟨gone, waiting, hrouted, hleft, by rw [hwaiting, hk.nothing_waits hidle]; rfl⟩
    refine ⟨routedTo a s.log, [(ie, datagram)], ?_, ?_, ?_, ?_⟩
    · rw [hlog, routedTo_append]
      simp [routedTo]
    · have hsame : leftFor a s'.log = leftFor a s.log := by
        rw [hlog, leftFor_append]
        simp [leftFor]
      rw [hsame]
      exact hall.all_gone
    · rw [hqueue]
      rfl
    · intro entry' hentry' routed hmem
      rw [hentry] at hentry'
      cases hentry'
      rw [mem_singleton.mp hmem, hie]
  · intro entry' hentry' hcalm
    rw [hentry] at hentry'
    cases hentry'
    rw [hpending] at hcalm
    cases hcalm
  · intro hno
    rw [hno entry hentry] at hpending
    cases hpending
  · intro entry' hentry' _
    rw [hentry] at hentry'
    cases hentry'
    rw [hrequests, hretries, hie]
    exact ⟨hglobal, htimer, rfl, hcount, hlan, hlimited, hnetwork, hmulticast⟩

/-- Another datagram for an address that is being resolved. -/
theorem Kept.enqueue (h : Kept c s) (hentry : s.arpCache a = some entry)
    (hpending : entry.pending = true) :
    Kept c ((s.record [.routed entry.ie a datagram]).setQueue a (some ((s.pendingPackets a).getD [] ++ [datagram]))) := by
  have hk := h.at_ a
  have hqueue : Function.update s.pendingPackets a (some ((s.pendingPackets a).getD [] ++ [datagram])) a =
      some ((s.pendingPackets a).getD [] ++ [datagram]) := update_self ..
  have ht : Touches s ((s.record [.routed entry.ie a datagram]).setQueue a (some ((s.pendingPackets a).getD [] ++ [datagram]))) a
      [.routed entry.ie a datagram] := by
    constructor
    · rfl
    · intro b hb
      rfl
    · intro b hb
      exact update_of_ne hb _ _
    · simp [about]
  refine ht.kept h ?_ (throughout_of_forall (by simp [Justified]))
  constructor
  · intro q hq
    cases hqueue.symm.trans hq
    exact ⟨by simp, entry, hentry, hpending⟩
  · obtain ⟨gone, waiting, hrouted, hleft, hwaiting, hie⟩ := hk.served
    refine ⟨gone, waiting ++ [(entry.ie, datagram)], ?_, ?_, ?_, ?_⟩
    · have happend : routedTo a (s.log ++ [.routed entry.ie a datagram]) = routedTo a s.log ++ [(entry.ie, datagram)] := by
        simp [routedTo]
      rw [← append_assoc, ← hrouted]
      exact happend
    · have hsame : leftFor a (s.log ++ [.routed entry.ie a datagram]) = leftFor a s.log := by
        simp [leftFor]
      exact hsame ▸ hleft
    · refine Eq.trans ?_ (congrArg (Option.getD · []) hqueue.symm)
      rw [map_append, hwaiting]
      rfl
    · intro entry' hentry' routed hmem
      cases hentry.symm.trans hentry'
      rcases mem_append.mp hmem with hmem | hmem
      · exact hie entry hentry routed hmem
      · rw [mem_singleton.mp hmem]
  · exact hk.calm
  · intro hno
    rw [hno entry hentry] at hpending
    cases hpending
  · intro entry' hentry' hpending'
    have hrequests : requests a (s.log ++ [.routed entry.ie a datagram]) = requests a s.log := requests_append ..
    exact hrequests ▸ hk.busy entry' hentry' hpending'

theorem makeMulticastAddress_ne (addr : IPv4Address) : makeMulticastAddress addr ≠ 0 := by
  intro h
  have hbit := congrArg (·.getLsbD 40) h
  simp [makeMulticastAddress] at hbit

/-- Where the address is looked up in the table of ARP. -/
theorem resolve_unspecified (h : s.resolveNextHopMacAddress c simTime globalArpCache a ie = 0) :
    ¬ isLimitedBroadcastAddress a ∧ a ≠ (c.interfaces ie).getNetworkBroadcastAddress ∧ ¬ isMulticast a := by
  unfold resolveNextHopMacAddress at h
  split at h
  · exact absurd h (by decide)
  · rename_i hbroadcast
    split at h
    · exact absurd h (makeMulticastAddress_ne a)
    · rename_i hmulticast
      exact ⟨fun hl => hbroadcast (.inl hl), fun hn => hbroadcast (.inr hn), hmulticast⟩

/-- An address that is being resolved is not known yet. -/
theorem KeptAt.unresolved (h : KeptAt c s a) (hentry : s.arpCache a = some entry)
    (hpending : entry.pending = true) (simTime : Time) (globalArpCache : IPv4Address → Option MACAddress) :
    s.resolveNextHopMacAddress c simTime globalArpCache a entry.ie = 0 := by
  obtain ⟨hglobal, -, -, -, -, hlimited, hnetwork, hmulticast⟩ := h.busy entry hentry hpending
  rw [resolveNextHopMacAddress, if_neg (not_or.mpr ⟨hlimited, hnetwork⟩), if_neg hmulticast, getMACAddressFor, hglobal,
    if_neg Bool.false_ne_true, hentry]
  exact if_neg fun hvalid => hvalid.1 hpending

theorem Kept.queueUp (h : Kept c s) (hcount : 0 < c.retryCount) (hlan : isIeee802Lan c ie)
    (hunicast : ¬ isLimitedBroadcastAddress a ∧ a ≠ (c.interfaces ie).getNetworkBroadcastAddress ∧ ¬ isMulticast a)
    (hallowed : ∀ entry, s.arpCache a = some entry → entry.pending = true → entry.ie = ie) :
    (∀ s', ((s.record [.routed ie a datagram]).setQueue a (some ((s.pendingPackets a).getD [] ++ [datagram]))).startAddressResolution
        c simTime a ie = .ok s' → Kept c s') ∧
      ((s.record [.routed ie a datagram]).setQueue a (some ((s.pendingPackets a).getD [] ++ [datagram]))).startAddressResolution
        c simTime a ie ≠ .error queueNotEmpty := by
  have hinitiate (entry : ARPCacheEntry) (hie : entry.ie = ie)
      (hidle : ∀ entry, s.arpCache a = some entry → entry.pending = false) (hglobal : c.globalARP = false) :
      (∀ s', ((s.record [.routed ie a datagram]).setQueue a
          (some ((s.pendingPackets a).getD [] ++ [datagram]))).initiateARPResolution c simTime a entry = .ok s' → Kept c s') ∧
        ((s.record [.routed ie a datagram]).setQueue a
          (some ((s.pendingPackets a).getD [] ++ [datagram]))).initiateARPResolution c simTime a entry ≠ .error queueNotEmpty := by
    rw [(h.at_ a).nothing_waits hidle]
    constructor
    · intro s' hs
      obtain ⟨s₁, hsent, hs⟩ := bind_ok.mp hs
      obtain ⟨arp, harp, hdest, rfl⟩ := sendARPRequest_ok hsent
      cases hs
      obtain ⟨hlimited, hnetwork, hmulticast⟩ := hunicast
      subst hie
      exact h.initiate rfl rfl (by simp [Node.record, setEntry, Node.setQueue]) hcount hidle harp hdest hglobal hlan hlimited
        hnetwork hmulticast rfl rfl (some_ne_none _) rfl
    · intro herr
      cases bind_error.mp herr with
      | inl hsend => exact sendARPRequest_error hsend
      | inr hrest =>
        obtain ⟨s₁, -, hrest⟩ := hrest
        cases hrest
  unfold startAddressResolution
  by_cases hglobal : c.globalARP = true
  · rw [if_pos hglobal]
    exact ⟨nofun, fun herr => absurd (error.inj herr) (by decide)⟩
  · rw [if_neg hglobal]
    have hglobal' := Bool.eq_false_iff.mpr hglobal
    cases hentry : s.arpCache a with
    | none =>
      have hidle (entry : ARPCacheEntry) (h : s.arpCache a = some entry) : entry.pending = false := by
        rw [hentry] at h
        cases h
      simp only [Node.setQueue, Node.record, hentry]
      exact hinitiate { ie } rfl hidle hglobal'
    | some entry =>
      simp only [Node.setQueue, Node.record, hentry]
      cases hpending : entry.pending with
      | true =>
        have hie := hallowed entry hentry hpending
        constructor
        · intro s' hs
          cases hs
          exact hie ▸ h.enqueue hentry hpending
        · exact nofun
      | false =>
        have hidle (entry' : ARPCacheEntry) (h : s.arpCache a = some entry') : entry'.pending = false := by
          rw [hentry] at h
          cases h
          exact hpending
        exact hinitiate { entry with ie } rfl hidle hglobal'

theorem Kept.sendToNextHop (h : Kept c s) (hcount : 0 < c.retryCount) (hlan : isIeee802Lan c ie)
    (hallowed : ∀ entry, s.arpCache a = some entry → entry.pending = true → entry.ie = ie) :
    (∀ s', s.sendToNextHop c simTime globalArpCache datagram ie a = .ok s' → Kept c s') ∧
      s.sendToNextHop c simTime globalArpCache datagram ie a ≠ .error queueNotEmpty := by
  unfold Node.sendToNextHop
  by_cases hmac : s.resolveNextHopMacAddress c simTime globalArpCache a ie = 0
  · rw [if_pos hmac]
    by_cases hdelete : c.globalARP = true ∧ c.deletePackets = true
    · rw [if_pos hdelete]
      constructor
      · intro s' hs
        cases hs
        exact h.record (by simp [about])
      · exact nofun
    · rw [if_neg hdelete]
      exact h.queueUp hcount hlan (resolve_unspecified hmac) hallowed
  · rw [if_neg hmac]
    have hnone : s.pendingPackets a = none := by
      apply (h.at_ a).nothing_waits
      intro entry hentry
      cases hpending : entry.pending with
      | false => rfl
      | true =>
        have hunresolved := (h.at_ a).unresolved hentry hpending simTime globalArpCache
        rw [hallowed entry hentry hpending] at hunresolved
        exact absurd hunresolved hmac
    rw [if_neg (not_not.mpr hnone)]
    constructor
    · intro s' hs
      cases hs
      exact h.send ie _ datagram hnone
    · exact nofun

theorem hop_of_not_lan (h : ¬ isIeee802Lan c ie) :
    hop c datagram ie a = a := if_neg fun hlan => h hlan.1

theorem Kept.sendDatagramToOutput (h : Kept c s) (hcount : 0 < c.retryCount)
    (hallowed : ∀ entry, s.arpCache (hop c datagram ie a) = some entry → entry.pending = true → entry.ie = ie) :
    (∀ s', s.sendDatagramToOutput c simTime globalArpCache datagram ie a = .ok s' → Kept c s') ∧
      s.sendDatagramToOutput c simTime globalArpCache datagram ie a ≠ .error queueNotEmpty := by
  unfold Node.sendDatagramToOutput
  by_cases hlan : isIeee802Lan c ie
  · rw [if_neg (not_not.mpr hlan)]
    by_cases hnext : a = 0
    · rw [if_pos hnext]
      split
      · rw [hop, if_pos ⟨hlan, hnext⟩] at hallowed
        exact h.sendToNextHop hcount hlan hallowed
      · exact ⟨nofun, fun herr => absurd (error.inj herr) (by decide)⟩
    · rw [if_neg hnext]
      rw [hop, if_neg fun hp => hnext hp.2] at hallowed
      exact h.sendToNextHop hcount hlan hallowed
  · rw [if_pos hlan]
    rw [hop_of_not_lan hlan] at hallowed
    have hnone : s.pendingPackets a = none := by
      apply (h.at_ a).nothing_waits
      intro entry hentry
      cases hpending : entry.pending with
      | false => rfl
      | true =>
        have hbusy := (h.at_ a).busy entry hentry hpending
        rw [hallowed entry hentry hpending] at hbusy
        exact absurd hbusy.2.2.2.2.1 hlan
    constructor
    · intro s' hs
      cases hs
      exact h.send ie 0 datagram hnone
    · exact nofun

theorem arpResolutionTimedOut_eq (s : Node) (a : IPv4Address) : s.arpResolutionTimedOut a =
    { s with
      pendingPackets := Function.update s.pendingPackets a none
      log := s.log ++ ((s.pendingPackets a).getD []).map (.dropped a) } := by
  unfold arpResolutionTimedOut
  cases hqueue : s.pendingPackets a with
  | none =>
    rw [← hqueue, update_eq_self, hqueue]
    simp
  | some q => rfl

theorem arpResolutionCompleted_eq (s : Node) (a : IPv4Address) (macAddress : MACAddress) (ie : InterfaceId) :
    s.arpResolutionCompleted a macAddress ie =
      { s with
        pendingPackets := Function.update s.pendingPackets a none
        log := s.log ++ ((s.pendingPackets a).getD []).map (.sent ie a macAddress) } := by
  unfold arpResolutionCompleted
  cases hqueue : s.pendingPackets a with
  | none =>
    rw [← hqueue, update_eq_self, hqueue]
    simp
  | some q => rfl

theorem leaves_dropped (waiting : List (InterfaceId × IPv4Datagram)) :
    Forall₂ Leaves waiting ((waiting.map Prod.snd).map fun datagram => (none, datagram)) := by
  induction waiting with
  | nil => exact .nil
  | cons routed waiting ih => exact .cons ⟨rfl, .inl rfl⟩ ih

theorem leaves_sent {waiting : List (InterfaceId × IPv4Datagram)} (h : ∀ routed ∈ waiting, routed.1 = ie) :
    Forall₂ Leaves waiting ((waiting.map Prod.snd).map fun datagram => (some ie, datagram)) := by
  induction waiting with
  | nil => exact .nil
  | cons routed waiting ih =>
    have hhead := h routed mem_cons_self
    exact .cons ⟨rfl, .inr (congrArg some hhead.symm)⟩ (ih fun r hr => h r (mem_cons_of_mem _ hr))

/-- All that waits has left, and nothing is under way any more. -/
theorem KeptAt.ended (h : KeptAt c s a)
    (hrouted : routedTo a s'.log = routedTo a s.log) (hleft : leftFor a s'.log = leftFor a s.log ++ left)
    (hwaiting : ∀ waiting : List (InterfaceId × IPv4Datagram), waiting.map Prod.snd = (s.pendingPackets a).getD [] →
      (∀ entry, s.arpCache a = some entry → ∀ routed ∈ waiting, routed.1 = entry.ie) → Forall₂ Leaves waiting left)
    (hqueue : s'.pendingPackets a = none) (hentry : ∀ entry, s'.arpCache a = some entry → entry.pending = false ∧ entry.timer = none)
    (hrequests : requests a s'.log = 0) : KeptAt c s' a := by
  constructor
  · intro q hq
    rw [hqueue] at hq
    cases hq
  · obtain ⟨gone, waiting, hgone, hgoneleft, hq, hie⟩ := h.served
    refine ⟨gone ++ waiting, [], ?_, ?_, ?_, fun entry _ routed hmem => absurd hmem not_mem_nil⟩
    · rw [hrouted, hgone, append_nil]
    · rw [hleft]
      exact rel_append hgoneleft (hwaiting waiting hq hie)
    · rw [hqueue]
      rfl
  · intro entry hentry' _
    exact (hentry entry hentry').2
  · intro _
    exact hrequests
  · intro entry hentry' hpending
    rw [(hentry entry hentry').1] at hpending
    cases hpending

/-- The queue of an address is emptied, with something that happens to each datagram in it. -/
theorem touches_emptied (entry : Option ARPCacheEntry) {o : Occurrence} {happens : IPv4Datagram → Occurrence}
    (ho : about o = some a) (hhappens : ∀ datagram, about (happens datagram) = some a) :
    Touches s { s with
      arpCache := Function.update s.arpCache a entry
      pendingPackets := Function.update s.pendingPackets a none
      log := s.log ++ [o] ++ ((s.pendingPackets a).getD []).map happens } a
      (o :: ((s.pendingPackets a).getD []).map happens) := by
  constructor
  · exact append_assoc ..
  · intro b hb
    exact update_of_ne hb _ _
  · intro b hb
    exact update_of_ne hb _ _
  · intro o' ho' b hb
    rcases mem_cons.mp ho' with rfl | ho'
    · exact some.inj (hb.symm.trans ho)
    · obtain ⟨datagram, -, rfl⟩ := mem_map.mp ho'
      exact some.inj (hb.symm.trans (hhappens datagram))

section

variable (h : Kept c s)
include h

theorem Kept.fail (hentry : s.arpCache a = some entry) (hpending : entry.pending = true)
    (hlast : ¬ entry.numRetries + 1 < c.retryCount) :
    Kept c (((s.record [.failed a entry.ie]).arpResolutionTimedOut a).setEntry a none) := by
  have hk := h.at_ a
  obtain ⟨-, -, hrequests, hretries, -⟩ := hk.busy entry hentry hpending
  rw [arpResolutionTimedOut_eq]
  have ht : Touches s ((({ s.record [.failed a entry.ie] with
        pendingPackets := Function.update s.pendingPackets a none
        log := s.log ++ [.failed a entry.ie] ++ ((s.pendingPackets a).getD []).map (.dropped a) } : Node)).setEntry a none) a
      (.failed a entry.ie :: ((s.pendingPackets a).getD []).map (.dropped a)) :=
    touches_emptied none rfl fun _ => rfl
  have hleft : leftFor a (s.log ++ (.failed a entry.ie :: ((s.pendingPackets a).getD []).map (.dropped a))) =
      leftFor a s.log ++ ((s.pendingPackets a).getD []).map fun datagram => (none, datagram) := by
    simp [leftFor]
  refine ht.kept h (hk.ended ?_ ((congrArg (leftFor a) ht.log).trans hleft) ?_ ?_ ?_ ?_) ?_
  · rw [ht.log, routedTo_append]
    simp [routedTo]
  · intro waiting hwaiting _
    rw [← hwaiting]
    exact leaves_dropped waiting
  · exact update_self ..
  · intro entry' hentry'
    have hnone : Function.update s.arpCache a none a = none := update_self ..
    cases hnone.symm.trans hentry'
  · rw [ht.log, requests_append, foldl_cons, foldl_map]
    exact (foldl_fixed' (fun _ => rfl) _).trans (if_pos rfl)
  · rw [throughout_cons]
    constructor
    · rw [append_nil]
      show (requests a s.log : Int) = c.retryCount
      omega
    · intro before o after hsplit
      obtain ⟨front, back, -, rfl, hback⟩ := map_eq_append_iff.mp hsplit
      cases back with
      | nil => cases hback
      | cons datagram back =>
        cases hback
        exact ⟨s.log, entry.ie, front, rfl⟩

theorem Kept.retry {timer : Time} (hentry : s.arpCache a = some entry)
    (hpending : entry.pending = true) (hnext : entry.numRetries + 1 < c.retryCount) (harp : arp.opcode = ARP_REQUEST)
    (hdest : arp.destIPAddress = a) :
    Kept c ((s.record [.sentARP entry.ie BROADCAST_ADDRESS arp]).setEntry a
      (some { entry with numRetries := entry.numRetries + 1, timer := some timer })) := by
  have hk := h.at_ a
  obtain ⟨hglobal, -, hrequests, -, hrest⟩ := hk.busy entry hentry hpending
  have ht : Touches s ((s.record [.sentARP entry.ie BROADCAST_ADDRESS arp]).setEntry a
      (some { entry with numRetries := entry.numRetries + 1, timer := some timer })) a [.sentARP entry.ie BROADCAST_ADDRESS arp] := by
    constructor
    · rfl
    · intro b hb
      exact update_of_ne hb _ _
    · intro b hb
      rfl
    · simp [about, harp, hdest]
  have hnew : Function.update s.arpCache a (some { entry with numRetries := entry.numRetries + 1, timer := some timer }) a =
      some { entry with numRetries := entry.numRetries + 1, timer := some timer } := update_self ..
  refine ht.kept h ?_ (throughout_of_forall (by simp [Justified]))
  constructor
  · intro q hq
    exact ⟨(hk.queue q hq).1, _, hnew, hpending⟩
  · obtain ⟨gone, waiting, hgone, hleft, hwaiting, hie⟩ := hk.served
    refine ⟨gone, waiting, ?_, ?_, hwaiting, ?_⟩
    · rw [ht.log, routedTo_append, ← hgone]
      simp [routedTo]
    · rw [ht.log, leftFor_append]
      simpa [leftFor] using hleft
    · intro entry' hentry' routed hmem
      cases hnew.symm.trans hentry'
      exact hie entry hentry routed hmem
  · intro entry' hentry' hcalm
    cases hnew.symm.trans hentry'
    rw [hpending] at hcalm
    cases hcalm
  · intro hidle
    have hcalm := hidle _ hnew
    rw [hpending] at hcalm
    cases hcalm
  · intro entry' hentry' _
    cases hnew.symm.trans hentry'
    refine ⟨hglobal, some_ne_none _, ?_, hnext, hrest⟩
    rw [ht.log, requests_append]
    simp [countRequests, harp, hdest, hrequests]

theorem Kept.requestTimedOut :
    (∀ s', s.requestTimedOut c simTime a = .ok s' → Kept c s') ∧ s.requestTimedOut c simTime a ≠ .error queueNotEmpty := by
  unfold Node.requestTimedOut
  cases hentry : s.arpCache a with
  | none =>
    constructor
    · intro s' hs
      cases hs
      exact h
    · exact nofun
  | some entry =>
    dsimp only
    by_cases htimer : entry.timer = none
    · rw [if_pos htimer]
      constructor
      · intro s' hs
        cases hs
        exact h
      · exact nofun
    · rw [if_neg htimer]
      have hpending : entry.pending = true := by
        cases hpending : entry.pending with
        | true => rfl
        | false => exact absurd ((h.at_ a).calm entry hentry hpending) htimer
      by_cases hnext : entry.numRetries + 1 < c.retryCount
      · rw [if_pos hnext]
        constructor
        · intro s' hs
          obtain ⟨s₁, hsent, hs⟩ := bind_ok.mp hs
          obtain ⟨arp, harp, hdest, rfl⟩ := sendARPRequest_ok hsent
          cases hs
          exact h.retry hentry hpending hnext harp hdest
        · intro herr
          cases bind_error.mp herr with
          | inl hsend => exact sendARPRequest_error hsend
          | inr hrest =>
            obtain ⟨s₁, -, hrest⟩ := hrest
            cases hrest
      · rw [if_neg hnext]
        constructor
        · intro s' hs
          cases hs
          exact h.fail hentry hpending hnext
        · exact nofun

/-- The entry of the cache, or a new one. -/
theorem Kept.update {macAddress : MACAddress}
    (hentry : s.arpCache a = some entry ∨ s.arpCache a = none ∧ entry.timer = none) (hcalm : entry.pending = false → entry.timer = none) :
    Kept c (s.updateARPCache simTime a entry macAddress) := by
  have hk := h.at_ a
  -- the entry that is left behind
  obtain ⟨entry', hie, hidle, heq⟩ : ∃ entry' : ARPCacheEntry, entry'.ie = entry.ie ∧ (entry'.pending = false ∧ entry'.timer = none) ∧
      s.updateARPCache simTime a entry macAddress =
        ((s.setEntry a (some entry')).record [.completed a macAddress entry'.ie]).arpResolutionCompleted a macAddress entry'.ie := by
    by_cases hpending : entry.pending = true
    · exact ⟨{ entry with pending := false, timer := none, numRetries := 0, macAddress, lastUpdate := simTime }, rfl, ⟨rfl, rfl⟩,
        by simp [updateARPCache, hpending]⟩
    · have hfalse := Bool.eq_false_iff.mpr hpending
      exact ⟨{ entry with macAddress, lastUpdate := simTime }, rfl, ⟨hfalse, hcalm hfalse⟩, by simp [updateARPCache, hpending]⟩
  rw [heq, arpResolutionCompleted_eq]
  have ht : Touches s ({ (s.setEntry a (some entry')).record [.completed a macAddress entry'.ie] with
        pendingPackets := Function.update s.pendingPackets a none
        log := s.log ++ [.completed a macAddress entry'.ie] ++ ((s.pendingPackets a).getD []).map (.sent entry'.ie a macAddress) } :
        Node) a (.completed a macAddress entry'.ie :: ((s.pendingPackets a).getD []).map (.sent entry'.ie a macAddress)) :=
    touches_emptied (some entry') rfl fun _ => rfl
  have hleft : leftFor a (s.log ++ (.completed a macAddress entry'.ie ::
        ((s.pendingPackets a).getD []).map (.sent entry'.ie a macAddress))) =
      leftFor a s.log ++ ((s.pendingPackets a).getD []).map fun datagram => (some entry'.ie, datagram) := by
    simp [leftFor]
  have hwaits (waiting : List (InterfaceId × IPv4Datagram)) (hwaiting : waiting.map Prod.snd = (s.pendingPackets a).getD [])
      (hies : ∀ entry, s.arpCache a = some entry → ∀ routed ∈ waiting, routed.1 = entry.ie) :
      Forall₂ Leaves waiting (((s.pendingPackets a).getD []).map fun datagram => (some entry'.ie, datagram)) := by
    rw [← hwaiting, hie]
    cases hentry with
    | inl hsome => exact leaves_sent (hies entry hsome)
    | inr hnone =>
      have hempty := hk.nothing_waits fun entry hentry => by
        rw [hnone.1] at hentry
        cases hentry
      rw [hempty] at hwaiting
      rw [map_eq_nil_iff.mp hwaiting]
      exact .nil
  refine ht.kept h (hk.ended ?_ ((congrArg (leftFor a) ht.log).trans hleft) hwaits ?_ ?_ ?_) ?_
  · simp [routedTo]
  · exact update_self ..
  · intro entry'' hentry''
    have hnew : Function.update s.arpCache a (some entry') a = some entry' := update_self ..
    cases hnew.symm.trans hentry''
    exact hidle
  · rw [ht.log, requests_append, foldl_cons, foldl_map]
    exact (foldl_fixed' (fun _ => rfl) _).trans (if_pos rfl)
  · exact throughout_of_forall (by simp [Justified])

theorem Kept.processARPPacket {rt : Node.IRoutingTable} :
    (∀ s', s.processARPPacket c simTime rt arp ie = .ok s' → Kept c s') ∧
      s.processARPPacket c simTime rt arp ie ≠ .error queueNotEmpty := by
  unfold Node.processARPPacket
  have hanswer (s' : Node) (hk : Kept c s') :
      (∀ s'', (if arp.opcode = ARP_REQUEST then .ok (s'.record [Node.reply c arp ie])
          else if arp.opcode = ARP_REPLY then .ok s'
          else if arp.opcode = ARP_RARP_REQUEST then .error (.runtime "RARP request received: RARP is not supported")
          else if arp.opcode = ARP_RARP_REPLY then .error (.runtime "RARP reply received: RARP is not supported")
          else .error (.runtime "Unsupported opcode %d in received ARP packet") : Sim Node) = .ok s'' → Kept c s'') ∧
        (if arp.opcode = ARP_REQUEST then .ok (s'.record [Node.reply c arp ie])
          else if arp.opcode = ARP_REPLY then .ok s'
          else if arp.opcode = ARP_RARP_REQUEST then .error (.runtime "RARP request received: RARP is not supported")
          else if arp.opcode = ARP_RARP_REPLY then .error (.runtime "RARP reply received: RARP is not supported")
          else .error (.runtime "Unsupported opcode %d in received ARP packet") : Sim Node) ≠ .error queueNotEmpty := by
    have hreply : Kept c (s'.record [Node.reply c arp ie]) := hk.record (by simp [about, Node.reply, ARP_REQUEST, ARP_REPLY])
    constructor
    · intro s'' hs
      split at hs
      · cases hs
        exact hreply
      · split at hs
        · cases hs
          exact hk
        · split at hs
          · cases hs
          · split at hs
            · cases hs
            · cases hs
    · intro herr
      split at herr
      · cases herr
      · split at herr
        · cases herr
        · split at herr
          · exact absurd (error.inj herr) (by decide)
          · split at herr
            · exact absurd (error.inj herr) (by decide)
            · exact absurd (error.inj herr) (by decide)
  by_cases hmac : arp.srcMACAddress = 0
  · rw [if_pos hmac]
    exact ⟨nofun, fun herr => absurd (error.inj herr) (by decide)⟩
  rw [if_neg hmac]
  by_cases hip : arp.srcIPAddress = 0
  · rw [if_pos hip]
    exact ⟨nofun, fun herr => absurd (error.inj herr) (by decide)⟩
  rw [if_neg hip]
  cases hentry : s.arpCache arp.srcIPAddress with
  | some entry =>
    have hmerged : Kept c (s.updateARPCache simTime arp.srcIPAddress entry arp.srcMACAddress) :=
      h.update (.inl hentry) ((h.at_ arp.srcIPAddress).calm entry hentry)
    dsimp only
    split
    · exact hanswer _ hmerged
    · constructor
      · intro s' hs
        cases hs
        exact hmerged
      · exact nofun
  | none =>
    dsimp only
    split
    · exact hanswer _ (h.update (.inr ⟨hentry, rfl⟩) fun _ => rfl)
    · constructor
      · intro s' hs
        cases hs
        exact h
      · exact nofun

theorem Kept.step (hcount : 0 < c.retryCount) {event : Node.Event} (ha : Allowed c s event) :
    (∀ s', s.step c event = .ok s' → Kept c s') ∧ s.step c event ≠ .error queueNotEmpty := by
  cases event with
  | sendDatagramToOutput simTime globalArpCache datagram ie nextHopAddr => exact h.sendDatagramToOutput hcount ha
  | processARPPacket simTime rt arp ie => exact h.processARPPacket
  | requestTimedOut simTime addr => exact h.requestTimedOut

end

theorem datagrams_delivered (hcount : 0 < c.retryCount) {events : List Node.Event}
    (h : Runs.EveryStep (Node.step c) (Allowed c) {} events) :
    Runs.EveryState (Node.step c) (Delivered c) {} events ∧
      Runs.EveryStep (Node.step c) (fun s event => s.step c event ≠ .error queueNotEmpty) {} events := by
  have hstep (s : Node) (event : Node.Event) (s' : Node) (hk : Kept c s) (ha : Allowed c s event) (hs : s.step c event = .ok s') :
      Kept c s' := (hk.step hcount ha).1 s' hs
  have hkept := h.everyState hstep (kept_empty c)
  constructor
  · exact fun events₁ s₁ hpre hrun => (hkept events₁ s₁ hpre hrun).delivered
  · intro events₁ event s₁ hpre hrun
    exact ((hkept events₁ s₁ ((prefix_append events₁ [event]).trans hpre) hrun).step hcount (h events₁ event s₁ hpre hrun)).2

/-- Two LANs, and a node with an address on each of them. -/
def twoLans : Config where
  interfaces ie := { isBroadcast := true, macAddress := 1, ipAddress := if ie = 0 then 0x0A000001 else 0x0A000101, netmask := 0xFFFFFF00 }
  useProxyARP := false
  retryTimeout := 1
  retryCount := 3
  cacheTimeout := 120
  respondToProxyARP := false
  globalARP := false
  deletePackets := true

def datagramTo (destAddress : IPv4Address) : IPv4Datagram where
  byteLength := 20
  headerLength := 20
  srcAddress := 0
  destAddress
  timeToLive := 32
  identification := 0
  moreFragments := false
  dontFragment := false
  fragmentOffset := 0
  totalPayloadLength := 0
  encapsulatedPacket := none

/-- A datagram for the node 10.0.0.2 is routed to the interface. -/
def sendOn (ie : InterfaceId) : Node.Event := .sendDatagramToOutput 0 (fun _ => none) (datagramTo 0x0A000002) ie 0x0A000002

theorem timeout_delivered :
    Runs.EveryState (Node.step twoLans) (Delivered twoLans) {} [sendOn 0, .requestTimedOut 1 0x0A000002] ∧
      Runs.EveryStep (Node.step twoLans) (fun s event => s.step twoLans event ≠ .error queueNotEmpty) {}
        [sendOn 0, .requestTimedOut 1 0x0A000002] :=
  datagrams_delivered (by decide) (by
    refine Runs.everyStep_cons.mpr ⟨fun entry hentry => (nomatch hentry), fun s hs => ?_⟩
    exact Runs.everyStep_cons.mpr ⟨trivial, fun _ _ => Runs.everyStep_nil⟩)

/-- While the node is looked up on one LAN, a datagram is routed to the other one; it goes out on the first. -/
theorem datagram_misdirected :
    ¬ (Runs.EveryState (Node.step twoLans) (Delivered twoLans) {} [sendOn 0, sendOn 1,
        .processARPPacket 1 ⟨fun _ => false, fun _ => none⟩ ⟨ARP_REPLY, 2, 1, 0x0A000002, 0x0A000001⟩ 0] ∧
      Runs.EveryStep (Node.step twoLans) (fun s event => s.step twoLans event ≠ .error queueNotEmpty) {} [sendOn 0, sendOn 1,
        .processARPPacket 1 ⟨fun _ => false, fun _ => none⟩ ⟨ARP_REPLY, 2, 1, 0x0A000002, 0x0A000001⟩ 0]) := by
  rintro ⟨h, -⟩
  obtain ⟨s, hs⟩ : ∃ s, Runs.run (Node.step twoLans) {} [sendOn 0, sendOn 1,
    .processARPPacket 1 ⟨fun _ => false, fun _ => none⟩ ⟨ARP_REPLY, 2, 1, 0x0A000002, 0x0A000001⟩ 0] = .ok s := ⟨_, rfl⟩
  obtain ⟨gone, waiting, hrouted, hleft, hwaiting⟩ := (h _ s (prefix_refl _) hs).served 0x0A000002
  cases hs
  have hnone : waiting = [] := map_eq_nil_iff.mp hwaiting
  subst hnone
  rw [append_nil] at hrouted
  subst hrouted
  cases hleft with
  | cons _ hrest =>
    cases hrest with
    | cons hleaves _ => exact absurd hleaves (by decide)

end Inet.Arp
