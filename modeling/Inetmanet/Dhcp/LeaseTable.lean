import Inetmanet.Dhcp.DHCPServer

/-!
# One address, one client

Every lease of the table is held by the one client it was offered to, as long as
a DHCPDISCOVER asks for a free address of the pool if it asks for one, and a
DHCPREQUEST that extends a lease comes from its holder.
-/
namespace Inet.Dhcp

open Option List
open Inet.Ipv4 (IPv4Address)
open Inet.Arp (MACAddress)

structure Arrival where
  simTime : Time
  inputInterfaceId : Nat
  packet : DHCPMessage
  deriving DecidableEq, Repr

/-- A message and what the server has made of it. -/
structure Exchange where
  before : DHCPServer
  arrival : Arrival
  after : DHCPServer

namespace DHCPServer

/-- A server that has been started. -/
def started (ie : InterfaceEntry) (maxNumOfClients leaseTime : BitVec 32)
    (subnetMask gateway ipAddressStart : IPv4Address) : DHCPServer where
  isOperational := true
  ie := some ie
  maxNumOfClients := maxNumOfClients
  leaseTime := leaseTime
  subnetMask := subnetMask
  gateway := gateway
  ipAddressStart := ipAddressStart

def receive (s : DHCPServer) (a : Arrival) : Sim DHCPServer :=
  s.processDHCPMessage a.simTime a.inputInterfaceId a.packet

def history (s : DHCPServer) : List Arrival → List Exchange
  | [] => []
  | a :: arrivals =>
    match s.receive a with
    | .ok s' => ⟨s, a, s'⟩ :: s'.history arrivals
    | .error _ => []

def InPool (s : DHCPServer) (addr : IPv4Address) : Prop :=
  (addr - s.ipAddressStart).toNat < s.maxNumOfClients.toNat

/-- The lease of the address belongs to the client. -/
def Holds (s : DHCPServer) (addr : IPv4Address) (mac : MACAddress) : Prop :=
  ∃ lease, s.leased[addr]? = some lease ∧ lease.mac = mac

end DHCPServer

namespace Exchange

def answers (e : Exchange) : List Datagram := e.after.sent.drop e.before.sent.length

/-- The address is offered or acknowledged to the client. -/
def Grants (e : Exchange) (addr : IPv4Address) (mac : MACAddress) : Prop :=
  ∃ d ∈ e.answers, (d.message.options.messageType = .dhcpOffer ∨ d.message.options.messageType = .dhcpAck) ∧
    d.message.yiaddr = addr ∧ d.message.chaddr = mac

/-- What is required of the handling of one message. -/
structure Meets (e : Exchange) : Prop where
  offered : ∀ d ∈ e.answers, d.message.options.messageType = .dhcpOffer → e.before.InPool d.message.yiaddr
  single : ∀ addr addr' mac, e.after.Holds addr mac → e.after.Holds addr' mac → addr = addr'
  owner : ∀ d ∈ e.answers, d.message.options.messageType = .dhcpAck →
    e.before.Holds d.message.yiaddr e.arrival.packet.chaddr
  refused : (∀ addr mac, ¬ e.Grants addr mac) → e.after.leased = e.before.leased

end Exchange

/-- What is required of all messages together. -/
structure Safe (exchanges : List Exchange) : Prop where
  meets : ∀ e ∈ exchanges, e.Meets
  exclusive : ∀ e ∈ exchanges, ∀ e' ∈ exchanges, ∀ addr mac mac',
    e.Grants addr mac → e'.Grants addr mac' → mac = mac'

namespace DHCPServer

/-- The condition on a message that arrives on the interface that is served. -/
def AllowedOn (s : DHCPServer) (ie : InterfaceEntry) (packet : DHCPMessage) : Prop :=
  match packet.op, packet.options.messageType with
  | .bootRequest, .dhcpDiscover => s.getLeaseByMac packet.chaddr = none → packet.options.requestedIp ≠ 0 →
      s.InPool packet.options.requestedIp ∧ s.leased[packet.options.requestedIp]? = none
  | .bootRequest, .dhcpRequest => packet.options.serverIdentifier ≠ ie.ipAddress →
      if packet.ciaddr = 0 then ∀ lease, s.leased[packet.options.requestedIp]? = some lease →
        maskedAddrAreEqual packet.options.requestedIp lease.ip s.subnetMask → lease.mac = packet.chaddr
      else ∀ lease, s.leased[packet.ciaddr]? = some lease → lease.mac = packet.chaddr
  | _, _ => True

def Allowed (s : DHCPServer) (a : Arrival) : Prop :=
  ∀ ie, s.ie = some ie → a.inputInterfaceId = ie.interfaceId → s.AllowedOn ie a.packet

def AllAllowed (s : DHCPServer) : List Arrival → Prop
  | [] => True
  | a :: arrivals => s.Allowed a ∧ ∀ s', s.receive a = .ok s' → s'.AllAllowed arrivals

theorem getElem?_write (s : DHCPServer) (addr addr' : IPv4Address) (lease : DHCPLease) :
    (s.write addr lease).leased[addr']? = if addr = addr' then some lease else s.leased[addr']? := by
  rw [write, Std.TreeMap.getElem?_insert]
  simp only [Std.compare_eq_iff_eq]

variable {lease : DHCPLease} {packet : DHCPMessage}

theorem getLeaseByMac_some {s : DHCPServer} {mac : MACAddress} {addr : IPv4Address}
    (h : s.getLeaseByMac mac = some (addr, lease)) : s.leased[addr]? = some lease ∧ lease.mac = mac := by
  have hmem := Std.TreeMap.mem_toList_iff_getElem?_eq_some.mp (mem_of_find?_eq_some h)
  have hmac := find?_some h
  exact ⟨hmem, by simpa using hmac⟩

theorem getLeaseByMac_none {s : DHCPServer} {mac : MACAddress} (h : s.getLeaseByMac mac = none)
    (addr : IPv4Address) : ¬ s.Holds addr mac := by
  rintro ⟨lease, hlease, hmac⟩
  have hmem := Std.TreeMap.mem_toList_iff_getElem?_eq_some.mpr hlease
  have hne := find?_eq_none.mp h _ hmem
  exact hne (by simpa using hmac)

/-- The table between two messages. -/
structure Good (ie : InterfaceEntry) (s : DHCPServer) : Prop where
  isOperational : s.isOperational = true
  ie : s.ie = some ie
  lease : ∀ (addr : IPv4Address) (lease : DHCPLease), s.leased[addr]? = some lease →
    lease.ip = addr ∧ lease.leased = true
  pool : ∀ addr mac, s.Holds addr mac → s.InPool addr
  single : ∀ addr addr' mac, s.Holds addr mac → s.Holds addr' mac → addr = addr'

variable {s s' : DHCPServer} {ie : InterfaceEntry} {addr : IPv4Address} {mac : MACAddress}
  {messageType : DHCPMessageType} {allowed : Prop}

theorem Holds.unique {mac' : MACAddress} (h : s.Holds addr mac) (h' : s.Holds addr mac') : mac = mac' := by
  obtain ⟨lease, hlease, rfl⟩ := h
  obtain ⟨lease', hlease', rfl⟩ := h'
  rw [some.inj (hlease.symm.trans hlease')]

/-- What the handling of messages does not change. -/
def parameters (s : DHCPServer) : Bool × Option InterfaceEntry × BitVec 32 × BitVec 32 × IPv4Address × IPv4Address ×
    IPv4Address :=
  (s.isOperational, s.ie, s.maxNumOfClients, s.leaseTime, s.subnetMask, s.gateway, s.ipAddressStart)

/-- The lease of the address is written for the client, and the message for it is sent. -/
structure Gives (s s' : DHCPServer) (messageType : DHCPMessageType) (addr : IPv4Address) (mac : MACAddress) : Prop where
  parameters : s'.parameters = s.parameters
  table : ∃ lease, lease.ip = addr ∧ lease.mac = mac ∧ lease.leased = true ∧
    ∀ addr', s'.leased[addr']? = if addr = addr' then some lease else s.leased[addr']?
  sent : ∃ d, s'.sent = s.sent ++ [d] ∧ d.message.options.messageType = messageType ∧
    d.message.yiaddr = addr ∧ d.message.chaddr = mac

/-- No lease is given: the table stays as it is. -/
structure Refuses (s s' : DHCPServer) : Prop where
  parameters : s'.parameters = s.parameters
  leased : s'.leased = s.leased
  sent : ∃ naks, s'.sent = s.sent ++ naks ∧ ∀ d ∈ naks, d.message.options.messageType = .dhcpNak

theorem Refuses.refl (s : DHCPServer) : s.Refuses s where
  parameters := rfl
  leased := rfl
  sent := ⟨[], (append_nil _).symm, by simp⟩

theorem sendNAK_refuses (s : DHCPServer) (ie : InterfaceEntry) (packet : DHCPMessage) :
    s.Refuses (s.sendNAK ie packet) where
  parameters := rfl
  leased := rfl
  sent := ⟨_, rfl, by simp⟩

theorem sendOffer_gives (s : DHCPServer) (ie : InterfaceEntry) (simTime : Time)
    (hip : lease.ip = addr) (hmac : lease.mac = mac) (hleased : lease.leased = true) :
    s.Gives (s.sendOffer ie simTime addr lease) .dhcpOffer addr mac where
  parameters := rfl
  table := ⟨{ lease with leaseTime := simTime }, hip, hmac, hleased, fun addr' => getElem?_write s addr addr' _⟩
  sent := ⟨_, rfl, rfl, hip, hmac⟩

theorem confirmLease_gives (s : DHCPServer) (ie : InterfaceEntry) (simTime : Time)
    (hip : lease.ip = addr) (packet : DHCPMessage) :
    s.Gives (s.confirmLease ie simTime addr lease packet) .dhcpAck addr lease.mac where
  parameters := rfl
  table := ⟨{ lease with xid := packet.xid, leaseTime := simTime, leased := true }, hip, rfl, rfl,
    fun addr' => getElem?_write s addr addr' _⟩
  sent := ⟨_, rfl, rfl, hip, rfl⟩

/-- A slot that was just written is written once more. -/
theorem Gives.of_write
    (h : (s.write addr lease).Gives s' messageType addr mac) : s.Gives s' messageType addr mac where
  parameters := h.parameters
  table := by
    obtain ⟨lease', hip, hmac, hleased, htable⟩ := h.table
    refine ⟨lease', hip, hmac, hleased, fun addr' => ?_⟩
    rw [htable addr', getElem?_write]
    split <;> rfl
  sent := h.sent

theorem Gives.holds (h : s.Gives s' messageType addr mac) : s'.Holds addr mac := by
  obtain ⟨lease, -, hmac, -, htable⟩ := h.table
  exact ⟨lease, by rw [htable, if_pos rfl], hmac⟩

theorem Gives.holds_iff (h : s.Gives s' messageType addr mac) {addr' : IPv4Address}
    (hne : addr ≠ addr') (mac' : MACAddress) : s'.Holds addr' mac' ↔ s.Holds addr' mac' := by
  obtain ⟨lease, -, -, -, htable⟩ := h.table
  rw [Holds, Holds, htable, if_neg hne]

variable {found : DHCPServer × IPv4Address × DHCPLease}

theorem poolLease_some (left : Nat) (i : BitVec 32)
    (hleased : ∀ (addr : IPv4Address) (lease : DHCPLease), s.leased[addr]? = some lease → lease.leased = true)
    (h : s.poolLease left i = some found) :
    ∃ j < left, ∃ addr, addr = s.ipAddressStart + (i + BitVec.ofNat 32 j) ∧ s.leased[addr]? = none ∧
      found = (s.write addr (s.newLease addr), addr, s.newLease addr) := by
  induction left generalizing i with
  | zero => cases h
  | succ left ih =>
    rw [poolLease] at h
    cases hfind : s.leased[s.ipAddressStart + i]? with
    | none =>
      simp only [hfind, some.injEq] at h
      exact ⟨0, Nat.succ_pos left, s.ipAddressStart + i, by simp, hfind, h.symm⟩
    | some lease =>
      simp only [hfind, hleased _ _ hfind, if_true] at h
      obtain ⟨j, hj, addr, haddr, hnone, hfound⟩ := ih (i + 1) h
      refine ⟨j + 1, Nat.succ_lt_succ hj, addr, ?_, hnone, hfound⟩
      rw [haddr, BitVec.ofNat_add]
      grind

/-- The address that is found for a client without a lease. -/
theorem getAvailableLease_some {requestedAddress : IPv4Address}
    (hleased : ∀ (addr : IPv4Address) (lease : DHCPLease), s.leased[addr]? = some lease → lease.leased = true)
    (h : s.getAvailableLease requestedAddress = some found) :
    ∃ addr, found = (s.write addr (s.newLease addr), addr, s.newLease addr) ∧
      (requestedAddress ≠ 0 ∧ addr = requestedAddress ∨
        requestedAddress = 0 ∧ s.InPool addr ∧ s.leased[addr]? = none) := by
  rw [getAvailableLease] at h
  split at h
  · next hreq =>
    cases hfind : s.leased[requestedAddress]? with
    | none =>
      simp only [hfind, some.injEq] at h
      exact ⟨requestedAddress, h.symm, .inl ⟨hreq, rfl⟩⟩
    | some lease =>
      simp only [hfind, hleased _ _ hfind, Bool.true_eq_false, if_false, some.injEq] at h
      exact ⟨requestedAddress, h.symm, .inl ⟨hreq, rfl⟩⟩
  · next hreq =>
    obtain ⟨j, hj, addr, haddr, hnone, hfound⟩ := poolLease_some _ _ hleased h
    refine ⟨addr, hfound, .inr ⟨not_not.mp hreq, ?_, hnone⟩⟩
    have hdist : addr - s.ipAddressStart = BitVec.ofNat 32 j := by
      grind
    rw [InPool, hdist, BitVec.toNat_ofNat]
    exact Nat.lt_of_le_of_lt (Nat.mod_le _ _) hj

/-- What becomes of a message, and whether it meets the condition. -/
inductive Outcome (s : DHCPServer) (packet : DHCPMessage) (allowed : Prop) (s' : DHCPServer) : Prop where
  | refused (refuses : s.Refuses s') (hallowed : allowed)
  | renewed (addr : IPv4Address) (gives : s.Gives s' .dhcpOffer addr packet.chaddr)
      (holds : s.Holds addr packet.chaddr) (hallowed : allowed)
  | offered (addr : IPv4Address) (gives : s.Gives s' .dhcpOffer addr packet.chaddr)
      (free : ∀ addr, ¬ s.Holds addr packet.chaddr)
      (hallowed : allowed ↔ s.InPool addr ∧ s.leased[addr]? = none)
  | acknowledged (addr : IPv4Address) (mac : MACAddress) (gives : s.Gives s' .dhcpAck addr mac)
      (holds : s.Holds addr mac) (hallowed : allowed ↔ mac = packet.chaddr)

theorem discoverArrived_outcome (h : s.Good ie) (simTime : Time)
    (hallowed : allowed ↔ (s.getLeaseByMac packet.chaddr = none → packet.options.requestedIp ≠ 0 →
      s.InPool packet.options.requestedIp ∧ s.leased[packet.options.requestedIp]? = none)) :
    s.Outcome packet allowed (s.discoverArrived ie simTime packet) := by
  rw [discoverArrived]
  cases hmac : s.getLeaseByMac packet.chaddr with
  | some entry =>
    obtain ⟨addr, lease⟩ := entry
    obtain ⟨hlease, hown⟩ := getLeaseByMac_some hmac
    obtain ⟨hip, hleased⟩ := h.lease addr lease hlease
    have hgives := @sendOffer_gives { lease with xid := packet.xid } addr packet.chaddr s ie simTime hip hown
      hleased
    refine .renewed addr hgives ⟨lease, hlease, hown⟩ (hallowed.mpr fun hnone => ?_)
    rw [hmac] at hnone
    cases hnone
  | none =>
    cases hfound : s.getAvailableLease packet.options.requestedIp with
    | none =>
      refine .refused (.refl s) (hallowed.mpr fun _ hreq => ?_)
      -- an address that is asked for is always given
      rw [getAvailableLease, if_pos hreq] at hfound
      split at hfound
      · split at hfound <;> cases hfound
      · cases hfound
    | some found =>
      obtain ⟨addr, rfl, hwhich⟩ := getAvailableLease_some (fun addr lease hlease => (h.lease addr lease hlease).2) hfound
      have hgives := @sendOffer_gives
        { s.newLease addr with mac := packet.chaddr, xid := packet.xid, leased := true } addr packet.chaddr
        (s.write addr (s.newLease addr)) ie simTime rfl rfl rfl
      refine .offered addr hgives.of_write (getLeaseByMac_none hmac) ?_
      rw [hallowed]
      cases hwhich with
      | inl hasked =>
        obtain ⟨hreq, rfl⟩ := hasked
        exact ⟨fun hall => hall hmac hreq, fun hfree _ _ => hfree⟩
      | inr hpool =>
        obtain ⟨hreq, hfree⟩ := hpool
        exact ⟨fun _ => hfree, fun _ _ hne => absurd hreq hne⟩

theorem confirmLease_outcome (h : s.Good ie) (simTime : Time)
    (hlease : s.leased[addr]? = some lease) (hallowed : allowed ↔ lease.mac = packet.chaddr) :
    s.Outcome packet allowed (s.confirmLease ie simTime addr lease packet) :=
  .acknowledged addr lease.mac (confirmLease_gives s ie simTime (h.lease addr lease hlease).1 packet)
    ⟨lease, hlease, rfl⟩ hallowed

theorem requestArrived_outcome (h : s.Good ie) (simTime : Time)
    (hallowed : allowed ↔ (packet.options.serverIdentifier ≠ ie.ipAddress →
      if packet.ciaddr = 0 then ∀ lease, s.leased[packet.options.requestedIp]? = some lease →
        maskedAddrAreEqual packet.options.requestedIp lease.ip s.subnetMask → lease.mac = packet.chaddr
      else ∀ lease, s.leased[packet.ciaddr]? = some lease → lease.mac = packet.chaddr)) :
    s.Outcome packet allowed (s.requestArrived ie simTime packet) := by
  have hnak (hyp : allowed) : s.Outcome packet allowed (s.sendNAK ie packet) :=
    .refused (sendNAK_refuses s ie packet) hyp
  rw [requestArrived]
  by_cases hserver : packet.options.serverIdentifier = ie.ipAddress
  · have hall : allowed := hallowed.mpr fun hne => absurd hserver hne
    rw [if_pos hserver]
    cases hmac : s.getLeaseByMac packet.chaddr with
    | none => exact hnak hall
    | some entry =>
      obtain ⟨hlease, hown⟩ := getLeaseByMac_some hmac
      simp only
      split
      · exact hnak hall
      · exact confirmLease_outcome h simTime hlease ⟨fun _ => hown, fun _ => hall⟩
  · rw [if_neg hserver]
    by_cases hciaddr : packet.ciaddr = 0
    · simp only [hserver, hciaddr, ne_eq, not_false_eq_true, true_implies, if_true] at hallowed
      rw [if_pos hciaddr]
      cases hlease : s.leased[packet.options.requestedIp]? with
      | none => exact .refused (.refl s) (hallowed.mpr (by simp [hlease]))
      | some lease =>
        simp only
        split
        · next hnet =>
          refine confirmLease_outcome h simTime hlease (hallowed.trans ⟨fun hall => hall lease hlease hnet, ?_⟩)
          intro hown lease' hlease' _
          rw [hlease] at hlease'
          cases hlease'
          exact hown
        · next hnet =>
          refine hnak (hallowed.mpr fun lease' hlease' hnet' => ?_)
          rw [hlease] at hlease'
          cases hlease'
          exact absurd hnet' hnet
    · simp only [hserver, hciaddr, ne_eq, not_false_eq_true, true_implies, if_false] at hallowed
      rw [if_neg hciaddr]
      cases hlease : s.leased[packet.ciaddr]? with
      | none => exact hnak (hallowed.mpr (by simp [hlease]))
      | some lease =>
        refine confirmLease_outcome h simTime hlease (hallowed.trans ⟨fun hall => hall lease hlease, ?_⟩)
        intro hown lease' hlease'
        rw [hlease] at hlease'
        cases hlease'
        exact hown

theorem Outcome.received (h : s.Outcome packet allowed s') (n : Nat) :
    s.Outcome packet allowed { s' with numReceived := n } := by
  cases h with
  | refused refuses hall => exact .refused ⟨refuses.parameters, refuses.leased, refuses.sent⟩ hall
  | renewed addr gives holds hall => exact .renewed addr ⟨gives.parameters, gives.table, gives.sent⟩ holds hall
  | offered addr gives free hall => exact .offered addr ⟨gives.parameters, gives.table, gives.sent⟩ free hall
  | acknowledged addr mac gives holds hall =>
    exact .acknowledged addr mac ⟨gives.parameters, gives.table, gives.sent⟩ holds hall

theorem bootRequestArrived_outcome (h : s.Good ie) (simTime : Time) (packet : DHCPMessage) :
    s.Outcome packet (s.AllowedOn ie packet) (s.bootRequestArrived ie simTime packet) := by
  cases hop : packet.op with
  | bootReply =>
    rw [bootRequestArrived, AllowedOn, hop]
    exact .refused (.refl s) trivial
  | bootRequest =>
    cases htype : packet.options.messageType with
    | dhcpDiscover =>
      rw [bootRequestArrived, AllowedOn, hop, htype]
      exact discoverArrived_outcome h simTime Iff.rfl
    | dhcpRequest =>
      rw [bootRequestArrived, AllowedOn, hop, htype]
      exact requestArrived_outcome h simTime Iff.rfl
    | _ =>
      rw [bootRequestArrived, AllowedOn, hop, htype]
      exact .refused (.refl s) trivial

/-- A message is handled without an error. -/
theorem receive_outcome (h : s.Good ie) (a : Arrival) :
    ∃ s', s.receive a = .ok s' ∧ s.Outcome a.packet (s.Allowed a) s' := by
  have hallowed : s.Allowed a ↔ (a.inputInterfaceId = ie.interfaceId → s.AllowedOn ie a.packet) := by
    rw [Allowed, h.ie]
    simp
  have hstart : s.isOperational = true ∧ s.ie.isSome := ⟨h.isOperational, by rw [h.ie]; rfl⟩
  rw [receive, processDHCPMessage, ensure_pos hstart]
  simp only [h.ie, bind, Except.bind]
  by_cases hinterface : a.inputInterfaceId = ie.interfaceId
  · rw [if_neg (not_not.mpr hinterface)]
    have hon : s.Allowed a = s.AllowedOn ie a.packet := propext (hallowed.trans (by simp [hinterface]))
    rw [hon]
    exact ⟨_, rfl, (bootRequestArrived_outcome h a.simTime a.packet).received _⟩
  · rw [if_pos hinterface]
    exact ⟨s, rfl, .refused (.refl s) (hallowed.mpr fun heq => absurd heq hinterface)⟩

end DHCPServer

namespace Exchange

variable {e : Exchange} {addr : IPv4Address} {mac : MACAddress} {messageType : DHCPMessageType}

/-- No grant goes against a lease that the table had before. -/
def NoConflict (e : Exchange) : Prop :=
  ∀ addr mac mac', e.before.Holds addr mac → e.Grants addr mac' → mac = mac'

theorem not_grants_of_refuses (h : e.before.Refuses e.after) (addr : IPv4Address) (mac : MACAddress) :
    ¬ e.Grants addr mac := by
  rintro ⟨d, hd, htype, -, -⟩
  obtain ⟨naks, hsent, hnaks⟩ := h.sent
  rw [answers, hsent, drop_left] at hd
  have hnak := hnaks d hd
  rw [hnak] at htype
  cases htype with
  | inl h => cases h
  | inr h => cases h

/-- The one answer where a lease is given. -/
theorem answers_of_gives (h : e.before.Gives e.after messageType addr mac) :
    ∃ d, e.answers = [d] ∧ d.message.options.messageType = messageType ∧ d.message.yiaddr = addr ∧
      d.message.chaddr = mac := by
  obtain ⟨d, hsent, hd⟩ := h.sent
  exact ⟨d, by rw [answers, hsent, drop_left], hd⟩

theorem grants_iff_of_gives (h : e.before.Gives e.after messageType addr mac)
    (htype : messageType = .dhcpOffer ∨ messageType = .dhcpAck) (addr' : IPv4Address) (mac' : MACAddress) :
    e.Grants addr' mac' ↔ addr = addr' ∧ mac = mac' := by
  obtain ⟨d, hanswers, hd, haddr, hmac⟩ := answers_of_gives h
  rw [Grants, hanswers]
  simp [hd, haddr, hmac, htype]

/-- A message that is refused asks for nothing. -/
theorem meets_of_refuses (h : e.before.Refuses e.after)
    (hsingle : ∀ addr addr' mac, e.before.Holds addr mac → e.before.Holds addr' mac → addr = addr') : e.Meets where
  offered d hd htype := absurd ⟨d, hd, .inl htype, rfl, rfl⟩ (not_grants_of_refuses h _ _)
  single := by
    intro addr addr' mac hholds hholds'
    rw [DHCPServer.Holds, h.leased] at hholds hholds'
    exact hsingle addr addr' mac hholds hholds'
  owner d hd htype := absurd ⟨d, hd, .inr htype, rfl, rfl⟩ (not_grants_of_refuses h _ _)
  refused _ := h.leased

/-- What is required where a lease is given. -/
theorem meets_iff_of_gives (h : e.before.Gives e.after messageType addr mac)
    (htype : messageType = .dhcpOffer ∨ messageType = .dhcpAck)
    (hsingle : ∀ addr addr' mac, e.after.Holds addr mac → e.after.Holds addr' mac → addr = addr') :
    e.Meets ↔ (messageType = .dhcpOffer → e.before.InPool addr) ∧
      (messageType = .dhcpAck → e.before.Holds addr e.arrival.packet.chaddr) := by
  obtain ⟨d, hanswers, hd, haddr, -⟩ := answers_of_gives h
  constructor
  · intro hmeets
    have hin : d ∈ e.answers := by rw [hanswers]; exact mem_singleton.mpr rfl
    constructor
    · intro hoffer
      rw [← haddr]
      exact hmeets.offered d hin (hd.trans hoffer)
    · intro hack
      rw [← haddr]
      exact hmeets.owner d hin (hd.trans hack)
  · rintro ⟨hpool, howner⟩
    constructor
    · intro d' hd' htype'
      rw [hanswers, mem_singleton] at hd'
      subst hd'
      rw [haddr]
      exact hpool (hd.symm.trans htype')
    · exact hsingle
    · intro d' hd' htype'
      rw [hanswers, mem_singleton] at hd'
      subst hd'
      rw [haddr]
      exact howner (hd.symm.trans htype')
    · intro hnone
      exact absurd ((grants_iff_of_gives h htype addr mac).mpr ⟨rfl, rfl⟩) (hnone addr mac)

theorem noConflict_iff_of_gives (h : e.before.Gives e.after messageType addr mac)
    (htype : messageType = .dhcpOffer ∨ messageType = .dhcpAck) :
    e.NoConflict ↔ ∀ mac', e.before.Holds addr mac' → mac' = mac := by
  constructor
  · intro hno mac' hholds
    exact hno addr mac' mac hholds ((grants_iff_of_gives h htype addr mac).mpr ⟨rfl, rfl⟩)
  · intro hown addr' mac' mac'' hholds hgrants
    obtain ⟨rfl, rfl⟩ := (grants_iff_of_gives h htype addr' mac'').mp hgrants
    exact hown mac' hholds

end Exchange

namespace DHCPServer

variable {s s' : DHCPServer} {ie : InterfaceEntry} {addr : IPv4Address} {mac : MACAddress}
  {messageType : DHCPMessageType}

theorem inPool_iff (h : s'.parameters = s.parameters) (addr : IPv4Address) : s'.InPool addr ↔ s.InPool addr := by
  simp only [parameters, Prod.mk.injEq] at h
  obtain ⟨-, -, hmax, -, -, -, hstart⟩ := h
  rw [InPool, InPool, hmax, hstart]

/-- A client that gets a lease had this one or none. -/
theorem Gives.single (h : s.Gives s' messageType addr mac)
    (hsingle : ∀ addr addr' mac, s.Holds addr mac → s.Holds addr' mac → addr = addr')
    (hown : ∀ addr', s.Holds addr' mac → addr' = addr) :
    ∀ addr addr' mac, s'.Holds addr mac → s'.Holds addr' mac → addr = addr' := by
  have hother {addr' : IPv4Address} (hholds : s'.Holds addr' mac) : addr' = addr := by
    by_contra hne
    exact hne (hown addr' ((h.holds_iff (Ne.symm hne) mac).mp hholds))
  intro addr₁ addr₂ mac' hholds₁ hholds₂
  by_cases hfirst : addr = addr₁
  · subst hfirst
    obtain rfl := h.holds.unique hholds₁
    exact (hother hholds₂).symm
  · by_cases hsecond : addr = addr₂
    · subst hsecond
      obtain rfl := h.holds.unique hholds₂
      exact hother hholds₁
    · exact hsingle addr₁ addr₂ mac' ((h.holds_iff hfirst mac').mp hholds₁) ((h.holds_iff hsecond mac').mp hholds₂)

theorem Gives.good (h : s.Gives s' messageType addr mac) (hs : s.Good ie)
    (hown : ∀ addr', s.Holds addr' mac → addr' = addr) (hpool : s.InPool addr) : s'.Good ie := by
  have hparams := h.parameters
  simp only [DHCPServer.parameters, Prod.mk.injEq] at hparams
  obtain ⟨lease, hip, -, hleased, htable⟩ := h.table
  constructor
  · exact hparams.1.trans hs.isOperational
  · exact hparams.2.1.trans hs.ie
  · intro addr' lease' hlease'
    rw [htable] at hlease'
    split at hlease'
    · next heq =>
      cases hlease'
      exact ⟨hip.trans heq, hleased⟩
    · exact hs.lease addr' lease' hlease'
  · intro addr' mac' hholds
    rw [inPool_iff h.parameters]
    by_cases heq : addr = addr'
    · exact heq ▸ hpool
    · exact hs.pool addr' mac' ((h.holds_iff heq mac').mp hholds)
  · exact h.single hs.single hown

theorem Refuses.good (h : s.Refuses s') (hs : s.Good ie) : s'.Good ie := by
  have hparams := h.parameters
  simp only [DHCPServer.parameters, Prod.mk.injEq] at hparams
  have hholds (addr : IPv4Address) (mac : MACAddress) : s'.Holds addr mac ↔ s.Holds addr mac := by
    rw [Holds, Holds, h.leased]
  constructor
  · exact hparams.1.trans hs.isOperational
  · exact hparams.2.1.trans hs.ie
  · rw [h.leased]
    exact hs.lease
  · intro addr mac hmac
    rw [inPool_iff h.parameters]
    exact hs.pool addr mac ((hholds addr mac).mp hmac)
  · intro addr addr' mac hmac hmac'
    exact hs.single addr addr' mac ((hholds addr mac).mp hmac) ((hholds addr' mac).mp hmac')

end DHCPServer

namespace Exchange

variable {e : Exchange} {ie : InterfaceEntry} {allowed : Prop}

/-- One message meets all that is required of it exactly where the condition holds. -/
theorem meets_iff (hs : e.before.Good ie) (h : e.before.Outcome e.arrival.packet allowed e.after) :
    e.Meets ∧ e.NoConflict ↔ allowed := by
  cases h with
  | refused refuses hall =>
    refine ⟨fun _ => hall, fun _ => ⟨meets_of_refuses refuses hs.single, ?_⟩⟩
    intro addr mac mac' _ hgrants
    exact absurd hgrants (not_grants_of_refuses refuses addr mac')
  | renewed addr gives holds hall =>
    have hown (addr' : IPv4Address) (h' : e.before.Holds addr' e.arrival.packet.chaddr) : addr' = addr :=
      hs.single addr' addr _ h' holds
    rw [meets_iff_of_gives gives (.inl rfl) (gives.single hs.single hown),
      noConflict_iff_of_gives gives (.inl rfl)]
    refine ⟨fun _ => hall, fun _ => ⟨⟨fun _ => hs.pool addr _ holds, fun hack => by cases hack⟩, ?_⟩⟩
    intro mac' hmac'
    exact hmac'.unique holds
  | offered addr gives free hall =>
    have hown (addr' : IPv4Address) (h' : e.before.Holds addr' e.arrival.packet.chaddr) : addr' = addr :=
      absurd h' (free addr')
    rw [meets_iff_of_gives gives (.inl rfl) (gives.single hs.single hown),
      noConflict_iff_of_gives gives (.inl rfl), hall]
    constructor
    · rintro ⟨⟨hpool, -⟩, hno⟩
      refine ⟨hpool rfl, ?_⟩
      cases hlease : e.before.leased[addr]? with
      | none => rfl
      | some lease =>
        have hholds : e.before.Holds addr lease.mac := ⟨lease, hlease, rfl⟩
        rw [hno lease.mac hholds] at hholds
        exact absurd hholds (free addr)
    · rintro ⟨hpool, hnone⟩
      refine ⟨⟨fun _ => hpool, fun hack => by cases hack⟩, ?_⟩
      rintro mac' ⟨lease, hlease, -⟩
      rw [hnone] at hlease
      cases hlease
  | acknowledged addr mac gives holds hall =>
    have hown (addr' : IPv4Address) (h' : e.before.Holds addr' mac) : addr' = addr :=
      hs.single addr' addr _ h' holds
    rw [meets_iff_of_gives gives (.inr rfl) (gives.single hs.single hown),
      noConflict_iff_of_gives gives (.inr rfl), hall]
    constructor
    · rintro ⟨⟨-, howner⟩, -⟩
      exact holds.unique (howner rfl)
    · rintro rfl
      exact ⟨⟨fun hoffer => (by cases hoffer), fun _ => holds⟩, fun mac' hmac' => hmac'.unique holds⟩

/-- Where the condition holds, the table has what it had before and what was granted. -/
theorem good_of_allowed (hs : e.before.Good ie) (h : e.before.Outcome e.arrival.packet allowed e.after)
    (hallowed : allowed) : e.after.Good ie ∧
      ∀ addr mac, e.after.Holds addr mac ↔ e.before.Holds addr mac ∨ e.Grants addr mac := by
  obtain ⟨-, hno⟩ := (meets_iff hs h).mpr hallowed
  have hholds {messageType : DHCPMessageType} {addr : IPv4Address} {mac : MACAddress}
      (gives : e.before.Gives e.after messageType addr mac)
      (htype : messageType = .dhcpOffer ∨ messageType = .dhcpAck) (addr' : IPv4Address) (mac' : MACAddress) :
      e.after.Holds addr' mac' ↔ e.before.Holds addr' mac' ∨ e.Grants addr' mac' := by
    rw [grants_iff_of_gives gives htype]
    by_cases heq : addr = addr'
    · subst heq
      constructor
      · intro hafter
        exact .inr ⟨rfl, gives.holds.unique hafter⟩
      · rintro (hbefore | ⟨-, rfl⟩)
        · rw [(noConflict_iff_of_gives gives htype).mp hno mac' hbefore]
          exact gives.holds
        · exact gives.holds
    · rw [gives.holds_iff heq]
      simp [heq]
  cases h with
  | refused refuses _ =>
    refine ⟨refuses.good hs, fun addr mac => ?_⟩
    rw [DHCPServer.Holds, DHCPServer.Holds, refuses.leased]
    simp [not_grants_of_refuses refuses addr mac]
  | renewed addr gives holds _ =>
    exact ⟨gives.good hs (fun addr' h' => hs.single addr' addr _ h' holds) (hs.pool addr _ holds),
      hholds gives (.inl rfl)⟩
  | offered addr gives free hall =>
    exact ⟨gives.good hs (fun addr' h' => absurd h' (free addr')) (hall.mp hallowed).1, hholds gives (.inl rfl)⟩
  | acknowledged addr mac gives holds _ =>
    exact ⟨gives.good hs (fun addr' h' => hs.single addr' addr _ h' holds) (hs.pool addr _ holds),
      hholds gives (.inr rfl)⟩

end Exchange

namespace DHCPServer

variable {s : DHCPServer} {ie : InterfaceEntry}

/-- A run is safe, and goes against no lease of the table at its start, exactly where all its messages
meet the condition. -/
theorem Good.safe_iff (hs : s.Good ie) (arrivals : List Arrival) :
    Safe (s.history arrivals) ∧ (∀ e ∈ s.history arrivals, ∀ addr mac mac',
      s.Holds addr mac → e.Grants addr mac' → mac = mac') ↔ s.AllAllowed arrivals := by
  induction arrivals generalizing s with
  | nil =>
    refine ⟨fun _ => trivial, fun _ => ⟨⟨?_, ?_⟩, ?_⟩⟩ <;> simp [history]
  | cons a arrivals ih =>
    obtain ⟨s', hreceive, houtcome⟩ := receive_outcome hs a
    let e : Exchange := ⟨s, a, s'⟩
    have hmeets := Exchange.meets_iff (e := e) hs houtcome
    have hgood := Exchange.good_of_allowed (e := e) hs houtcome
    have hhistory : s.history (a :: arrivals) = e :: s'.history arrivals := by
      rw [history, hreceive]
    have hall : s.AllAllowed (a :: arrivals) ↔ s.Allowed a ∧ s'.AllAllowed arrivals := by
      rw [AllAllowed, hreceive]
      simp
    rw [hhistory, hall]
    constructor
    · rintro ⟨⟨hsafe, hexclusive⟩, hconflict⟩
      have hallowed : s.Allowed a := hmeets.mp
        ⟨hsafe e mem_cons_self, hconflict e mem_cons_self⟩
      obtain ⟨hs', hholds⟩ := hgood hallowed
      refine ⟨hallowed, (ih hs').mp ⟨⟨fun e' he' => hsafe e' (mem_cons_of_mem e he'), ?_⟩, ?_⟩⟩
      · intro e₁ he₁ e₂ he₂
        exact hexclusive e₁ (mem_cons_of_mem e he₁) e₂ (mem_cons_of_mem e he₂)
      · intro e' he' addr mac mac' hmac hgrants
        cases (hholds addr mac).mp hmac with
        | inl hbefore => exact hconflict e' (mem_cons_of_mem e he') addr mac mac' hbefore hgrants
        | inr hgranted =>
          exact hexclusive e mem_cons_self e' (mem_cons_of_mem e he') addr mac mac' hgranted hgrants
    · rintro ⟨hallowed, hrest⟩
      obtain ⟨hmeet, hno⟩ := hmeets.mpr hallowed
      obtain ⟨hs', hholds⟩ := hgood hallowed
      obtain ⟨⟨hsafe, hexclusive⟩, hconflict⟩ := (ih hs').mpr hrest
      -- what the first message grants, the table has afterwards
      have hlater (e' : Exchange) (he' : e' ∈ s'.history arrivals) (addr : IPv4Address) (mac mac' : MACAddress)
          (hgrants : e.Grants addr mac) (hgrants' : e'.Grants addr mac') : mac = mac' :=
        hconflict e' he' addr mac mac' ((hholds addr mac).mpr (.inr hgrants)) hgrants'
      refine ⟨⟨?_, ?_⟩, ?_⟩
      · intro e' he'
        cases mem_cons.mp he' with
        | inl heq => exact heq ▸ hmeet
        | inr hin => exact hsafe e' hin
      · intro e₁ he₁ e₂ he₂ addr mac mac' hgrants hgrants'
        cases mem_cons.mp he₁ with
        | inl heq₁ =>
          subst heq₁
          cases mem_cons.mp he₂ with
          | inl heq₂ =>
            subst heq₂
            exact ((hholds addr mac).mpr (.inr hgrants)).unique ((hholds addr mac').mpr (.inr hgrants'))
          | inr hin₂ => exact hlater e₂ hin₂ addr mac mac' hgrants hgrants'
        | inr hin₁ =>
          cases mem_cons.mp he₂ with
          | inl heq₂ =>
            subst heq₂
            exact (hlater e₁ hin₁ addr mac' mac hgrants' hgrants).symm
          | inr hin₂ => exact hexclusive e₁ hin₁ e₂ hin₂ addr mac mac' hgrants hgrants'
      · intro e' he' addr mac mac' hmac hgrants
        cases mem_cons.mp he' with
        | inl heq =>
          subst heq
          exact hno addr mac mac' hmac hgrants
        | inr hin => exact hconflict e' hin addr mac mac' ((hholds addr mac).mpr (.inl hmac)) hgrants

/-- A run of the server from its start is safe exactly where all its messages meet the condition. -/
theorem started_safe_iff (ie : InterfaceEntry) (maxNumOfClients leaseTime : BitVec 32)
    (subnetMask gateway ipAddressStart : IPv4Address) (arrivals : List Arrival) :
    Safe ((started ie maxNumOfClients leaseTime subnetMask gateway ipAddressStart).history arrivals) ↔
      (started ie maxNumOfClients leaseTime subnetMask gateway ipAddressStart).AllAllowed arrivals := by
  have hempty (addr : IPv4Address) (mac : MACAddress) :
      ¬ (started ie maxNumOfClients leaseTime subnetMask gateway ipAddressStart).Holds addr mac := by
    rintro ⟨lease, hlease, -⟩
    cases hlease
  have hgood : (started ie maxNumOfClients leaseTime subnetMask gateway ipAddressStart).Good ie := by
    constructor
    · rfl
    · rfl
    · intro addr lease hlease
      cases hlease
    · intro addr mac hmac
      exact absurd hmac (hempty addr mac)
    · intro addr addr' mac hmac
      exact absurd hmac (hempty addr mac)
  rw [← hgood.safe_iff]
  constructor
  · intro hsafe
    exact ⟨hsafe, fun e _ addr mac mac' hmac => absurd hmac (hempty addr mac)⟩
  · intro h
    exact h.1

/-- A server with a pool of ten addresses. -/
def tenAddresses : DHCPServer := started ⟨0, 0x0A000001⟩ 10 3600 0xFFFFFF00 0x0A000001 0x0A000002

def discover (chaddr : MACAddress) (requestedIp : IPv4Address) : Arrival :=
  ⟨0, 0, { op := .bootRequest, xid := 1, chaddr := chaddr,
           options := { messageType := .dhcpDiscover, requestedIp := requestedIp } }⟩

/-- The second client asks for the address of the first. -/
theorem offered_twice : ∃ e e', tenAddresses.history [discover 1 0, discover 2 0x0A000002] = [e, e'] ∧
    e.Grants 0x0A000002 1 ∧ e'.Grants 0x0A000002 2 ∧
    ¬ Safe (tenAddresses.history [discover 1 0, discover 2 0x0A000002]) := by
  refine ⟨_, _, rfl, ⟨_, List.mem_singleton.mpr rfl, .inl rfl, rfl, rfl⟩,
    ⟨_, List.mem_singleton.mpr rfl, .inl rfl, rfl, rfl⟩, ?_⟩
  intro hsafe
  have heq := hsafe.exclusive _ List.mem_cons_self _ (List.mem_cons_of_mem _ List.mem_cons_self) 0x0A000002 1 2
    ⟨_, List.mem_singleton.mpr rfl, .inl rfl, rfl, rfl⟩ ⟨_, List.mem_singleton.mpr rfl, .inl rfl, rfl, rfl⟩
  exact absurd heq (by decide)

end DHCPServer

end Inet.Dhcp
