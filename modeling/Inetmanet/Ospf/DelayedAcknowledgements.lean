import Inetmanet.Ospf.OSPFArea

/-!
# Delayed acknowledgements

`OSPFInterface.cc`. Where the packets go is decided when they are sent.
-/
namespace Inet.Ospf

open Ipv4 List

def IP_MAX_HEADER_BYTES : Nat := 60
def OSPF_HEADER_LENGTH : Nat := 24
def OSPF_LSA_HEADER_LENGTH : Nat := 20
def IPV4_DATAGRAM_LENGTH : Nat := 65536
def VIRTUAL_LINK_TTL : Nat := 32

def ALL_OSPF_ROUTERS_MCAST : IPv4Address := 0xE0000005
def ALL_OSPF_DESIGNATED_ROUTERS_MCAST : IPv4Address := 0xE0000006

inductive AuthenticationType where
  | NULL_TYPE | SIMPLE_PASSWORD_TYPE | CRYTOGRAPHIC_TYPE
  deriving DecidableEq, Repr

structure DesignatedRouterID where
  routerID : RouterID
  ipInterfaceAddress : IPv4Address
  deriving DecidableEq, Repr

structure OSPFLinkStateAcknowledgementPacket where
  routerID : RouterID
  areaID : IPv4Address
  authenticationType : AuthenticationType
  authentication : BitVec 64
  lsaHeaders : List OSPFLSAHeader
  byteLength : Nat
  deriving DecidableEq, Repr

/-- What `sendPacket` is given. -/
structure SentAcknowledgement where
  packet : OSPFLinkStateAcknowledgementPacket
  destination : IPv4Address
  outputIfIndex : Int
  ttl : Nat
  deriving DecidableEq, Repr

structure AcknowledgingInterface where
  interfaceType : OSPFInterfaceType
  state : InterfaceStateType
  ifIndex : Int
  mtu : BitVec 16
  areaID : IPv4Address
  authenticationType : AuthenticationType
  authenticationKey : BitVec 64
  designatedRouter : DesignatedRouterID
  /-- the router ID of the router around the interface -/
  routerID : RouterID
  acknowledgementDelay : Nat
  /-- the entries of the map, in the order of their keys -/
  delayedAcknowledgements : List (IPv4Address × List OSPFLSAHeader)
  simTime : Nat
  acknowledgementTimer : Option Nat
  deriving DecidableEq, Repr

namespace AcknowledgingInterface

variable (intf : AcknowledgingInterface)

def maxPacketSize : Nat :=
  if intf.mtu.toNat < IP_MAX_HEADER_BYTES + OSPF_HEADER_LENGTH + OSPF_LSA_HEADER_LENGTH then IPV4_DATAGRAM_LENGTH
  else intf.mtu.toNat

/-- Where acknowledgements go that wait for this address. -/
def destination (queuedFor : IPv4Address) : IPv4Address :=
  if intf.interfaceType = .BROADCAST then
    if intf.state = .DESIGNATED_ROUTER_STATE ∨ intf.state = .BACKUP_STATE ∨ intf.designatedRouter = ⟨0, 0⟩ then
      ALL_OSPF_ROUTERS_MCAST
    else ALL_OSPF_DESIGNATED_ROUTERS_MCAST
  else if intf.interfaceType = .POINTTOPOINT then ALL_OSPF_ROUTERS_MCAST
  else queuedFor

/-- The inner loop: the headers for a packet, its size with them, and what stays in the list. -/
def fill (packetSize : Nat) : List OSPFLSAHeader → List OSPFLSAHeader × Nat × List OSPFLSAHeader
  | [] => ([], packetSize, [])
  | lsaHeader :: pending =>
    if packetSize ≤ intf.maxPacketSize - OSPF_LSA_HEADER_LENGTH then
      let (lsaHeaders, size, rest) := fill (packetSize + OSPF_LSA_HEADER_LENGTH) pending
      (lsaHeader :: lsaHeaders, size, rest)
    else ([], packetSize, lsaHeader :: pending)

/-- The loop that empties a list. -/
def acknowledge (queuedFor : IPv4Address) : Nat → List OSPFLSAHeader → Option (List SentAcknowledgement)
  | _, [] => some []
  | 0, _ :: _ => none
  | fuel + 1, pending =>
    let (lsaHeaders, packetSize, rest) := intf.fill (IP_MAX_HEADER_BYTES + OSPF_HEADER_LENGTH) pending
    let ackPacket : OSPFLinkStateAcknowledgementPacket := {
      routerID := intf.routerID
      areaID := intf.areaID
      authenticationType := intf.authenticationType
      authentication := intf.authenticationKey
      lsaHeaders := lsaHeaders
      byteLength := packetSize - IP_MAX_HEADER_BYTES }
    let ttl := if intf.interfaceType = .VIRTUAL then VIRTUAL_LINK_TTL else 1
    (acknowledge queuedFor fuel rest).map (⟨ackPacket, intf.destination queuedFor, intf.ifIndex, ttl⟩ :: ·)

/-- The loop over the lists. -/
def acknowledgeAll (fuel : Nat) : List (IPv4Address × List OSPFLSAHeader) → Option (List SentAcknowledgement)
  | [] => some []
  | (queuedFor, pending) :: l => do
    let sent ← intf.acknowledge queuedFor fuel pending
    let others ← acknowledgeAll fuel l
    return sent ++ others

def sendDelayedAcknowledgements (fuel : Nat) : Option (AcknowledgingInterface × List SentAcknowledgement) := do
  let sent ← intf.acknowledgeAll fuel intf.delayedAcknowledgements
  return ({ intf with
    delayedAcknowledgements := intf.delayedAcknowledgements.map fun x => (x.1, [])
    acknowledgementTimer := some (intf.simTime + intf.acknowledgementDelay) }, sent)

/-- All pending headers are acknowledged, each once and to its destination, in packets that are not too long. -/
structure Acknowledged (destination : IPv4Address → IPv4Address) (l : List (IPv4Address × List OSPFLSAHeader))
    (sent : List SentAcknowledgement) : Prop where
  once : sent.flatMap (fun s => s.packet.lsaHeaders.map (s.destination, ·)) =
    l.flatMap fun x => x.2.map (destination x.1, ·)
  fits : ∀ s ∈ sent, IP_MAX_HEADER_BYTES + s.packet.byteLength ≤ intf.maxPacketSize

/-- The function comes to its end and leaves nothing behind. -/
def Completes (destination : IPv4Address → IPv4Address) : Prop :=
  ∃ fuel, ∀ k ≥ fuel, ∃ intf' sent, intf.sendDelayedAcknowledgements k = some (intf', sent) ∧
    intf.Acknowledged destination intf.delayedAcknowledgements sent ∧ ∀ x ∈ intf'.delayedAcknowledgements, x.2 = []

variable {intf} {pending : List OSPFLSAHeader} {packetSize fuel : Nat}

theorem minimum_le (intf : AcknowledgingInterface) :
    IP_MAX_HEADER_BYTES + OSPF_HEADER_LENGTH + OSPF_LSA_HEADER_LENGTH ≤ intf.maxPacketSize := by
  unfold maxPacketSize IP_MAX_HEADER_BYTES OSPF_HEADER_LENGTH OSPF_LSA_HEADER_LENGTH IPV4_DATAGRAM_LENGTH
  split_ifs <;> omega

theorem fill_spec (pending : List OSPFLSAHeader) (h : packetSize ≤ intf.maxPacketSize) :
    (intf.fill packetSize pending).1 ++ (intf.fill packetSize pending).2.2 = pending ∧
      (intf.fill packetSize pending).2.1 ≤ intf.maxPacketSize ∧ packetSize ≤ (intf.fill packetSize pending).2.1 := by
  have hmin := intf.minimum_le
  induction pending generalizing packetSize with
  | nil => exact ⟨rfl, h, Nat.le_refl _⟩
  | cons lsaHeader pending ih =>
    rw [fill]
    split_ifs with hroom
    · obtain ⟨happend, hle, hge⟩ := ih (show packetSize + OSPF_LSA_HEADER_LENGTH ≤ intf.maxPacketSize by omega)
      exact ⟨congrArg (lsaHeader :: ·) happend, hle, Nat.le_trans (Nat.le_add_right _ _) hge⟩
    · exact ⟨rfl, h, Nat.le_refl _⟩

/-- A packet takes at least one header. -/
theorem acknowledge_spec (queuedFor : IPv4Address) (h : pending.length ≤ fuel) :
    ∃ sent, intf.acknowledge queuedFor fuel pending = some sent ∧
      intf.Acknowledged intf.destination [(queuedFor, pending)] sent := by
  induction fuel generalizing pending with
  | zero =>
    obtain rfl := length_eq_zero_iff.mp (Nat.le_zero.mp h)
    exact ⟨[], rfl, rfl, nofun⟩
  | succ fuel ih =>
    cases pending with
    | nil => exact ⟨[], rfl, rfl, nofun⟩
    | cons lsaHeader pending =>
      have hmin := intf.minimum_le
      obtain ⟨happend, hle, hge⟩ := intf.fill_spec (lsaHeader :: pending)
        (show IP_MAX_HEADER_BYTES + OSPF_HEADER_LENGTH ≤ intf.maxPacketSize by omega)
      have hfirst : ∃ l, (intf.fill (IP_MAX_HEADER_BYTES + OSPF_HEADER_LENGTH) (lsaHeader :: pending)).1 =
          lsaHeader :: l := by
        rw [fill, if_pos (by omega)]
        exact ⟨_, rfl⟩
      unfold acknowledge
      generalize intf.fill (IP_MAX_HEADER_BYTES + OSPF_HEADER_LENGTH) (lsaHeader :: pending) = filled at *
      obtain ⟨lsaHeaders, size, rest⟩ := filled
      dsimp only at *
      obtain ⟨l, rfl⟩ := hfirst
      have hlength := congrArg length happend
      simp only [cons_append, length_cons, length_append] at hlength h
      obtain ⟨sent, hsent, hrest⟩ := ih (show rest.length ≤ fuel by omega)
      refine ⟨_, congrArg (Option.map _) hsent, ⟨?_, ?_⟩⟩
      · rw [flatMap_cons, hrest.once, ← happend]
        simp
      · intro s hs
        cases mem_cons.mp hs with
        | inl hs =>
          subst hs
          dsimp only
          omega
        | inr hs => exact hrest.fits s hs

theorem acknowledgeAll_spec {l : List (IPv4Address × List OSPFLSAHeader)} (h : (l.map (·.2.length)).sum ≤ fuel) :
    ∃ sent, intf.acknowledgeAll fuel l = some sent ∧ intf.Acknowledged intf.destination l sent := by
  induction l with
  | nil => exact ⟨[], rfl, rfl, nofun⟩
  | cons x l ih =>
    obtain ⟨first, hfirst, honce⟩ := intf.acknowledge_spec x.1 (Nat.le_of_add_right_le h)
    obtain ⟨others, hothers, hrest⟩ := ih (Nat.le_trans (Nat.le_add_left _ _) h)
    refine ⟨first ++ others, by simp [acknowledgeAll, hfirst, hothers], ⟨?_, fun s hs => ?_⟩⟩
    · rw [flatMap_append, honce.once, hrest.once]
      simp
    · exact (mem_append.mp hs).elim (honce.fits s) (hrest.fits s)

theorem sendDelayedAcknowledgements_completes (intf : AcknowledgingInterface) : intf.Completes intf.destination := by
  refine ⟨(intf.delayedAcknowledgements.map (·.2.length)).sum, fun k hk => ?_⟩
  obtain ⟨sent, hsent, hdone⟩ := intf.acknowledgeAll_spec hk
  refine ⟨_, sent, by rw [sendDelayedAcknowledgements, hsent]; rfl, hdone, fun x hx => ?_⟩
  obtain ⟨y, -, rfl⟩ := mem_map.mp hx
  rfl

/-- A point-to-point interface that owes an acknowledgement to 10.0.0.2. -/
def owing : AcknowledgingInterface where
  interfaceType := .POINTTOPOINT
  state := .POINTTOPOINT_STATE
  ifIndex := 1
  mtu := 1500
  areaID := 0
  authenticationType := .NULL_TYPE
  authenticationKey := 0
  designatedRouter := ⟨0, 0⟩
  routerID := 0x0A000001
  acknowledgementDelay := 1
  delayedAcknowledgements := [(0x0A000002, [{}])]
  simTime := 0
  acknowledgementTimer := none

/-- It goes to all OSPF routers. -/
theorem owing_elsewhere : ¬ owing.Completes id := by
  rintro ⟨fuel, hfuel⟩
  obtain ⟨intf', sent, hsent, hdone, -⟩ := hfuel (fuel + 1) (Nat.le_succ _)
  cases fuel <;> cases hsent <;> exact absurd hdone.once (by decide)

end AcknowledgingInterface

end Inet.Ospf
