import Inetmanet.Ipv4.IPv4

/-!
# The fragments of a datagram on their way

A datagram is cut, and its fragments are cut again, wherever a link on the way is
too narrow. Different fragments may take different ways.
-/
namespace Inet.Ipv4

open Tiling Option

/-- The length of the encapsulated packet. -/
def IPv4Datagram.payloadLength (d : IPv4Datagram) : Nat := (d.encapsulatedPacket.map CPacket.byteLength).getD 0

def IPv4Datagram.payloadEnd (d : IPv4Datagram) : Nat := d.fragmentOffset + d.payloadLength

/-- A datagram or fragment, and how often it has been cut to what it is. -/
structure InFlight where
  cuts : Nat
  datagram : IPv4Datagram
  deriving DecidableEq, Repr

namespace InFlight

def lo (x : InFlight) : Nat := x.datagram.fragmentOffset

def hi (x : InFlight) : Nat := x.datagram.payloadEnd

/-- What leaves a router for something that has arrived there. -/
def next (x : InFlight) (l : List IPv4Datagram) : List InFlight :=
  l.map (InFlight.mk (if 1 < l.length then x.cuts + 1 else x.cuts))

end InFlight

/-- What may be on its way after `start` has been sent, over usable interfaces. -/
inductive Travels (Usable : InterfaceEntry → Prop) (start : IPv4Datagram) : List InFlight → Prop where
  | start : Travels Usable start [⟨0, start⟩]
  | hop {l : List InFlight} {x : InFlight} {r : List InFlight} {isDsr : Bool} {ie : InterfaceEntry}
      {sent : List IPv4Datagram} : Travels Usable start (l ++ x :: r) → Usable ie →
      fragmentAndSend isDsr x.datagram ie = .ok (.sent sent) → Travels Usable start (l ++ x.next sent ++ r)

/-- There is an address for the fragments to come from. -/
def HasSource (start : IPv4Datagram) (ie : InterfaceEntry) : Prop := start.srcAddress ≠ 0 ∨ ie.ipAddress ≠ 0
deriving Decidable

/-- A datagram as it comes from the transport layer, with `n` bytes of payload. -/
structure Fresh (d : IPv4Datagram) (n : Nat) : Prop where
  encapsulated : ∃ p, d.encapsulatedPacket = some p ∧ p.byteLength = n
  byteLength : d.byteLength = d.headerLength + n
  moreFragments : d.moreFragments = false
  dontFragment : d.dontFragment = false
  fragmentOffset : d.fragmentOffset = 0
  totalPayloadLength : d.totalPayloadLength = 0

/-- What a datagram or fragment of `start` looks like. -/
structure Part (start : IPv4Datagram) (n : Nat) (d : IPv4Datagram) : Prop where
  identification : d.identification = start.identification
  destAddress : d.destAddress = start.destAddress
  dontFragment : d.dontFragment = false
  headerLength : d.headerLength = start.headerLength
  encapsulated : ∃ p, d.encapsulatedPacket = some p
  byteLength : d.byteLength = d.headerLength + d.payloadLength
  moreFragments : d.moreFragments = decide (d.payloadEnd ≠ n)
  aligned : d.moreFragments = true → 8 ∣ d.payloadLength

/-- How the length before the last cut is recorded. -/
def Recorded (n : Nat) (x : InFlight) : Prop :=
  match x.cuts with
  | 0 => x.datagram.totalPayloadLength = 0 ∧ x.lo = 0 ∧ x.hi = n
  | 1 => x.datagram.totalPayloadLength = n ∧ x.datagram.payloadLength < n ∧ 0 < x.datagram.payloadLength
  | _ + 2 => x.datagram.payloadLength < x.datagram.totalPayloadLength ∧ x.datagram.totalPayloadLength < n ∧
    0 < x.datagram.payloadLength

variable {sent : List IPv4Datagram}

section Hop

variable {start d : IPv4Datagram} {n : Nat} {ie : InterfaceEntry} {isDsr : Bool} {p : CPacket}

/-- The interface is wide enough for the header and eight bytes. -/
def RoomFor (d : IPv4Datagram) (ie : InterfaceEntry) : Prop := ie.mtu = 0 ∨ d.headerLength + 8 ≤ ie.mtu

/-- The datagram need not be cut, or the interface is wide enough for 30 bytes more. -/
def RoomForDsr (d : IPv4Datagram) (ie : InterfaceEntry) : Prop :=
  ie.mtu = 0 ∨ d.byteLength ≤ ie.mtu ∨ d.headerLength + 38 ≤ ie.mtu

theorem Part.stamp (h : Part start n d) (ie : InterfaceEntry) : Part start n (stamp d ie) := { h with }

/-- What there is to be cut: everything but the payload, and the payload. -/
def carrier (d : IPv4Datagram) : IPv4Datagram :=
  { d with totalPayloadLength := d.payloadLength, byteLength := d.headerLength, encapsulatedPacket := none }

/-- The ways through `fragmentAndSend`. -/
theorem fragmentAndSend_cases (h : Part start n d) (hp : d.encapsulatedPacket = some p) :
    fragmentAndSend isDsr d ie =
      if (stamp d ie).timeToLive < 0 then .ok (.icmpError .ICMP_TIME_EXCEEDED (stamp d ie))
      else if ie.mtu = 0 ∨ d.byteLength ≤ ie.mtu then .ok (.sent [stamp d ie])
      else if (((if isDsr then ie.mtu - 30 else ie.mtu) - d.headerLength) / 8) * 8 = 0 then
        .error (.runtime "Cannot fragment datagram: MTU=%d too small for header size (%d bytes)")
      else .ok (.sent (fragments (carrier (stamp d ie)) p
        ((((if isDsr then ie.mtu - 30 else ie.mtu) - d.headerLength) / 8) * 8) p.byteLength 0)) := by
  have hpl : d.payloadLength = p.byteLength := by simp [IPv4Datagram.payloadLength, hp]
  have hlen := h.byteLength
  have hsub : d.byteLength - p.byteLength = d.headerLength := by omega
  have hle : ¬ d.byteLength < p.byteLength := by omega
  have hpl' : (Inet.Ipv4.stamp d ie).payloadLength = p.byteLength := hpl
  have hp' : (Inet.Ipv4.stamp d ie).encapsulatedPacket = some p := hp
  have hdf : (Inet.Ipv4.stamp d ie).dontFragment = false := h.dontFragment
  have hbl : (Inet.Ipv4.stamp d ie).byteLength = d.byteLength := rfl
  simp only [fragmentAndSend, hp', hdf, hbl, IPv4Datagram.decapsulate, hle, hsub, if_false, Bool.false_eq_true]
  split
  · rfl
  · split
    · rfl
    · simp only [bind, Except.bind, pure, Except.pure, throw, throwThe, MonadExceptOf.throw, carrier, hpl', hdf]
      rfl

/-- The fragments tile the payload of what they were cut from. -/
theorem fragments_tiles (c : IPv4Datagram) (p : CPacket) {len : Nat} (hlen : 0 < len) (fuel offset : Nat)
    (hfuel : p.byteLength ≤ offset + fuel) (hoffset : offset ≤ p.byteLength) :
    Tiles IPv4Datagram.fragmentOffset IPv4Datagram.payloadEnd (c.fragmentOffset + offset)
      (c.fragmentOffset + p.byteLength) (fragments c p len fuel offset) := by
  induction fuel generalizing offset with
  | zero =>
    have heq : offset = p.byteLength := by omega
    rw [heq]
    rfl
  | succ fuel ih =>
    rw [fragments]
    by_cases hlt : offset < p.byteLength
    · rw [if_pos hlt]
      refine ⟨rfl, Nat.le_add_right _ _, ?_⟩
      by_cases hlast : p.byteLength ≤ offset + len
      · -- the last fragment
        have hend : (makeFragment c p len offset).payloadEnd = c.fragmentOffset + p.byteLength := by
          simp only [IPv4Datagram.payloadEnd, IPv4Datagram.payloadLength, makeFragment,
            IPv4Datagram.encapsulate, hlast, decide_true, if_true, map_some, getD_some]
          omega
        have hnil : fragments c p len fuel (offset + len) = [] := by
          cases fuel with
          | zero => rfl
          | succ fuel => exact if_neg (by omega)
        rw [hend, hnil]
        rfl
      · have hend : (makeFragment c p len offset).payloadEnd = c.fragmentOffset + (offset + len) := by
          simp only [IPv4Datagram.payloadEnd, IPv4Datagram.payloadLength, makeFragment,
            IPv4Datagram.encapsulate, hlast, decide_false, if_false, Bool.false_eq_true, map_some,
            getD_some]
          omega
        rw [hend]
        exact ih _ (by omega) (by omega)
    · have heq : offset = p.byteLength := by omega
      rw [if_neg hlt, heq]
      rfl

/-- Every fragment is made at one of the offsets that the loop visits. -/
theorem mem_fragments {c : IPv4Datagram} {len fuel offset : Nat} {d : IPv4Datagram}
    (hd : d ∈ fragments c p len fuel offset) :
    ∃ k, offset + k * len < p.byteLength ∧ d = makeFragment c p len (offset + k * len) := by
  induction fuel generalizing offset with
  | zero => cases hd
  | succ fuel ih =>
    rw [fragments] at hd
    by_cases hlt : offset < p.byteLength
    · rw [if_pos hlt] at hd
      cases List.mem_cons.mp hd with
      | inl heq => exact ⟨0, by simpa using hlt, by simpa using heq⟩
      | inr hmem =>
        obtain ⟨k, h₁, h₂⟩ := ih hmem
        have hk : offset + len + k * len = offset + (k + 1) * len := by
          rw [Nat.succ_mul, Nat.add_assoc, Nat.add_comm len]
        rw [hk] at h₁ h₂
        exact ⟨k + 1, h₁, h₂⟩
    · rw [if_neg hlt] at hd
      cases hd

/-- A payload that does not fit is cut in two at least. -/
theorem one_lt_length_fragments {c : IPv4Datagram} {len : Nat} (hlen : 0 < len)
    (hp : len < p.byteLength) : 1 < (fragments c p len p.byteLength 0).length := by
  obtain ⟨m, hm⟩ := Nat.exists_eq_add_of_lt (Nat.lt_of_le_of_lt hlen hp)
  have hfuel : p.byteLength = m + 1 + 1 := by omega
  rw [hfuel, fragments, if_pos (by omega), fragments, if_pos (by omega)]
  simp

theorem payloadLength_makeFragment (c : IPv4Datagram) (p : CPacket) (len o : Nat) :
    (makeFragment c p len o).payloadLength = min len (p.byteLength - o) := by
  simp only [IPv4Datagram.payloadLength, makeFragment, IPv4Datagram.encapsulate, map_some, getD_some]
  by_cases hlast : p.byteLength ≤ o + len
  · simp only [hlast, decide_true, if_true]
    omega
  · simp only [hlast, decide_false, if_false, Bool.false_eq_true]
    omega

/-- Each fragment is a part of the datagram again. -/
theorem Part.makeFragment (h : Part start n d) (hle : d.payloadEnd ≤ n)
    (hp : d.encapsulatedPacket = some p) {len o : Nat} (hlen : 8 ∣ len) (ho : 8 ∣ o) (hlt : o < p.byteLength) :
    Part start n (makeFragment (carrier (Inet.Ipv4.stamp d ie)) p len o) := by
  have hpl : d.payloadLength = p.byteLength := by simp [IPv4Datagram.payloadLength, hp]
  have hlenmin := payloadLength_makeFragment (carrier (Inet.Ipv4.stamp d ie)) p len o
  have hoff : (Inet.Ipv4.makeFragment (carrier (Inet.Ipv4.stamp d ie)) p len o).payloadEnd =
      d.fragmentOffset + o + min len (p.byteLength - o) := by
    rw [IPv4Datagram.payloadEnd, hlenmin]
    rfl
  have hend : d.payloadEnd = d.fragmentOffset + p.byteLength := by rw [IPv4Datagram.payloadEnd, hpl]
  have hmore : (Inet.Ipv4.makeFragment (carrier (Inet.Ipv4.stamp d ie)) p len o).moreFragments =
      if p.byteLength ≤ o + len then d.moreFragments else true := by
    simp [Inet.Ipv4.makeFragment, IPv4Datagram.encapsulate, carrier, Inet.Ipv4.stamp]
  exact { h with
    encapsulated := ⟨_, rfl⟩
    byteLength := rfl
    moreFragments := by
      rw [hmore, hoff, h.moreFragments, hend]
      by_cases hlast : p.byteLength ≤ o + len
      · have hmin : d.fragmentOffset + o + min len (p.byteLength - o) = d.fragmentOffset + p.byteLength := by omega
        rw [if_pos hlast, hmin]
      · have hne : d.fragmentOffset + o + min len (p.byteLength - o) ≠ n := by omega
        rw [if_neg hlast, decide_eq_true hne]
    aligned := by
      rw [hmore, hlenmin]
      intro hm
      by_cases hlast : p.byteLength ≤ o + len
      · rw [if_pos hlast] at hm
        have hdvd := h.aligned hm
        rw [hpl] at hdvd
        have hmin : min len (p.byteLength - o) = p.byteLength - o := by omega
        rw [hmin]
        exact Nat.dvd_sub hdvd ho
      · have hmin : min len (p.byteLength - o) = len := by omega
        rw [hmin]
        exact hlen }

/-- Everything that a router sends for a part is a part, and these tile it. -/
structure Hop (start : IPv4Datagram) (n : Nat) (x : InFlight) (ie : InterfaceEntry) (sent : List IPv4Datagram) :
    Prop where
  tiles : Tiles IPv4Datagram.fragmentOffset IPv4Datagram.payloadEnd x.lo x.hi sent
  part : ∀ d ∈ sent, Part start n d
  src : ∀ d ∈ sent, d.srcAddress = (stamp x.datagram ie).srcAddress
  recorded : ∀ d ∈ sent, Recorded n ⟨if 1 < sent.length then x.cuts + 1 else x.cuts, d⟩
  single : 1 < sent.length ∨ ∃ d, sent = [d]

theorem hop_of_sent {x : InFlight} (h : Part start n x.datagram) (hrec : Recorded n x) (hle : x.hi ≤ n)
    (hsent : fragmentAndSend isDsr x.datagram ie = .ok (.sent sent)) :
    Hop start n x ie sent := by
  obtain ⟨p, hp⟩ := h.encapsulated
  have hpl : x.datagram.payloadLength = p.byteLength := by simp [IPv4Datagram.payloadLength, hp]
  have hlen := h.byteLength
  rw [fragmentAndSend_cases h hp] at hsent
  by_cases httl : (stamp x.datagram ie).timeToLive < 0
  · rw [if_pos httl] at hsent
    simp at hsent
  rw [if_neg httl] at hsent
  by_cases hfits : ie.mtu = 0 ∨ x.datagram.byteLength ≤ ie.mtu
  · -- it is sent as it is
    rw [if_pos hfits] at hsent
    simp only [Except.ok.injEq, SendOutcome.sent.injEq] at hsent
    rw [← hsent]
    refine ⟨⟨rfl, Nat.le_add_right _ _, rfl⟩, ?_, ?_, ?_, .inr ⟨_, rfl⟩⟩
    · simpa using h.stamp ie
    · simp
    · simp only [List.mem_singleton, forall_eq, List.length_singleton, Nat.lt_irrefl, if_false]
      exact hrec
  rw [if_neg hfits] at hsent
  by_cases hroom : (((if isDsr then ie.mtu - 30 else ie.mtu) - x.datagram.headerLength) / 8) * 8 = 0
  · rw [if_pos hroom] at hsent
    simp at hsent
  rw [if_neg hroom] at hsent
  simp only [Except.ok.injEq, SendOutcome.sent.injEq] at hsent
  generalize hfl : (((if isDsr then ie.mtu - 30 else ie.mtu) - x.datagram.headerLength) / 8) * 8 = len at hroom hsent
  have hdvd : 8 ∣ len := ⟨_, by rw [← hfl, Nat.mul_comm]⟩
  have hpos : 0 < len := Nat.pos_of_ne_zero hroom
  have hshort : len < p.byteLength := by
    have hmtu : (if isDsr then ie.mtu - 30 else ie.mtu) ≤ ie.mtu := by split <;> omega
    omega
  have hmany : 1 < sent.length := by
    rw [← hsent]
    exact one_lt_length_fragments hpos hshort
  have hmem : ∀ d ∈ sent, ∃ o, 8 ∣ o ∧ o < p.byteLength ∧ d = makeFragment (carrier (stamp x.datagram ie)) p len o := by
    intro d hd
    rw [← hsent] at hd
    obtain ⟨k, hk, heq⟩ := mem_fragments hd
    rw [Nat.zero_add] at hk heq
    exact ⟨k * len, Nat.dvd_mul_left_of_dvd hdvd k, hk, heq⟩
  refine ⟨?_, ?_, ?_, ?_, .inl hmany⟩
  · have htiles := fragments_tiles (carrier (stamp x.datagram ie)) p hpos p.byteLength 0 (by omega) (by omega)
    rw [hsent] at htiles
    have hhi : x.hi = x.datagram.fragmentOffset + p.byteLength := by rw [InFlight.hi, IPv4Datagram.payloadEnd, hpl]
    rw [hhi]
    exact htiles
  · intro d hd
    obtain ⟨o, ho, hlt, rfl⟩ := hmem d hd
    exact h.makeFragment hle hp hdvd ho hlt
  · intro d hd
    obtain ⟨o, -, -, rfl⟩ := hmem d hd
    rfl
  · intro d hd
    obtain ⟨o, -, hlt, heq⟩ := hmem d hd
    have htotal : d.totalPayloadLength = x.datagram.payloadLength := by rw [heq]; rfl
    have hpart : d.payloadLength = min len (p.byteLength - o) := by rw [heq, payloadLength_makeFragment]
    rw [if_pos hmany]
    -- the length that is recorded is that of what was cut
    obtain ⟨cuts, e⟩ := x
    simp only [Recorded] at hrec
    cases cuts with
    | zero =>
      obtain ⟨-, hlo, hhi⟩ := hrec
      simp only [InFlight.lo, InFlight.hi, IPv4Datagram.payloadEnd] at hlo hhi
      simp only at hpl htotal
      refine ⟨?_, ?_, ?_⟩ <;> simp only <;> omega
    | succ cuts =>
      simp only at hpl htotal
      have hless : e.payloadLength < n := by
        cases cuts with
        | zero => exact hrec.2.1
        | succ cuts => exact Nat.lt_trans hrec.1 hrec.2.1
      refine ⟨?_, ?_, ?_⟩ <;> simp only <;> omega

/-- With room for the header and eight bytes, and hops left, nothing stops a part but the bytes that are set aside. -/
theorem fragmentAndSend_sent_iff (h : Part start n d) (hroom : RoomFor d ie) (httl : 0 ≤ (stamp d ie).timeToLive) :
    (∃ sent, fragmentAndSend isDsr d ie = .ok (.sent sent)) ↔ (isDsr = true → RoomForDsr d ie) := by
  obtain ⟨p, hp⟩ := h.encapsulated
  rw [fragmentAndSend_cases h hp, if_neg (by omega)]
  by_cases hfits : ie.mtu = 0 ∨ d.byteLength ≤ ie.mtu
  · rw [if_pos hfits]
    exact ⟨fun _ _ => hfits.imp_right .inl, fun _ => ⟨_, rfl⟩⟩
  · rw [if_neg hfits]
    rw [RoomFor] at hroom
    have hiff : ¬ (((if isDsr then ie.mtu - 30 else ie.mtu) - d.headerLength) / 8) * 8 = 0 ↔
        (isDsr = true → RoomForDsr d ie) := by
      rw [RoomForDsr]
      cases isDsr with
      | false =>
        simp only [Bool.false_eq_true, if_false, false_imp_iff, iff_true]
        omega
      | true =>
        simp only [if_true, true_imp_iff]
        omega
    rw [← hiff]
    generalize (((if isDsr then ie.mtu - 30 else ie.mtu) - d.headerLength) / 8) * 8 = len
    by_cases hlen : len = 0
    · simp [hlen]
    · simp [hlen]

end Hop

/-- What is on its way at any time. -/
structure Pieces (start : IPv4Datagram) (n : Nat) (l : List InFlight) : Prop where
  ne_nil : l ≠ []
  tiles : Tiles InFlight.lo InFlight.hi 0 n l
  part : ∀ x ∈ l, Part start n x.datagram
  recorded : ∀ x ∈ l, Recorded n x
  uncut : (∃ x, l = [x] ∧ x.cuts = 0) ∨ ∀ x ∈ l, 0 < x.cuts

/-- And where it comes from. -/
structure OnTheWay (start : IPv4Datagram) (n : Nat) (l : List InFlight) : Prop extends Pieces start n l where
  src : l = [⟨0, start⟩] ∨ ∃ s, s ≠ 0 ∧ ∀ x ∈ l, x.datagram.srcAddress = s

section Travels

variable {start : IPv4Datagram} {n : Nat} {l : List InFlight}

theorem Fresh.part (h : Fresh start n) : Part start n start := by
  obtain ⟨p, hp, hn⟩ := h.encapsulated
  have hpl : start.payloadLength = n := by simp [IPv4Datagram.payloadLength, hp, hn]
  have hend : start.payloadEnd = n := by rw [IPv4Datagram.payloadEnd, h.fragmentOffset, hpl, Nat.zero_add]
  exact {
    identification := rfl
    destAddress := rfl
    dontFragment := h.dontFragment
    headerLength := rfl
    encapsulated := ⟨p, hp⟩
    byteLength := by rw [h.byteLength, hpl]
    moreFragments := by simp [h.moreFragments, hend]
    aligned := by simp [h.moreFragments] }

theorem Fresh.onTheWay (h : Fresh start n) : OnTheWay start n [⟨0, start⟩] := by
  obtain ⟨p, hp, hn⟩ := h.encapsulated
  have hpl : start.payloadLength = n := by simp [IPv4Datagram.payloadLength, hp, hn]
  have hlo : InFlight.lo ⟨0, start⟩ = 0 := h.fragmentOffset
  have hhi : InFlight.hi ⟨0, start⟩ = n := by
    rw [InFlight.hi, IPv4Datagram.payloadEnd, h.fragmentOffset, hpl, Nat.zero_add]
  refine ⟨⟨by simp, ⟨hlo, by omega, hhi⟩, ?_, ?_, .inl ⟨_, rfl, rfl⟩⟩, .inl rfl⟩
  · simpa using h.part
  · simp only [List.mem_singleton, forall_eq]
    exact ⟨h.totalPayloadLength, hlo, hhi⟩

theorem tiles_next {a b k : Nat}
    (h : Tiles IPv4Datagram.fragmentOffset IPv4Datagram.payloadEnd a b sent) :
    Tiles InFlight.lo InFlight.hi a b (sent.map (InFlight.mk k)) := by
  induction sent generalizing a with
  | nil => exact h
  | cons d sent ih => exact ⟨h.1, h.2.1, ih h.2.2⟩

section

variable {x : InFlight} {r : List InFlight} {isDsr : Bool} {ie : InterfaceEntry}

theorem mem_hop : ∀ y ∈ l ++ x.next sent ++ r, (y ∈ l ∨ y ∈ r) ∨
    ∃ d ∈ sent, y = ⟨if 1 < sent.length then x.cuts + 1 else x.cuts, d⟩ := by
  intro y hy
  simp only [List.mem_append, InFlight.next, List.mem_map] at hy
  rcases hy with (hy | ⟨d, hd, heq⟩) | hy
  · exact .inl (.inl hy)
  · exact .inr ⟨d, hd, heq.symm⟩
  · exact .inl (.inr hy)

theorem mem_old {y : InFlight} (hy : y ∈ l ∨ y ∈ r) : y ∈ l ++ x :: r := by
  simp only [List.mem_append, List.mem_cons]
  exact hy.imp_right .inr

theorem alone {y : InFlight} (h : l ++ x :: r = [y]) : l = [] ∧ x = y ∧ r = [] := by
  cases l with
  | nil => simpa using h
  | cons z l => simp at h

theorem Pieces.hop (h : Pieces start n (l ++ x :: r)) (hsent : fragmentAndSend isDsr x.datagram ie = .ok (.sent sent)) :
    Hop start n x ie sent ∧ Pieces start n (l ++ x.next sent ++ r) := by
  have hx : x ∈ l ++ x :: r := by simp
  have hhop := hop_of_sent (h.part x hx) (h.recorded x hx) (h.tiles.mem hx).2.2 hsent
  refine ⟨hhop, ?_⟩
  constructor
  · cases hhop.single with
    | inl hmany =>
      cases sent with
      | nil => cases hmany
      | cons d sent => simp [InFlight.next]
    | inr hone =>
      obtain ⟨d, hd⟩ := hone
      simp [InFlight.next, hd]
  · exact h.tiles.replace (tiles_next hhop.tiles)
  · intro y hy
    rcases mem_hop y hy with hy | ⟨d, hd, heq⟩
    · exact h.part y (mem_old hy)
    · rw [heq]
      exact hhop.part d hd
  · intro y hy
    rcases mem_hop y hy with hy | ⟨d, hd, heq⟩
    · exact h.recorded y (mem_old hy)
    · rw [heq]
      exact hhop.recorded d hd
  · cases h.uncut with
    | inl huncut =>
      obtain ⟨y, heq, hzero⟩ := huncut
      obtain ⟨rfl, rfl, rfl⟩ := alone heq
      rw [List.nil_append, List.append_nil]
      by_cases hmany : 1 < sent.length
      · refine .inr fun y hy => ?_
        obtain ⟨d, -, heq⟩ := List.mem_map.mp hy
        rw [← heq]
        simp [hmany]
      · obtain ⟨d, hd⟩ := hhop.single.resolve_left hmany
        refine .inl ⟨⟨x.cuts, d⟩, ?_, hzero⟩
        simp [InFlight.next, hd]
    | inr hcut =>
      refine .inr fun y hy => ?_
      rcases mem_hop y hy with hy | ⟨d, -, heq⟩
      · exact hcut y (mem_old hy)
      · have := hcut x hx
        rw [heq]
        simp only
        split <;> omega

theorem OnTheWay.hop (h : OnTheWay start n (l ++ x :: r)) (hie : HasSource start ie)
    (hsent : fragmentAndSend isDsr x.datagram ie = .ok (.sent sent)) : OnTheWay start n (l ++ x.next sent ++ r) := by
  obtain ⟨hhop, hpieces⟩ := h.toPieces.hop hsent
  refine ⟨hpieces, .inr ?_⟩
  cases h.src with
  | inl hstart =>
    obtain ⟨rfl, rfl, rfl⟩ := alone hstart
    refine ⟨(stamp start ie).srcAddress, ?_, ?_⟩
    · simp only [stamp]
      split
      · next hnone => exact hie.resolve_left (not_not_intro hnone)
      · assumption
    · intro y hy
      rcases mem_hop y hy with hy | ⟨d, hd, heq⟩
      · simp at hy
      · rw [heq]
        exact hhop.src d hd
  | inr hsame =>
    obtain ⟨s, hs, hall⟩ := hsame
    refine ⟨s, hs, fun y hy => ?_⟩
    rcases mem_hop y hy with hy | ⟨d, hd, heq⟩
    · exact hall y (mem_old hy)
    · rw [heq, hhop.src d hd, stamp, hall x (by simp)]
      exact if_neg hs

end

theorem Travels.pieces {Usable : InterfaceEntry → Prop} (h : Travels Usable start l) (hstart : Fresh start n) :
    Pieces start n l := by
  induction h with
  | start => exact hstart.onTheWay.toPieces
  | hop _ _ hsent ih => exact (ih.hop hsent).2

theorem Travels.onTheWay (h : Travels (HasSource start) start l) (hstart : Fresh start n) : OnTheWay start n l := by
  induction h with
  | start => exact hstart.onTheWay
  | hop _ hie hsent ih => exact ih.hop hie hsent

/-- All that is on its way goes into the same reassembly buffer. -/
theorem OnTheWay.key (h : OnTheWay start n l) : ∃ k, ∀ x ∈ l, x.datagram.key = k := by
  cases h.src with
  | inl hstart => exact ⟨start.key, by simp [hstart]⟩
  | inr hsame =>
    obtain ⟨s, -, hall⟩ := hsame
    refine ⟨⟨start.identification % 2 ^ 16, s, start.destAddress⟩, fun x hx => ?_⟩
    rw [IPv4Datagram.key, (h.part x hx).identification, (h.part x hx).destAddress, hall x hx]

end Travels

end Inet.Ipv4
