import Inetmanet.Ipv6.IPv6

/-!
# What a datagram is cut into

The fragments as they are sent, and the part of the payload that a receiver takes
each of them for.
-/
namespace Inet.Ipv6

open Tiling Option IPv6Datagram

namespace IPv6Datagram

/-- Where the fragmentable part of a fragment belongs. -/
def partBeg (d : IPv6Datagram) : Nat := (d.fragmentHeader.map IPv6FragmentHeader.fragmentOffset).getD 0

/-- And where it ends, by its length. -/
def partEnd (d : IPv6Datagram) : Nat :=
  match d.calculateFragmentLength with
  | .ok len => (d.partBeg + len).toNat
  | .error _ => d.partBeg

def moreFragments (d : IPv6Datagram) : Bool := d.fragmentHeader.any IPv6FragmentHeader.moreFragments

/-- The length of the fragmentable part. -/
def payloadLength (d : IPv6Datagram) : Nat := d.byteLength - d.calculateUnfragmentableHeaderByteLength

end IPv6Datagram

/-- A datagram as `encapsulate` makes it for a packet of the transport layer. -/
structure Sendable (d : IPv6Datagram) : Prop where
  built : Built d.extensionHeaders
  byteLength : d.byteLength = d.calculateHeaderByteLength + (d.encapsulatedPacket.map CPacket.byteLength).getD 0

/-- There is room for eight bytes behind the headers that every fragment has. -/
def HasRoom (d : IPv6Datagram) (mtu : Nat) : Prop :=
  d.calculateUnfragmentableHeaderByteLength + IPv6_FRAGMENT_HEADER_LENGTH + 8 ≤ mtu
deriving Decidable

/-- It has not been cut before. -/
def NotFragment (d : IPv6Datagram) : Prop := d.extensionHeaders.any isFragmentHeader = false

/-- The fragment header is put right behind the unfragmentable headers. -/
def SplitsAtFragmentHeader (d : IPv6Datagram) : Prop :=
  d.calculateUnfragmentableHeaderByteLength = 40 + headersByteLength (aheadOfFragmentHeader d.extensionHeaders)

/-- The offsets that the loop of `fragmentAndSend` goes through. -/
def offsets (payloadLength fragmentLength : Nat) : Nat → Nat → List Nat
  | 0, _ => []
  | fuel + 1, offset =>
    if offset < payloadLength then offset :: offsets payloadLength fragmentLength fuel (offset + fragmentLength)
    else []

/-- A fragment, if the fragment header could be added. -/
def fragmentOf (datagram : IPv6Datagram) (encapsulatedPacket : Option CPacket) (identification : BitVec 32)
    (headerLength payloadLength fragmentLength offset : Nat) : IPv6Datagram :=
  { datagram with
    byteLength := headerLength + IPv6_FRAGMENT_HEADER_LENGTH + (min (offset + fragmentLength) payloadLength - offset)
    extensionHeaders := aheadOfFragmentHeader datagram.extensionHeaders ++
      .fragment ⟨identification, offset % 2 ^ 16, !decide (payloadLength ≤ offset + fragmentLength)⟩ ::
        behindFragmentHeader datagram.extensionHeaders
    encapsulatedPacket := if offset = 0 then encapsulatedPacket else datagram.encapsulatedPacket }

section Loop

variable {d : IPv6Datagram} {enc : Option CPacket} {ident : BitVec 32} {hl pl fl fuel o : Nat}

theorem makeFragment_eq (h : Chain d.extensionHeaders) :
    makeFragment d enc ident hl pl fl o =
      if d.extensionHeaders.any isFragmentHeader then
        .error (.runtime "addExtensionHeader() duplicate extension header: %d")
      else .ok (fragmentOf d enc ident hl pl fl o) := by
  have hthis : (if decide (pl ≤ o + fl) = true then pl - o else fl) = min (o + fl) pl - o := by
    by_cases hlast : pl ≤ o + fl
    · rw [if_pos (decide_eq_true hlast)]
      omega
    · rw [if_neg (fun h => hlast (of_decide_eq_true h))]
      omega
  have hheaders : (if o = 0 then d.encapsulate enc else d).extensionHeaders = d.extensionHeaders := by
    split <;> rfl
  simp only [makeFragment, dup_eq d h, addExtensionHeader, bind, Except.bind, pure, Except.pure,
    hheaders, getExtensionHeaderOrder, IPv6ExtensionHeader.getExtensionType, insertFragmentHeader,
    any_ahead_iff h, hthis]
  by_cases hany : d.extensionHeaders.any isFragmentHeader = true
  · rw [if_pos hany, if_pos hany]
    rfl
  · rw [if_neg hany, if_neg hany]
    by_cases hzero : o = 0
    · simp only [hzero, if_true, Except.map, fragmentOf, encapsulate]
    · simp only [hzero, if_false, Except.map, fragmentOf]

theorem fragments_eq (h : Chain d.extensionHeaders) (hany : d.extensionHeaders.any isFragmentHeader = false) :
    fragments d enc ident hl pl fl fuel o = .ok ((offsets pl fl fuel o).map (fragmentOf d enc ident hl pl fl)) := by
  induction fuel generalizing o with
  | zero => rfl
  | succ fuel ih =>
    rw [fragments, offsets]
    by_cases hlt : o < pl
    · rw [if_pos hlt, if_pos hlt, makeFragment_eq h, hany, ih]
      rfl
    · rw [if_neg hlt, if_neg hlt]
      rfl

/-- The offsets divide the payload. -/
theorem offsets_tiles (hfl : 0 < fl) (hfuel : pl ≤ o + fuel) (ho : o ≤ pl) :
    Tiles (fun o => o) (fun o => min (o + fl) pl) o pl (offsets pl fl fuel o) := by
  induction fuel generalizing o with
  | zero =>
    have heq : o = pl := by omega
    exact heq
  | succ fuel ih =>
    rw [offsets]
    by_cases hlt : o < pl
    · rw [if_pos hlt]
      have hle : o ≤ min (o + fl) pl := by omega
      have hrest : Tiles (fun o => o) (fun o => min (o + fl) pl) (min (o + fl) pl) pl
          (offsets pl fl fuel (o + fl)) := by
        by_cases hlast : pl ≤ o + fl
        · have hmin : min (o + fl) pl = pl := by omega
          have hnil : offsets pl fl fuel (o + fl) = [] := by
            cases fuel with
            | zero => rfl
            | succ fuel => exact if_neg (by omega)
          rw [hmin, hnil]
          rfl
        · have hmin : min (o + fl) pl = o + fl := by omega
          rw [hmin]
          exact ih (by omega) (by omega)
      exact ⟨rfl, hle, hrest⟩
    · have heq : o = pl := by omega
      rw [if_neg hlt]
      exact heq

theorem mem_offsets {x : Nat} (hx : x ∈ offsets pl fl fuel o) : ∃ k, x = o + k * fl ∧ x < pl := by
  induction fuel generalizing o with
  | zero => cases hx
  | succ fuel ih =>
    rw [offsets] at hx
    by_cases hlt : o < pl
    · rw [if_pos hlt] at hx
      cases List.mem_cons.mp hx with
      | inl heq => exact ⟨0, by rw [heq]; omega, heq ▸ hlt⟩
      | inr hmem =>
        obtain ⟨k, hk, hkl⟩ := ih hmem
        exact ⟨k + 1, by rw [hk, Nat.succ_mul]; omega, hkl⟩
    · rw [if_neg hlt] at hx
      cases hx

/-- A payload that does not fit is cut in two at least. -/
theorem offsets_two (hfl : 0 < fl) (hlt : fl < pl) :
    ∃ l, offsets pl fl pl 0 = 0 :: fl :: l := by
  obtain ⟨m, hm⟩ := Nat.exists_eq_add_of_lt (Nat.lt_of_le_of_lt hfl hlt)
  have hstep : ∀ fuel, fuel = m + 1 + 1 → offsets pl fl fuel 0 = 0 :: fl :: offsets pl fl m (fl + fl) := by
    intro fuel hfuel
    rw [hfuel, offsets, if_pos (by omega), offsets, if_pos (by omega), Nat.zero_add]
  exact ⟨_, hstep pl (by omega)⟩

end Loop

/-- `fragmentLength` in `fragmentAndSend`. -/
def cutLength (d : IPv6Datagram) (mtu : Nat) : Nat :=
  ((mtu - d.calculateUnfragmentableHeaderByteLength - IPv6_FRAGMENT_HEADER_LENGTH) / 8) * 8

/-- The headers without the packet. -/
def carrier (d : IPv6Datagram) : IPv6Datagram :=
  { d with
    byteLength := d.byteLength - (d.encapsulatedPacket.map CPacket.byteLength).getD 0
    encapsulatedPacket := none }

def pieceOf (d : IPv6Datagram) (ident : BitVec 32) (mtu offset : Nat) : IPv6Datagram :=
  fragmentOf (carrier d) d.encapsulatedPacket ident d.calculateUnfragmentableHeaderByteLength d.payloadLength
    (cutLength d mtu) offset

/-- All fragments. -/
def pieces (d : IPv6Datagram) (ident : BitVec 32) (mtu : Nat) : List IPv6Datagram :=
  (offsets d.payloadLength (cutLength d mtu) d.payloadLength 0).map (pieceOf d ident mtu)

section Cut

variable {d : IPv6Datagram} {ident : BitVec 32} {mtu o : Nat} {ip : IPv6}

theorem hasRoom_iff : HasRoom d mtu ↔ 0 < cutLength d mtu := by
  unfold HasRoom cutLength
  omega

/-- The ways through the second half of `fragmentAndSend`. -/
theorem createFragments_eq (h : Sendable d) (hwide : mtu < d.byteLength) :
    createFragments ip d mtu =
      if ¬ HasRoom d mtu then .error (.assertion "fragmentLength > 0")
      else if d.extensionHeaders.any isFragmentHeader then
        .error (.runtime "addExtensionHeader() duplicate extension header: %d")
      else .ok (⟨ip.curFragmentId + 1⟩, .sent (pieces d ip.curFragmentId mtu)) := by
  have hchain : Chain (carrier d).extensionHeaders := h.built.chain
  have hlen := h.byteLength
  have hdecap : d.decapsulate = .ok (d.encapsulatedPacket, carrier d) := by
    unfold decapsulate carrier
    cases henc : d.encapsulatedPacket with
    | none =>
      cases d
      simp only at henc
      simp [henc]
    | some packet =>
      rw [henc] at hlen
      simp only [map_some, getD_some] at hlen
      simp only [map_some, getD_some]
      rw [if_neg (by omega)]
  by_cases hroom : HasRoom d mtu
  · have hpos := hasRoom_iff.mp hroom
    have hpl : 0 < d.payloadLength := by
      unfold payloadLength
      unfold HasRoom at hroom
      omega
    rw [if_neg (not_not_intro hroom)]
    have hrun : createFragments ip d mtu = (do
        let l ← fragments (carrier d) d.encapsulatedPacket ip.curFragmentId
          d.calculateUnfragmentableHeaderByteLength d.payloadLength (cutLength d mtu) d.payloadLength 0
        return (⟨ip.curFragmentId + 1⟩, .sent l)) := by
      have hensure := ensure_pos hpos "fragmentLength > 0"
      unfold cutLength at hensure
      simp only [createFragments, hensure, hdecap, bind, Except.bind]
      rfl
    rw [hrun]
    cases hany : d.extensionHeaders.any isFragmentHeader with
    | false =>
      rw [fragments_eq hchain hany]
      rfl
    | true =>
      obtain ⟨m, hm⟩ := Nat.exists_eq_add_of_lt hpl
      have hany' : (carrier d).extensionHeaders.any isFragmentHeader = true := hany
      rw [hm, fragments, if_pos (by omega), makeFragment_eq hchain, if_pos hany', if_pos rfl]
      rfl
  · have hzero : ¬ 0 < cutLength d mtu := fun hpos => hroom (hasRoom_iff.mpr hpos)
    unfold cutLength at hzero
    rw [if_pos hroom, createFragments]
    simp only [ensure, hzero, if_false, bind, Except.bind]

theorem NotFragment.ahead (hnot : NotFragment d) (h : Sendable d) :
    (aheadOfFragmentHeader d.extensionHeaders).any isFragmentHeader = false :=
  (any_ahead_iff h.built.chain).trans hnot

section

variable (h : Sendable d)
include h

section

variable (hnot : NotFragment d)
include hnot

theorem fragmentHeader_pieceOf :
    (pieceOf d ident mtu o).fragmentHeader =
      some ⟨ident, o % 2 ^ 16, !decide (d.payloadLength ≤ o + cutLength d mtu)⟩ := by
  have hfind := find_fragmentHeader (s := behindFragmentHeader d.extensionHeaders)
    ⟨ident, o % 2 ^ 16, !decide (d.payloadLength ≤ o + cutLength d mtu)⟩ (hnot.ahead h)
  have hheaders : (pieceOf d ident mtu o).extensionHeaders = aheadOfFragmentHeader d.extensionHeaders ++
      .fragment ⟨ident, o % 2 ^ 16, !decide (d.payloadLength ≤ o + cutLength d mtu)⟩ ::
        behindFragmentHeader d.extensionHeaders := rfl
  rw [fragmentHeader, hheaders, hfind]
  rfl

/-- A fragment has the headers of the datagram, and the fragment header. -/
theorem removeFragmentHeader_pieceOf :
    (pieceOf d ident mtu o).removeFragmentHeader.extensionHeaders = d.extensionHeaders := by
  have herase := eraseP_fragmentHeader (s := behindFragmentHeader d.extensionHeaders)
    ⟨ident, o % 2 ^ 16, !decide (d.payloadLength ≤ o + cutLength d mtu)⟩ (hnot.ahead h)
  rw [ahead_append_behind] at herase
  exact herase

/-- The receiver misses in every fragment what is put in front of the fragment header, though it is not
repeated in each of them. -/
theorem calculateFragmentLength_pieceOf :
    (pieceOf d ident mtu o).calculateFragmentLength =
      .ok ((min (o + cutLength d mtu) d.payloadLength - o : Nat) -
        (40 + headersByteLength (aheadOfFragmentHeader d.extensionHeaders) -
          d.calculateUnfragmentableHeaderByteLength : Int)) := by
  have hlen := fragmentLengthFrom_append (s := behindFragmentHeader d.extensionHeaders)
    ⟨ident, o % 2 ^ 16, !decide (d.payloadLength ≤ o + cutLength d mtu)⟩ (hnot.ahead h)
    ((pieceOf d ident mtu o).byteLength - 40)
  have hbyte : (pieceOf d ident mtu o).byteLength = d.calculateUnfragmentableHeaderByteLength +
      IPv6_FRAGMENT_HEADER_LENGTH + (min (o + cutLength d mtu) d.payloadLength - o) := rfl
  have hrun : (pieceOf d ident mtu o).calculateFragmentLength = .ok ((pieceOf d ident mtu o).byteLength - 40 -
      headersByteLength (aheadOfFragmentHeader d.extensionHeaders) - IPv6_FRAGMENT_HEADER_LENGTH) := hlen
  rw [hrun, hbyte]
  congr 1
  omega

theorem partBeg_pieceOf :
    (pieceOf d ident mtu o).partBeg = o % 2 ^ 16 := by
  rw [partBeg, fragmentHeader_pieceOf h hnot]
  rfl

theorem partEnd_pieceOf (hsplit : SplitsAtFragmentHeader d)
    (hn : d.payloadLength < 2 ^ 16) (ho : o < d.payloadLength) :
    (pieceOf d ident mtu o).partEnd = min (o + cutLength d mtu) d.payloadLength := by
  rw [SplitsAtFragmentHeader] at hsplit
  simp only [partEnd, calculateFragmentLength_pieceOf h hnot, partBeg_pieceOf h hnot]
  omega

end

end

/-- What the receiver relies on in a fragment of `d`. -/
structure IsPiece (d : IPv6Datagram) (k : Key) (x : IPv6Datagram) : Prop where
  header : ∃ fh, x.fragmentHeader = some fh ∧ fh.identification = k.id ∧ fh.fragmentOffset = x.partBeg ∧
    fh.moreFragments = decide (x.partEnd ≠ d.payloadLength)
  srcAddress : x.srcAddress = k.src
  destAddress : x.destAddress = k.dest
  length : x.calculateFragmentLength = .ok (x.partEnd - x.partBeg : Nat)
  aligned : x.partEnd ≠ d.payloadLength → 8 ∣ x.partEnd - x.partBeg
  pos : x.partBeg < x.partEnd
  headers : x.removeFragmentHeader.extensionHeaders = d.extensionHeaders
  restored : x.partBeg = 0 → { x.removeFragmentHeader with byteLength := d.byteLength } = d

theorem pieces_isPiece (h : Sendable d) (hnot : NotFragment d) (hsplit : SplitsAtFragmentHeader d)
    (hn : d.payloadLength < 2 ^ 16) (hroom : HasRoom d mtu) {x : IPv6Datagram} (hx : x ∈ pieces d ident mtu) :
    IsPiece d ⟨ident, d.srcAddress, d.destAddress⟩ x := by
  obtain ⟨o, ho, heq⟩ := List.mem_map.mp hx
  obtain ⟨k, -, hlt⟩ := mem_offsets ho
  have hbeg : (pieceOf d ident mtu o).partBeg = o := by
    rw [partBeg_pieceOf h hnot]
    exact Nat.mod_eq_of_lt (Nat.lt_trans hlt hn)
  have hend : (pieceOf d ident mtu o).partEnd = min (o + cutLength d mtu) d.payloadLength :=
    partEnd_pieceOf h hnot hsplit hn hlt
  have hpos := hasRoom_iff.mp hroom
  have hdvd : 8 ∣ cutLength d mtu := Nat.dvd_mul_left _ _
  rw [← heq]
  refine {
    header := ⟨_, fragmentHeader_pieceOf h hnot, rfl, (partBeg_pieceOf h hnot).symm, ?_⟩
    srcAddress := rfl
    destAddress := rfl
    length := ?_
    aligned := ?_
    pos := ?_
    headers := removeFragmentHeader_pieceOf h hnot
    restored := ?_ }
  · rw [hend, ← decide_not, decide_eq_decide]
    omega
  · rw [calculateFragmentLength_pieceOf h hnot, hend, hbeg]
    rw [SplitsAtFragmentHeader] at hsplit
    congr 1
    omega
  · rw [hend, hbeg]
    intro hne
    have hmin : min (o + cutLength d mtu) d.payloadLength - o = cutLength d mtu := by omega
    rw [hmin]
    exact hdvd
  · omega
  · rw [hbeg]
    intro hzero
    have hheaders : (pieceOf d ident mtu o).removeFragmentHeader.extensionHeaders = d.extensionHeaders :=
      removeFragmentHeader_pieceOf h hnot
    have hpacket : (pieceOf d ident mtu o).removeFragmentHeader.encapsulatedPacket = d.encapsulatedPacket := if_pos hzero
    have hall : ∀ y : IPv6Datagram, y.srcAddress = d.srcAddress → y.destAddress = d.destAddress →
        y.hopLimit = d.hopLimit → y.extensionHeaders = d.extensionHeaders →
        y.encapsulatedPacket = d.encapsulatedPacket → { y with byteLength := d.byteLength } = d := by
      intro y hsrc hdest hhop hhead henc
      cases y
      cases d
      simp_all
    exact hall _ rfl rfl rfl hheaders hpacket

theorem pieces_tiles (h : Sendable d) (hnot : NotFragment d) (hsplit : SplitsAtFragmentHeader d)
    (hn : d.payloadLength < 2 ^ 16) (hroom : HasRoom d mtu) :
    Tiles partBeg partEnd 0 d.payloadLength (pieces d ident mtu) := by
  have htiles := offsets_tiles (hasRoom_iff.mp hroom) (Nat.le_add_left d.payloadLength 0) (Nat.zero_le _)
  refine (htiles.congr fun o ho => ?_).map
  obtain ⟨k, -, hlt⟩ := mem_offsets ho
  rw [Function.comp_apply, Function.comp_apply, partBeg_pieceOf h hnot, partEnd_pieceOf h hnot hsplit hn hlt]
  exact ⟨(Nat.mod_eq_of_lt (Nat.lt_trans hlt hn)).symm, rfl⟩

theorem cutLength_lt (hwide : mtu < d.byteLength) (hroom : HasRoom d mtu) : cutLength d mtu < d.payloadLength := by
  unfold HasRoom at hroom
  unfold cutLength payloadLength
  omega

/-- There are two fragments at least. -/
theorem pieces_two (ident : BitVec 32) (hwide : mtu < d.byteLength) (hroom : HasRoom d mtu) :
    ∃ l, pieces d ident mtu = pieceOf d ident mtu 0 :: pieceOf d ident mtu (cutLength d mtu) :: l := by
  obtain ⟨l, hl⟩ := offsets_two (hasRoom_iff.mp hroom) (cutLength_lt hwide hroom)
  exact ⟨l.map (pieceOf d ident mtu), by rw [pieces, hl]; rfl⟩

/-- Fragments that are taken to be shorter than they are do not fit together. -/
theorem splits_of_tiles (h : Sendable d) (hnot : NotFragment d) (hn : d.payloadLength < 2 ^ 16)
    (hwide : mtu < d.byteLength) (hroom : HasRoom d mtu)
    (htiles : Tiles partBeg partEnd 0 d.payloadLength (pieces d ident mtu)) :
    SplitsAtFragmentHeader d := by
  obtain ⟨l, hl⟩ := pieces_two ident hwide hroom
  rw [hl] at htiles
  obtain ⟨-, -, hnext, -⟩ := htiles
  have hlt := cutLength_lt hwide hroom
  have hpos := hasRoom_iff.mp hroom
  simp only [partEnd, calculateFragmentLength_pieceOf h hnot, partBeg_pieceOf h hnot] at hnext
  unfold SplitsAtFragmentHeader
  omega

theorem pieceOf_le_mtu (hroom : HasRoom d mtu) : (pieceOf d ident mtu o).byteLength ≤ mtu := by
  have hbyte : (pieceOf d ident mtu o).byteLength = d.calculateUnfragmentableHeaderByteLength +
      IPv6_FRAGMENT_HEADER_LENGTH + (min (o + cutLength d mtu) d.payloadLength - o) := rfl
  unfold HasRoom at hroom
  unfold cutLength at hbyte
  omega

end Cut

end Inet.Ipv6
