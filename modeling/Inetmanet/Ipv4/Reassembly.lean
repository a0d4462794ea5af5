import Inetmanet.Ipv4.Fragments

/-!
# Reassembly at the receiver

The receiver does what a much simpler one would do: collect the fragments until
all of them are there, and hand up the datagram made of the one that came first.
-/
namespace Inet.Ipv4

open Tiling InFlight IPv4FragBuf IPv4Datagram List

structure Arrival where
  time : Int
  datagram : IPv4Datagram
  deriving DecidableEq, Repr

/-- What `reassembleAndDeliver` hands up at each arrival with key `k`. -/
def handedUp (second : Int) (k : Key) : IPv4 → List Arrival → Sim (List (Option IPv4Datagram))
  | _, [] => .ok []
  | ip, a :: l => do
    let (ip, out) ← ip.reassembleAndDeliver second a.time a.datagram
    let rest ← handedUp second k ip l
    return if a.datagram.key = k then out.delivered :: rest else rest

def Complete (frags : List InFlight) (held : List IPv4Datagram) : Prop := ∀ x ∈ frags, x.datagram ∈ held
deriving Decidable

/-- The fragment with the length of its payload before it was cut. -/
def restored (d : IPv4Datagram) : IPv4Datagram :=
  { d with encapsulatedPacket := d.encapsulatedPacket.map fun p =>
      { p with byteLength := if d.totalPayloadLength = 0 then p.byteLength else d.totalPayloadLength } }

/-- The datagram made of the fragment that came first. -/
def assembled (n : Nat) (first : IPv4Datagram) : IPv4Datagram :=
  { restored first with byteLength := first.headerLength + n, fragmentOffset := 0, moreFragments := false }

def collect (frags : List InFlight) (n : Nat) : List IPv4Datagram → List IPv4Datagram → List (Option IPv4Datagram)
  | _, [] => []
  | held, a :: l =>
    if Complete frags (held ++ [a]) then some (assembled n (held.headD a)) :: collect frags n [] l
    else none :: collect frags n (held ++ [a]) l

variable {d : IPv4Datagram}

namespace IPv4FragBuf

variable {f : IPv4FragBuf} {k k' : Key} {b : DatagramBuffer}

section

variable (f)

theorem find_insert_self (k : Key) (b : DatagramBuffer) : (f.insert k b).find k = some b := by
  simp [find, insert]

theorem find_erase_self (k : Key) : (f.erase k).find k = none := by
  simp [find, erase]

theorem find_erase_of_ne (h : k' ≠ k) : (f.erase k').find k = f.find k := by
  simp only [find, erase, find?_filter]
  congr 2
  funext p
  by_cases hp : p.1 = k
  · simp [hp, h.symm]
  · simp [hp]

theorem find_insert_of_ne (b : DatagramBuffer) (h : k' ≠ k) :
    (f.insert k' b).find k = f.find k := by
  have herase := find_erase_of_ne f h
  simp only [find, insert] at herase ⊢
  rw [find?_cons_of_neg (by simpa using h)]
  exact herase

end

/-- A fragment of another datagram does not touch the buffer. -/
theorem addFragment_other {now : Int} {out : IPv4FragBuf × Option IPv4Datagram}
    (hk : d.key ≠ k) (h : f.addFragment d now = .ok out) : out.1.find k = f.find k := by
  simp only [addFragment] at h
  split at h
  · split at h
    · cases h
    · cases h
      exact find_erase_of_ne f hk
  · cases h
    exact find_insert_of_ne f _ hk

end IPv4FragBuf

/-- A datagram that a receiver can cope with. -/
structure Sound (d : IPv4Datagram) : Prop where
  encapsulated : ∃ p, d.encapsulatedPacket = some p ∧ p.byteLength ≤ d.byteLength
  /-- Its offset is not an empty one of type `ushort`. -/
  offset : d.moreFragments = false → d.fragmentOffset = 0 ∨ d.fragmentOffset % 2 ^ 16 ≠ 0

theorem restorePayloadLength_ok (h : Sound d) :
    ∃ d', IPv4.restorePayloadLength d = .ok d' ∧ d'.key = d.key ∧ d'.fragmentOffset = d.fragmentOffset ∧
      d'.moreFragments = d.moreFragments := by
  obtain ⟨p, hp, hle⟩ := h.encapsulated
  rw [IPv4.restorePayloadLength]
  by_cases hzero : d.totalPayloadLength = 0
  · exact ⟨d, by rw [if_pos hzero], rfl, rfl, rfl⟩
  · simp only [if_neg hzero, hp]
    by_cases hsame : d.totalPayloadLength ≠ p.byteLength
    · simp only [if_pos hsame, decapsulate, hp, if_neg (Nat.not_lt.mpr hle), bind, Except.bind]
      exact ⟨_, rfl, rfl, rfl, rfl⟩
    · exact ⟨d, by rw [if_neg hsame], rfl, rfl, rfl⟩

/-- Nothing is restored where nothing was cut. -/
theorem restored_eq_self
    (h : d.totalPayloadLength = 0 ∨ d.totalPayloadLength = d.payloadLength) : restored d = d := by
  have hsame : (d.encapsulatedPacket.map fun p =>
      { p with byteLength := if d.totalPayloadLength = 0 then p.byteLength else d.totalPayloadLength }) =
      d.encapsulatedPacket := by
    cases hp : d.encapsulatedPacket with
    | none => rfl
    | some p =>
      rw [payloadLength, hp] at h
      simp only [Option.map_some, Option.getD_some] at h ⊢
      congr 2
      split <;> omega
  rw [restored, hsame]

/-- For a part, restoring changes nothing but the length of the payload. -/
theorem restorePayloadLength_part {start d : IPv4Datagram} {n : Nat} (h : Part start n d) :
    IPv4.restorePayloadLength d = .ok (restored d) := by
  obtain ⟨p, hp⟩ := h.encapsulated
  have hlen := h.byteLength
  have hpl : d.payloadLength = p.byteLength := by simp [payloadLength, hp]
  rw [IPv4.restorePayloadLength]
  by_cases hzero : d.totalPayloadLength = 0
  · rw [if_pos hzero, restored_eq_self (.inl hzero)]
  · have hle : ¬ d.byteLength < p.byteLength := by omega
    have hsub : d.byteLength - p.byteLength = d.headerLength := by omega
    simp only [if_neg hzero, hp]
    by_cases hsame : d.totalPayloadLength ≠ p.byteLength
    · simp only [if_pos hsame, decapsulate, hp, if_neg hle, hsub, bind, Except.bind,
        encapsulate, restored, if_neg hzero]
      rfl
    · have heq : d.totalPayloadLength = d.payloadLength := by omega
      rw [if_neg hsame, restored_eq_self (.inr heq)]

/-- Nothing goes wrong with a fragment of another datagram. -/
theorem addFragment_ok (f : IPv4FragBuf) (now : Int)
    (h : d.moreFragments = true ∨ d.fragmentOffset % 2 ^ 16 ≠ 0) : ∃ out, f.addFragment d now = .ok out := by
  simp only [addFragment]
  by_cases hcomplete : (((f.find d.key).map DatagramBuffer.buf).getD .init |>.addFragment d.fragmentOffset
      (d.fragmentOffset + (d.byteLength - d.headerLength)) (!d.moreFragments)).2 = true
  · rw [if_pos hcomplete]
    cases hfind : f.find d.key with
    | some b => exact ⟨_, rfl⟩
    | none =>
      -- the first fragment of a datagram does not complete it
      rw [hfind] at hcomplete
      obtain ⟨hzero, hlast⟩ := ReassemblyBuffer.addFragment_init hcomplete
      cases h with
      | inl hmore => rw [hmore] at hlast; cases hlast
      | inr hne => exact absurd hzero hne
  · rw [if_neg hcomplete]
    exact ⟨_, rfl⟩

/-- The purge before a fragment is added, if it is one, leaves the buffer with key `k` alone. -/
def IPv4.Keeps (second : Int) (ip : IPv4) (k : Key) (now : Int) (d : IPv4Datagram) : Prop :=
  d.fragmentOffset ≠ 0 ∨ d.moreFragments = true → (ip.purge second now).1.fragbuf.find k = ip.fragbuf.find k

theorem reassembleAndDeliver_other (second now : Int) {ip : IPv4} {k : Key} (h : Sound d)
    (hk : d.key ≠ k) (hkept : ip.Keeps second k now d) :
    ∃ ip' out, ip.reassembleAndDeliver second now d = .ok (ip', out) ∧ ip'.fragbuf.find k = ip.fragbuf.find k := by
  rw [IPv4.reassembleAndDeliver]
  by_cases hfrag : d.fragmentOffset ≠ 0 ∨ d.moreFragments = true
  · obtain ⟨d', hd', hkey, hoff, hmore⟩ := restorePayloadLength_ok h
    have hmore' : d'.moreFragments = true ∨ d'.fragmentOffset % 2 ^ 16 ≠ 0 := by
      rw [hoff, hmore]
      cases hm : d.moreFragments with
      | true => exact .inl rfl
      | false =>
        refine .inr ((h.offset hm).resolve_left ?_)
        simpa [hm] using hfrag
    obtain ⟨⟨f', complete⟩, hadd⟩ := addFragment_ok (ip.purge second now).1.fragbuf now hmore'
    have hother := addFragment_other (by rw [hkey]; exact hk) hadd
    rw [if_pos hfrag]
    refine ⟨{ (ip.purge second now).1 with fragbuf := f' }, ⟨complete, (ip.purge second now).2⟩, ?_, ?_⟩
    · simp only [hd', hadd, bind, Except.bind, pure, Except.pure]
    · exact hother.trans (hkept hfrag)
  · exact ⟨ip, _, if_neg hfrag, rfl⟩

section Receiver

variable {start : IPv4Datagram} {n : Nat} {frags : List InFlight} {k : Key} {held : List IPv4Datagram}

theorem OnTheWay.pos (h : OnTheWay start n frags) (hcut : ∀ x ∈ frags, 0 < x.cuts) :
    ∀ x ∈ frags, x.lo < x.hi := by
  intro x hx
  have hrec := h.recorded x hx
  have hx' := hcut x hx
  have hpos : 0 < x.datagram.payloadLength := by
    obtain ⟨cuts, d⟩ := x
    cases cuts with
    | zero => cases hx'
    | succ cuts =>
      cases cuts with
      | zero => exact hrec.2.2
      | succ cuts => exact hrec.2.2
  simp only [lo, hi, payloadEnd]
  omega

theorem OnTheWay.payload_lt (h : OnTheWay start n frags) (hcut : ∀ x ∈ frags, 0 < x.cuts) :
    ∀ x ∈ frags, x.datagram.payloadLength < n := by
  intro x hx
  have hrec := h.recorded x hx
  have hx' := hcut x hx
  obtain ⟨cuts, d⟩ := x
  cases cuts with
  | zero => cases hx'
  | succ cuts =>
    cases cuts with
    | zero => exact hrec.2.1
    | succ cuts => exact Nat.lt_trans hrec.1 hrec.2.1

/-- The buffer of the datagram holds what has arrived of it since it was last complete. -/
def Waiting (n : Nat) (frags : List InFlight) (k : Key) (f : IPv4FragBuf) : List IPv4Datagram → Prop
  | [] => f.find k = none
  | first :: l => (∃ x ∈ frags, x.datagram = first) ∧ ∃ b, f.find k = some b ∧ b.datagram = restored first ∧
      b.buf.Holds InFlight.lo InFlight.hi n frags (fun x => x.datagram ∈ first :: l)

theorem Waiting.of_find {f f' : IPv4FragBuf} (h : Waiting n frags k f held)
    (hfind : f'.find k = f.find k) : Waiting n frags k f' held := by
  cases held with
  | nil => exact hfind.trans h
  | cons first l =>
    obtain ⟨hfirst, b, hb, hrest⟩ := h
    exact ⟨hfirst, b, hfind.trans hb, hrest⟩

section

variable (h : OnTheWay start n frags)
include h

/-- Fragments are told apart by their offsets. -/
theorem datagram_inj (hcut : ∀ x ∈ frags, 0 < x.cuts) {x y : InFlight}
    (hx : x ∈ frags) (hy : y ∈ frags) (heq : x.datagram = y.datagram) : x = y := by
  have hpx := h.pos hcut x hx
  have hpy := h.pos hcut y hy
  have hlo : x.lo = y.lo := by rw [lo, heq, lo]
  rcases h.tiles.eq_or_apart hx hy with hxy | hlt | hgt
  · exact hxy
  · omega
  · omega

theorem one_fragment_not_complete (hcut : ∀ x ∈ frags, 0 < x.cuts) (d : IPv4Datagram) :
    ¬ Complete frags [d] := by
  intro hall
  obtain ⟨x, hx, hlo⟩ := h.tiles.exists_first h.ne_nil
  obtain ⟨y, hy, hhi⟩ := h.tiles.exists_last h.ne_nil
  have hxd := mem_singleton.mp (hall x hx)
  have hyd := mem_singleton.mp (hall y hy)
  have hxy := datagram_inj h hcut hx hy (hxd.trans hyd.symm)
  have hless := h.payload_lt hcut x hx
  rw [← hxy, hi, payloadEnd] at hhi
  rw [lo] at hlo
  omega

/-- The buffer after one more fragment. -/
theorem holds_addFragment (hcut : ∀ x ∈ frags, 0 < x.cuts) (hn : n < 2 ^ 16)
    {x : InFlight} (hx : x ∈ frags) {buf : ReassemblyBuffer}
    (hbuf : buf.Holds lo hi n frags (fun y => y.datagram ∈ held)) :
    ∃ buf', buf.addFragment x.lo (x.lo + (x.datagram.byteLength - x.datagram.headerLength))
        (!x.datagram.moreFragments) = (buf', decide (Complete frags (held ++ [x.datagram]))) ∧
      buf'.Holds lo hi n frags (fun y => y.datagram ∈ held ++ [x.datagram]) := by
  have hpart := h.part x hx
  have hmem := h.tiles.mem hx
  have hpos := h.pos hcut
  have hnpos : 0 < n := by
    have := hpos x hx
    omega
  have hbytes : x.lo + (x.datagram.byteLength - x.datagram.headerLength) = x.hi := by
    rw [hpart.byteLength, Nat.add_sub_cancel_left]
    rfl
  have hlast : (!x.datagram.moreFragments) = decide (x.hi = n) := by
    rw [hpart.moreFragments, decide_not, Bool.not_not]
    rfl
  have hmerged : (buf.merge x.lo x.hi (decide (x.hi = n))).Holds lo hi n frags
      (fun y => y.datagram ∈ held ++ [x.datagram]) := by
    refine (hbuf.merge h.tiles hpos hx).congr fun y hy => ?_
    rw [mem_append, mem_singleton]
    refine or_congr Iff.rfl ⟨fun heq => datagram_inj h hcut hy hx heq, fun heq => by rw [heq]⟩
  refine ⟨_, ?_, hmerged⟩
  rw [hbytes, hlast, ReassemblyBuffer.addFragment, Nat.mod_eq_of_lt (by omega), Nat.mod_eq_of_lt (by omega)]
  congr 1
  rw [Bool.eq_iff_iff, hmerged.complete_iff hnpos h.tiles, decide_eq_true_iff]
  rfl

end

theorem Waiting.holds {f : IPv4FragBuf} (h : OnTheWay start n frags)
    (hcut : ∀ x ∈ frags, 0 < x.cuts) (hw : Waiting n frags k f held) :
    (((f.find k).map DatagramBuffer.buf).getD .init).Holds lo hi n frags
        (fun y => y.datagram ∈ held) ∧
      (f.find k).map DatagramBuffer.datagram = held.head?.map restored := by
  cases held with
  | nil =>
    have hnpos : 0 < n := by
      obtain ⟨x, hx, -⟩ := h.tiles.exists_first h.ne_nil
      have := h.pos hcut x hx
      have := h.tiles.mem hx
      omega
    rw [Waiting] at hw
    rw [hw]
    refine ⟨(ReassemblyBuffer.Holds.init hnpos (h.pos hcut)).congr fun x _ => ?_, rfl⟩
    simp
  | cons first l =>
    obtain ⟨-, b, hfind, hdatagram, hholds⟩ := hw
    rw [hfind]
    exact ⟨hholds, by simp [hdatagram]⟩

/-- One fragment more: the datagram is handed up when it is the last missing one. -/
theorem addFragment_waiting (h : OnTheWay start n frags) (hcut : ∀ x ∈ frags, 0 < x.cuts) (hn : n < 2 ^ 16)
    {x : InFlight} (hx : x ∈ frags) (hk : x.datagram.key = k) {f : IPv4FragBuf} (now : Int)
    (hw : Waiting n frags k f held) :
    ∃ f', f.addFragment (restored x.datagram) now =
        .ok (f', if Complete frags (held ++ [x.datagram]) then some (assembled n (held.headD x.datagram)) else none) ∧
      Waiting n frags k f'
        (if Complete frags (held ++ [x.datagram]) then [] else held ++ [x.datagram]) := by
  obtain ⟨hholds, hstored⟩ := hw.holds h hcut
  obtain ⟨buf', hadd, hbuf'⟩ := holds_addFragment h hcut hn hx hholds
  have hkept : stored ((f.find k).map DatagramBuffer.datagram) (restored x.datagram) =
      restored (held.headD x.datagram) := by
    rw [hstored]
    cases held with
    | nil => rfl
    | cons first l =>
      obtain ⟨⟨y, hy, heq⟩, -⟩ := hw
      obtain ⟨p, hp⟩ := (h.part y hy).encapsulated
      have hsome : (restored first).encapsulatedPacket ≠ none := by simp [restored, ← heq, hp]
      simp [stored, hsome]
  have hkey : (restored x.datagram).key = k := hk
  have hadd' : (((f.find k).map DatagramBuffer.buf).getD .init).addFragment (restored x.datagram).fragmentOffset
      ((restored x.datagram).fragmentOffset + ((restored x.datagram).byteLength - (restored x.datagram).headerLength))
      (!(restored x.datagram).moreFragments) = (buf', decide (Complete frags (held ++ [x.datagram]))) := hadd
  simp only [addFragment, hkey, hkept, hadd']
  by_cases hcomplete : Complete frags (held ++ [x.datagram])
  · -- the buffer is given up
    cases held with
    | nil => exact absurd hcomplete (one_fragment_not_complete h hcut _)
    | cons first l =>
      obtain ⟨-, b, hfind, -⟩ := hw
      have htotal : buf'.getTotalLength = n := by
        have hnpos : 0 < n := by
          have := h.pos hcut x hx
          have := h.tiles.mem hx
          omega
        have hlast := (hbuf'.complete_iff hnpos h.tiles).mpr hcomplete
        rw [Bool.and_eq_true] at hlast
        exact hbuf'.getTotalLength hlast.2
      simp only [hcomplete, decide_true, if_true, hfind, htotal]
      exact ⟨_, rfl, find_erase_self f k⟩
  · simp only [hcomplete, decide_false, Bool.false_eq_true, if_false]
    refine ⟨_, rfl, ?_⟩
    cases held with
    | nil => exact ⟨⟨x, hx, rfl⟩, _, find_insert_self f k _, rfl, hbuf'⟩
    | cons first l => exact ⟨hw.1, _, find_insert_self f k _, rfl, hbuf'⟩

end Receiver

end Inet.Ipv4
