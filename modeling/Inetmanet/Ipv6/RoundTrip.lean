import Inetmanet.Ipv6.Fragments

/-!
# Round trip of a fragmented IPv6 datagram

The fragments reach the reassembly buffer in any order and with any duplicates,
while it holds fragments of other datagrams.
-/
namespace Inet.Ipv6

open Tiling List Except IPv6Datagram IPv6FragBuf

structure Arrival where
  time : Int
  datagram : IPv6Datagram
  deriving DecidableEq, Repr

/-- What the calls of `addFragment` return for a sequence of fragments. -/
def feed (f : IPv6FragBuf) : List Arrival → Sim (IPv6FragBuf × List (Option IPv6Datagram))
  | [] => .ok (f, [])
  | a :: l =>
    match a.datagram.fragmentHeader with
    | none => .error (.nullPointer "fh")
    | some fh => do
      let (f, out) ← f.addFragment a.datagram fh a.time
      let (f, outs) ← feed f l
      return (f, out.returned :: outs)

/-- Every fragment has arrived. -/
def Complete (l received : List IPv6Datagram) : Prop := ∀ x ∈ l, x ∈ received
deriving Decidable

/-- The fragments of `d`, as the receiver sees them. -/
structure CutInto (d : IPv6Datagram) (k : Key) (l : List IPv6Datagram) : Prop where
  tiles : Tiles IPv6Datagram.partBeg IPv6Datagram.partEnd 0 d.payloadLength l
  piece : ∀ x ∈ l, IsPiece d k x
  two : ∃ x ∈ l, ∃ y ∈ l, x ≠ y
  payload : d.payloadLength < 2 ^ 16
  byteLength : d.byteLength = d.calculateUnfragmentableHeaderByteLength + d.payloadLength

section Receiver

variable {d x : IPv6Datagram} {k : Key} {l held received : List IPv6Datagram} {f f' : IPv6FragBuf}

theorem Complete.append (h : Complete l held) (m : List IPv6Datagram) : Complete l (held ++ m) :=
  fun x hx => mem_append_left _ (h x hx)

theorem CutInto.not_complete_nil (h : CutInto d k l) : ¬ Complete l [] := by
  intro hall
  obtain ⟨x, hx, -⟩ := h.two
  cases hall x hx

theorem CutInto.not_complete_single (h : CutInto d k l) (x : IPv6Datagram) : ¬ Complete l [x] := by
  intro hall
  obtain ⟨y, hy, z, hz, hne⟩ := h.two
  exact hne ((mem_singleton.mp (hall y hy)).trans (mem_singleton.mp (hall z hz)).symm)

theorem CutInto.payload_pos (h : CutInto d k l) : 0 < d.payloadLength := by
  obtain ⟨x, hx, -⟩ := h.two
  have := (h.piece x hx).pos
  have := h.tiles.mem hx
  omega

/-- The buffer of the datagram holds what has arrived of it since it was last complete. -/
def Waiting (d : IPv6Datagram) (k : Key) (l : List IPv6Datagram) (f : IPv6FragBuf) (held : List IPv6Datagram) : Prop :=
  if held = [] then f.find k = none
  else ∃ b, f.find k = some b ∧
    b.buf.Holds IPv6Datagram.partBeg IPv6Datagram.partEnd d.payloadLength l (fun x => x ∈ held) ∧
    ∀ x ∈ l, x.partBeg = 0 → x ∈ held → b.datagram = some x

section

variable (h : CutInto d k l)
include h

/-- A buffer that has just been made holds nothing. -/
theorem Waiting.holds (hw : Waiting d k l f held) (now : Int) :
    ((f.find k).getD ⟨.init, none, now⟩).buf.Holds partBeg partEnd d.payloadLength l
        (fun x => x ∈ held) ∧
      ∀ x ∈ l, x.partBeg = 0 → x ∈ held → ((f.find k).getD ⟨.init, none, now⟩).datagram = some x := by
  unfold Waiting at hw
  split at hw
  · rename_i hnil
    rw [hw, hnil]
    have hinit := ReassemblyBuffer.Holds.init h.payload_pos fun x hx => (h.piece x hx).pos
    exact ⟨hinit.congr fun x _ => by simp, fun x _ _ hx => by cases hx⟩
  · obtain ⟨b, hfind, hrest⟩ := hw
    rw [hfind]
    exact hrest

/-- Fragments are told apart by their offsets. -/
theorem CutInto.eq_of_partBeg {x y : IPv6Datagram} (hx : x ∈ l) (hy : y ∈ l)
    (heq : x.partBeg = y.partBeg) : x = y := by
  have hpx := (h.piece x hx).pos
  have hpy := (h.piece y hy).pos
  rcases h.tiles.eq_or_apart hx hy with hxy | hlt | hgt
  · exact hxy
  · omega
  · omega

/-- The regions after one more fragment. -/
theorem CutInto.addFragment_buf (hx : x ∈ l) {buf : ReassemblyBuffer}
    (hbuf : buf.Holds partBeg partEnd d.payloadLength l (fun y => y ∈ held)) :
    ∃ buf', buf.addFragment x.partBeg (((x.partBeg : Int) + (x.partEnd - x.partBeg : Nat)) % 2 ^ 16).toNat
        (!decide (x.partEnd ≠ d.payloadLength)) = (buf', decide (Complete l (held ++ [x]))) ∧
      buf'.Holds partBeg partEnd d.payloadLength l (fun y => y ∈ held ++ [x]) := by
  have hmem := h.tiles.mem hx
  have hn := h.payload
  have hpos : ∀ y ∈ l, y.partBeg < y.partEnd := fun y hy => (h.piece y hy).pos
  have hend : (((x.partBeg : Int) + (x.partEnd - x.partBeg : Nat)) % 2 ^ 16).toNat = x.partEnd := by
    omega
  have hlast : (!decide (x.partEnd ≠ d.payloadLength)) = decide (x.partEnd = d.payloadLength) := by
    rw [decide_not, Bool.not_not]
  have hmerged : (buf.merge x.partBeg x.partEnd (decide (x.partEnd = d.payloadLength))).Holds partBeg
      partEnd d.payloadLength l (fun y => y ∈ held ++ [x]) := by
    refine (hbuf.merge h.tiles hpos hx).congr fun y hy => ?_
    rw [mem_append, mem_singleton]
  refine ⟨_, ?_, hmerged⟩
  rw [hend, hlast, ReassemblyBuffer.addFragment, Nat.mod_eq_of_lt (by omega), Nat.mod_eq_of_lt (by omega)]
  congr 1
  rw [Bool.eq_iff_iff, hmerged.complete_iff h.payload_pos h.tiles, decide_eq_true_iff]
  rfl

/-- One fragment more: the datagram is returned when it is the last missing one. -/
theorem addFragment_waiting (hx : x ∈ l) {fh : IPv6FragmentHeader}
    (hfh : x.fragmentHeader = some fh) (now : Int) (hw : Waiting d k l f held) :
    ∃ f', f.addFragment x fh now =
        .ok (f', ⟨if Complete l (held ++ [x]) then some d else none, none⟩) ∧
      Waiting d k l f' (if Complete l (held ++ [x]) then [] else held ++ [x]) := by
  have hpiece := h.piece x hx
  obtain ⟨fh', hfh', hident, hoffset, hmore⟩ := hpiece.header
  rw [hfh] at hfh'
  cases hfh'
  have hkey : (⟨fh.identification, x.srcAddress, x.destAddress⟩ : Key) = k := by
    rw [hident, hpiece.srcAddress, hpiece.destAddress]
  obtain ⟨hholds, hstored⟩ := hw.holds h now
  obtain ⟨buf', hadd, hbuf'⟩ := h.addFragment_buf hx hholds
  have haligned : ¬ (decide (x.partEnd ≠ d.payloadLength) = true ∧
      ((x.partEnd - x.partBeg : Nat) : Int) % 8 ≠ 0) := by
    rintro ⟨hm, hne⟩
    rw [decide_eq_true_iff] at hm
    have := hpiece.aligned hm
    omega
  have hfits : ¬ (x.partBeg : Int) + ((x.partEnd - x.partBeg : Nat) : Int) > 65535 := by
    have := h.tiles.mem hx
    have := h.payload
    omega
  have hkept : ∀ y ∈ l, y.partBeg = 0 → y ∈ held ++ [x] →
      stored ((f.find k).getD ⟨.init, none, now⟩).datagram x x.partBeg = some y := by
    intro y hy hzero hmem
    unfold stored
    by_cases hfirst : x.partBeg = 0
    · rw [if_pos hfirst, h.eq_of_partBeg hy hx (hzero.trans hfirst.symm)]
    · rw [if_neg hfirst]
      refine hstored y hy hzero ((mem_append.mp hmem).resolve_right fun hyx => hfirst ?_)
      rw [← mem_singleton.mp hyx]
      exact hzero
  simp only [addFragment, hkey, hpiece.length, bind, Except.bind, hoffset, hmore, if_neg haligned,
    if_neg hfits, hadd, pure, Except.pure]
  by_cases hcomplete : Complete l (held ++ [x])
  · -- the buffer is given up
    have hne : held ≠ [] := by
      intro hnil
      rw [hnil] at hcomplete
      exact h.not_complete_single x hcomplete
    rw [Waiting, if_neg hne] at hw
    obtain ⟨b, hfind, -⟩ := hw
    obtain ⟨y, hy, hlo⟩ := h.tiles.exists_first (fun hnil => by rw [hnil] at hx; cases hx)
    have hret := hkept y hy hlo (hcomplete y hy)
    have htotal : buf'.getTotalLength = d.payloadLength := by
      have hlast := (hbuf'.complete_iff h.payload_pos h.tiles).mpr hcomplete
      rw [Bool.and_eq_true] at hlast
      exact hbuf'.getTotalLength hlast.2
    have hunfrag : y.removeFragmentHeader.calculateUnfragmentableHeaderByteLength =
        d.calculateUnfragmentableHeaderByteLength := by
      unfold calculateUnfragmentableHeaderByteLength
      rw [(h.piece y hy).headers]
    rw [if_pos hcomplete, if_pos hcomplete, if_pos (decide_eq_true hcomplete)]
    refine ⟨f.erase k, ?_, by rw [Waiting, if_pos rfl]; exact find_erase_self f k⟩
    simp only [complete, hret]
    simp only [hfind, hunfrag, htotal, ← h.byteLength, (h.piece y hy).restored hlo]
  · rw [if_neg hcomplete, if_neg hcomplete, if_neg (fun heq => hcomplete (of_decide_eq_true heq))]
    refine ⟨_, rfl, ?_⟩
    rw [Waiting, if_neg (by simp)]
    exact ⟨_, find_insert_self f k _, hbuf', hkept⟩

end

end Receiver

section Run

variable {d x : IPv6Datagram} {k : Key} {l held : List IPv6Datagram} {f : IPv6FragBuf} {arrivals : List Arrival}

theorem feed_append (f : IPv6FragBuf) (p q : List Arrival) :
    feed f (p ++ q) = (do
      let (f, outs) ← feed f p
      let (f, outs') ← feed f q
      return (f, outs ++ outs')) := by
  induction p generalizing f with
  | nil =>
    cases hq : feed f q with
    | error e => simp [feed, hq, bind, Except.bind]
    | ok res => simp [feed, hq, bind, Except.bind, pure, Except.pure]
  | cons a p ih =>
    rw [cons_append, feed, feed]
    cases a.datagram.fragmentHeader with
    | none => rfl
    | some fh =>
      cases hadd : f.addFragment a.datagram fh a.time with
      | error e => simp only [bind, Except.bind, hadd]
      | ok res =>
        simp only [bind, Except.bind, hadd, ih res.1]
        cases hp : feed res.1 p with
        | error e => rfl
        | ok res' =>
          simp only [pure, Except.pure]
          cases hq : feed res'.1 q with
          | error e => rfl
          | ok res'' => rfl

theorem feed_single (h : CutInto d k l) {a : Arrival} (ha : a.datagram ∈ l) (hw : Waiting d k l f held) :
    ∃ f', feed f [a] = .ok (f', [if Complete l (held ++ [a.datagram]) then some d else none]) ∧
      Waiting d k l f' (if Complete l (held ++ [a.datagram]) then [] else held ++ [a.datagram]) := by
  obtain ⟨fh, hfh, -⟩ := (h.piece _ ha).header
  obtain ⟨f', hadd, hw'⟩ := addFragment_waiting h ha hfh a.time hw
  refine ⟨f', ?_, hw'⟩
  simp only [feed, hfh, hadd, bind, Except.bind, pure, Except.pure]

/-- As long as a fragment is missing, nothing is returned. -/
theorem feed_incomplete (h : CutInto d k l) (hours : ∀ a ∈ arrivals, a.datagram ∈ l) (hw : Waiting d k l f held)
    (hinc : ¬ Complete l (held ++ arrivals.map Arrival.datagram)) :
    ∃ f', feed f arrivals = .ok (f', replicate arrivals.length none) ∧
      Waiting d k l f' (held ++ arrivals.map Arrival.datagram) := by
  induction arrivals generalizing f held with
  | nil => exact ⟨f, rfl, by rwa [map_nil, append_nil]⟩
  | cons a p ih =>
    have hone : ¬ Complete l (held ++ [a.datagram]) := by
      intro hall
      have hmore := hall.append (p.map Arrival.datagram)
      rw [append_assoc] at hmore
      exact hinc hmore
    obtain ⟨f₁, hstep, hw₁⟩ := feed_single h (hours a (by simp)) hw
    rw [if_neg hone] at hstep hw₁
    have hassoc : held ++ [a.datagram] ++ p.map Arrival.datagram = held ++ (a :: p).map Arrival.datagram := by simp
    obtain ⟨f₂, hrest, hw₂⟩ := ih (fun b hb => hours b (mem_cons_of_mem _ hb)) hw₁ (by rwa [hassoc])
    rw [hassoc] at hw₂
    refine ⟨f₂, ?_, hw₂⟩
    have hcons : a :: p = [a] ++ p := rfl
    rw [hcons, feed_append, hstep]
    simp only [bind, Except.bind, hrest, pure, Except.pure]
    rfl

/-- The first time that none is missing any more. -/
theorem exists_first_complete (hinc : ¬ Complete l held)
    (hall : Complete l (held ++ arrivals.map Arrival.datagram)) :
    ∃ pre a post, arrivals = pre ++ a :: post ∧ ¬ Complete l (held ++ pre.map Arrival.datagram) ∧
      Complete l (held ++ pre.map Arrival.datagram ++ [a.datagram]) := by
  induction arrivals generalizing held with
  | nil =>
    rw [map_nil, append_nil] at hall
    exact absurd hall hinc
  | cons a p ih =>
    by_cases hone : Complete l (held ++ [a.datagram])
    · exact ⟨[], a, p, rfl, by simpa using hinc, by simpa using hone⟩
    · obtain ⟨pre, b, post, hp, hpre, hcomplete⟩ := ih hone (by simpa using hall)
      refine ⟨a :: pre, b, post, by rw [hp]; rfl, by simpa using hpre, by simpa using hcomplete⟩

/-- The call that completes the set returns the datagram, and gives the buffer up. -/
theorem feed_complete (h : CutInto d k l) {pre : List Arrival} {a : Arrival}
    (hours : ∀ b ∈ pre ++ [a], b.datagram ∈ l) (hw : Waiting d k l f held)
    (hpre : ¬ Complete l (held ++ pre.map Arrival.datagram))
    (hall : Complete l (held ++ pre.map Arrival.datagram ++ [a.datagram])) :
    ∃ f', feed f (pre ++ [a]) = .ok (f', replicate pre.length none ++ [some d]) ∧ f'.find k = none := by
  obtain ⟨f₁, hfeed, hw₁⟩ := feed_incomplete h (fun b hb => hours b (mem_append_left _ hb)) hw hpre
  obtain ⟨f₂, hstep, hw₂⟩ := feed_single h (hours a (by simp)) hw₁
  rw [if_pos hall] at hstep hw₂
  refine ⟨f₂, ?_, by rwa [Waiting, if_pos rfl] at hw₂⟩
  rw [feed_append, hfeed]
  simp only [bind, Except.bind, hstep, pure, Except.pure]

/-- A run of fragments goes through, whatever it brings. -/
theorem feed_ok (h : CutInto d k l) (hours : ∀ a ∈ arrivals, a.datagram ∈ l) (hw : Waiting d k l f held) :
    ∃ f' outs held', feed f arrivals = .ok (f', outs) ∧ Waiting d k l f' held' := by
  induction arrivals generalizing f held with
  | nil => exact ⟨f, [], held, rfl, hw⟩
  | cons a p ih =>
    obtain ⟨f₁, hstep, hw₁⟩ := feed_single h (hours a (by simp)) hw
    obtain ⟨f₂, outs, held', hrest, hw₂⟩ := ih (fun b hb => hours b (mem_cons_of_mem _ hb)) hw₁
    refine ⟨f₂, [if Complete l (held ++ [a.datagram]) then some d else none] ++ outs, held', ?_, hw₂⟩
    have hcons : a :: p = [a] ++ p := rfl
    rw [hcons, feed_append, hstep]
    simp only [bind, Except.bind, hrest, pure, Except.pure]

end Run

/-- The fragments have the parts of the payload of `d` one after the other. -/
structure Fragmented (d : IPv6Datagram) (mtu : Nat) (l : List IPv6Datagram) : Prop where
  tiles : Tiles IPv6Datagram.partBeg IPv6Datagram.partEnd 0 d.payloadLength l
  moreFragments : ∀ x ∈ l, x.moreFragments = decide (x.partEnd ≠ d.payloadLength)
  aligned : ∀ x ∈ l, x.partEnd ≠ d.payloadLength → 8 ∣ x.partEnd - x.partBeg
  fits : ∀ x ∈ l, x.byteLength ≤ mtu
  headers : ∀ x ∈ l, x.removeFragmentHeader.extensionHeaders = d.extensionHeaders

/-- The call that completes the set, and no other one, returns a datagram, and nothing is left of it. -/
def ReturnedOnce (d : IPv6Datagram) (k : Key) (l : List IPv6Datagram) (f : IPv6FragBuf) (arrivals : List Arrival) :
    Prop :=
  ∃ f' outs pre a post, feed f arrivals = .ok (f', outs) ∧ arrivals = pre ++ a :: post ∧
    ¬ Complete l (pre.map Arrival.datagram) ∧ Complete l ((pre ++ [a]).map Arrival.datagram) ∧
    outs = List.replicate pre.length none ++ some d :: List.replicate post.length none ∧ f'.find k = none

/-- The last fragment to arrive arrives for the first time. -/
def NoLateCopy (arrivals : List Arrival) : Prop :=
  ∀ pre a, arrivals = pre ++ [a] → a.datagram ∉ pre.map Arrival.datagram

section RoundTrip

variable {d : IPv6Datagram} {k : Key} {l : List IPv6Datagram} {f : IPv6FragBuf} {arrivals : List Arrival}

theorem returnedOnce_iff (h : CutInto d k l) (hf : f.find k = none)
    (hours : ∀ x, x ∈ arrivals.map Arrival.datagram ↔ x ∈ l) :
    ReturnedOnce d k l f arrivals ↔ NoLateCopy arrivals := by
  have hw : Waiting d k l f [] := by rwa [Waiting, if_pos rfl]
  have hall : Complete l (arrivals.map Arrival.datagram) := fun x hx => (hours x).mpr hx
  have hmem : ∀ a ∈ arrivals, a.datagram ∈ l := fun a ha => (hours _).mp (mem_map_of_mem ha)
  constructor
  · rintro ⟨f', outs, pre, a, post, hfeed, heq, hpre, hcomplete, houts, hnone⟩
    have hsub : ∀ b ∈ pre ++ [a], b.datagram ∈ l := by
      intro b hb
      refine hmem b ?_
      rw [heq]
      simp only [mem_append, mem_cons] at hb ⊢
      exact hb.imp_right fun h => .inl (h.resolve_right not_mem_nil)
    have hsub' : ∀ b ∈ post, b.datagram ∈ l := fun b hb => hmem b (by rw [heq]; simp [hb])
    obtain ⟨f₁, hfeed₁, hf₁⟩ := feed_complete h hsub hw (by simpa using hpre) (by simpa using hcomplete)
    have hw₁ : Waiting d k l f₁ [] := by rwa [Waiting, if_pos rfl]
    -- what comes after the datagram is complete neither completes it again nor is forgotten
    have hsplit : arrivals = (pre ++ [a]) ++ post := by simp [heq]
    obtain ⟨f₂, outs₂, held₂, hfeed₂, -⟩ := feed_ok h hsub' hw₁
    rw [hsplit, feed_append, hfeed₁] at hfeed
    simp only [bind, Except.bind, hfeed₂, pure, Except.pure, ok.injEq, Prod.mk.injEq] at hfeed
    obtain ⟨rfl, hfeedouts⟩ := hfeed
    have houts₂ : outs₂ = replicate post.length none := by
      rw [houts, append_assoc] at hfeedouts
      have := append_cancel_left hfeedouts
      simpa using this
    have hpost : post = [] := by
      by_contra hne
      by_cases hagain : Complete l (post.map Arrival.datagram)
      · obtain ⟨pre', b, post', hp, hpre', hcomplete'⟩ := exists_first_complete h.not_complete_nil
          (by rwa [nil_append])
        have hsub₃ : ∀ c ∈ pre' ++ [b], c.datagram ∈ l := by
          intro c hc
          refine hsub' c ?_
          rw [hp]
          simp only [mem_append, mem_cons] at hc ⊢
          exact hc.imp_right fun h => .inl (h.resolve_right not_mem_nil)
        obtain ⟨f₃, hfeed₃, hf₃⟩ := feed_complete h hsub₃ hw₁ hpre' hcomplete'
        have hw₃ : Waiting d k l f₃ [] := by rwa [Waiting, if_pos rfl]
        have hsub₄ : ∀ c ∈ post', c.datagram ∈ l := fun c hc => hsub' c (by rw [hp]; simp [hc])
        obtain ⟨f₄, outs₄, held₄, hfeed₄, -⟩ := feed_ok h hsub₄ hw₃
        have hsplit' : post = (pre' ++ [b]) ++ post' := by simp [hp]
        rw [hsplit', feed_append, hfeed₃] at hfeed₂
        simp only [bind, Except.bind, hfeed₄, pure, Except.pure, ok.injEq, Prod.mk.injEq] at hfeed₂
        have hsome : some d ∈ replicate post.length none := by
          rw [← houts₂, ← hfeed₂.2]
          simp
        cases eq_of_mem_replicate hsome
      · obtain ⟨f₃, hfeed₃, hw₃⟩ := feed_incomplete h hsub' hw₁ (by rwa [nil_append])
        rw [hfeed₂] at hfeed₃
        obtain ⟨rfl, -⟩ := Prod.mk.inj (ok.inj hfeed₃)
        rw [Waiting, if_neg (by simpa using hne)] at hw₃
        obtain ⟨b, hb, -⟩ := hw₃
        rw [hnone] at hb
        cases hb
    intro pre' a' heq' hin
    rw [hpost] at heq
    obtain ⟨rfl, hcons⟩ := append_inj' (heq.symm.trans heq') rfl
    rw [← (cons.inj hcons).1] at hin
    refine hpre fun x hx => ?_
    have hx' := hcomplete x hx
    rw [map_append, mem_append] at hx'
    refine hx'.elim id fun hsame => ?_
    rw [mem_singleton.mp hsame]
    exact hin
  · intro hlate
    rcases eq_nil_or_concat arrivals with hnil | ⟨pre, a, hconcat⟩
    · rw [hnil] at hall
      exact absurd hall h.not_complete_nil
    · rw [concat_eq_append] at hconcat
      have hnew := hlate pre a hconcat
      have hpre : ¬ Complete l (pre.map Arrival.datagram) := by
        intro hcomplete
        refine hnew (hcomplete _ (hmem a ?_))
        rw [hconcat]
        simp
      rw [hconcat] at hall hmem
      obtain ⟨f', hfeed, hnone⟩ := feed_complete h hmem hw (by simpa using hpre) (by simpa using hall)
      exact ⟨f', _, pre, a, [], by rw [hconcat]; exact hfeed, hconcat, hpre, hall, by simp, hnone⟩

/-- `fragmentAndSend` gets as far as cutting the datagram. -/
structure NeedsCut (d : IPv6Datagram) (ie : InterfaceEntry) : Prop where
  hopLimit : 0 < d.hopLimit
  source : needsSource d true = true → ie.preferredAddress ≠ 0 ∧ ie.isTentative = false
  wide : ie.mtu < d.byteLength

variable {ie : InterfaceEntry}

theorem NeedsCut.fragmentAndSend_eq (h : NeedsCut d ie) (ip : IPv6) :
    fragmentAndSend ip d ie true = createFragments ip (stamp d ie true) ie.mtu := by
  have hhop := h.hopLimit
  have hwide := h.wide
  have hlen : (stamp d ie true).byteLength = d.byteLength := by
    unfold stamp
    split <;> rfl
  rw [fragmentAndSend, if_neg (by omega), if_neg (fun hs => (h.source hs.1).1 hs.2), if_neg (fun hs => ?_),
    sendWithSource, hlen, if_neg (by omega), if_neg (by simp)]
  rw [(h.source hs.1).2] at hs
  cases hs.2

theorem cutInto_pieces (ident : BitVec 32) {mtu : Nat} (h : Sendable d) (hn : d.payloadLength < 2 ^ 16)
    (hwide : mtu < d.byteLength) (hnot : NotFragment d) (hroom : HasRoom d mtu) (hsplit : SplitsAtFragmentHeader d) :
    CutInto d ⟨ident, d.srcAddress, d.destAddress⟩ (pieces d ident mtu) where
  tiles := pieces_tiles h hnot hsplit hn hroom
  piece _ hx := pieces_isPiece h hnot hsplit hn hroom hx
  two := by
    obtain ⟨l, hl⟩ := pieces_two ident hwide hroom
    refine ⟨pieceOf d ident mtu 0, by rw [hl]; simp, pieceOf d ident mtu (cutLength d mtu), by rw [hl]; simp, ?_⟩
    intro heq
    have hbeg := congrArg partBeg heq
    have hlt := cutLength_lt hwide hroom
    have hpos := hasRoom_iff.mp hroom
    rw [partBeg_pieceOf h hnot, partBeg_pieceOf h hnot, Nat.mod_eq_of_lt (Nat.lt_trans hlt hn)] at hbeg
    omega
  payload := hn
  byteLength := by
    unfold HasRoom at hroom
    unfold payloadLength
    omega

/-- The fragments of `d` are what they should be, and give `d` back, with its source address. -/
def RoundTrip (ip : IPv6) (d : IPv6Datagram) (ie : InterfaceEntry) (f : IPv6FragBuf) (arrivals : List Arrival) : Prop :=
  ∃ ip' l, fragmentAndSend ip d ie true = .ok (ip', .sent l) ∧ Fragmented (stamp d ie true) ie.mtu l ∧
    ReturnedOnce (stamp d ie true) ⟨ip.curFragmentId, (stamp d ie true).srcAddress, d.destAddress⟩ l f arrivals

/-- A datagram that needs to be cut comes back from its fragments just if it has no fragment header yet, its
unfragmentable headers leave room, nothing else is put in front of the fragment header, and no copy of a fragment
comes after the last missing one. -/
theorem fragments_round_trip_iff {ip : IPv6} (hd : Sendable d) (hlen : d.byteLength ≤ 40 + 65535) (hcut : NeedsCut d ie)
    (hf : f.find ⟨ip.curFragmentId, (stamp d ie true).srcAddress, d.destAddress⟩ = none)
    (harrivals : ∀ ip' l, fragmentAndSend ip d ie true = .ok (ip', .sent l) →
      ∀ x, x ∈ arrivals.map Arrival.datagram ↔ x ∈ l) :
    RoundTrip ip d ie f arrivals ↔
      NotFragment d ∧ HasRoom d ie.mtu ∧ SplitsAtFragmentHeader d ∧ NoLateCopy arrivals := by
  have hwide := hcut.wide
  have heq := hcut.fragmentAndSend_eq ip
  rw [heq] at harrivals
  unfold RoundTrip
  rw [heq]
  have hsame : (stamp d ie true).extensionHeaders = d.extensionHeaders ∧ (stamp d ie true).byteLength = d.byteLength ∧
      (stamp d ie true).destAddress = d.destAddress ∧ (stamp d ie true).encapsulatedPacket = d.encapsulatedPacket := by
    unfold stamp
    split <;> exact ⟨rfl, rfl, rfl, rfl⟩
  generalize stamp d ie true = d' at heq harrivals hsame hf ⊢
  obtain ⟨hheaders, hbyte, hdest, hpacket⟩ := hsame
  have hunfrag : d'.calculateUnfragmentableHeaderByteLength = d.calculateUnfragmentableHeaderByteLength := by
    unfold IPv6Datagram.calculateUnfragmentableHeaderByteLength
    rw [hheaders]
  have hd' : Sendable d' := by
    refine ⟨by rw [hheaders]; exact hd.built, ?_⟩
    rw [hbyte, hd.byteLength, hpacket]
    unfold calculateHeaderByteLength
    rw [hheaders]
  have hnot : NotFragment d ↔ NotFragment d' := by rw [NotFragment, NotFragment, hheaders]
  have hroom : HasRoom d ie.mtu ↔ HasRoom d' ie.mtu := by rw [HasRoom, HasRoom, hunfrag]
  have hsplit : SplitsAtFragmentHeader d ↔ SplitsAtFragmentHeader d' := by
    rw [SplitsAtFragmentHeader, SplitsAtFragmentHeader, hunfrag, hheaders]
  have hn : d'.payloadLength < 2 ^ 16 := by
    have : 40 ≤ d'.calculateUnfragmentableHeaderByteLength := Nat.le_add_right _ _
    unfold IPv6Datagram.payloadLength
    omega
  rw [← hbyte] at hwide
  rw [hnot, hroom, hsplit, ← hdest]
  rw [← hdest] at hf
  rw [createFragments_eq hd' hwide] at harrivals ⊢
  constructor
  · rintro ⟨ip', l, hsent, hfragmented, hreturned⟩
    by_cases hr : HasRoom d' ie.mtu
    · cases hany : d'.extensionHeaders.any isFragmentHeader with
      | true =>
        rw [if_neg (not_not_intro hr), if_pos hany] at hsent
        cases hsent
      | false =>
        rw [if_neg (not_not_intro hr), if_neg (by rw [hany]; exact Bool.false_ne_true)] at hsent harrivals
        simp only [ok.injEq, Prod.mk.injEq, SendOutcome.sent.injEq] at hsent
        obtain ⟨-, rfl⟩ := hsent
        have hs := splits_of_tiles hd' hany hn hwide hr hfragmented.tiles
        have hinto := cutInto_pieces ip.curFragmentId hd' hn hwide hany hr hs
        exact ⟨hany, hr, hs, (returnedOnce_iff hinto hf (harrivals _ _ rfl)).mp hreturned⟩
    · rw [if_pos hr] at hsent
      cases hsent
  · rintro ⟨hany, hr, hs, hlate⟩
    have hno : ¬ d'.extensionHeaders.any isFragmentHeader = true := by
      rw [show d'.extensionHeaders.any isFragmentHeader = false from hany]
      exact Bool.false_ne_true
    rw [if_neg (not_not_intro hr), if_neg hno] at harrivals ⊢
    have hinto := cutInto_pieces ip.curFragmentId hd' hn hwide hany hr hs
    refine ⟨_, _, rfl, ?_, (returnedOnce_iff hinto hf (harrivals _ _ rfl)).mpr hlate⟩
    refine ⟨hinto.tiles, ?_, fun x hx => (hinto.piece x hx).aligned, ?_, fun x hx => (hinto.piece x hx).headers⟩
    · intro x hx
      obtain ⟨fh, hfh, -, -, hmore⟩ := (hinto.piece x hx).header
      rw [IPv6Datagram.moreFragments, hfh]
      exact hmore
    · intro x hx
      obtain ⟨o, -, hxo⟩ := mem_map.mp hx
      rw [← hxo]
      exact pieceOf_le_mtu hr

end RoundTrip

section Example

/-- With one extension header of eight bytes. -/
def sample (extensionType : IPProtocolId) : IPv6Datagram :=
  ⟨1348, 1, 2, 30, [.plain extensionType 8], some ⟨0, 1300⟩⟩

def wire : InterfaceEntry := ⟨1280, 1, false⟩

theorem sample_sendable (extensionType : IPProtocolId) : Sendable (sample extensionType) := by
  have hadd : insertHeader (.plain extensionType 8) (getExtensionHeaderOrder (.plain extensionType 8)) [] =
      .ok [.plain extensionType 8] := by
    rw [insertHeader]
  exact ⟨Built.add .nil hadd, rfl⟩

theorem sample_needsCut (extensionType : IPProtocolId) : NeedsCut (sample extensionType) wire :=
  ⟨by simp [sample], by simp [needsSource, sample], by simp [sample, wire]⟩

/-- The fragments of `sample .IP_PROT_IPv6EXT_DEST`; the destination options header is in front of the
fragment header in both. -/
def optionsFragment (length offset : Nat) (more : Bool) (packet : Option CPacket) : IPv6Datagram :=
  ⟨length, 1, 2, 30, [.plain .IP_PROT_IPv6EXT_DEST 8, .fragment ⟨0, offset, more⟩], packet⟩

/-- Both fragments arrive, in order, and the datagram never comes back: its first 1232 bytes are taken
for 1224. -/
theorem destination_options_not_returned :
    Sendable (sample .IP_PROT_IPv6EXT_DEST) ∧ NeedsCut (sample .IP_PROT_IPv6EXT_DEST) wire ∧
    fragmentAndSend ⟨0⟩ (sample .IP_PROT_IPv6EXT_DEST) wire true = .ok (⟨1⟩,
      .sent [optionsFragment 1280 0 true (some ⟨0, 1300⟩), optionsFragment 124 1232 false none]) ∧
    feed ⟨[]⟩ [⟨0, optionsFragment 1280 0 true (some ⟨0, 1300⟩)⟩, ⟨1, optionsFragment 124 1232 false none⟩] =
      .ok (⟨[(⟨0, 1, 2⟩, ⟨⟨⟨0, 1224, false⟩, [⟨1232, 1300, true⟩]⟩,
        some (optionsFragment 1280 0 true (some ⟨0, 1300⟩)), 0⟩)]⟩, [none, none]) ∧
    ¬ RoundTrip ⟨0⟩ (sample .IP_PROT_IPv6EXT_DEST) wire ⟨[]⟩
      [⟨0, optionsFragment 1280 0 true (some ⟨0, 1300⟩)⟩, ⟨1, optionsFragment 124 1232 false none⟩] := by
  have hfeed : feed ⟨[]⟩ [⟨0, optionsFragment 1280 0 true (some ⟨0, 1300⟩)⟩, ⟨1, optionsFragment 124 1232 false none⟩] =
      .ok (⟨[(⟨0, 1, 2⟩, ⟨⟨⟨0, 1224, false⟩, [⟨1232, 1300, true⟩]⟩,
        some (optionsFragment 1280 0 true (some ⟨0, 1300⟩)), 0⟩)]⟩, [none, none]) := by decide
  refine ⟨sample_sendable _, sample_needsCut _, by decide, hfeed, ?_⟩
  rintro ⟨ip', l, -, -, f', outs, pre, a, post, hrun, -, -, -, houts, -⟩
  have hmem : some (stamp (sample .IP_PROT_IPv6EXT_DEST) wire true) ∈ outs := by
    rw [houts]
    simp
  rw [← (Prod.mk.inj (ok.inj hrun)).2] at hmem
  simp at hmem

/-- The fragments of `sample .IP_PROT_IPv6EXT_HOP`. -/
def hopByHopFragment (length offset : Nat) (more : Bool) (packet : Option CPacket) : IPv6Datagram :=
  ⟨length, 1, 2, 30, [.plain .IP_PROT_IPv6EXT_HOP 8, .fragment ⟨0, offset, more⟩], packet⟩

/-- A hop-by-hop options header does no harm, in any order, with a duplicate. -/
theorem fragments_round_trip_iff_hopByHop :
    RoundTrip ⟨0⟩ (sample .IP_PROT_IPv6EXT_HOP) wire ⟨[]⟩ [⟨0, hopByHopFragment 132 1224 false none⟩,
      ⟨1, hopByHopFragment 132 1224 false none⟩, ⟨2, hopByHopFragment 1280 0 true (some ⟨0, 1300⟩)⟩] := by
  have hsent : fragmentAndSend ⟨0⟩ (sample .IP_PROT_IPv6EXT_HOP) wire true = .ok (⟨1⟩,
      .sent [hopByHopFragment 1280 0 true (some ⟨0, 1300⟩), hopByHopFragment 132 1224 false none]) := by
    decide
  refine (fragments_round_trip_iff (sample_sendable _) (by decide) (sample_needsCut _) rfl fun ip' l hl x => ?_).mpr
    ⟨rfl, by decide, rfl, fun pre a heq => ?_⟩
  · rw [hsent] at hl
    simp only [ok.injEq, Prod.mk.injEq, SendOutcome.sent.injEq] at hl
    rw [← hl.2]
    simp only [map_cons, map_nil, List.mem_cons, not_mem_nil, or_false]
    tauto
  · have hsplit : [⟨0, hopByHopFragment 132 1224 false none⟩, ⟨1, hopByHopFragment 132 1224 false none⟩] ++
        [⟨2, hopByHopFragment 1280 0 true (some ⟨0, 1300⟩)⟩] = pre ++ [a] := heq
    obtain ⟨rfl, hlast⟩ := append_inj' hsplit rfl
    rw [← (List.cons.inj hlast).1]
    decide

end Example

end Inet.Ipv6
