import Inetmanet.Ipv4.Reassembly

/-!
# Round trip of a fragmented datagram

From the sender over any number of routers to the receiver, in any order and with
any duplicates, among the fragments of other datagrams.
-/
namespace Inet.Ipv4

open Tiling List IPv4Datagram

/-- No timeout takes away what has arrived with key `k`. -/
def NoTimeout (second : Int) (k : Key) : IPv4 → List Arrival → Prop
  | _, [] => True
  | ip, a :: l => ip.Keeps second k a.time a.datagram ∧
      ∀ ip' out, ip.reassembleAndDeliver second a.time a.datagram = .ok (ip', out) → NoTimeout second k ip' l

/-- The arrivals with key `k`. -/
def ours (k : Key) (arrivals : List Arrival) : List IPv4Datagram :=
  (arrivals.map Arrival.datagram).filter fun d => d.key = k

theorem ours_cons (k : Key) (a : Arrival) (l : List Arrival) :
    ours k (a :: l) = if a.datagram.key = k then a.datagram :: ours k l else ours k l := by
  simp only [ours, map_cons, filter_cons, decide_eq_true_eq]

variable {x : InFlight}

section Receiver

variable {start : IPv4Datagram} {n : Nat} {frags : List InFlight} {k : Key} {held : List IPv4Datagram}
  {ip : IPv4} (second : Int)

section

variable (h : OnTheWay start n frags)
include h

theorem not_complete_nil : ¬ Complete frags [] := by
  intro hall
  obtain ⟨x, hx⟩ := exists_mem_of_ne_nil frags h.ne_nil
  cases hall x hx

/-- What was never cut is handed up as it is. -/
theorem reassembleAndDeliver_uncut (hfrags : frags = [x])
    (hx : x.cuts = 0) (now : Int) :
    ip.reassembleAndDeliver second now x.datagram = .ok (ip, ⟨some (assembled n x.datagram), []⟩) := by
  have hmem : x ∈ frags := by simp [hfrags]
  have hpart := h.part x hmem
  have hrec := h.recorded x hmem
  simp only [Recorded, hx] at hrec
  obtain ⟨htotal, hlo, hhi⟩ := hrec
  have hoff : x.datagram.fragmentOffset = 0 := hlo
  have hend : x.datagram.payloadEnd = n := hhi
  have hmore : x.datagram.moreFragments = false := by simp [hpart.moreFragments, hend]
  have hlen : x.datagram.byteLength = x.datagram.headerLength + n := by
    rw [hpart.byteLength, ← hend, payloadEnd, hoff, Nat.zero_add]
  have hsame : assembled n x.datagram = x.datagram := by
    rw [assembled, restored_eq_self (.inl htotal), ← hlen, ← hoff, ← hmore]
  rw [IPv4.reassembleAndDeliver, if_neg (by simp [hoff, hmore]), hsame]

theorem reassembleAndDeliver_cut (hcut : ∀ x ∈ frags, 0 < x.cuts) (hn : n < 2 ^ 16)
    (hx : x ∈ frags) (hk : x.datagram.key = k) {now : Int}
    (hw : Waiting n frags k ip.fragbuf held) (hkept : ip.Keeps second k now x.datagram) :
    ∃ ip' out, ip.reassembleAndDeliver second now x.datagram = .ok (ip', out) ∧
      out.delivered = (if Complete frags (held ++ [x.datagram]) then some (assembled n (held.headD x.datagram)) else none) ∧
      Waiting n frags k ip'.fragbuf
        (if Complete frags (held ++ [x.datagram]) then [] else held ++ [x.datagram]) := by
  have hpart := h.part x hx
  have hfrag : x.datagram.fragmentOffset ≠ 0 ∨ x.datagram.moreFragments = true := by
    have hless := h.payload_lt hcut x hx
    rw [hpart.moreFragments, decide_eq_true_iff, payloadEnd]
    omega
  have hw' : Waiting n frags k (ip.purge second now).1.fragbuf held := hw.of_find (hkept hfrag)
  obtain ⟨f', hadd, hwait⟩ := addFragment_waiting h hcut hn hx hk now hw'
  rw [IPv4.reassembleAndDeliver, if_pos hfrag]
  refine ⟨{ (ip.purge second now).1 with fragbuf := f' },
    ⟨if Complete frags (held ++ [x.datagram]) then some (assembled n (held.headD x.datagram)) else none,
      (ip.purge second now).2⟩, ?_, rfl, hwait⟩
  simp only [restorePayloadLength_part hpart, hadd, bind, Except.bind, pure, Except.pure]

/-- One arrival, of a datagram that may or may not have been cut. -/
theorem reassembleAndDeliver_ours (hn : (∀ x ∈ frags, 0 < x.cuts) → n < 2 ^ 16) (hx : x ∈ frags)
    (hk : x.datagram.key = k) {now : Int} (hinc : ¬ Complete frags held)
    (hw : Waiting n frags k ip.fragbuf held) (hkept : ip.Keeps second k now x.datagram) :
    ∃ ip' out, ip.reassembleAndDeliver second now x.datagram = .ok (ip', out) ∧
      out.delivered = (if Complete frags (held ++ [x.datagram]) then some (assembled n (held.headD x.datagram)) else none) ∧
      Waiting n frags k ip'.fragbuf
        (if Complete frags (held ++ [x.datagram]) then [] else held ++ [x.datagram]) := by
  cases h.uncut with
  | inr hcut => exact reassembleAndDeliver_cut second h hcut (hn hcut) hx hk hw hkept
  | inl huncut =>
    obtain ⟨y, hfrags, hy⟩ := huncut
    have hxy : x = y := by simpa [hfrags] using hx
    rw [← hxy] at hfrags hy
    cases held with
    | nil =>
      have hall : Complete frags ([] ++ [x.datagram]) := by simp [Complete, hfrags]
      refine ⟨ip, _, reassembleAndDeliver_uncut second h hfrags hy now, ?_, ?_⟩
      · rw [if_pos hall]
        rfl
      · rw [if_pos hall]
        exact hw
    | cons first l =>
      -- it would have been handed up before
      obtain ⟨⟨z, hz, heq⟩, -⟩ := hw
      have hzx : z = x := by simpa [hfrags] using hz
      refine absurd ?_ hinc
      rw [hfrags]
      simp [Complete, ← heq, hzx]

/-- The receiver does the same as the simple one. -/
theorem handedUp_eq (hn : (∀ x ∈ frags, 0 < x.cuts) → n < 2 ^ 16) (hk : ∀ x ∈ frags, x.datagram.key = k)
    {arrivals : List Arrival} (hinc : ¬ Complete frags held) (hw : Waiting n frags k ip.fragbuf held)
    (hkept : NoTimeout second k ip arrivals)
    (hours : ∀ a ∈ arrivals, a.datagram.key = k → ∃ x ∈ frags, x.datagram = a.datagram)
    (hothers : ∀ a ∈ arrivals, a.datagram.key ≠ k → Sound a.datagram) :
    handedUp second k ip arrivals = .ok (collect frags n held (ours k arrivals)) := by
  induction arrivals generalizing ip held with
  | nil => rfl
  | cons a l ih =>
    obtain ⟨hnow, hrest⟩ := hkept
    have hours' := fun b hb => hours b (mem_cons_of_mem _ hb)
    have hothers' := fun b hb => hothers b (mem_cons_of_mem _ hb)
    rw [handedUp, ours_cons]
    by_cases hkey : a.datagram.key = k
    · obtain ⟨x, hx, heq⟩ := hours a (by simp) hkey
      rw [← heq] at hnow
      obtain ⟨ip', out, hrun, hout, hw'⟩ := reassembleAndDeliver_ours (k := k) second h hn hx (hk x hx) hinc hw hnow
      rw [heq] at hrun hout hw'
      have hinc' : ¬ Complete frags (if Complete frags (held ++ [a.datagram]) then [] else held ++ [a.datagram]) := by
        split
        · exact not_complete_nil h
        · assumption
      have hcollect := ih hinc' hw' (hrest ip' out hrun) hours' hothers'
      simp only [hrun, hcollect, hkey, if_true, hout, bind, Except.bind, pure, Except.pure, collect]
      split <;> rfl
    · obtain ⟨ip', out, hrun, hfind⟩ := reassembleAndDeliver_other second a.time (hothers a (by simp) hkey) hkey hnow
      have hcollect := ih hinc (hw.of_find hfind) (hrest ip' out hrun) hours' hothers'
      simp only [hrun, hcollect, hkey, if_false, bind, Except.bind, pure, Except.pure]

end

end Receiver

section Once

variable {start : IPv4Datagram} {n : Nat} {frags : List InFlight} {held received : List IPv4Datagram}

/-- The last missing fragment, and no other one, hands up a datagram, with the original payload. -/
def HandsUpOnce (n : Nat) (frags : List InFlight) (received : List IPv4Datagram)
    (outs : List (Option IPv4Datagram)) : Prop :=
  ∃ pre a post d, received = pre ++ a :: post ∧ ¬ Complete frags pre ∧ Complete frags (pre ++ [a]) ∧
    outs = List.replicate pre.length none ++ some d :: List.replicate post.length none ∧
    d.payloadLength = n ∧ d.fragmentOffset = 0 ∧ d.moreFragments = false

/-- The fragment that came first was made by the first router that had to cut. -/
def FirstCutOnce (frags : List InFlight) (received : List IPv4Datagram) : Prop :=
  ∀ x ∈ frags, received.head? = some x.datagram → x.cuts ≤ 1

/-- What comes after the last missing fragment does not bring every fragment again. -/
def NoSecondCopy (frags : List InFlight) (received : List IPv4Datagram) : Prop :=
  ∀ pre a post, received = pre ++ a :: post → ¬ Complete frags pre → Complete frags (pre ++ [a]) →
    ¬ Complete frags post

theorem Complete.append (h : Complete frags held) (l : List IPv4Datagram) : Complete frags (held ++ l) :=
  fun x hx => mem_append_left _ (h x hx)

theorem collect_none (h : ¬ Complete frags (held ++ received)) :
    collect frags n held received = replicate received.length none := by
  induction received generalizing held with
  | nil => rfl
  | cons a l ih =>
    have hone : ¬ Complete frags (held ++ [a]) := by
      intro hall
      apply h
      have := hall.append l
      rwa [append_assoc] at this
    rw [collect, if_neg hone, ih (by rwa [append_assoc])]
    rfl

theorem collect_some (hinc : ¬ Complete frags held) (h : Complete frags (held ++ received)) :
    ∃ pre a post, received = pre ++ a :: post ∧ ¬ Complete frags (held ++ pre) ∧
      Complete frags (held ++ pre ++ [a]) ∧
      collect frags n held received = replicate pre.length none ++
        some (assembled n ((held ++ pre).headD a)) :: collect frags n [] post := by
  induction received generalizing held with
  | nil =>
    rw [append_nil] at h
    exact absurd h hinc
  | cons a l ih =>
    by_cases hone : Complete frags (held ++ [a])
    · refine ⟨[], a, l, rfl, by rwa [append_nil], by rwa [append_nil], ?_⟩
      rw [collect, if_pos hone, append_nil]
      rfl
    · obtain ⟨pre, b, post, heq, hpre, hall, hcollect⟩ := ih hone (by rwa [append_assoc])
      simp only [append_assoc, cons_append] at hpre hall hcollect
      refine ⟨a :: pre, b, post, by rw [heq]; rfl, hpre, by simpa using hall, ?_⟩
      rw [collect, if_neg hone, hcollect]
      rfl

/-- A second copy is handed up as well. -/
theorem collect_replicate_iff (h : OnTheWay start n frags) :
    collect frags n [] received = replicate received.length none ↔ ¬ Complete frags received := by
  constructor
  · intro hnone hall
    obtain ⟨pre, a, post, -, -, -, hcollect⟩ := collect_some (n := n) (not_complete_nil h)
      (by rwa [nil_append])
    have hmem : some (assembled n (([] ++ pre).headD a)) ∈ replicate received.length none := by
      rw [← hnone, hcollect]
      simp
    cases eq_of_mem_replicate hmem
  · intro hinc
    exact collect_none (by rwa [nil_append])

theorem replicate_append_inj {α : Type} {i j : Nat} {x y : α} {l m : List (Option α)}
    (h : replicate i none ++ some x :: l = replicate j none ++ some y :: m) : i = j ∧ x = y ∧ l = m := by
  induction i generalizing j with
  | zero =>
    cases j with
    | zero => simpa using h
    | succ j => simp [replicate_succ] at h
  | succ i ih =>
    cases j with
    | zero => simp [replicate_succ] at h
    | succ j =>
      simp only [replicate_succ, cons_append, cons.injEq, true_and] at h
      obtain ⟨hij, hxy, hlm⟩ := ih h
      exact ⟨by omega, hxy, hlm⟩

/-- The payload has its length again if the fragment was cut once at most. -/
theorem payloadLength_assembled (h : OnTheWay start n frags) (hx : x ∈ frags) :
    (assembled n x.datagram).payloadLength = n ↔ x.cuts ≤ 1 := by
  obtain ⟨p, hp⟩ := (h.part x hx).encapsulated
  have hlen : (assembled n x.datagram).payloadLength =
      if x.datagram.totalPayloadLength = 0 then x.datagram.payloadLength else x.datagram.totalPayloadLength := by
    simp [IPv4Datagram.payloadLength, assembled, restored, hp]
  have hrec := h.recorded x hx
  rw [hlen]
  obtain ⟨cuts, d⟩ := x
  cases cuts with
  | zero =>
    obtain ⟨htotal, hlo, hhi⟩ := hrec
    simp only [InFlight.lo, InFlight.hi, payloadEnd] at htotal hlo hhi
    simp only [htotal, if_true]
    omega
  | succ cuts =>
    cases cuts with
    | zero =>
      obtain ⟨htotal, hless, -⟩ := hrec
      simp only at htotal hless
      simp only [htotal]
      rw [if_neg (by omega)]
      omega
    | succ cuts =>
      obtain ⟨hmore, hless, hpos⟩ := hrec
      simp only at hmore hless hpos
      simp only
      rw [if_neg (by omega)]
      omega

/-- There is only one arrival that completes the datagram for the first time. -/
theorem first_complete_le {pre pre' post post' : List IPv4Datagram} {a a' : IPv4Datagram}
    (heq : pre ++ a :: post = pre' ++ a' :: post') (hcomplete : Complete frags (pre ++ [a]))
    (hpre' : ¬ Complete frags pre') : pre'.length ≤ pre.length := by
  refine Nat.not_lt.mp fun hlt => hpre' ?_
  have h₁ : pre ++ [a] <+: pre ++ a :: post := ⟨post, by simp⟩
  have h₂ : pre' <+: pre ++ a :: post := ⟨a' :: post', heq.symm⟩
  have hlen : (pre ++ [a]).length ≤ pre'.length := by
    simp only [length_append, length_singleton]
    omega
  obtain ⟨l, hl⟩ := prefix_of_prefix_length_le h₁ h₂ hlen
  rw [← hl]
  exact hcomplete.append l

/-- When the simple receiver hands up exactly the original datagram. -/
theorem handsUpOnce_collect_iff (h : OnTheWay start n frags) (hall : Complete frags received)
    (hours : ∀ d ∈ received, ∃ x ∈ frags, x.datagram = d) :
    HandsUpOnce n frags received (collect frags n [] received) ↔
      FirstCutOnce frags received ∧ NoSecondCopy frags received := by
  obtain ⟨pre, a, post, heq, hpre, hcomplete, hcollect⟩ := collect_some (n := n) (not_complete_nil h)
    (by rwa [nil_append])
  rw [nil_append] at hpre hcollect
  have hhead : received.head? = some (pre.headD a) := by
    rw [heq]
    cases pre <;> rfl
  obtain ⟨x, hx, hxd⟩ := hours (pre.headD a) (mem_of_mem_head? (by rw [hhead]; rfl))
  have hpayload := payloadLength_assembled h hx
  rw [hxd] at hpayload
  constructor
  · rintro ⟨pre', a', post', d, heq', hpre', hcomplete', houts, hd, -, -⟩
    rw [hcollect] at houts
    obtain ⟨hlen, hdd, hrest⟩ := replicate_append_inj houts
    rw [heq] at heq'
    obtain ⟨-, hcons⟩ := append_inj heq' hlen
    have hpost : post = post' := (cons.inj hcons).2
    rw [← hpost] at hrest
    refine ⟨?_, ?_⟩
    · intro y hy hyhead
      rw [hhead] at hyhead
      rw [← payloadLength_assembled h hy, ← Option.some.inj hyhead, hdd]
      exact hd
    · intro pre₂ a₂ post₂ heq₂ hpre₂ hcomplete₂
      have heq₃ := heq.symm.trans heq₂
      have hlen₂ := Nat.le_antisymm (first_complete_le heq₃ hcomplete hpre₂) (first_complete_le heq₃.symm hcomplete₂ hpre)
      have hpost₂ := (cons.inj (append_inj heq₃ hlen₂.symm).2).2
      rw [← hpost₂]
      exact (collect_replicate_iff h).mp hrest
  · rintro ⟨hfirst, hsecond⟩
    have hcuts := hfirst x hx (by rw [hhead, hxd])
    refine ⟨pre, a, post, _, heq, hpre, hcomplete, ?_, hpayload.mpr hcuts, rfl, rfl⟩
    rw [hcollect, (collect_replicate_iff h).mpr (hsecond pre a post heq hpre hcomplete)]

end Once

section Example

/-- With a header of 20 bytes. -/
def sample : IPv4Datagram := ⟨68, 20, 1, 2, 32, 7, false, false, 0, 0, some ⟨0, 48⟩⟩

/-- The fragment of `sample` from `offset` to `stop`, cut from one of `total` bytes. -/
def sampleFragment (ttl : Int) (offset stop total : Nat) (more : Bool) : IPv4Datagram :=
  ⟨20 + (stop - offset), 20, 1, 2, ttl, 7, more, false, offset, total, some ⟨0, stop - offset⟩⟩

theorem sample_fresh : Fresh sample 48 := ⟨⟨⟨0, 48⟩, rfl, rfl⟩, rfl, rfl, rfl, rfl, rfl⟩

/-- Over a link with an MTU of 52. -/
theorem sample_cut : Travels (HasSource sample) sample [⟨1, sampleFragment 31 0 32 48 true⟩, ⟨1, sampleFragment 31 32 48 48 false⟩] := by
  have hsent : fragmentAndSend false sample ⟨52, false, 9⟩ =
      .ok (.sent [sampleFragment 31 0 32 48 true, sampleFragment 31 32 48 48 false]) := by decide
  exact Travels.hop (l := []) (x := ⟨0, sample⟩) (r := []) .start (by decide) hsent

/-- And then, for the first fragment, over a link with an MTU of 36. -/
theorem sample_cut_again : Travels (HasSource sample) sample [⟨2, sampleFragment 30 0 16 32 true⟩,
    ⟨2, sampleFragment 30 16 32 32 true⟩, ⟨1, sampleFragment 31 32 48 48 false⟩] := by
  have hsent : fragmentAndSend false (sampleFragment 31 0 32 48 true) ⟨36, false, 9⟩ =
      .ok (.sent [sampleFragment 30 0 16 32 true, sampleFragment 30 16 32 32 true]) := by decide
  exact Travels.hop (l := []) (x := ⟨1, sampleFragment 31 0 32 48 true⟩) (r := [⟨1, sampleFragment 31 32 48 48 false⟩])
    sample_cut (by decide) hsent

/-- However often the fragments are cut again, what is on its way tiles the payload of the datagram, and each piece says
where it belongs. -/
theorem Travels.tile_payload {Usable : InterfaceEntry → Prop} {start : IPv4Datagram} {n : Nat} {l : List InFlight}
    (h : Travels Usable start l) (hstart : Fresh start n) :
    Tiles InFlight.lo InFlight.hi 0 n l ∧ ∀ x ∈ l, Part start n x.datagram :=
  ⟨(h.pieces hstart).tiles, (h.pieces hstart).part⟩

theorem sample_tiles : Tiles InFlight.lo InFlight.hi 0 48 [⟨2, sampleFragment 30 0 16 32 true⟩,
    ⟨2, sampleFragment 30 16 32 32 true⟩, ⟨1, sampleFragment 31 32 48 48 false⟩] :=
  (Travels.tile_payload sample_cut_again sample_fresh).1

end Example

end Inet.Ipv4
