import Inetmanet.Lib.SpanSize
import Inetmanet.Tcp.VirtualDataRcvQueue
import Inetmanet.Tcp.SACKReceiver

/-!
# Blocks of spans

What the receive queue answers and what `addSacks` does to its list of blocks,
where the blocks stand for spans around the first missing position.
-/
namespace Inet.Tcp

open SerialNumber SpanList List RegionClass Region

/-- The block that reports a span. -/
def sackOf (base : SeqNo) (s : Span) : Sack := ⟨nth base s.lo, nth base s.hi⟩

@[simp] theorem sackOf_start (base : SeqNo) (s : Span) : (sackOf base s).start = nth base s.lo := rfl
@[simp] theorem sackOf_end (base : SeqNo) (s : Span) : (sackOf base s).end_ = nth base s.hi := rfl

theorem FirstMissing.mono {start m n : Nat} {seen seen' : Nat → Prop} (hm : FirstMissing start seen m)
    (hn : FirstMissing start seen' n) (hsub : ∀ i, seen i → seen' i) : m ≤ n := by
  by_cases hle : m ≤ n
  · exact hle
  · exact absurd (hsub n (hm.seen_below n hn.start_le (Nat.not_le.mp hle))) hn.missing

variable {t s : Span}

/-- The spans are all the maximal runs of buffered positions. -/
theorem Tracks.mem_of_buffered {ρ : Type} {base : SeqNo} {region : Span → ρ} {start low rcv : Nat}
    {seen : Nat → Prop} {spans : List Span} {q : TCPVirtualDataRcvQueue ρ}
    (h : Tracks base region start seen low rcv spans q) (hs : Buffered seen low s) : s ∈ spans := by
  obtain ⟨t, ht, hlo, hhi⟩ := h.separated.exists_around hs.nonempty fun i hi => (h.covers i).mpr (hs.arrived i hi)
  have harr := (h.buffered ht).arrived
  have hne := hs.nonempty
  have hlo' : t.lo = s.lo := by
    by_cases hlt : t.lo < s.lo
    · have hbefore := harr (s.lo - 1) ⟨by omega, by omega⟩
      exact absurd hbefore.1 (hs.missing_before (s.lo - 1) (by omega) hbefore.2)
    · omega
  have hhi' : t.hi = s.hi := by
    by_cases hlt : s.hi < t.hi
    · exact absurd (harr s.hi ⟨by omega, hlt⟩).1 hs.missing_end
    · omega
  have hts : t = s := by
    cases t
    cases s
    simp_all
  rwa [← hts]

namespace TCPVirtualDataRcvQueue

variable {base : SeqNo} {spans : List Span} {q : TCPVirtualDataRcvQueue Region}

theorem foldl_getLength (base : SeqNo) (spans : List Span) (h : ∀ s ∈ spans, s.lo < s.hi ∧ s.hi < s.lo + 2 ^ 32)
    (n : Nat) :
    (spans.map (ofSpan base)).foldl (fun bytes r => bytes + BitVec.ofNat 32 (getLength r))
      (BitVec.ofNat 32 n) = BitVec.ofNat 32 (n + size spans) := by
  induction spans generalizing n with
  | nil => simp
  | cons s l ih =>
    have hs := h s (by simp)
    have hlen : getLength (ofSpan base s) = s.hi - s.lo :=
      toNat_nth_sub base (Nat.le_of_lt hs.1) (by omega)
    rw [map_cons, foldl_cons, hlen, ← BitVec.ofNat_add, ih fun t ht => h t (by simp [ht]),
      size_cons, Nat.add_assoc]

theorem getAmountOfBufferedBytes_eq (hq : q.regionList = spans.map (ofSpan base))
    (h : ∀ s ∈ spans, s.lo < s.hi ∧ s.hi < s.lo + 2 ^ 32) :
    q.getAmountOfBufferedBytes = BitVec.ofNat 32 (size spans) := by
  rw [getAmountOfBufferedBytes, hq]
  exact (foldl_getLength base spans h 0).trans (by rw [Nat.zero_add])

/-- Everything in order has been extracted: the queue starts at the first missing position. -/
theorem getFirstSeqNo_eq {rcv : Nat} (hq : q.regionList = spans.map (ofSpan base))
    (hrcv : q.rcvNxt = nth base rcv) (h : ∀ s ∈ spans, rcv < s.lo ∧ s.lo < rcv + 2 ^ 31) :
    q.getFirstSeqNo = nth base rcv := by
  cases spans with
  | nil => simp [getFirstSeqNo, hq, hrcv]
  | cons f l =>
    have hf := h f (by simp)
    have hmin : seqMin (nth base f.lo) (nth base rcv) = nth base rcv := by
      rw [seqMin_nth (by omega) (by omega), Nat.min_eq_right (by omega)]
    simpa [getFirstSeqNo, hq, hrcv, ofSpan, getBegin] using hmin

theorem find?_region (hsep : Separated spans) (ht : t ∈ spans) {p : Region → Bool} {i : Nat}
    (hti : t.Has i) (hp : ∀ s ∈ spans, p (ofSpan base s) = true ↔ s.Has i) :
    (spans.map (ofSpan base)).find? p = some (ofSpan base t) := by
  cases hfind : (spans.map (ofSpan base)).find? p with
  | none =>
    have hnone := find?_eq_none.mp hfind (ofSpan base t) (mem_map_of_mem ht)
    exact absurd ((hp t ht).mpr hti) hnone
  | some r =>
    obtain ⟨s, hs, hsr⟩ := mem_map.mp (mem_of_find?_eq_some hfind)
    have hps := find?_some hfind
    rw [← hsr, hp s hs] at hps
    rw [← hsr, hsep.eq_of_has hs ht hps hti]

section

variable (hq : q.regionList = spans.map (Region.ofSpan base))
include hq

/-- The left edge of the region around a position. -/
theorem getLE_eq {rcv p : Nat} (hsep : Separated spans)
    (h : ∀ s ∈ spans, rcv < s.lo ∧ s.hi ≤ rcv + 2 ^ 31) (ht : t ∈ spans) (hp : t.Has p) :
    q.getLE (nth base p) = nth base t.lo := by
  have htw := h t ht
  rw [getLE, hq, find?_region hsep ht hp]
  · rfl
  · intro s hs
    have hw := h s hs
    have hne := hsep.nonempty s hs
    simp only [Span.Has] at hp
    simp (disch := omega) only [ofSpan, getBegin, getEnd, seqLE_nth, seqLess_nth,
      decide_eq_true_eq, Span.Has]

/-- The right edge of the region that holds the position before. -/
theorem getRE_eq {rcv p : Nat} (hsep : Separated spans)
    (h : ∀ s ∈ spans, rcv < s.lo ∧ s.hi ≤ rcv + 2 ^ 31) (ht : t ∈ spans) (hp : t.Has p) :
    q.getRE (nth base (p + 1)) = nth base t.hi := by
  have htw := h t ht
  rw [getRE, hq, find?_region hsep ht hp]
  · rfl
  · intro s hs
    have hw := h s hs
    have hne := hsep.nonempty s hs
    simp only [Span.Has] at hp
    simp (disch := omega) only [ofSpan, getBegin, getEnd, seqLE_nth, seqLess_nth,
      decide_eq_true_eq, Span.Has]
    omega

/-- In front of all regions, there is nothing to extend to. -/
theorem getLE_below {p : Nat}
    (h : ∀ s ∈ spans, p < s.lo ∧ s.lo ≤ p + 2 ^ 31) : q.getLE (nth base p) = nth base p := by
  have hnone : (spans.map (ofSpan base)).find?
      (fun r => seqLE (getBegin r) (nth base p) ∧ seqLess (nth base p) (getEnd r)) = none := by
    rw [find?_eq_none]
    intro r hr
    obtain ⟨s, hs, hsr⟩ := mem_map.mp hr
    have hw := h s hs
    have hle : seqLE (nth base s.lo) (nth base p) ↔ s.lo ≤ p := seqLE_nth (by omega) (by omega)
    simp only [← hsr, ofSpan, getBegin, hle]
    simp
    omega
  rw [getLE, hq, hnone]

theorem getRE_below {p : Nat}
    (h : ∀ s ∈ spans, p ≤ s.lo ∧ s.lo ≤ p + 2 ^ 31) : q.getRE (nth base p) = nth base p := by
  have hnone : (spans.map (ofSpan base)).find?
      (fun r => seqLess (getBegin r) (nth base p) ∧ seqLE (nth base p) (getEnd r)) = none := by
    rw [find?_eq_none]
    intro r hr
    obtain ⟨s, hs, hsr⟩ := mem_map.mp hr
    have hw := h s hs
    have hlt : seqLess (nth base s.lo) (nth base p) ↔ s.lo < p := seqLess_nth (by omega) (by omega)
    simp only [← hsr, ofSpan, getBegin, hlt]
    simp
    omega
  rw [getRE, hq, hnone]

end

end TCPVirtualDataRcvQueue

section Blocks

variable {base : SeqNo} {rcv : Nat}

theorem sackOf_not_empty (hs : s.lo < s.hi) (hlen : s.hi < s.lo + 2 ^ 32) :
    ¬ (sackOf base s).empty := by
  rintro ⟨hlo, hhi⟩
  have heq : nth base s.lo = nth base s.hi := hlo.trans hhi.symm
  rw [nth_eq_nth (by omega) (by omega)] at heq
  omega

/-- Passed by less than half of the sequence space, or still ahead. -/
def Current (rcv : Nat) (s : Span) : Prop :=
  s.hi ≤ rcv ∧ rcv < s.hi + 2 ^ 31 ∨ rcv < s.lo ∧ s.lo < s.hi ∧ s.hi ≤ rcv + 2 ^ 31

variable {blocks : List Span}

theorem deleteOldSacks_map (h : ∀ s ∈ blocks, Current rcv s) :
    deleteOldSacks (nth base rcv) (blocks.map (sackOf base)) =
      .ok ((blocks.filter fun s => rcv < s.hi).map (sackOf base)) := by
  induction blocks with
  | nil => rfl
  | cons s l ih =>
    have hl := ih fun t ht => h t (by simp [ht])
    have hs := h s (by simp)
    simp only [Current] at hs
    have hle : seqLE (nth base s.hi) (nth base rcv) ↔ s.hi ≤ rcv := seqLE_nth (by omega) (by omega)
    rw [map_cons, deleteOldSacks, hl, sackOf_end, sackOf_start]
    by_cases hold : s.hi ≤ rcv
    · rw [if_pos (.inl (hle.mpr hold)), filter_cons_of_neg (by simpa using hold)]
    · have hne : ¬ (sackOf base s).empty := sackOf_not_empty (by omega) (by omega)
      have hge : seqGE (nth base s.lo) (nth base rcv) := by
        rw [seqGE_nth (by omega) (by omega)]
        omega
      rw [if_neg (by simp [hle, hold, hne]), ensure_pos hge, filter_cons_of_pos (by simpa using hold)]
      rfl

theorem contains_sackOf (hlo : t.lo < s.lo + 2 ^ 31) (hlo' : s.lo ≤ t.lo + 2 ^ 31)
    (hhi : s.hi < t.hi + 2 ^ 31) (hhi' : t.hi ≤ s.hi + 2 ^ 31) :
    (sackOf base s).contains (sackOf base t) ↔ s.lo ≤ t.lo ∧ t.hi ≤ s.hi := by
  simp only [Sack.contains, sackOf_start, sackOf_end]
  rw [seqLE_nth hlo hlo', seqLE_nth hhi hhi']

/-- No block contains a later one: nothing is deleted. -/
theorem deleteContainedSacks_map (fuel : Nat)
    (hne : ∀ s ∈ blocks, ¬ (sackOf base s).empty)
    (hap : blocks.Pairwise fun s t => ¬ (sackOf base s).contains (sackOf base t)) :
    deleteContainedSacks fuel (blocks.map (sackOf base)) = .ok (blocks.map (sackOf base)) := by
  induction blocks generalizing fuel with
  | nil => cases fuel <;> rfl
  | cons s l ih =>
    cases fuel with
    | zero => rfl
    | succ fuel =>
      obtain ⟨hs, hl⟩ := pairwise_cons.mp hap
      have hfilter : (l.map (sackOf base)).filter (fun it2 => ¬ (sackOf base s).contains it2) =
          l.map (sackOf base) := by
        rw [filter_eq_self]
        intro x hx
        obtain ⟨t, ht, htx⟩ := mem_map.mp hx
        simpa [← htx] using hs t ht
      rw [map_cons, deleteContainedSacks, ensure_pos (hne s (by simp)), hfilter]
      simp only [bind, Except.bind, ih fuel (fun t ht => hne t (by simp [ht])) hl]
      rfl

/-- The first block deletes those it contains. -/
theorem deleteContainedSacks_cons {f : Span} (fuel : Nat) (hf : ¬ (sackOf base f).empty)
    (hne : ∀ s ∈ blocks, ¬ (sackOf base s).empty)
    (hap : blocks.Pairwise fun s t => ¬ (sackOf base f).contains (sackOf base s) →
      ¬ (sackOf base f).contains (sackOf base t) → ¬ (sackOf base s).contains (sackOf base t)) :
    deleteContainedSacks (fuel + 1) ((f :: blocks).map (sackOf base)) =
      .ok ((f :: blocks.filter fun s => ¬ (sackOf base f).contains (sackOf base s)).map (sackOf base)) := by
  have hap' : (blocks.filter fun s => ¬ (sackOf base f).contains (sackOf base s)).Pairwise
      fun s t => ¬ (sackOf base s).contains (sackOf base t) := by
    rw [pairwise_filter]
    exact hap.imp fun h h₁ h₂ => h (by simpa using h₁) (by simpa using h₂)
  have hrest := deleteContainedSacks_map fuel (fun s hs => hne s (mem_of_mem_filter hs)) hap'
  rw [map_cons, deleteContainedSacks, ensure_pos hf, filter_map]
  simp only [bind, Except.bind, Function.comp_def] at hrest ⊢
  rw [hrest]
  rfl

/-- Spans ahead with gaps between them do not contain each other. -/
theorem not_contains_of_apart (hs : s.lo < s.hi) (ht : t.lo < t.hi)
    (hsw : rcv < s.lo ∧ s.hi ≤ rcv + 2 ^ 31) (htw : rcv < t.lo ∧ t.hi ≤ rcv + 2 ^ 31)
    (hap : s.Apart t ∨ t.Apart s) : ¬ (sackOf base s).contains (sackOf base t) := by
  simp only [Span.Apart] at hap
  rw [contains_sackOf (by omega) (by omega) (by omega) (by omega)]
  omega

end Blocks

end Inet.Tcp
