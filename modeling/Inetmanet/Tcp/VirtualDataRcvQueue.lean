import Inetmanet.Tcp.RcvQueueSpans

/-!
# Runs of the virtual data receive queue

Arbitrary sequences of insertions and extractions after `init`. The calls take
sequence numbers; a run is described by the positions these stand for.
-/
namespace Inet.Tcp

open SerialNumber SpanList Span

namespace Region

/-- The region of a span. -/
def ofSpan (base : SeqNo) (s : Span) : Region := ⟨nth base s.lo, nth base s.hi⟩

theorem depicts (base : SeqNo) : Depicts base (fun _ _ => True) (ofSpan base) where
  getBegin _ := rfl
  getEnd _ := rfl
  merge := by
    intro s r hs hr h₁ h₂ hlen _
    simp only [Span.Apart, hull_lo, hull_hi] at h₁ h₂ hlen
    simp (disch := omega) only [RegionClass.merge, merge, ofSpan, seqLess_nth]
    rw [if_neg (by omega)]
    congr 3
    · split
      · rw [hull_lo, Nat.min_eq_right (by omega)]
      · rw [hull_lo, Nat.min_eq_left (by omega)]
    · split
      · rw [hull_hi, Nat.max_eq_right (by omega)]
      · rw [hull_hi, Nat.max_eq_left (by omega)]
  grow _ _ _ _ := id
  split := by
    intro s m h₁ h₂ hlen
    have hg : seqGreater (nth base m) (nth base s.lo) := by
      rwa [seqGreater_nth (by omega) (by omega)]
    have hl : seqLess (nth base m) (nth base s.hi) := by
      rwa [seqLess_nth (by omega) (by omega)]
    simp [RegionClass.split, split, ofSpan, hg, hl, bind, Except.bind, pure, Except.pure]

theorem copyTo_ofSpan (base : SeqNo) {lo hi : Nat} (h : lo ≤ hi) (hlen : hi < lo + 2 ^ 32) :
    copyTo (ofSpan base ⟨lo, hi⟩) = .ok (hi - lo) :=
  congrArg Except.ok (toNat_nth_sub base h (by simp only; omega))

end Region

namespace TCPVirtualDataRcvQueue

/-- The queue after the calls, and how many bytes they handed up. -/
def run (q : TCPVirtualDataRcvQueue Region) : List RcvQueueCall →
    Sim (Nat × TCPVirtualDataRcvQueue Region)
  | [] => .ok (0, q)
  | .insertBytesFromSegment tcpseg :: calls => do
    let q ← q.insertBytesFromSegment tcpseg
    q.run calls
  | .extractBytesUpTo seq :: calls => do
    let (msg, q) ← q.extractBytesUpTo Region.copyTo seq
    let (bytes, q) ← q.run calls
    return (msg.getD 0 + bytes, q)

/-- The calls take a stream of which the positions in `seen` have arrived and
those below `low` have been extracted to one with `seen'` and `low'`. Segments
lie in the window behind the first missing position and end at most half of the
sequence space behind the first position that is not extracted; extraction is
asked for up to the first missing position, and not half of the sequence space
below everything that is buffered. -/
inductive Admissible (base : SeqNo) (start : Nat) :
    (Nat → Prop) → Nat → List RcvQueueCall → (Nat → Prop) → Nat → Prop where
  | nil {seen low} : Admissible base start seen low [] seen low
  | insert {seen low calls seen' low'} (tcpseg : TCPSegment) (rcv off : Nat)
      (seq : tcpseg.sequenceNo = nth base off) (nonempty : 0 < tcpseg.payloadLength)
      (first : FirstMissing start seen rcv) (lower : rcv ≤ off)
      (upper : off + tcpseg.payloadLength < rcv + 2 ^ 31)
      (range : off + tcpseg.payloadLength ≤ low + 2 ^ 31)
      (rest : Admissible base start
        (fun i => seen i ∨ off ≤ i ∧ i < off + tcpseg.payloadLength) low calls seen' low') :
      Admissible base start seen low (.insertBytesFromSegment tcpseg :: calls) seen' low'
  | extract {seen low calls seen' low'} (seq : SeqNo) (rcv off : Nat)
      (seq_eq : seq = nth base off) (first : FirstMissing start seen rcv)
      (upper : off ≤ rcv) (lower : rcv < off + 2 ^ 31)
      (range : ∀ i, seen i → low ≤ i → ∃ j, seen j ∧ low ≤ j ∧ j < off + 2 ^ 31)
      (rest : Admissible base start seen (max low off) calls seen' low') :
      Admissible base start seen low (.extractBytesUpTo seq :: calls) seen' low'

/-- Every run of admissible calls goes through and keeps track of the stream. -/
theorem run_tracks {base : SeqNo} {start low low' : Nat} {seen seen' : Nat → Prop}
    {calls : List RcvQueueCall} (h : Admissible base start seen low calls seen' low') {rcv : Nat}
    {spans : List Span} {q : TCPVirtualDataRcvQueue Region}
    (hq : Tracks base (Region.ofSpan base) start seen low rcv spans q) :
    ∃ rcv' spans' q', q.run calls = .ok (low' - low, q') ∧ low ≤ low' ∧
      Tracks base (Region.ofSpan base) start seen' low' rcv' spans' q' := by
  induction h generalizing rcv spans q with
  | @nil seen low =>
    exact ⟨rcv, spans, q, by simp [run], Nat.le_refl _, hq⟩
  | @insert seen low calls seen' low' tcpseg rcv₀ off seq nonempty first lower upper range rest ih =>
    have hrcv := hq.first.unique first
    subst hrcv
    have hseg : RegionClass.createRegionFromSegment tcpseg =
        .ok (Region.ofSpan base ⟨off, off + tcpseg.payloadLength⟩) := by
      simp [RegionClass.createRegionFromSegment, Region.ofSpan, TCPSegment.endNo, seq, nth_add]
    obtain ⟨rcv₁, q₁, hins, hq₁⟩ :=
      hq.insert (Region.depicts base) hseg (by simpa using nonempty) lower upper range
        fun _ _ _ _ => trivial
    obtain ⟨rcv', spans', q', hrun, hle, hq'⟩ := ih hq₁
    refine ⟨rcv', spans', q', ?_, hle, hq'⟩
    simp [run, hins, hrun, bind, Except.bind]
  | @extract seen low calls seen' low' seq rcv₀ off seq_eq first upper lower range rest ih =>
    have hrcv := hq.first.unique first
    subst hrcv
    subst seq_eq
    by_cases hlow : low < off
    · obtain ⟨spans₁, q₁, hext, hq₁⟩ := hq.extractTo_some (Region.depicts base) hlow upper
      have hmax : max low off = off := by omega
      rw [hmax] at ih
      obtain ⟨rcv', spans', q', hrun, hle, hq'⟩ := ih hq₁
      refine ⟨rcv', spans', q', ?_, by omega, hq'⟩
      have hwin := hq.rcv_le
      have hcopy := Region.copyTo_ofSpan base (Nat.le_of_lt hlow) (by omega)
      simp [run, extractBytesUpTo, hext, hcopy, hrun,
        bind, Except.bind, pure, Except.pure]
      omega
    · have hbuf : spans ≠ [] → ∃ i, i < off + 2 ^ 31 ∧ seen i ∧ low ≤ i := by
        intro hne
        obtain ⟨f, l, hfl⟩ := List.exists_cons_of_ne_nil hne
        have hf := hq.separated.nonempty f (by simp [hfl])
        have hc := (hq.covers f.lo).mp ⟨f, by simp [hfl], Nat.le_refl _, hf⟩
        obtain ⟨j, hj, hlj, hjlt⟩ := range f.lo hc.1 hc.2
        exact ⟨j, hjlt, hj, hlj⟩
      have hext := hq.extractTo_none (Region.depicts base) (by omega) lower hbuf
      have hmax : max low off = low := by omega
      rw [hmax] at ih
      obtain ⟨rcv', spans', q', hrun, hle, hq'⟩ := ih hq
      refine ⟨rcv', spans', q', ?_, hle, hq'⟩
      simp [run, extractBytesUpTo, hext, hrun, bind,
        Except.bind, pure, Except.pure]

/-- Admissible calls go through. The regions stay sorted, nonempty, disjoint and
apart, they cover what has arrived and is not extracted, `rcvNxt` is the first
missing position, and neither order nor multiplicity of the segments matters. -/
theorem set_semantics {base : SeqNo} {start low : Nat} {seen : Nat → Prop}
    {calls : List RcvQueueCall}
    (h : Admissible base start (fun _ => False) start calls seen low) :
    ∃ rcv spans q, (init (nth base start)).run calls = .ok (low - start, q) ∧
      q.regionList = spans.map (Region.ofSpan base) ∧ Separated spans ∧
      (∀ s ∈ spans, s.hi ≤ low + 2 ^ 31) ∧ (∀ i, Covers spans i ↔ seen i ∧ low ≤ i) ∧
      q.rcvNxt = nth base rcv ∧ FirstMissing start seen rcv ∧
      ∀ calls' seen', Admissible base start (fun _ => False) start calls' seen' low →
        (∀ i, seen' i ↔ seen i) →
        (init (nth base start)).run calls' = (init (nth base start)).run calls := by
  have hinit := Tracks.init base (Region.ofSpan base) start
  obtain ⟨rcv, spans, q, hrun, -, hq⟩ := run_tracks h hinit
  refine ⟨rcv, spans, q, hrun, hq.regionList, hq.separated, hq.window, hq.covers, hq.rcvNxt,
    hq.first, ?_⟩
  intro calls' seen' h' hseen
  obtain ⟨rcv', spans', q', hrun', -, hq'⟩ := run_tracks h' hinit
  have hiff : seen' = seen := funext fun i => propext (hseen i)
  subst hiff
  have hrcv : rcv' = rcv := hq'.first.unique hq.first
  have hspans : spans' = spans := hq'.separated.ext hq.separated fun i => by
    rw [hq'.covers, hq.covers]
  have heq : q' = q := by
    have h₁ := hq.rcvNxt
    have h₂ := hq.regionList
    have h₁' := hq'.rcvNxt
    have h₂' := hq'.regionList
    cases q
    cases q'
    simp_all
  rw [hrun', heq, hrun]

/-- Two segments out of order around the end of the number space, then an extraction. -/
theorem set_semantics_wrap :
    ∃ rcv spans q, (init (nth (0xfffffff0 : SeqNo) 6)).run
        [.insertBytesFromSegment { sequenceNo := 0xfffffffb, payloadLength := 8 },
          .insertBytesFromSegment { sequenceNo := 0xfffffff6, payloadLength := 6 },
          .extractBytesUpTo 0] = .ok (10, q) ∧
      q.regionList = spans.map (Region.ofSpan 0xfffffff0) ∧ Separated spans ∧
      (∀ s ∈ spans, s.hi ≤ 16 + 2 ^ 31) ∧ q.rcvNxt = nth (0xfffffff0 : SeqNo) rcv := by
  have h₃ : Admissible 0xfffffff0 6
      (fun i => (False ∨ 11 ≤ i ∧ i < 11 + 8) ∨ 6 ≤ i ∧ i < 6 + 6) 6
      [.extractBytesUpTo 0] _ 16 :=
    .extract 0 19 16 (by decide) ⟨by decide, by decide, by intro i; omega⟩ (by decide) (by decide)
      (fun _ _ _ => ⟨6, by decide, by decide, by decide⟩) .nil
  have h₂ := Admissible.insert { sequenceNo := 0xfffffff6, payloadLength := 6 } 6 6 (by decide)
    (by decide) ⟨by decide, by decide, by intro i; omega⟩ (by decide) (by decide) (by decide) h₃
  have h₁ := Admissible.insert { sequenceNo := 0xfffffffb, payloadLength := 8 } 6 11 (by decide)
    (by decide) ⟨by decide, by decide, by intro i; omega⟩ (by decide) (by decide) (by decide) h₂
  obtain ⟨rcv, spans, q, hrun, hlist, hsep, hwin, -, hrcv, -⟩ := set_semantics h₁
  exact ⟨rcv, spans, q, hrun, hlist, hsep, hwin, hrcv⟩

/-- Nothing has been extracted from the first 2^31 - 1 numbers: the next segment
starts at the first missing number, and the range check throws. Asked for a
number more than half of the sequence space below the only region, which is out
of order, the queue gives it away. -/
theorem beyond_half_the_space :
    (init 0).run [.insertBytesFromSegment { sequenceNo := 0, payloadLength := 2 ^ 31 - 1 }] =
      .ok (0, ⟨2 ^ 31 - 1, [⟨0, 2 ^ 31 - 1⟩]⟩) ∧
    (init 0).run [.insertBytesFromSegment { sequenceNo := 0, payloadLength := 2 ^ 31 - 1 },
        .insertBytesFromSegment { sequenceNo := 2 ^ 31 - 1, payloadLength := 6 }] =
      .error (.runtime
        "The new segment is [%u, %u) out of the acceptable range at the queue %s") ∧
    (init 0).run [.insertBytesFromSegment { sequenceNo := 0, payloadLength := 5 },
        .extractBytesUpTo 5,
        .insertBytesFromSegment { sequenceNo := 2 ^ 31 - 5, payloadLength := 4 }] =
      .ok (5, ⟨5, [⟨2 ^ 31 - 5, 2 ^ 31 - 1⟩]⟩) ∧
    seqLE (-20) 5 ∧
    (⟨5, [⟨2 ^ 31 - 5, 2 ^ 31 - 1⟩]⟩ : TCPVirtualDataRcvQueue Region).run [.extractBytesUpTo (-20)] =
      .ok (4, ⟨5, []⟩) := by
  decide

end TCPVirtualDataRcvQueue

end Inet.Tcp
