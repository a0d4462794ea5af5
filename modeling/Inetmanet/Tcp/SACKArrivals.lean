import Inetmanet.Tcp.SACKReports

/-!
# What arrivals leave to report

A segment near the first octet that the receiver waits for is a duplicate, out of
order, or in order, and the report fits. From this follows what a whole run
reports.
-/
namespace Inet.Tcp

open SerialNumber SpanList Option TCPStateVariables Region List

namespace Tracked

variable {base : SeqNo} {start rcv : Nat} {t : Tracked} {r : Receiver} {seg : Span} {seen : Nat → Prop}
  {spans blocks : List Span}

variable {q : TCPVirtualDataRcvQueue Region} {state : TCPStateVariables}

/-- The loop forwards all that is in order, in one piece. -/
theorem forwardData_eq {low : Nat}
    (hq : Tracks base (ofSpan base) start seen low rcv spans q) (hlt : low < rcv) :
    ∃ spans' q', Receiver.forwardData (q.getQueueLength + 1) q (nth base rcv) = .ok q' ∧
      Tracks base (ofSpan base) start seen rcv rcv spans' q' := by
  obtain ⟨l, hl, -⟩ := hq.front hlt
  have hlen : q.getQueueLength = l.length + 1 := by
    simp [TCPVirtualDataRcvQueue.getQueueLength, hq.regionList, hl]
  obtain ⟨spans', q', hsome, hq'⟩ := hq.extractTo_some (depicts base) hlt (Nat.le_refl _)
  have hnone := hq'.extractTo_none_of_eq (depicts base) rfl
  have hcopy := copyTo_ofSpan base (Nat.le_of_lt hlt) (by have := hq.rcv_le; omega)
  refine ⟨spans', q', ?_, hq'⟩
  simp only [hlen, Receiver.forwardData, TCPVirtualDataRcvQueue.extractBytesUpTo, hsome, hcopy, hnone,
    bind, Except.bind, pure, Except.pure]

section Arrival

variable {rcvWnd : SeqNo} {tcpseg : TCPSegment} {p : Nat}

/-- A segment is acceptable if it starts in the window or ends in it. -/
theorem isSegmentAcceptable_iff (state : TCPStateVariables) (hstate : state.rcvNxt = nth base t.rcv)
    (hwnd : state.rcvWnd = rcvWnd) (near : t.Near base rcvWnd tcpseg p) :
    state.isSegmentAcceptable tcpseg ↔ t.rcv ≤ p ∧ p < t.rcv + rcvWnd.toNat ∨
      t.rcv < p + tcpseg.payloadLength ∧ p + tcpseg.payloadLength ≤ t.rcv + rcvWnd.toNat := by
  have hpos := near.nonempty
  have hbehind := near.behind
  have hahead := near.ahead
  have hwin := near.window
  have hend : tcpseg.endNo = nth base (p + tcpseg.payloadLength) := by rw [TCPSegment.endNo, near.seq, nth_add]
  have hzero : rcvWnd = 0 ↔ rcvWnd.toNat = 0 := by
    rw [← BitVec.toNat_inj]
    rfl
  have hle : seqLE (nth base t.rcv) (nth base p) ↔ t.rcv ≤ p := seqLE_nth (by omega) (by omega)
  have hlt : seqLess (nth base t.rcv) (nth base (p + tcpseg.payloadLength)) ↔ t.rcv < p + tcpseg.payloadLength :=
    seqLess_nth (by omega) (by omega)
  -- the end of the window is compared only where the segment is known to be near it
  have hstarts : t.rcv ≤ p → (seqLess (nth base p) (nth base (t.rcv + rcvWnd.toNat)) ↔ p < t.rcv + rcvWnd.toNat) :=
    fun _ => seqLess_nth (by omega) (by omega)
  have hends : t.rcv < p + tcpseg.payloadLength →
      (seqLE (nth base (p + tcpseg.payloadLength)) (nth base (t.rcv + rcvWnd.toNat)) ↔
        p + tcpseg.payloadLength ≤ t.rcv + rcvWnd.toNat) := fun _ => seqLE_nth (by omega) (by omega)
  rw [isSegmentAcceptable, if_neg (by omega), hstate, hwnd, near.seq, hend,
    nth_add_window, hle, hlt, Ne, hzero, and_congr_right_iff.mpr hstarts, and_congr_right_iff.mpr hends]
  omega

/-- What is left of the segment after `truncateSegment`. -/
theorem truncateSegment_near (near : t.Near base rcvWnd tcpseg p) (h₁ : p < t.rcv + rcvWnd.toNat)
    (h₂ : t.rcv < p + tcpseg.payloadLength) :
    ∃ cut : TCPSegment, tcpseg.truncateSegment (nth base t.rcv) (nth base t.rcv + rcvWnd) = .ok cut ∧
      cut.sequenceNo = nth base (max p t.rcv) ∧
      cut.endNo = nth base (min (p + tcpseg.payloadLength) (t.rcv + rcvWnd.toNat)) := by
  have hpos := near.nonempty
  have hahead := near.ahead
  have hwin := near.window
  have hlen : tcpseg.payloadLength ≥ (max p t.rcv - p) +
      (p + tcpseg.payloadLength - min (p + tcpseg.payloadLength) (t.rcv + rcvWnd.toNat)) := by omega
  have hcut := tcpseg.truncateSegment_nth near.seq hpos h₁ h₂ (by omega) hahead
  have hseq : tcpseg.sequenceNo + BitVec.ofNat 32 (max p t.rcv - p) = nth base (max p t.rcv) := by
    rw [near.seq, ← nth_add, Nat.add_sub_cancel' (Nat.le_max_left p t.rcv)]
  have hend : nth base (max p t.rcv) + BitVec.ofNat 32 (tcpseg.payloadLength - (max p t.rcv - p +
      (p + tcpseg.payloadLength - min (p + tcpseg.payloadLength) (t.rcv + rcvWnd.toNat)))) =
      nth base (min (p + tcpseg.payloadLength) (t.rcv + rcvWnd.toNat)) := by
    rw [← nth_add]
    congr 1
    omega
  rw [nth_add_window, hcut, TCPSegment.truncateData, ensure_pos hlen]
  by_cases hbytes : tcpseg.byteArray.length ≠ 0
  · have hsame := near.bytes hbytes
    rw [if_pos hbytes, Bytes.truncateData, ensure_pos (by omega)]
    exact ⟨_, rfl, hseq, by simpa only [TCPSegment.endNo, hseq] using hend⟩
  · rw [if_neg hbytes]
    exact ⟨_, rfl, hseq, by simpa only [TCPSegment.endNo, hseq] using hend⟩

variable {cut : TCPSegment}

/-- All that was buffered has been handed up: there is nothing to report. -/
theorem insertText_forwarded {q₀ q' : TCPVirtualDataRcvQueue Region}
    (hspace : state.hasEnoughSpaceForSegmentInReceiveQueue q₀ cut) (hins : q₀.insertBytesFromSegment cut = .ok q)
    (hmoved : state.rcvNxt ≠ q.rcvNxt)
    (hforward : Receiver.forwardData (q.getQueueLength + 1) q q.rcvNxt = .ok q') (hmore : q'.getQueueLength = 0) :
    Receiver.insertText ⟨state, q₀⟩ cut = .ok ⟨{ state with rcvNxt := q.rcvNxt }, q'⟩ := by
  simp only [Receiver.insertText, hspace, hins, hmoved, hforward, hmore, ne_eq, not_true_eq_false, and_false, if_false,
    bind, Except.bind, pure, Except.pure]

/-- State variables for the text of a segment, after `updateRcvQueueVars`. -/
structure Ready (t : Tracked) (state : TCPStateVariables) (spans : List Span) : Prop where
  rcvNxt : state.rcvNxt = t.receiver.state.rcvNxt
  sackEnabled : state.sackEnabled = t.receiver.state.sackEnabled
  sacksArray : state.sacksArray = t.receiver.state.sacksArray
  maxRcvBuffer : state.maxRcvBuffer = t.receiver.state.maxRcvBuffer
  quiet : state.sndSack = false ∧ state.sndDsack = false
  usedRcvBuffer : state.usedRcvBuffer = BitVec.ofNat 32 (size spans)

namespace Idle

open TCPVirtualDataRcvQueue

variable {s : Span}

section

variable (h : Idle base start t seen spans blocks)
include h

theorem span_near (hs : s ∈ spans) : t.rcv < s.lo ∧ s.lo < s.hi ∧ s.hi < t.rcv + 2 ^ 31 :=
  ⟨h.tracks.lt_of_low_eq rfl s hs, h.tracks.separated.nonempty s hs, h.within s hs⟩

theorem size_le : size spans ≤ 2 ^ 31 ∧ size spans ≤ t.receiver.state.maxRcvBuffer.toNat := by
  have hlo : ∀ s ∈ spans, t.rcv ≤ s.lo := fun s hs => Nat.le_of_lt (h.span_near hs).1
  have h₁ := SpanList.size_le h.tracks.separated hlo fun s hs => Nat.le_of_lt (h.within s hs)
  have h₂ := SpanList.size_le h.tracks.separated hlo h.room
  omega

/-- `updateRcvQueueVars` finds as many octets used as are buffered. -/
theorem usedRcvBuffer_eq (hmax : state.maxRcvBuffer = t.receiver.state.maxRcvBuffer) :
    (state.updateRcvQueueVars t.receiver.receiveQueue).usedRcvBuffer = BitVec.ofNat 32 (size spans) := by
  have hbytes := getAmountOfBufferedBytes_eq h.tracks.regionList fun s hs => by
    have hs' := h.span_near hs
    exact ⟨hs'.2.1, by omega⟩
  have hsize := h.size_le
  have hmod : size spans % 2 ^ 32 = size spans := Nat.mod_eq_of_lt (by omega)
  simp only [updateRcvQueueVars, getAmountOfFreeBytes, hbytes, hmax]
  generalize hm : t.receiver.state.maxRcvBuffer = m at hsize ⊢
  have hgt : m > BitVec.ofNat 32 (size spans) ↔ size spans < m.toNat := by
    rw [gt_iff_lt, BitVec.lt_def, BitVec.toNat_ofNat, hmod]
  by_cases hfull : size spans < m.toNat
  · grind
  · rw [if_neg (mt hgt.mp hfull)]
    apply BitVec.eq_of_toNat_eq
    have hzero : m - 0 = m := by grind
    rw [hzero, BitVec.toNat_ofNat, hmod]
    omega

/-- A segment for which there is space ends within the buffer. -/
theorem hi_le_of_space (hmax : state.maxRcvBuffer = t.receiver.state.maxRcvBuffer)
    (hend : cut.endNo = nth base s.hi) (hlo : t.rcv ≤ s.hi) (hhi : s.hi < t.rcv + 2 ^ 31)
    (hspace : state.hasEnoughSpaceForSegmentInReceiveQueue t.receiver.receiveQueue cut) :
    s.hi ≤ t.rcv + t.receiver.state.maxRcvBuffer.toNat := by
  have hfirst := getFirstSeqNo_eq h.tracks.regionList h.tracks.rcvNxt fun s hs => by
    have hs' := h.span_near hs
    exact ⟨hs'.1, by omega⟩
  have hle := hspace.2
  rw [hfirst, hend, hmax, nth_add_window] at hle
  by_cases hfar : t.rcv + t.receiver.state.maxRcvBuffer.toNat < s.hi
  · rw [seqLE_nth (by omega) (by omega)] at hle
    exact hle
  · omega

/-- Nothing is taken in. -/
theorem took_nothing
    (hrcv : state.rcvNxt = t.receiver.state.rcvNxt) (hsack : state.sackEnabled = t.receiver.state.sackEnabled)
    (harray : state.sacksArray = t.receiver.state.sacksArray)
    (hmax : state.maxRcvBuffer = t.receiver.state.maxRcvBuffer) :
    Took base start t ⟨state, t.receiver.receiveQueue⟩ t.rcv seen spans where
  tracks := h.tracks
  rcvNxt := hrcv.trans h.rcvNxt
  sackEnabled := hsack.trans h.sackEnabled
  sacksArray := harray
  started := h.tracks.start_le
  rcv_le := Nat.le_refl _
  rcv_lt := by omega
  within := h.within
  room := by
    simp only [hmax]
    exact h.room

theorem kept : ∀ b ∈ blocks, b ∈ spans ∨ b.hi ≤ t.rcv :=
  fun b hb => (h.reported b hb).2.2

theorem maxRcvBuffer_le (hroom : s.hi ≤ t.rcv + t.receiver.state.maxRcvBuffer.toNat) :
    ∀ u ∈ SpanList.insert s spans, u.hi ≤ t.rcv + t.receiver.state.maxRcvBuffer.toNat :=
  insert_hi_le hroom h.room

/-- A segment that is not acceptable is reported if all of it has been received before. -/
theorem arrive_notAcceptable (near : t.Near base rcvWnd tcpseg p) (hr : r = Receiver.notAcceptable
      { t.receiver with state := { t.receiver.state with rcvWnd := rcvWnd } } tcpseg) :
    Took base start t r t.rcv seen spans ∧
      Trigger base t ⟨p, p + tcpseg.payloadLength⟩ r t.rcv spans blocks := by
  have hbehind := near.behind
  have hahead := near.ahead
  have hpos := near.nonempty
  have hend : tcpseg.endNo = nth base (p + tcpseg.payloadLength) := by rw [TCPSegment.endNo, near.seq, nth_add]
  have hless : seqLess tcpseg.endNo t.receiver.state.rcvNxt ↔ p + tcpseg.payloadLength < t.rcv := by
    rw [hend, h.rcvNxt]
    exact seqLess_nth (by omega) (by omega)
  by_cases hold : p + tcpseg.payloadLength < t.rcv
  · rw [Receiver.notAcceptable, if_pos ⟨hpos, h.sackEnabled, hless.mpr hold⟩] at hr
    subst hr
    refine ⟨h.took_nothing rfl rfl rfl rfl, ?_⟩
    exact .duplicate ⟨p, p + tcpseg.payloadLength⟩ rfl near.seq hend (by simp only; omega)
      ⟨Nat.le_refl _, Nat.le_refl _⟩ (.inl ⟨hold, hbehind⟩) (fun i hi => .inl (Nat.lt_trans hi.2 hold)) h.kept
  · rw [Receiver.notAcceptable, if_neg fun hall => hold (hless.mp hall.2.2)] at hr
    subst hr
    exact ⟨h.took_nothing rfl rfl rfl rfl, .quiet h.quiet h.kept⟩

/-- An out-of-order segment is a duplicate if it leaves the amount of buffered octets as it was. -/
theorem out_of_order
    (hq : Tracks base (ofSpan base) start (fun i => seen i ∨ s.Has i) t.rcv t.rcv
      (SpanList.insert s spans) q)
    (hs : s.lo < s.hi) (hlo : t.rcv ≤ s.lo) (hhi : s.hi < t.rcv + 2 ^ 31)
    (part : seg.lo ≤ s.lo ∧ s.hi ≤ seg.hi) (hroom : s.hi ≤ t.rcv + t.receiver.state.maxRcvBuffer.toNat)
    (state : TCPStateVariables) (hrcv : state.rcvNxt = nth base t.rcv) (hsack : state.sackEnabled = true)
    (harray : state.sacksArray = t.receiver.state.sacksArray)
    (hmax : state.maxRcvBuffer = t.receiver.state.maxRcvBuffer)
    (hstart : state.startSeqno = nth base s.lo) (hend : state.endSeqno = nth base s.hi)
    (hflag : if size (SpanList.insert s spans) = size spans then state.sndDsack = true
      else state.sndSack = true ∧ state.sndDsack = false) :
    Took base start t ⟨state, q⟩ t.rcv (fun i => seen i ∨ s.Has i) (SpanList.insert s spans) ∧
      Trigger base t seg ⟨state, q⟩ t.rcv (SpanList.insert s spans) blocks := by
  have hsep := h.tracks.separated
  have hins := hsep.insert hs
  have htook : Took base start t ⟨state, q⟩ t.rcv (fun i => seen i ∨ s.Has i) (SpanList.insert s spans) := {
    tracks := hq
    rcvNxt := hrcv
    sackEnabled := hsack
    sacksArray := harray
    started := h.tracks.start_le
    rcv_le := Nat.le_refl _
    rcv_lt := by omega
    within := by
      have hle : ∀ u ∈ SpanList.insert s spans, u.hi ≤ t.rcv + 2 ^ 31 - 1 :=
        insert_hi_le (by omega) fun u hu => by
          have hu' := h.within u hu
          omega
      intro u hu
      have hu' := hle u hu
      omega
    room := by
      simp only [hmax]
      exact h.maxRcvBuffer_le hroom }
  refine ⟨htook, ?_⟩
  have hcov : ∀ i, s.Has i → Covers (SpanList.insert s spans) i := fun i hi => (covers_insert s spans i).mpr (.inl hi)
  by_cases hdup : size (SpanList.insert s spans) = size spans
  · rw [if_pos hdup] at hflag
    have hsame : SpanList.insert s spans = spans := by
      apply hins.ext hsep
      intro i
      rw [covers_insert]
      exact ⟨fun hi => hi.elim ((size_insert_eq_iff hs hsep).mp hdup i) id, .inr⟩
    have hkept : ∀ b ∈ blocks, b ∈ SpanList.insert s spans ∨ b.hi ≤ t.rcv := by
      rw [hsame]
      exact h.kept
    exact .duplicate s hflag hstart hend hs part (.inr ⟨hlo, hhi⟩) (fun i hi => .inr (hcov i hi)) hkept
  · rw [if_neg hdup] at hflag
    obtain ⟨f, hf, hflo, hfhi⟩ := hins.exists_around hs hcov
    have hspan : ∀ u ∈ SpanList.insert s spans, t.rcv < u.lo ∧ u.hi ≤ t.rcv + 2 ^ 31 := fun u hu => by
      have hu' := htook.span_near hu
      exact ⟨hu'.1, by omega⟩
    have hleft := getLE_eq hq.regionList hins hspan hf (p := s.lo) ⟨hflo, by omega⟩
    have hright := getRE_eq hq.regionList hins hspan hf (p := s.hi - 1)
      ⟨by omega, by omega⟩
    rw [Nat.sub_add_cancel (by omega)] at hright
    have hkept : ∀ b ∈ blocks, b ∈ SpanList.insert s spans ∨ b.hi ≤ t.rcv ∨
        f ∈ SpanList.insert s spans ∧ f.lo ≤ b.lo ∧ b.hi ≤ f.hi := by
      intro b hb
      cases h.kept b hb with
      | inl hmem => exact (hsep.mem_insert_or hins hf ⟨hflo, hfhi⟩ hmem).imp_right fun hin => .inr ⟨hf, hin⟩
      | inr hold => exact .inr (.inl hold)
    have hdistinct : state.startSeqno ≠ state.endSeqno := by
      rw [hstart, hend, Ne, nth_eq_nth (by omega) (by omega)]
      omega
    exact .block f hflag.2 hflag.1 hdistinct (by rw [hstart]; exact hleft) (by rw [hend]; exact hright)
      (hins.nonempty f hf) (.inl hf) hkept

/-- A segment in order closes the first gap. Where more is missing behind the next one, what it
brought itself is reported, although it lies below the first missing position now. -/
theorem in_order (seg : Span) {spans' : List Span}
    (hq : Tracks base (ofSpan base) start (fun i => seen i ∨ s.Has i) rcv rcv spans' q)
    (hs : s.lo < s.hi) (hlo : t.rcv ≤ s.lo) (hhi : s.hi < t.rcv + 2 ^ 31) (hmoved : t.rcv ≠ rcv)
    (hroom : s.hi ≤ t.rcv + t.receiver.state.maxRcvBuffer.toNat)
    (state : TCPStateVariables) (hrcv : state.rcvNxt = nth base rcv) (hsack : state.sackEnabled = true)
    (harray : state.sacksArray = t.receiver.state.sacksArray)
    (hmax : state.maxRcvBuffer = t.receiver.state.maxRcvBuffer)
    (hflag : if q.getQueueLength ≠ 0 then state.sndSack = true ∧ state.sndDsack = false ∧
        state.startSeqno = nth base s.lo ∧ state.endSeqno = nth base s.hi
      else ¬ toReport ⟨state, q⟩) :
    Took base start t ⟨state, q⟩ rcv (fun i => seen i ∨ s.Has i) spans' ∧
      Trigger base t seg ⟨state, q⟩ rcv spans' blocks := by
  have hle : t.rcv ≤ rcv := h.tracks.first.mono hq.first fun i hi => .inl hi
  -- the first missing position can move only if the segment starts there
  have hseg : s.lo = t.rcv ∧ s.hi ≤ rcv := by
    have hnew : seen t.rcv ∨ s.Has t.rcv := hq.first.seen_below t.rcv h.tracks.first.start_le (by omega)
    have hhas := hnew.resolve_left h.tracks.first.missing
    have hlo' : s.lo = t.rcv := Nat.le_antisymm hhas.1 hlo
    refine ⟨hlo', ?_⟩
    by_cases hin : s.hi ≤ rcv
    · exact hin
    · exact absurd (.inr ⟨by omega, by omega⟩) hq.first.missing
  have hold : ∀ b ∈ spans, rcv < b.hi → b ∈ spans' := by
    intro b hb hbhi
    have hbuf := h.tracks.buffered hb
    have hblo : rcv < b.lo := by
      by_cases hlt : rcv < b.lo
      · exact hlt
      · exact absurd (.inl (hbuf.arrived rcv ⟨by omega, hbhi⟩).1) hq.first.missing
    apply hq.mem_of_buffered
    exact {
      nonempty := hbuf.nonempty
      arrived := fun i hi => ⟨.inl (hbuf.arrived i hi).1, Nat.le_trans (Nat.le_of_lt hblo) hi.1⟩
      missing_end := by
        rintro (hseen | hhas)
        · exact hbuf.missing_end hseen
        · exact absurd hhas.2 (by omega)
      missing_before := by
        intro i hi hrcvi hseen
        cases hseen with
        | inl hold => exact hbuf.missing_before i hi (by omega) hold
        | inr hhas => exact absurd hhas.2 (by omega) }
  have hup : ∀ i, (seen i ∨ s.Has i) → t.rcv ≤ i →
      i + 1 < t.rcv + 2 ^ 31 ∧ i + 1 ≤ t.rcv + t.receiver.state.maxRcvBuffer.toNat := by
    intro i hi hge
    cases hi with
    | inl hseen =>
      obtain ⟨u, hu, hui⟩ := (h.tracks.covers i).mpr ⟨hseen, hge⟩
      have h₁ := h.within u hu
      have h₂ := h.room u hu
      have h₃ := hui.2
      omega
    | inr hhas =>
      have h₃ := hhas.2
      omega
  have hbound : ∀ u ∈ spans', u.hi < t.rcv + 2 ^ 31 ∧ u.hi ≤ t.rcv + t.receiver.state.maxRcvBuffer.toNat := by
    intro u hu
    have hne := hq.separated.nonempty u hu
    have hlast := (hq.covers (u.hi - 1)).mp ⟨u, hu, by omega, by omega⟩
    have hlt := hup (u.hi - 1) hlast.1 (by omega)
    omega
  have htook : Took base start t ⟨state, q⟩ rcv (fun i => seen i ∨ s.Has i) spans' := {
    tracks := hq
    rcvNxt := hrcv
    sackEnabled := hsack
    sacksArray := harray
    started := h.tracks.start_le
    rcv_le := hle
    rcv_lt := by
      have hlast := hq.first.seen_below (rcv - 1) (by have := h.tracks.first.start_le; omega) (by omega)
      have hlt := hup (rcv - 1) hlast (by omega)
      omega
    within := fun u hu => (hbound u hu).1
    room := by
      intro u hu
      have hu' := (hbound u hu).2
      simp only [hmax]
      omega }
  refine ⟨htook, ?_⟩
  have hkept : ∀ b ∈ blocks, b ∈ spans' ∨ b.hi ≤ rcv := by
    intro b hb
    by_cases hbhi : b.hi ≤ rcv
    · exact .inr hbhi
    · refine .inl (hold b ((h.kept b hb).resolve_right ?_) (by omega))
      omega
  by_cases hmore : q.getQueueLength ≠ 0
  · rw [if_pos hmore] at hflag
    obtain ⟨hsnd, hdsack, hstart, hend⟩ := hflag
    have hbelow : ∀ u ∈ spans', s.hi < u.lo ∧ u.lo < t.rcv + 2 ^ 31 := fun u hu => by
      have hu' := htook.span_near hu
      have hu'' := hbound u hu
      omega
    have hleft := getLE_below (p := s.lo) hq.regionList fun u hu => by
      have hu' := hbelow u hu
      omega
    have hright := getRE_below (p := s.hi) hq.regionList fun u hu => by
      have hu' := hbelow u hu
      omega
    have hdistinct : state.startSeqno ≠ state.endSeqno := by
      rw [hstart, hend, Ne, nth_eq_nth (by omega) (by omega)]
      omega
    exact .block s hdsack hsnd hdistinct (by rw [hstart]; exact hleft) (by rw [hend]; exact hright) hs
      (.inr ⟨hlo, hseg.2⟩) fun b hb => (hkept b hb).imp_right .inl
  · rw [if_neg hmore] at hflag
    exact .quiet hflag hkept

/-- What is left of a segment after `truncateSegment` is taken in if there is space for it. -/
theorem insertText
    (ready : Ready t state spans) (hseq : cut.sequenceNo = nth base s.lo)
    (hend : cut.endNo = nth base s.hi) (hs : s.lo < s.hi) (hlo : t.rcv ≤ s.lo) (hhi : s.hi < t.rcv + 2 ^ 31)
    (part : seg.lo ≤ s.lo ∧ s.hi ≤ seg.hi) :
    ∃ r rcv seen' spans', Receiver.insertText ⟨state, t.receiver.receiveQueue⟩ cut = .ok r ∧
      Took base start t r rcv seen' spans' ∧ Trigger base t seg r rcv spans' blocks ∧
      ∀ i, seen' i → seen i ∨ s.Has i := by
  by_cases hspace : state.hasEnoughSpaceForSegmentInReceiveQueue t.receiver.receiveQueue cut
  · have hroom := h.hi_le_of_space ready.maxRcvBuffer hend (by omega) hhi hspace
    have hsegment : RegionClass.createRegionFromSegment cut = .ok (ofSpan base s) := by
      simp only [RegionClass.createRegionFromSegment, hseq, hend]
      rfl
    obtain ⟨rcv, q, hins, hq⟩ := h.tracks.insert (depicts base) hsegment hs hlo hhi (by omega)
      fun _ _ _ _ => trivial
    have hle : t.rcv ≤ rcv := h.tracks.first.mono hq.first fun i hi => .inl hi
    have hwin := hq.rcv_le
    have hsame : nth base t.rcv = nth base rcv ↔ t.rcv = rcv := nth_eq_nth (by omega) (by omega)
    have hrcv : state.rcvNxt = nth base t.rcv := ready.rcvNxt.trans h.rcvNxt
    have henabled : state.sackEnabled = true := ready.sackEnabled.trans h.sackEnabled
    by_cases hmoved : t.rcv = rcv
    · subst hmoved
      have hbytes := getAmountOfBufferedBytes_eq hq.regionList fun u hu => by
        have hne := hq.separated.nonempty u hu
        have hu' := hq.within u hu
        simp only [InWindow] at hu'
        exact ⟨hne, by omega⟩
      have hbefore := h.size_le
      have hafter := SpanList.size_le hq.separated (fun u hu => (hq.within u hu).1) hq.window
      have hsizes : BitVec.ofNat 32 (size spans) = BitVec.ofNat 32 (size (SpanList.insert s spans)) ↔
          size (SpanList.insert s spans) = size spans := by
        rw [← BitVec.toNat_inj, BitVec.toNat_ofNat, BitVec.toNat_ofNat, Nat.mod_eq_of_lt (by omega),
          Nat.mod_eq_of_lt (by omega), eq_comm]
      have hunmoved : nth base t.rcv = q.rcvNxt := hq.rcvNxt.symm
      by_cases hdup : size (SpanList.insert s spans) = size spans
      · have hout := h.out_of_order hq hs hlo hhi part hroom
          { state with
            rcvNxt := q.rcvNxt, startSeqno := cut.sequenceNo, endSeqno := cut.endNo, sndDsack := true }
          hq.rcvNxt henabled ready.sacksArray ready.maxRcvBuffer hseq hend (by rw [if_pos hdup])
        refine ⟨_, _, _, _, ?_, hout.1, hout.2, fun i hi => hi⟩
        simp only [Receiver.insertText, hspace, hins, hrcv, hunmoved, henabled, hbytes, ready.usedRcvBuffer,
          hsizes.mpr hdup, not_true_eq_false, if_true, if_false, bind, Except.bind, pure, Except.pure]
      · have hout := h.out_of_order hq hs hlo hhi part hroom
          { state with
            rcvNxt := q.rcvNxt, startSeqno := cut.sequenceNo, endSeqno := cut.endNo, sndSack := true }
          hq.rcvNxt henabled ready.sacksArray ready.maxRcvBuffer hseq hend
          (by rw [if_neg hdup]; exact ⟨rfl, ready.quiet.2⟩)
        refine ⟨_, _, _, _, ?_, hout.1, hout.2, fun i hi => hi⟩
        simp only [Receiver.insertText, hspace, hins, hrcv, hunmoved, henabled, hbytes, ready.usedRcvBuffer,
          mt hsizes.mp hdup, not_true_eq_false, if_true, if_false, bind, Except.bind, pure, Except.pure]
    · obtain ⟨spans', q', hforward, hq'⟩ := forwardData_eq hq (by omega)
      have hmoved' : nth base t.rcv ≠ q.rcvNxt := by
        rw [hq.rcvNxt]
        exact mt hsame.mp hmoved
      rw [← hq.rcvNxt] at hforward
      by_cases hmore : q'.getQueueLength ≠ 0
      · have hin := h.in_order seg hq' hs hlo hhi hmoved hroom
          { state with
            rcvNxt := q.rcvNxt, startSeqno := cut.sequenceNo, endSeqno := cut.endNo, sndSack := true,
            ackNow := true }
          hq.rcvNxt henabled ready.sacksArray ready.maxRcvBuffer
          (by rw [if_pos hmore]; exact ⟨rfl, ready.quiet.2, hseq, hend⟩)
        refine ⟨_, _, _, _, ?_, hin.1, hin.2, fun i hi => hi⟩
        simp only [Receiver.insertText, hspace, hins, hrcv, hmoved', henabled, hforward, hmore, ne_eq,
          not_true_eq_false, not_false_eq_true, and_self, if_true, if_false, bind, Except.bind, pure, Except.pure]
      · have hin := h.in_order seg hq' hs hlo hhi hmoved hroom { state with rcvNxt := q.rcvNxt }
          hq.rcvNxt henabled ready.sacksArray ready.maxRcvBuffer
          (by rw [if_neg hmore]; simp [toReport, ready.quiet])
        exact ⟨_, _, _, _, insertText_forwarded hspace hins (by rwa [hrcv]) hforward (by simpa using hmore),
          hin.1, hin.2, fun i hi => hi⟩
  · refine ⟨⟨state, t.receiver.receiveQueue⟩, _, _, _, ?_, h.took_nothing ready.rcvNxt ready.sackEnabled
      ready.sacksArray ready.maxRcvBuffer, .quiet ?_ h.kept, fun i hi => .inl hi⟩
    · rw [Receiver.insertText, if_pos hspace]
      rfl
    · simp [toReport, ready.quiet]

/-- What the arrival of a segment leaves to report. -/
theorem arrive (near : t.Near base rcvWnd tcpseg p) :
    ∃ r rcv seen' spans', t.receiver.processSegment rcvWnd tcpseg = .ok r ∧
      Took base start t r rcv seen' spans' ∧ Trigger base t ⟨p, p + tcpseg.payloadLength⟩ r rcv spans' blocks ∧
      ∀ i, seen' i → seen i ∨ (⟨p, p + tcpseg.payloadLength⟩ : Span).Has i := by
  have hpos := near.nonempty
  have hahead := near.ahead
  have hacc := isSegmentAcceptable_iff { t.receiver.state with rcvWnd := rcvWnd } h.rcvNxt rfl near
  by_cases hin : t.rcv ≤ p ∧ p < t.rcv + rcvWnd.toNat ∨
      t.rcv < p + tcpseg.payloadLength ∧ p + tcpseg.payloadLength ≤ t.rcv + rcvWnd.toNat
  · obtain ⟨cut, hcut, hseq, hend⟩ := truncateSegment_near near (by omega) (by omega)
    obtain ⟨s, hslo, hshi⟩ : ∃ s : Span, s.lo = max p t.rcv ∧
        s.hi = min (p + tcpseg.payloadLength) (t.rcv + rcvWnd.toNat) := ⟨⟨_, _⟩, rfl, rfl⟩
    rw [← hslo] at hseq
    rw [← hshi] at hend
    have hpart : (⟨p, p + tcpseg.payloadLength⟩ : Span).lo ≤ s.lo ∧
        s.hi ≤ (⟨p, p + tcpseg.payloadLength⟩ : Span).hi := ⟨by simp only; omega, by simp only; omega⟩
    have hquiet := h.quiet
    simp only [toReport, not_or, Bool.not_eq_true] at hquiet
    have ready : Ready t (updateRcvQueueVars { t.receiver.state with rcvWnd := rcvWnd }
        t.receiver.receiveQueue) spans := ⟨rfl, rfl, rfl, rfl, hquiet, h.usedRcvBuffer_eq rfl⟩
    obtain ⟨r, rcv, seen', spans', hrun, htook, htr, hseen⟩ :=
      h.insertText ready hseq hend (by omega) (by omega) (by omega) hpart
    rw [← h.rcvNxt] at hcut
    refine ⟨r, rcv, seen', spans', ?_, htook, htr, ?_⟩
    · rw [Receiver.processSegment, if_pos (hacc.mpr hin), Receiver.processText]
      simp only [hcut, bind, Except.bind]
      exact hrun
    · intro i hi
      exact (hseen i hi).imp_right fun hhas =>
        ⟨Nat.le_trans hpart.1 hhas.1, Nat.lt_of_lt_of_le hhas.2 hpart.2⟩
  · obtain ⟨htook, htr⟩ := h.arrive_notAcceptable near rfl
    refine ⟨_, _, _, _, ?_, htook, htr, fun i hi => .inl hi⟩
    rw [Receiver.processSegment, if_neg (mt hacc.mp hin)]

/-- An event that meets the condition goes through, and an option that is written is honest. -/
theorem step {e : ReceiverEvent} (he : t.Meets base e) :
    ∃ t' option, t.step e = .ok (t', option) ∧ (∃ seen' spans' blocks', Idle base start t' seen' spans' blocks') ∧
      ∀ o, option = some o → Honest base t' o := by
  cases e with
  | send =>
    refine ⟨t, none, ?_, ⟨seen, spans, blocks, h⟩, fun o ho => by cases ho⟩
    have hwrite : t.receiver.writeHeaderOptions = .ok (t.receiver, none) := by
      rw [Receiver.writeHeaderOptions, if_neg fun hflags => h.quiet hflags.2]
    simp only [Tracked.step, hwrite, bind, Except.bind, pure, Except.pure]
  | arrive rcvWnd tcpseg p =>
    obtain ⟨near, fresh⟩ := he
    obtain ⟨r, rcv, seen', spans', hrun, htook, htr, hseen⟩ := h.arrive near
    have hadv : t.advance r = rcv := by
      have hle := htook.rcv_le
      have hlt := htook.rcv_lt
      rw [advance, htook.rcvNxt, h.rcvNxt, toNat_nth_sub base hle (by omega)]
      omega
    have harr : ∀ i, seen' i → Covers (⟨p, p + tcpseg.payloadLength⟩ :: t.arrived) i := by
      intro i hi
      rw [covers_cons]
      exact (hseen i hi).elim (fun hold => .inr (h.arrived i hold)) .inl
    have hafter : ∀ r' option, r.writeHeaderOptions = .ok (r', option) →
        t.step (.arrive rcvWnd tcpseg p) = .ok (Took.after t ⟨p, p + tcpseg.payloadLength⟩ r rcv r', option) := by
      intro r' option hwrite
      simp only [Tracked.step, hrun, hwrite, hadv, bind, Except.bind, pure, Except.pure]
      rfl
    by_cases hreport : toReport r
    · have hfresh : blocks ≠ [] → rcv < t.since + 2 ^ 31 := by
        intro hne
        have harray : r.state.sacksArray ≠ [] := by
          rw [htook.sacksArray, h.sacksArray]
          simpa using hne
        rw [← hadv]
        exact fresh r hrun hreport harray
      obtain ⟨r', option, blocks', hwrite, hidle, hhonest⟩ := htook.write_report h htr hreport hfresh harr
      refine ⟨_, _, hafter _ _ hwrite, ⟨_, _, _, hidle⟩, ?_⟩
      intro o ho
      cases ho
      exact hhonest
    · have hkept : ∀ b ∈ blocks, b ∈ spans' ∨ b.hi ≤ rcv := by
        cases htr with
        | quiet flags kept => exact kept
        | duplicate d flag startSeqno endSeqno nonempty part place held kept => exact kept
        | block f noDsack flag distinct left right nonempty place kept => exact absurd (.inl flag) hreport
      obtain ⟨hwrite, hidle⟩ := htook.write_quiet h hreport hkept harr
      exact ⟨_, _, hafter _ _ hwrite, ⟨_, _, _, hidle⟩, fun o ho => by cases ho⟩

/-- A run whose events all meet the condition goes through, and every option in it is honest. -/
theorem run {events : List ReceiverEvent} (hadm : t.Admissible base events) :
    ∃ t' options, t.run events = .ok (t', options) ∧ ∀ o ∈ options, Honest base o.1 o.2 := by
  induction events generalizing t seen spans blocks with
  | nil => exact ⟨t, [], rfl, by simp⟩
  | cons e events ih =>
    obtain ⟨hmeets, hrest⟩ := hadm
    obtain ⟨t', option, hstep, ⟨seen', spans', blocks', hidle⟩, hhonest⟩ := h.step hmeets
    obtain ⟨t'', options, hrun, hall⟩ := ih hidle (hrest (t', option) hstep)
    refine ⟨t'', (option.map fun option => (t', option)).toList ++ options, ?_, ?_⟩
    · simp only [Tracked.run, hstep, hrun, bind, Except.bind, pure, Except.pure]
    · intro o ho
      rw [mem_append] at ho
      cases ho with
      | inl hfirst =>
        cases option with
        | none => simp at hfirst
        | some option =>
          rw [map_some, toList_some, mem_singleton] at hfirst
          rw [hfirst]
          exact hhonest option rfl
      | inr hlater => exact hall o hlater

end

end Idle

end Arrival

/-- In every run of the receiver of a stream in which the segments lie near the first octet it waits
for, and the stream does not move on by half of the sequence space between two reports, no assertion
fails and every SACK option reports what the receiver holds. -/
theorem reports_honest (state : TCPStateVariables) (base : SeqNo) (start : Nat) (events : List ReceiverEvent)
    (h : (init state base start).Admissible base events) :
    ∃ t options, (init state base start).run events = .ok (t, options) ∧
      ∀ o ∈ options, Honest base o.1 o.2 :=
  (init_idle state base start).run h

/-- Segments out of order, one of them twice, around the end of the number space. -/
theorem reports_honest_wrap :
    ∃ t options, (init { maxRcvBuffer := 65536, tsEnabled := true } 0xffffff00 16).run
        [.arrive 65535 { sequenceNo := 0x74, payloadLength := 100 } 372,
          .arrive 65535 { sequenceNo := 0x74, payloadLength := 100 } 372, .send,
          .arrive 65535 { sequenceNo := 0xffffff10, payloadLength := 256 } 16] = .ok (t, options) ∧
      ∀ o ∈ options, Honest 0xffffff00 o.1 o.2 :=
  reports_honest { maxRcvBuffer := 65536, tsEnabled := true } 0xffffff00 16 _ (by decide +kernel)

theorem run_append (t : Tracked) (events events' : List ReceiverEvent) {t' t'' : Tracked}
    {options options' : List (Tracked × SackOption)} (h : t.run events = .ok (t', options))
    (h' : t'.run events' = .ok (t'', options')) : t.run (events ++ events') = .ok (t'', options ++ options') := by
  induction events generalizing t options with
  | nil =>
    cases h
    exact h'
  | cons e events ih =>
    rw [Tracked.run, bind_ok] at h
    obtain ⟨next, hstep, h⟩ := h
    rw [bind_ok] at h
    obtain ⟨last, hrun, h⟩ := h
    cases h
    have hrest := ih next.1 hrun
    simp only [cons_append, Tracked.run, hstep, hrest, bind, Except.bind, pure, Except.pure, append_assoc]

/-- The receiver after data up to `x` has been handed up, with nothing buffered. -/
def forwarded (state : TCPStateVariables) (rcvWnd x : SeqNo) : Receiver where
  state := { TCPStateVariables.updateRcvQueueVars { state with rcvWnd := rcvWnd } (.init x) with rcvNxt := x }
  receiveQueue := .init x

/-- With nothing buffered, a segment in order is handed up, and there is nothing to report. -/
theorem processSegment_in_order {x rcvWnd : SeqNo} {n : Nat} (hn : 0 < n)
    (hwnd : n ≤ rcvWnd.toNat) (hlen : n + rcvWnd.toNat ≤ 2 ^ 31)
    (hmax : n ≤ state.maxRcvBuffer.toNat) (hmax' : state.maxRcvBuffer.toNat < 2 ^ 31) (hrcv : state.rcvNxt = x) :
    Receiver.processSegment ⟨state, .init x⟩ rcvWnd { sequenceNo := x, payloadLength := n } =
      .ok (forwarded state rcvWnd (nth x n)) := by
  have near : Near x ⟨⟨state, .init x⟩, 0, 0, []⟩ rcvWnd { sequenceNo := x, payloadLength := n } 0 :=
    ⟨(nth_zero x).symm, hn, fun hbytes => absurd rfl hbytes, by simp only; omega, by simp only; omega, hlen⟩
  have hacc := (isSegmentAcceptable_iff { state with rcvWnd := rcvWnd } (by simp [hrcv]) rfl near).mpr
    (.inl ⟨Nat.le_refl _, by simp only; omega⟩)
  obtain ⟨cut, hcut, hseq, hend⟩ := truncateSegment_near near (by simp only; omega) (by simp only; omega)
  simp only [nth_zero, Nat.max_self, Nat.zero_add, Nat.min_eq_left hwnd] at hcut hseq hend
  have hspace : hasEnoughSpaceForSegmentInReceiveQueue
      (updateRcvQueueVars { state with rcvWnd := rcvWnd } (.init x)) (.init x) cut := by
    have hfirst : TCPVirtualDataRcvQueue.getFirstSeqNo (.init x : TCPVirtualDataRcvQueue Region) = nth x 0 :=
      (nth_zero x).symm
    constructor
    · rw [hfirst, hseq, nth_zero, seqLE, BitVec.sub_self]
      decide
    · rw [hfirst, hend, nth_add_window, seqLE_nth]
      · simpa [updateRcvQueueVars] using hmax
      · simp only [updateRcvQueueVars]
        omega
      · simp only [updateRcvQueueVars]
        omega
  have hinit := Tracks.init x (ofSpan x) 0
  rw [nth_zero] at hinit
  have hsegment : RegionClass.createRegionFromSegment cut = .ok (ofSpan x ⟨0, n⟩) := by
    simp only [RegionClass.createRegionFromSegment, hseq, hend, ofSpan, nth_zero]
  obtain ⟨rcv, q, hins, hq⟩ := hinit.insert (depicts x) hsegment hn (Nat.le_refl _) (by simp only; omega)
    (by simp only; omega) fun _ _ _ _ => trivial
  have hrcvn : rcv = n := hq.first.unique
    ⟨Nat.zero_le _, by simp [Span.Has], fun i hlo hhi => .inr ⟨hlo, hhi⟩⟩
  rw [hrcvn] at hq
  obtain ⟨spans', q', hforward, hq'⟩ := forwardData_eq hq hn
  have hempty : spans' = [] := hq'.separated.ext .nil fun i => by
    rw [hq'.covers]
    refine ⟨?_, fun hnil => absurd hnil (covers_nil i)⟩
    rintro ⟨hfalse | hhas, hge⟩
    · exact hfalse.elim
    · exact absurd hhas.2 (Nat.not_lt.mpr hge)
  have hq'init : q' = .init (nth x n) := by
    have h₁ := hq'.rcvNxt
    have h₂ := hq'.regionList
    cases q'
    simp_all [TCPVirtualDataRcvQueue.init]
  have hmoved : ¬ x = q.rcvNxt := by
    rw [hq.rcvNxt]
    have hne : nth x 0 ≠ nth x n := by
      rw [Ne, nth_eq_nth (by omega) (by omega)]
      omega
    rwa [nth_zero] at hne
  rw [← hq.rcvNxt] at hforward
  rw [hq'init] at hforward
  have hrun := insertText_forwarded hspace hins
    (by simpa [updateRcvQueueVars, hrcv] using hmoved) hforward rfl
  rw [Receiver.processSegment, if_pos hacc, Receiver.processText]
  subst hrcv
  simp only [hcut, bind, Except.bind]
  rw [hrun, hq.rcvNxt]
  rfl

/-- `n` segments in order from the position `p` on, all of the same length. -/
def inOrder (rcvWnd : SeqNo) (len : Nat) : Nat → Nat → List ReceiverEvent
  | _, 0 => []
  | p, n + 1 => .arrive rcvWnd { sequenceNo := nth 0 p, payloadLength := len } p :: inOrder rcvWnd len (p + len) n

/-- However many segments arrive in order, the list of blocks is left as it is. -/
theorem run_inOrder {rcvWnd : SeqNo} {len : Nat} (hlen : 0 < len)
    (hwnd : len ≤ rcvWnd.toNat) (hhalf : len + rcvWnd.toNat ≤ 2 ^ 31) (hmax : len ≤ state.maxRcvBuffer.toNat)
    (hmax' : state.maxRcvBuffer.toNat < 2 ^ 31) (hquiet : state.sndSack = false ∧ state.sndDsack = false)
    (n p since : Nat) (arrived : List Span) :
    ∃ arrived', run ⟨forwarded state rcvWnd (nth 0 p), p, since, arrived⟩ (inOrder rcvWnd len p n) =
      .ok (⟨forwarded state rcvWnd (nth 0 (p + n * len)), p + n * len, since, arrived'⟩, []) := by
  induction n generalizing p arrived with
  | zero => exact ⟨arrived, by simp [run, inOrder]⟩
  | succ n ih =>
    obtain ⟨arrived', hrest⟩ := ih (p + len) (⟨p, p + len⟩ :: arrived)
    refine ⟨arrived', ?_⟩
    have hproc : (forwarded state rcvWnd (nth 0 p)).processSegment rcvWnd
        { sequenceNo := nth 0 p, payloadLength := len } = .ok (forwarded state rcvWnd (nth 0 (p + len))) := by
      rw [← nth_nth]
      exact processSegment_in_order hlen hwnd hhalf hmax hmax' rfl
    have hnot : ¬ toReport (forwarded state rcvWnd (nth 0 (p + len))) := by
      simp [toReport, forwarded, updateRcvQueueVars, hquiet]
    have hwrite : (forwarded state rcvWnd (nth 0 (p + len))).writeHeaderOptions =
        .ok (forwarded state rcvWnd (nth 0 (p + len)), none) := by
      rw [Receiver.writeHeaderOptions, if_neg fun hflags => hnot hflags.2]
    have hadv : advance ⟨forwarded state rcvWnd (nth 0 p), p, since, arrived⟩
        (forwarded state rcvWnd (nth 0 (p + len))) = p + len := by
      have hdist : (nth (0 : SeqNo) (p + len) - nth 0 p).toNat = p + len - p :=
        toNat_nth_sub 0 (Nat.le_add_right p len) (by omega)
      simp only [advance, forwarded, hdist]
      omega
    have hpos : p + (n + 1) * len = p + len + n * len := by
      rw [Nat.succ_mul]
      omega
    rw [hpos, inOrder, run]
    simp only [step, hproc, hwrite, hadv, if_neg hnot, hrest, bind, Except.bind, pure, Except.pure]
    rfl

/-- Two blocks are reported, and the data between them arrives. -/
def closedGap : List ReceiverEvent :=
  [.arrive 65535 { sequenceNo := 2000, payloadLength := 1000 } 2000,
    .arrive 65535 { sequenceNo := 0, payloadLength := 1000 } 0,
    .arrive 65535 { sequenceNo := 1000, payloadLength := 1000 } 1000,
    .arrive 65535 { sequenceNo := 3000, payloadLength := 1000 } 3000]

/-- The state variables then, with the two blocks. -/
def listed : TCPStateVariables :=
  { maxRcvBuffer := 65536, sackEnabled := true, ackNow := true, sacksArray := [⟨0, 1000⟩, ⟨2000, 3000⟩] }

theorem run_closedGap : ∃ options, (init { maxRcvBuffer := 65536 } 0 0).run closedGap =
    .ok (⟨forwarded listed 65535 (nth 0 4000), 4000, 0,
      [⟨3000, 4000⟩, ⟨1000, 2000⟩, ⟨0, 1000⟩, ⟨2000, 3000⟩]⟩, options) :=
  map_fst_ok (by decide)

/-- A segment after a gap has been taken in, much later. -/
def muchLater : Receiver where
  state := { listed with
    rcvWnd := 65535, rcvNxt := 2147487000, freeRcvBuffer := 65536, startSeqno := 2147488000,
    endSeqno := 2147489000, sndSack := true }
  receiveQueue := ⟨2147487000, [⟨2147488000, 2147489000⟩]⟩

theorem processSegment_muchLater : (forwarded listed 65535 (nth 0 2147487000)).processSegment 65535
    { sequenceNo := 2147488000, payloadLength := 1000 } = .ok muchLater := by
  decide

theorem writeHeaderOptions_muchLater : muchLater.writeHeaderOptions =
    .ok ({ muchLater with state := { muchLater.state with
        startSeqno := 0, endSeqno := 0, sndSack := false
        sacksArray := [⟨2147488000, 2147489000⟩, ⟨0, 1000⟩, ⟨2000, 3000⟩] } },
      some ⟨2, [⟨2147488000, 2147489000⟩, ⟨0, 1000⟩, ⟨2000, 3000⟩], 28⟩) := by
  decide

/-- A block after the first one that is not a region of the queue. -/
theorem not_honest {option : SackOption} {first second : Sack} {others : List Sack}
    (hblocks : option.blocks = first :: second :: others)
    (hnot : ∀ r ∈ t.receiver.receiveQueue.regionList, r.beginNo ≠ second.start) : ¬ Honest base t option := by
  rintro ⟨-, -, spans, f, rest, hlist, -, -, hreported, -, hrest, -⟩
  rw [hblocks, map_cons, List.cons.injEq] at hreported
  have hmem : second ∈ rest.map (sackOf base) := by simp [← hreported.2]
  obtain ⟨b, hb, hb'⟩ := mem_map.mp hmem
  have hregion : ofSpan base b ∈ t.receiver.receiveQueue.regionList := by
    rw [hlist]
    exact mem_map_of_mem (hrest b hb)
  exact hnot _ hregion (by rw [← hb']; rfl)

/-- More than 2^31 octets follow in order before another segment is missing: the two blocks are still
in the list, pass the assertion and are reported as data that is ahead. -/
theorem stale_block : ∃ t options option,
    (init { maxRcvBuffer := 65536 } 0 0).run (closedGap ++ (inOrder 65535 1000 4000 2147483 ++
      [.arrive 65535 { sequenceNo := 2147488000, payloadLength := 1000 } 2147488000])) =
      .ok (t, options ++ [(t, option)]) ∧
    t.receiver.state.rcvNxt = 2147487000 ∧
    t.receiver.receiveQueue.regionList = [⟨2147488000, 2147489000⟩] ∧
    option.blocks = [⟨2147488000, 2147489000⟩, ⟨0, 1000⟩, ⟨2000, 3000⟩] ∧
    (∀ it ∈ option.blocks, seqGE it.start t.receiver.state.rcvNxt) ∧
    ¬ Honest 0 t option := by
  obtain ⟨options, hclosed⟩ := run_closedGap
  obtain ⟨arrived, hmany⟩ := @run_inOrder listed 65535 1000 (by decide) (by decide)
    (by decide) (by decide) (by decide) (by decide) 2147483 4000 0
    [⟨3000, 4000⟩, ⟨1000, 2000⟩, ⟨0, 1000⟩, ⟨2000, 3000⟩]
  obtain ⟨t, option, hlast, hrcv, hlist, hblocks⟩ : ∃ t option,
      run ⟨forwarded listed 65535 (nth 0 2147487000), 2147487000, 0, arrived⟩
        [.arrive 65535 { sequenceNo := 2147488000, payloadLength := 1000 } 2147488000] = .ok (t, [(t, option)]) ∧
      t.receiver.state.rcvNxt = 2147487000 ∧
      t.receiver.receiveQueue.regionList = [⟨2147488000, 2147489000⟩] ∧
      option.blocks = [⟨2147488000, 2147489000⟩, ⟨0, 1000⟩, ⟨2000, 3000⟩] := by
    simp only [run, step, processSegment_muchLater, writeHeaderOptions_muchLater, bind, Except.bind, pure,
      Except.pure, map_some, toList_some, append_nil]
    exact ⟨_, _, rfl, rfl, rfl, rfl⟩
  refine ⟨t, options, option, ?_, hrcv, hlist, hblocks, ?_, not_honest hblocks ?_⟩
  · have hall := run_append _ _ _ hclosed (run_append _ _ _ hmany hlast)
    rwa [nil_append] at hall
  · rw [hblocks, hrcv]
    decide
  · rw [hlist]
    decide

end Tracked

end Inet.Tcp
