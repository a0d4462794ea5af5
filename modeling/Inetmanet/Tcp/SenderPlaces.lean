import Inetmanet.Tcp.SACKOption

/-!
# Where the sequence numbers of a sender lie

`snd_nxt` and `snd_max` lie within what has been sent, or behind the FIN, whatever the
algorithm calls. A timeout may have set `snd_nxt` back, and the next segment then starts
behind what has been acknowledged selectively or sent again.
-/
namespace Inet.Tcp

open SerialNumber RunLength TCPSACKRexmitQueue List

namespace TCPSACKRexmitQueue

/-- The octet has been acknowledged selectively or sent again. -/
def PassedOver (f : Flags) : Prop := f.sacked = true ∨ f.rexmitted = true

/-- The octets that are passed over lie before the first one that has neither bit set. -/
theorem forwardOver_regionsOf (base : SeqNo) (p : Nat) {l : List (Nat × Flags)} (hl : Positive l)
    (hlen : total l < 2 ^ 31) (bytes : SeqNo) : ∃ k,
    forwardOver bytes (nth base p) (regionsOf base p l) = .ok (bytes + BitVec.ofNat 32 k) ∧ k ≤ total l ∧
      (∀ n f, n < k → (expand l)[n]? = some f → PassedOver f) ∧ ∀ f, (expand l)[k]? = some f → ¬ PassedOver f := by
  induction l generalizing p bytes with
  | nil =>
    refine ⟨0, ?_, Nat.le_refl _, ?_, ?_⟩
    · rw [regionsOf, forwardOver, BitVec.add_zero]
    · intro n f hn
      omega
    · intro f hf
      cases hf
  | cons r l ih =>
    obtain ⟨n, f⟩ := r
    obtain ⟨hn, hl'⟩ := Positive.cons_iff.mp hl
    rw [total_cons] at hlen
    rw [regionsOf, forwardOver]
    split
    · next hpassed =>
      have hpassed : PassedOver f := by simpa [PassedOver] using hpassed
      have haround : Around (nth base p) ⟨nth base p, nth base (p + n), f.sacked, f.rexmitted⟩ := by
        constructor
        · rw [seqLE_nth (by omega) (by omega)]
        · rw [seqLess_nth (by omega) (by omega)]
          omega
      have hstep : nth base (p + n) - nth base p = BitVec.ofNat 32 n := by
        rw [nth_sub base (Nat.le_add_right _ _), Nat.add_sub_cancel_left]
      obtain ⟨k, hrun, hk, hbefore, hat⟩ := ih (p := p + n) hl' (by omega) (bytes + BitVec.ofNat 32 n)
      refine ⟨n + k, ?_, ?_, ?_, ?_⟩
      · rw [ensure_pos haround]
        simp only [bind, Except.bind, hstep]
        rw [hrun, BitVec.ofNat_add, BitVec.add_assoc]
      · rw [total_cons]
        omega
      · intro m g hm hg
        rw [expand_cons] at hg
        rcases Nat.lt_or_ge m n with hlt | hge
        · rw [List.getElem?_append_left (by rw [length_replicate]; exact hlt), List.getElem?_replicate, if_pos hlt] at hg
          cases hg
          exact hpassed
        · rw [List.getElem?_append_right (by rw [length_replicate]; exact hge), length_replicate] at hg
          exact hbefore (m - n) g (by omega) hg
      · intro g hg
        rw [expand_cons, List.getElem?_append_right (by rw [length_replicate]; omega), length_replicate,
          Nat.add_sub_cancel_left] at hg
        exact hat g hg
    · next hpassed =>
      have hpassed : ¬ PassedOver f := by simpa [PassedOver] using hpassed
      refine ⟨0, ?_, Nat.zero_le _, ?_, ?_⟩
      · rw [BitVec.add_zero]
      · intro m g hm
        omega
      · intro g hg
        rw [expand_cons, List.getElem?_append_left (by rw [length_replicate]; exact hn), List.getElem?_replicate,
          if_pos hn] at hg
        cases hg
        exact hpassed

/-- How far `snd_nxt` is forwarded. -/
structure Forwarded (q : TCPSACKRexmitQueue) (seqNum : SeqNo) (k : Nat) : Prop where
  within : q.position seqNum + k ≤ q.octets.length
  passed : ∀ n f, q.position seqNum ≤ n → n < q.position seqNum + k → q.octets[n]? = some f → PassedOver f
  stops : ∀ f, q.octets[q.position seqNum + k]? = some f → ¬ PassedOver f

theorem Short.forwarded {q : TCPSACKRexmitQueue} (h : q.Short) {seqNum : SeqNo}
    (hle : q.position seqNum ≤ q.octets.length) : ∃ k, Forwarded q seqNum k ∧
      q.checkRexmitQueueForSackedOrRexmittedSegments seqNum = .ok (BitVec.ofNat 32 k) := by
  have hlength := h.length
  rw [checkRexmitQueueForSackedOrRexmittedSegments, ensure_pos (h.entry_iff.mpr hle)]
  simp only [bind, Except.bind]
  have hrep := h.represents
  have hlast : q.position seqNum = q.octets.length → Forwarded q seqNum 0 := by
    intro heq
    refine ⟨Nat.le_of_eq heq, fun n _ h₁ h₂ => by omega, ?_⟩
    intro f hf
    rw [Nat.add_zero, heq, List.getElem?_eq_none (Nat.le_refl _)] at hf
    cases hf
  split
  · next hempty =>
    refine ⟨0, hlast ?_, rfl⟩
    cases hempty with
    | inl hnil =>
      have hzero : q.octets.length = 0 := by rw [octets, hnil]; rfl
      omega
    | inr hend => rw [← hend, h.position_endNo]
  · next hinside =>
    have hlt : q.position seqNum < q.octets.length := by
      apply Nat.lt_of_le_of_ne hle
      intro heq
      apply hinside
      right
      apply offset_inj q.beginNo
      change q.position q.endNo = q.position seqNum
      rw [h.position_endNo, heq]
    obtain ⟨r, l, n, f, tail, hafter, haround, hregions, hpositive, hflags⟩ := hrep.around (x := q.position seqNum)
      (Nat.zero_le _) (by simpa only [Scoreboard.last, Nat.zero_add] using hlt)
    rw [Short.nth_position] at hafter haround hregions
    rw [hafter]
    have hflags : q.octets.drop (q.position seqNum) = expand ((n, f) :: tail) := hflags
    have htotal : total ((n, f) :: tail) < 2 ^ 31 := by
      rw [← length_expand, ← hflags, length_drop]
      omega
    obtain ⟨k, hrun, hk, hover, hstops⟩ := forwardOver_regionsOf q.beginNo (q.position seqNum) hpositive htotal 0
    -- the first region may begin below
    have hbegin : Around seqNum { r with beginSeqNum := seqNum } :=
      ⟨by rw [seqLE, BitVec.sub_self]; decide, haround.2⟩
    have hfirst : forwardOver 0 seqNum (r :: l) = forwardOver 0 seqNum ({ r with beginSeqNum := seqNum } :: l) := by
      rw [forwardOver, forwardOver, ensure_pos haround, ensure_pos hbegin]
    rw [hfirst, hregions]
    rw [Short.nth_position] at hrun
    refine ⟨k, ⟨?_, ?_, ?_⟩, ?_⟩
    · rw [← length_expand, ← hflags, length_drop] at hk
      omega
    · intro m g hm₁ hm₂ hg
      apply hover (m - q.position seqNum) g (by omega)
      rw [← hflags, List.getElem?_drop, Nat.add_sub_cancel' hm₁]
      exact hg
    · intro g hg
      apply hstops g
      rw [← hflags, List.getElem?_drop]
      exact hg
    · rw [hrun]
      exact congrArg Except.ok (BitVec.zero_add _)

end TCPSACKRexmitQueue

namespace TCPReno

/-- How many octets from the begin of the send queue on may have been sent. -/
def reach (s : TCPReno) : Nat := if s.state.sackEnabled then s.rexmitQueue.octets.length else s.buffered

/-- A sequence number up to which data has been sent, or the one behind the FIN. -/
def InReach (s : TCPReno) (seqNum : SeqNo) : Prop :=
  s.offset seqNum ≤ s.reach ∨ s.state.sendFin = true ∧ seqNum = s.sendQueue.bufferEndSeq + 1

/-- What holds of a sender wherever `snd_nxt` is. -/
structure Held (s : TCPReno) : Prop where
  together : s.state.sackEnabled = true → s.Together
  buffered : s.buffered < 2 ^ 31
  fin : s.state.sendFin = true → s.state.sndFinSeq = s.sendQueue.bufferEndSeq ∧ s.buffered + 1 < 2 ^ 31
  /-- The send queue begins at `snd_una`, unless the FIN has been acknowledged. -/
  sndUna : s.state.sndUna = s.sendQueue.bufferStartSeq ∨
    s.state.sendFin = true ∧ s.state.sndUna = s.sendQueue.bufferEndSeq + 1 ∧ s.buffered = 0
  sndMax : s.InReach s.state.sndMax

structure Placed (s : TCPReno) : Prop extends Held s where
  sndNxt : s.InReach s.state.sndNxt

section Placed

variable {s s' : TCPReno} {bytes forward sentBytes seqNum : SeqNo} {q : TCPSACKRexmitQueue}

theorem Held.reach_le (h : s.Held) : s.reach ≤ s.buffered := by
  rw [reach]
  split
  · next hsack => exact (h.together hsack).length
  · exact Nat.le_refl _

theorem InReach.mono (h : s.InReach seqNum) (hqueue : s'.sendQueue = s.sendQueue) (hfin : s'.state.sendFin = s.state.sendFin)
    (hreach : s.reach ≤ s'.reach) : s'.InReach seqNum := by
  rw [InReach, hfin, hqueue]
  refine h.imp_left fun hle => ?_
  rw [offset, hqueue]
  exact Nat.le_trans hle hreach

/-- Nothing that the sending of data goes by has changed. -/
theorem Own.placed (hown : Own s s') (h : s.Placed) : s'.Placed := by
  have hbuffered : s'.buffered = s.buffered := by rw [TCPReno.buffered, TCPReno.buffered, offset, offset, hown.sendQueue]
  have hreach : s.reach ≤ s'.reach := by
    rw [reach, reach, hown.sackEnabled, hown.rexmitQueue, hbuffered]
  refine ⟨⟨?_, ?_, ?_, ?_, ?_⟩, ?_⟩
  · intro hsack
    exact (h.together (hown.sackEnabled.symm.trans hsack)).of_same hown.sendQueue hown.rexmitQueue
  · rw [hbuffered]
    exact h.buffered
  · rw [hown.sendFin, hown.sndFinSeq, hown.sendQueue, hbuffered]
    exact h.fin
  · rw [hown.sndUna, hown.sendQueue, hown.sendFin, hbuffered]
    exact h.sndUna
  · rw [hown.sndMax]
    exact h.sndMax.mono hown.sendQueue hown.sendFin hreach
  · rw [hown.sndNxt]
    exact h.sndNxt.mono hown.sendQueue hown.sendFin hreach

theorem Held.at (h : s.Held) (seqNum : SeqNo) : (s.setSndNxt seqNum).Held :=
  ⟨fun hsack => (h.together hsack).of_same rfl rfl, h.buffered, h.fin, h.sndUna, h.sndMax⟩

theorem Held.setSndNxt (h : s.Held) (hnext : s.InReach seqNum) : (s.setSndNxt seqNum).Placed := ⟨h.at seqNum, hnext⟩

/-- A segment is sent from within what has been sent, and ends within the send queue. -/
structure SegmentPlaced (s s' : TCPReno) (from_ sentBytes : SeqNo) : Prop where
  placed : s'.Placed
  start : s.offset from_ ≤ s.reach
  sum : s.offset (from_ + sentBytes) = s.offset from_ + sentBytes.toNat
  end_le : s.offset (from_ + sentBytes) ≤ s'.reach
  reach : s.reach ≤ s'.reach

theorem SegmentRun.placed (hsegment : SegmentRun s s' bytes forward sentBytes q) (h : s.Held) :
    SegmentPlaced s s' (s.state.sndNxt + forward) sentBytes := by
  obtain ⟨hfrom, hto, hwithin⟩ := hsegment.within h.buffered
  have hresult := hsegment.result
  have hsend : s'.sendQueue = s.sendQueue := by rw [hresult]; rfl
  have hqueue : s'.rexmitQueue = q := by rw [hresult]; rfl
  have hsack : s'.state.sackEnabled = s.state.sackEnabled := by rw [hresult]; rfl
  have hfin : s'.state.sendFin = s.state.sendFin := by rw [hresult]; rfl
  have hbuffered : s'.buffered = s.buffered := by rw [TCPReno.buffered, TCPReno.buffered, offset, offset, hsend]
  have hreached : s.offset (s.state.sndNxt + forward) ≤ s.reach ∧
      s.offset (s.state.sndNxt + forward + sentBytes) ≤ s'.reach ∧ s.reach ≤ s'.reach ∧
      (s'.state.sackEnabled = true → s'.Together) := by
    rw [TCPReno.reach, TCPReno.reach, hsack, hqueue, hbuffered]
    cases hsacked : s.state.sackEnabled with
    | false => exact ⟨hfrom, hwithin, Nat.le_refl _, fun hyes => absurd hyes (by decide)⟩
    | true =>
      have htogether := h.together hsacked
      have hposition := htogether.position
      obtain ⟨hq, hbegin, hle, -, hoctets⟩ := htogether.queue.enqueueSentData (hsegment.enqueued hsacked)
        (by rw [hposition]; exact Nat.lt_of_le_of_lt hwithin h.buffered)
      have hlength : q.octets.length =
          s.rexmitQueue.octets.length + (s.offset (s.state.sndNxt + forward + sentBytes) - s.rexmitQueue.octets.length) := by
        rw [hoctets, hposition, hposition, length_append, length_onRange, length_replicate]
      rw [hposition] at hle
      simp only [if_true]
      refine ⟨hle, ?_, ?_, fun _ => ?_⟩
      · omega
      · omega
      · rw [hresult]
        refine (htogether.setRexmitQueue hq hbegin ?_).of_same rfl rfl
        have hold := htogether.length
        omega
  obtain ⟨hfrom, hto_le, hreach, htogether⟩ := hreached
  have huna : s'.state.sndUna = s.state.sndUna := by rw [hresult]; rfl
  have hmax : s'.state.sndMax = s.state.sndMax := by rw [hresult]; rfl
  have hfinSeq : s'.state.sndFinSeq = s.state.sndFinSeq := by rw [hresult]; rfl
  have hnext : s'.state.sndNxt = s.state.sndNxt + forward + sentBytes ∨
      s.state.sendFin = true ∧ s'.state.sndNxt = s.state.sndFinSeq + 1 := by
    rw [hresult]
    change (if _ then _ else _) = _ ∨ _ ∧ (if _ then _ else _) = _
    split
    · next hcarries =>
      rw [carriesFin, Bool.and_eq_true] at hcarries
      exact .inr ⟨hcarries.1, rfl⟩
    · exact .inl rfl
  refine ⟨⟨⟨htogether, ?_, ?_, ?_, ?_⟩, ?_⟩, hfrom, hto, hto_le, hreach⟩
  · rw [hbuffered]
    exact h.buffered
  · rw [hfin, hfinSeq, hsend, hbuffered]
    exact h.fin
  · rw [huna, hsend, hfin, hbuffered]
    exact h.sndUna
  · rw [hmax]
    exact h.sndMax.mono hsend hfin hreach
  · rcases hnext with hnext | ⟨hclosed, hnext⟩
    · rw [hnext]
      left
      rw [offset, hsend]
      exact hto_le
    · rw [hnext, (h.fin hclosed).1, InReach, hfin, hsend]
      exact .inr ⟨hclosed, rfl⟩

end Placed

section Calls

variable {s s' : TCPReno} {bytes seqNum : SeqNo} {seg : AckSegment}

theorem Held.sendSegment (h : s.Held) (hrun : s.sendSegment bytes = .ok s') : s'.Placed := by
  obtain ⟨forward, sentBytes, q, hsegment⟩ := sendSegment_run hrun
  exact (hsegment.placed h).placed

variable {congestionWindow ackNo : SeqNo}

section

variable (h : s.Placed)
include h

theorem Placed.setSndMax (hmax : s.InReach seqNum) : (s.setSndMax seqNum).Placed :=
  ⟨⟨fun hsack => (h.together hsack).of_same rfl rfl, h.buffered, h.fin, h.sndUna, hmax⟩, h.sndNxt⟩

theorem Placed.rememberHighest : s.rememberHighest.Placed := by
  rw [TCPReno.rememberHighest]
  split
  · exact h.setSndMax h.sndNxt
  · exact h

variable {effectiveMaxBytesSend bytesToSend left : ULong}

theorem Placed.sendWhole {fuel : Nat}
    (hrun : TCPReno.sendWhole effectiveMaxBytesSend fuel bytesToSend s = .ok (left, s')) : s'.Placed := by
  induction fuel generalizing bytesToSend s with
  | zero => cases hrun
  | succ fuel ih =>
    rw [TCPReno.sendWhole] at hrun
    split at hrun
    · obtain ⟨s₁, hsegment, hrun⟩ := bind_ok.mp hrun
      exact ih (h.toHeld.sendSegment hsegment) hrun
    · cases hrun
      exact h

theorem Placed.sendBytes
    (hrun : s.sendBytes bytesToSend effectiveMaxBytesSend = .ok (left, s')) : s'.Placed := by
  obtain hsegment | ⟨-, hwhole⟩ := sendBytes_ok hrun
  · exact h.toHeld.sendSegment hsegment
  · exact h.sendWhole hwhole

theorem Placed.sendData {fullSegmentsOnly : Bool}
    (hrun : s.sendData fullSegmentsOnly congestionWindow = .ok s') : s'.Placed := by
  obtain ⟨s₀, hs₀, hsent⟩ := sendData_ok hrun
  have hnext : s₀.Placed := by
    rw [hs₀]
    split
    · exact h
    · exact h.toHeld.setSndNxt h.sndMax
  obtain rfl | ⟨bytesToSend, left, s₁, s₂, hbytes, hlast, rfl⟩ := hsent
  · exact hnext
  · have hsent := hnext.sendBytes hbytes
    apply Placed.rememberHighest
    obtain rfl | hsegment := sendLast_ok hlast
    · exact hsent
    · exact hsent.toHeld.sendSegment hsegment

theorem Placed.sendProbe (hrun : s.sendProbe = .ok s') : s'.Placed := by
  obtain rfl | ⟨s₁, hsegment, rfl⟩ := sendProbe_ok hrun
  · exact h.toHeld.setSndNxt h.sndMax
  · have hsent := (h.toHeld.at s.state.sndMax).sendSegment hsegment
    exact hsent.setSndMax hsent.sndNxt

end

/-- How `snd_nxt` has been forwarded. -/
structure Skips (s : TCPReno) (from_ : SeqNo) : Prop where
  le : s.offset s.state.sndNxt ≤ s.offset from_
  passed : ∀ n f, s.offset s.state.sndNxt ≤ n → n < s.offset from_ → s.rexmitQueue.octets[n]? = some f → PassedOver f
  /-- Nothing is skipped unless a timeout has come before. -/
  none_ : s.state.sackEnabled = false ∨ s.state.afterRto = false → from_ = s.state.sndNxt
  stops : s.state.sackEnabled = true → s.state.afterRto = true → ∀ f, s.rexmitQueue.octets[s.offset from_]? = some f →
    ¬ PassedOver f

theorem SegmentRun.skips {forward sentBytes : SeqNo} {q : TCPSACKRexmitQueue}
    (hsegment : SegmentRun s s' bytes forward sentBytes q) (h : s.Held) : s.Skips (s.state.sndNxt + forward) := by
  by_cases hforwards : s.state.sackEnabled = true ∧ s.state.afterRto = true
  · have htogether := h.together hforwards.1
    have hchecked := hsegment.forwarded hforwards.1 hforwards.2
    have hentry := hchecked
    rw [checkRexmitQueueForSackedOrRexmittedSegments] at hentry
    have hle := htogether.queue.entry_iff.mp (ensure_bind_ok.mp hentry).1
    obtain ⟨k, ⟨hin, hover, hstops⟩, hok⟩ := htogether.queue.forwarded hle
    rw [hchecked] at hok
    cases hok
    have hlength := htogether.queue.length
    rw [htogether.position] at hin hover hstops
    have hfrom : s.offset (s.state.sndNxt + BitVec.ofNat 32 k) = s.offset s.state.sndNxt + k := by
      rw [offset, offset_add, BitVec.toNat_ofNat]
      change (s.offset s.state.sndNxt + k % 2 ^ 32) % 2 ^ 32 = s.offset s.state.sndNxt + k
      omega
    refine ⟨?_, ?_, ?_, ?_⟩
    · rw [hfrom]
      exact Nat.le_add_right _ _
    · rw [hfrom]
      exact hover
    · intro hno
      rw [hforwards.1, hforwards.2] at hno
      cases hno <;> contradiction
    · rw [hfrom]
      exact fun _ _ => hstops
  · have hzero : forward = 0#32 := by
      apply hsegment.unforwarded
      rw [not_and_or, Bool.not_eq_true, Bool.not_eq_true] at hforwards
      exact hforwards
    rw [hzero, BitVec.add_zero]
    exact ⟨Nat.le_refl _, fun n _ h₁ h₂ => by omega, fun _ => rfl, fun h₁ h₂ => absurd ⟨h₁, h₂⟩ hforwards⟩

/-- A segment that starts at `snd_max` ends the time after a timeout. -/
theorem Held.afterRto_cleared (h : s.Held) (hnext : s.state.sndNxt = s.state.sndMax)
    (hrun : s.sendSegment bytes = .ok s') : s'.state.afterRto = false := by
  obtain ⟨forward, sentBytes, q, hsegment⟩ := sendSegment_run hrun
  obtain ⟨hfrom, hto, hwithin⟩ := hsegment.within h.buffered
  have hbuffered := h.buffered
  have hreached : s.offset s.state.sndMax ≤ s.offset (s.state.sndNxt + forward) := by
    rw [← hnext]
    exact (hsegment.skips h).le
  have hge : seqGE (s.state.sndNxt + forward + sentBytes) s.state.sndMax := by
    rw [seqGE_offset s.sendQueue.bufferStartSeq (Nat.lt_of_le_of_lt hwithin hbuffered)
      (Nat.lt_of_le_of_lt (Nat.le_trans hreached hfrom) hbuffered)]
    change s.offset _ ≤ s.offset _
    omega
  rw [hsegment.result]
  change (s.state.afterRto && !decide (seqGE (s.state.sndNxt + forward + sentBytes) s.state.sndMax)) = false
  rw [decide_eq_true hge, Bool.not_true, Bool.and_false]

section

variable (h : s.Placed)
include h

theorem Placed.sendOneNewSegment {fullSegmentsOnly : Bool}
    (hrun : s.sendOneNewSegment fullSegmentsOnly congestionWindow = .ok s') : s'.Placed := by
  obtain rfl | ⟨bytes, s₁, -, hsegment, rfl⟩ := sendOneNewSegment_ok hrun
  · exact h
  · have hheld := h.toHeld.at s.state.sndMax
    have hsent := (hheld.sendSegment hsegment).rememberHighest
    have hcleared : s₁.rememberHighest.state.afterRto = false := by
      have hafter := hheld.afterRto_cleared rfl hsegment
      rw [TCPReno.rememberHighest]
      split
      · exact hafter
      · exact hafter
    rw [if_neg (by rw [hcleared]; decide)]
    exact hsent

theorem Placed.retransmitOneSegment {calledAtRto : Bool}
    (hrun : s.retransmitOneSegment calledAtRto = .ok s') : s'.Placed := by
  obtain ⟨hfin, rfl⟩ | ⟨bytes, s₁, hsegment, rfl⟩ := retransmitOneSegment_ok hrun
  · have hend : s.InReach (s.sendQueue.bufferEndSeq + 1) := .inr ⟨hfin.2.1, rfl⟩
    exact ⟨⟨fun hsack => (h.together hsack).of_same rfl rfl, h.buffered, h.fin, h.sndUna, hend⟩, hend⟩
  · obtain ⟨forward, sentBytes, q, hsegment⟩ := sendSegment_run hsegment
    have hplaced := hsegment.placed (h.toHeld.at s.state.sndUna)
    have hresult := hsegment.result
    have hrxt (t : TCPReno) : Own t t.updateHighRxt := by
      refine ⟨alike_updateHighRxt t, ?_⟩
      rw [updateHighRxt]
      split
      · rfl
      · rfl
    apply (hrxt _).placed
    split
    · -- `snd_nxt` is set back
      apply hplaced.placed.toHeld.setSndNxt
      exact h.sndNxt.mono (by rw [hresult]; rfl) (by rw [hresult]; rfl) hplaced.reach
    · exact hplaced.placed

theorem Placed.recoverySegment {conn : TCPConnection}
    (hnext : s.toTCPConnection.nextSeg = .ok (conn, some seqNum))
    (hrun : (s.setConnection conn).sendSegmentDuringLossRecoveryPhase seqNum = .ok s') : s'.Placed := by
  rw [TCPConnection.nextSeg_fst hnext] at hrun
  obtain ⟨s₁, s₂, hsegment, hs₂, rfl⟩ := sendSegmentDuringLossRecoveryPhase_ok hrun
  have hheld := ((own_setHighRxt s).placed h).toHeld.at seqNum
  obtain ⟨forward, sentBytes, q, hsegment⟩ := sendSegment_run hsegment
  have hplaced := hsegment.placed hheld
  obtain ⟨hfrom, hto, hwithin⟩ := hsegment.within hheld.buffered
  have hle := (hsegment.skips hheld).le
  have hresult := hsegment.result
  have hsent : s₁.InReach (seqNum + s₁.state.sentBytes) := by
    have hbytes : s₁.state.sentBytes = sentBytes := by rw [hresult]; rfl
    have hsend : s₁.sendQueue = s.sendQueue := by rw [hresult]; rfl
    have hend := hplaced.end_le
    left
    rw [hbytes, offset, hsend, offset_add]
    change (s.offset seqNum + sentBytes.toNat) % 2 ^ 32 ≤ _
    change s.offset seqNum ≤ s.offset (seqNum + forward) at hle
    change s.offset (seqNum + forward + sentBytes) = s.offset (seqNum + forward) + _ at hto
    change s.offset (seqNum + forward + sentBytes) ≤ _ at hend
    omega
  have hrxt : s₂.Placed ∧ s₂.InReach (seqNum + s₁.state.sentBytes) := by
    rcases hs₂ with rfl | rfl
    · exact ⟨hplaced.placed, hsent⟩
    · exact ⟨(own_setHighRxt s₁).placed hplaced.placed, hsent.mono rfl rfl (Nat.le_refl _)⟩
  split
  · exact hrxt.1.setSndMax hrxt.2
  · exact hrxt.1

theorem Placed.rexmitTimer : s.forgetSacks.startSlowStart.Placed := by
  have hstart (t : TCPReno) (ht : t.Placed) : t.startSlowStart.Placed :=
    ⟨⟨fun hsack => (ht.together hsack).of_same rfl rfl, ht.buffered, ht.fin, ht.sndUna, ht.sndMax⟩, ht.sndNxt⟩
  apply hstart
  have hreset : s.state.sackEnabled = true → (s.setRexmitQueue s.rexmitQueue.resetSackedBit.resetRexmittedBit).Placed := by
    intro hsack
    have htogether := h.together hsack
    have hreach : s.reach ≤ (s.setRexmitQueue s.rexmitQueue.resetSackedBit.resetRexmittedBit).reach := by
      change (if _ then _ else _) ≤ (if s.state.sackEnabled then _ else _)
      rw [if_pos hsack, if_pos hsack]
      exact Nat.le_of_eq htogether.queue.resetBits.2.2.symm
    exact ⟨⟨fun _ => htogether.resetBits, h.buffered, h.fin, h.sndUna, h.sndMax.mono rfl rfl hreach⟩,
      h.sndNxt.mono rfl rfl hreach⟩
  rw [forgetSacks]
  split
  · next hsack =>
    split
    · refine Own.placed (s := s.setRexmitQueue _) ?_ (hreset hsack)
      exact ⟨⟨rfl, rfl, rfl, rfl, rfl, rfl, rfl, rfl, rfl, rfl, rfl⟩, rfl⟩
    · exact hreset hsack
  · exact h

/-- The queue is marked, and nothing else that the sending of data goes by changes. -/
theorem Placed.setRexmitQueue {q : TCPSACKRexmitQueue} (htogether : (s.setRexmitQueue q).Together)
    (hlength : q.octets.length = s.rexmitQueue.octets.length) : (s.setRexmitQueue q).Placed := by
  have hreach : s.reach ≤ (s.setRexmitQueue q).reach := by
    change (if s.state.sackEnabled then s.rexmitQueue.octets.length else _) ≤
      (if s.state.sackEnabled then q.octets.length else _)
    rw [hlength]
    exact Nat.le_refl _
  exact ⟨⟨fun _ => htogether, h.buffered, h.fin, h.sndUna, h.sndMax.mono rfl rfl hreach⟩,
    h.sndNxt.mono rfl rfl hreach⟩

theorem Placed.sackBlock {tmp : Sack} (hsack : s.state.sackEnabled = true)
    (hrun : sackBlock ackNo s tmp = .ok s') : s'.Placed := by
  have htogether := (h.together hsack).sackBlock hrun
  obtain ⟨-, -, hmarked⟩ := onlyMarked_sackBlock (h.together hsack).queue hrun
  rw [TCPReno.sackBlock] at hrun
  split at hrun
  · obtain ⟨q, -, hrun⟩ := bind_ok.mp hrun
    cases hrun
    exact h.setRexmitQueue htogether hmarked.length
  · cases hrun
    exact h

theorem Placed.sackBlocks {sacks : List Sack} (hsack : s.state.sackEnabled = true)
    (hrun : sacks.foldlM (TCPReno.sackBlock ackNo) s = .ok s') : s'.Placed := by
  have hstep (s : TCPReno) (tmp : Sack) (h : s.Placed ∧ s.state.sackEnabled = true) :
      Ensures (TCPReno.sackBlock ackNo s tmp) fun s₁ => s₁.Placed ∧ s₁.state.sackEnabled = true := by
    intro s₁ hblock
    obtain ⟨hstate, -, -⟩ := onlyMarked_sackBlock (h.1.together h.2).queue hblock
    exact ⟨h.1.sackBlock h.2 hblock, by rw [hstate]; exact h.2⟩
  exact (Ensures.foldlM_invariant hstep ⟨h, hsack⟩ s' hrun).1

theorem Placed.processSACKOption (hrun : s.processSACKOption seg = .ok s') : s'.Placed := by
  obtain rfl | ⟨hsack, s₁, hblocks, rfl⟩ := processSACKOption_ok hrun
  · exact h
  · refine Own.placed (s := s₁) ?_ (h.sackBlocks hsack hblocks)
    exact ⟨⟨rfl, rfl, rfl, rfl, rfl, rfl, rfl, rfl, rfl, rfl, rfl⟩, rfl⟩

end

/-- What is acknowledged is taken from the queues, and positions are counted from the acknowledgement. -/
structure Discarded (s s' : TCPReno) (seqNum : SeqNo) : Prop where
  sendQueue : s'.sendQueue = { s.sendQueue with bufferStartSeq := seqNum }
  together : s'.state.sackEnabled = true → s'.Together
  le : s.offset seqNum ≤ s.reach
  reach : s'.reach = s.reach - s.offset seqNum

theorem discarded (htogether : s.state.sackEnabled = true → s.Together) (hbuffered : s.buffered < 2 ^ 31)
    (hrun : s.discardAcked seqNum = .ok s') : Discarded s s' seqNum := by
  have hentry := hrun
  rw [TCPReno.discardAcked] at hentry
  obtain ⟨hstart, hend⟩ := (ensure_bind_ok.mp hentry).1
  have hle : s.offset seqNum ≤ s.buffered := by rwa [seqLE_offset s.sendQueue.bufferStartSeq hstart hbuffered] at hend
  have htogether' (hsack : s.state.sackEnabled = true) := (htogether hsack).discardAcked hsack hrun
  obtain ⟨q, rfl, hqueue, -⟩ := discardAcked_ok hrun
  have hrest : (s.sendQueue.bufferEndSeq - seqNum).toNat = s.buffered - s.offset seqNum := by
    rw [toNat_sub_offset s.sendQueue.bufferStartSeq]
    exact if_pos hle
  have hreached : s.offset seqNum ≤ s.reach ∧
      (if s.state.sackEnabled then q.octets.length else (s.sendQueue.bufferEndSeq - seqNum).toNat) =
        s.reach - s.offset seqNum := by
    rw [reach]
    cases hsack : s.state.sackEnabled with
    | false =>
      exact ⟨hle, hrest⟩
    | true =>
      obtain ⟨-, -, hdiscarded, hoctets⟩ := (htogether hsack).queue.discardUpTo (hqueue hsack)
      rw [(htogether hsack).position] at hdiscarded hoctets
      simp only [if_true]
      refine ⟨hdiscarded, ?_⟩
      rw [hoctets, length_drop]
  exact ⟨rfl, htogether', hreached.1, hreached.2⟩

/-- What lies at the acknowledgement or behind it stays where it was. -/
theorem Discarded.inReach (hdiscarded : Discarded s s' seqNum) (hfin : s'.state.sendFin = s.state.sendFin) {x : SeqNo}
    (hx : s.InReach x) (hle : s.offset x ≤ s.reach → s.offset seqNum ≤ s.offset x) : s'.InReach x := by
  rcases hx with hx | hx
  · left
    have hoffset : s'.offset x = s.offset x - s.offset seqNum := by
      rw [offset, hdiscarded.sendQueue]
      rw [toNat_sub_offset s.sendQueue.bufferStartSeq]
      exact if_pos (hle hx)
    rw [hoffset, hdiscarded.reach]
    omega
  · right
    rw [hfin, hdiscarded.sendQueue]
    exact hx

theorem Discarded.inReach_self (hdiscarded : Discarded s s' seqNum) : s'.InReach seqNum := by
  left
  have hoffset : s'.offset seqNum = 0 := by
    rw [offset, hdiscarded.sendQueue]
    rw [BitVec.sub_self]
    rfl
  rw [hoffset]
  exact Nat.zero_le _

/-- The acknowledgement moves `snd_una`, and `snd_nxt` if it lies behind. -/
def advance (s : TCPReno) (seg : AckSegment) : TCPReno := { s with
  state := { s.state with
    sndUna := seg.ackNo
    sndNxt := if seqLess s.state.sndNxt seg.ackNo then seg.ackNo else s.state.sndNxt
    finAckRcvd := s.state.finAckRcvd || decide (s.AcksFin seg) } }

theorem acknowledge_ok (hrun : s.acknowledge seg = .ok s') :
    ∃ s₁, (s.advance seg).discardAcked (s.discardUpToSeq seg) = .ok s₁ ∧ s' = s₁.updateWndInfo seg := by
  rw [TCPReno.acknowledge] at hrun
  obtain ⟨s₁, hdiscard, hrun⟩ := bind_ok.mp hrun
  cases hrun
  exact ⟨s₁, hdiscard, rfl⟩

/-- Where an acknowledgement lies: where the queues will begin, or behind the FIN. -/
theorem Held.acked (h : s.Held) (hstart : s.offset (s.discardUpToSeq seg) < 2 ^ 31) :
    s.offset seg.ackNo < 2 ^ 31 ∧ s.offset (s.discardUpToSeq seg) ≤ s.offset seg.ackNo ∧
      (seg.ackNo = s.discardUpToSeq seg ∨ s.state.sendFin = true ∧ seg.ackNo = s.sendQueue.bufferEndSeq + 1 ∧
        s.discardUpToSeq seg = s.sendQueue.bufferEndSeq) := by
  rw [discardUpToSeq] at hstart ⊢
  split
  · next hfin =>
    obtain ⟨hend, hroom⟩ := h.fin hfin.1
    have hackNo : seg.ackNo = s.sendQueue.bufferEndSeq + 1 := by rw [hfin.2, hend]
    have hoffset : s.offset seg.ackNo = s.buffered + 1 := by
      rw [hackNo, offset, offset_add]
      exact Nat.mod_eq_of_lt (Nat.lt_trans hroom (by decide))
    have hlast : seg.ackNo - 1 = s.sendQueue.bufferEndSeq := by
      grind
    rw [hlast, hoffset]
    exact ⟨hroom, Nat.le_succ _, .inr ⟨hfin.1, hackNo, rfl⟩⟩
  · next hfin =>
    rw [if_neg hfin] at hstart
    exact ⟨hstart, Nat.le_refl _, .inl rfl⟩

theorem Placed.acknowledge (h : s.Placed) (hsent : seqLE seg.ackNo s.state.sndMax)
    (hrun : s.acknowledge seg = .ok s') : s'.Placed := by
  obtain ⟨s₁, hdiscard, rfl⟩ := acknowledge_ok hrun
  apply (own_updateWndInfo s₁ seg).placed
  have hbuffered := h.buffered
  have hreach := h.reach_le
  have hentry := hdiscard
  rw [TCPReno.discardAcked] at hentry
  obtain ⟨hstart, -⟩ := (ensure_bind_ok.mp hentry).1
  have hdiscarded : Discarded (s.advance seg) s₁ (s.discardUpToSeq seg) :=
    discarded (fun hsack => (h.together hsack).of_same rfl rfl) h.buffered hdiscard
  have hstate : s₁.state = (s.advance seg).state := by
    obtain ⟨q, rfl, -⟩ := discardAcked_ok hdiscard
    rfl
  -- the acknowledgement, and where it lies
  have hrest : s₁.buffered = s.buffered - s.offset (s.discardUpToSeq seg) := by
    have hwithin : s.offset (s.discardUpToSeq seg) ≤ s.reach := hdiscarded.le
    rw [TCPReno.buffered, offset, hdiscarded.sendQueue]
    rw [toNat_sub_offset s.sendQueue.bufferStartSeq]
    exact if_pos (Nat.le_trans hwithin hreach)
  obtain ⟨hnear, hle, hplace⟩ := h.toHeld.acked hstart
  have hself := hdiscarded.inReach_self
  have huna : seg.ackNo = s.discardUpToSeq seg ∨
      s.state.sendFin = true ∧ seg.ackNo = s.sendQueue.bufferEndSeq + 1 ∧ s₁.buffered = 0 := by
    refine hplace.imp_right ?_
    rintro ⟨hfin, hackNo, hlast⟩
    refine ⟨hfin, hackNo, ?_⟩
    rw [hrest, hlast]
    exact Nat.sub_self _
  have hreached : s₁.InReach seg.ackNo := by
    rcases hplace with hsame | ⟨hfin, hackNo, -⟩
    · rw [hsame]
      exact hself
    · right
      rw [hstate, hdiscarded.sendQueue]
      exact ⟨hfin, hackNo⟩
  have hin {x : SeqNo} (hx : s.InReach x) (hbehind : s.offset x < 2 ^ 31 → s.offset seg.ackNo ≤ s.offset x) :
      s₁.InReach x := by
    apply hdiscarded.inReach (by rw [hstate]) (x := x) hx
    intro hwithin
    have hwithin : s.offset x ≤ s.reach := hwithin
    exact Nat.le_trans hle (hbehind (by omega))
  refine ⟨⟨hdiscarded.together, ?_, ?_, ?_, ?_⟩, ?_⟩
  · omega
  · rw [hstate, hdiscarded.sendQueue, hrest]
    intro hfin
    obtain ⟨hend, hroom⟩ := h.fin hfin
    exact ⟨hend, by omega⟩
  · rw [hstate, hdiscarded.sendQueue]
    exact huna
  · rw [hstate]
    apply hin h.sndMax
    intro hmax
    rwa [seqLE_offset s.sendQueue.bufferStartSeq hnear hmax] at hsent
  · rw [hstate]
    change s₁.InReach (if seqLess s.state.sndNxt seg.ackNo then seg.ackNo else s.state.sndNxt)
    split
    · exact hreached
    · next hnot =>
      apply hin h.sndNxt
      intro hnext
      rw [seqLess_offset s.sendQueue.bufferStartSeq hnext hnear] at hnot
      exact Nat.le_of_not_lt hnot

theorem Placed.enqueueAppData {byteLength : SeqNo} (h : s.Placed) (hopen : s.state.sendFin = false)
    (hroom : s.buffered + byteLength.toNat < 2 ^ 31) (hrun : s.enqueueAppData byteLength = .ok s') : s'.Placed := by
  have htogether (hsack : s.state.sackEnabled = true) := (h.together hsack).enqueueAppData hroom hrun
  obtain rfl := enqueueAppData_ok hrun
  have hbuffered := offset_grown hroom
  -- the FIN has not been sent
  have hin {x : SeqNo} (hx : s.InReach x) : InReach { s with
      sendQueue := { s.sendQueue with bufferEndSeq := s.sendQueue.bufferEndSeq + byteLength } } x := by
    rcases hx with hx | hx
    · left
      refine Nat.le_trans hx ?_
      change (if s.state.sackEnabled then _ else _) ≤ (if s.state.sackEnabled then s.rexmitQueue.octets.length else
        s.offset (s.sendQueue.bufferEndSeq + byteLength))
      rw [hbuffered]
      split
      · exact Nat.le_refl _
      · exact Nat.le_add_right _ _
    · exact absurd (hopen.symm.trans hx.1) (by decide)
  refine ⟨⟨htogether, ?_, ?_, .inl ?_, hin h.sndMax⟩, hin h.sndNxt⟩
  · change s.offset (s.sendQueue.bufferEndSeq + byteLength) < 2 ^ 31
    rw [hbuffered]
    exact hroom
  · intro hfin
    exact absurd (hopen.symm.trans hfin) (by decide)
  · exact h.sndUna.resolve_right fun hfin => absurd (hopen.symm.trans hfin.1) (by decide)

theorem InReach.close (h : s.InReach seqNum) (hqueue : s'.sendQueue = s.sendQueue) (hreach : s'.reach = s.reach)
    (hfin : s'.state.sendFin = true) : s'.InReach seqNum := by
  rw [InReach, hreach, offset, hqueue]
  exact h.imp_right fun hend => ⟨hfin, hend.2⟩

theorem Placed.process_CLOSE (h : s.Placed) (hroom : s.buffered + 1 < 2 ^ 31) : s.process_CLOSE.Placed := by
  rw [TCPReno.process_CLOSE]
  split
  · next hend =>
    refine ⟨⟨fun hsack => (h.together hsack).of_same rfl rfl, h.buffered, fun _ => ⟨rfl, hroom⟩, ?_, ?_⟩, ?_⟩
    · exact h.sndUna.imp_right fun hfin => ⟨rfl, hfin.2⟩
    · exact .inr ⟨rfl, congrArg (· + 1) hend⟩
    · exact .inr ⟨rfl, congrArg (· + 1) hend⟩
  · refine ⟨⟨fun hsack => (h.together hsack).of_same rfl rfl, h.buffered, fun _ => ⟨rfl, hroom⟩, ?_, ?_⟩, ?_⟩
    · exact h.sndUna.imp_right fun hfin => ⟨rfl, hfin.2⟩
    · exact InReach.close (s := s) h.sndMax rfl rfl rfl
    · exact InReach.close (s := s) h.sndNxt rfl rfl rfl

/-- Every call keeps the sequence numbers where they can lie. -/
theorem Placed.call (h : s.Placed) (hcall : Call s s') : s'.Placed := by
  cases hcall with
  | own hown => exact hown.placed h
  | sendData hrun => exact h.sendData hrun
  | sendProbe hrun => exact h.sendProbe hrun
  | sendOneNewSegment hrun => exact h.sendOneNewSegment hrun
  | retransmitOneSegment hrun => exact h.retransmitOneSegment hrun
  | recoverySegment hnext hrun => exact h.recoverySegment hnext hrun
  | rexmitTimer => exact h.rexmitTimer
  | processSACKOption hrun => exact h.processSACKOption hrun
  | acknowledge _ hsent hrun => exact h.acknowledge hsent hrun
  | enqueueAppData hopen hroom hrun => exact h.enqueueAppData hopen hroom hrun
  | close hroom => exact h.process_CLOSE hroom

end Calls

/-- A connection that has just been established, with or without selective acknowledgements. -/
structure Opened (s : TCPReno) : Prop extends QueuesOpened s where
  sndUna : s.state.sndUna = s.sendQueue.bufferStartSeq
  sndNxt : s.state.sndNxt = s.sendQueue.bufferStartSeq
  sndMax : s.state.sndMax = s.sendQueue.bufferStartSeq
  sendFin : s.state.sendFin = false

/-- The states of all senders, whatever their algorithm calls. -/
def Driven (s : TCPReno) : Prop := ∃ opened : TCPReno, opened.Opened ∧ Calls opened s

section Driven

variable {s : TCPReno}

theorem Initial.opened (h : s.Initial) : s.Opened := by
  have hstart := h.bufferStartSeq.symm
  exact ⟨h.queuesOpened, hstart, h.sndNxt.trans hstart, h.sndMax.trans hstart, h.sendFin⟩

theorem Reached.driven (h : Reached Fills s) : s.Driven := by
  obtain ⟨opened, hopened, hcalls⟩ := h.calls
  exact ⟨opened, hopened.opened, hcalls⟩

theorem Opened.placed (h : s.Opened) : s.Placed := by
  have hstart : s.InReach s.sendQueue.bufferStartSeq := by
    left
    rw [offset, BitVec.sub_self]
    exact Nat.zero_le _
  refine ⟨⟨fun _ => h.together, h.buffered, ?_, ?_, ?_⟩, ?_⟩
  · intro hfin
    exact absurd (h.sendFin.symm.trans hfin) (by decide)
  · exact .inl h.sndUna
  · rw [h.sndMax]
    exact hstart
  · rw [h.sndNxt]
    exact hstart

theorem Driven.placed (h : s.Driven) : s.Placed := by
  obtain ⟨opened, hopened, hcalls⟩ := h
  induction hcalls with
  | refl => exact hopened.placed
  | tail _ hcall ih => exact ih.call hcall

end Driven

end TCPReno

end Inet.Tcp
