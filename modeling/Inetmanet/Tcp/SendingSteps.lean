import Inetmanet.Tcp.SenderQueue
import Inetmanet.Tcp.SendingCases
import Inetmanet.Lib.Ensures

/-!
# What the calls of a sender keep

Until a FIN has been sent, each of the functions that an algorithm calls keeps the
retransmission queue as `setPipe` needs it.
-/
namespace Inet.Tcp

open SerialNumber RunLength TCPSACKRexmitQueue BitVec

variable {q : TCPSACKRexmitQueue} {conn conn' : TCPConnection}

variable {forward : SeqNo}

theorem TCPSACKRexmitQueue.forwarded_endNo
    (h : q.checkRexmitQueueForSackedOrRexmittedSegments q.endNo = .ok forward) : forward = 0 := by
  rw [checkRexmitQueueForSackedOrRexmittedSegments] at h
  obtain ⟨-, h⟩ := ensure_bind_ok.mp h
  rw [if_pos (.inr rfl)] at h
  cases h
  rfl

/-- Nothing is forwarded over an octet that has neither been acknowledged nor been sent again. -/
theorem TCPSACKRexmitQueue.Represents.unforwarded {base : SeqNo} {s : Scoreboard} {runs : List (Nat × Flags)}
    (h : Represents base s runs q) {x : Nat} (h₁ : s.first ≤ x) (h₂ : x < s.last)
    {f : Flags} (hf : s.flags[x - s.first]? = some f) (hsacked : f.sacked = false) (hrexmitted : f.rexmitted = false)
    (hrun : q.checkRexmitQueueForSackedOrRexmittedSegments (nth base x) = .ok forward) :
    forward = 0 := by
  obtain ⟨r, l, n, f', tail, hafter, -, hregions, hpositive, hflags⟩ := h.around h₁ h₂
  have hsame : f' = f := by
    have hn := (Positive.cons_iff.mp hpositive).1
    obtain ⟨m, hm⟩ := Nat.exists_eq_succ_of_ne_zero (Nat.pos_iff_ne_zero.mp hn)
    simp only at hm
    have hhead : (s.flags.drop (x - s.first))[0]? = some f' := by
      rw [hflags, hm]
      rfl
    rw [List.getElem?_drop, Nat.add_zero, hf] at hhead
    exact (Option.some.inj hhead).symm
  simp only [regionsOf, List.cons.injEq, RexmitRegion.mk.injEq] at hregions
  have hnot : ¬ ((r.sacked || r.rexmitted) = true) := by
    rw [hregions.1.2.2.1, hregions.1.2.2.2, hsame, hsacked, hrexmitted]
    decide
  rw [checkRexmitQueueForSackedOrRexmittedSegments] at hrun
  obtain ⟨-, hrun⟩ := ensure_bind_ok.mp hrun
  split at hrun
  · cases hrun
    rfl
  · rw [hafter, forwardOver, if_neg hnot] at hrun
    cases hrun
    rfl

/-- All that changes of the connection is `highRxt`. -/
theorem TCPConnection.nextSeg_fst {o : Option SeqNo}
    (hrun : conn.nextSeg = .ok (conn', o)) : conn' = conn.setHighRxt := by
  rw [nextSeg] at hrun
  obtain ⟨-, hrun⟩ := ensure_bind_ok.mp hrun
  obtain ⟨found, -, hrun⟩ := bind_ok.mp hrun
  split at hrun
  · cases hrun
    rfl
  · split at hrun
    · cases hrun
      rfl
    · obtain ⟨last, -, hrun⟩ := bind_ok.mp hrun
      cases hrun
      rfl

theorem TCPConnection.setPipe_alike (hrun : conn.setPipe = .ok conn') :
    ∃ pipe, conn' = { conn.setHighRxt with state := { conn.setHighRxt.state with pipe := pipe } } := by
  rw [setPipe] at hrun
  obtain ⟨-, hrun⟩ := ensure_bind_ok.mp hrun
  obtain ⟨pipe, -, hrun⟩ := bind_ok.mp hrun
  cases hrun
  exact ⟨pipe, rfl⟩

/-- Nothing is forwarded over the octet that is chosen. -/
theorem TCPConnection.Chosen.unforwarded {new : Prop} {n : Nat} (hn : conn.Chosen new n)
    (h : conn.Recovering) (hend : n = conn.maxAt → conn.state.sndMax = conn.rexmitQueue.endNo)
    (hforward : conn.rexmitQueue.checkRexmitQueueForSackedOrRexmittedSegments (conn.seqAt n) = .ok forward) :
    forward = 0 := by
  obtain ⟨rfl, -⟩ | ⟨-, hle, f, hf, hsacked⟩ := hn.cases
  · rw [← Recovering.sndMax_eq, hend rfl] at hforward
    exact forwarded_endNo hforward
  · obtain ⟨runs, hrep⟩ := h.represents
    have hlt : n < conn.flags.length := (List.getElem?_eq_some_iff.mp hf).1
    exact hrep.unforwarded (Nat.zero_le n) (by simpa only [Scoreboard.last, Nat.zero_add] using hlt) hf hsacked
      (h.highestRexmitted.1.above n f hle hf) hforward

namespace TCPReno

section Sending

variable {s s' s'' : TCPReno} {bytes seqNum : SeqNo}

/-- A region ends at `snd_nxt`, which is not beyond `snd_max` while `afterRto` is set. -/
structure NextKept (s : TCPReno) : Prop where
  edge : s.AtEdge s.state.sndNxt
  afterRto : s.state.afterRto = true → ¬ seqGE s.state.sndNxt s.state.sndMax

/-- A step that ends with the sending of a segment. -/
structure Sends (s s' : TCPReno) : Prop extends Steps s s' where
  next : s'.FinUnsent → s.Kept → s'.NextKept

theorem sends_sendSegment (hrun : s.sendSegment bytes = .ok s') : Sends s s' := by
  obtain ⟨hsteps, hsent⟩ := steps_sendSegment hrun
  refine ⟨hsteps, ?_⟩
  intro hunsent hkept
  have hsegment := hsent hunsent hkept
  exact ⟨hsegment.next, hsegment.afterRto⟩

theorem Steps.sends (h : Steps s s') (h' : Sends s' s'') : Sends s s'' :=
  ⟨h.trans h'.toSteps, fun hunsent hkept => h'.next hunsent (h.kept (h'.unsent hunsent) hkept)⟩

theorem Sends.alike (h : Sends s s') (halike : Alike s' s'') (hnext : s''.state.sndNxt = s'.state.sndNxt) :
    Sends s s'' := by
  refine ⟨h.toSteps.trans halike.steps, ?_⟩
  intro hunsent hkept
  obtain ⟨hedge, hafter⟩ := h.next (halike.steps.unsent hunsent) hkept
  constructor
  · rw [hnext]
    exact halike.atEdge hedge
  · rw [hnext, halike.afterRto, halike.sndMax]
    exact hafter

theorem Kept.setSndMax (h : s.Kept) (hedge : s.AtEdge seqNum)
    (hafter : s.state.afterRto = true → seqNum = s.rexmitQueue.endNo) : (s.setSndMax seqNum).Kept :=
  { h with sndMax := ⟨hedge.le, hedge.edge⟩, afterRto := hafter }

theorem AtEdge.lt (h : s.AtEdge seqNum) (hkept : s.Kept) : s.ahead seqNum < 2 ^ 31 :=
  Nat.lt_of_le_of_lt h.le hkept.length_lt

/-- `snd_max` follows `snd_nxt`. -/
theorem Sends.reach (h : Sends s s') (hseq : s'.FinUnsent → s.Kept → seqNum = s'.state.sndNxt) :
    Steps s (if seqGreater seqNum s'.state.sndMax then s'.setSndMax seqNum else s') := by
  split
  · next hgreater =>
    constructor
    · exact h.unsent
    · intro hunsent hkept
      have hkept' := h.kept hunsent hkept
      obtain ⟨hedge, hafter⟩ := h.next hunsent hkept
      rw [hseq hunsent hkept] at hgreater ⊢
      refine hkept'.setSndMax hedge fun hrto => absurd ?_ (hafter hrto)
      rw [s'.seqGE_ahead (hedge.lt hkept') (hkept'.sndMax.lt hkept')]
      rw [s'.seqGreater_ahead (hedge.lt hkept') (hkept'.sndMax.lt hkept')] at hgreater
      omega
  · exact h.toSteps

theorem Sends.rememberHighest (h : Sends s s') : Steps s s'.rememberHighest := h.reach fun _ _ => rfl

variable {bytesToSend effectiveMaxBytesSend left : ULong} {congestionWindow ackNo : SeqNo}

theorem sends_sendWhole {fuel : Nat}
    (hrun : sendWhole effectiveMaxBytesSend fuel bytesToSend s = .ok (left, s')) :
    (s' = s ∧ bytesToSend < effectiveMaxBytesSend) ∨ Sends s s' := by
  induction fuel generalizing bytesToSend s with
  | zero => cases hrun
  | succ fuel ih =>
    rw [sendWhole] at hrun
    split at hrun
    · obtain ⟨s₁, hsegment, hrun⟩ := bind_ok.mp hrun
      have hsends := sends_sendSegment hsegment
      right
      cases ih hrun with
      | inl hsame =>
        rw [hsame.1]
        exact hsends
      | inr hmore => exact hsends.toSteps.sends hmore
    · next hless =>
      cases hrun
      exact .inl ⟨rfl, BitVec.not_le.mp hless⟩

/-- At least one segment is sent, as a whole one is not larger than `snd_mss`. -/
theorem sends_sendBytes (hrun : s.sendBytes bytesToSend effectiveMaxBytesSend = .ok (left, s'))
    (hmss : s.Kept → effectiveMaxBytesSend ≤ s.state.sndMss.setWidth 64) : Sends s s' := by
  obtain hsegment | ⟨hmore, hwhole⟩ := sendBytes_ok hrun
  · exact sends_sendSegment hsegment
  · obtain ⟨rfl, hless⟩ | hsends := sends_sendWhole hwhole
    · refine ⟨Steps.refl s', ?_⟩
      intro _ hkept
      exact absurd (BitVec.le_trans (BitVec.le_of_lt hless) (hmss hkept)) hmore
    · exact hsends

theorem Sends.last (h : Sends s s') (hrun : s'.sendLast bytesToSend = .ok s'') : Sends s s'' := by
  obtain rfl | hsegment := sendLast_ok hrun
  · exact h
  · exact h.toSteps.sends (sends_sendSegment hsegment)

theorem steps_sendData {fullSegmentsOnly : Bool}
    (hrun : s.sendData fullSegmentsOnly congestionWindow = .ok s') : Steps s s' := by
  obtain ⟨s₀, hs₀, hsent⟩ := sendData_ok hrun
  have hnext : Steps s s₀ := by
    rw [hs₀]
    split
    · exact Steps.refl s
    · exact steps_setSndNxt s _
  obtain rfl | ⟨bytesToSend, left, s₁, s₂, hbytes, hlast, rfl⟩ := hsent
  · exact hnext
  · have hsends := sends_sendBytes hbytes (by
      intro hkept
      rw [le_def, toNat_setWidth_of_le (by decide), toNat_setWidth_of_le (by decide)]
      split
      · next hts =>
        rw [toNat_sub_of_le (BitVec.le_of_lt (hkept.room hts))]
        omega
      · exact Nat.le_refl _)
    exact hnext.trans (hsends.last hlast).rememberHighest

/-- Where the segment starts if nothing is forwarded. -/
theorem SegmentSent.unforwarded (h : SegmentSent s s') (hforward : s.state.afterRto = true → ∀ forward,
      s.rexmitQueue.checkRexmitQueueForSackedOrRexmittedSegments s.state.sndNxt = .ok forward → forward = 0) :
    s'.state.sndNxt = s.state.sndNxt + s'.state.sentBytes ∧
      s.ahead s.state.sndNxt + s'.state.sentBytes.toNat = s'.ahead s'.state.sndNxt := by
  obtain ⟨forward, hnext, hahead, hasked, hzero⟩ := h.from_
  have hnone : forward = 0 := by
    cases hrto : s.state.afterRto with
    | false => exact hzero hrto
    | true => exact hforward hrto forward (hasked hrto)
  rw [hnone, show s.state.sndNxt + 0 = s.state.sndNxt from BitVec.add_zero _] at hnext hahead
  exact ⟨hnext, hahead⟩

theorem steps_sendProbe (hrun : s.sendProbe = .ok s') : Steps s s' := by
  have hstart := steps_setSndNxt s s.state.sndMax
  obtain rfl | ⟨s₁, hsegment, rfl⟩ := sendProbe_ok hrun
  · exact hstart
  · obtain ⟨hsteps, hsent⟩ := steps_sendSegment hsegment
    constructor
    · intro hunsent
      exact hstart.unsent (hsteps.unsent hunsent)
    · intro hunsent hkept
      have hkept₀ := hstart.kept (hsteps.unsent hunsent) hkept
      have hsegment := hsent hunsent hkept₀
      have hkept₁ := hsegment.kept
      -- the queue ends at `snd_max` after a timeout
      obtain ⟨-, hahead⟩ := hsegment.unforwarded fun hrto forward hforward => by
        have hend := hkept₀.afterRto hrto
        rw [show s.state.sndMax = s.rexmitQueue.endNo from hend] at hforward
        exact forwarded_endNo hforward
      refine hkept₁.setSndMax hsegment.next fun hrto => absurd ?_ (hsegment.afterRto hrto)
      rw [s₁.seqGE_ahead (hsegment.next.lt hkept₁) (hkept₁.sndMax.lt hkept₁), ← hahead, hsegment.sndMax]
      rw [ahead, ahead, hsegment.sndUna]
      exact Nat.le_add_right _ _

theorem steps_sendOneNewSegment {fullSegmentsOnly : Bool}
    (hrun : s.sendOneNewSegment fullSegmentsOnly congestionWindow = .ok s') : Steps s s' := by
  obtain rfl | ⟨bytes, s₁, -, hsegment, rfl⟩ := sendOneNewSegment_ok hrun
  · exact Steps.refl _
  · have hsteps := ((steps_setSndNxt s _).sends (sends_sendSegment hsegment)).rememberHighest
    split
    · exact hsteps.trans (steps_setSndNxt _ _)
    · exact hsteps

theorem alike_updateHighRxt (s : TCPReno) : Alike s s.updateHighRxt := by
  rw [updateHighRxt]
  split
  · exact ⟨rfl, rfl, rfl, rfl, rfl, rfl, rfl, rfl, rfl, rfl, rfl⟩
  · exact ⟨rfl, rfl, rfl, rfl, rfl, rfl, rfl, rfl, rfl, rfl, rfl⟩

theorem steps_retransmitOneSegment {calledAtRto : Bool} (hrun : s.retransmitOneSegment calledAtRto = .ok s') :
    Steps s s' := by
  obtain ⟨-, rfl⟩ | ⟨bytes, s₁, hsegment, rfl⟩ := retransmitOneSegment_ok hrun
  · -- the FIN has been sent
    have hfin : ¬ ((s.setSndNxt s.state.sndUna).sendFinAt s.sendQueue.bufferEndSeq).FinUnsent := by
      intro hunsent
      cases hunsent _ List.mem_cons_self
    exact ⟨fun hunsent => absurd hunsent hfin, fun hunsent => absurd hunsent hfin⟩
  · have hsteps := (steps_setSndNxt s _).trans (sends_sendSegment hsegment).toSteps
    apply Steps.trans _ (alike_updateHighRxt _).steps
    split
    · exact hsteps.trans (steps_setSndNxt _ _)
    · exact hsteps

theorem alike_setHighRxt (s : TCPReno) : Alike s (s.setConnection s.toTCPConnection.setHighRxt) :=
  ⟨rfl, rfl, rfl, rfl, rfl, rfl, rfl, rfl, rfl, rfl, rfl⟩

theorem steps_sendSegmentDuringLossRecoveryPhase
    (hnext : s.toTCPConnection.nextSeg = .ok (conn, some seqNum))
    (hrun : (s.setConnection conn).sendSegmentDuringLossRecoveryPhase seqNum = .ok s') : Steps s s' := by
  rw [TCPConnection.nextSeg_fst hnext] at hrun
  obtain ⟨s₁, s₂, hsegment, hs₂, rfl⟩ := sendSegmentDuringLossRecoveryPhase_ok hrun
  have hstart := (alike_setHighRxt s).steps.trans (steps_setSndNxt _ seqNum)
  have hsends := hstart.sends (sends_sendSegment hsegment)
  have halike : Alike s₁ s₂ ∧ s₂.state.sndNxt = s₁.state.sndNxt := by
    rcases hs₂ with rfl | rfl
    · exact ⟨⟨rfl, rfl, rfl, rfl, rfl, rfl, rfl, rfl, rfl, rfl, rfl⟩, rfl⟩
    · exact ⟨alike_setHighRxt s₁, rfl⟩
  apply (hsends.alike halike.1 halike.2).reach
  intro hunsent hkept
  have hunsent₁ := halike.1.steps.unsent hunsent
  have hkept₀ := hstart.kept ((sends_sendSegment hsegment).unsent hunsent₁) hkept
  obtain ⟨-, n, hn, rfl⟩ := hkept.recovering.nextSeg_iff.mp hnext
  rw [halike.2, (((steps_sendSegment hsegment).2 hunsent₁ hkept₀).unforwarded fun hrto forward hforward =>
    hn.unforwarded hkept.recovering (fun _ => hkept.afterRto hrto) hforward).1]
  rfl

theorem alike_setSndCwnd (s : TCPReno) (sndCwnd : SeqNo) : Alike s (s.setSndCwnd sndCwnd) :=
  ⟨rfl, rfl, rfl, rfl, rfl, rfl, rfl, rfl, rfl, rfl, rfl⟩

theorem alike_growWindow (hrun : s.growWindow = .ok s') : Alike s s' := by
  rw [growWindow] at hrun
  split at hrun
  · cases hrun
    exact alike_setSndCwnd s _
  · split at hrun
    · cases hrun
      exact alike_setSndCwnd s _
    · split at hrun
      · cases hrun
      · cases hrun
        exact alike_setSndCwnd s _

theorem alike_enterRecovery (s : TCPReno) : Alike s s.enterRecovery := by
  rw [enterRecovery]
  split
  · exact ⟨rfl, rfl, rfl, rfl, rfl, rfl, rfl, rfl, rfl, rfl, rfl⟩
  · exact ⟨rfl, rfl, rfl, rfl, rfl, rfl, rfl, rfl, rfl, rfl, rfl⟩

theorem alike_recalculateSlowStartThreshold (s : TCPReno) : Alike s s.recalculateSlowStartThreshold :=
  ⟨rfl, rfl, rfl, rfl, rfl, rfl, rfl, rfl, rfl, rfl, rfl⟩

/-- Octets are marked, and no region is joined with another. -/
theorem Kept.marked (h : s.Kept) (hq : q.Short) (hbegin : q.beginNo = s.rexmitQueue.beginNo)
    (hlength : q.octets.length = s.rexmitQueue.octets.length)
    (hends : ∀ x, Ends s.rexmitQueue.rexmitQueue x → Ends q.rexmitQueue x) :
    (s.setRexmitQueue q).Kept ∧ q.endNo = s.rexmitQueue.endNo := by
  have hend : q.endNo = s.rexmitQueue.endNo := by
    apply offset_inj q.beginNo
    change q.position q.endNo = (s.rexmitQueue.endNo - q.beginNo).toNat
    rw [hq.position_endNo, hlength, hbegin]
    exact h.queue.position_endNo.symm
  refine ⟨?_, hend⟩
  constructor
  · exact h.sackEnabled
  · exact hq.checkQueue
  · exact hbegin.trans h.beginNo
  · exact h.bufferStartSeq
  · constructor
    · exact h.sndMax.le.trans_eq hlength.symm
    · exact h.sndMax.edge.imp_right (hends _)
  · exact hlength.trans_le h.buffered
  · exact h.short
  · exact h.fin
  · intro hrto
    exact (h.afterRto hrto).trans hend.symm
  · exact h.room

theorem Kept.setSackedBit (h : s.Kept) {fromSeqNum toSeqNum : SeqNo}
    (hrun : s.rexmitQueue.setSackedBit fromSeqNum toSeqNum = .ok q) : (s.setRexmitQueue q).Kept := by
  obtain ⟨q', hok, hq, hbegin, -, hoctets⟩ := h.queue.setSackedBit (Sackable.of_ok hrun)
  rw [hrun] at hok
  cases hok
  have hlength : q.octets.length = s.rexmitQueue.octets.length := by rw [hoctets, length_onRange]
  exact (h.marked hq hbegin hlength fun x hx => ends_setSackedBit hrun hx).1

theorem steps_sackBlock {tmp : Sack} (hrun : sackBlock ackNo s tmp = .ok s') : Steps s s' := by
  rw [sackBlock] at hrun
  split at hrun
  · obtain ⟨q, hsacked, hrun⟩ := bind_ok.mp hrun
    cases hrun
    exact ⟨id, fun _ hkept => hkept.setSackedBit hsacked⟩
  · cases hrun
    exact Steps.refl _

theorem steps_sackBlocks {sacks : List Sack} (hrun : sacks.foldlM (sackBlock ackNo) s = .ok s') :
    Steps s s' := by
  have hstep (s₁ : TCPReno) (tmp : Sack) (h : Steps s s₁) : Ensures (sackBlock ackNo s₁ tmp) (Steps s) :=
    fun _ hblock => h.trans (steps_sackBlock hblock)
  exact Ensures.foldlM_invariant hstep (Steps.refl s) s' hrun

theorem steps_processSACKOption {seg : AckSegment} (hrun : s.processSACKOption seg = .ok s') : Steps s s' := by
  obtain rfl | ⟨-, s₁, hblocks, rfl⟩ := processSACKOption_ok hrun
  · exact Steps.refl _
  · exact (steps_sackBlocks hblocks).trans (Alike.steps ⟨rfl, rfl, rfl, rfl, rfl, rfl, rfl, rfl, rfl, rfl, rfl⟩)

theorem alike_updateWndInfo (s : TCPReno) (seg : AckSegment) : Alike s (s.updateWndInfo seg) := by
  rw [updateWndInfo]
  split
  · exact ⟨rfl, rfl, rfl, rfl, rfl, rfl, rfl, rfl, rfl, rfl, rfl⟩
  · exact ⟨rfl, rfl, rfl, rfl, rfl, rfl, rfl, rfl, rfl, rfl, rfl⟩

theorem alike_setDupacks (s : TCPReno) (dupacks : SeqNo) : Alike s (s.setDupacks dupacks) :=
  ⟨rfl, rfl, rfl, rfl, rfl, rfl, rfl, rfl, rfl, rfl, rfl⟩

/-- A new acknowledgement lies within what has been sent. -/
theorem ahead_acknowledged (hnew : ¬ seqGE s.state.sndUna ackNo)
    (hsent : seqLE ackNo s.state.sndMax) : 0 < s.ahead ackNo ∧ s.ahead ackNo ≤ s.ahead s.state.sndMax := by
  rw [seqGE, s.toNat_sub_ahead, s.ahead_sndUna] at hnew
  rw [seqLE, s.toNat_sub_ahead] at hsent
  split at hnew
  · omega
  · split at hsent
    · omega
    · omega

/-- What is acknowledged is taken from both queues. -/
theorem Kept.discardAcked (h : s.Kept) (hpos : 0 < s.ahead ackNo)
    (hle : s.ahead ackNo ≤ s.ahead s.state.sndMax) (hdiscard : s.rexmitQueue.discardUpTo ackNo = .ok q)
    (hunchanged : s'.state.sackEnabled = s.state.sackEnabled ∧ s'.state.sndMax = s.state.sndMax ∧
      s'.state.sendFin = s.state.sendFin ∧ s'.state.sndFinSeq = s.state.sndFinSeq ∧
      s'.state.afterRto = s.state.afterRto ∧ s'.state.tsEnabled = s.state.tsEnabled ∧ s'.state.sndMss = s.state.sndMss)
    (huna : s'.state.sndUna = ackNo) (hsend : s'.sendQueue = { s.sendQueue with bufferStartSeq := ackNo })
    (hqueue : s'.rexmitQueue = q) : s'.Kept := by
  obtain ⟨hsack, hmax, hfin, hfinSeq, hrto, hts, hmss⟩ := hunchanged
  obtain ⟨runs, hrep⟩ := h.represents
  have hin := h.sndMax.le
  have hbuffered := h.buffered
  have hshort := h.short
  obtain ⟨runs', q', hok, hrep'⟩ := hrep.discardUpTo (a := s.ahead ackNo)
    ⟨Nat.zero_le _, by simpa only [Scoreboard.last, Nat.zero_add] using hle.trans hin⟩
  rw [s.nth_ahead, hdiscard] at hok
  cases hok
  have hoctets : q.octets.length = s.rexmitQueue.octets.length - s.ahead ackNo := by
    rw [hrep'.octets]
    simp only [Scoreboard.apply, List.length_drop, Nat.sub_zero]
  have hend : q.endNo = s.rexmitQueue.endNo := by
    rw [hrep'.endNo, hrep.endNo]
    simp only [Scoreboard.apply, Scoreboard.last, List.length_drop, Nat.sub_zero, Nat.zero_add]
    rw [Nat.add_sub_cancel' (hle.trans hin)]
  -- positions are counted from the acknowledgement now
  have hahead {x : SeqNo} (hx : s.ahead ackNo ≤ s.ahead x) : s'.ahead x = s.ahead x - s.ahead ackNo := by
    rw [TCPReno.ahead, huna, s.toNat_sub_ahead, if_pos hx]
  constructor
  · exact hsack.trans h.sackEnabled
  · rw [hqueue]
    exact hrep'.checkQueue
  · rw [hqueue, huna, hrep'.beginNo]
    exact s.nth_ahead ackNo
  · rw [hsend, huna]
  · rw [hmax]
    constructor
    · rw [hahead hle, hqueue, hoctets]
      omega
    · rw [huna, hqueue]
      by_cases heq : s.state.sndMax = ackNo
      · exact .inl heq
      · right
        cases h.sndMax.edge with
        | inl hnone =>
          rw [hnone, s.ahead_sndUna] at hle
          omega
        | inr hends =>
          apply ends_discardUpTo hdiscard hends
          rw [s.seqLE_ahead (h.sndMax.lt h) (hle.trans_lt (h.sndMax.lt h))]
          intro hbehind
          exact heq (s.ahead_inj (Nat.le_antisymm hbehind hle))
  · rw [hqueue, hoctets, hsend, hahead (by simp only; omega)]
    simp only
    omega
  · rw [hsend, hahead (by simp only; omega)]
    exact Nat.lt_of_le_of_lt (Nat.sub_le _ _) hshort
  · rw [hfin, hfinSeq, hsend]
    exact h.fin
  · rw [hrto, hmax, hqueue, hend]
    exact h.afterRto
  · rw [hts, hmss]
    exact h.room

theorem discardAcked_ok (hrun : s.discardAcked seqNum = .ok s') : ∃ q,
    s' = { s with sendQueue := { s.sendQueue with bufferStartSeq := seqNum }, rexmitQueue := q } ∧
      (s.state.sackEnabled = true → s.rexmitQueue.discardUpTo seqNum = .ok q) ∧
      (s.state.sackEnabled = false → q = s.rexmitQueue) := by
  rw [TCPReno.discardAcked] at hrun
  obtain ⟨-, hrun⟩ := ensure_bind_ok.mp hrun
  split at hrun
  · next henabled =>
    obtain ⟨q, hqueue, hrun⟩ := bind_ok.mp hrun
    cases hrun
    exact ⟨q, rfl, fun _ => hqueue, fun hdisabled => absurd (henabled.symm.trans hdisabled) (by decide)⟩
  · next hdisabled =>
    cases hrun
    exact ⟨s.rexmitQueue, rfl, fun henabled => absurd henabled hdisabled, fun _ => rfl⟩

theorem steps_acknowledge {seg : AckSegment} (hrun : s.acknowledge seg = .ok s')
    (hnew : ¬ seqGE s.state.sndUna seg.ackNo) (hsent : seqLE seg.ackNo s.state.sndMax) : Steps s s' := by
  rw [acknowledge] at hrun
  obtain ⟨s₁, hdiscard, hrun⟩ := bind_ok.mp hrun
  cases hrun
  apply Steps.trans _ (alike_updateWndInfo s₁ seg).steps
  obtain ⟨q, rfl, hqueue, -⟩ := discardAcked_ok hdiscard
  refine ⟨id, ?_⟩
  intro _ hkept
  have hqueue : s.rexmitQueue.discardUpTo (s.discardUpToSeq seg) = .ok q := hqueue hkept.sackEnabled
  obtain ⟨hpos, hle⟩ := ahead_acknowledged hnew hsent
  have hnofin : ¬ s.AcksFin seg := by
    rintro ⟨hfin, hack⟩
    have hin := hkept.sndMax.le
    have hbuffered := hkept.buffered
    have hshort := hkept.short
    rw [hack, hkept.fin hfin, s.ahead_add] at hle
    change (s.ahead s.sendQueue.bufferEndSeq + 1) % 2 ^ 32 ≤ _ at hle
    omega
  rw [discardUpToSeq, if_neg hnofin] at hqueue
  apply hkept.discardAcked hpos hle hqueue
  · exact ⟨rfl, rfl, rfl, rfl, rfl, rfl, rfl⟩
  · rfl
  · rw [discardUpToSeq, if_neg hnofin]
  · rfl

end Sending

variable {s s' : TCPReno} {Meets : TCPReno → Event → Prop}

theorem Reached.run {events : List Event} (h : Reached Meets s) (hmeets : ∀ event ∈ events, ∀ s, Meets s event)
    (hrun : events.foldlM TCPReno.step s = .ok s') : Reached Meets s' := by
  induction events generalizing s with
  | nil =>
    cases hrun
    exact h
  | cons event events ih =>
    obtain ⟨s₁, hstep, hrun⟩ := bind_ok.mp hrun
    have hfirst := h.step (hmeets event List.mem_cons_self s) hstep
    exact ih hfirst (fun event hevent => hmeets event (List.mem_cons_of_mem _ hevent)) hrun

/-- Sixteen octets wait to be sent in segments of four. -/
def waiting : TCPReno where
  state := { sackEnabled := true, sndUna := 1000, sndNxt := 1000, sndMax := 1000, sndMss := 4, sndWnd := 100 }
  sendQueue := ⟨1000, 1016⟩
  rexmitQueue := .init 1000
  sndCwnd := 100
  optionsLen := fun _ => 0

theorem waiting_initial : waiting.Initial := by
  constructor <;> decide

/-- The second segment has arrived, and the first one is missing. -/
def duplicateSegment : AckSegment := { sequenceNo := 1, ackNo := 1000, window := 100, sacks := [⟨1004, 1008⟩] }

end TCPReno

end Inet.Tcp
