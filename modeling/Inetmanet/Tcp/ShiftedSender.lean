import Inetmanet.Tcp.ShiftedQueue

/-!
# Shifting the sequence space of a sender

The decisions of a sender do not depend on where the sequence space begins, up to the
places where it compares sequence numbers as numbers or takes one for a marker.
-/
namespace Inet.Tcp

open TCPSACKRexmitQueue

def TCPSendQueue.shift (c : SeqNo) (q : TCPSendQueue) : TCPSendQueue := ⟨q.bufferStartSeq + c, q.bufferEndSeq + c⟩

/-- All sequence numbers of the sender; those of the other side stay. -/
def SenderState.shift (c : SeqNo) (s : SenderState) : SenderState :=
  { s with
    sndUna := s.sndUna + c
    sndNxt := s.sndNxt + c
    sndMax := s.sndMax + c
    sndWl2 := s.sndWl2 + c
    iss := s.iss + c
    sndFinSeq := s.sndFinSeq + c
    highRxt := s.highRxt + c
    recoveryPoint := s.recoveryPoint + c }

def TCPConnection.shift (c : SeqNo) (conn : TCPConnection) : TCPConnection :=
  ⟨conn.state.shift c, conn.sendQueue.shift c, conn.rexmitQueue.shift c⟩

theorem TCPSendQueue.getBytesAvailable_shift (c : SeqNo) (q : TCPSendQueue) (fromSeq : SeqNo) :
    (q.shift c).getBytesAvailable (fromSeq + c) = q.getBytesAvailable fromSeq := by
  simp only [getBytesAvailable, shift, seqLess_shift, add_sub_add]

namespace TCPConnection

variable (c : SeqNo) (conn : TCPConnection)

theorem isLost_shift (seqNum : SeqNo) : (conn.shift c).isLost (seqNum + c) = conn.isLost seqNum := by
  apply SideBySide.eq
  rw [isLost, isLost]
  apply ensure_sideBySide Iff.rfl
  intro _
  apply ensure_sideBySide (seqGE_shift c seqNum conn.state.sndUna)
  intro _
  have hruns := getNumOfDiscontiguousSacks_shift c conn.rexmitQueue seqNum
  have hamount := getAmountOfSackedBytes_shift c conn.rexmitQueue seqNum
  change SideBySide Eq ((conn.rexmitQueue.shift c).getNumOfDiscontiguousSacks (seqNum + c) >>= _) _
  rw [hruns]
  apply (SideBySide.refl _).bind
  rintro runs _ rfl
  apply SideBySide.ite Iff.rfl
  · exact fun _ => .pure rfl
  · intro _
    change SideBySide Eq ((conn.rexmitQueue.shift c).getAmountOfSackedBytes (seqNum + c) >>= _) _
    rw [hamount]
    exact .refl _

theorem inPipe_shift (s1 length pipe : SeqNo) :
    (conn.shift c).inPipe (s1 + c) length pipe = conn.inPipe s1 length pipe := by
  apply SideBySide.eq
  rw [inPipe, inPipe, isLost_shift]
  apply (SideBySide.refl _).bind
  rintro lost _ rfl
  exact .pure (if_congr (seqLess_shift c s1 conn.state.highRxt) rfl rfl)

theorem pipeFrom_shift (fuel : Nat) (s1 pipe : SeqNo) :
    (conn.shift c).pipeFrom fuel (s1 + c) pipe = conn.pipeFrom fuel s1 pipe := by
  induction fuel generalizing s1 pipe with
  | zero => rfl
  | succ fuel ih =>
    apply SideBySide.eq
    rw [pipeFrom, pipeFrom]
    apply SideBySide.ite (seqLess_shift c s1 conn.state.sndMax)
    · intro _
      have hblock := checkSackBlock_shift c conn.rexmitQueue s1
      change SideBySide Eq ((conn.rexmitQueue.shift c).checkSackBlock (s1 + c) >>= _) _
      rw [hblock]
      apply (SideBySide.refl _).bind
      rintro ⟨length, sacked, rexmitted⟩ _ rfl
      simp only [inPipe_shift, shift_add c s1 length, ih]
      exact .refl _
    · exact fun _ => .ok rfl

theorem setHighRxt_shift : (conn.shift c).setHighRxt = conn.setHighRxt.shift c := by
  have hhighest := getHighestRexmittedSeqNum_shift c conn.rexmitQueue
  simp only [setHighRxt, shift, SenderState.shift, hhighest]

theorem setPipe_shift : SideBySide (fun a b => b = a.shift c) conn.setPipe (conn.shift c).setPipe := by
  rw [setPipe, setPipe]
  apply ensure_sideBySide Iff.rfl
  intro _
  simp only [setHighRxt_shift]
  have hpipe := pipeFrom_shift c conn.setHighRxt loopLimit conn.setHighRxt.state.sndUna 0
  change SideBySide _ _ ((conn.setHighRxt.shift c).pipeFrom loopLimit (conn.setHighRxt.state.sndUna + c) 0 >>= _)
  rw [hpipe]
  apply (SideBySide.refl _).bind
  rintro pipe _ rfl
  exact .ok rfl

theorem unsackedFrom_shift (highestSackedSeqNum : SeqNo) (fuel : Nat) (s : SeqNo) :
    SideBySide (fun a b => b = a.map (· + c)) (conn.unsackedFrom highestSackedSeqNum fuel s)
      ((conn.shift c).unsackedFrom (highestSackedSeqNum + c) fuel (s + c)) := by
  induction fuel generalizing s with
  | zero => exact .error _ _
  | succ fuel ih =>
    rw [unsackedFrom, unsackedFrom]
    apply SideBySide.ite (by simp [shift, SenderState.shift])
    · intro _
      have hblock := checkSackBlock_shift c conn.rexmitQueue s
      change SideBySide _ _ ((conn.rexmitQueue.shift c).checkSackBlock (s + c) >>= _)
      rw [hblock]
      apply (SideBySide.refl _).bind
      rintro ⟨length, sacked, rexmitted⟩ _ rfl
      apply SideBySide.ite Iff.rfl
      · intro _
        rw [shift_add]
        exact ih (s + length)
      · exact fun _ => .pure rfl
    · exact fun _ => .ok rfl

theorem unsackedFromHighRxt_shift : SideBySide (fun a b => b = a.map (· + c))
    (conn.unsackedFrom conn.rexmitQueue.getHighestSackedSeqNum loopLimit conn.state.highRxt)
    ((conn.shift c).unsackedFrom (conn.shift c).rexmitQueue.getHighestSackedSeqNum loopLimit
      (conn.shift c).state.highRxt) := by
  have hhighest := getHighestSackedSeqNum_shift c conn.rexmitQueue
  change SideBySide _ _ ((conn.shift c).unsackedFrom (conn.rexmitQueue.shift c).getHighestSackedSeqNum loopLimit
    (conn.state.highRxt + c))
  rw [hhighest]
  exact unsackedFrom_shift c conn _ _ _

theorem firstLost_shift : SideBySide (fun a b => b = a.map (· + c)) conn.firstLost (conn.shift c).firstLost := by
  rw [firstLost, firstLost]
  apply (unsackedFromHighRxt_shift c conn).bind
  rintro found _ rfl
  cases found with
  | none => exact .pure rfl
  | some s2 =>
    simp only [Option.map_some, isLost_shift]
    apply (SideBySide.refl _).bind
    rintro lost _ rfl
    cases lost with
    | true => exact .pure rfl
    | false => exact .pure rfl

theorem maySendNew_shift : (conn.shift c).MaySendNew ↔ conn.MaySendNew := by
  have havailable := TCPSendQueue.getBytesAvailable_shift c conn.sendQueue conn.state.sndMax
  change (conn.sendQueue.shift c).getBytesAvailable (conn.state.sndMax + c) > 0 ∧ _ ↔ _
  rw [havailable]
  exact Iff.rfl

theorem nextSeg_shift :
    SideBySide (fun a b => b = (a.1.shift c, a.2.map (· + c))) conn.nextSeg (conn.shift c).nextSeg := by
  rw [nextSeg, nextSeg]
  apply ensure_sideBySide Iff.rfl
  intro _
  simp only [setHighRxt_shift]
  apply (firstLost_shift c conn.setHighRxt).bind
  rintro found _ rfl
  cases found with
  | some s2 => exact .pure rfl
  | none =>
    apply SideBySide.ite (maySendNew_shift c conn.setHighRxt).symm
    · exact fun _ => .pure rfl
    · intro _
      rw [lastResort, lastResort]
      apply (unsackedFromHighRxt_shift c conn.setHighRxt).bind
      rintro last _ rfl
      exact .pure rfl

end TCPConnection

def SentSegment.shift (c : SeqNo) (seg : SentSegment) : SentSegment := { seg with sequenceNo := seg.sequenceNo + c }

def TCPReno.shift (c : SeqNo) (s : TCPReno) : TCPReno :=
  { s with
    toTCPConnection := s.toTCPConnection.shift c
    sent := s.sent.map (SentSegment.shift c) }

namespace TCPReno

variable (c : SeqNo) (s : TCPReno)

theorem available_shift (fromSeq : SeqNo) :
    (s.shift c).sendQueue.getBytesAvailable (fromSeq + c) = s.sendQueue.getBytesAvailable fromSeq :=
  TCPSendQueue.getBytesAvailable_shift c s.sendQueue fromSeq

theorem buffered_shift : (s.shift c).sendQueue.getBytesAvailable (s.shift c).state.sndNxt =
    s.sendQueue.getBytesAvailable s.state.sndNxt :=
  available_shift c s s.state.sndNxt

theorem setSndNxt_shift (sndNxt : SeqNo) : (s.shift c).setSndNxt (sndNxt + c) = (s.setSndNxt sndNxt).shift c := rfl

theorem forwardSndNxt_shift : SideBySide (fun a b => b = a.shift c) s.forwardSndNxt (s.shift c).forwardSndNxt := by
  rw [forwardSndNxt, forwardSndNxt]
  apply SideBySide.ite Iff.rfl
  · intro _
    have hforward := checkRexmitQueue_shift c s.rexmitQueue s.state.sndNxt
    change SideBySide _ _
      ((s.rexmitQueue.shift c).checkRexmitQueueForSackedOrRexmittedSegments (s.state.sndNxt + c) >>= _)
    rw [hforward]
    apply (SideBySide.refl _).bind
    rintro forward _ rfl
    apply SideBySide.pure
    change (s.shift c).setSndNxt (s.state.sndNxt + c + forward) = _
    rw [shift_add]
    rfl
  · exact fun _ => .ok rfl

theorem optionsLen_shift : (s.shift c).optionsLen (s.shift c).sent.length = s.optionsLen s.sent.length :=
  congrArg s.optionsLen (List.length_map _)

section

variable (bytes : SeqNo)
include bytes

theorem segmentBytes_shift : (s.shift c).segmentBytes bytes = s.segmentBytes bytes := by
  rw [segmentBytes, segmentBytes, optionsLen_shift, buffered_shift]
  rfl

theorem enqueueSegment_shift :
    SideBySide (fun a b => b = a.shift c) (s.enqueueSegment bytes) ((s.shift c).enqueueSegment bytes) := by
  rw [enqueueSegment, enqueueSegment]
  apply SideBySide.ite Iff.rfl
  · intro _
    have hqueue := enqueueSentData_shift c s.rexmitQueue s.state.sndNxt (s.state.sndNxt + bytes)
    rw [← shift_add] at hqueue
    apply hqueue.bind
    rintro q _ rfl
    exact .pure rfl
  · exact fun _ => .ok rfl

theorem carriesFin_shift : (s.shift c).carriesFin bytes = s.carriesFin bytes := by
  have hfin : s.state.sndNxt + c + bytes = s.state.sndFinSeq + c ↔ s.state.sndNxt + bytes = s.state.sndFinSeq := by
    rw [shift_add, shift_inj]
  rw [carriesFin, carriesFin]
  exact congrArg _ (decide_eq_decide.mpr hfin)

theorem segmentSent_shift : (s.shift c).segmentSent bytes = (s.segmentSent bytes).shift c := by
  have hnext : (if s.carriesFin bytes then (s.shift c).state.sndFinSeq + 1 else (s.shift c).state.sndNxt + bytes) =
      (if s.carriesFin bytes then s.state.sndFinSeq + 1 else s.state.sndNxt + bytes) + c := by
    rw [apply_ite (· + c), ← shift_add c s.state.sndFinSeq, ← shift_add c s.state.sndNxt]
    rfl
  have hback : decide (seqGE ((s.shift c).state.sndNxt + bytes) (s.shift c).state.sndMax) =
      decide (seqGE (s.state.sndNxt + bytes) s.state.sndMax) := by
    rw [decide_eq_decide]
    change seqGE (s.state.sndNxt + c + bytes) (s.state.sndMax + c) ↔ _
    rw [shift_add, seqGE_shift]
  rw [segmentSent, segmentSent, carriesFin_shift, hnext, hback]
  rfl

theorem sendSegment_shift :
    SideBySide (fun a b => b = a.shift c) (s.sendSegment bytes) ((s.shift c).sendSegment bytes) := by
  rw [sendSegment, sendSegment]
  apply (forwardSndNxt_shift c s).bind
  rintro s _ rfl
  rw [optionsLen_shift, segmentBytes_shift]
  apply ensure_sideBySide Iff.rfl
  intro _
  have hbegin := seqLE_shift c s.sendQueue.bufferStartSeq s.state.sndNxt
  have hend := seqLE_shift c (s.state.sndNxt + s.segmentBytes bytes) s.sendQueue.bufferEndSeq
  rw [← shift_add] at hend
  apply ensure_sideBySide (and_congr hbegin hend).symm
  intro _
  apply (enqueueSegment_shift c s (s.segmentBytes bytes)).bind
  rintro s' _ rfl
  exact .pure (segmentSent_shift c s' _)

end

theorem sendWhole_shift (effectiveMaxBytesSend : ULong) (fuel : Nat) (bytesToSend : ULong) :
    SideBySide (fun a b => b = (a.1, a.2.shift c)) (sendWhole effectiveMaxBytesSend fuel bytesToSend s)
      (sendWhole effectiveMaxBytesSend fuel bytesToSend (s.shift c)) := by
  induction fuel generalizing bytesToSend s with
  | zero => exact .error _ _
  | succ fuel ih =>
    rw [sendWhole, sendWhole]
    apply SideBySide.ite Iff.rfl
    · intro _
      apply (sendSegment_shift c s s.state.sndMss).bind
      rintro s' _ rfl
      exact ih s' _
    · exact fun _ => .ok rfl

theorem sendBytes_shift (bytesToSend effectiveMaxBytesSend : ULong) :
    SideBySide (fun a b => b = (a.1, a.2.shift c)) (s.sendBytes bytesToSend effectiveMaxBytesSend)
      ((s.shift c).sendBytes bytesToSend effectiveMaxBytesSend) := by
  rw [sendBytes, sendBytes]
  apply SideBySide.ite Iff.rfl
  · intro _
    apply (sendSegment_shift c s _).bind
    rintro s' _ rfl
    exact .pure rfl
  · exact fun _ => sendWhole_shift c s effectiveMaxBytesSend loopLimit bytesToSend

theorem sendLast_shift (bytesToSend : ULong) :
    SideBySide (fun a b => b = a.shift c) (s.sendLast bytesToSend) ((s.shift c).sendLast bytesToSend) := by
  rw [sendLast, sendLast, buffered_shift]
  apply SideBySide.ite Iff.rfl
  · exact fun _ => sendSegment_shift c s _
  · exact fun _ => .ok rfl

theorem rememberHighest_shift : (s.shift c).rememberHighest = s.rememberHighest.shift c := by
  have hhigher := seqGreater_shift c s.state.sndNxt s.state.sndMax
  rw [rememberHighest, rememberHighest, apply_ite (shift c)]
  exact if_congr hhigher rfl rfl

theorem bytesInWindow_shift (fullSegmentsOnly : Bool) (congestionWindow effectiveMaxBytesSend : ULong) :
    (s.shift c).bytesInWindow fullSegmentsOnly congestionWindow effectiveMaxBytesSend =
      s.bytesInWindow fullSegmentsOnly congestionWindow effectiveMaxBytesSend := by
  have hflight : (s.shift c).state.sndNxt - (s.shift c).state.sndUna = s.state.sndNxt - s.state.sndUna :=
    add_sub_add c s.state.sndUna s.state.sndNxt
  rw [bytesInWindow, bytesInWindow, buffered_shift, hflight]
  rfl

/-- After a timeout `snd_nxt` stays where it is. -/
theorem toSndMax_shift : (if (s.shift c).state.afterRto then s.shift c else
    (s.shift c).setSndNxt (s.shift c).state.sndMax) =
      (if s.state.afterRto then s else s.setSndNxt s.state.sndMax).shift c := by
  rw [apply_ite (shift c)]
  rfl

theorem sendData_shift (fullSegmentsOnly : Bool) (congestionWindow : SeqNo) :
    SideBySide (fun a b => b = a.shift c) (s.sendData fullSegmentsOnly congestionWindow)
      ((s.shift c).sendData fullSegmentsOnly congestionWindow) := by
  rw [sendData, sendData, toSndMax_shift]
  generalize (if s.state.afterRto then s else s.setSndNxt s.state.sndMax) = s
  simp only [bytesInWindow_shift]
  have hsame : (s.shift c).state.sndMss = s.state.sndMss ∧ (s.shift c).state.tsEnabled = s.state.tsEnabled := ⟨rfl, rfl⟩
  rw [hsame.1, hsame.2]
  cases s.bytesInWindow fullSegmentsOnly (congestionWindow.setWidth 64)
      ((if s.state.tsEnabled then s.state.sndMss - TCP_OPTION_TS_SIZE else s.state.sndMss).setWidth 64) with
  | none => exact .ok rfl
  | some bytesToSend =>
    apply (sendBytes_shift c s bytesToSend _).bind
    rintro ⟨left, s₁⟩ _ rfl
    apply (sendLast_shift c s₁ left).bind
    rintro s₂ _ rfl
    exact .pure (rememberHighest_shift c s₂)

theorem sendProbe_shift : SideBySide (fun a b => b = a.shift c) s.sendProbe (s.shift c).sendProbe := by
  have hbuffered := buffered_shift c (s.setSndNxt s.state.sndMax)
  rw [sendProbe, sendProbe]
  apply SideBySide.ite (iff_of_eq (congrArg (· = 0) hbuffered.symm))
  · exact fun _ => .ok rfl
  · intro _
    apply (sendSegment_shift c (s.setSndNxt s.state.sndMax) 1).bind
    rintro s' _ rfl
    exact .pure rfl

theorem limitedBytes_shift (fullSegmentsOnly : Bool) (congestionWindow : SeqNo) :
    (s.shift c).limitedBytes fullSegmentsOnly congestionWindow = s.limitedBytes fullSegmentsOnly congestionWindow := by
  have hbuffered : (s.shift c).sendQueue.getBytesAvailable (s.shift c).state.sndMax =
      s.sendQueue.getBytesAvailable s.state.sndMax := available_shift c s s.state.sndMax
  have hflight : (s.shift c).state.sndMax - (s.shift c).state.sndUna = s.state.sndMax - s.state.sndUna :=
    add_sub_add c s.state.sndUna s.state.sndMax
  rw [limitedBytes, limitedBytes, hbuffered, hflight]
  rfl

theorem sendOneNewSegment_shift (fullSegmentsOnly : Bool) (congestionWindow : SeqNo) :
    SideBySide (fun a b => b = a.shift c) (s.sendOneNewSegment fullSegmentsOnly congestionWindow)
      ((s.shift c).sendOneNewSegment fullSegmentsOnly congestionWindow) := by
  rw [sendOneNewSegment, sendOneNewSegment, limitedBytes_shift]
  apply ensure_sideBySide Iff.rfl
  intro _
  cases s.limitedBytes fullSegmentsOnly congestionWindow with
  | none => exact .pure rfl
  | some bytes =>
    apply (sendSegment_shift c (s.setSndNxt s.state.sndMax) bytes).bind
    rintro s' _ rfl
    simp only [rememberHighest_shift]
    generalize s'.rememberHighest = s'
    apply SideBySide.pure
    change (if s'.state.afterRto then (s'.shift c).setSndNxt (s.state.sndNxt + c + s'.state.sentBytes)
      else s'.shift c) = _
    rw [shift_add, setSndNxt_shift, apply_ite (shift c)]

theorem sendFinAt_shift (seqNum : SeqNo) : (s.shift c).sendFinAt (seqNum + c) = (s.sendFinAt seqNum).shift c := by
  rw [sendFinAt, shift_add c seqNum]
  rfl

theorem updateHighRxt_shift : (s.shift c).updateHighRxt = s.updateHighRxt.shift c := by
  have hhighest := TCPConnection.setHighRxt_shift c s.toTCPConnection
  rw [updateHighRxt, updateHighRxt, apply_ite (shift c)]
  apply if_congr Iff.rfl
  · exact congrArg (s.shift c).setConnection hhighest
  · rfl

theorem retransmitOneSegment_shift (calledAtRto : Bool) :
    SideBySide (fun a b => b = a.shift c) (s.retransmitOneSegment calledAtRto)
      ((s.shift c).retransmitOneSegment calledAtRto) := by
  have hbuffered : (s.shift c).sendQueue.getBytesAvailable (s.shift c).state.sndUna =
      s.sendQueue.getBytesAvailable s.state.sndUna := available_shift c s s.state.sndUna
  have hflight : (s.shift c).state.sndMax - (s.shift c).state.sndUna = s.state.sndMax - s.state.sndUna :=
    add_sub_add c s.state.sndUna s.state.sndMax
  have hfin := shift_inj c s.state.sndFinSeq s.sendQueue.bufferEndSeq
  rw [retransmitOneSegment, retransmitOneSegment, hbuffered, hflight]
  apply SideBySide.ite
  · exact and_congr Iff.rfl (and_congr Iff.rfl hfin.symm)
  · exact fun _ => .ok (sendFinAt_shift c (s.setSndNxt s.state.sndUna) s.sendQueue.bufferEndSeq)
  · intro _
    apply ensure_sideBySide Iff.rfl
    intro _
    apply (sendSegment_shift c (s.setSndNxt s.state.sndUna) _).bind
    rintro s' _ rfl
    have hback := seqGreater_shift c s.state.sndNxt s'.state.sndNxt
    have hnext : (if calledAtRto = false ∧ seqGreater (s.shift c).state.sndNxt (s'.shift c).state.sndNxt then
        (s'.shift c).setSndNxt (s.shift c).state.sndNxt else s'.shift c) =
        (if calledAtRto = false ∧ seqGreater s.state.sndNxt s'.state.sndNxt then s'.setSndNxt s.state.sndNxt
          else s').shift c := by
      rw [apply_ite (shift c)]
      exact if_congr (and_congr Iff.rfl hback) rfl rfl
    rw [hnext]
    exact .pure (updateHighRxt_shift c _)

theorem sendSegmentDuringLossRecoveryPhase_shift (seqNum : SeqNo) :
    SideBySide (fun a b => b = a.shift c) (s.sendSegmentDuringLossRecoveryPhase seqNum)
      ((s.shift c).sendSegmentDuringLossRecoveryPhase (seqNum + c)) := by
  rw [sendSegmentDuringLossRecoveryPhase, sendSegmentDuringLossRecoveryPhase, setSndNxt_shift]
  apply ensure_sideBySide Iff.rfl
  intro _
  apply (sendSegment_shift c (s.setSndNxt seqNum) s.state.sndMss).bind
  rintro s _ rfl
  have hsent : seqNum + c + (s.shift c).state.sentBytes = seqNum + s.state.sentBytes + c :=
    shift_add c seqNum s.state.sentBytes
  simp only [hsent]
  have hnext := seqLE_shift c s.state.sndNxt (seqNum + s.state.sentBytes + 1)
  rw [← shift_add c (seqNum + s.state.sentBytes)] at hnext
  apply ensure_sideBySide hnext.symm
  intro _
  have hagain : (if seqLess (seqNum + c) (s.shift c).state.sndMax then
      (s.shift c).setConnection (s.shift c).toTCPConnection.setHighRxt else s.shift c) =
      (if seqLess seqNum s.state.sndMax then s.setConnection s.toTCPConnection.setHighRxt else s).shift c := by
    have hhighest := TCPConnection.setHighRxt_shift c s.toTCPConnection
    rw [apply_ite (shift c)]
    apply if_congr (seqLess_shift c seqNum s.state.sndMax)
    · exact congrArg (s.shift c).setConnection hhighest
    · rfl
  rw [hagain]
  generalize (if seqLess seqNum s.state.sndMax then s.setConnection s.toTCPConnection.setHighRxt else s) = s'
  have hhigher := seqGreater_shift c (seqNum + s.state.sentBytes) s'.state.sndMax
  apply SideBySide.pure
  rw [apply_ite (shift c)]
  exact if_congr hhigher rfl rfl

theorem recoverFrom_shift (congestionWindow : SeqNo) (fuel : Nat) :
    SideBySide (fun a b => b = a.shift c) (recoverFrom congestionWindow fuel s)
      (recoverFrom congestionWindow fuel (s.shift c)) := by
  induction fuel generalizing s with
  | zero => exact .error _ _
  | succ fuel ih =>
    rw [recoverFrom, recoverFrom]
    apply SideBySide.ite Iff.rfl
    · intro _
      apply (TCPConnection.nextSeg_shift c s.toTCPConnection).bind
      rintro ⟨conn, seqNum⟩ _ rfl
      cases seqNum with
      | none => exact .pure rfl
      | some seqNum =>
        apply (sendSegmentDuringLossRecoveryPhase_shift c (s.setConnection conn) seqNum).bind
        rintro s' _ rfl
        exact ih s'.addToPipe
    · exact fun _ => .ok rfl

theorem setPipeAndSend_shift : SideBySide (fun a b => b = a.shift c) s.setPipeAndSend (s.shift c).setPipeAndSend := by
  rw [setPipeAndSend, setPipeAndSend]
  apply (TCPConnection.setPipe_shift c s.toTCPConnection).bind
  rintro conn _ rfl
  apply SideBySide.ite Iff.rfl
  · intro _
    rw [sendDataDuringLossRecoveryPhase, sendDataDuringLossRecoveryPhase]
    exact ensure_sideBySide Iff.rfl fun _ => recoverFrom_shift c (s.setConnection conn) _ _
  · exact fun _ => .pure rfl

end TCPReno

end Inet.Tcp
