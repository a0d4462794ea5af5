import Inetmanet.Tcp.SenderCalls
import Inetmanet.Tcp.ShiftedSender

/-!
# Reno in a shifted sequence space

Reno takes a `recoveryPoint` of 0 for one that has never been set. Wherever that marker
is the same before and after the shift, every step goes the same way.
-/
namespace Inet.Tcp

open TCPSACKRexmitQueue

def Sack.shift (c : SeqNo) (sack : Sack) : Sack := ⟨sack.start + c, sack.end_ + c⟩

/-- What a segment says of our sequence numbers. -/
def AckSegment.shift (c : SeqNo) (seg : AckSegment) : AckSegment :=
  { seg with ackNo := seg.ackNo + c, sacks := seg.sacks.map (Sack.shift c) }

namespace TCPReno

variable (c : SeqNo) (s : TCPReno)

theorem outstanding_shift :
    ((s.shift c).state.sndUna != (s.shift c).state.sndMax) = (s.state.sndUna != s.state.sndMax) := by
  have heq : (s.state.sndUna + c == s.state.sndMax + c) = (s.state.sndUna == s.state.sndMax) := by
    rw [Bool.eq_iff_iff, beq_iff_eq, beq_iff_eq, shift_inj]
  exact congrArg not heq

theorem sendPending_shift (sendCommandInvoked idle : Bool) :
    SideBySide (fun a b => b = a.shift c) (s.sendPending sendCommandInvoked idle)
      ((s.shift c).sendPending sendCommandInvoked idle) := by
  rw [sendPending, sendPending, outstanding_shift, buffered_shift]
  have hrestart (restartWindow : SeqNo) :
      (if s.sendQueue.getBytesAvailable s.state.sndNxt ≠ 0 ∧ idle then (s.shift c).setSndCwnd restartWindow
        else s.shift c) =
      (if s.sendQueue.getBytesAvailable s.state.sndNxt ≠ 0 ∧ idle then s.setSndCwnd restartWindow else s).shift c := by
    rw [apply_ite (shift c)]
    rfl
  rw [hrestart]
  exact sendData_shift c _ _ _

theorem growWindow_shift : SideBySide (fun a b => b = a.shift c) s.growWindow (s.shift c).growWindow := by
  rw [growWindow, growWindow]
  apply SideBySide.ite Iff.rfl
  · exact fun _ => .ok rfl
  · intro _
    apply SideBySide.ite Iff.rfl
    · exact fun _ => .ok rfl
    · intro _
      apply SideBySide.ite Iff.rfl
      · exact fun _ => .error _ _
      · exact fun _ => .ok rfl

theorem continueRecovery_shift :
    SideBySide (fun a b => b = a.shift c) s.continueRecovery (s.shift c).continueRecovery := by
  rw [continueRecovery, continueRecovery]
  apply SideBySide.ite Iff.rfl
  · intro _
    apply SideBySide.ite (seqGE_shift c s.state.sndUna s.state.recoveryPoint).symm
    · exact fun _ => .ok rfl
    · exact fun _ => setPipeAndSend_shift c s
  · exact fun _ => .ok rfl

theorem receivedDataAck_shift (idle : Bool) :
    SideBySide (fun a b => b = a.shift c) (s.receivedDataAck idle) ((s.shift c).receivedDataAck idle) := by
  rw [receivedDataAck, receivedDataAck]
  apply (growWindow_shift c s).bind
  rintro s₁ _ rfl
  apply (continueRecovery_shift c s₁).bind
  rintro s₂ _ rfl
  exact sendPending_shift c s₂ false idle

theorem limitedTransmit_shift :
    SideBySide (fun a b => b = a.shift c) s.limitedTransmit (s.shift c).limitedTransmit := by
  rw [limitedTransmit, limitedTransmit, outstanding_shift]
  apply SideBySide.ite Iff.rfl
  · exact fun _ => sendOneNewSegment_shift c s _ _
  · exact fun _ => .ok rfl

/-- Where Reno looks whether `recoveryPoint` has been set, it says the same before and after the shift. -/
def KeepsMarker (c : SeqNo) (s : TCPReno) : Prop :=
  s.state.sackEnabled = true →
    seqGE s.state.sndUna s.state.recoveryPoint ∨ (s.state.recoveryPoint + c = 0 ↔ s.state.recoveryPoint = 0)

variable {c s}

theorem enterRecovery_shift (h : s.KeepsMarker c) : (s.shift c).enterRecovery = s.enterRecovery.shift c := by
  have hreached := seqGE_shift c s.state.sndUna s.state.recoveryPoint
  rw [enterRecovery, enterRecovery, apply_ite (shift c)]
  apply if_congr _ rfl rfl
  change (s.state.sackEnabled = true ∧ (s.state.recoveryPoint + c = 0 ∨
    seqGE (s.state.sndUna + c) (s.state.recoveryPoint + c))) ↔ _
  rw [hreached]
  apply and_congr_right
  intro hsack
  cases h hsack with
  | inl hpast => simp only [hpast, or_true]
  | inr hmarker => rw [hmarker]

theorem fastRetransmit_shift (h : s.KeepsMarker c) :
    SideBySide (fun a b => b = a.shift c) s.fastRetransmit (s.shift c).fastRetransmit := by
  rw [fastRetransmit, fastRetransmit, enterRecovery_shift h]
  exact retransmitOneSegment_shift c _ false

theorem receivedDuplicateAck_shift (h : s.state.dupacks = DUPTHRESH → s.KeepsMarker c) (idle : Bool) :
    SideBySide (fun a b => b = a.shift c) (s.receivedDuplicateAck idle) ((s.shift c).receivedDuplicateAck idle) := by
  rw [receivedDuplicateAck, receivedDuplicateAck]
  apply (limitedTransmit_shift c s).bind_of
  rintro s₁ _ hlimited rfl
  apply SideBySide.ite Iff.rfl
  · intro hthird
    obtain rfl := limitedTransmit_third hlimited hthird
    apply (fastRetransmit_shift (h hthird)).bind
    rintro s₂ _ rfl
    apply SideBySide.ite Iff.rfl
    · intro _
      apply (setPipeAndSend_shift c s₂).bind
      rintro s₃ _ rfl
      exact sendPending_shift c s₃ false idle
    · exact fun _ => sendPending_shift c s₂ false idle
  · intro _
    apply SideBySide.ite Iff.rfl
    · exact fun _ => sendPending_shift c (s₁.setSndCwnd _) false idle
    · exact fun _ => .pure rfl

variable (c s)

theorem forgetSacks_shift : (s.shift c).forgetSacks = s.forgetSacks.shift c := by
  have hbits := resetBits_shift c s.rexmitQueue
  rw [forgetSacks, forgetSacks]
  have hstate : (if (s.shift c).state.lossRecovery then
      { (s.shift c).state with recoveryPoint := (s.shift c).state.sndMax, lossRecovery := false }
      else (s.shift c).state) =
      (if s.state.lossRecovery then { s.state with recoveryPoint := s.state.sndMax, lossRecovery := false }
        else s.state).shift c := by
    rw [apply_ite (SenderState.shift c)]
    rfl
  rw [hstate, apply_ite (shift c)]
  apply if_congr Iff.rfl
  · change ({ s.shift c with
      rexmitQueue := (s.rexmitQueue.shift c).resetSackedBit.resetRexmittedBit
      state := _ } : TCPReno) = _
    rw [hbits]
    rfl
  · rfl

theorem processRexmitTimer_shift :
    SideBySide (fun a b => b = a.shift c) s.processRexmitTimer (s.shift c).processRexmitTimer := by
  rw [processRexmitTimer, processRexmitTimer, forgetSacks_shift]
  exact retransmitOneSegment_shift c _ true

theorem sackBlock_shift (ackNo : SeqNo) (tmp : Sack) :
    SideBySide (fun a b => b = a.shift c) (sackBlock ackNo s tmp)
      (sackBlock (ackNo + c) (s.shift c) (tmp.shift c)) := by
  have hahead := seqGreater_shift c tmp.end_ ackNo
  have hnew := seqGreater_shift c tmp.end_ s.state.sndUna
  rw [sackBlock, sackBlock]
  apply SideBySide.ite (and_congr hahead hnew).symm
  · intro _
    apply (setSackedBit_shift c s.rexmitQueue tmp.start tmp.end_).bind
    rintro q _ rfl
    exact .pure rfl
  · exact fun _ => .ok rfl

theorem processSACKOption_shift (seg : AckSegment) :
    SideBySide (fun a b => b = a.shift c) (s.processSACKOption seg) ((s.shift c).processSACKOption (seg.shift c)) := by
  rw [processSACKOption, processSACKOption]
  apply SideBySide.ite
  · exact and_congr Iff.rfl (and_congr Iff.rfl (and_congr Iff.rfl (not_congr List.map_eq_nil_iff.symm)))
  · intro _
    have hblocks : SideBySide (fun a b => b = a.shift c) (seg.sacks.foldlM (sackBlock seg.ackNo) s)
        ((seg.sacks.map (Sack.shift c)).foldlM (sackBlock (seg.ackNo + c)) (s.shift c)) := by
      refine SideBySide.foldlM (r := fun (a b : TCPReno) => b = a.shift c) (Sack.shift c) ?_ seg.sacks rfl
      rintro s₁ _ tmp rfl
      exact sackBlock_shift c s₁ seg.ackNo tmp
    apply hblocks.bind
    rintro s₁ _ rfl
    apply SideBySide.pure
    have htotal := getTotalAmountOfSackedBytes_shift c s₁.rexmitQueue
    change ({ s₁.shift c with
      sackedBytesOld := s₁.sackedBytes
      sackedBytes := (s₁.rexmitQueue.shift c).getTotalAmountOfSackedBytes } : TCPReno) = _
    rw [htotal]
    rfl
  · exact fun _ => .ok rfl

theorem updateWndInfo_shift (seg : AckSegment) :
    (s.shift c).updateWndInfo (seg.shift c) = (s.updateWndInfo seg).shift c := by
  have hlater := seqLE_shift c s.state.sndWl2 seg.ackNo
  have hsame := shift_inj c s.state.sndWl2 seg.ackNo
  rw [updateWndInfo, updateWndInfo, apply_ite (shift c)]
  apply if_congr _ rfl rfl
  exact or_congr Iff.rfl (or_congr (and_congr Iff.rfl hlater) (and_congr hsame Iff.rfl))

theorem isDuplicateAck_shift (seg : AckSegment) : (s.shift c).IsDuplicateAck (seg.shift c) ↔ s.IsDuplicateAck seg := by
  have hsame := shift_inj c s.state.sndUna seg.ackNo
  have hflight := shift_inj c s.state.sndUna s.state.sndMax
  exact and_congr hsame (and_congr Iff.rfl (not_congr hflight))

theorem countDuplicate_shift (seg : AckSegment) :
    (s.shift c).countDuplicate (seg.shift c) = (s.countDuplicate seg).shift c :=
  updateWndInfo_shift c (s.setDupacks (s.state.dupacks + 1)) seg

theorem acksFin_shift (seg : AckSegment) : (s.shift c).AcksFin (seg.shift c) ↔ s.AcksFin seg := by
  have hfin := shift_inj c seg.ackNo (s.state.sndFinSeq + 1)
  rw [← shift_add] at hfin
  exact and_congr Iff.rfl hfin

theorem discardUpToSeq_shift (seg : AckSegment) :
    (s.shift c).discardUpToSeq (seg.shift c) = s.discardUpToSeq seg + c := by
  have hbefore : seg.ackNo + c - 1 = seg.ackNo - 1 + c := by grind
  rw [discardUpToSeq, discardUpToSeq, apply_ite (· + c)]
  exact if_congr (acksFin_shift c s seg) hbefore rfl

theorem discardAcked_shift (seqNum : SeqNo) :
    SideBySide (fun a b => b = a.shift c) (s.discardAcked seqNum) ((s.shift c).discardAcked (seqNum + c)) := by
  have hbegin := seqLE_shift c s.sendQueue.bufferStartSeq seqNum
  have hend := seqLE_shift c seqNum s.sendQueue.bufferEndSeq
  rw [discardAcked, discardAcked]
  apply ensure_sideBySide (and_congr hbegin hend).symm
  intro _
  apply SideBySide.ite Iff.rfl
  · intro _
    apply (discardUpTo_shift c s.rexmitQueue seqNum).bind
    rintro q _ rfl
    exact .pure rfl
  · exact fun _ => .pure rfl

theorem acknowledge_shift (seg : AckSegment) :
    SideBySide (fun a b => b = a.shift c) (s.acknowledge seg) ((s.shift c).acknowledge (seg.shift c)) := by
  have hnext : (if seqLess (s.shift c).state.sndNxt (seg.shift c).ackNo then (seg.shift c).ackNo
      else (s.shift c).state.sndNxt) =
      (if seqLess s.state.sndNxt seg.ackNo then seg.ackNo else s.state.sndNxt) + c := by
    rw [apply_ite (· + c)]
    exact if_congr (seqLess_shift c s.state.sndNxt seg.ackNo) rfl rfl
  have hfin : decide ((s.shift c).AcksFin (seg.shift c)) = decide (s.AcksFin seg) :=
    decide_eq_decide.mpr (acksFin_shift c s seg)
  rw [acknowledge, acknowledge, hnext, hfin, discardUpToSeq_shift]
  apply (discardAcked_shift c _ (s.discardUpToSeq seg)).bind
  rintro s₁ _ rfl
  exact .pure (updateWndInfo_shift c s₁ seg)

variable {c s}

theorem KeepsMarker.of_state {s' : TCPReno} (h : s.KeepsMarker c) (hstate : s'.state = s.state) : s'.KeepsMarker c := by
  rw [KeepsMarker, hstate]
  exact h

theorem KeepsMarker.countDuplicate (h : s.KeepsMarker c) (seg : AckSegment) : (s.countDuplicate seg).KeepsMarker c := by
  rw [TCPReno.countDuplicate, updateWndInfo]
  split
  · exact h
  · exact h

theorem dupacks_countDuplicate (s : TCPReno) (seg : AckSegment) :
    (s.countDuplicate seg).state.dupacks = s.state.dupacks + 1 := by
  rw [countDuplicate, updateWndInfo]
  split
  · rfl
  · rfl

theorem processAck_shift {seg : AckSegment}
    (h : s.IsDuplicateAck seg → s.state.dupacks + 1 = DUPTHRESH → s.KeepsMarker c) (idle : Bool) :
    SideBySide (fun a b => b = a.shift c) (s.processAck seg idle) ((s.shift c).processAck (seg.shift c) idle) := by
  rw [processAck, processAck]
  apply SideBySide.ite (seqGE_shift c s.state.sndUna seg.ackNo).symm
  · intro _
    apply SideBySide.ite (isDuplicateAck_shift c s seg).symm
    · intro hduplicate
      rw [countDuplicate_shift]
      refine receivedDuplicateAck_shift (fun hthird => ?_) idle
      rw [dupacks_countDuplicate] at hthird
      exact (h hduplicate hthird).countDuplicate seg
    · exact fun _ => .ok rfl
  · intro _
    apply SideBySide.ite (seqLE_shift c seg.ackNo s.state.sndMax).symm
    · intro _
      apply (acknowledge_shift c s seg).bind
      rintro s₁ _ rfl
      apply SideBySide.ite Iff.rfl
      · intro _
        apply (receivedDataAck_shift c s₁ idle).bind
        rintro s₂ _ rfl
        exact .pure rfl
      · exact fun _ => .pure rfl
    · exact fun _ => .ok rfl

theorem enqueueAppData_shift (byteLength : SeqNo) :
    SideBySide (fun a b => b = a.shift c) (s.enqueueAppData byteLength) ((s.shift c).enqueueAppData byteLength) := by
  have hend : (s.shift c).sendQueue.bufferEndSeq + byteLength = s.sendQueue.bufferEndSeq + byteLength + c :=
    shift_add c s.sendQueue.bufferEndSeq byteLength
  have hfull := seqLess_shift c (s.sendQueue.bufferEndSeq + byteLength) s.sendQueue.bufferStartSeq
  rw [enqueueAppData, enqueueAppData, hend]
  apply SideBySide.ite hfull.symm
  · exact fun _ => .error _ _
  · exact fun _ => .ok rfl

theorem process_CLOSE_shift : (s.shift c).process_CLOSE = s.process_CLOSE.shift c := by
  have hfin : (if (s.shift c).state.sndMax = (s.shift c).sendQueue.bufferEndSeq then
      (s.shift c).sendFinAt (s.shift c).state.sndMax else s.shift c) =
      (if s.state.sndMax = s.sendQueue.bufferEndSeq then s.sendFinAt s.state.sndMax else s).shift c := by
    rw [apply_ite (shift c)]
    exact if_congr (shift_inj c s.state.sndMax s.sendQueue.bufferEndSeq) (sendFinAt_shift c s s.state.sndMax) rfl
  rw [process_CLOSE, process_CLOSE, hfin]
  rfl

/-- Only segments name sequence numbers. -/
def Event.shift (c : SeqNo) : Event → Event
  | .segment seg idle => .segment (seg.shift c) idle
  | event => event

/-- At the third duplicate acknowledgement the marker is kept. -/
def Modular (c : SeqNo) (s : TCPReno) : Event → Prop
  | .segment seg _ => s.IsDuplicateAck seg → s.state.dupacks + 1 = DUPTHRESH → s.KeepsMarker c
  | _ => True

theorem step_shift {event : Event} (h : s.Modular c event) :
    SideBySide (fun a b => b = a.shift c) (s.step event) ((s.shift c).step (event.shift c)) := by
  cases event with
  | established idle => exact sendPending_shift c s false idle
  | send byteLength idle =>
    apply (enqueueAppData_shift byteLength).bind
    rintro s₁ _ rfl
    exact sendPending_shift c s₁ true idle
  | close => exact .ok process_CLOSE_shift
  | segment seg idle =>
    apply (processSACKOption_shift c s seg).bind_of
    rintro s₁ _ hsack rfl
    have hstate := state_processSACKOption hsack
    refine processAck_shift (fun hduplicate hthird => ?_) idle
    rw [IsDuplicateAck, hstate] at hduplicate
    rw [hstate] at hthird
    exact (h hduplicate hthird).of_state hstate
  | rexmitTimer => exact processRexmitTimer_shift c s
  | persistTimer => exact sendProbe_shift c s

end TCPReno

end Inet.Tcp
