import Inetmanet.Tcp.QueueCalls

/-!
# What an algorithm does with a connection

The functions of the sending half that a congestion control algorithm calls, and the
acknowledgements and commands in between. Reno is one algorithm of many that are built
on them; all they do to the queues is a sequence of the calls on the queues.
-/
namespace Inet.Tcp

open TCPSACKRexmitQueue Relation TCPConnection

namespace TCPReno

/-- What only concerns the algorithm changes, as its windows and counters. -/
structure Own (s s' : TCPReno) : Prop extends Alike s s' where
  sndNxt : s'.state.sndNxt = s.state.sndNxt

inductive Call : TCPReno → TCPReno → Prop where
  | own {s s' : TCPReno} (h : Own s s') : Call s s'
  | sendData {s s' : TCPReno} {fullSegmentsOnly : Bool} {congestionWindow : SeqNo}
      (hrun : s.sendData fullSegmentsOnly congestionWindow = .ok s') : Call s s'
  | sendProbe {s s' : TCPReno} (hrun : s.sendProbe = .ok s') : Call s s'
  | sendOneNewSegment {s s' : TCPReno} {fullSegmentsOnly : Bool} {congestionWindow : SeqNo}
      (hrun : s.sendOneNewSegment fullSegmentsOnly congestionWindow = .ok s') : Call s s'
  | retransmitOneSegment {s s' : TCPReno} {calledAtRto : Bool} (hrun : s.retransmitOneSegment calledAtRto = .ok s') :
      Call s s'
  /-- One turn of `sendDataDuringLossRecoveryPhase`. -/
  | recoverySegment {s s' : TCPReno} {conn : TCPConnection} {seqNum : SeqNo}
      (hnext : s.toTCPConnection.nextSeg = .ok (conn, some seqNum))
      (hrun : (s.setConnection conn).sendSegmentDuringLossRecoveryPhase seqNum = .ok s') : Call s s'
  /-- What precedes the retransmission when the timer has expired. -/
  | rexmitTimer {s : TCPReno} : Call s s.forgetSacks.startSlowStart
  | processSACKOption {s s' : TCPReno} {seg : AckSegment} (hrun : s.processSACKOption seg = .ok s') : Call s s'
  | acknowledge {s s' : TCPReno} {seg : AckSegment} (hnew : ¬ seqGE s.state.sndUna seg.ackNo)
      (hsent : seqLE seg.ackNo s.state.sndMax) (hrun : s.acknowledge seg = .ok s') : Call s s'
  /-- The application does not send after closing, and fills less than half of the sequence space. -/
  | enqueueAppData {s s' : TCPReno} {byteLength : SeqNo} (hopen : s.state.sendFin = false)
      (hroom : s.buffered + byteLength.toNat < 2 ^ 31) (hrun : s.enqueueAppData byteLength = .ok s') : Call s s'
  /-- The FIN takes a sequence number as well. -/
  | close {s : TCPReno} (hroom : s.buffered + 1 < 2 ^ 31) : Call s s.process_CLOSE

abbrev Calls : TCPReno → TCPReno → Prop := ReflTransGen Call

/-- What acknowledgements and data from the application lead to. Where a segment starts somewhere else than at
`snd_nxt` or `snd_una`, a condition is met. -/
inductive AckCall (Meets : TCPReno → SeqNo → Prop) : TCPReno → TCPReno → Prop where
  | own {s s' : TCPReno} (h : Own s s') : AckCall Meets s s'
  | sendData {s s' : TCPReno} {fullSegmentsOnly : Bool} {congestionWindow : SeqNo}
      (hrun : s.sendData fullSegmentsOnly congestionWindow = .ok s') : AckCall Meets s s'
  | sendOneNewSegment {s s' : TCPReno} {fullSegmentsOnly : Bool} {congestionWindow : SeqNo}
      (hmeets : s.limitedBytes fullSegmentsOnly congestionWindow ≠ none → Meets s s.state.sndMax)
      (hrun : s.sendOneNewSegment fullSegmentsOnly congestionWindow = .ok s') : AckCall Meets s s'
  /-- Fast retransmit: something is outstanding. -/
  | retransmitOneSegment {s s' : TCPReno} (hout : s.state.sndUna ≠ s.state.sndMax)
      (hrun : s.retransmitOneSegment false = .ok s') : AckCall Meets s s'
  | recoverySegment {s s' : TCPReno} {conn : TCPConnection} {seqNum : SeqNo} (hmeets : Meets s seqNum)
      (hnext : s.toTCPConnection.nextSeg = .ok (conn, some seqNum))
      (hrun : (s.setConnection conn).sendSegmentDuringLossRecoveryPhase seqNum = .ok s') : AckCall Meets s s'
  | processSACKOption {s s' : TCPReno} {seg : AckSegment} (hrun : s.processSACKOption seg = .ok s') : AckCall Meets s s'
  | acknowledge {s s' : TCPReno} {seg : AckSegment} (hnew : ¬ seqGE s.state.sndUna seg.ackNo)
      (hsent : seqLE seg.ackNo s.state.sndMax) (hrun : s.acknowledge seg = .ok s') : AckCall Meets s s'
  | enqueueAppData {s s' : TCPReno} {byteLength : SeqNo} (hopen : s.state.sendFin = false)
      (hroom : s.buffered + byteLength.toNat < 2 ^ 31) (hrun : s.enqueueAppData byteLength = .ok s') : AckCall Meets s s'

/-- No condition is asked of where a segment starts. -/
abbrev AckCalls : TCPReno → TCPReno → Prop := ReflTransGen (AckCall fun _ _ => True)

variable {congestionWindow : SeqNo} {fullSegmentsOnly : Bool}

section Queues

variable {s s' : TCPReno} {bytes : SeqNo}

theorem QueueCalls.same (hsend : s'.sendQueue = s.sendQueue) (hrexmit : s'.rexmitQueue = s.rexmitQueue)
    (hsack : s'.state.sackEnabled = s.state.sackEnabled) : QueueCalls s s' := .single (.other hsend hrexmit hsack)

theorem queueCalls_sendSegment (sndNxt : SeqNo) (hrun : (s.setSndNxt sndNxt).sendSegment bytes = .ok s') :
    QueueCalls s s' := by
  have hstart : QueueCalls s (s.setSndNxt sndNxt) := .same rfl rfl rfl
  exact hstart.tail (.sendSegment hrun)

theorem queueCalls_rememberHighest (s : TCPReno) : QueueCalls s s.rememberHighest := by
  rw [rememberHighest]
  split
  · exact .same rfl rfl rfl
  · exact .refl

variable {effectiveMaxBytesSend bytesToSend left : ULong}

theorem queueCalls_sendWhole {fuel : Nat}
    (hrun : sendWhole effectiveMaxBytesSend fuel bytesToSend s = .ok (left, s')) : QueueCalls s s' := by
  induction fuel generalizing bytesToSend s with
  | zero => cases hrun
  | succ fuel ih =>
    rw [sendWhole] at hrun
    split at hrun
    · obtain ⟨s₁, hsegment, hrun⟩ := bind_ok.mp hrun
      exact (ReflTransGen.single (.sendSegment hsegment)).trans (ih hrun)
    · cases hrun
      exact .refl

theorem queueCalls_sendBytes
    (hrun : s.sendBytes bytesToSend effectiveMaxBytesSend = .ok (left, s')) : QueueCalls s s' := by
  obtain hsegment | ⟨-, hwhole⟩ := sendBytes_ok hrun
  · exact .single (.sendSegment hsegment)
  · exact queueCalls_sendWhole hwhole

theorem queueCalls_sendData
    (hrun : s.sendData fullSegmentsOnly congestionWindow = .ok s') : QueueCalls s s' := by
  obtain ⟨s₀, hs₀, hsent⟩ := sendData_ok hrun
  have hnext : QueueCalls s s₀ := by
    rw [hs₀]
    split
    · exact .refl
    · exact .same rfl rfl rfl
  obtain rfl | ⟨bytesToSend, left, s₁, s₂, hbytes, hlast, rfl⟩ := hsent
  · exact hnext
  · have hsent := hnext.trans (queueCalls_sendBytes hbytes)
    obtain rfl | hsegment := sendLast_ok hlast
    · exact hsent.trans (queueCalls_rememberHighest s₂)
    · exact (hsent.tail (.sendSegment hsegment)).trans (queueCalls_rememberHighest s₂)

theorem queueCalls_sendProbe (hrun : s.sendProbe = .ok s') : QueueCalls s s' := by
  obtain rfl | ⟨s₁, hsegment, rfl⟩ := sendProbe_ok hrun
  · exact .same rfl rfl rfl
  · exact (queueCalls_sendSegment _ hsegment).tail (.other rfl rfl rfl)

theorem queueCalls_sendOneNewSegment
    (hrun : s.sendOneNewSegment fullSegmentsOnly congestionWindow = .ok s') : QueueCalls s s' := by
  obtain rfl | ⟨bytes, s₁, -, hsegment, rfl⟩ := sendOneNewSegment_ok hrun
  · exact .refl
  · have hsent := (queueCalls_sendSegment _ hsegment).trans (queueCalls_rememberHighest s₁)
    split
    · exact hsent.tail (.other rfl rfl rfl)
    · exact hsent

theorem queueCalls_retransmitOneSegment {calledAtRto : Bool} (hrun : s.retransmitOneSegment calledAtRto = .ok s') :
    QueueCalls s s' := by
  obtain ⟨-, rfl⟩ | ⟨bytes, s₁, hsegment, rfl⟩ := retransmitOneSegment_ok hrun
  · exact .same rfl rfl rfl
  · have hsent := queueCalls_sendSegment _ hsegment
    have hrxt (t : TCPReno) : QueueCalls t t.updateHighRxt := by
      rw [updateHighRxt]
      split
      · exact .same rfl rfl rfl
      · exact .refl
    apply ReflTransGen.trans _ (hrxt _)
    split
    · exact hsent.tail (.other rfl rfl rfl)
    · exact hsent

theorem queueCalls_recoverySegment {conn : TCPConnection} {seqNum : SeqNo}
    (hnext : s.toTCPConnection.nextSeg = .ok (conn, some seqNum))
    (hrun : (s.setConnection conn).sendSegmentDuringLossRecoveryPhase seqNum = .ok s') : QueueCalls s s' := by
  rw [nextSeg_fst hnext, sendSegmentDuringLossRecoveryPhase] at hrun
  obtain ⟨-, hrun⟩ := ensure_bind_ok.mp hrun
  obtain ⟨s₁, hsegment, hrun⟩ := bind_ok.mp hrun
  obtain ⟨-, hrun⟩ := ensure_bind_ok.mp hrun
  cases hrun
  have hstart : QueueCalls s (s.setConnection s.toTCPConnection.setHighRxt) := .same rfl rfl rfl
  have hsent := hstart.trans (queueCalls_sendSegment seqNum hsegment)
  refine hsent.trans (QueueCalls.same ?_ ?_ ?_)
  all_goals
    split
    · split <;> rfl
    · split <;> rfl

theorem queueCalls_acknowledge {seg : AckSegment} (hrun : s.acknowledge seg = .ok s') : QueueCalls s s' := by
  rw [acknowledge] at hrun
  obtain ⟨s₁, hdiscard, hrun⟩ := bind_ok.mp hrun
  cases hrun
  have hadvanced : QueueCalls s { s with
      state := { s.state with
        sndUna := seg.ackNo
        sndNxt := if seqLess s.state.sndNxt seg.ackNo then seg.ackNo else s.state.sndNxt
        finAckRcvd := s.state.finAckRcvd || decide (s.AcksFin seg) } } := .same rfl rfl rfl
  refine (hadvanced.tail (.discardAcked hdiscard)).trans ?_
  have halike := alike_updateWndInfo s₁ seg
  exact QueueCalls.same halike.sendQueue halike.rexmitQueue halike.sackEnabled

theorem queueCalls_rexmitTimer (s : TCPReno) : QueueCalls s s.forgetSacks.startSlowStart := by
  have hforget : QueueCalls s s.forgetSacks := by
    rw [forgetSacks]
    split
    · have hreset : QueueCalls s (s.setRexmitQueue s.rexmitQueue.resetSackedBit.resetRexmittedBit) := .single .resetBits
      refine hreset.tail (.other rfl rfl ?_)
      split <;> rfl
    · exact .refl
  exact hforget.tail (.other rfl rfl rfl)

theorem queueCalls_process_CLOSE (s : TCPReno) : QueueCalls s s.process_CLOSE := by
  rw [process_CLOSE]
  split
  · exact .same rfl rfl rfl
  · exact .same rfl rfl rfl

/-- Nothing else is done to the queues. -/
theorem Call.queueCalls (hcall : Call s s') : QueueCalls s s' := by
  cases hcall with
  | own h => exact .same h.sendQueue h.rexmitQueue h.sackEnabled
  | sendData hrun => exact queueCalls_sendData hrun
  | sendProbe hrun => exact queueCalls_sendProbe hrun
  | sendOneNewSegment hrun => exact queueCalls_sendOneNewSegment hrun
  | retransmitOneSegment hrun => exact queueCalls_retransmitOneSegment hrun
  | recoverySegment hnext hrun => exact queueCalls_recoverySegment hnext hrun
  | rexmitTimer => exact queueCalls_rexmitTimer s
  | processSACKOption hrun => exact .single (.processSACKOption hrun)
  | acknowledge _ _ hrun => exact queueCalls_acknowledge hrun
  | enqueueAppData _ hroom hrun => exact .single (.enqueueAppData hroom hrun)
  | close _ => exact queueCalls_process_CLOSE s

end Queues

section Reno

variable {s s' s'' : TCPReno} {seg : AckSegment} {idle : Bool}

theorem AckCall.call {Meets : TCPReno → SeqNo → Prop} (hcall : AckCall Meets s s') : Call s s' := by
  cases hcall with
  | own h => exact .own h
  | sendData hrun => exact .sendData hrun
  | sendOneNewSegment _ hrun => exact .sendOneNewSegment hrun
  | retransmitOneSegment _ hrun => exact .retransmitOneSegment hrun
  | recoverySegment _ hnext hrun => exact .recoverySegment hnext hrun
  | processSACKOption hrun => exact .processSACKOption hrun
  | acknowledge hnew hsent hrun => exact .acknowledge hnew hsent hrun
  | enqueueAppData hopen hroom hrun => exact .enqueueAppData hopen hroom hrun

theorem AckCalls.calls (h : AckCalls s s') : Calls s s' := by
  induction h with
  | refl => exact .refl
  | tail _ hcall ih => exact ih.tail hcall.call

theorem Own.calls (h : Own s s') : AckCalls s s' := .single (.own h)

theorem own_setSndCwnd (s : TCPReno) (sndCwnd : SeqNo) : Own s (s.setSndCwnd sndCwnd) := ⟨alike_setSndCwnd s _, rfl⟩

theorem own_setDupacks (s : TCPReno) (dupacks : SeqNo) : Own s (s.setDupacks dupacks) := ⟨alike_setDupacks s _, rfl⟩

theorem own_updateWndInfo (s : TCPReno) (seg : AckSegment) : Own s (s.updateWndInfo seg) := by
  refine ⟨alike_updateWndInfo s seg, ?_⟩
  rw [updateWndInfo]
  split
  · rfl
  · rfl

theorem own_setHighRxt (s : TCPReno) : Own s (s.setConnection s.toTCPConnection.setHighRxt) := ⟨alike_setHighRxt s, rfl⟩

theorem own_setPipe {conn : TCPConnection} (hpipe : s.toTCPConnection.setPipe = .ok conn) :
    Own s (s.setConnection conn) := by
  obtain ⟨pipe, rfl⟩ := setPipe_alike hpipe
  exact ⟨⟨rfl, rfl, rfl, rfl, rfl, rfl, rfl, rfl, rfl, rfl, rfl⟩, rfl⟩

theorem own_addToPipe (s : TCPReno) : Own s s.addToPipe :=
  ⟨⟨rfl, rfl, rfl, rfl, rfl, rfl, rfl, rfl, rfl, rfl, rfl⟩, rfl⟩

theorem own_endRecovery (s : TCPReno) : Own s s.endRecovery :=
  ⟨⟨rfl, rfl, rfl, rfl, rfl, rfl, rfl, rfl, rfl, rfl, rfl⟩, rfl⟩

theorem own_enterRecovery (s : TCPReno) : Own s s.enterRecovery := by
  refine ⟨alike_enterRecovery s, ?_⟩
  rw [enterRecovery]
  split
  · rfl
  · rfl

theorem own_growWindow (hrun : s.growWindow = .ok s') : Own s s' := by
  refine ⟨alike_growWindow hrun, ?_⟩
  rw [growWindow] at hrun
  split at hrun
  · cases hrun
    rfl
  · split at hrun
    · cases hrun
      rfl
    · split at hrun
      · cases hrun
      · cases hrun
        rfl

theorem ackCalls_recoverFrom {fuel : Nat}
    (hrun : recoverFrom congestionWindow fuel s = .ok s') : AckCalls s s' := by
  induction fuel generalizing s with
  | zero => cases hrun
  | succ fuel ih =>
    rw [recoverFrom] at hrun
    split at hrun
    · obtain ⟨⟨conn, o⟩, hnext, hrun⟩ := bind_ok.mp hrun
      cases o with
      | none =>
        cases hrun
        rw [nextSeg_fst hnext]
        exact (own_setHighRxt s).calls
      | some seqNum =>
        obtain ⟨s₁, hsegment, hrun⟩ := bind_ok.mp hrun
        have hsent : AckCalls s s₁ := .single (.recoverySegment trivial hnext hsegment)
        exact (hsent.tail (.own (own_addToPipe s₁))).trans (ih hrun)
    · cases hrun
      exact .refl

theorem ackCalls_setPipeAndSend (hrun : s.setPipeAndSend = .ok s') : AckCalls s s' := by
  rw [setPipeAndSend] at hrun
  obtain ⟨conn, hpipe, hrun⟩ := bind_ok.mp hrun
  have hown := (own_setPipe hpipe).calls
  split at hrun
  · rw [sendDataDuringLossRecoveryPhase] at hrun
    obtain ⟨-, hrun⟩ := ensure_bind_ok.mp hrun
    exact hown.trans (ackCalls_recoverFrom hrun)
  · cases hrun
    exact hown

theorem ackCalls_sendPending {sendCommandInvoked : Bool} (hrun : s.sendPending sendCommandInvoked idle = .ok s') :
    AckCalls s s' := by
  rw [sendPending] at hrun
  split at hrun
  · exact (own_setSndCwnd s _).calls.tail (.sendData hrun)
  · exact .single (.sendData hrun)

theorem ackCalls_continueRecovery (hrun : s.continueRecovery = .ok s') : AckCalls s s' := by
  rw [continueRecovery] at hrun
  split at hrun
  · split at hrun
    · cases hrun
      exact (own_endRecovery s).calls
    · exact ackCalls_setPipeAndSend hrun
  · cases hrun
    exact .refl

theorem ackCalls_receivedDataAck (hrun : s.receivedDataAck idle = .ok s') : AckCalls s s' := by
  rw [receivedDataAck] at hrun
  obtain ⟨s₁, hgrow, hrun⟩ := bind_ok.mp hrun
  obtain ⟨s₂, hcontinue, hrun⟩ := bind_ok.mp hrun
  exact ((own_growWindow hgrow).calls.trans (ackCalls_continueRecovery hcontinue)).trans (ackCalls_sendPending hrun)

theorem ackCalls_limitedTransmit (hrun : s.limitedTransmit = .ok s') : AckCalls s s' := by
  rw [limitedTransmit] at hrun
  split at hrun
  · exact .single (.sendOneNewSegment (fun _ => trivial) hrun)
  · cases hrun
    exact .refl

theorem dupacks_sendOneNewSegment
    (hrun : s.sendOneNewSegment fullSegmentsOnly congestionWindow = .ok s') : s'.state.dupacks = s.state.dupacks := by
  obtain rfl | ⟨bytes, s₁, -, hsegment, rfl⟩ := sendOneNewSegment_ok hrun
  · rfl
  · obtain ⟨forward, sentBytes, q, hsegment⟩ := sendSegment_run hsegment
    have hremember : s₁.rememberHighest.state.dupacks = s.state.dupacks := by
      rw [rememberHighest, hsegment.result]
      split
      · rfl
      · rfl
    split
    · exact hremember
    · exact hremember

/-- The third duplicate acknowledgement finds the state as it was. -/
theorem limitedTransmit_third (hlimited : s.limitedTransmit = .ok s') (hthird : s'.state.dupacks = DUPTHRESH) : s' = s := by
  rw [limitedTransmit] at hlimited
  split at hlimited
  · next hfew =>
    rw [← dupacks_sendOneNewSegment hlimited, hthird] at hfew
    exact absurd hfew.1 (by decide)
  · cases hlimited
    rfl

theorem ackCalls_fastRetransmit (hout : s.state.sndUna ≠ s.state.sndMax) (hrun : s.fastRetransmit = .ok s') :
    AckCalls s s' := by
  rw [fastRetransmit] at hrun
  have henter := own_enterRecovery s
  have hthreshold : Own s.enterRecovery s.enterRecovery.recalculateSlowStartThreshold :=
    ⟨alike_recalculateSlowStartThreshold _, rfl⟩
  have hown := henter.calls.tail (.own hthreshold)
  refine (hown.tail (.own (own_setSndCwnd _ _))).tail (.retransmitOneSegment ?_ hrun)
  change s.enterRecovery.state.sndUna ≠ s.enterRecovery.state.sndMax
  rw [henter.sndUna, henter.sndMax]
  exact hout

theorem ackCalls_receivedDuplicateAck (hout : s.state.sndUna ≠ s.state.sndMax)
    (hrun : s.receivedDuplicateAck idle = .ok s') : AckCalls s s' := by
  rw [receivedDuplicateAck] at hrun
  obtain ⟨s₁, hlimited, hrun⟩ := bind_ok.mp hrun
  have hcalls := ackCalls_limitedTransmit hlimited
  split at hrun
  · next hthird =>
    have hsame := limitedTransmit_third hlimited hthird
    obtain ⟨s₂, hretransmit, hrun⟩ := bind_ok.mp hrun
    rw [hsame] at hretransmit
    have hcalls₂ := ackCalls_fastRetransmit hout hretransmit
    split at hrun
    · obtain ⟨s₃, hpipe, hrun⟩ := bind_ok.mp hrun
      exact (hcalls₂.trans (ackCalls_setPipeAndSend hpipe)).trans (ackCalls_sendPending hrun)
    · exact hcalls₂.trans (ackCalls_sendPending hrun)
  · split at hrun
    · exact (hcalls.tail (.own (own_setSndCwnd s₁ _))).trans (ackCalls_sendPending hrun)
    · cases hrun
      exact hcalls

/-- A duplicate is counted while something is outstanding. -/
theorem ackCalls_countDuplicate (hduplicate : s.IsDuplicateAck seg) :
    AckCalls s (s.countDuplicate seg) ∧ (s.countDuplicate seg).state.sndUna ≠ (s.countDuplicate seg).state.sndMax := by
  have hwnd := own_updateWndInfo (s.setDupacks (s.state.dupacks + 1)) seg
  refine ⟨(own_setDupacks s _).calls.tail (.own hwnd), ?_⟩
  rw [countDuplicate, hwnd.sndUna, hwnd.sndMax]
  exact hduplicate.2.2

theorem ackCalls_processAck (hrun : s.processAck seg idle = .ok s') : AckCalls s s' := by
  rw [processAck] at hrun
  split at hrun
  · split at hrun
    · next hduplicate =>
      obtain ⟨hcalls, hout⟩ := ackCalls_countDuplicate hduplicate
      exact hcalls.trans (ackCalls_receivedDuplicateAck hout hrun)
    · cases hrun
      exact (own_setDupacks s 0).calls
  · next hnew =>
    split at hrun
    · next hsent =>
      obtain ⟨s₁, hacknowledge, hrun⟩ := bind_ok.mp hrun
      have hcalls : AckCalls s s₁ := .single (.acknowledge hnew hsent hacknowledge)
      split at hrun
      · obtain ⟨s₂, hack, hrun⟩ := bind_ok.mp hrun
        cases hrun
        exact (hcalls.trans (ackCalls_receivedDataAck hack)).tail (.own (own_setDupacks s₂ 0))
      · cases hrun
        exact hcalls
    · cases hrun
      exact (own_setDupacks s 0).calls

theorem calls_processRexmitTimer (hrun : s.processRexmitTimer = .ok s') : Calls s s' := by
  rw [processRexmitTimer] at hrun
  have hown : Own s.forgetSacks.startSlowStart
      (s.forgetSacks.recalculateSlowStartThreshold.setSndCwnd
        s.forgetSacks.recalculateSlowStartThreshold.state.sndMss).startSlowStart :=
    ⟨⟨rfl, rfl, rfl, rfl, rfl, rfl, rfl, rfl, rfl, rfl, rfl⟩, rfl⟩
  exact ((ReflTransGen.single .rexmitTimer).tail (.own hown)).tail (.retransmitOneSegment hrun)

/-- The application does not send after closing, and fills less than half of the sequence space, with
the FIN. -/
def Fills (s : TCPReno) : Event → Prop
  | .send byteLength _ => s.state.sendFin = false ∧ s.buffered + byteLength.toNat < 2 ^ 31
  | .close => s.buffered + 1 < 2 ^ 31
  | .established _ | .segment _ _ | .rexmitTimer | .persistTimer => True

theorem ackCalls_receivedSegment (hrun : s.receivedSegment seg idle = .ok s') : AckCalls s s' := by
  obtain ⟨s₁, hsack, hrun⟩ := bind_ok.mp hrun
  exact (ReflTransGen.single (.processSACKOption hsack)).trans (ackCalls_processAck hrun)

theorem ackCalls_process_SEND {byteLength : SeqNo} (hopen : s.state.sendFin = false)
    (hroom : s.buffered + byteLength.toNat < 2 ^ 31) (hrun : s.process_SEND byteLength idle = .ok s') : AckCalls s s' := by
  obtain ⟨s₁, henqueue, hrun⟩ := bind_ok.mp hrun
  exact (ReflTransGen.single (.enqueueAppData hopen hroom henqueue)).trans (ackCalls_sendPending hrun)

theorem calls_step {event : Event} (hfills : Fills s event) (hrun : s.step event = .ok s') : Calls s s' := by
  cases event with
  | established idle => exact (ackCalls_sendPending hrun).calls
  | send byteLength idle => exact (ackCalls_process_SEND hfills.1 hfills.2 hrun).calls
  | close =>
    cases hrun
    exact .single (.close hfills)
  | segment seg idle => exact (ackCalls_receivedSegment hrun).calls
  | rexmitTimer => exact calls_processRexmitTimer hrun
  | persistTimer => exact .single (.sendProbe hrun)

/-- What Reno reaches is reached by the calls. -/
theorem Reached.calls (h : Reached Fills s) : ∃ opened : TCPReno, opened.Initial ∧ Calls opened s := by
  induction h with
  | start hs => exact ⟨_, hs, .refl⟩
  | step _ hfills hstep ih =>
    obtain ⟨opened, hopened, hcalls⟩ := ih
    exact ⟨opened, hopened, hcalls.trans (calls_step hfills hstep)⟩

theorem Calls.queueCalls (h : Calls s s') : QueueCalls s s' := by
  induction h with
  | refl => exact .refl
  | tail _ hcall ih => exact ih.trans hcall.queueCalls

theorem Initial.queuesOpened (h : s.Initial) : s.QueuesOpened := by
  refine ⟨?_, h.buffered⟩
  rw [h.rexmitQueue, h.bufferStartSeq]

theorem Reached.queued (h : Reached Fills s) : s.Queued := by
  obtain ⟨opened, hopened, hcalls⟩ := h.calls
  exact ⟨opened, hopened.queuesOpened, hcalls.queueCalls⟩

end Reno

end TCPReno

end Inet.Tcp
