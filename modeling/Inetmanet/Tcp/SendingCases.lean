import Inetmanet.Tcp.TCPReno

/-!
# What the functions of the sending half can do

One lemma for each function that goes through: the calls it has made, and the state
that it has left.
-/
namespace Inet.Tcp

namespace TCPReno

variable {s s' : TCPReno}

theorem sendBytes_ok {bytesToSend effectiveMaxBytesSend left : ULong}
    (hrun : s.sendBytes bytesToSend effectiveMaxBytesSend = .ok (left, s')) :
    s.sendSegment (bytesToSend.setWidth 32) = .ok s' ∨
      ¬ bytesToSend ≤ s.state.sndMss.setWidth 64 ∧
        sendWhole effectiveMaxBytesSend loopLimit bytesToSend s = .ok (left, s') := by
  rw [sendBytes] at hrun
  split at hrun
  · obtain ⟨s₁, hsegment, hrun⟩ := bind_ok.mp hrun
    cases hrun
    exact .inl hsegment
  · next hmore => exact .inr ⟨hmore, hrun⟩

theorem sendLast_ok {bytesToSend : ULong} (hrun : s.sendLast bytesToSend = .ok s') :
    s' = s ∨ s.sendSegment (bytesToSend.setWidth 32) = .ok s' := by
  rw [sendLast] at hrun
  split at hrun
  · exact .inr hrun
  · cases hrun
    exact .inl rfl

theorem sendData_ok {fullSegmentsOnly : Bool} {congestionWindow : SeqNo}
    (hrun : s.sendData fullSegmentsOnly congestionWindow = .ok s') :
    ∃ s₀, s₀ = (if s.state.afterRto then s else s.setSndNxt s.state.sndMax) ∧
      (s' = s₀ ∨ ∃ bytesToSend left s₁ s₂,
        s₀.sendBytes bytesToSend ((if s₀.state.tsEnabled then s₀.state.sndMss - TCP_OPTION_TS_SIZE
          else s₀.state.sndMss).setWidth 64) = .ok (left, s₁) ∧
        s₁.sendLast left = .ok s₂ ∧ s' = s₂.rememberHighest) := by
  rw [sendData] at hrun
  refine ⟨_, rfl, ?_⟩
  split at hrun
  · cases hrun
    exact .inl rfl
  · obtain ⟨⟨left, s₁⟩, hbytes, hrun⟩ := bind_ok.mp hrun
    obtain ⟨s₂, hlast, hrun⟩ := bind_ok.mp hrun
    cases hrun
    exact .inr ⟨_, left, s₁, s₂, hbytes, hlast, rfl⟩

theorem sendProbe_ok (hrun : s.sendProbe = .ok s') :
    s' = s.setSndNxt s.state.sndMax ∨
      ∃ s₁, (s.setSndNxt s.state.sndMax).sendSegment 1 = .ok s₁ ∧ s' = s₁.setSndMax s₁.state.sndNxt := by
  rw [sendProbe] at hrun
  split at hrun
  · cases hrun
    exact .inl rfl
  · obtain ⟨s₁, hsegment, hrun⟩ := bind_ok.mp hrun
    cases hrun
    exact .inr ⟨s₁, hsegment, rfl⟩

theorem sendOneNewSegment_ok {fullSegmentsOnly : Bool} {congestionWindow : SeqNo}
    (hrun : s.sendOneNewSegment fullSegmentsOnly congestionWindow = .ok s') :
    s' = s ∨ ∃ bytes s₁, s.limitedBytes fullSegmentsOnly congestionWindow = some bytes ∧
      (s.setSndNxt s.state.sndMax).sendSegment bytes = .ok s₁ ∧
      s' = if s₁.rememberHighest.state.afterRto then
        s₁.rememberHighest.setSndNxt (s.state.sndNxt + s₁.rememberHighest.state.sentBytes) else s₁.rememberHighest := by
  rw [sendOneNewSegment] at hrun
  obtain ⟨-, hrun⟩ := ensure_bind_ok.mp hrun
  split at hrun
  · cases hrun
    exact .inl rfl
  · next bytes hbytes =>
    obtain ⟨s₁, hsegment, hrun⟩ := bind_ok.mp hrun
    cases hrun
    exact .inr ⟨bytes, s₁, hbytes, hsegment, rfl⟩

theorem retransmitOneSegment_ok {calledAtRto : Bool} (hrun : s.retransmitOneSegment calledAtRto = .ok s') :
    ((stdMin ((stdMin s.state.sndMss (s.state.sndMax - s.state.sndUna)).setWidth 64)
        (s.sendQueue.getBytesAvailable s.state.sndUna) = 0 ∧
        s.state.sendFin = true ∧ s.state.sndFinSeq = s.sendQueue.bufferEndSeq) ∧
      s' = (s.setSndNxt s.state.sndUna).sendFinAt s.sendQueue.bufferEndSeq) ∨
    ∃ bytes s₁, (s.setSndNxt s.state.sndUna).sendSegment bytes = .ok s₁ ∧
      s' = (if calledAtRto = false ∧ seqGreater s.state.sndNxt s₁.state.sndNxt then s₁.setSndNxt s.state.sndNxt
        else s₁).updateHighRxt := by
  rw [retransmitOneSegment] at hrun
  split at hrun
  · next hfin =>
    cases hrun
    exact .inl ⟨hfin, rfl⟩
  · obtain ⟨-, hrun⟩ := ensure_bind_ok.mp hrun
    obtain ⟨s₁, hsegment, hrun⟩ := bind_ok.mp hrun
    cases hrun
    exact .inr ⟨_, s₁, hsegment, rfl⟩

theorem sendSegmentDuringLossRecoveryPhase_ok {seqNum : SeqNo}
    (hrun : s.sendSegmentDuringLossRecoveryPhase seqNum = .ok s') :
    ∃ s₁ s₂, (s.setSndNxt seqNum).sendSegment s.state.sndMss = .ok s₁ ∧
      (s₂ = s₁ ∨ s₂ = s₁.setConnection s₁.toTCPConnection.setHighRxt) ∧
      s' = if seqGreater (seqNum + s₁.state.sentBytes) s₂.state.sndMax then s₂.setSndMax (seqNum + s₁.state.sentBytes)
        else s₂ := by
  rw [sendSegmentDuringLossRecoveryPhase] at hrun
  obtain ⟨-, hrun⟩ := ensure_bind_ok.mp hrun
  obtain ⟨s₁, hsegment, hrun⟩ := bind_ok.mp hrun
  obtain ⟨-, hrun⟩ := ensure_bind_ok.mp hrun
  cases hrun
  refine ⟨s₁, _, hsegment, ?_, rfl⟩
  split
  · exact .inr rfl
  · exact .inl rfl

theorem processSACKOption_ok {seg : AckSegment} (hrun : s.processSACKOption seg = .ok s') :
    s' = s ∨ s.state.sackEnabled = true ∧ ∃ s₁, seg.sacks.foldlM (sackBlock seg.ackNo) s = .ok s₁ ∧
      s' = { s₁ with
        sackedBytesOld := s₁.sackedBytes
        sackedBytes := s₁.rexmitQueue.getTotalAmountOfSackedBytes } := by
  rw [processSACKOption] at hrun
  split at hrun
  · next hread =>
    obtain ⟨s₁, hblocks, hrun⟩ := bind_ok.mp hrun
    cases hrun
    exact .inr ⟨hread.2.1, s₁, hblocks, rfl⟩
  · cases hrun
    exact .inl rfl

theorem enqueueAppData_ok {byteLength : SeqNo} (hrun : s.enqueueAppData byteLength = .ok s') :
    s' = { s with
      sendQueue := { s.sendQueue with bufferEndSeq := s.sendQueue.bufferEndSeq + byteLength } } := by
  rw [enqueueAppData] at hrun
  split at hrun
  · cases hrun
  · cases hrun
    rfl

end TCPReno

end Inet.Tcp
