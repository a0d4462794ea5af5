import Inetmanet.Tcp.SendingSteps

/-!
# The calls on the queues of a sender

Whatever the algorithm of a connection is, what it does to the send queue and to the
retransmission queue is one of a few calls. They keep the queues together: both begin
at the same sequence number, and only what is in the send queue is in the other one.
-/
namespace Inet.Tcp

open TCPSACKRexmitQueue

namespace TCPReno

/-- How far a sequence number lies beyond the begin of the send queue. -/
def offset (s : TCPReno) (seqNum : SeqNo) : Nat := (seqNum - s.sendQueue.bufferStartSeq).toNat

/-- How many octets are in the send queue. -/
def buffered (s : TCPReno) : Nat := s.offset s.sendQueue.bufferEndSeq

/-- A call on the queues, or a step that leaves them alone. -/
inductive QueueCall : TCPReno → TCPReno → Prop where
  | other {s s' : TCPReno} (hsend : s'.sendQueue = s.sendQueue) (hrexmit : s'.rexmitQueue = s.rexmitQueue)
      (hsack : s'.state.sackEnabled = s.state.sackEnabled) : QueueCall s s'
  | sendSegment {s s' : TCPReno} {bytes : SeqNo} (hrun : s.sendSegment bytes = .ok s') : QueueCall s s'
  | processSACKOption {s s' : TCPReno} {seg : AckSegment} (hrun : s.processSACKOption seg = .ok s') : QueueCall s s'
  | discardAcked {s s' : TCPReno} {seqNum : SeqNo} (hrun : s.discardAcked seqNum = .ok s') : QueueCall s s'
  | resetBits {s : TCPReno} : QueueCall s (s.setRexmitQueue s.rexmitQueue.resetSackedBit.resetRexmittedBit)
  /-- The application fills less than half of the sequence space. -/
  | enqueueAppData {s s' : TCPReno} {byteLength : SeqNo} (hroom : s.buffered + byteLength.toNat < 2 ^ 31)
      (hrun : s.enqueueAppData byteLength = .ok s') : QueueCall s s'

abbrev QueueCalls : TCPReno → TCPReno → Prop := Relation.ReflTransGen QueueCall

/-- The queues as `initConnection` leaves them, with what the application has sent since. -/
structure QueuesOpened (s : TCPReno) : Prop where
  rexmitQueue : s.rexmitQueue = .init s.sendQueue.bufferStartSeq
  buffered : s.buffered < 2 ^ 31

/-- The states of all connections, as far as the queues go. -/
def Queued (s : TCPReno) : Prop := ∃ opened : TCPReno, opened.QueuesOpened ∧ QueueCalls opened s

/-- What a call of `sendSegment` that goes through has done. -/
structure SegmentRun (s s' : TCPReno) (bytes forward sentBytes : SeqNo) (q : TCPSACKRexmitQueue) : Prop where
  result : s' = ((s.setSndNxt (s.state.sndNxt + forward)).setRexmitQueue q).segmentSent sentBytes
  size : sentBytes = (s.setSndNxt (s.state.sndNxt + forward)).segmentBytes bytes
  forwarded : s.state.sackEnabled = true → s.state.afterRto = true →
    s.rexmitQueue.checkRexmitQueueForSackedOrRexmittedSegments s.state.sndNxt = .ok forward
  unforwarded : s.state.sackEnabled = false ∨ s.state.afterRto = false → forward = 0
  optionsLen : s.optionsLen s.sent.length < s.state.sndMss
  start : seqLE s.sendQueue.bufferStartSeq (s.state.sndNxt + forward)
  end_ : seqLE (s.state.sndNxt + forward + sentBytes) s.sendQueue.bufferEndSeq
  enqueued : s.state.sackEnabled = true →
    s.rexmitQueue.enqueueSentData (s.state.sndNxt + forward) (s.state.sndNxt + forward + sentBytes) = .ok q
  unqueued : s.state.sackEnabled = false → q = s.rexmitQueue

section Segment

variable {s s' : TCPReno} {bytes forward sentBytes : SeqNo} {q : TCPSACKRexmitQueue}

theorem sendSegment_run (hrun : s.sendSegment bytes = .ok s') :
    ∃ forward sentBytes q, SegmentRun s s' bytes forward sentBytes q := by
  rw [TCPReno.sendSegment] at hrun
  obtain ⟨s₁, hforward, hrun⟩ := bind_ok.mp hrun
  have hforwarded : ∃ forward, s₁ = s.setSndNxt (s.state.sndNxt + forward) ∧
      (s.state.sackEnabled = true → s.state.afterRto = true →
        s.rexmitQueue.checkRexmitQueueForSackedOrRexmittedSegments s.state.sndNxt = .ok forward) ∧
      (s.state.sackEnabled = false ∨ s.state.afterRto = false → forward = 0) := by
    rw [forwardSndNxt] at hforward
    split at hforward
    · next hafter =>
      obtain ⟨forward, hcheck, hforward⟩ := bind_ok.mp hforward
      cases hforward
      refine ⟨forward, rfl, fun _ _ => hcheck, fun hno => ?_⟩
      rw [hafter.1, hafter.2] at hno
      cases hno <;> contradiction
    · next hafter =>
      cases hforward
      refine ⟨0, ?_, fun h₁ h₂ => absurd ⟨h₁, h₂⟩ hafter, fun _ => rfl⟩
      change s = s.setSndNxt (s.state.sndNxt + 0#32)
      rw [BitVec.add_zero]
      rfl
  obtain ⟨forward, rfl, hforwarded, hunforwarded⟩ := hforwarded
  obtain ⟨hoptions, hrun⟩ := ensure_bind_ok.mp hrun
  obtain ⟨⟨hstart, hend⟩, hrun⟩ := ensure_bind_ok.mp hrun
  obtain ⟨s₂, henqueue, hrun⟩ := bind_ok.mp hrun
  cases hrun
  rw [enqueueSegment] at henqueue
  split at henqueue
  · next hsack =>
    obtain ⟨q, hqueue, henqueue⟩ := bind_ok.mp henqueue
    cases henqueue
    exact ⟨forward, _, q, rfl, rfl, hforwarded, hunforwarded, hoptions, hstart, hend, fun _ => hqueue,
      fun hno => absurd (hsack.symm.trans hno) (by decide)⟩
  · next hsack =>
    cases henqueue
    exact ⟨forward, _, s.rexmitQueue, rfl, rfl, hforwarded, hunforwarded, hoptions, hstart, hend,
      fun hyes => absurd hyes hsack, fun _ => rfl⟩

theorem getBytesAvailable_of_le (hbuffered : s.buffered < 2 ^ 31) {fromSeq : SeqNo} (hle : s.offset fromSeq ≤ s.buffered) :
    (s.sendQueue.getBytesAvailable fromSeq).toNat = s.buffered - s.offset fromSeq := by
  have hless := seqLess_offset s.sendQueue.bufferStartSeq (Nat.lt_of_le_of_lt hle hbuffered) hbuffered
  rw [TCPSendQueue.getBytesAvailable]
  split
  · rw [BitVec.toNat_setWidth, toNat_sub_offset s.sendQueue.bufferStartSeq]
    change (if s.offset fromSeq ≤ s.buffered then s.buffered - s.offset fromSeq else _) % 2 ^ 64 = _
    rw [if_pos hle, Nat.mod_eq_of_lt (by omega)]
  · next hnot =>
    rw [hless] at hnot
    change ¬ s.offset fromSeq < s.buffered at hnot
    change 0 = _
    omega

/-- The octets that are sent are in the send queue. -/
theorem SegmentRun.within (h : SegmentRun s s' bytes forward sentBytes q) (hbuffered : s.buffered < 2 ^ 31) :
    s.offset (s.state.sndNxt + forward) ≤ s.buffered ∧
      s.offset (s.state.sndNxt + forward + sentBytes) = s.offset (s.state.sndNxt + forward) + sentBytes.toNat ∧
      s.offset (s.state.sndNxt + forward + sentBytes) ≤ s.buffered := by
  have hstart : s.offset (s.state.sndNxt + forward) < 2 ^ 31 := h.start
  have hend := h.end_
  have hbytes := segmentBytes_le (s := s.setSndNxt (s.state.sndNxt + forward)) h.optionsLen bytes
  rw [← h.size] at hbytes
  change sentBytes.toNat ≤ (s.sendQueue.getBytesAvailable (s.state.sndNxt + forward)).toNat at hbytes
  have hle : s.offset (s.state.sndNxt + forward) ≤ s.buffered := by
    by_contra hbeyond
    have hnone : s.sendQueue.getBytesAvailable (s.state.sndNxt + forward) = 0 := by
      rw [TCPSendQueue.getBytesAvailable, if_neg]
      rw [seqLess_offset s.sendQueue.bufferStartSeq hstart hbuffered]
      change ¬ s.offset _ < s.buffered
      omega
    rw [hnone] at hbytes
    have hzero : sentBytes = 0#32 := BitVec.eq_of_toNat_eq (Nat.le_zero.mp hbytes)
    rw [hzero, BitVec.add_zero, seqLE_offset s.sendQueue.bufferStartSeq hstart hbuffered] at hend
    exact hbeyond hend
  have havailable := getBytesAvailable_of_le hbuffered hle
  have hsum : s.offset (s.state.sndNxt + forward + sentBytes) =
      s.offset (s.state.sndNxt + forward) + sentBytes.toNat := by
    rw [offset, offset_add, Nat.mod_eq_of_lt]
    · rfl
    · change s.offset (s.state.sndNxt + forward) + sentBytes.toNat < 2 ^ 32
      omega
  omega

end Segment

/-- Both queues begin at the same sequence number. -/
structure Together (s : TCPReno) : Prop where
  queue : s.rexmitQueue.Short
  beginNo : s.rexmitQueue.beginNo = s.sendQueue.bufferStartSeq
  length : s.rexmitQueue.octets.length ≤ s.buffered
  buffered : s.buffered < 2 ^ 31

section Together

variable {s s' : TCPReno} {bytes seqNum byteLength : SeqNo} {seg : AckSegment}

theorem Together.position (h : s.Together) (seqNum : SeqNo) : s.rexmitQueue.position seqNum = s.offset seqNum := by
  rw [TCPSACKRexmitQueue.position, h.beginNo]
  rfl

theorem QueuesOpened.together (h : s.QueuesOpened) : s.Together := by
  obtain ⟨hqueue, hbuffered⟩ := h
  refine ⟨?_, ?_, ?_, hbuffered⟩
  · rw [hqueue]
    exact ⟨rfl, Nat.two_pow_pos 31⟩
  · rw [hqueue]
    rfl
  · rw [hqueue]
    exact Nat.zero_le _

section

variable (h : s.Together)
include h

theorem Together.of_same (hsend : s'.sendQueue = s.sendQueue) (hrexmit : s'.rexmitQueue = s.rexmitQueue) :
    s'.Together := by
  have hbuffered : s'.buffered = s.buffered := by rw [TCPReno.buffered, TCPReno.buffered, offset, offset, hsend]
  refine ⟨?_, ?_, ?_, ?_⟩
  · rw [hrexmit]
    exact h.queue
  · rw [hrexmit, hsend]
    exact h.beginNo
  · rw [hrexmit, hbuffered]
    exact h.length
  · rw [hbuffered]
    exact h.buffered

/-- The retransmission queue changes within the octets of the send queue. -/
theorem Together.setRexmitQueue {q : TCPSACKRexmitQueue} (hq : q.Short)
    (hbegin : q.beginNo = s.rexmitQueue.beginNo) (hlength : q.octets.length ≤ s.buffered) : (s.setRexmitQueue q).Together :=
  ⟨hq, hbegin.trans h.beginNo, hlength, h.buffered⟩

theorem Together.sendSegment (hsack : s.state.sackEnabled = true)
    (hrun : s.sendSegment bytes = .ok s') : s'.Together := by
  obtain ⟨forward, sentBytes, q, hsegment⟩ := sendSegment_run hrun
  obtain ⟨-, -, hwithin⟩ := hsegment.within h.buffered
  rw [← h.position] at hwithin
  obtain ⟨hq, hbegin, -, -, hoctets⟩ := h.queue.enqueueSentData (hsegment.enqueued hsack)
    (Nat.lt_of_le_of_lt hwithin h.buffered)
  rw [hsegment.result]
  refine (h.setRexmitQueue hq hbegin ?_).of_same rfl rfl
  rw [hoctets, List.length_append, RunLength.length_onRange, List.length_replicate]
  have hlength := h.length
  omega

theorem Together.sackBlock {ackNo : SeqNo} {tmp : Sack} (hrun : sackBlock ackNo s tmp = .ok s') :
    s'.Together := by
  rw [TCPReno.sackBlock] at hrun
  split at hrun
  · obtain ⟨q, hsacked, hrun⟩ := bind_ok.mp hrun
    obtain ⟨q', hok, hq, hbegin, -, hoctets⟩ := h.queue.setSackedBit (Sackable.of_ok hsacked)
    rw [hsacked] at hok
    cases hok
    cases hrun
    refine h.setRexmitQueue hq hbegin ?_
    rw [hoctets, RunLength.length_onRange]
    exact h.length
  · cases hrun
    exact h

theorem Together.sackBlocks {ackNo : SeqNo} {sacks : List Sack}
    (hrun : sacks.foldlM (TCPReno.sackBlock ackNo) s = .ok s') : s'.Together := by
  have hstep : ∀ s tmp, s.Together → Ensures (TCPReno.sackBlock ackNo s tmp) Together :=
    fun _ _ h _ hblock => h.sackBlock hblock
  exact Ensures.foldlM_invariant hstep h s' hrun

theorem Together.processSACKOption (hrun : s.processSACKOption seg = .ok s') : s'.Together := by
  obtain rfl | ⟨-, s₁, hblocks, rfl⟩ := processSACKOption_ok hrun
  · exact h
  · exact (h.sackBlocks hblocks).of_same rfl rfl

theorem Together.discardAcked (hsack : s.state.sackEnabled = true)
    (hrun : s.discardAcked seqNum = .ok s') : s'.Together := by
  obtain ⟨q, rfl, hqueue, -⟩ := discardAcked_ok hrun
  obtain ⟨hq, hbegin, hle, hoctets⟩ := h.queue.discardUpTo (hqueue hsack)
  have hlength := h.length
  have hbuffered := h.buffered
  rw [h.position] at hle hoctets
  have hrest : (s.sendQueue.bufferEndSeq - seqNum).toNat = s.buffered - s.offset seqNum := by
    rw [toNat_sub_offset s.sendQueue.bufferStartSeq]
    exact if_pos (Nat.le_trans hle hlength)
  refine ⟨hq, hbegin, ?_, ?_⟩
  · change q.octets.length ≤ (s.sendQueue.bufferEndSeq - seqNum).toNat
    rw [hrest, hoctets, List.length_drop]
    omega
  · change (s.sendQueue.bufferEndSeq - seqNum).toNat < 2 ^ 31
    omega

theorem Together.resetBits :
    (s.setRexmitQueue s.rexmitQueue.resetSackedBit.resetRexmittedBit).Together := by
  obtain ⟨hq, hbegin, hlength⟩ := h.queue.resetBits
  exact h.setRexmitQueue hq hbegin (Nat.le_trans (Nat.le_of_eq hlength) h.length)

end

/-- Where the send queue ends once there is more in it. -/
theorem offset_grown (hroom : s.buffered + byteLength.toNat < 2 ^ 31) :
    s.offset (s.sendQueue.bufferEndSeq + byteLength) = s.buffered + byteLength.toNat := by
  rw [offset, offset_add, Nat.mod_eq_of_lt]
  · rfl
  · exact Nat.lt_trans hroom (by decide)

theorem Together.enqueueAppData (h : s.Together) (hroom : s.buffered + byteLength.toNat < 2 ^ 31)
    (hrun : s.enqueueAppData byteLength = .ok s') : s'.Together := by
  obtain rfl := enqueueAppData_ok hrun
  have hbuffered := offset_grown hroom
  refine ⟨h.queue, h.beginNo, ?_, ?_⟩
  · change s.rexmitQueue.octets.length ≤ s.offset (s.sendQueue.bufferEndSeq + byteLength)
    rw [hbuffered]
    exact Nat.le_trans h.length (Nat.le_add_right _ _)
  · change s.offset (s.sendQueue.bufferEndSeq + byteLength) < 2 ^ 31
    rw [hbuffered]
    exact hroom

theorem state_sackBlocks {ackNo : SeqNo} {sacks : List Sack}
    (hrun : sacks.foldlM (TCPReno.sackBlock ackNo) s = .ok s') : s'.state = s.state := by
  have hstep (s₁ : TCPReno) (tmp : Sack) (hstate : s₁.state = s.state) :
      Ensures (TCPReno.sackBlock ackNo s₁ tmp) fun s₂ => s₂.state = s.state := by
    intro s₂ hblock
    rw [TCPReno.sackBlock] at hblock
    split at hblock
    · obtain ⟨q, -, hblock⟩ := bind_ok.mp hblock
      cases hblock
      exact hstate
    · cases hblock
      exact hstate
  exact Ensures.foldlM_invariant hstep rfl s' hrun

theorem state_processSACKOption {seg : AckSegment} (hrun : s.processSACKOption seg = .ok s') : s'.state = s.state := by
  obtain rfl | ⟨-, s₁, hblocks, rfl⟩ := processSACKOption_ok hrun
  · rfl
  · have hstate := state_sackBlocks hblocks
    exact hstate

/-- Whether selective acknowledgements are allowed is settled before there is data. -/
theorem QueueCall.sackEnabled (hcall : QueueCall s s') : s'.state.sackEnabled = s.state.sackEnabled := by
  cases hcall with
  | other _ _ hsack => exact hsack
  | sendSegment hrun =>
    obtain ⟨forward, sentBytes, q, hsegment⟩ := sendSegment_run hrun
    rw [hsegment.result]
    rfl
  | processSACKOption hrun => rw [state_processSACKOption hrun]
  | discardAcked hrun =>
    obtain ⟨q, rfl, -, -⟩ := discardAcked_ok hrun
    rfl
  | resetBits => rfl
  | enqueueAppData _ hrun =>
    rw [enqueueAppData_ok hrun]

/-- Every call keeps the queues together. -/
theorem Together.call (h : s.Together) (hsack : s.state.sackEnabled = true) (hcall : QueueCall s s') : s'.Together := by
  cases hcall with
  | other hsend hrexmit _ => exact h.of_same hsend hrexmit
  | sendSegment hrun => exact h.sendSegment hsack hrun
  | processSACKOption hrun => exact h.processSACKOption hrun
  | discardAcked hrun => exact h.discardAcked hsack hrun
  | resetBits => exact h.resetBits
  | enqueueAppData hroom hrun => exact h.enqueueAppData hroom hrun

/-- The queues of every connection with selective acknowledgements are together. -/
theorem Queued.together (h : s.Queued) (hsack : s.state.sackEnabled = true) : s.Together := by
  obtain ⟨opened, hopened, hcalls⟩ := h
  induction hcalls with
  | refl => exact hopened.together
  | tail _ hcall ih =>
    have hsack' := hcall.sackEnabled.symm.trans hsack
    exact (ih hsack').call hsack' hcall

/-- Without selective acknowledgements nothing is put into the retransmission queue. -/
theorem QueueCall.queue (hcall : QueueCall s s') (hsack : s.state.sackEnabled = false) (h : s.rexmitQueue.Short) :
    s'.rexmitQueue.Short := by
  cases hcall with
  | other _ hrexmit _ =>
    rw [hrexmit]
    exact h
  | sendSegment hrun =>
    obtain ⟨forward, sentBytes, q, hsegment⟩ := sendSegment_run hrun
    rw [hsegment.result, hsegment.unqueued hsack]
    exact h
  | processSACKOption hrun =>
    obtain rfl | ⟨henabled, -⟩ := processSACKOption_ok hrun
    · exact h
    · exact absurd (hsack.symm.trans henabled) (by decide)
  | discardAcked hrun =>
    obtain ⟨q, rfl, -, hqueue⟩ := discardAcked_ok hrun
    rw [hqueue hsack]
    exact h
  | resetBits => exact h.resetBits.1
  | enqueueAppData _ hrun =>
    rw [enqueueAppData_ok hrun]
    exact h

/-- The retransmission queue of every connection passes its check. -/
theorem Queued.queue (h : s.Queued) : s.rexmitQueue.Short := by
  cases hsack : s.state.sackEnabled with
  | true => exact (h.together hsack).queue
  | false =>
    obtain ⟨opened, hopened, hcalls⟩ := h
    induction hcalls with
    | refl => exact hopened.together.queue
    | tail _ hcall ih =>
      have hsack' := hcall.sackEnabled.symm.trans hsack
      exact hcall.queue hsack' (ih hsack')

end Together

end TCPReno

end Inet.Tcp
