import Inetmanet.Tcp.SenderCalls

/-!
# The estimate in a run of a sender

As long as no FIN has been sent, `setPipe` goes through and counts the octets
wherever `TCPReno` calls it. The FIN takes a sequence number that is not in the
queue, and the assertion of `checkSackBlock` fails there.
-/
namespace Inet.Tcp

open SerialNumber RunLength TCPSACKRexmitQueue Relation

namespace TCPReno

section Sending

variable {s s' : TCPReno}

theorem Kept.forgetSacks (h : s.Kept) : s.forgetSacks.Kept ∧
    s.forgetSacks.rexmitQueue.endNo = s.rexmitQueue.endNo ∧ s.forgetSacks.state.sndMax = s.state.sndMax := by
  obtain ⟨hq, hbegin, hlength⟩ := h.queue.resetBits
  have hends (x : SeqNo) (hx : Ends s.rexmitQueue.rexmitQueue x) :
      Ends s.rexmitQueue.resetSackedBit.resetRexmittedBit.rexmitQueue x :=
    (hx.map (g := fun i => { i with sacked := false }) fun _ => rfl).map
      (g := fun i => { i with rexmitted := false }) fun _ => rfl
  obtain ⟨hkept, hend⟩ := h.marked hq hbegin hlength hends
  rw [TCPReno.forgetSacks, if_pos h.sackEnabled]
  split
  · exact ⟨Alike.kept (s := s.setRexmitQueue _) ⟨rfl, rfl, rfl, rfl, rfl, rfl, rfl, rfl, rfl, rfl, rfl⟩ hkept, hend, rfl⟩
  · exact ⟨hkept, hend, rfl⟩

theorem steps_processRexmitTimer (hrun : s.processRexmitTimer = .ok s')
    (hend : s.rexmitQueue.endNo = s.state.sndMax) : Steps s s' := by
  rw [processRexmitTimer] at hrun
  apply Steps.trans _ (steps_retransmitOneSegment hrun)
  constructor
  · intro hunsent
    have hsame : s.forgetSacks.sent = s.sent := by
      rw [forgetSacks]
      split
      · rfl
      · rfl
    rw [FinUnsent, ← hsame]
    exact hunsent
  · intro _ hkept
    obtain ⟨hkept₁, hend₁, hmax⟩ := hkept.forgetSacks
    exact { hkept₁ with
      sndMax := ⟨hkept₁.sndMax.le, hkept₁.sndMax.edge⟩
      afterRto := fun _ => hmax.trans (hend.symm.trans hend₁.symm) }

theorem steps_enqueueAppData {byteLength : SeqNo} (hopen : s.state.sendFin = false)
    (hroom : s.buffered + byteLength.toNat < 2 ^ 31) (hrun : s.enqueueAppData byteLength = .ok s') : Steps s s' := by
  obtain rfl := enqueueAppData_ok hrun
  refine ⟨id, ?_⟩
  intro _ hkept
  rw [buffered, offset, hkept.bufferStartSeq] at hroom
  have hbuffered := hkept.buffered
  have hend : s.ahead (s.sendQueue.bufferEndSeq + byteLength) = s.ahead s.sendQueue.bufferEndSeq + byteLength.toNat := by
    rw [s.ahead_add, Nat.mod_eq_of_lt]
    exact hroom.trans (by decide)
  refine { hkept with sndMax := ⟨hkept.sndMax.le, hkept.sndMax.edge⟩, buffered := ?_, short := ?_, fin := ?_ }
  · change s.rexmitQueue.octets.length ≤ s.ahead (s.sendQueue.bufferEndSeq + byteLength)
    omega
  · change s.ahead (s.sendQueue.bufferEndSeq + byteLength) < 2 ^ 31
    rw [hend]
    exact hroom
  · intro hfin
    exact absurd (hopen.symm.trans hfin) (by decide)

theorem steps_process_CLOSE (s : TCPReno) : Steps s s.process_CLOSE := by
  rw [process_CLOSE]
  split
  · -- the FIN has been sent
    constructor
    · intro hunsent
      exact fun seg hseg => hunsent seg (List.mem_cons_of_mem _ hseg)
    · intro hunsent
      cases hunsent _ List.mem_cons_self
  · exact ⟨id, fun _ hkept => { hkept with sndMax := ⟨hkept.sndMax.le, hkept.sndMax.edge⟩, fin := fun _ => rfl }⟩

/-- Everything that acknowledgements and data from the application lead to. -/
theorem AckCall.steps (hcall : AckCall (fun _ _ => True) s s') : Steps s s' := by
  cases hcall with
  | own h => exact h.toAlike.steps
  | sendData hrun => exact steps_sendData hrun
  | sendOneNewSegment _ hrun => exact steps_sendOneNewSegment hrun
  | retransmitOneSegment _ hrun => exact steps_retransmitOneSegment hrun
  | recoverySegment _ hnext hrun => exact steps_sendSegmentDuringLossRecoveryPhase hnext hrun
  | processSACKOption hrun => exact steps_processSACKOption hrun
  | acknowledge hnew hsent hrun => exact steps_acknowledge hrun hnew hsent
  | enqueueAppData hopen hroom hrun => exact steps_enqueueAppData hopen hroom hrun

theorem AckCalls.steps (hcalls : AckCalls s s') : Steps s s' := by
  induction hcalls with
  | refl => exact Steps.refl s
  | tail _ hcall ih => exact ih.trans hcall.steps

end Sending

/-- The application does not send after closing and fills less than half of the sequence space, and
the retransmission timer does not expire while something has been sent beyond `snd_max`. -/
def Fits (s : TCPReno) : Event → Prop
  | .send byteLength _ => s.state.sendFin = false ∧
    (s.sendQueue.bufferEndSeq - s.sendQueue.bufferStartSeq).toNat + byteLength.toNat < 2 ^ 31
  | .rexmitTimer => s.rexmitQueue.endNo = s.state.sndMax
  | .established _ | .close | .segment _ _ | .persistTimer => True

section Runs

variable {s s' s₁ s₂ s₃ : TCPReno} {seg : AckSegment} {Meets : TCPReno → Event → Prop}

theorem Initial.kept (h : s.Initial) : s.Kept := by
  have hqueue := h.rexmitQueue
  constructor
  · exact h.sackEnabled
  · rw [hqueue]
    exact rfl
  · rw [hqueue]
    rfl
  · exact h.bufferStartSeq
  · rw [h.sndMax]
    constructor
    · rw [s.ahead_sndUna]
      exact Nat.zero_le _
    · exact .inl rfl
  · rw [hqueue]
    exact Nat.zero_le _
  · have hbuffered := h.buffered
    rw [h.bufferStartSeq] at hbuffered
    exact hbuffered
  · intro hfin
    exact absurd (h.sendFin.symm.trans hfin) (by decide)
  · intro hrto
    exact absurd (h.afterRto.symm.trans hrto) (by decide)
  · exact h.room

/-- Every event keeps the queue as it is described. -/
theorem steps_step {event : Event} (hfits : Fits s event) (hrun : s.step event = .ok s') : Steps s s' := by
  cases event with
  | established idle => exact (ackCalls_sendPending hrun).steps
  | send byteLength idle => exact (ackCalls_process_SEND hfits.1 hfits.2 hrun).steps
  | close =>
    cases hrun
    exact steps_process_CLOSE s
  | segment seg idle => exact (ackCalls_receivedSegment hrun).steps
  | rexmitTimer => exact steps_processRexmitTimer hrun hfits
  | persistTimer => exact steps_sendProbe hrun

theorem Reached.kept (h : Reached Fits s) (hunsent : s.FinUnsent) : s.Kept := by
  induction h with
  | start hs => exact hs.kept
  | step _ hfits hstep ih =>
    have hsteps := steps_step hfits hstep
    exact hsteps.kept hunsent (ih (hsteps.unsent hunsent))

theorem SetPipeCall.calls (h : SetPipeCall s seg s') : AckCalls s s' := by
  cases h with
  | duplicateAck hsack _ hduplicate hlimited hthird hretransmit _ =>
    rw [limitedTransmit_third hlimited hthird] at hretransmit
    obtain ⟨hcalls, hout⟩ := ackCalls_countDuplicate hduplicate
    exact (hcalls.head (.processSACKOption hsack)).trans (ackCalls_fastRetransmit hout hretransmit)
  | dataAck hsack hnew hsent hacknowledge _ hgrow _ _ =>
    have hcalls : AckCalls s _ := .single (.processSACKOption hsack)
    exact (hcalls.tail (.acknowledge hnew hsent hacknowledge)).tail (.own (own_growWindow hgrow))

/-- Wherever `setPipe` is called before a FIN has been sent, it ends without a failed assertion, and
the pipe is the number of octets that count. -/
theorem pipe_counted (hreached : Reached Fits s) (hcall : SetPipeCall s seg s') (hunsent : s'.FinUnsent) :
    ∃ conn, s'.toTCPConnection.setPipe = .ok conn ∧
      conn.state.pipe.toNat = s'.toTCPConnection.octetsInPipe := by
  have hsteps := hcall.calls.steps
  exact (hsteps.kept hunsent (hreached.kept (hsteps.unsent hunsent))).setPipe

/-- The states on the way to the call in `receivedDuplicateAck`. -/
def duplicateCall (s : TCPReno) (seg : AckSegment) : Sim (TCPReno × TCPReno × TCPReno) := do
  let s₁ ← s.processSACKOption seg
  let s₂ ← (s₁.countDuplicate seg).limitedTransmit
  let s₃ ← s₂.fastRetransmit
  return (s₁, s₂, s₃)

theorem SetPipeCall.of_duplicate (hrun : s.duplicateCall seg = .ok (s₁, s₂, s₃))
    (hold : seqGE s₁.state.sndUna seg.ackNo) (hduplicate : s₁.IsDuplicateAck seg)
    (hthird : s₂.state.dupacks = DUPTHRESH) (henabled : s₃.state.sackEnabled = true) : SetPipeCall s seg s₃ := by
  rw [duplicateCall] at hrun
  obtain ⟨t₁, hsack, hrun⟩ := bind_ok.mp hrun
  obtain ⟨t₂, hlimited, hrun⟩ := bind_ok.mp hrun
  obtain ⟨t₃, hretransmit, hrun⟩ := bind_ok.mp hrun
  cases hrun
  exact .duplicateAck hsack hold hduplicate hlimited hthird hretransmit henabled

/-- After two duplicates, the states up to the call for the third. -/
def thirdDuplicate (events : List Event) : Sim (TCPReno × TCPReno × TCPReno × TCPReno) := do
  let duplicate := Event.segment duplicateSegment false
  let s ← (events ++ [duplicate, duplicate]).foldlM step waiting
  let states ← s.duplicateCall duplicateSegment
  return (s, states)

theorem thirdDuplicate_call (Meets : TCPReno → Event → Prop) {events : List Event}
    (hmeets : ∀ event ∈ events, ∀ s, Meets s event)
    (hsegment : ∀ s, Meets s (.segment duplicateSegment false)) (hrun : thirdDuplicate events = .ok (s, s₁, s₂, s₃))
    (hholds : seqGE s₁.state.sndUna duplicateSegment.ackNo ∧ s₁.IsDuplicateAck duplicateSegment ∧
      s₂.state.dupacks = DUPTHRESH ∧ s₃.state.sackEnabled = true) :
    Reached Meets s ∧ SetPipeCall s duplicateSegment s₃ := by
  rw [thirdDuplicate] at hrun
  obtain ⟨t, hevents, hrun⟩ := bind_ok.mp hrun
  obtain ⟨states, hcall, hrun⟩ := bind_ok.mp hrun
  cases hrun
  obtain ⟨hold, hduplicate, hthird, henabled⟩ := hholds
  refine ⟨(Reached.start waiting_initial).run ?_ hevents, .of_duplicate hcall hold hduplicate hthird henabled⟩
  intro event hevent
  rw [List.mem_append] at hevent
  cases hevent with
  | inl hbefore => exact hmeets event hbefore
  | inr hsegments =>
    have heq : event = .segment duplicateSegment false := by simpa using hsegments
    rw [heq]
    exact hsegment

/-- The four segments have been sent. -/
theorem third_duplicate_counted : ∃ s s', Reached Fits s ∧ SetPipeCall s duplicateSegment s' ∧
    ∃ conn, s'.toTCPConnection.setPipe = .ok conn ∧
      conn.state.pipe.toNat = s'.toTCPConnection.octetsInPipe := by
  obtain ⟨⟨s, s₁, s₂, s₃⟩, hrun, hholds⟩ := exists_ok (x := thirdDuplicate [.established false])
    (p := fun r => (seqGE r.2.1.state.sndUna duplicateSegment.ackNo ∧ r.2.1.IsDuplicateAck duplicateSegment ∧
      r.2.2.1.state.dupacks = DUPTHRESH ∧ r.2.2.2.state.sackEnabled = true) ∧
      ∀ seg ∈ r.2.2.2.sent, seg.finBit = false) (by decide) (by decide)
  obtain ⟨hreached, hcall⟩ := thirdDuplicate_call Fits (by simp [Fits]) (fun _ => trivial) hrun hholds.1
  exact ⟨s, s₃, hreached, hcall, pipe_counted hreached hcall hholds.2⟩

/-- The application has closed the connection after the data, and the FIN is at the end of it. -/
theorem fin_uncounted : ¬ ∀ s seg s', Reached (fun _ _ => True) s → SetPipeCall s seg s' →
    ∃ conn, s'.toTCPConnection.setPipe = .ok conn ∧
      conn.state.pipe.toNat = s'.toTCPConnection.octetsInPipe := by
  obtain ⟨⟨s, s₁, s₂, s₃⟩, hrun, hholds⟩ := exists_ok (x := thirdDuplicate [.established false, .close])
    (p := fun r => (seqGE r.2.1.state.sndUna duplicateSegment.ackNo ∧ r.2.1.IsDuplicateAck duplicateSegment ∧
      r.2.2.1.state.dupacks = DUPTHRESH ∧ r.2.2.2.state.sackEnabled = true) ∧
      r.2.2.2.toTCPConnection.setPipe = .error (.assertion "seqLE(begin, fromSeqNum) && seqLess(fromSeqNum, end)"))
    (by decide) (by decide)
  obtain ⟨hreached, hcall⟩ := thirdDuplicate_call (fun _ _ => True) (fun _ _ _ => trivial) (fun _ => trivial) hrun hholds.1
  intro hall
  obtain ⟨conn, hok, -⟩ := hall s duplicateSegment s₃ hreached hcall
  have hfails : s₃.toTCPConnection.setPipe = _ := hholds.2
  rw [hfails] at hok
  cases hok

end Runs

end TCPReno

end Inet.Tcp
