import Inetmanet.Tcp.CongestionWindow
import Inetmanet.Tcp.ShiftedReno

/-!
# NewReno in a shifted sequence space

NewReno compares `snd_una` and `recover` as numbers before it enters Fast Recovery, where
every other comparison is one of sequence numbers.
-/
namespace Inet.Tcp

open TCPReno TCPNewReno

namespace TCPNewReno

def shift (c : SeqNo) (s : TCPNewReno) : TCPNewReno :=
  { s with
    toTCPReno := s.toTCPReno.shift c
    recover := s.recover + c }

variable (c : SeqNo) (s : TCPNewReno)

theorem setReno_shift (reno : TCPReno) : (s.shift c).setReno (reno.shift c) = (s.setReno reno).shift c := rfl

theorem lossRecovery_shift : (s.shift c).state.lossRecovery = s.state.lossRecovery := rfl

theorem restartsWindow_shift (idle : Bool) : (s.shift c).RestartsWindow idle ↔ s.RestartsWindow idle :=
  and_congr (not_congr (iff_of_eq (congrArg (· = 0) (buffered_shift c s.toTCPReno)))) Iff.rfl

theorem sendPending_shift (sendCommandInvoked idle : Bool) :
    SideBySide (fun a b => b = a.shift c) (s.sendPending sendCommandInvoked idle)
      ((s.shift c).sendPending sendCommandInvoked idle) := by
  rw [sendPending, sendPending]
  apply (TCPReno.sendPending_shift c s.toTCPReno sendCommandInvoked idle).bind
  rintro reno _ rfl
  apply SideBySide.pure
  rw [apply_ite (shift c)]
  exact if_congr (restartsWindow_shift c s idle) rfl rfl

theorem retransmitOneSegment_shift (calledAtRto : Bool) :
    SideBySide (fun a b => b = a.shift c) (s.retransmitOneSegment calledAtRto)
      ((s.shift c).retransmitOneSegment calledAtRto) := by
  rw [retransmitOneSegment, retransmitOneSegment]
  apply (TCPReno.retransmitOneSegment_shift c s.toTCPReno calledAtRto).bind
  rintro reno _ rfl
  exact .pure rfl

/-- One number less in both. -/
theorem shift_sub (a : SeqNo) (n : SeqNo) : a + c - n = a - n + c := by grind

theorem processRexmitTimer_shift :
    SideBySide (fun a b => b = a.shift c) s.processRexmitTimer (s.shift c).processRexmitTimer := by
  have hforgotten : (s.shift c).setReno (s.shift c).toTCPReno.forgetSacks =
      (s.setReno s.toTCPReno.forgetSacks).shift c :=
    congrArg (s.shift c).setReno (forgetSacks_shift c s.toTCPReno)
  rw [processRexmitTimer, processRexmitTimer, hforgotten]
  generalize s.setReno s.toTCPReno.forgetSacks = s₁
  have hpoint : (s₁.shift c).state.sndMax - 1 = s₁.state.sndMax - 1 + c := shift_sub c s₁.state.sndMax 1
  rw [hpoint]
  exact retransmitOneSegment_shift c _ true

theorem isFullAck_shift : (s.shift c).IsFullAck ↔ s.IsFullAck := by
  have hfull := seqGE_shift c (s.state.sndUna - 1) s.recover
  rw [← shift_sub] at hfull
  exact hfull

theorem fullAck_shift : (s.shift c).fullAck = s.fullAck.shift c := by
  have hflight : (s.shift c).state.sndMax - (s.shift c).state.sndUna = s.state.sndMax - s.state.sndUna :=
    add_sub_add c s.state.sndUna s.state.sndMax
  rw [fullAck, fullAck, hflight]
  rfl

theorem partialAck_shift (firstSeqAcked : SeqNo) (idle : Bool) :
    SideBySide (fun a b => b = a.shift c) (s.partialAck firstSeqAcked idle)
      ((s.shift c).partialAck (firstSeqAcked + c) idle) := by
  rw [partialAck, partialAck]
  apply (retransmitOneSegment_shift c s false).bind
  rintro s₁ _ rfl
  have hacked : (s₁.shift c).state.sndUna - (firstSeqAcked + c) = s₁.state.sndUna - firstSeqAcked :=
    add_sub_add c firstSeqAcked s₁.state.sndUna
  rw [hacked]
  apply (sendPending_shift c (s₁.deflate _) false idle).bind
  rintro s₂ _ rfl
  apply SideBySide.pure
  rw [apply_ite (shift c)]
  rfl

theorem growWindow_shift : SideBySide (fun a b => b = a.shift c) s.growWindow (s.shift c).growWindow := by
  rw [growWindow, growWindow]
  apply SideBySide.ite Iff.rfl
  · exact fun _ => .ok rfl
  · intro _
    apply SideBySide.ite Iff.rfl
    · exact fun _ => .error _ _
    · exact fun _ => .ok rfl

theorem pullRecover_shift : (s.shift c).pullRecover = s.pullRecover.shift c := by
  have hpulled := shift_sub c s.state.sndUna 2
  change { s.shift c with recover := s.state.sndUna + c - 2 } = _
  rw [hpulled]
  rfl

theorem receivedDataAck_shift (firstSeqAcked : SeqNo) (idle idleLater : Bool) :
    SideBySide (fun a b => b = a.shift c) (s.receivedDataAck firstSeqAcked idle idleLater)
      ((s.shift c).receivedDataAck (firstSeqAcked + c) idle idleLater) := by
  rw [receivedDataAck, receivedDataAck]
  dsimp only
  apply SideBySide.ite Iff.rfl
  · intro _
    apply SideBySide.ite (isFullAck_shift c s).symm
    · intro _
      rw [fullAck_shift]
      exact sendPending_shift c s.fullAck false idleLater
    · intro _
      apply (partialAck_shift c s firstSeqAcked idle).bind
      rintro s₁ _ rfl
      exact sendPending_shift c s₁ false idleLater
  · intro _
    apply (growWindow_shift c s).bind
    rintro s₁ _ rfl
    rw [pullRecover_shift]
    exact sendPending_shift c s₁.pullRecover false idleLater

theorem enterRecovery_shift : (s.shift c).enterRecovery = s.enterRecovery.shift c := by
  have hpoint : (s.shift c).state.sndMax - 1 = s.state.sndMax - 1 + c := shift_sub c s.state.sndMax 1
  rw [enterRecovery, enterRecovery]
  change (enterWindow { (s.setReno s.toTCPReno.recalculateSlowStartThreshold).shift c with
    recover := (s.shift c).state.sndMax - 1, firstPartialACK := false,
    state := { (s.shift c).state with lossRecovery := true } }) = _
  rw [hpoint]
  rfl

/-- The comparison of the numbers says the same before and after the shift. -/
def KeepsCoverage (c : SeqNo) (s : TCPNewReno) : Prop :=
  s.state.lossRecovery = false → (s.state.sndUna + c - 1 > s.recover + c ↔ s.state.sndUna - 1 > s.recover)
deriving Decidable

variable {c s}

theorem receivedDuplicateAck_shift (h : s.state.dupacks = DUPTHRESH → s.KeepsCoverage c) (idle : Bool) :
    SideBySide (fun a b => b = a.shift c) (s.receivedDuplicateAck idle) ((s.shift c).receivedDuplicateAck idle) := by
  rw [receivedDuplicateAck, receivedDuplicateAck]
  apply (limitedTransmit_shift c s.toTCPReno).bind_of
  rintro reno _ hlimited rfl
  dsimp only
  apply SideBySide.ite Iff.rfl
  · intro hthird
    obtain rfl := limitedTransmit_third hlimited hthird
    apply SideBySide.ite
    · apply and_congr_right
      intro hrecovery
      exact (h hthird hrecovery).symm
    · intro _
      rw [setReno_shift, enterRecovery_shift]
      apply (retransmitOneSegment_shift c _ false).bind
      rintro s₁ _ rfl
      exact sendPending_shift c s₁ false idle
    · exact fun _ => .pure rfl
  · intro _
    apply SideBySide.ite Iff.rfl
    · exact fun _ => sendPending_shift c (s.setReno reno).inflate false idle
    · exact fun _ => .pure rfl

theorem KeepsCoverage.setReno (h : s.KeepsCoverage c) {reno : TCPReno} (huna : reno.state.sndUna = s.state.sndUna)
    (hrecovery : reno.state.lossRecovery = s.state.lossRecovery) : (s.setReno reno).KeepsCoverage c := by
  intro hout
  change reno.state.sndUna + c - 1 > s.recover + c ↔ reno.state.sndUna - 1 > s.recover
  rw [huna]
  exact h (hrecovery ▸ hout)

theorem processAck_shift {seg : AckSegment}
    (h : s.IsDuplicateAck seg → s.state.dupacks + 1 = DUPTHRESH → s.KeepsCoverage c) (idle idleLater : Bool) :
    SideBySide (fun a b => b = a.shift c) (s.processAck seg idle idleLater)
      ((s.shift c).processAck (seg.shift c) idle idleLater) := by
  rw [processAck, processAck]
  apply SideBySide.ite (seqGE_shift c s.state.sndUna seg.ackNo).symm
  · intro _
    apply SideBySide.ite (isDuplicateAck_shift c s.toTCPReno seg).symm
    · intro hduplicate
      have hcount := countDuplicate_shift c s.toTCPReno seg
      change SideBySide _ _
        (((s.shift c).setReno ((s.toTCPReno.shift c).countDuplicate (seg.shift c))).receivedDuplicateAck idle)
      rw [hcount, setReno_shift]
      refine receivedDuplicateAck_shift (fun hthird => ?_) idle
      have hcounted := SameWindow.countDuplicate s.toTCPReno seg
      have hdupacks := dupacks_countDuplicate s.toTCPReno seg
      exact (h hduplicate (hdupacks.symm.trans hthird)).setReno hcounted.sndUna hcounted.lossRecovery
    · exact fun _ => .ok rfl
  · intro _
    apply SideBySide.ite (seqLE_shift c seg.ackNo s.state.sndMax).symm
    · intro _
      apply (acknowledge_shift c s.toTCPReno seg).bind
      rintro reno _ rfl
      apply SideBySide.ite Iff.rfl
      · intro _
        apply (receivedDataAck_shift c (s.setReno reno) s.state.sndUna idle idleLater).bind
        rintro s₁ _ rfl
        exact .pure rfl
      · exact fun _ => .pure rfl
    · exact fun _ => .ok rfl

def Event.shift (c : SeqNo) : Event → Event
  | .segment seg idle idleLater => .segment (seg.shift c) idle idleLater
  | event => event

/-- At the third duplicate acknowledgement the comparison is kept. -/
def Modular (c : SeqNo) (s : TCPNewReno) : Event → Prop
  | .segment seg _ _ => s.IsDuplicateAck seg → s.state.dupacks + 1 = DUPTHRESH → s.KeepsCoverage c
  | _ => True

theorem step_shift {event : Event} (h : s.Modular c event) :
    SideBySide (fun a b => b = a.shift c) (s.step event) ((s.shift c).step (event.shift c)) := by
  cases event with
  | established idle => exact sendPending_shift c s false idle
  | send byteLength idle =>
    apply (enqueueAppData_shift byteLength).bind
    rintro reno _ rfl
    exact sendPending_shift c (s.setReno reno) true idle
  | close =>
    apply SideBySide.ok
    exact congrArg (s.shift c).setReno process_CLOSE_shift
  | segment seg idle idleLater =>
    apply (processSACKOption_shift c s.toTCPReno seg).bind_of
    rintro reno _ hsack rfl
    have hstate := state_processSACKOption hsack
    refine processAck_shift (fun hduplicate hthird => ?_) idle idleLater
    change reno.IsDuplicateAck seg at hduplicate
    change reno.state.dupacks + 1 = DUPTHRESH at hthird
    rw [TCPReno.IsDuplicateAck, hstate] at hduplicate
    rw [hstate] at hthird
    exact (h hduplicate hthird).setReno (by rw [hstate]) (by rw [hstate])
  | rexmitTimer => exact processRexmitTimer_shift c s
  | persistTimer =>
    apply (sendProbe_shift c s.toTCPReno).bind
    rintro reno _ rfl
    exact .pure rfl

end TCPNewReno

/-- Every run and the one that is shifted throughout go through the same states but for the shift, so that the windows,
the phases and what is sent are the same. -/
def ShiftedAlike {σ ι : Type} (step : σ → ι → Sim σ) (shift : σ → σ) (shiftEvent : ι → ι) (s : σ)
    (events : List ι) : Prop :=
  ∀ events₁, events₁ <+: events →
    SideBySide (fun a b => b = shift a) (Runs.run step s events₁) (Runs.run step (shift s) (events₁.map shiftEvent))

/-- Reno and NewReno do not depend on where the sequence space begins, where the marker and the comparison are kept. -/
theorem runs_shift (c : SeqNo) :
    (∀ (s : TCPReno) events, Runs.EveryStep TCPReno.step (TCPReno.Modular c) s events →
      ShiftedAlike TCPReno.step (TCPReno.shift c) (TCPReno.Event.shift c) s events) ∧
    (∀ (s : TCPNewReno) events, Runs.EveryStep TCPNewReno.step (TCPNewReno.Modular c) s events →
      ShiftedAlike TCPNewReno.step (TCPNewReno.shift c) (TCPNewReno.Event.shift c) s events) := by
  constructor
  · rintro s events h events₁ ⟨rest, rfl⟩
    refine SideBySide.run (TCPReno.Event.shift c) ?_ rfl h.take
    rintro s₁ _ event rfl hgood
    exact TCPReno.step_shift hgood
  · rintro s events h events₁ ⟨rest, rfl⟩
    refine SideBySide.run (TCPNewReno.Event.shift c) ?_ rfl h.take
    rintro s₁ _ event rfl hgood
    exact TCPNewReno.step_shift hgood

section Example

instance (c : SeqNo) (s : TCPReno) : Decidable (s.KeepsMarker c) := inferInstanceAs (Decidable (_ → _))

instance (c : SeqNo) (s : TCPReno) : (event : TCPReno.Event) → Decidable (s.Modular c event)
  | .segment _ _ => inferInstanceAs (Decidable (_ → _ → _))
  | .established _ | .send _ _ | .close | .rexmitTimer | .persistTimer => isTrue trivial

instance (c : SeqNo) (s : TCPNewReno) : (event : TCPNewReno.Event) → Decidable (s.Modular c event)
  | .segment _ _ _ => inferInstanceAs (Decidable (_ → _ → _))
  | .established _ | .send _ _ | .close | .rexmitTimer | .persistTimer => isTrue trivial

/-- The connection of `TCPNewReno.newConnection`, with selective acknowledgements and Reno. -/
def renoConnection : TCPReno :=
  { newConnection.toTCPReno with
    state := { newConnection.state with sackEnabled := true } }

def renoAck (ackNo : SeqNo) : TCPReno.Event := .segment { sequenceNo := 1, ackNo, window := 100 } false

/-- A shift by a million changes nothing here. -/
theorem runs_shift_million :
    ShiftedAlike TCPReno.step (TCPReno.shift 1000000) (TCPReno.Event.shift 1000000) renoConnection
      [.established false, renoAck 1016, renoAck 1016, renoAck 1016, renoAck 1016] ∧
    ShiftedAlike TCPNewReno.step (TCPNewReno.shift 1000000) (TCPNewReno.Event.shift 1000000) newConnection
      (oneLost 100) :=
  ⟨(runs_shift 1000000).1 _ _ (Runs.everyStep_of_check (by decide)),
    (runs_shift 1000000).2 _ _ (Runs.everyStep_of_check (by decide))⟩

/-- To the place where the lost segment, which begins at 1016, begins at 1. -/
def toOne : SeqNo := 1 - 1016

/-- Fast Recovery is entered before the shift and not after it. -/
theorem shift_to_one :
    (∃ s, Runs.run TCPNewReno.step newConnection (oneLost 100) = .ok s ∧
      s.state.lossRecovery = true) ∧
    (∃ s, Runs.run TCPNewReno.step (newConnection.shift toOne)
      ((oneLost 100).map (TCPNewReno.Event.shift toOne)) = .ok s ∧ s.state.lossRecovery = false) ∧
    ¬ ShiftedAlike TCPNewReno.step (TCPNewReno.shift toOne) (TCPNewReno.Event.shift toOne) newConnection
      (oneLost 100) := by
  have hbefore : ∃ s, Runs.run TCPNewReno.step newConnection (oneLost 100) = .ok s ∧
      s.state.lossRecovery = true := exists_ok (by decide) (by decide)
  have hafter : ∃ s, Runs.run TCPNewReno.step (newConnection.shift toOne)
      ((oneLost 100).map (TCPNewReno.Event.shift toOne)) = .ok s ∧ s.state.lossRecovery = false :=
    exists_ok (by decide) (by decide)
  refine ⟨hbefore, hafter, fun halike => ?_⟩
  obtain ⟨s, hrun, hin⟩ := hbefore
  obtain ⟨s', hrun', hout⟩ := hafter
  have hboth := halike _ (List.prefix_refl _)
  rw [hrun, hrun'] at hboth
  have hshift : s' = s.shift toOne := hboth
  rw [hshift, TCPNewReno.lossRecovery_shift, hin] at hout
  cases hout

end Example

end Inet.Tcp
