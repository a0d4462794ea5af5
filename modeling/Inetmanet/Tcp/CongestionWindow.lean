import Inetmanet.Tcp.TCPNewReno
import Inetmanet.Tcp.QueueCalls

/-!
# The congestion window of NewReno

A partial acknowledgement takes what it acknowledges off `snd_cwnd` and does not look
whether the window is as large. The window that Fast Recovery starts with comes from
`min(snd_cwnd, snd_wnd)`, and more than that may be on the way.
-/
namespace Inet.Tcp

open BitVec TCPReno

/-- The windows, and what the algorithm reads besides them. -/
structure SameWindow (s s' : TCPReno) : Prop where
  sndCwnd : s'.sndCwnd = s.sndCwnd
  ssthresh : s'.ssthresh = s.ssthresh
  sndMss : s'.state.sndMss = s.state.sndMss
  sndUna : s'.state.sndUna = s.state.sndUna
  lossRecovery : s'.state.lossRecovery = s.state.lossRecovery

variable {idle idleLater calledAtRto : Bool}

namespace SameWindow

variable {s s' s'' : TCPReno}

theorem refl (s : TCPReno) : SameWindow s s := ⟨rfl, rfl, rfl, rfl, rfl⟩

theorem trans (h : SameWindow s s') (h' : SameWindow s' s'') : SameWindow s s'' :=
  ⟨h'.sndCwnd.trans h.sndCwnd, h'.ssthresh.trans h.ssthresh, h'.sndMss.trans h.sndMss, h'.sndUna.trans h.sndUna,
    h'.lossRecovery.trans h.lossRecovery⟩

theorem sendSegment {bytes : SeqNo} (hrun : s.sendSegment bytes = .ok s') : SameWindow s s' := by
  obtain ⟨forward, sentBytes, q, hsent⟩ := sendSegment_run hrun
  rw [hsent.result]
  exact ⟨rfl, rfl, rfl, rfl, rfl⟩

theorem sendWhole {effectiveMaxBytesSend bytesToSend left : ULong} {fuel : Nat}
    (hrun : TCPReno.sendWhole effectiveMaxBytesSend fuel bytesToSend s = .ok (left, s')) : SameWindow s s' := by
  induction fuel generalizing bytesToSend s with
  | zero => cases hrun
  | succ fuel ih =>
    rw [TCPReno.sendWhole] at hrun
    split at hrun
    · obtain ⟨s₁, hsegment, hrun⟩ := bind_ok.mp hrun
      exact (sendSegment hsegment).trans (ih hrun)
    · cases hrun
      exact refl _

theorem setSndNxt (s : TCPReno) (sndNxt : SeqNo) : SameWindow s (s.setSndNxt sndNxt) := ⟨rfl, rfl, rfl, rfl, rfl⟩

theorem rememberHighest (s : TCPReno) : SameWindow s s.rememberHighest := by
  rw [TCPReno.rememberHighest]
  split
  · exact ⟨rfl, rfl, rfl, rfl, rfl⟩
  · exact refl s

theorem sendData {fullSegmentsOnly : Bool} {congestionWindow : SeqNo}
    (hrun : s.sendData fullSegmentsOnly congestionWindow = .ok s') : SameWindow s s' := by
  obtain ⟨s₀, hs₀, hsent⟩ := sendData_ok hrun
  have hnext : SameWindow s s₀ := by
    rw [hs₀]
    split
    · exact refl s
    · exact setSndNxt s _
  obtain rfl | ⟨bytesToSend, left, s₁, s₂, hbytes, hlast, rfl⟩ := hsent
  · exact hnext
  · have hsent : SameWindow s₀ s₁ := by
      obtain hsegment | ⟨-, hwhole⟩ := sendBytes_ok hbytes
      · exact sendSegment hsegment
      · exact sendWhole hwhole
    have hrest : SameWindow s₁ s₂ := by
      obtain rfl | hsegment := sendLast_ok hlast
      · exact refl s₂
      · exact sendSegment hsegment
    exact ((hnext.trans hsent).trans hrest).trans (rememberHighest s₂)

theorem sendProbe (hrun : s.sendProbe = .ok s') : SameWindow s s' := by
  obtain rfl | ⟨s₁, hsegment, rfl⟩ := sendProbe_ok hrun
  · exact setSndNxt s _
  · exact ((setSndNxt s _).trans (sendSegment hsegment)).trans ⟨rfl, rfl, rfl, rfl, rfl⟩

theorem updateHighRxt (s : TCPReno) : SameWindow s s.updateHighRxt := by
  rw [TCPReno.updateHighRxt]
  split
  · exact ⟨rfl, rfl, rfl, rfl, rfl⟩
  · exact refl s

theorem retransmitOneSegment (hrun : s.retransmitOneSegment calledAtRto = .ok s') :
    SameWindow s s' := by
  obtain ⟨-, rfl⟩ | ⟨bytes, s₁, hsegment, rfl⟩ := retransmitOneSegment_ok hrun
  · exact ⟨rfl, rfl, rfl, rfl, rfl⟩
  · have hsent := (setSndNxt s _).trans (sendSegment hsegment)
    have hback : SameWindow s₁ (if calledAtRto = false ∧ seqGreater s.state.sndNxt s₁.state.sndNxt then
        s₁.setSndNxt s.state.sndNxt else s₁) := by
      split
      · exact setSndNxt s₁ _
      · exact refl s₁
    exact (hsent.trans hback).trans (updateHighRxt _)

theorem limitedTransmit (hrun : s.limitedTransmit = .ok s') : SameWindow s s' := by
  rw [TCPReno.limitedTransmit] at hrun
  split at hrun
  · obtain rfl | ⟨bytes, s₁, -, hsegment, rfl⟩ := sendOneNewSegment_ok hrun
    · exact refl _
    · refine (((setSndNxt s _).trans (sendSegment hsegment)).trans (rememberHighest s₁)).trans ?_
      split
      · exact setSndNxt _ _
      · exact refl _
  · cases hrun
    exact refl s

theorem updateWndInfo (s : TCPReno) (seg : AckSegment) : SameWindow s (s.updateWndInfo seg) := by
  rw [TCPReno.updateWndInfo]
  split
  · exact ⟨rfl, rfl, rfl, rfl, rfl⟩
  · exact refl s

theorem countDuplicate (s : TCPReno) (seg : AckSegment) : SameWindow s (s.countDuplicate seg) := by
  refine trans ?_ (updateWndInfo _ seg)
  exact ⟨rfl, rfl, rfl, rfl, rfl⟩

/-- Apart from `snd_una`, an acknowledgement leaves them alone, too. -/
theorem acknowledge {seg : AckSegment} (hrun : s.acknowledge seg = .ok s') :
    SameWindow { s with state := { s.state with sndUna := seg.ackNo } } s' := by
  rw [TCPReno.acknowledge] at hrun
  obtain ⟨s₁, hdiscard, hrun⟩ := bind_ok.mp hrun
  cases hrun
  obtain ⟨q, rfl, -⟩ := discardAcked_ok hdiscard
  refine SameWindow.trans ?_ (updateWndInfo _ seg)
  exact ⟨rfl, rfl, rfl, rfl, rfl⟩

theorem processSACKOption {seg : AckSegment} (hrun : s.processSACKOption seg = .ok s') : SameWindow s s' := by
  obtain rfl | ⟨-, s₁, hblocks, rfl⟩ := processSACKOption_ok hrun
  · exact refl _
  · have hstep (t : TCPReno) (tmp : Sack) (ht : SameWindow s t) :
        Ensures (TCPReno.sackBlock seg.ackNo t tmp) (SameWindow s) := by
      intro t' hblock
      rw [TCPReno.sackBlock] at hblock
      split at hblock
      · obtain ⟨q, -, hblock⟩ := bind_ok.mp hblock
        cases hblock
        exact ht.trans ⟨rfl, rfl, rfl, rfl, rfl⟩
      · cases hblock
        exact ht
    have hblocks' := Ensures.foldlM_invariant hstep (refl s) s₁ hblocks
    exact hblocks'.trans ⟨rfl, rfl, rfl, rfl, rfl⟩

end SameWindow

namespace TCPNewReno

/-- What the window has been given since it was last set, in octets: its value then (in Fast Recovery the threshold and
three segments), a segment for each duplicate acknowledgement and one for each partial acknowledgement of at least a
segment. -/
def granted (sndMss : SeqNo) : List WindowChange → Nat
  | [] => 0
  | .set sndCwnd :: _ => sndCwnd.toNat
  | .enter ssthresh :: _ => ssthresh.toNat + 3 * sndMss.toNat
  | .inflate :: l => granted sndMss l + sndMss.toNat
  | .deflate acked :: l => granted sndMss l + if acked ≥ sndMss then sndMss.toNat else 0

/-- What the partial acknowledgements have taken off it since then. -/
def taken : List WindowChange → Nat
  | [] => 0
  | .set _ :: _ => 0
  | .enter _ :: _ => 0
  | .inflate :: l => taken l
  | .deflate acked :: l => taken l + acked.toNat

/-- The segment is a partial acknowledgement, of which the algorithm is told. -/
structure PartialAck (s : TCPNewReno) (seg : AckSegment) : Prop where
  new : ¬ seqGE s.state.sndUna seg.ackNo
  sent : seqLE seg.ackNo s.state.sndMax
  told : seg.payloadLength = 0 ∨ seg.textAccepted = true
  lossRecovery : s.state.lossRecovery = true
  below : ¬ seqGE (seg.ackNo - 1) s.recover

/-- What a segment acknowledges. -/
def acked (s : TCPNewReno) (seg : AckSegment) : Nat := (seg.ackNo - s.state.sndUna).toNat

/-- The states in which a segment makes the window grow, outside of Fast Recovery. -/
inductive GrowthCall (s : TCPNewReno) (seg : AckSegment) : TCPNewReno → Prop where
  | mk {reno reno' : TCPReno} (hsack : s.toTCPReno.processSACKOption seg = .ok reno)
      (hnew : ¬ seqGE reno.state.sndUna seg.ackNo) (hsent : seqLE seg.ackNo reno.state.sndMax)
      (hacknowledge : reno.acknowledge seg = .ok reno') (htold : seg.payloadLength = 0 ∨ seg.textAccepted = true)
      (hrecovery : reno'.state.lossRecovery = false) : GrowthCall s seg (s.setReno reno')

/-- `snd_cwnd` does not go below zero where it is deflated and grows by one segment at most then; and it is not zero
where it is divided by. -/
def KeepsWindow (s : TCPNewReno) : Event → Prop
  | .segment seg idle idleLater =>
    (s.PartialAck seg → s.acked seg ≤ s.sndCwnd.toNat ∧ ∀ s', s.step (.segment seg idle idleLater) = .ok s' →
      s'.sndCwnd.toNat ≤ s.sndCwnd.toNat + s.state.sndMss.toNat) ∧
    ∀ s₁, s.GrowthCall seg s₁ → s₁.ssthresh ≤ s₁.sndCwnd → s₁.sndCwnd ≠ 0
  | _ => True

/-- A partial acknowledgement takes no more than what is left of what the window was given. -/
def Affords (s : TCPNewReno) : Event → Prop
  | .segment seg _ _ => s.PartialAck seg →
      (s.acked seg : Int) ≤ ((granted s.state.sndMss s.changes : Int) - taken s.changes) % 2 ^ 32
  | _ => True

/-- The window is what the ledger says, and the threshold has been set. -/
structure Accounted (s : TCPNewReno) : Prop where
  sndMss : 2 * s.state.sndMss ≠ 0
  ssthresh : s.ssthresh ≠ 0
  window : (s.sndCwnd.toNat : Int) = ((granted s.state.sndMss s.changes : Int) - taken s.changes) % 2 ^ 32

section Steps

variable {s s' : TCPNewReno} {seg : AckSegment}

theorem Accounted.of_same (h : s.Accounted) (hcwnd : s'.sndCwnd = s.sndCwnd) (hthresh : s'.ssthresh = s.ssthresh)
    (hmss : s'.state.sndMss = s.state.sndMss) (hchanges : s'.changes = s.changes) : s'.Accounted := by
  constructor
  · rw [hmss]
    exact h.sndMss
  · rw [hthresh]
    exact h.ssthresh
  · rw [hcwnd, hmss, hchanges]
    exact h.window

variable {reno : TCPReno}

theorem Accounted.setReno (h : s.Accounted) (hsame : SameWindow s.toTCPReno reno) :
    (s.setReno reno).Accounted :=
  h.of_same hsame.sndCwnd hsame.ssthresh hsame.sndMss rfl

theorem Accounted.of_set {l : List WindowChange} (hmss : 2 * s.state.sndMss ≠ 0) (hthresh : s.ssthresh ≠ 0)
    (hset : s.changes = .set s.sndCwnd :: l) : s.Accounted := by
  refine ⟨hmss, hthresh, ?_⟩
  rw [hset]
  change (s.sndCwnd.toNat : Int) = ((s.sndCwnd.toNat : Int) - (0 : Nat)) % 2 ^ 32
  omega

theorem Accounted.of_enter {l : List WindowChange} (hmss : 2 * s.state.sndMss ≠ 0) (hthresh : s.ssthresh ≠ 0)
    (hcwnd : s.sndCwnd = s.ssthresh + 3 * s.state.sndMss) (henter : s.changes = .enter s.ssthresh :: l) :
    s.Accounted := by
  refine ⟨hmss, hthresh, ?_⟩
  rw [henter, hcwnd, toNat_add, toNat_mul]
  change _ = ((s.ssthresh.toNat + 3 * s.state.sndMss.toNat : Nat) - (0 : Nat) : Int) % 2 ^ 32
  simp

theorem Accounted.inflate (h : s.Accounted) : s.inflate.Accounted := by
  obtain ⟨hmss, hthresh, hwindow⟩ := h
  refine ⟨hmss, hthresh, ?_⟩
  change ((s.sndCwnd + s.state.sndMss).toNat : Int) =
    (((granted s.state.sndMss s.changes + s.state.sndMss.toNat : Nat) : Int) - taken s.changes) % 2 ^ 32
  rw [toNat_add]
  omega

theorem Accounted.deflate (h : s.Accounted) (acked : SeqNo) : (s.deflate acked).Accounted := by
  obtain ⟨hmss, hthresh, hwindow⟩ := h
  refine ⟨hmss, hthresh, ?_⟩
  change ((if acked ≥ s.state.sndMss then s.sndCwnd - acked + s.state.sndMss else s.sndCwnd - acked : SeqNo).toNat : Int) =
    (((granted s.state.sndMss s.changes + if acked ≥ s.state.sndMss then s.state.sndMss.toNat else 0 : Nat) : Int) -
      (taken s.changes + acked.toNat : Nat)) % 2 ^ 32
  split
  · rw [toNat_add, toNat_sub]
    omega
  · rw [toNat_sub]
    omega

/-- What a call of `sendData` does to the window. -/
structure Sends (s s' : TCPNewReno) : Prop where
  sndMss : s'.state.sndMss = s.state.sndMss
  sndUna : s'.state.sndUna = s.state.sndUna
  lossRecovery : s'.state.lossRecovery = s.state.lossRecovery
  recover : s'.recover = s.recover
  window : s'.sndCwnd.toNat ≤ max s.sndCwnd.toNat s.state.sndMss.toNat
  accounted : s.Accounted → s'.Accounted

theorem toNat_stdMin_le (a b : SeqNo) : (stdMin a b).toNat ≤ b.toNat := by
  rw [stdMin]
  split
  · exact Nat.le_refl _
  · next hle =>
    rw [lt_def] at hle
    omega

theorem sends_sendPending {sendCommandInvoked idle : Bool} (hrun : s.sendPending sendCommandInvoked idle = .ok s') :
    Sends s s' := by
  rw [sendPending] at hrun
  obtain ⟨reno, hreno, hrun⟩ := bind_ok.mp hrun
  cases hrun
  rw [TCPReno.sendPending] at hreno
  by_cases hrestart : s.RestartsWindow idle
  · have hidle : s.sendQueue.getBytesAvailable s.state.sndNxt ≠ 0 ∧ idle = true := hrestart
    rw [if_pos hidle] at hreno
    rw [if_pos hrestart]
    have hsame := SameWindow.sendData hreno
    refine ⟨hsame.sndMss, hsame.sndUna, hsame.lossRecovery, rfl, ?_, fun h => .of_set ?_ ?_ rfl⟩
    · rw [hsame.sndCwnd, setSndCwnd]
      split
      · exact Nat.le_trans (toNat_stdMin_le _ _) (Nat.le_max_left _ _)
      · exact Nat.le_max_right _ _
    · change 2 * reno.state.sndMss ≠ 0
      rw [hsame.sndMss]
      exact h.sndMss
    · change reno.ssthresh ≠ 0
      rw [hsame.ssthresh]
      exact h.ssthresh
  · have hbusy : ¬ (s.sendQueue.getBytesAvailable s.state.sndNxt ≠ 0 ∧ idle = true) := hrestart
    rw [if_neg hbusy] at hreno
    rw [if_neg hrestart]
    have hsame := SameWindow.sendData hreno
    refine ⟨hsame.sndMss, hsame.sndUna, hsame.lossRecovery, rfl, ?_, fun h => h.setReno hsame⟩
    change reno.sndCwnd.toNat ≤ _
    rw [hsame.sndCwnd]
    exact Nat.le_max_left _ _

theorem sends_setReno (hsame : SameWindow s.toTCPReno reno) : Sends s (s.setReno reno) := by
  refine ⟨hsame.sndMss, hsame.sndUna, hsame.lossRecovery, rfl, ?_, fun h => h.setReno hsame⟩
  change reno.sndCwnd.toNat ≤ _
  rw [hsame.sndCwnd]
  exact Nat.le_max_left _ _

theorem sends_retransmitOneSegment (hrun : s.retransmitOneSegment calledAtRto = .ok s') :
    SameWindow s.toTCPReno s'.toTCPReno ∧ Sends s s' := by
  rw [retransmitOneSegment] at hrun
  obtain ⟨reno, hreno, hrun⟩ := bind_ok.mp hrun
  cases hrun
  have hsame := SameWindow.retransmitOneSegment hreno
  exact ⟨hsame, sends_setReno hsame⟩

theorem stdMax_ne_zero (a : SeqNo) {b : SeqNo} (hb : b ≠ 0) : stdMax a b ≠ 0 := by
  rw [stdMax]
  split
  · exact hb
  · next hle =>
    rintro rfl
    rw [lt_def] at hle
    exact hb (eq_of_toNat_eq (by simpa using hle))

theorem Accounted.processRexmitTimer (h : s.Accounted) (hrun : s.processRexmitTimer = .ok s') : s'.Accounted := by
  rw [TCPNewReno.processRexmitTimer] at hrun
  apply (sends_retransmitOneSegment hrun).2.accounted
  have hmss : s.toTCPReno.forgetSacks.state.sndMss = s.state.sndMss := by
    rw [TCPReno.forgetSacks]
    split
    · split
      · rfl
      · rfl
    · rfl
  have hset : 2 * s.toTCPReno.forgetSacks.state.sndMss ≠ 0 := by
    rw [hmss]
    exact h.sndMss
  exact .of_set hset (stdMax_ne_zero _ hset) rfl

theorem Accounted.fullAck (h : s.Accounted) : s.fullAck.Accounted :=
  .of_set h.sndMss h.ssthresh rfl

theorem Accounted.growWindow (h : s.Accounted) (hrun : s.growWindow = .ok s') : s'.Accounted := by
  rw [TCPNewReno.growWindow] at hrun
  split at hrun
  · cases hrun
    exact .of_set h.sndMss h.ssthresh rfl
  · split at hrun
    · cases hrun
    · cases hrun
      exact .of_set h.sndMss h.ssthresh rfl

theorem partialAck_spec {firstSeqAcked : SeqNo} (hrun : s.partialAck firstSeqAcked idle = .ok s') :
    (s.Accounted → s'.Accounted) ∧ s'.state.sndMss = s.state.sndMss ∧
      ((s.state.sndUna - firstSeqAcked).toNat ≤ s.sndCwnd.toNat →
        s'.sndCwnd.toNat ≤ max s.sndCwnd.toNat s.state.sndMss.toNat) := by
  rw [partialAck] at hrun
  obtain ⟨s₁, hretransmit, hrun⟩ := bind_ok.mp hrun
  obtain ⟨s₂, hsend, hrun⟩ := bind_ok.mp hrun
  cases hrun
  obtain ⟨hsame, hretransmitted⟩ := sends_retransmitOneSegment hretransmit
  have hsent := sends_sendPending hsend
  have hlast : (if s₂.state.lossRecovery = true ∧ s₂.firstPartialACK = false then { s₂ with firstPartialACK := true }
      else s₂).toTCPReno = s₂.toTCPReno := by
    split
    · rfl
    · rfl
  refine ⟨fun h => ?_, ?_, fun hle => ?_⟩
  · have h₂ := hsent.accounted ((hretransmitted.accounted h).deflate _)
    split
    · exact h₂.of_same rfl rfl rfl rfl
    · exact h₂
  · rw [hlast]
    exact hsent.sndMss.trans hsame.sndMss
  · rw [hlast]
    have hdeflated : (s₁.deflate (s₁.state.sndUna - firstSeqAcked)).sndCwnd.toNat ≤ s.sndCwnd.toNat := by
      rw [deflate, hsame.sndUna, hsame.sndMss, hsame.sndCwnd]
      split
      · next hacked =>
        rw [ge_iff_le, le_def] at hacked
        rw [toNat_add, toNat_sub_of_le (le_def.mpr hle)]
        omega
      · rw [toNat_sub_of_le (le_def.mpr hle)]
        exact Nat.sub_le _ _
    have hmss : (s₁.deflate (s₁.state.sndUna - firstSeqAcked)).state.sndMss = s.state.sndMss := hsame.sndMss
    have hwindow := hsent.window
    rw [hmss] at hwindow
    omega

theorem Accounted.receivedDataAck {firstSeqAcked : SeqNo} (h : s.Accounted)
    (hrun : s.receivedDataAck firstSeqAcked idle idleLater = .ok s') : s'.Accounted := by
  rw [TCPNewReno.receivedDataAck] at hrun
  split at hrun
  · split at hrun
    · exact (sends_sendPending hrun).accounted h.fullAck
    · obtain ⟨s₁, hpart, hrun⟩ := bind_ok.mp hrun
      exact (sends_sendPending hrun).accounted ((partialAck_spec hpart).1 h)
  · obtain ⟨s₁, hgrow, hrun⟩ := bind_ok.mp hrun
    exact (sends_sendPending hrun).accounted ((h.growWindow hgrow).of_same rfl rfl rfl rfl)

theorem Accounted.receivedDuplicateAck (h : s.Accounted) (hrun : s.receivedDuplicateAck idle = .ok s') :
    s'.Accounted := by
  rw [TCPNewReno.receivedDuplicateAck] at hrun
  obtain ⟨reno, hlimited, hrun⟩ := bind_ok.mp hrun
  have h₁ := h.setReno (SameWindow.limitedTransmit hlimited)
  simp only at hrun
  split at hrun
  · split at hrun
    · obtain ⟨s₁, hretransmit, hrun⟩ := bind_ok.mp hrun
      apply (sends_sendPending hrun).accounted
      apply (sends_retransmitOneSegment hretransmit).2.accounted
      exact .of_enter h₁.sndMss (stdMax_ne_zero _ h₁.sndMss) rfl rfl
    · cases hrun
      exact h₁
  · split at hrun
    · exact (sends_sendPending hrun).accounted h₁.inflate
    · cases hrun
      exact h₁

/-- The state in which the algorithm is told of an acknowledgement. -/
theorem acknowledged (hacknowledge : s.toTCPReno.acknowledge seg = .ok reno) :
    (s.setReno reno).sndCwnd = s.sndCwnd ∧ (s.setReno reno).ssthresh = s.ssthresh ∧
      (s.setReno reno).state.sndMss = s.state.sndMss ∧ (s.setReno reno).state.sndUna = seg.ackNo ∧
      (s.setReno reno).state.lossRecovery = s.state.lossRecovery :=
  have hsame := SameWindow.acknowledge hacknowledge
  ⟨hsame.sndCwnd, hsame.ssthresh, hsame.sndMss, hsame.sndUna, hsame.lossRecovery⟩

theorem Accounted.processAck (h : s.Accounted)
    (hrun : s.processAck seg idle idleLater = .ok s') : s'.Accounted := by
  rw [TCPNewReno.processAck] at hrun
  split at hrun
  · split at hrun
    · exact (h.setReno (.countDuplicate s.toTCPReno seg)).receivedDuplicateAck hrun
    · cases hrun
      exact h.of_same rfl rfl rfl rfl
  · split at hrun
    · obtain ⟨reno, hacknowledge, hrun⟩ := bind_ok.mp hrun
      obtain ⟨hcwnd, hthresh, hmss, -⟩ := acknowledged hacknowledge
      have h₁ : (s.setReno reno).Accounted := h.of_same hcwnd hthresh hmss rfl
      split at hrun
      · obtain ⟨s₁, hacked, hrun⟩ := bind_ok.mp hrun
        cases hrun
        exact (h₁.receivedDataAck hacked).of_same rfl rfl rfl rfl
      · cases hrun
        exact h₁
    · cases hrun
      exact h.of_same rfl rfl rfl rfl

theorem Accounted.step {event : Event} (h : s.Accounted) (hrun : s.step event = .ok s') : s'.Accounted := by
  cases event with
  | established idle => exact (sends_sendPending hrun).accounted h
  | send byteLength idle =>
    obtain ⟨reno, hqueue, hrun⟩ := bind_ok.mp hrun
    apply (sends_sendPending hrun).accounted
    rw [enqueueAppData_ok hqueue]
    exact h.setReno ⟨rfl, rfl, rfl, rfl, rfl⟩
  | close =>
    cases hrun
    apply h.setReno
    rw [TCPReno.process_CLOSE]
    split
    · exact ⟨rfl, rfl, rfl, rfl, rfl⟩
    · exact ⟨rfl, rfl, rfl, rfl, rfl⟩
  | segment seg idle idleLater =>
    obtain ⟨reno, hsack, hrun⟩ := bind_ok.mp hrun
    exact (h.setReno (SameWindow.processSACKOption hsack)).processAck hrun
  | rexmitTimer => exact h.processRexmitTimer hrun
  | persistTimer =>
    obtain ⟨reno, hprobe, hrun⟩ := bind_ok.mp hrun
    cases hrun
    exact h.setReno (SameWindow.sendProbe hprobe)

theorem PartialAck.window (h : s.PartialAck seg) (hle : s.acked seg ≤ s.sndCwnd.toNat)
    (hrun : s.step (.segment seg idle idleLater) = .ok s') :
    s'.sndCwnd.toNat ≤ s.sndCwnd.toNat + s.state.sndMss.toNat := by
  obtain ⟨reno, hsack, hrun⟩ := bind_ok.mp hrun
  have hstate := state_processSACKOption hsack
  have hcwnd := (SameWindow.processSACKOption hsack).sndCwnd
  have hnew : ¬ seqGE (s.setReno reno).state.sndUna seg.ackNo := by
    change ¬ seqGE reno.state.sndUna seg.ackNo
    rw [hstate]
    exact h.new
  have hsent : seqLE seg.ackNo (s.setReno reno).state.sndMax := by
    change seqLE seg.ackNo reno.state.sndMax
    rw [hstate]
    exact h.sent
  rw [TCPNewReno.processAck, if_neg hnew, if_pos hsent] at hrun
  obtain ⟨reno', hacknowledge, hrun⟩ := bind_ok.mp hrun
  obtain ⟨hcwnd', -, hmss', huna', hrecovery'⟩ := acknowledged (s := s.setReno reno) hacknowledge
  rw [if_pos h.told] at hrun
  obtain ⟨s₁, hacked, hrun⟩ := bind_ok.mp hrun
  cases hrun
  have hrecovery : (((s.setReno reno).setReno reno').state.lossRecovery = true) := by
    rw [hrecovery']
    change reno.state.lossRecovery = true
    rw [hstate]
    exact h.lossRecovery
  have hbelow : ¬ ((s.setReno reno).setReno reno').IsFullAck := by
    rw [IsFullAck, huna']
    exact h.below
  rw [TCPNewReno.receivedDataAck, if_pos hrecovery, if_neg hbelow] at hacked
  obtain ⟨s₂, hpart, hsend⟩ := bind_ok.mp hacked
  obtain ⟨-, hmss₂, hwindow⟩ := partialAck_spec hpart
  have hsends := sends_sendPending hsend
  have hcwnd₀ : ((s.setReno reno).setReno reno').sndCwnd = s.sndCwnd := hcwnd'.trans hcwnd
  have hmss₀ : ((s.setReno reno).setReno reno').state.sndMss = s.state.sndMss := by
    rw [hmss']
    change reno.state.sndMss = s.state.sndMss
    rw [hstate]
  have hfirst : (s.setReno reno).state.sndUna = s.state.sndUna := by
    change reno.state.sndUna = s.state.sndUna
    rw [hstate]
  rw [huna', hfirst, hcwnd₀, hmss₀] at hwindow
  have hbound := hsends.window
  rw [hmss₂, hmss₀] at hbound
  have hdeflated := hwindow hle
  change s₁.sndCwnd.toNat ≤ _
  omega

theorem Accounted.growthCall (h : s.Accounted) {s₁ : TCPNewReno} (hcall : s.GrowthCall seg s₁)
    (hthresh : s₁.ssthresh ≤ s₁.sndCwnd) : s₁.sndCwnd ≠ 0 := by
  obtain ⟨hsack, -, -, hacknowledge, -, -⟩ := hcall
  have hfirst := SameWindow.processSACKOption hsack
  have hsecond := SameWindow.acknowledge hacknowledge
  intro hzero
  rw [hzero] at hthresh
  have hnone := BitVec.le_zero_iff.mp hthresh
  exact h.ssthresh (hfirst.ssthresh.symm.trans (hsecond.ssthresh.symm.trans hnone))

/-- What a step does to the window is right if and only if the window affords it. -/
theorem Accounted.keepsWindow_iff (h : s.Accounted) (event : Event) : s.KeepsWindow event ↔ s.Affords event := by
  cases event with
  | segment seg idle idleLater =>
    have hledger := h.window
    constructor
    · rintro ⟨hpart, -⟩ hack
      have hle := (hpart hack).1
      omega
    · intro hafford
      refine ⟨fun hack => ?_, fun s₁ hcall hthresh => h.growthCall hcall hthresh⟩
      have hle : s.acked seg ≤ s.sndCwnd.toNat := by
        have hacked := hafford hack
        omega
      exact ⟨hle, fun s' hrun => hack.window hle hrun⟩
  | _ => exact Iff.rfl

end Steps

/-- A connection that has just been established. -/
structure Established (s : TCPNewReno) : Prop where
  sndMss : 2 * s.state.sndMss ≠ 0
  ssthresh : s.ssthresh ≠ 0
  changes : s.changes = [.set s.sndCwnd]

theorem Established.accounted {s : TCPNewReno} (h : s.Established) : s.Accounted := .of_set h.sndMss h.ssthresh h.changes

/-- The window is kept in every step of a run if and only if every partial acknowledgement is afforded. -/
theorem run_keepsWindow_iff {s : TCPNewReno} (hs : s.Established) (events : List Event) :
    Runs.EveryStep step KeepsWindow s events ↔ Runs.EveryStep step Affords s events := by
  have hall : ∀ events₁ s₁, Runs.run step s events₁ = .ok s₁ → s₁.Accounted := by
    intro events₁ s₁ hrun
    have hstep (s : TCPNewReno) (event : Event) (h : s.Accounted) : Ensures (s.step event) Accounted :=
      fun _ hok => h.step hok
    exact Ensures.foldlM_invariant hstep hs.accounted s₁ hrun
  constructor
  · intro hkeeps events₁ event s₁ hpre hrun
    exact ((hall events₁ s₁ hrun).keepsWindow_iff event).mp (hkeeps events₁ event s₁ hpre hrun)
  · intro haffords events₁ event s₁ hpre hrun
    exact ((hall events₁ s₁ hrun).keepsWindow_iff event).mpr (haffords events₁ event s₁ hpre hrun)

section Example

instance (s : TCPNewReno) (seg : AckSegment) : Decidable (s.PartialAck seg) :=
  decidable_of_iff (¬ seqGE s.state.sndUna seg.ackNo ∧ seqLE seg.ackNo s.state.sndMax ∧
      (seg.payloadLength = 0 ∨ seg.textAccepted = true) ∧ s.state.lossRecovery = true ∧ ¬ seqGE (seg.ackNo - 1) s.recover)
    ⟨fun ⟨hnew, hsent, htold, hrecovery, hbelow⟩ => ⟨hnew, hsent, htold, hrecovery, hbelow⟩,
      fun ⟨hnew, hsent, htold, hrecovery, hbelow⟩ => ⟨hnew, hsent, htold, hrecovery, hbelow⟩⟩

instance (s : TCPNewReno) : (event : Event) → Decidable (s.Affords event)
  | .segment seg _ _ => inferInstanceAs (Decidable (s.PartialAck seg → _))
  | .established _ | .send _ _ | .close | .rexmitTimer | .persistTimer => isTrue trivial

/-- A hundred octets wait to be sent in segments of four, four of them at first. -/
def newConnection : TCPNewReno where
  state := { sndUna := 1000, sndNxt := 1000, sndMax := 1000, sndMss := 4, sndWnd := 100, increasedIWEnabled := true }
  sendQueue := ⟨1000, 1100⟩
  rexmitQueue := .init 1000
  sndCwnd := 16
  optionsLen := fun _ => 0
  changes := [.set 16]

theorem newConnection_established : newConnection.Established := by
  constructor <;> decide

def ackOf (ackNo window : SeqNo) : Event := .segment { sequenceNo := 1, ackNo, window } false false

/-- Four segments are acknowledged and eight sent, of which the first is lost; the duplicate acknowledgements
advertise this window. -/
def oneLost (window : SeqNo) : List Event :=
  [.established false, ackOf 1004 100, ackOf 1008 100, ackOf 1012 100, ackOf 1016 100, ackOf 1016 window,
    ackOf 1016 window, ackOf 1016 window]

/-- All but the last segment have arrived. -/
theorem run_keepsWindow_open :
    Runs.EveryStep step KeepsWindow newConnection (oneLost 100 ++ [ackOf 1044 100]) :=
  (run_keepsWindow_iff newConnection_established _).mpr (Runs.everyStep_of_check (by decide))

/-- The receiver has closed its window meanwhile. -/
theorem closed_window_wraps : newConnection.Established ∧
    ¬ Runs.EveryStep step KeepsWindow newConnection (oneLost 0 ++ [ackOf 1044 0]) := by
  refine ⟨newConnection_established, fun hkeeps => ?_⟩
  obtain ⟨s, hrun, hack, hover⟩ := exists_ok (x := Runs.run step newConnection (oneLost 0))
    (p := fun s => s.PartialAck { sequenceNo := 1, ackNo := 1044, window := 0 } ∧
      ¬ s.acked { sequenceNo := 1, ackNo := 1044, window := 0 } ≤ s.sndCwnd.toNat) (by decide) (by decide)
  exact hover ((hkeeps _ _ s (List.prefix_refl _) hrun).1 hack).1

end Example

end TCPNewReno

end Inet.Tcp
