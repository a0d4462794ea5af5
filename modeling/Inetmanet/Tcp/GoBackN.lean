import Inetmanet.Tcp.SenderProgress

/-!
# Going back after a timeout

A timeout sets `snd_nxt` back to `snd_una`, and everything from there is sent again, apart
from what has been acknowledged selectively. A segment that starts somewhere else leaves
`snd_nxt` behind itself, also where the octets in between have not been sent again.
-/
namespace Inet.Tcp

open TCPSACKRexmitQueue Relation RunLength

namespace TCPReno

/-- The octet is in one of the segments after the first `mark` ones, or passed over. -/
def Covered (s : TCPReno) (mark : Nat) (seqNum : SeqNo) : Prop :=
  (∃ seg ∈ s.sent.take (s.sent.length - mark), (seqNum - seg.sequenceNo).toNat < seg.payloadLength.toNat) ∨
    s.state.sackEnabled = true ∧ ∃ f, s.rexmitQueue.octets[s.offset seqNum]? = some f ∧ PassedOver f

/-- All octets before a position in the send queue are covered. -/
def CoveredTo (s : TCPReno) (mark n : Nat) : Prop :=
  ∀ seqNum, s.offset seqNum < n → s.offset seqNum < s.buffered → s.Covered mark seqNum

/-- As long as `snd_nxt` has not come back to `snd_max`, a segment that starts at the sequence number does not
leave anything out. -/
def Clear (mark : Nat) (s : TCPReno) (seqNum : SeqNo) : Prop :=
  s.state.afterRto = true → ∀ x, s.offset s.state.sndNxt ≤ s.offset x → s.offset x < s.offset seqNum →
    s.offset x < s.buffered → s.Covered mark x

/-- The retransmission timer of a sender with something outstanding has just expired, after `mark` segments. -/
def TimedOut (s : TCPReno) (mark : Nat) : Prop := ∃ t u : TCPReno, t.Driven ∧ 0 < t.state.sndMss ∧
  t.state.sndUna ≠ t.state.sndMax ∧ Own t.forgetSacks.startSlowStart u ∧ u.retransmitOneSegment true = .ok s ∧
  mark = t.sent.length

/-- `snd_nxt` has not advanced past an octet in the send queue, between `snd_una` and `snd_max`, that is not
covered. -/
def NothingSkipped (s : TCPReno) (mark : Nat) : Prop := ∀ seqNum, s.offset seqNum < s.buffered →
  s.ahead seqNum < s.ahead s.state.sndMax → s.ahead seqNum < s.ahead s.state.sndNxt → s.Covered mark seqNum

section Covered

variable {s s' : TCPReno} {mark m n : Nat} {bytes seqNum : SeqNo} {seg : AckSegment}

theorem CoveredTo.mono (h : s.CoveredTo mark n) (hle : m ≤ n) : s.CoveredTo mark m :=
  fun x hx hbuffered => h x (Nat.lt_of_lt_of_le hx hle) hbuffered

/-- What is covered stays covered. -/
def KeepsCovered (s s' : TCPReno) (mark : Nat) : Prop :=
  ∀ seqNum, s.offset seqNum < s.buffered → s.Covered mark seqNum → s'.Covered mark seqNum

theorem CoveredTo.keep (h : s.CoveredTo mark n) (hkeeps : KeepsCovered s s' mark) (hsend : s'.sendQueue = s.sendQueue) :
    s'.CoveredTo mark n := by
  intro x hx hbuffered
  rw [buffered, offset, offset, hsend] at hbuffered
  rw [offset, hsend] at hx
  exact hkeeps x hbuffered (h x hx hbuffered)

theorem keepsCovered_of_same (hsend : s'.sendQueue = s.sendQueue) (hrexmit : s'.rexmitQueue = s.rexmitQueue)
    (hsent : s'.sent = s.sent) (hsack : s'.state.sackEnabled = s.state.sackEnabled) : KeepsCovered s s' mark := by
  intro x _ hcovered
  rw [Covered, offset, hsend, hrexmit, hsent, hsack]
  exact hcovered

/-- The octets of the queue that are passed over stay so. -/
theorem keepsCovered_of_octets (hsend : s'.sendQueue = s.sendQueue) (hsent : s'.sent = s.sent)
    (hsack : s'.state.sackEnabled = s.state.sackEnabled)
    (hoctets : ∀ (n : Nat) f, s.rexmitQueue.octets[n]? = some f → PassedOver f →
      ∃ g, s'.rexmitQueue.octets[n]? = some g ∧ PassedOver g) : KeepsCovered s s' mark := by
  intro x _ hcovered
  rw [Covered, offset, hsend, hsent, hsack]
  refine hcovered.imp_right ?_
  rintro ⟨henabled, f, hf, hover⟩
  exact ⟨henabled, hoctets _ f hf hover⟩

/-- Where the sequence numbers lie. -/
theorem Held.offset_lt (h : s.Held) (hin : s.InReach seqNum) : s.offset seqNum < 2 ^ 31 := by
  have hbuffered := h.buffered
  rcases hin with hle | ⟨hfin, heq⟩
  · exact Nat.lt_of_le_of_lt (Nat.le_trans hle h.reach_le) hbuffered
  · have hroom := (h.fin hfin).2
    rw [heq, offset, offset_add]
    exact Nat.lt_of_le_of_lt (Nat.mod_le _ _) hroom

/-- A segment covers the octets from where it was to start up to its end. -/
theorem SegmentRun.covered {forward sentBytes : SeqNo} {q : TCPSACKRexmitQueue}
    (hsegment : SegmentRun s s' bytes forward sentBytes q) (h : s.Held) (hsent : mark ≤ s.sent.length) :
    KeepsCovered s s' mark ∧ ∀ x, s.offset s.state.sndNxt ≤ s.offset x →
      s.offset x < s.offset (s.state.sndNxt + forward + sentBytes) → s'.Covered mark x := by
  obtain ⟨hfrom, hto, hwithin⟩ := hsegment.within h.buffered
  have hskips := hsegment.skips h
  have hresult := hsegment.result
  have hsend : s'.sendQueue = s.sendQueue := by rw [hresult]; rfl
  have hqueue : s'.rexmitQueue = q := by rw [hresult]; rfl
  have hsack : s'.state.sackEnabled = s.state.sackEnabled := by rw [hresult]; rfl
  have hnew : ∃ seg : SentSegment, s'.sent = seg :: s.sent ∧ seg.sequenceNo = s.state.sndNxt + forward ∧
      seg.payloadLength = sentBytes := by
    rw [hresult]
    exact ⟨_, rfl, rfl, rfl⟩
  obtain ⟨seg, hseg, hsequenceNo, hlength⟩ := hnew
  have htake : s'.sent.take (s'.sent.length - mark) = seg :: s.sent.take (s.sent.length - mark) := by
    rw [hseg, List.length_cons, Nat.succ_sub hsent, List.take_succ_cons]
  have hkept : KeepsCovered s s' mark := by
    intro x _ hcovered
    rw [Covered, htake, offset, hsend, hqueue, hsack]
    rcases hcovered with ⟨seg', hmem, hin⟩ | ⟨henabled, f, hf, hover⟩
    · exact .inl ⟨seg', List.mem_cons_of_mem _ hmem, hin⟩
    · right
      have htogether := h.together henabled
      obtain ⟨-, -, -, -, hoctets⟩ := htogether.queue.enqueueSentData (hsegment.enqueued henabled)
        (by rw [htogether.position]; exact Nat.lt_of_le_of_lt hwithin h.buffered)
      obtain ⟨hlt, -⟩ := List.getElem?_eq_some_iff.mp hf
      refine ⟨henabled, ?_⟩
      change ∃ g, q.octets[s.offset x]? = some g ∧ _
      rw [hoctets, List.getElem?_append_left (by rw [length_onRange]; exact hlt), onRange, List.getElem?_mapIdx, hf]
      refine ⟨_, rfl, ?_⟩
      split
      · exact .inr rfl
      · exact hover
  refine ⟨hkept, ?_⟩
  intro x hle hlt
  by_cases hbefore : s.offset x < s.offset (s.state.sndNxt + forward)
  · -- before the segment, `snd_nxt` has been forwarded
    by_cases hforwards : s.state.sackEnabled = true ∧ s.state.afterRto = true
    · have htogether := h.together hforwards.1
      apply hkept x (Nat.lt_of_lt_of_le hbefore hfrom)
      obtain ⟨-, -, hreached, -⟩ := htogether.queue.enqueueSentData (hsegment.enqueued hforwards.1)
        (by rw [htogether.position]; exact Nat.lt_of_le_of_lt hwithin h.buffered)
      rw [htogether.position] at hreached
      have hin := List.getElem?_eq_getElem (Nat.lt_of_lt_of_le hbefore hreached)
      exact .inr ⟨hforwards.1, _, hin, hskips.passed _ _ hle hbefore hin⟩
    · have hsame : s.state.sndNxt + forward = s.state.sndNxt := by
        apply hskips.none_
        rw [not_and_or, Bool.not_eq_true, Bool.not_eq_true] at hforwards
        exact hforwards
      rw [hsame] at hbefore
      omega
  · left
    rw [htake]
    refine ⟨seg, List.mem_cons_self, ?_⟩
    rw [hsequenceNo, hlength, toNat_sub_offset s.sendQueue.bufferStartSeq]
    change (if s.offset (s.state.sndNxt + forward) ≤ s.offset x then s.offset x - s.offset (s.state.sndNxt + forward)
      else _) < _
    rw [if_pos (by omega)]
    omega

end Covered

/-- What holds as long as nothing is skipped: up to `snd_nxt`, and to `snd_max` once `snd_nxt` has come back to it,
everything is covered. -/
structure GoesBack (s : TCPReno) (mark : Nat) : Prop where
  sndMss : 0 < s.state.sndMss
  sent : mark ≤ s.sent.length
  next : s.state.afterRto = true → s.CoveredTo mark (s.offset s.state.sndNxt)
  max : s.state.afterRto = false → s.CoveredTo mark (s.offset s.state.sndMax)

section Calls

variable {s s' : TCPReno} {mark : Nat} {bytes seqNum : SeqNo} {seg : AckSegment}

/-- Nothing that is looked at changes, apart from `snd_nxt` before data is sent. -/
theorem GoesBack.of_same (h : s.GoesBack mark) (hsend : s'.sendQueue = s.sendQueue)
    (hkeeps : KeepsCovered s s' mark) (hsent : s'.sent = s.sent) (hafter : s'.state.afterRto = s.state.afterRto)
    (hnext : s.state.afterRto = true → s'.state.sndNxt = s.state.sndNxt) (hmax : s'.state.sndMax = s.state.sndMax)
    (hmss : s'.state.sndMss = s.state.sndMss) : s'.GoesBack mark := by
  refine ⟨?_, ?_, ?_, ?_⟩
  · rw [hmss]
    exact h.sndMss
  · rw [hsent]
    exact h.sent
  · intro hrto
    rw [hafter] at hrto
    rw [hnext hrto, offset, hsend]
    exact (h.next hrto).keep hkeeps hsend
  · intro hrto
    rw [hafter] at hrto
    rw [hmax, offset, hsend]
    exact (h.max hrto).keep hkeeps hsend

theorem Own.goesBack (hown : Own s s') (h : s.GoesBack mark) : s'.GoesBack mark :=
  h.of_same hown.sendQueue (keepsCovered_of_same hown.sendQueue hown.rexmitQueue hown.sent hown.sackEnabled) hown.sent
    hown.afterRto (fun _ => hown.sndNxt) hown.sndMax hown.sndMss

/-- While segments are sent one after the other, `snd_nxt` may lie beyond `snd_max`. -/
structure Sending (s : TCPReno) (mark : Nat) : Prop extends GoesBack s mark where
  placed : s.Placed
  all : s.CoveredTo mark (s.offset s.state.sndNxt)

/-- Everything before the segment is covered, so everything up to its end is. -/
theorem Held.sending (h : s.Held) (hmss : 0 < s.state.sndMss) (hsent : mark ≤ s.sent.length) (hall : s.CoveredTo mark (s.offset s.state.sndNxt))
    (hmax : s.state.afterRto = false → s.CoveredTo mark (s.offset s.state.sndMax))
    (hrun : s.sendSegment bytes = .ok s') : s'.Sending mark ∧ KeepsCovered s s' mark ∧
      s'.CoveredTo mark (s.offset (s.state.sndNxt + s'.state.sentBytes)) := by
  have hplaced := h.sendSegment hrun
  obtain ⟨forward, sentBytes, q, hsegment⟩ := sendSegment_run hrun
  obtain ⟨hfrom, hto, hwithin⟩ := hsegment.within h.buffered
  obtain ⟨hkeeps, hcovers⟩ := hsegment.covered h hsent
  have hresult := hsegment.result
  have hsend : s'.sendQueue = s.sendQueue := by rw [hresult]; rfl
  have hsndMax : s'.state.sndMax = s.state.sndMax := by rw [hresult]; rfl
  have hlength : s'.sent.length = s.sent.length + 1 := by rw [hresult]; rfl
  have hsndMss : s'.state.sndMss = s.state.sndMss := by rw [hresult]; rfl
  have hcoveredTo : s'.CoveredTo mark (s.offset (s.state.sndNxt + forward + sentBytes)) := by
    intro x hx hbuffered
    rw [TCPReno.buffered, offset, offset, hsend] at hbuffered
    rw [offset, hsend] at hx
    by_cases hbefore : s.offset x < s.offset s.state.sndNxt
    · exact hkeeps x hbuffered (hall x hbefore hbuffered)
    · exact hcovers x (Nat.le_of_not_lt hbefore) hx
  have hnext : s'.CoveredTo mark (s'.offset s'.state.sndNxt) := by
    rw [hresult]
    change CoveredTo _ mark (s.offset (if (((s.setSndNxt _).setRexmitQueue q).carriesFin sentBytes) then _ else _))
    split
    · next hcarries =>
      -- the data ends where the FIN stands
      rw [carriesFin, Bool.and_eq_true, decide_eq_true_eq] at hcarries
      have hend : s.state.sndNxt + forward + sentBytes = s.sendQueue.bufferEndSeq :=
        hcarries.2.trans (h.fin hcarries.1).1
      rw [← hresult]
      intro x _ hbuffered
      apply hcoveredTo x _ hbuffered
      rw [TCPReno.buffered, offset, offset, hsend] at hbuffered
      rw [hend, offset, hsend]
      exact hbuffered
    · rw [← hresult]
      exact hcoveredTo
  have hend : s.offset (s.state.sndNxt + s'.state.sentBytes) ≤ s.offset (s.state.sndNxt + forward + sentBytes) := by
    have hskipped := (hsegment.skips h).le
    have hbytes : s'.state.sentBytes = sentBytes := by rw [hresult]; rfl
    rw [hbytes, offset, offset_add]
    change (s.offset s.state.sndNxt + sentBytes.toNat) % 2 ^ 32 ≤ _
    omega
  refine ⟨⟨⟨?_, ?_, fun _ => hnext, ?_⟩, hplaced, hnext⟩, hkeeps, hcoveredTo.mono hend⟩
  · rw [hsndMss]
    exact hmss
  · rw [hlength]
    exact Nat.le_succ_of_le hsent
  · intro hafter
    rw [hsndMax, offset, hsend]
    cases hbefore : s.state.afterRto with
    | false => exact (hmax hbefore).keep hkeeps hsend
    | true =>
      have hge : seqGE (s.state.sndNxt + forward + sentBytes) s.state.sndMax := by
        rw [hresult] at hafter
        change (s.state.afterRto && !decide (seqGE (s.state.sndNxt + forward + sentBytes) s.state.sndMax)) = false at hafter
        rw [hbefore, Bool.true_and, Bool.not_eq_false', decide_eq_true_eq] at hafter
        exact hafter
      rw [seqGE_offset s.sendQueue.bufferStartSeq (Nat.lt_of_le_of_lt hwithin h.buffered) (h.offset_lt h.sndMax)] at hge
      exact hcoveredTo.mono hge

theorem Sending.sendSegment (h : s.Sending mark) (hrun : s.sendSegment bytes = .ok s') : s'.Sending mark :=
  (h.placed.toHeld.sending h.sndMss h.sent h.all h.max hrun).1

theorem Sending.rememberHighest (h : s.Sending mark) : s.rememberHighest.Sending mark := by
  have hplaced := h.placed.rememberHighest
  rw [TCPReno.rememberHighest] at hplaced ⊢
  split
  · next hgreater =>
    rw [if_pos hgreater] at hplaced
    exact ⟨⟨h.sndMss, h.sent, h.next, fun _ => h.all⟩, hplaced, h.all⟩
  · exact h

variable {bytesToSend effectiveMaxBytesSend left : ULong} {congestionWindow x ackNo : SeqNo}

theorem Sending.sendWhole {fuel : Nat} (h : s.Sending mark)
    (hrun : TCPReno.sendWhole effectiveMaxBytesSend fuel bytesToSend s = .ok (left, s')) : s'.Sending mark := by
  induction fuel generalizing bytesToSend s with
  | zero => cases hrun
  | succ fuel ih =>
    rw [TCPReno.sendWhole] at hrun
    split at hrun
    · obtain ⟨s₁, hsegment, hrun⟩ := bind_ok.mp hrun
      exact ih (h.sendSegment hsegment) hrun
    · cases hrun
      exact h

theorem Sending.sendBytes (h : s.Sending mark)
    (hrun : s.sendBytes bytesToSend effectiveMaxBytesSend = .ok (left, s')) : s'.Sending mark := by
  obtain hsegment | ⟨-, hwhole⟩ := sendBytes_ok hrun
  · exact h.sendSegment hsegment
  · exact h.sendWhole hwhole

theorem GoesBack.sendData {fullSegmentsOnly : Bool} (h : s.GoesBack mark) (hs : s.Placed)
    (hrun : s.sendData fullSegmentsOnly congestionWindow = .ok s') : s'.GoesBack mark := by
  obtain ⟨s₀, hs₀, hsent⟩ := sendData_ok hrun
  have hstart : s₀.Sending mark := by
    rw [hs₀]
    cases hafter : s.state.afterRto with
    | true => exact ⟨h, hs, h.next hafter⟩
    | false =>
      have hsame : (s.setSndNxt s.state.sndMax).GoesBack mark :=
        h.of_same rfl (keepsCovered_of_same rfl rfl rfl rfl) rfl rfl
          (fun hrto => absurd (hafter.symm.trans hrto) (by decide)) rfl rfl
      exact ⟨hsame, hs.toHeld.setSndNxt hs.sndMax, hsame.max hafter⟩
  obtain rfl | ⟨bytesToSend, left, s₁, s₂, hbytes, hlast, rfl⟩ := hsent
  · exact hstart.toGoesBack
  · have hsent := hstart.sendBytes hbytes
    apply Sending.toGoesBack
    obtain rfl | hsegment := sendLast_ok hlast
    · exact hsent.rememberHighest
    · exact (hsent.sendSegment hsegment).rememberHighest

/-- Where a segment starts somewhere else, everything before it must have been covered. -/
theorem GoesBack.before (h : s.GoesBack mark) (hclear : Clear mark s seqNum)
    (hle : s.state.afterRto = false → s.offset seqNum ≤ s.offset s.state.sndMax) :
    s.CoveredTo mark (s.offset seqNum) := by
  cases hafter : s.state.afterRto with
  | false => exact (h.max hafter).mono (hle hafter)
  | true =>
    intro x hx hbuffered
    by_cases hbefore : s.offset x < s.offset s.state.sndNxt
    · exact h.next hafter x hbefore hbuffered
    · exact hclear hafter x (Nat.le_of_not_lt hbefore) hx hbuffered

theorem GoesBack.sendOneNewSegment {fullSegmentsOnly : Bool} (h : s.GoesBack mark)
    (hs : s.Placed) (hclear : s.limitedBytes fullSegmentsOnly congestionWindow ≠ none → Clear mark s s.state.sndMax)
    (hrun : s.sendOneNewSegment fullSegmentsOnly congestionWindow = .ok s') : s'.GoesBack mark := by
  obtain rfl | ⟨bytes, s₁, hbytes, hsegment, rfl⟩ := sendOneNewSegment_ok hrun
  · exact h
  · have hall := h.before (hclear (by rw [hbytes]; exact Option.some_ne_none bytes)) fun _ => Nat.le_refl _
    have hheld := hs.toHeld.at s.state.sndMax
    obtain ⟨hsent, -⟩ := hheld.sending h.sndMss h.sent (hall.keep (keepsCovered_of_same rfl rfl rfl rfl) rfl)
      (fun _ => hall.keep (keepsCovered_of_same rfl rfl rfl rfl) rfl) hsegment
    -- the segment has ended the time after the timeout
    have hcleared : s₁.rememberHighest.state.afterRto = false := by
      have hafter := hheld.afterRto_cleared rfl hsegment
      rw [TCPReno.rememberHighest]
      split
      · exact hafter
      · exact hafter
    rw [if_neg (by rw [hcleared]; decide)]
    exact hsent.rememberHighest.toGoesBack

theorem own_updateHighRxt (s : TCPReno) : Own s s.updateHighRxt := by
  refine ⟨alike_updateHighRxt s, ?_⟩
  rw [updateHighRxt]
  split
  · rfl
  · rfl

/-- There is nothing before `snd_una`. -/
theorem Held.covered_sndUna (h : s.Held) : s.CoveredTo mark (s.offset s.state.sndUna) := by
  intro x hx hbuffered
  rcases h.sndUna with hstart | ⟨-, -, hnone⟩
  · rw [hstart, offset, offset, BitVec.sub_self] at hx
    exact absurd hx (Nat.not_lt_zero _)
  · omega

theorem stdMin_eq_zero {w : Nat} {a b : BitVec w} (h : stdMin a b = 0) : a = 0 ∨ b = 0 := by
  rw [stdMin] at h
  split at h
  · exact .inr h
  · exact .inl h

/-- Where something is outstanding and no octet can be sent from `snd_una`, it is the FIN. -/
theorem Held.nothing_left (h : s.Held) (hmss : 0 < s.state.sndMss) (hout : s.state.sndUna ≠ s.state.sndMax)
    (hbytes : stdMin ((stdMin s.state.sndMss (s.state.sndMax - s.state.sndUna)).setWidth 64)
      (s.sendQueue.getBytesAvailable s.state.sndUna) = 0) : s.buffered = 0 := by
  rcases h.sndUna with hstart | ⟨-, -, hnone⟩
  · have hoffset : s.offset s.state.sndUna = 0 := by
      rw [hstart, offset, BitVec.sub_self]
      rfl
    have havailable := getBytesAvailable_of_le h.buffered (Nat.le_trans (Nat.le_of_eq hoffset) (Nat.zero_le _))
    rcases stdMin_eq_zero hbytes with hzero | hzero
    · have hsegment : stdMin s.state.sndMss (s.state.sndMax - s.state.sndUna) = 0 := by
        have hwidth := congrArg BitVec.toNat hzero
        exact BitVec.eq_of_toNat_eq hwidth
      rcases stdMin_eq_zero hsegment with hno | hno
      · rw [hno] at hmss
        exact absurd hmss (by decide)
      · exact absurd (show s.state.sndUna = s.state.sndMax by grind) hout
    · rw [hzero, hoffset] at havailable
      exact havailable.symm
  · exact hnone

theorem Held.retransmitOneSegment {calledAtRto : Bool} (h : s.Held) (hsent : mark ≤ s.sent.length)
    (hmss : 0 < s.state.sndMss) (hout : s.state.sndUna ≠ s.state.sndMax)
    (hmax : s.state.afterRto = false → s.CoveredTo mark (s.offset s.state.sndMax))
    (hnext : calledAtRto = false → s.state.afterRto = true → s.CoveredTo mark (s.offset s.state.sndNxt))
    (hrun : s.retransmitOneSegment calledAtRto = .ok s') : s'.GoesBack mark := by
  obtain ⟨hfin, rfl⟩ | ⟨bytes, s₁, hsegment, rfl⟩ := retransmitOneSegment_ok hrun
  · -- there is only the FIN
    have hnone := h.nothing_left hmss hout hfin.1
    have hcovered (t : TCPReno) (ht : t.sendQueue = s.sendQueue) (n : Nat) : t.CoveredTo mark n := by
      intro x _ hbuffered
      rw [TCPReno.buffered, offset, offset, ht] at hbuffered
      exact absurd (Nat.lt_of_lt_of_le hbuffered (Nat.le_of_eq hnone)) (Nat.not_lt_zero _)
    exact ⟨hmss, Nat.le_succ_of_le hsent, fun _ => hcovered _ (by rfl) _, fun _ => hcovered _ (by rfl) _⟩
  · have hkeep {n : Nat} (hn : s.CoveredTo mark n) : (s.setSndNxt s.state.sndUna).CoveredTo mark n :=
      hn.keep (keepsCovered_of_same rfl rfl rfl rfl) rfl
    obtain ⟨hsending, hkeeps, -⟩ := (h.at s.state.sndUna).sending hmss hsent (hkeep h.covered_sndUna)
      (fun hafter => hkeep (hmax hafter)) hsegment
    obtain ⟨forward, sentBytes, q, hsegment⟩ := sendSegment_run hsegment
    have hresult := hsegment.result
    have hsend : s₁.sendQueue = s.sendQueue := by rw [hresult]; rfl
    apply (own_updateHighRxt _).goesBack
    split
    · next hback =>
      -- `snd_nxt` is set back, and all before it was covered already
      refine ⟨hsending.sndMss, hsending.sent, ?_, fun hafter => (hsending.max hafter).keep (keepsCovered_of_same rfl rfl rfl rfl) rfl⟩
      intro hafter
      have hbefore : s.state.afterRto = true := by
        rw [hresult] at hafter
        exact (Bool.and_eq_true_iff.mp hafter).1
      have hcovered := (hkeep (hnext hback.1 hbefore)).keep hkeeps hsend
      change CoveredTo _ mark (s₁.offset s.state.sndNxt)
      rw [offset, hsend]
      exact hcovered.keep (keepsCovered_of_same rfl rfl rfl rfl) rfl
    · exact hsending.toGoesBack

theorem unsackedFrom_sndMax {conn : TCPConnection} {highest : SeqNo} {fuel : Nat}
    (hrun : conn.unsackedFrom highest fuel x = .ok (some seqNum)) : seqLess seqNum conn.state.sndMax := by
  induction fuel generalizing x with
  | zero => cases hrun
  | succ fuel ih =>
    rw [TCPConnection.unsackedFrom] at hrun
    split at hrun
    · next hless =>
      obtain ⟨⟨shift, sacked, rexmitted⟩, -, hrun⟩ := bind_ok.mp hrun
      simp only at hrun
      split at hrun
      · exact ih hrun
      · cases hrun
        exact hless.1
    · cases hrun

/-- Nothing beyond `snd_max` is chosen. -/
theorem nextSeg_sndMax {conn conn' : TCPConnection} (hnext : conn.nextSeg = .ok (conn', some seqNum)) :
    seqLE seqNum conn.state.sndMax := by
  have hmax : conn.setHighRxt.state.sndMax = conn.state.sndMax := rfl
  rw [TCPConnection.nextSeg] at hnext
  obtain ⟨-, hnext⟩ := ensure_bind_ok.mp hnext
  obtain ⟨first, hfirst, hnext⟩ := bind_ok.mp hnext
  cases first with
  | some s2 =>
    cases hnext
    rw [TCPConnection.firstLost] at hfirst
    obtain ⟨o, hunsacked, hfirst⟩ := bind_ok.mp hfirst
    cases o with
    | none => cases hfirst
    | some s2 =>
      obtain ⟨lost, -, hfirst⟩ := bind_ok.mp hfirst
      cases lost with
      | false => cases hfirst
      | true =>
        cases hfirst
        exact (unsackedFrom_sndMax hunsacked).2
  | none =>
    simp only at hnext
    split at hnext
    · cases hnext
      rw [seqLE, hmax, BitVec.sub_self]
      decide
    · obtain ⟨last, hlast, hnext⟩ := bind_ok.mp hnext
      cases hnext
      exact (unsackedFrom_sndMax hlast).2

theorem GoesBack.recoverySegment {conn : TCPConnection} (h : s.GoesBack mark) (hs : s.Placed)
    (hclear : Clear mark s seqNum) (hnext : s.toTCPConnection.nextSeg = .ok (conn, some seqNum))
    (hrun : (s.setConnection conn).sendSegmentDuringLossRecoveryPhase seqNum = .ok s') : s'.GoesBack mark := by
  have hsndMax := nextSeg_sndMax hnext
  rw [TCPConnection.nextSeg_fst hnext, sendSegmentDuringLossRecoveryPhase] at hrun
  obtain ⟨-, hrun⟩ := ensure_bind_ok.mp hrun
  obtain ⟨s₁, hsegment, hrun⟩ := bind_ok.mp hrun
  obtain ⟨-, hrun⟩ := ensure_bind_ok.mp hrun
  cases hrun
  have hheld := ((own_setHighRxt s).placed hs).toHeld.at seqNum
  obtain ⟨forward, sentBytes, q, hsegment'⟩ := sendSegment_run hsegment
  have hall : s.CoveredTo mark (s.offset seqNum) := by
    apply h.before hclear
    intro hafter
    have hforward : forward = 0#32 := hsegment'.unforwarded (.inr hafter)
    have hstart : seqLE s.sendQueue.bufferStartSeq (seqNum + forward) := hsegment'.start
    rw [hforward, BitVec.add_zero] at hstart
    rwa [seqLE_offset s.sendQueue.bufferStartSeq hstart (hs.toHeld.offset_lt hs.sndMax)] at hsndMax
  have hkeep {n : Nat} (hn : s.CoveredTo mark n) :
      ((s.setConnection s.toTCPConnection.setHighRxt).setSndNxt seqNum).CoveredTo mark n :=
    hn.keep (keepsCovered_of_same rfl rfl rfl rfl) rfl
  obtain ⟨hsending, -, hsent⟩ := hheld.sending h.sndMss h.sent (hkeep hall) (fun hafter => hkeep (h.max hafter)) hsegment
  have hsend : s₁.sendQueue = s.sendQueue := by rw [hsegment'.result]; rfl
  have hrxt : ∃ s₂ : TCPReno, (if seqLess seqNum s₁.state.sndMax then s₁.setConnection s₁.toTCPConnection.setHighRxt
      else s₁) = s₂ ∧ s₂.GoesBack mark ∧ s₂.CoveredTo mark (s₂.offset (seqNum + s₁.state.sentBytes)) := by
    have hsent : s₁.CoveredTo mark (s₁.offset (seqNum + s₁.state.sentBytes)) := by
      rw [offset, hsend]
      exact hsent
    split
    · exact ⟨_, rfl, (own_setHighRxt s₁).goesBack hsending.toGoesBack,
        hsent.keep (keepsCovered_of_same rfl rfl rfl rfl) rfl⟩
    · exact ⟨_, rfl, hsending.toGoesBack, hsent⟩
  obtain ⟨s₂, heq, hback₂, hsent₂⟩ := hrxt
  rw [heq]
  split
  · -- `snd_max` becomes the end of the segment
    have hkeep₂ {n : Nat} (hn : s₂.CoveredTo mark n) : (s₂.setSndMax (seqNum + s₁.state.sentBytes)).CoveredTo mark n :=
      hn.keep (keepsCovered_of_same rfl rfl rfl rfl) rfl
    exact ⟨hback₂.sndMss, hback₂.sent, fun hafter => hkeep₂ (hback₂.next hafter), fun _ => hkeep₂ hsent₂⟩
  · exact hback₂

theorem keepsCovered_sackBlock {tmp : Sack} (hq : s.rexmitQueue.Short)
    (hrun : sackBlock ackNo s tmp = .ok s') : KeepsCovered s s' mark := by
  rw [TCPReno.sackBlock] at hrun
  split at hrun
  · obtain ⟨q, hsacked, hrun⟩ := bind_ok.mp hrun
    cases hrun
    obtain ⟨q', hok, -, -, -, hoctets⟩ := hq.setSackedBit (Sackable.of_ok hsacked)
    rw [hsacked] at hok
    cases hok
    refine keepsCovered_of_octets (by rfl) (by rfl) (by rfl) ?_
    intro n f hf hover
    change ∃ g, q.octets[n]? = some g ∧ _
    rw [hoctets, onRange, List.getElem?_mapIdx, hf]
    refine ⟨_, rfl, ?_⟩
    split
    · exact .inl rfl
    · exact hover
  · cases hrun
    exact fun _ _ hcovered => hcovered

theorem GoesBack.sackBlocks {sacks : List Sack} (h : s.GoesBack mark) (hq : s.rexmitQueue.Short)
    (hrun : sacks.foldlM (TCPReno.sackBlock ackNo) s = .ok s') : s'.GoesBack mark := by
  have hstep (s : TCPReno) (tmp : Sack) (h : s.GoesBack mark ∧ s.rexmitQueue.Short) :
      Ensures (TCPReno.sackBlock ackNo s tmp) fun s₁ => s₁.GoesBack mark ∧ s₁.rexmitQueue.Short := by
    intro s₁ hblock
    obtain ⟨h, hq⟩ := h
    obtain ⟨hstate, hq₁, -⟩ := onlyMarked_sackBlock hq hblock
    have hkeeps : KeepsCovered s s₁ mark := keepsCovered_sackBlock hq hblock
    have hsame : s₁.sendQueue = s.sendQueue ∧ s₁.sent = s.sent := by
      rw [TCPReno.sackBlock] at hblock
      split at hblock
      · obtain ⟨q, -, hblock⟩ := bind_ok.mp hblock
        cases hblock
        exact ⟨rfl, rfl⟩
      · cases hblock
        exact ⟨rfl, rfl⟩
    exact ⟨h.of_same hsame.1 hkeeps hsame.2 (by rw [hstate]) (fun _ => by rw [hstate]) (by rw [hstate])
      (by rw [hstate]), hq₁⟩
  exact (Ensures.foldlM_invariant hstep ⟨h, hq⟩ s' hrun).1

theorem GoesBack.processSACKOption (h : s.GoesBack mark) (hs : s.Placed) (hrun : s.processSACKOption seg = .ok s') :
    s'.GoesBack mark := by
  obtain rfl | ⟨hsack, s₁, hblocks, rfl⟩ := processSACKOption_ok hrun
  · exact h
  · have hown : Own s₁ { s₁ with sackedBytesOld := s₁.sackedBytes
                                 sackedBytes := s₁.rexmitQueue.getTotalAmountOfSackedBytes } :=
      ⟨⟨rfl, rfl, rfl, rfl, rfl, rfl, rfl, rfl, rfl, rfl, rfl⟩, rfl⟩
    exact hown.goesBack (h.sackBlocks (hs.together hsack).queue hblocks)

/-- What remains in the queues keeps its octets. -/
theorem Discarded.covered (hdiscarded : Discarded s s' seqNum) (hrun : s.discardAcked seqNum = .ok s')
    (htogether : s.state.sackEnabled = true → s.Together) (hle : s.offset seqNum ≤ s.offset x)
    (hcovered : s.Covered mark x) : s'.Covered mark x := by
  have hoffset : s'.offset x = s.offset x - s.offset seqNum := by
    rw [offset, hdiscarded.sendQueue]
    rw [toNat_sub_offset s.sendQueue.bufferStartSeq]
    exact if_pos hle
  obtain ⟨q, rfl, hqueue, -⟩ := discardAcked_ok hrun
  rcases hcovered with hsent | ⟨henabled, f, hf, hover⟩
  · exact .inl hsent
  · right
    obtain ⟨-, -, -, hoctets⟩ := (htogether henabled).queue.discardUpTo (hqueue henabled)
    rw [(htogether henabled).position] at hoctets
    refine ⟨henabled, f, ?_, hover⟩
    rw [hoffset]
    rw [hoctets, List.getElem?_drop, Nat.add_sub_cancel' hle]
    exact hf

theorem Discarded.coveredTo (hdiscarded : Discarded s s' seqNum) (hrun : s.discardAcked seqNum = .ok s')
    (htogether : s.state.sackEnabled = true → s.Together) (hbuffered : s.buffered < 2 ^ 31) {y : SeqNo}
    (hle : s.offset seqNum ≤ s.offset y) (hreach : s.offset seqNum ≤ s.buffered) (h : s.CoveredTo mark (s.offset y)) :
    s'.CoveredTo mark (s'.offset y) := by
  have hoffset (x : SeqNo) : s'.offset x = if s.offset seqNum ≤ s.offset x then s.offset x - s.offset seqNum
      else 2 ^ 32 - (s.offset seqNum - s.offset x) := by
    rw [offset, hdiscarded.sendQueue]
    exact toNat_sub_offset s.sendQueue.bufferStartSeq seqNum x
  have hrest : s'.buffered = s.buffered - s.offset seqNum := by
    have hend := hoffset s.sendQueue.bufferEndSeq
    rw [if_pos (show s.offset seqNum ≤ s.offset s.sendQueue.bufferEndSeq from hreach)] at hend
    rw [TCPReno.buffered, TCPReno.buffered, ← hend, hdiscarded.sendQueue]
  intro x hx hx'
  have hy := hoffset y
  rw [if_pos hle] at hy
  have hbehind : s.offset seqNum ≤ s.offset x := by
    by_contra hbefore
    rw [hoffset x, if_neg hbefore] at hx'
    omega
  rw [hoffset x, if_pos hbehind] at hx hx'
  exact hdiscarded.covered hrun htogether hbehind (h x (by omega) (by omega))

/-- The acknowledged octets are gone, and the others stay covered. -/
theorem GoesBack.acknowledge (h : s.GoesBack mark) (hs : s.Placed) (hsent : seqLE seg.ackNo s.state.sndMax)
    (hrun : s.acknowledge seg = .ok s') : s'.GoesBack mark := by
  obtain ⟨s₁, hdiscard, rfl⟩ := acknowledge_ok hrun
  apply (own_updateWndInfo s₁ seg).goesBack
  have hentry := hdiscard
  rw [TCPReno.discardAcked] at hentry
  obtain ⟨hstart, -⟩ := (ensure_bind_ok.mp hentry).1
  have htogether (hsack : (s.advance seg).state.sackEnabled = true) : (s.advance seg).Together :=
    (hs.together hsack).of_same rfl rfl
  have hdiscarded : Discarded (s.advance seg) s₁ (s.discardUpToSeq seg) := discarded htogether hs.buffered hdiscard
  obtain ⟨hnear, hle, hplace⟩ := hs.toHeld.acked hstart
  have hwithin : s.offset (s.discardUpToSeq seg) ≤ s.buffered := Nat.le_trans hdiscarded.le hs.toHeld.reach_le
  have hsame : s₁.state = (s.advance seg).state ∧ s₁.sent = s.sent := by
    obtain ⟨q, rfl, -⟩ := discardAcked_ok hdiscard
    exact ⟨rfl, rfl⟩
  obtain ⟨hstate, hsegments⟩ := hsame
  -- what lies at the acknowledgement or behind it
  have hshift {y : SeqNo} (hcovered : s.CoveredTo mark (s.offset y)) (hbehind : s.offset seg.ackNo ≤ s.offset y) :
      s₁.CoveredTo mark (s₁.offset y) := by
    have hadvanced : (s.advance seg).CoveredTo mark ((s.advance seg).offset y) :=
      hcovered.keep (keepsCovered_of_same rfl rfl rfl rfl) rfl
    exact hdiscarded.coveredTo hdiscard htogether hs.buffered (Nat.le_trans hle hbehind) hwithin hadvanced
  have hnothing : s₁.CoveredTo mark (s₁.offset seg.ackNo) := by
    intro x hx hx'
    have hself (y : SeqNo) : (y - y).toNat = 0 := by rw [BitVec.sub_self]; rfl
    rcases hplace with hsame | ⟨-, -, hlast⟩
    · have hzero : s₁.offset seg.ackNo = 0 := by
        rw [offset, hdiscarded.sendQueue, hsame]
        exact hself _
      omega
    · have hzero : s₁.buffered = 0 := by
        rw [buffered, offset, hdiscarded.sendQueue, hlast]
        exact hself _
      omega
  refine ⟨?_, ?_, ?_, ?_⟩
  · rw [hstate]
    exact h.sndMss
  · rw [hsegments]
    exact h.sent
  · rw [hstate]
    intro hafter
    change s₁.CoveredTo mark (s₁.offset (if seqLess s.state.sndNxt seg.ackNo then seg.ackNo else s.state.sndNxt))
    split
    · exact hnothing
    · next hnot =>
      apply hshift (h.next hafter)
      rw [seqLess_offset s.sendQueue.bufferStartSeq (hs.toHeld.offset_lt hs.sndNxt) hnear] at hnot
      exact Nat.le_of_not_lt hnot
  · rw [hstate]
    intro hafter
    apply hshift (h.max hafter)
    rwa [seqLE_offset s.sendQueue.bufferStartSeq hnear (hs.toHeld.offset_lt hs.sndMax)] at hsent

theorem GoesBack.enqueueAppData {byteLength : SeqNo} (h : s.GoesBack mark) (hs : s.Placed)
    (hopen : s.state.sendFin = false) (hrun : s.enqueueAppData byteLength = .ok s') : s'.GoesBack mark := by
  obtain rfl := enqueueAppData_ok hrun
  -- all that has been sent was in the queue before
  have hgrow {y : SeqNo} (hin : s.InReach y) (hcovered : s.CoveredTo mark (s.offset y)) (t : TCPReno)
      (hoffset : t.offset = s.offset) (hsame : t.Covered mark = s.Covered mark) : t.CoveredTo mark (t.offset y) := by
    intro x hx _
    rw [hoffset] at hx
    rw [hsame]
    have hle : s.offset y ≤ s.reach := hin.resolve_right fun hfin => absurd (hopen.symm.trans hfin.1) (by decide)
    exact hcovered x hx (Nat.lt_of_lt_of_le hx (Nat.le_trans hle hs.toHeld.reach_le))
  exact ⟨h.sndMss, h.sent, fun hafter => hgrow hs.sndNxt (h.next hafter) _ rfl rfl,
    fun hafter => hgrow hs.sndMax (h.max hafter) _ rfl rfl⟩

/-- Whatever acknowledgements and data from the application lead to leaves nothing out. -/
theorem GoesBack.call (h : s.GoesBack mark) (hs : s.Placed)
    (hcall : AckCall (Clear mark) s s') : s'.GoesBack mark := by
  cases hcall with
  | own hown => exact hown.goesBack h
  | sendData hrun => exact h.sendData hs hrun
  | sendOneNewSegment hclear hrun => exact h.sendOneNewSegment hs hclear hrun
  | retransmitOneSegment hout hrun =>
    exact hs.toHeld.retransmitOneSegment h.sent h.sndMss hout h.max (fun _ => h.next) hrun
  | recoverySegment hclear hnext hrun => exact h.recoverySegment hs hclear hnext hrun
  | processSACKOption hrun => exact h.processSACKOption hs hrun
  | acknowledge _ hsent hrun => exact h.acknowledge hs hsent hrun
  | enqueueAppData hopen _ hrun => exact h.enqueueAppData hs hopen hrun

end Calls

section TimedOut

variable {s s' : TCPReno} {mark : Nat}

theorem forgetSacks_frame (s : TCPReno) : s.forgetSacks.sent = s.sent ∧
    s.forgetSacks.state.sndMss = s.state.sndMss ∧ s.forgetSacks.state.sndUna = s.state.sndUna ∧
    s.forgetSacks.state.sndMax = s.state.sndMax := by
  rw [forgetSacks]
  split
  · split
    · exact ⟨rfl, rfl, rfl, rfl⟩
    · exact ⟨rfl, rfl, rfl, rfl⟩
  · exact ⟨rfl, rfl, rfl, rfl⟩

/-- The first segment is sent again. -/
theorem TimedOut.goesBack (h : s.TimedOut mark) : s.Placed ∧ s.GoesBack mark := by
  obtain ⟨t, u, hdriven, hmss, hout, hown, hrun, rfl⟩ := h
  obtain ⟨hsent, hsndMss, huna, hmax⟩ := forgetSacks_frame t
  have hplaced := hown.placed hdriven.placed.rexmitTimer
  have hafter : u.state.afterRto = true := hown.afterRto
  refine ⟨hplaced.retransmitOneSegment hrun, ?_⟩
  apply hplaced.toHeld.retransmitOneSegment _ _ _ _ _ hrun
  · exact Nat.le_of_eq (congrArg List.length (hown.sent.trans hsent)).symm
  · rw [hown.sndMss]
    change 0 < t.forgetSacks.state.sndMss
    rw [hsndMss]
    exact hmss
  · rw [hown.sndUna, hown.sndMax]
    intro heq
    exact hout (huna.symm.trans (heq.trans hmax))
  · intro hno
    exact absurd (hno.symm.trans hafter) (by decide)
  · intro hno
    cases hno

theorem GoesBack.nothingSkipped (h : s.GoesBack mark) (hs : s.Placed) : s.NothingSkipped mark := by
  intro x hbuffered hmax hnext
  have hstart : s.state.sndUna = s.sendQueue.bufferStartSeq := by
    apply hs.sndUna.resolve_right
    rintro ⟨-, -, hnone⟩
    omega
  have hahead (y : SeqNo) : s.ahead y = s.offset y := by rw [ahead, offset, hstart]
  rw [hahead, hahead] at hmax hnext
  cases hafter : s.state.afterRto with
  | true => exact h.next hafter x hnext hbuffered
  | false => exact h.max hafter x hmax hbuffered

/-- After a timeout `snd_nxt` does not skip anything, as long as all segments that start somewhere else than at
`snd_nxt` or `snd_una` find everything before them covered. -/
theorem nothing_skipped (hs : s.TimedOut mark) (hcalls : ReflTransGen (AckCall (Clear mark)) s s') :
    s'.NothingSkipped mark := by
  have hgoal : s'.Placed ∧ s'.GoesBack mark := by
    induction hcalls with
    | refl => exact hs.goesBack
    | tail _ hcall ih => exact ⟨ih.1.call hcall.call, ih.2.call ih.1 hcall⟩
  exact hgoal.2.nothingSkipped hgoal.1

theorem timedOut_processRexmitTimer {t : TCPReno} (ht : t.Driven) (hmss : 0 < t.state.sndMss)
    (hout : t.state.sndUna ≠ t.state.sndMax) (hrun : t.processRexmitTimer = .ok s) : s.TimedOut t.sent.length := by
  refine ⟨t, _, ht, hmss, hout, ?_, hrun, rfl⟩
  exact ⟨⟨rfl, rfl, rfl, rfl, rfl, rfl, rfl, rfl, rfl, rfl, rfl⟩, rfl⟩

/-- Four segments have been sent, and after the timeout the first and the second one again. -/
def sentAgain : Sim (TCPReno × TCPReno × TCPReno) := do
  let t ← allSent
  let s ← t.processRexmitTimer
  let s' ← s.sendData false 8
  return (t, s, s')

theorem sentAgain_nothingSkipped : ∃ run, sentAgain = .ok run ∧ run.2.2.NothingSkipped 4 := by
  refine exists_ok rfl ?_
  rintro ⟨t, s, s'⟩ hrun
  have hstate : ∀ run, sentAgain = .ok run → 0 < run.1.state.sndMss ∧ run.1.state.sndUna ≠ run.1.state.sndMax ∧
      run.1.sent.length = 4 := by decide
  obtain ⟨hmss, hout, hlength⟩ := hstate _ hrun
  obtain ⟨t₀, hsent, hrun⟩ := bind_ok.mp hrun
  obtain ⟨s₀, htimer, hrun⟩ := bind_ok.mp hrun
  obtain ⟨s₁, hdata, hrun⟩ := bind_ok.mp hrun
  cases hrun
  have htimedOut := timedOut_processRexmitTimer (allSent_reached hsent).driven hmss hout htimer
  rw [hlength] at htimedOut
  exact nothing_skipped htimedOut (.single (.sendData hdata))

/-- No selective acknowledgements, but limited transmit; the window is open for two segments. -/
def limited : TCPReno :=
  { waiting with state := { waiting.state with sackEnabled := false, limitedTransmitEnabled := true, sndWnd := 8 } }

theorem limited_opened : limited.Opened := by
  refine ⟨⟨rfl, ?_⟩, rfl, rfl, rfl, rfl⟩
  decide

/-- The first segment is missing, and the window has grown. -/
def windowUpdate : AckSegment := { sequenceNo := 1, ackNo := 1000, window := 100 }

/-- After the timeout the first segment is sent again, and limited transmit goes on behind the second one, which
is not sent again. -/
theorem limitedTransmit_skips : ∃ s s', s.TimedOut 2 ∧ s.receivedSegment windowUpdate false = .ok s' ∧
    AckCalls s s' ∧ ¬ s'.NothingSkipped 2 := by
  obtain ⟨⟨t, s, s'⟩, hrun, hmss, hout, hlength, hskipped, hbefore, huncovered⟩ := exists_ok
    (x := (do
      let t ← limited.step (.established false)
      let s ← t.processRexmitTimer
      let s' ← s.receivedSegment windowUpdate false
      return (t, s, s') : Sim (TCPReno × TCPReno × TCPReno)))
    (p := fun run => 0 < run.1.state.sndMss ∧ run.1.state.sndUna ≠ run.1.state.sndMax ∧ run.1.sent.length = 2 ∧
      run.2.2.offset 1004 < run.2.2.buffered ∧
      (run.2.2.ahead 1004 < run.2.2.ahead run.2.2.state.sndMax ∧ run.2.2.ahead 1004 < run.2.2.ahead run.2.2.state.sndNxt) ∧
      run.2.2.state.sackEnabled = false ∧ ∀ seg ∈ run.2.2.sent.take (run.2.2.sent.length - 2),
        ¬ ((1004 : SeqNo) - seg.sequenceNo).toNat < seg.payloadLength.toNat) (by decide) (by decide)
  obtain ⟨t₀, hsent, hrun⟩ := bind_ok.mp hrun
  obtain ⟨s₀, htimer, hrun⟩ := bind_ok.mp hrun
  obtain ⟨s₁, hsegment, hrun⟩ := bind_ok.mp hrun
  cases hrun
  have hfills : Fills limited (.established false) := trivial
  have hdriven : t.Driven := ⟨limited, limited_opened, calls_step hfills hsent⟩
  have htimedOut := timedOut_processRexmitTimer hdriven hmss hout htimer
  rw [hlength] at htimedOut
  refine ⟨s, s', htimedOut, hsegment, ackCalls_receivedSegment hsegment, ?_⟩
  intro hnothing
  rcases hnothing 1004 hskipped hbefore.1 hbefore.2 with ⟨seg, hmem, hin⟩ | ⟨hsack, -⟩
  · exact huncovered.2 seg hmem hin
  · exact absurd (hsack.symm.trans huncovered.1) (by decide)

end TimedOut

end TCPReno

end Inet.Tcp
