import Inetmanet.Tcp.ReceiveWindow
import Inetmanet.Tcp.SACKBlocks

/-!
# The edges of the window over a run

The right edge stays in front of the left one as long as nothing is taken in that
lies behind it, a FIN included. Then no call wraps around, and the shift count
chosen for the buffer makes the window fit in the header.
-/
namespace Inet.Tcp

open SerialNumber SpanList BitVec Except DataReceiver Region
open Nat (sub_le shiftRight_eq_div_pow mod_eq_of_lt le_succ)

namespace WindowReceiver

/-- The largest window that is ever advertised. -/
def limit (w : WindowReceiver) : Nat :=
  if w.state.wsEnabled then max w.state.maxRcvBuffer.toNat 65535 else 65535

/-- The largest buffer for which the shift count suffices. -/
def Scalable (w : WindowReceiver) : Prop := w.state.maxRcvBuffer.toNat < 2 ^ 30
deriving Decidable

/-- The condition on an event. Text that is taken, or the window it is cut to, ends within what has
been advertised, and no FIN is passed at the right edge. -/
def Allowed (w : WindowReceiver) : WindowEvent → Prop
  | .synReceived _ => True
  | .readWindowScale => w.state.wsSupport = true → w.sndWs = true → w.Scalable
  | .writeWindowScale => w.receiver.receiveQueue = .init w.state.rcvNxt ∧
      (w.state.wsSupport = true → w.rcvWs = true → w.Scalable)
  | .insertText tcpseg => ¬ (w.finPassed ∨ tcpseg.payloadLength = 0 ∨ ¬ w.state.isSegmentAcceptable tcpseg) →
      tcpseg.payloadLength + w.state.rcvWnd.toNat ≤ 2 ^ 31 ∧
      (seqLE tcpseg.endNo w.state.rcvAdv ∨ seqLE (w.state.rcvNxt + w.state.rcvWnd) w.state.rcvAdv) ∧
      ∀ region ∈ w.receiver.receiveQueue.regionList, seqLess w.state.rcvNxt region.beginNo
  | .forwardText => ¬ (w.state.finRcvd = true ∧ w.state.rcvNxt = w.state.rcvFinSeq ∧ w.state.rcvFinSeq = w.state.rcvAdv)
  | .takeFin tcpseg => ¬ (tcpseg.finBit = true ∧ tcpseg.endNo = w.state.rcvNxt ∧ tcpseg.endNo = w.state.rcvAdv)
  | .updateRcvWnd => True

instance (w : WindowReceiver) (e : WindowEvent) : Decidable (w.Allowed e) := by
  cases e <;> unfold Allowed <;> infer_instance

def AllAllowed (w : WindowReceiver) : List WindowEvent → Prop
  | [] => True
  | e :: events => w.Allowed e ∧ ∀ w', w.step e = .ok w' → w'.AllAllowed events

instance decidableAllAllowed (events : List WindowEvent) : ∀ w : WindowReceiver, Decidable (w.AllAllowed events) :=
  match events with
  | [] => fun _ => isTrue trivial
  | e :: events => fun w =>
    have (w' : WindowReceiver) : Decidable (w'.AllAllowed events) := decidableAllAllowed events w'
    inferInstanceAs (Decidable (w.Allowed e ∧ ∀ w', w.step e = .ok w' → w'.AllAllowed events))

/-- The edges of the window, as positions, and what the window scale option rests on. -/
structure Edges (base : SeqNo) (rcv adv : Nat) (w : WindowReceiver) : Prop where
  rcvNxt : w.state.rcvNxt = nth base rcv
  rcvAdv : w.state.rcvAdv = nth base adv
  le : rcv ≤ adv
  adv_le : adv ≤ rcv + w.limit
  rcvWnd_le : w.state.rcvWnd.toNat ≤ w.limit
  scale : w.sndWs = true → w.rcvWndScale ≤ 14 ∧
    (w.Scalable → max w.state.maxRcvBuffer.toNat 65535 / 2 ^ w.rcvWndScale < 2 ^ 16)
  enabled : w.state.wsEnabled = true →
    w.state.wsSupport = true ∧ w.sndWs = true ∧ w.rcvWs = true ∧ w.Scalable

/-- While text is taken in, the queue holds nothing behind the right edge. -/
def TextWithin (base : SeqNo) (rcv adv : Nat) (w : WindowReceiver) : Prop :=
  w.finPassed = false → ∃ start seen low spans, 2 ^ 31 ≤ start ∧
    Tracks base (Region.ofSpan base) start seen low rcv spans w.receiver.receiveQueue ∧
    ∀ s ∈ spans, s.hi ≤ adv

theorem getAmountOfFreeBytes_le (q : TCPVirtualDataRcvQueue Region) (maxRcvBuffer : SeqNo) :
    (q.getAmountOfFreeBytes maxRcvBuffer).toNat ≤ maxRcvBuffer.toNat := by
  rw [TCPVirtualDataRcvQueue.getAmountOfFreeBytes]
  split
  · next h =>
    rw [toNat_sub_of_le (le_def.mpr (Nat.le_of_lt h))]
    exact sub_le _ _
  · exact Nat.zero_le _

namespace Edges

variable {base : SeqNo} {rcv adv : Nat} {w : WindowReceiver}

section

variable (h : Edges base rcv adv w)
include h

theorem limit_lt : w.limit < 2 ^ 30 := by
  rw [limit]
  split
  · next henabled =>
    have := (h.enabled henabled).2.2.2
    rw [Scalable] at this
    omega
  · decide

/-- The window that `updateRcvWnd` chooses. -/
theorem windowFor_le : w.receiver.updateRcvQueueVars.state.windowFor.toNat ≤ w.limit := by
  have hlimit := h.limit_lt
  have hle := h.le
  have hadv := h.adv_le
  have hwin := WindowReceiver.windowFor_le w.receiver.updateRcvQueueVars.state
  have hfree : w.receiver.updateRcvQueueVars.state.freeRcvBuffer.toNat ≤ w.state.maxRcvBuffer.toNat :=
    getAmountOfFreeBytes_le w.receiver.receiveQueue w.state.maxRcvBuffer
  have hdist : (w.receiver.updateRcvQueueVars.state.rcvAdv -
      w.receiver.updateRcvQueueVars.state.rcvNxt).toNat = adv - rcv := by
    change (w.state.rcvAdv - w.state.rcvNxt).toNat = _
    rw [h.rcvNxt, h.rcvAdv, toNat_nth_sub base hle (by omega)]
  cases henabled : w.state.wsEnabled with
  | true =>
    have heq : w.limit = max w.state.maxRcvBuffer.toNat 65535 := by rw [limit, henabled, if_pos rfl]
    omega
  | false =>
    have heq : w.limit = 65535 := by rw [limit, henabled, if_neg (Bool.false_ne_true)]
    rw [heq]
    exact windowFor_le_of_not_enabled _ henabled

/-- A call of `updateRcvWnd` goes through, and the right edge moves to the right if at all. -/
theorem updateRcvWnd :
    ∃ w' header adv', w.updateRcvWnd = .ok (w', header) ∧ w.Advertises w' header ∧ adv ≤ adv' ∧
      Edges base rcv adv' w' ∧ w'.receiver.receiveQueue = w.receiver.receiveQueue ∧
      w'.finPassed = w.finPassed := by
  have hlimit := h.limit_lt
  have hle := h.le
  have hadv := h.adv_le
  have hwin := h.windowFor_le
  have hbound := WindowReceiver.windowFor_le w.receiver.updateRcvQueueVars.state
  generalize hw : w.receiver.updateRcvQueueVars.state.windowFor = win at hwin hbound
  have hassert : w.state.wsEnabled = true → w.rcvWndScale ≤ 14 := fun henabled =>
    (h.scale (h.enabled henabled).2.1).1
  -- the scaled window
  have hscaled : (if w.state.wsEnabled = true then win >>> w.rcvWndScale else win).toNat < 2 ^ 16 := by
    cases henabled : w.state.wsEnabled with
    | true =>
      obtain ⟨-, hsnd, -, hscalable⟩ := h.enabled henabled
      have hfits := (h.scale hsnd).2 hscalable
      have heq : w.limit = max w.state.maxRcvBuffer.toNat 65535 := by rw [limit, henabled, if_pos rfl]
      rw [if_pos rfl, toNat_ushiftRight, shiftRight_eq_div_pow]
      exact Nat.lt_of_le_of_lt (Nat.div_le_div_right (heq ▸ hwin)) hfits
    | false =>
      have heq : w.limit = 65535 := by rw [limit, henabled, if_neg (Bool.false_ne_true)]
      rw [if_neg (Bool.false_ne_true)]
      omega
  generalize hs : (if w.state.wsEnabled = true then win >>> w.rcvWndScale else win) = scaled at hscaled
  have hfit : (scaled.setWidth 16).setWidth 32 = scaled := by
    apply eq_of_toNat_eq
    rw [toNat_setWidth, toNat_setWidth]
    omega
  -- the right edge
  have hge : seqGE (w.state.rcvNxt + win) w.state.rcvAdv ↔ adv ≤ rcv + win.toNat := by
    rw [h.rcvNxt, h.rcvAdv, nth_add_window]
    exact seqGE_nth (by omega) (by omega)
  have hpos : win > 0 ↔ 0 < win.toNat := by rw [gt_iff_lt, lt_def]; rfl
  obtain ⟨adv', hadv', hedge, hlt⟩ : ∃ adv', (if win > 0 ∧ seqGE (w.state.rcvNxt + win) w.state.rcvAdv then
      w.state.rcvNxt + win else w.state.rcvAdv) = nth base adv' ∧ adv ≤ adv' ∧ adv' ≤ rcv + w.limit := by
    by_cases hmove : 0 < win.toNat ∧ adv ≤ rcv + win.toNat
    · rw [if_pos ⟨hpos.mpr hmove.1, hge.mpr hmove.2⟩, h.rcvNxt, nth_add_window]
      exact ⟨_, rfl, hmove.2, by omega⟩
    · rw [if_neg fun hc => hmove ⟨hpos.mp hc.1, hge.mp hc.2⟩]
      exact ⟨adv, h.rcvAdv, Nat.le_refl _, hadv⟩
  have hcall : w.updateRcvWnd = .ok (w.withState { w.receiver.updateRcvQueueVars.state with
      rcvAdv := nth base adv', rcvWnd := win }, scaled.setWidth 16) := by
    have hadv'' : (if win > 0 ∧ seqGE (w.receiver.updateRcvQueueVars.state.rcvNxt + win)
        w.receiver.updateRcvQueueVars.state.rcvAdv then w.receiver.updateRcvQueueVars.state.rcvNxt + win
        else w.receiver.updateRcvQueueVars.state.rcvAdv) = nth base adv' := hadv'
    have hws : w.receiver.updateRcvQueueVars.state.wsEnabled = w.state.wsEnabled := rfl
    rw [WindowReceiver.updateRcvWnd]
    simp only [hw, hadv'', hws, ensure_pos hassert, hs, ensure_pos hfit]
    rfl
  refine ⟨_, _, adv', hcall, ?_, hedge, ?_, rfl, rfl⟩
  · constructor
    · rw [h.rcvNxt, h.rcvAdv, seqLE_nth (by omega) (by omega)]
      exact hle
    · exact hbound
    · change seqLE w.state.rcvAdv (nth base adv')
      rw [h.rcvAdv, seqLE_nth (by omega) (by omega)]
      exact hedge
    · rw [toNat_setWidth, mod_eq_of_lt hscaled, ← hs]
      split
      · rw [toNat_ushiftRight, shiftRight_eq_div_pow]
        rfl
      · rfl
  · exact ⟨h.rcvNxt, rfl, Nat.le_trans hle hedge, hlt, hwin, h.scale, h.enabled⟩

theorem callMeets : w.CallMeets := by
  obtain ⟨w', header, -, hcall, hmeets, -⟩ := h.updateRcvWnd
  exact ⟨w', header, hcall, hmeets⟩

/-- The left edge may move up to the right one. -/
theorem advance {rcv' : Nat} {w' : WindowReceiver} (hrcv : rcv ≤ rcv') (hle : rcv' ≤ adv)
    (hnxt : w'.state.rcvNxt = nth base rcv') (hadv : w'.state.rcvAdv = w.state.rcvAdv)
    (hwnd : w'.state.rcvWnd = w.state.rcvWnd) (hmax : w'.state.maxRcvBuffer = w.state.maxRcvBuffer)
    (hws : w'.state.wsEnabled = w.state.wsEnabled) (hsupport : w'.state.wsSupport = w.state.wsSupport)
    (hscale : w'.rcvWndScale = w.rcvWndScale) (hsnd : w'.sndWs = w.sndWs) (hrws : w'.rcvWs = w.rcvWs) :
    Edges base rcv' adv w' := by
  have hlimit : w'.limit = w.limit := by rw [limit, limit, hws, hmax]
  have hscalable : w'.Scalable ↔ w.Scalable := by rw [Scalable, Scalable, hmax]
  have hadv' := h.adv_le
  constructor
  · exact hnxt
  · exact hadv.trans h.rcvAdv
  · exact hle
  · omega
  · rw [hwnd, hlimit]
    exact h.rcvWnd_le
  · rw [hsnd, hscale, hmax, hscalable]
    exact h.scale
  · rw [hws, hsupport, hsnd, hrws, hscalable]
    exact h.enabled

end

end Edges

section Text

variable {base : SeqNo} {rcv adv start low : Nat} {seen : Nat → Prop} {spans : List Span}
  {q : TCPVirtualDataRcvQueue Region}

/-- What is left of a segment once it has been cut to the window, where one of the two ends between
the edges. -/
theorem truncateSegment_within {tcpseg cut : TCPSegment} {rcvWnd : SeqNo} (hstart : 2 ^ 31 ≤ rcv)
    (hrange : adv < rcv + 2 ^ 31) (hle : rcv ≤ adv) (hpos : tcpseg.payloadLength ≠ 0) (hwnd : rcvWnd ≠ 0)
    (hlen : tcpseg.payloadLength + rcvWnd.toNat ≤ 2 ^ 31)
    (hend : seqLE tcpseg.endNo (nth base adv) ∨ seqLE (nth base rcv + rcvWnd) (nth base adv))
    (hcut : tcpseg.truncateSegment (nth base rcv) (nth base rcv + rcvWnd) = .ok cut) :
    ∃ s : Span, rcv ≤ s.lo ∧ s.lo < s.hi ∧ s.hi ≤ adv ∧ cut.sequenceNo = nth base s.lo ∧
      cut.endNo = nth base s.hi := by
  have hwnd' : 0 < rcvWnd.toNat := by
    apply Nat.pos_of_ne_zero
    intro hzero
    exact hwnd (eq_of_toNat_eq hzero)
  obtain ⟨hbefore, hbehind⟩ := TCPSegment.truncateSegment_ok hcut
  -- the end of the text is counted from the left edge, and its start from there
  have hendNo : tcpseg.endNo = nth base (rcv + (tcpseg.endNo - nth base rcv).toNat) := by
    rw [← nth_nth]
    exact eq_nth _ _
  generalize he : rcv + (tcpseg.endNo - nth base rcv).toNat = e at hendNo
  have hnear : (tcpseg.endNo - nth base rcv).toNat < 2 ^ 31 := hbehind.2
  rw [hendNo, seqLess_nth (by omega) (by omega)] at hbehind
  rw [nth_add_window, hendNo, seqLE_nth (by omega) (by omega), seqLE_nth (by omega) (by omega)] at hend
  have hseq : tcpseg.sequenceNo = nth base (e - tcpseg.payloadLength) := by
    have hsum : nth base (e - tcpseg.payloadLength) + BitVec.ofNat 32 tcpseg.payloadLength =
        tcpseg.sequenceNo + BitVec.ofNat 32 tcpseg.payloadLength := by
      rw [← nth_add, Nat.sub_add_cancel (by omega), ← hendNo]
      rfl
    grind
  generalize ha : e - tcpseg.payloadLength = a at hseq
  rw [nth_add_window, hseq, seqLess_nth (by omega) (by omega)] at hbefore
  rw [nth_add_window, tcpseg.truncateSegment_nth hseq (by omega) hbefore (by omega) (by omega) (by omega)] at hcut
  obtain ⟨-, hcutSeq, hcutLen, -⟩ := TCPSegment.truncateData_ok hcut
  have hlo : a + (max a rcv - a) = max a rcv := by omega
  rw [hseq, ← nth_add, hlo] at hcutSeq
  refine ⟨⟨max a rcv, min e (rcv + rcvWnd.toNat)⟩, ?_, ?_, ?_, hcutSeq, ?_⟩
  · simp only
    omega
  · simp only
    omega
  · simp only
    omega
  · rw [TCPSegment.endNo, hcutSeq, hcutLen, ← nth_add]
    congr 1
    simp only
    omega

variable {q' : TCPVirtualDataRcvQueue Region}

/-- Text that ends between the edges moves the left one up to the right one at most. -/
theorem insert_within (hq : Tracks base (ofSpan base) start seen low rcv spans q)
    (hspans : ∀ s ∈ spans, s.hi ≤ adv) (hle : rcv ≤ adv) (hrange : adv < rcv + 2 ^ 31) (hlow : low = rcv)
    {cut : TCPSegment} {s : Span} (hlo : rcv ≤ s.lo) (hs : s.lo < s.hi) (hhi : s.hi ≤ adv)
    (hseq : cut.sequenceNo = nth base s.lo) (hend : cut.endNo = nth base s.hi)
    (hrun : q.insertBytesFromSegment cut = .ok q') :
    ∃ rcv' seen' spans', rcv ≤ rcv' ∧ rcv' ≤ adv ∧
      Tracks base (ofSpan base) start seen' low rcv' spans' q' ∧ ∀ s ∈ spans', s.hi ≤ adv := by
  have hseg : RegionClass.createRegionFromSegment cut = ok (ofSpan base s) := by
    rw [ofSpan, ← hseq, ← hend]
    rfl
  obtain ⟨rcv', q'', hins, hq'⟩ := hq.insert (depicts base) hseg hs hlo (by omega) (by omega)
    (fun _ _ _ _ => trivial)
  rw [hrun] at hins
  cases hins
  have hspans' : ∀ u ∈ SpanList.insert s spans, u.hi ≤ adv := insert_hi_le hhi hspans
  have hlow' := hq'.low_le
  refine ⟨rcv', _, _, by omega, ?_, hq', hspans'⟩
  by_cases hlt : low < rcv'
  · obtain ⟨l, hl, -⟩ := hq'.front hlt
    exact hspans' ⟨low, rcv'⟩ (by rw [hl]; exact List.mem_cons_self)
  · omega

/-- Forwarding empties the queue up to the left edge. -/
theorem forwardData_tracks (hq : Tracks base (ofSpan base) start seen low rcv spans q)
    (hspans : ∀ s ∈ spans, s.hi ≤ adv)
    (hrun : forwardData loopLimit q (nth base rcv) = .ok q') :
    ∃ spans', Tracks base (ofSpan base) start seen rcv rcv spans' q' ∧ ∀ s ∈ spans', s.hi ≤ adv := by
  have hlimit : loopLimit = loopLimit - 2 + 1 + 1 := by decide
  have hsubset : ∀ {spans' q'}, Tracks base (ofSpan base) start seen rcv rcv spans' q' →
      ∀ s ∈ spans', s.hi ≤ adv := by
    intro spans' q' hq' s hs
    -- the last octet of a run has been buffered before
    have hne := hq'.separated.nonempty s hs
    obtain ⟨hseen, hge⟩ := (hq'.covers (s.hi - 1)).mp ⟨s, hs, by constructor <;> omega⟩
    obtain ⟨u, hu, hin⟩ := (hq.covers (s.hi - 1)).mpr ⟨hseen, Nat.le_trans hq.low_le hge⟩
    have := hspans u hu
    have := hin.2
    omega
  rw [hlimit, forwardData] at hrun
  by_cases hlt : low < rcv
  · obtain ⟨spans', q'', hsome, hq'⟩ := hq.extractTo_some (depicts base) hlt (Nat.le_refl _)
    have hnone := hq'.extractTo_none_of_eq (depicts base) rfl
    have hcopy := copyTo_ofSpan base (Nat.le_of_lt hlt) (by have := hq.rcv_le; omega)
    simp only [TCPReceiveQueue.extractBytesUpTo, TCPVirtualDataRcvQueue.extractBytesUpTo, hsome, hcopy, hnone,
      forwardData, bind, Except.bind, pure, Except.pure, Option.isSome, if_true] at hrun
    cases hrun
    exact ⟨spans', hq', hsubset hq'⟩
  · have heq : low = rcv := Nat.le_antisymm hq.low_le (Nat.le_of_not_lt hlt)
    have hnone := hq.extractTo_none_of_eq (depicts base) heq
    simp only [TCPReceiveQueue.extractBytesUpTo, TCPVirtualDataRcvQueue.extractBytesUpTo, hnone,
      bind, Except.bind, pure, Except.pure, Option.isSome, if_neg (Bool.false_ne_true)] at hrun
    cases hrun
    rw [heq] at hq
    exact ⟨spans, hq, hspans⟩

end Text

/-- What holds between two events. -/
def Sound (w : WindowReceiver) : Prop := ∃ base rcv adv, Edges base rcv adv w ∧ TextWithin base rcv adv w

variable {w w' : WindowReceiver}

theorem Sound.callMeets (h : w.Sound) : w.CallMeets := by
  obtain ⟨base, rcv, adv, hedges, -⟩ := h
  exact hedges.callMeets

/-- A queue without regions, with positions that leave room behind it. -/
theorem tracks_init (startSeq : SeqNo) : ∃ base, nth base (2 ^ 31) = startSeq ∧
    Tracks base (ofSpan base) (2 ^ 31) (fun _ => False) (2 ^ 31) (2 ^ 31) [] (.init startSeq) := by
  have hbase : nth (startSeq - BitVec.ofNat 32 (2 ^ 31)) (2 ^ 31) = startSeq := by
    rw [nth]
    grind
  have hinit := Tracks.init (startSeq - BitVec.ofNat 32 (2 ^ 31))
    (ofSpan (startSeq - BitVec.ofNat 32 (2 ^ 31))) (2 ^ 31)
  rw [hbase] at hinit
  exact ⟨_, hbase, hinit⟩

/-- The connection starts with a window without scaling. -/
theorem sound_configured {advertisedWindow : Int} {windowScalingSupport : Bool} {mss : SeqNo}
    {state : TCPStateVariables}
    (h : configureStateVariables advertisedWindow windowScalingSupport mss = .ok state)
    (hwnd : state.rcvWnd.toNat ≤ 65535) : (configured state).Sound := by
  rw [configureStateVariables] at h
  split at h
  · cases h
  · simp only [pure, Except.pure, ok.injEq] at h
    subst h
    generalize hrcvWnd : (if windowScalingSupport = true ∧ advertisedWindow > 65535 then tcpMaxWin
      else BitVec.ofInt 32 advertisedWindow) = rcvWnd at hwnd
    obtain ⟨base, hbase, htracks⟩ := tracks_init 0
    refine ⟨base, 2 ^ 31, 2 ^ 31 + rcvWnd.toNat, ?_, ?_⟩
    · constructor
      · exact hbase.symm
      · rw [← nth_add_window, hbase]
        exact (BitVec.zero_add _).symm
      · exact Nat.le_add_right _ _
      · exact Nat.add_le_add_left hwnd _
      · exact hwnd
      · intro hsnd
        cases hsnd
      · intro henabled
        cases henabled
    · intro _
      exact ⟨2 ^ 31, fun _ => False, 2 ^ 31, [], Nat.le_refl _, htracks, by simp⟩

theorem Sound.synReceived (h : w.Sound) (sequenceNo : SeqNo) : (w.synReceived sequenceNo).Sound := by
  obtain ⟨base, rcv, adv, hedges, htext⟩ := h
  obtain ⟨base', hbase, htracks⟩ := tracks_init (sequenceNo + 1)
  refine ⟨base', 2 ^ 31, 2 ^ 31 + w.state.rcvWnd.toNat, ?_, ?_⟩
  · constructor
    · exact hbase.symm
    · rw [← nth_add_window, hbase]
      rfl
    · exact Nat.le_add_right _ _
    · exact Nat.add_le_add_left hedges.rcvWnd_le _
    · exact hedges.rcvWnd_le
    · exact hedges.scale
    · exact hedges.enabled
  · intro _
    exact ⟨2 ^ 31, fun _ => False, 2 ^ 31, [], Nat.le_refl _, htracks, by simp⟩

/-- Window scaling may be switched on for a buffer that it suffices for. -/
theorem Edges.rescale {base : SeqNo} {rcv adv : Nat} (h : Edges base rcv adv w)
    (hstate : w'.state = { w.state with wsEnabled := w'.state.wsEnabled })
    (hon : w.state.wsEnabled = true → w'.state.wsEnabled = true)
    (hscale : w'.sndWs = true → w'.rcvWndScale ≤ 14 ∧
      (w'.Scalable → max w'.state.maxRcvBuffer.toNat 65535 / 2 ^ w'.rcvWndScale < 2 ^ 16))
    (henabled : w'.state.wsEnabled = true →
      w'.state.wsSupport = true ∧ w'.sndWs = true ∧ w'.rcvWs = true ∧ w'.Scalable) : Edges base rcv adv w' := by
  have hlimit : w.limit ≤ w'.limit := by
    rw [limit, limit, hstate]
    cases hw : w.state.wsEnabled with
    | true => rw [hon hw]
    | false =>
      rw [if_neg (Bool.false_ne_true)]
      split
      · exact Nat.le_max_right _ _
      · exact Nat.le_refl _
  have hadv := h.adv_le
  constructor
  · rw [hstate]
    exact h.rcvNxt
  · rw [hstate]
    exact h.rcvAdv
  · exact h.le
  · omega
  · rw [hstate]
    exact Nat.le_trans h.rcvWnd_le hlimit
  · exact hscale
  · exact henabled

section

variable (h : w.Sound)
include h

theorem Sound.readWindowScale (hallowed : w.Allowed .readWindowScale) : w.readWindowScale.Sound := by
  obtain ⟨base, rcv, adv, hedges, htext⟩ := h
  refine ⟨base, rcv, adv, hedges.rescale rfl ?_ hedges.scale ?_, htext⟩
  · intro henabled
    obtain ⟨hsupport, hsnd, -, -⟩ := hedges.enabled henabled
    change (w.state.wsSupport && w.sndWs) = true
    rw [hsupport, hsnd]
    rfl
  · intro henabled
    have hboth : (w.state.wsSupport && w.sndWs) = true := henabled
    obtain ⟨hsupport, hsnd⟩ := Bool.and_eq_true_iff.mp hboth
    exact ⟨hsupport, hsnd, rfl, hallowed hsupport hsnd⟩

theorem Sound.writeWindowScale (hallowed : w.Allowed .writeWindowScale) : w.writeWindowScale.Sound := by
  obtain ⟨base, rcv, adv, hedges, htext⟩ := h
  obtain ⟨hqueue, hscalable⟩ := hallowed
  rw [WindowReceiver.writeWindowScale]
  by_cases hsupport : w.state.wsSupport = true
  · rw [if_pos hsupport]
    have hfirst : w.receiver.receiveQueue.getFirstSeqNo + w.state.maxRcvBuffer - w.state.rcvNxt =
        w.state.maxRcvBuffer := by
      rw [hqueue]
      change w.state.rcvNxt + w.state.maxRcvBuffer - w.state.rcvNxt = _
      grind
    simp only [hfirst]
    refine ⟨base, rcv, adv, hedges.rescale rfl ?_ ?_ ?_, htext⟩
    · intro henabled
      obtain ⟨-, -, hrcv, -⟩ := hedges.enabled henabled
      rw [hsupport, hrcv]
      rfl
    · intro _
      refine ⟨shiftCount_le _ _, fun hs => ?_⟩
      have hfits := shiftCount_fits 14 (w.state.maxRcvBuffer.setWidth 64) (by
        exact hs)
      change max w.state.maxRcvBuffer.toNat 65535 / 2 ^ shiftCount 14 (w.state.maxRcvBuffer.setWidth 64) < 2 ^ 16
      cases Nat.le_total w.state.maxRcvBuffer.toNat 65535 with
      | inl hle =>
        rw [Nat.max_eq_right hle]
        exact Nat.lt_of_le_of_lt (Nat.div_le_self _ _) (by decide)
      | inr hge =>
        rw [Nat.max_eq_left hge]
        exact hfits
    · intro henabled
      have hrcv : w.rcvWs = true := by
        have : (w.state.wsSupport && w.rcvWs) = true := henabled
        rw [hsupport, Bool.true_and] at this
        exact this
      exact ⟨hsupport, rfl, hrcv, hscalable hsupport hrcv⟩
  · rw [if_neg hsupport]
    exact ⟨base, rcv, adv, hedges, htext⟩

theorem Sound.insertText {tcpseg : TCPSegment} (hallowed : w.Allowed (.insertText tcpseg))
    (hstep : w.step (.insertText tcpseg) = .ok w') : w'.Sound := by
  obtain ⟨base, rcv, adv, hedges, htext⟩ := h
  rw [step] at hstep
  split at hstep
  · cases hstep
    exact ⟨base, rcv, adv, hedges, htext⟩
  · next htake =>
    obtain ⟨hlen, hend, hforwarded⟩ := hallowed htake
    push Not at htake
    obtain ⟨hpassed, hpos, hacceptable⟩ := htake
    rw [TCPStateVariables.isSegmentAcceptable, if_neg hpos] at hacceptable
    obtain ⟨inserted, hinsert, hstep⟩ := bind_ok.mp hstep
    cases inserted with
    | none =>
      cases hstep
      exact ⟨base, rcv, adv, hedges, htext⟩
    | some inserted =>
      cases hstep
      have hlimit := hedges.limit_lt
      have hle := hedges.le
      have hadv := hedges.adv_le
      obtain ⟨start, seen, low, spans, hstart, hq, hspans⟩ := htext (by simpa using hpassed)
      have hrcvle := hq.start_le
      have hlowle := hq.low_le
      have hlow : low = rcv := by
        by_contra hne
        obtain ⟨l, hl, -⟩ := hq.front (by omega)
        have hless := hforwarded (ofSpan base ⟨low, rcv⟩) (by rw [hq.regionList, hl]; simp)
        have hnear := hq.rcv_le
        rw [hedges.rcvNxt] at hless
        change seqLess (nth base rcv) (nth base low) at hless
        rw [seqLess_nth (by omega) (by omega)] at hless
        omega
      rw [insertText] at hinsert
      obtain ⟨cut', hcut, hinsert⟩ := bind_ok.mp hinsert
      change tcpseg.truncateSegment w.state.rcvNxt (w.state.rcvNxt + w.state.rcvWnd) = .ok cut' at hcut
      simp only at hinsert
      split at hinsert
      · obtain ⟨⟨rcvNxt, q'⟩, hboth, hinsert⟩ := bind_ok.mp hinsert
        obtain ⟨q'', hins, heq⟩ := bind_ok.mp hboth
        cases heq
        cases hinsert
        rw [hedges.rcvNxt] at hcut
        rw [hedges.rcvNxt, hedges.rcvAdv] at hend
        obtain ⟨s, hlo, hs, hhi, hseq, hcutEnd⟩ := truncateSegment_within (by omega) (by omega) hle hpos
          hacceptable.1 hlen hend hcut
        obtain ⟨rcv', seen', spans', hrcv, hrcvle', hq', hspans'⟩ := insert_within hq hspans hle (by omega) hlow
          hlo hs hhi hseq hcutEnd hins
        refine ⟨base, rcv', adv, ?_, fun _ => ⟨start, seen', low, spans', hstart, hq', hspans'⟩⟩
        exact hedges.advance hrcv hrcvle' hq'.rcvNxt rfl rfl rfl rfl rfl rfl rfl rfl
      · cases hinsert

theorem Sound.forwardText (hallowed : w.Allowed .forwardText)
    (hstep : w.step .forwardText = .ok w') : w'.Sound := by
  obtain ⟨base, rcv, adv, hedges, htext⟩ := h
  rw [step] at hstep
  split at hstep
  · cases hstep
    exact ⟨base, rcv, adv, hedges, htext⟩
  · next hpassed =>
    obtain ⟨⟨receiver, event⟩, hforward, hstep⟩ := bind_ok.mp hstep
    cases hstep
    obtain ⟨q', hdata, hforward⟩ := bind_ok.mp hforward
    have hle := hedges.le
    obtain ⟨start, seen, low, spans, hstart, hq, hspans⟩ := htext (by simpa using hpassed)
    change forwardData loopLimit w.receiver.receiveQueue w.state.rcvNxt = .ok q' at hdata
    rw [hedges.rcvNxt] at hdata
    obtain ⟨spans', hq', hspans'⟩ := forwardData_tracks hq hspans hdata
    simp only [pure, Except.pure, ok.injEq, passRememberedFin] at hforward
    split at hforward
    · next hfin =>
      -- the FIN is not at the right edge
      cases hforward
      have hne : rcv ≠ adv := by
        rintro rfl
        exact hallowed ⟨hfin.1, hfin.2, hfin.2.symm.trans (hedges.rcvNxt.trans hedges.rcvAdv.symm)⟩
      have hnxt : w.state.rcvFinSeq + 1 = nth base (rcv + 1) := by
        rw [nth_succ, ← hedges.rcvNxt]
        exact congrArg (· + 1) hfin.2.symm
      refine ⟨base, rcv + 1, adv, ?_, ?_⟩
      · exact hedges.advance (le_succ _) (by omega) hnxt rfl rfl rfl rfl rfl rfl rfl rfl
      · intro hopen
        simp only [passes, finEvent] at hopen
        split at hopen <;> simp at hopen
    · cases hforward
      refine ⟨base, rcv, adv, ?_, fun _ => ⟨start, seen, rcv, spans', hstart, hq', hspans'⟩⟩
      exact hedges.advance (Nat.le_refl _) hle hedges.rcvNxt rfl rfl rfl rfl rfl rfl rfl rfl

theorem Sound.takeFin {tcpseg : TCPSegment} (hallowed : w.Allowed (.takeFin tcpseg))
    (hstep : w.step (.takeFin tcpseg) = .ok w') : w'.Sound := by
  obtain ⟨base, rcv, adv, hedges, htext⟩ := h
  have hlimit := hedges.limit_lt
  have hle := hedges.le
  simp only [step, ok.injEq] at hstep
  subst hstep
  by_cases hfin : tcpseg.finBit = true
  · by_cases hhere : w.state.rcvNxt = tcpseg.endNo
    · -- the FIN lies before the right edge
      have hne : rcv ≠ adv := by
        rintro rfl
        exact hallowed ⟨hfin, hhere.symm, hhere.symm.trans (hedges.rcvNxt.trans hedges.rcvAdv.symm)⟩
      have hless : rcv < adv := Nat.lt_of_le_of_ne hle hne
      have hrun : processFin ⟨w.receiver, tcpseg, .ignore⟩ =
          ({ w.receiver with state := { w.state with ackNow := true, rcvNxt := w.state.rcvNxt + 1 } },
            w.receiver.finEvent) := by
        rw [processFin, if_pos hfin]
        exact if_pos hhere
      rw [hrun]
      refine ⟨base, rcv + 1, adv, ?_, ?_⟩
      · refine hedges.advance (le_succ _) hless ?_ rfl rfl rfl rfl rfl rfl rfl rfl
        rw [nth_succ, ← hedges.rcvNxt]
        rfl
      · intro hopen
        simp only [passes, finEvent] at hopen
        split at hopen <;> simp at hopen
    · have hrun : processFin ⟨w.receiver, tcpseg, .ignore⟩ =
          ({ w.receiver with state := { w.state with
              ackNow := true, finRcvd := true, rcvFinSeq := tcpseg.endNo } }, .ignore) := by
        rw [processFin, if_pos hfin]
        exact if_neg hhere
      rw [hrun]
      refine ⟨base, rcv, adv, ?_, ?_⟩
      · exact hedges.advance (Nat.le_refl _) hle hedges.rcvNxt rfl rfl rfl rfl rfl rfl rfl rfl
      · intro hopen
        exact htext (by simpa [passes] using hopen)
  · have hrun : processFin ⟨w.receiver, tcpseg, .ignore⟩ = (w.receiver, .ignore) := by
      rw [processFin]
      exact if_neg hfin
    rw [hrun]
    refine ⟨base, rcv, adv, ?_, ?_⟩
    · exact hedges.advance (Nat.le_refl _) hle hedges.rcvNxt rfl rfl rfl rfl rfl rfl rfl rfl
    · intro hopen
      exact htext (by simpa [passes] using hopen)

theorem Sound.updateRcvWnd (hstep : w.step .updateRcvWnd = .ok w') : w'.Sound := by
  obtain ⟨base, rcv, adv, hedges, htext⟩ := h
  obtain ⟨w'', header, adv', hcall, -, hadv, hedges', hqueue, hpassed⟩ := hedges.updateRcvWnd
  rw [step, hcall] at hstep
  cases hstep
  refine ⟨base, rcv, adv', hedges', ?_⟩
  intro hopen
  rw [hpassed] at hopen
  obtain ⟨start, seen, low, spans, hstart, hq, hspans⟩ := htext hopen
  rw [hqueue]
  exact ⟨start, seen, low, spans, hstart, hq, fun s hs => Nat.le_trans (hspans s hs) hadv⟩

theorem Sound.step {e : WindowEvent} (hallowed : w.Allowed e) (hstep : w.step e = .ok w') :
    w'.Sound := by
  cases e with
  | synReceived sequenceNo =>
    cases hstep
    exact h.synReceived sequenceNo
  | readWindowScale =>
    cases hstep
    exact h.readWindowScale hallowed
  | writeWindowScale =>
    cases hstep
    exact h.writeWindowScale hallowed
  | insertText tcpseg => exact h.insertText hallowed hstep
  | forwardText => exact h.forwardText hallowed hstep
  | takeFin tcpseg => exact h.takeFin hallowed hstep
  | updateRcvWnd => exact h.updateRcvWnd hstep

theorem Sound.run {events : List WindowEvent} (hall : w.AllAllowed events)
    (hrun : w.run events = .ok w') : w'.Sound := by
  induction events generalizing w with
  | nil =>
    cases hrun
    exact h
  | cons e events ih =>
    obtain ⟨hallowed, hrest⟩ := hall
    obtain ⟨w₁, hstep, hrun⟩ := bind_ok.mp hrun
    exact ih (h.step hallowed hstep) (hrest w₁ hstep) hrun

end

/-- In every state that a run reaches whose events meet the condition, a call of `updateRcvWnd`
meets all that is required of it. -/
theorem run_callMeets (advertisedWindow : Int) (windowScalingSupport : Bool) (mss : SeqNo)
    (state : TCPStateVariables) (events : List WindowEvent) (w : WindowReceiver)
    (hconf : configureStateVariables advertisedWindow windowScalingSupport mss = .ok state)
    (hwnd : state.rcvWnd.toNat ≤ 65535) (hall : (configured state).AllAllowed events)
    (hrun : (configured state).run events = .ok w) : w.CallMeets :=
  ((sound_configured hconf hwnd).run hall hrun).callMeets

/-- A receiver with a buffer of four octets. -/
def fourOctets : TCPStateVariables := { rcvWnd := 4, rcvAdv := 4, maxRcvBuffer := 4, sndMss := 1 }

/-- Four octets and the FIN behind them. -/
def filling : TCPSegment := { sequenceNo := 1, payloadLength := 4, finBit := true, ackBit := true }

/-- The text fills the window. The call after it opens it again. -/
theorem filling_callMeets : ∃ w, (configured fourOctets).run [.synReceived 0, .updateRcvWnd,
    .insertText filling, .forwardText, .updateRcvWnd, .takeFin filling] = .ok w ∧ w.CallMeets := by
  refine ⟨_, rfl, run_callMeets 4 false 1 fourOctets [.synReceived 0, .updateRcvWnd, .insertText filling,
    .forwardText, .updateRcvWnd, .takeFin filling] _ rfl (by decide) ?_ rfl⟩
  decide +kernel

/-- A FIN that is passed at the right edge moves the left edge behind it. The distance wraps around,
and the next window is the largest that the header holds. -/
theorem filling_wraps : ∃ w w' header, configureStateVariables 4 false 1 = .ok fourOctets ∧
    (configured fourOctets).run [.synReceived 0, .updateRcvWnd, .insertText filling, .forwardText,
      .takeFin filling] = .ok w ∧
    w.state.rcvAdv - w.state.rcvNxt = 2 ^ 32 - 1 ∧ w.updateRcvWnd = .ok (w', header) ∧
    w'.state.rcvWnd = 65535 ∧ ¬ w.CallMeets := by
  refine ⟨_, _, _, rfl, rfl, by decide, rfl, by decide, ?_⟩
  rintro ⟨w', header, -, hmeets⟩
  exact absurd hmeets.ordered (by decide)

end WindowReceiver

end Inet.Tcp
