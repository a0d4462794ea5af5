import Inetmanet.Tcp.PipeEstimate
import Inetmanet.Tcp.ShortQueue
import Inetmanet.Tcp.TCPReno

/-!
# The retransmission queue of a sender

Where the regions end, and what every step of a sender keeps of the queue as long as
no FIN has been sent: it begins at `snd_una`, reaches at least to `snd_max`, and a
region ends there.
-/
namespace Inet.Tcp

open SerialNumber RunLength List BitVec

namespace TCPSACKRexmitQueue

/-- A region ends at a sequence number. -/
def Ends (l : List RexmitRegion) (seqNum : SeqNo) : Prop := ∃ i ∈ l, i.endSeqNum = seqNum

section Ends

variable {l m : List RexmitRegion} {i : RexmitRegion} {x fromSeqNum toSeqNum : SeqNo} {q q' : TCPSACKRexmitQueue}

theorem ends_append : Ends (l ++ m) x ↔ Ends l x ∨ Ends m x := by
  simp only [Ends, mem_append, or_and_right, exists_or]

theorem ends_cons : Ends (i :: l) x ↔ i.endSeqNum = x ∨ Ends l x := by
  simp only [Ends, mem_cons, or_and_right, exists_or, exists_eq_left]

theorem Ends.map (h : Ends l x) {g : RexmitRegion → RexmitRegion} (hg : ∀ i, (g i).endSeqNum = i.endSeqNum) :
    Ends (l.map g) x := by
  obtain ⟨i, hi, hend⟩ := h
  exact ⟨g i, mem_map_of_mem hi, (hg i).trans hend⟩

theorem ends_split (seqNum : SeqNo) (h : Ends l x) : Ends (upTo seqNum l) x ∨ Ends (after seqNum l) x := by
  rw [← ends_append, upTo, after, takeWhile_append_dropWhile]
  exact h

theorem chunkItem_end (fromSeqNum : SeqNo) (i : RexmitRegion) :
    (chunkItem fromSeqNum i).2.endSeqNum = i.endSeqNum := by
  rw [chunkItem]
  split
  · rfl
  · rfl

theorem ends_enqueueRest {rest : List RexmitRegion} (h : enqueueRest fromSeqNum toSeqNum l = .ok rest) :
    (∀ x, Ends l x → Ends rest x) ∧ Ends rest toSeqNum := by
  cases l with
  | nil =>
    cases h
    exact ⟨fun x hx => hx.elim fun _ hi => absurd hi.1 not_mem_nil, _, mem_singleton_self _, rfl⟩
  | cons i l =>
    obtain ⟨-, h⟩ := ensure_bind_ok.mp h
    cases h
    constructor
    · intro x hx
      rw [ends_cons] at hx
      exact ends_cons.mpr (.inr (ends_cons.mpr hx))
    · exact ends_cons.mpr (.inl rfl)

theorem ends_enqueueAgain {again : List RexmitRegion} (h : enqueueAgain fromSeqNum toSeqNum l = .ok again) :
    (∀ x, Ends l x → Ends again x) ∧ Ends again toSeqNum := by
  rw [enqueueAgain] at h
  split at h
  · cases h
  next i l' hafter =>
  obtain ⟨-, h⟩ := ensure_bind_ok.mp h
  have hend := chunkItem_end fromSeqNum i
  generalize chunkItem fromSeqNum i = cut at h hend
  obtain ⟨chunk, i'⟩ := cut
  simp only at h hend
  -- the regions from the chunk on keep their ends
  have hfrom (x : SeqNo) (hx : Ends l x) : Ends (upTo fromSeqNum l) x ∨ Ends (upTo toSeqNum (i' :: l')) x ∨
      Ends (after toSeqNum (i' :: l')) x := by
    refine (ends_split fromSeqNum hx).imp_right fun hx => ends_split toSeqNum ?_
    rw [hafter, ends_cons] at hx
    rw [ends_cons, hend]
    exact hx
  have hmarked (x : SeqNo) (hx : Ends (upTo toSeqNum (i' :: l')) x) :
      Ends ((upTo toSeqNum (i' :: l')).map fun r => { r with rexmitted := true }) x := hx.map fun _ => rfl
  split at h
  · obtain ⟨rest, hrest, h⟩ := bind_ok.mp h
    obtain ⟨hkept, hto⟩ := ends_enqueueRest hrest
    cases h
    refine ⟨fun x hx => ?_, ends_append.mpr (.inr hto)⟩
    rw [ends_append, ends_append, ends_append]
    rcases hfrom x hx with hx | hx | hx
    · exact .inl (.inl (.inl hx))
    · exact .inl (.inr (hmarked x hx))
    · exact .inr (hkept x hx)
  · next hto =>
    obtain ⟨hswept, h⟩ := ensure_bind_ok.mp h
    cases h
    constructor
    · intro x hx
      rw [ends_append, ends_append, ends_append]
      rcases hfrom x hx with hx | hx | hx
      · exact .inl (.inl (.inl hx))
      · exact .inl (.inr (hmarked x hx))
      · exact .inr hx
    · have hlast : Ends (upTo toSeqNum (i' :: l')) toSeqNum := by
        refine ⟨(upTo toSeqNum (i' :: l')).getLast hswept, getLast_mem hswept, ?_⟩
        rw [List.getLast?_eq_some_getLast hswept] at hto
        exact not_not.mp hto
      rw [ends_append, ends_append, ends_append]
      exact .inl (.inr (hmarked _ hlast))

theorem ends_enqueueSentData (h : q.enqueueSentData fromSeqNum toSeqNum = .ok q') :
    (∀ x, Ends q.rexmitQueue x → Ends q'.rexmitQueue x) ∧ Ends q'.rexmitQueue toSeqNum := by
  rw [enqueueSentData] at h
  obtain ⟨-, h⟩ := ensure_bind_ok.mp h
  obtain ⟨-, h⟩ := ensure_bind_ok.mp h
  obtain ⟨rexmitQueue, hqueue, h⟩ := bind_ok.mp h
  have hends : (∀ x, Ends q.rexmitQueue x → Ends rexmitQueue x) ∧ Ends rexmitQueue toSeqNum := by
    split at hqueue
    · cases hqueue
      exact ⟨fun x hx => ends_append.mpr (.inl hx), ends_append.mpr (.inr (ends_cons.mpr (.inl rfl)))⟩
    · exact ends_enqueueAgain hqueue
  split at h
  · obtain ⟨-, h⟩ := ensure_bind_ok.mp h
    cases h
    exact hends
  · cases h

theorem ends_sackRest (h : Ends l x) : Ends (sackRest toSeqNum l) x := by
  cases l with
  | nil => exact h
  | cons i l =>
    rw [sackRest]
    split
    · rw [ends_cons] at h
      exact ends_cons.mpr (.inr (ends_cons.mpr h))
    · exact h

theorem ends_setSackedBit (h : q.setSackedBit fromSeqNum toSeqNum = .ok q') (hx : Ends q.rexmitQueue x) :
    Ends q'.rexmitQueue x := by
  rw [setSackedBit] at h
  generalize (if seqLess fromSeqNum q.beginNo then q.beginNo else fromSeqNum) = fromSeqNum at h
  obtain ⟨-, h⟩ := ensure_bind_ok.mp h
  obtain ⟨-, h⟩ := ensure_bind_ok.mp h
  obtain ⟨-, h⟩ := ensure_bind_ok.mp h
  obtain ⟨rexmitQueue, hqueue, h⟩ := bind_ok.mp h
  obtain ⟨-, h⟩ := ensure_bind_ok.mp h
  cases h
  split at hqueue
  · next hnil =>
    rw [hnil] at hx
    exact hx.elim fun _ hi => absurd hi.1 not_mem_nil
  split at hqueue
  · cases hqueue
  next i l' hafter =>
  obtain ⟨-, hqueue⟩ := ensure_bind_ok.mp hqueue
  have hend := chunkItem_end fromSeqNum i
  cases hqueue
  rw [ends_append, ends_append, ends_append]
  rcases ends_split fromSeqNum hx with hx | hx
  · exact .inl (.inl (.inl hx))
  · rw [hafter, ends_cons, ← hend, ← ends_cons] at hx
    rcases ends_split toSeqNum hx with hx | hx
    · refine .inl (.inr (hx.map fun r => ?_))
      split
      · rfl
      · rfl
    · exact .inr (ends_sackRest hx)

theorem ends_after (h : Ends l x) (hbeyond : ¬ seqLE x fromSeqNum) : Ends (after fromSeqNum l) x := by
  refine (ends_split fromSeqNum h).resolve_left ?_
  rintro ⟨i, hi, rfl⟩
  have hle := mem_takeWhile_imp hi
  exact hbeyond (of_decide_eq_true hle)

theorem ends_discardUpTo (h : q.discardUpTo fromSeqNum = .ok q') (hx : Ends q.rexmitQueue x)
    (hbeyond : ¬ seqLE x fromSeqNum) : Ends q'.rexmitQueue x := by
  rw [discardUpTo] at h
  obtain ⟨-, h⟩ := ensure_bind_ok.mp h
  obtain ⟨rexmitQueue, hqueue, h⟩ := bind_ok.mp h
  obtain ⟨-, h⟩ := ensure_bind_ok.mp h
  have hafter := ends_after hx hbeyond
  cases h
  split at hqueue
  · next hnil =>
    rw [hnil] at hafter
    exact hafter.elim fun _ hi => absurd hi.1 not_mem_nil
  · next i l hcons =>
    obtain ⟨-, hqueue⟩ := ensure_bind_ok.mp hqueue
    cases hqueue
    rw [hcons, ends_cons] at hafter
    exact ends_cons.mpr hafter

end Ends

end TCPSACKRexmitQueue

open TCPSACKRexmitQueue

namespace TCPReno

/-- No segment has carried a FIN. -/
def FinUnsent (s : TCPReno) : Prop := ∀ seg ∈ s.sent, seg.finBit = false

/-- How far a sequence number lies beyond `snd_una`. -/
def ahead (s : TCPReno) (seqNum : SeqNo) : Nat := (seqNum - s.state.sndUna).toNat

/-- The queue reaches to a sequence number, and no region reaches over it. -/
structure AtEdge (s : TCPReno) (seqNum : SeqNo) : Prop where
  le : s.ahead seqNum ≤ s.rexmitQueue.octets.length
  edge : seqNum = s.state.sndUna ∨ Ends s.rexmitQueue.rexmitQueue seqNum

/-- The queue begins at `snd_una`, holds octets of the send queue only, and no region reaches over `snd_max`. -/
structure Kept (s : TCPReno) : Prop where
  sackEnabled : s.state.sackEnabled = true
  checkQueue : s.rexmitQueue.CheckQueue
  beginNo : s.rexmitQueue.beginNo = s.state.sndUna
  bufferStartSeq : s.sendQueue.bufferStartSeq = s.state.sndUna
  sndMax : s.AtEdge s.state.sndMax
  buffered : s.rexmitQueue.octets.length ≤ s.ahead s.sendQueue.bufferEndSeq
  short : s.ahead s.sendQueue.bufferEndSeq < 2 ^ 31
  fin : s.state.sendFin = true → s.state.sndFinSeq = s.sendQueue.bufferEndSeq
  afterRto : s.state.afterRto = true → s.state.sndMax = s.rexmitQueue.endNo
  room : s.state.tsEnabled = true → TCP_OPTION_TS_SIZE < s.state.sndMss

/-- A step keeps it unless a FIN has been sent. -/
structure Steps (s s' : TCPReno) : Prop where
  unsent : s'.FinUnsent → s.FinUnsent
  kept : s'.FinUnsent → s.Kept → s'.Kept

section Positions

variable (s : TCPReno)

theorem nth_ahead (seqNum : SeqNo) : nth s.state.sndUna (s.ahead seqNum) = seqNum := (eq_nth _ _).symm

theorem ahead_nth {n : Nat} (hn : n < 2 ^ 32) : s.ahead (nth s.state.sndUna n) = n := by
  have h := toNat_nth_sub s.state.sndUna (Nat.zero_le n) (by omega)
  rwa [nth_zero] at h

theorem ahead_sndUna : s.ahead s.state.sndUna = 0 := by
  rw [ahead, BitVec.sub_self]
  rfl

variable {a b : SeqNo}

theorem ahead_inj (h : s.ahead a = s.ahead b) : a = b := offset_inj _ h

theorem ahead_add (seqNum bytes : SeqNo) : s.ahead (seqNum + bytes) = (s.ahead seqNum + bytes.toNat) % 2 ^ 32 :=
  offset_add _ _ _

/-- The distance of two sequence numbers. -/
theorem toNat_sub_ahead (a b : SeqNo) : (b - a).toNat =
    if s.ahead a ≤ s.ahead b then s.ahead b - s.ahead a else 2 ^ 32 - (s.ahead a - s.ahead b) :=
  toNat_sub_offset _ _ _

section

variable (ha : s.ahead a < 2 ^ 31)
include ha

theorem seqLE_ahead (hb : s.ahead b < 2 ^ 31) :
    seqLE a b ↔ s.ahead a ≤ s.ahead b := seqLE_offset _ ha hb

theorem seqLess_ahead (hb : s.ahead b < 2 ^ 31) :
    seqLess a b ↔ s.ahead a < s.ahead b := seqLess_offset _ ha hb

theorem seqGreater_ahead (hb : s.ahead b < 2 ^ 31) :
    seqGreater a b ↔ s.ahead b < s.ahead a := seqGreater_offset _ ha hb

theorem seqGE_ahead (hb : s.ahead b < 2 ^ 31) :
    seqGE a b ↔ s.ahead b ≤ s.ahead a := seqGE_offset _ ha hb

end

end Positions

section Queue

variable {s s' s'' : TCPReno} {bytes seqNum fromSeqNum toSeqNum : SeqNo} {q : TCPSACKRexmitQueue}

section

variable (h : s.Kept)
include h

theorem Kept.recovering : s.toTCPConnection.Recovering := by
  have hmax := h.sndMax.le
  have hbuffered := h.buffered
  have hshort := h.short
  refine ⟨h.sackEnabled, h.checkQueue, h.beginNo, by omega, ?_⟩
  change s.ahead s.state.sndMax < 2 ^ 31
  omega

/-- The estimate is right wherever it is made. -/
theorem Kept.setPipe : ∃ conn, s.toTCPConnection.setPipe = .ok conn ∧
    conn.state.pipe.toNat = s.toTCPConnection.octetsInPipe :=
  h.recovering.setPipe h.sndMax.edge h.sndMax.le

theorem Kept.represents : ∃ runs, Represents s.state.sndUna ⟨0, s.rexmitQueue.octets⟩ runs s.rexmitQueue :=
  h.recovering.represents

theorem Kept.length_lt : s.rexmitQueue.octets.length < 2 ^ 31 := h.recovering.short

theorem Kept.queue : s.rexmitQueue.Short := ⟨h.checkQueue, h.length_lt⟩

theorem Kept.endNo : s.ahead s.rexmitQueue.endNo = s.rexmitQueue.octets.length := by
  obtain ⟨runs, hrep⟩ := h.represents
  have hlen := h.length_lt
  rw [hrep.endNo, s.ahead_nth (by simp only [Scoreboard.last]; omega)]
  exact Nat.zero_add _

/-- Data is enqueued from a place within the queue. -/
theorem Kept.enqueue (hqueue : s.rexmitQueue.enqueueSentData fromSeqNum toSeqNum = .ok q)
    (hto : s.ahead fromSeqNum ≤ s.rexmitQueue.octets.length →
      s.ahead toSeqNum ≤ s.ahead s.sendQueue.bufferEndSeq) :
    s.ahead fromSeqNum ≤ s.rexmitQueue.octets.length ∧ s.ahead toSeqNum ≤ s.ahead s.sendQueue.bufferEndSeq ∧ q.CheckQueue ∧ q.beginNo = s.state.sndUna ∧
      q.octets.length = max s.rexmitQueue.octets.length (s.ahead toSeqNum) ∧ s.ahead q.endNo = q.octets.length := by
  obtain ⟨runs, hrep⟩ := h.represents
  have hlen := h.length_lt
  have hshort := h.short
  have hrun := hqueue
  rw [enqueueSentData] at hqueue
  obtain ⟨⟨hbegin, hend⟩, hqueue⟩ := ensure_bind_ok.mp hqueue
  obtain ⟨hless, -⟩ := ensure_bind_ok.mp hqueue
  have hfrom : s.ahead fromSeqNum ≤ s.rexmitQueue.octets.length := by
    rw [seqLE, s.toNat_sub_ahead, h.beginNo, s.ahead_sndUna] at hbegin
    rw [seqLE, s.toNat_sub_ahead, h.endNo] at hend
    split at hend
    · assumption
    · simp only [Nat.zero_le, if_true, Nat.sub_zero] at hbegin
      omega
  have hto := hto hfrom
  rw [s.seqLess_ahead (by omega) (by omega)] at hless
  obtain ⟨runs', q', hok, hrep'⟩ := hrep.enqueueSentData (a := s.ahead fromSeqNum) (b := s.ahead toSeqNum)
    ⟨Nat.zero_le _, by simpa [Scoreboard.last] using hfrom, hless, by simp only; omega⟩
  rw [s.nth_ahead, s.nth_ahead, hrun] at hok
  cases hok
  have hoctets : q.octets.length = max s.rexmitQueue.octets.length (s.ahead toSeqNum) := by
    rw [hrep'.octets]
    simp only [Scoreboard.apply, length_append, length_onRange, length_replicate, Scoreboard.last]
    omega
  refine ⟨hfrom, hto, hrep'.checkQueue, hrep'.beginNo.trans (nth_zero _), hoctets, ?_⟩
  rw [hrep'.endNo, Scoreboard.last, ← hrep'.octets, s.ahead_nth]
  · exact Nat.zero_add _
  · simp only [Scoreboard.apply]
    omega

end

theorem Steps.refl (s : TCPReno) : Steps s s := ⟨id, fun _ h => h⟩

theorem Steps.trans (h : Steps s s') (h' : Steps s' s'') : Steps s s'' :=
  ⟨fun hunsent => h.unsent (h'.unsent hunsent), fun hunsent hkept => h'.kept hunsent (h.kept (h'.unsent hunsent) hkept)⟩

/-- What is not read by the invariant may change. -/
structure Alike (s s' : TCPReno) : Prop where
  sendQueue : s'.sendQueue = s.sendQueue
  rexmitQueue : s'.rexmitQueue = s.rexmitQueue
  sent : s'.sent = s.sent
  sackEnabled : s'.state.sackEnabled = s.state.sackEnabled
  sndUna : s'.state.sndUna = s.state.sndUna
  sndMax : s'.state.sndMax = s.state.sndMax
  sendFin : s'.state.sendFin = s.state.sendFin
  sndFinSeq : s'.state.sndFinSeq = s.state.sndFinSeq
  afterRto : s'.state.afterRto = s.state.afterRto
  tsEnabled : s'.state.tsEnabled = s.state.tsEnabled
  sndMss : s'.state.sndMss = s.state.sndMss

section

variable (h : Alike s s')
include h

theorem Alike.ahead (seqNum : SeqNo) : s'.ahead seqNum = s.ahead seqNum := by
  rw [TCPReno.ahead, TCPReno.ahead, h.sndUna]

theorem Alike.atEdge (hedge : s.AtEdge seqNum) : s'.AtEdge seqNum := by
  constructor
  · rw [h.ahead, h.rexmitQueue]
    exact hedge.le
  · rw [h.sndUna, h.rexmitQueue]
    exact hedge.edge

theorem Alike.kept (hkept : s.Kept) : s'.Kept := by
  constructor
  · exact h.sackEnabled.trans hkept.sackEnabled
  · rw [h.rexmitQueue]
    exact hkept.checkQueue
  · rw [h.rexmitQueue, h.sndUna]
    exact hkept.beginNo
  · rw [h.sendQueue, h.sndUna]
    exact hkept.bufferStartSeq
  · rw [h.sndMax]
    exact h.atEdge hkept.sndMax
  · rw [h.rexmitQueue, h.ahead, h.sendQueue]
    exact hkept.buffered
  · rw [h.ahead, h.sendQueue]
    exact hkept.short
  · rw [h.sendFin, h.sndFinSeq, h.sendQueue]
    exact hkept.fin
  · rw [h.afterRto, h.sndMax, h.rexmitQueue]
    exact hkept.afterRto
  · rw [h.tsEnabled, h.sndMss]
    exact hkept.room

theorem Alike.steps : Steps s s' := by
  constructor
  · rw [FinUnsent, FinUnsent, h.sent]
    exact id
  · exact fun _ => h.kept

end

theorem steps_setSndNxt (s : TCPReno) (sndNxt : SeqNo) : Steps s (s.setSndNxt sndNxt) :=
  Alike.steps ⟨rfl, rfl, rfl, rfl, rfl, rfl, rfl, rfl, rfl, rfl, rfl⟩

/-- The size of a segment, where the sum with the options wraps around. -/
theorem toNat_segmentBytes (hoptions : s.optionsLen s.sent.length < s.state.sndMss) (bytes : SeqNo) :
    (s.segmentBytes bytes).toNat =
      if s.state.sndMss.toNat < (min bytes.toNat (s.sendQueue.getBytesAvailable s.state.sndNxt).toNat +
          (s.optionsLen s.sent.length).toNat) % 2 ^ 32 then s.state.sndMss.toNat - (s.optionsLen s.sent.length).toNat
      else min bytes.toNat (s.sendQueue.getBytesAvailable s.state.sndNxt).toNat := by
  rw [segmentBytes]
  generalize s.sendQueue.getBytesAvailable s.state.sndNxt = buffered
  have hcut : (if bytes.setWidth 64 > buffered then buffered.setWidth 32 else bytes).toNat =
      min bytes.toNat buffered.toNat := by
    split
    · next hlt =>
      rw [gt_iff_lt, lt_def, toNat_setWidth] at hlt
      rw [toNat_setWidth]
      omega
    · next hle =>
      rw [gt_iff_lt, lt_def, toNat_setWidth] at hle
      omega
  simp only [gt_iff_lt, lt_def (y := _ + _), toNat_add, hcut]
  split
  · exact toNat_sub_of_le (BitVec.le_of_lt hoptions)
  · exact hcut

/-- No more octets are sent than there are. -/
theorem segmentBytes_le (hoptions : s.optionsLen s.sent.length < s.state.sndMss) (bytes : SeqNo) :
    (s.segmentBytes bytes).toNat ≤ (s.sendQueue.getBytesAvailable s.state.sndNxt).toNat := by
  rw [toNat_segmentBytes hoptions]
  rw [lt_def] at hoptions
  split <;> omega

/-- What is there from a place within the queue on. -/
theorem Kept.available (h : s.Kept) (hfrom : s.ahead fromSeqNum ≤ s.rexmitQueue.octets.length) :
    (s.sendQueue.getBytesAvailable fromSeqNum).toNat = s.ahead s.sendQueue.bufferEndSeq - s.ahead fromSeqNum := by
  have hbuffered := h.buffered
  have hshort := h.short
  rw [TCPSendQueue.getBytesAvailable]
  split
  · rw [toNat_setWidth, s.toNat_sub_ahead, if_pos (by omega), Nat.mod_eq_of_lt (by omega)]
  · next hless =>
    rw [s.seqLess_ahead (by omega) (by omega)] at hless
    change 0 = _
    omega

/-- `snd_nxt` is all that is forwarded. -/
theorem forwardSndNxt_ok (hrun : s.forwardSndNxt = .ok s') : ∃ forward, s' = s.setSndNxt (s.state.sndNxt + forward) ∧
    (s.state.afterRto = true → s.state.sackEnabled = true →
      s.rexmitQueue.checkRexmitQueueForSackedOrRexmittedSegments s.state.sndNxt = .ok forward) ∧
    (s.state.afterRto = false → forward = 0) := by
  rw [forwardSndNxt] at hrun
  split at hrun
  · next hafter =>
    obtain ⟨forward, hforward, hrun⟩ := bind_ok.mp hrun
    cases hrun
    exact ⟨forward, rfl, fun _ _ => hforward, fun hno => absurd (hafter.2.symm.trans hno) (by decide)⟩
  · next hafter =>
    cases hrun
    refine ⟨0, ?_, fun h₁ h₂ => absurd ⟨h₂, h₁⟩ hafter, fun _ => rfl⟩
    change s = s.setSndNxt (s.state.sndNxt + 0#32)
    rw [BitVec.add_zero]
    rfl

/-- What the sending of a segment without a FIN leaves behind. -/
structure SegmentSent (s s' : TCPReno) : Prop where
  kept : s'.Kept
  next : s'.AtEdge s'.state.sndNxt
  sndMax : s'.state.sndMax = s.state.sndMax
  sndUna : s'.state.sndUna = s.state.sndUna
  from_ : ∃ forward, s'.state.sndNxt = s.state.sndNxt + forward + s'.state.sentBytes ∧
    s.ahead (s.state.sndNxt + forward) + s'.state.sentBytes.toNat = s'.ahead s'.state.sndNxt ∧
    (s.state.afterRto = true →
      s.rexmitQueue.checkRexmitQueueForSackedOrRexmittedSegments s.state.sndNxt = .ok forward) ∧
    (s.state.afterRto = false → forward = 0)
  afterRto : s'.state.afterRto = true → ¬ seqGE s'.state.sndNxt s'.state.sndMax

theorem steps_sendSegment (hrun : s.sendSegment bytes = .ok s') : Steps s s' ∧
    (s'.FinUnsent → s.Kept → SegmentSent s s') := by
  rw [sendSegment] at hrun
  obtain ⟨s₁, hforward, hrun⟩ := bind_ok.mp hrun
  obtain ⟨forward, rfl, hasked, hzero⟩ := forwardSndNxt_ok hforward
  obtain ⟨hoptions, hrun⟩ := ensure_bind_ok.mp hrun
  obtain ⟨-, hrun⟩ := ensure_bind_ok.mp hrun
  have hbytes := segmentBytes_le hoptions bytes
  generalize (s.setSndNxt (s.state.sndNxt + forward)).segmentBytes bytes = sentBytes at hbytes hrun
  obtain ⟨s₂, henqueue, hrun⟩ := bind_ok.mp hrun
  cases hrun
  rw [enqueueSegment] at henqueue
  have hunsent : (s₂.segmentSent sentBytes).FinUnsent → s₂.FinUnsent := fun h seg hseg => h seg (mem_cons_of_mem _ hseg)
  have hsame : s₂.sent = s.sent := by
    split at henqueue
    · obtain ⟨q, -, henqueue⟩ := bind_ok.mp henqueue
      cases henqueue
      rfl
    · cases henqueue
      rfl
  suffices hsent : (s₂.segmentSent sentBytes).FinUnsent → s.Kept → SegmentSent s (s₂.segmentSent sentBytes) by
    refine ⟨⟨fun h seg hseg => hunsent h seg (hsame ▸ hseg), fun h hkept => (hsent h hkept).kept⟩, hsent⟩
  intro hfin hkept
  have hnofin : s₂.carriesFin sentBytes = false := hfin _ mem_cons_self
  rw [if_pos (show (s.setSndNxt (s.state.sndNxt + forward)).state.sackEnabled = true from hkept.sackEnabled)] at henqueue
  obtain ⟨q, hqueue, henqueue⟩ := bind_ok.mp henqueue
  cases henqueue
  have hroom (hfrom : s.ahead (s.state.sndNxt + forward) ≤ s.rexmitQueue.octets.length) :
      s.ahead (s.state.sndNxt + forward) + sentBytes.toNat ≤ s.ahead s.sendQueue.bufferEndSeq := by
    have havailable := hkept.available hfrom
    have hbuffered := hkept.buffered
    have hbytes : sentBytes.toNat ≤ (s.sendQueue.getBytesAvailable (s.state.sndNxt + forward)).toNat := hbytes
    omega
  have hshort := hkept.short
  have hto (hfrom : s.ahead (s.state.sndNxt + forward) ≤ s.rexmitQueue.octets.length) :
      s.ahead (s.state.sndNxt + forward + sentBytes) = s.ahead (s.state.sndNxt + forward) + sentBytes.toNat := by
    rw [s.ahead_add, Nat.mod_eq_of_lt (by omega)]
  obtain ⟨hfrom, hbuffered, hcheck, hbegin, hlength, hend⟩ := hkept.enqueue hqueue fun hfrom => by
    change s.ahead (s.state.sndNxt + forward + sentBytes) ≤ _
    rw [hto hfrom]
    exact hroom hfrom
  obtain ⟨hends, hedge⟩ := ends_enqueueSentData hqueue
  have hto : s.ahead (s.state.sndNxt + forward + sentBytes) = _ := hto hfrom
  have hlength : q.octets.length = max s.rexmitQueue.octets.length (s.ahead (s.state.sndNxt + forward + sentBytes)) :=
    hlength
  have hold := hkept.buffered
  have hmax := hkept.sndMax.le
  let s' := (((s.setSndNxt (s.state.sndNxt + forward)).setRexmitQueue q).segmentSent sentBytes)
  have hnext : s'.state.sndNxt = s.state.sndNxt + forward + sentBytes := by
    change (if _ then _ else _) = _
    rw [hnofin]
    rfl
  have hafter (hrto : s'.state.afterRto = true) : s.state.afterRto = true ∧ ¬ seqGE s'.state.sndNxt s.state.sndMax := by
    have hboth : (s.state.afterRto && !decide (seqGE (s.state.sndNxt + forward + sentBytes) s.state.sndMax)) = true := hrto
    rw [Bool.and_eq_true, Bool.not_eq_true', decide_eq_false_iff_not] at hboth
    rw [hnext]
    exact hboth
  have hkept' : s'.Kept := by
    constructor
    · exact hkept.sackEnabled
    · exact hcheck
    · exact hbegin
    · exact hkept.bufferStartSeq
    · constructor
      · change s.ahead s.state.sndMax ≤ q.octets.length
        omega
      · exact hkept.sndMax.edge.imp_right (hends _)
    · change q.octets.length ≤ s.ahead s.sendQueue.bufferEndSeq
      omega
    · exact hshort
    · exact hkept.fin
    · intro hrto
      -- nothing has been sent beyond the end of the queue
      obtain ⟨hrto, hbehind⟩ := hafter hrto
      have hend₀ := hkept.afterRto hrto
      rw [hnext, s.seqGE_ahead (by omega) (by omega), hend₀, hkept.endNo] at hbehind
      change s.state.sndMax = q.endNo
      apply s.ahead_inj
      rw [hend, hend₀, hkept.endNo]
      omega
    · exact hkept.room
  refine ⟨hkept', ⟨?_, .inr ?_⟩, rfl, rfl, ⟨forward, hnext, ?_, fun hrto => hasked hrto hkept.sackEnabled, hzero⟩,
    fun hrto => (hafter hrto).2⟩
  · rw [hnext]
    change s.ahead _ ≤ q.octets.length
    omega
  · rw [hnext]
    exact hedge
  · rw [hnext]
    exact hto.symm

end Queue

end TCPReno

end Inet.Tcp
