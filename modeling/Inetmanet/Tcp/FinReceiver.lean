import Inetmanet.Tcp.LossRecovery
import Inetmanet.Tcp.SACKReceiver

/-!
# Text and FIN of an arriving segment

The seventh and the eighth step of `processSegment1stThru8th`, for any kind of
receive queue. The FIN is looked for behind the text as it was cut to the window.
-/
namespace Inet.Tcp

/-- The virtual methods of `TCPReceiveQueue`. -/
class TCPReceiveQueue (Q : Type) where
  insertBytesFromSegment : Q → TCPSegment → Sim (SeqNo × Q)
  /-- Whether there was a message to give to the application. -/
  extractBytesUpTo : Q → SeqNo → Sim (Bool × Q)
  getAmountOfBufferedBytes : Q → SeqNo
  getAmountOfFreeBytes : Q → SeqNo → SeqNo
  getQueueLength : Q → Nat
  getFirstSeqNo : Q → SeqNo

instance : TCPReceiveQueue (TCPVirtualDataRcvQueue Region) where
  insertBytesFromSegment q tcpseg := do
    let q ← q.insertBytesFromSegment tcpseg
    return (q.rcvNxt, q)
  extractBytesUpTo q seq := do
    let (msg, q) ← q.extractBytesUpTo Region.copyTo seq
    return (msg.isSome, q)
  getAmountOfBufferedBytes q := q.getAmountOfBufferedBytes
  getAmountOfFreeBytes q maxRcvBuffer := q.getAmountOfFreeBytes maxRcvBuffer
  getQueueLength q := q.getQueueLength
  getFirstSeqNo q := q.getFirstSeqNo

/-- The states in which the text of a segment is processed. -/
inductive TCPState where
  | synRcvd | established | finWait1 | finWait2
  deriving DecidableEq, Repr

inductive TCPEventCode where
  | ignore | rcvAck | rcvFin | rcvFinAck
  deriving DecidableEq, Repr

structure DataReceiver (Q : Type) where
  fsm : TCPState
  state : TCPStateVariables
  receiveQueue : Q
  deriving DecidableEq, Repr

/-- What the seventh step leaves to the eighth one. -/
structure TextProcessed (Q : Type) where
  receiver : DataReceiver Q
  tcpseg : TCPSegment
  event : TCPEventCode
  deriving DecidableEq, Repr

namespace DataReceiver

open TCPReceiveQueue

variable {Q : Type} [TCPReceiveQueue Q]

/-- The event when `rcvNxt` goes over the FIN. -/
def finEvent {Q : Type} (r : DataReceiver Q) : TCPEventCode :=
  if r.fsm = .finWait1 ∧ r.state.finAckRcvd then .rcvFinAck else .rcvFin

def updateRcvQueueVars (r : DataReceiver Q) : DataReceiver Q :=
  let freeRcvBuffer := getAmountOfFreeBytes r.receiveQueue r.state.maxRcvBuffer
  { r with state := { r.state with freeRcvBuffer := freeRcvBuffer,
                                   usedRcvBuffer := r.state.maxRcvBuffer - freeRcvBuffer } }

def HasEnoughSpace (r : DataReceiver Q) (tcpseg : TCPSegment) : Prop :=
  let firstSeq := getFirstSeqNo r.receiveQueue
  seqLE firstSeq tcpseg.sequenceNo ∧ seqLE tcpseg.endNo (firstSeq + r.state.maxRcvBuffer)
deriving Decidable

/-- The loop that forwards data to the application. -/
def forwardData : Nat → Q → SeqNo → Sim Q
  | 0, _, _ => .error .diverges
  | fuel + 1, q, rcvNxt => do
    let (more, q) ← extractBytesUpTo q rcvNxt
    if more then forwardData fuel q rcvNxt else return q

/-- The counters that decide when the ACK is sent. -/
def noteLength {Q : Type} (r : DataReceiver Q) (tcpseg : TCPSegment) : DataReceiver Q :=
  let full := tcpseg.payloadLength = r.state.sndMss.toNat ∨
    tcpseg.payloadLength + tcpseg.headerLength - tcpHeaderOctets = r.state.sndMss.toNat
  { r with state := { r.state with
      fullSizedSegmentCounter := r.state.fullSizedSegmentCounter + (if full then 1 else 0)
      ackNow := r.state.ackNow || decide (tcpseg.payloadLength = 1) } }

/-- A segment that left `rcvNxt` where it was. -/
def noteOutOfOrder (r : DataReceiver Q) (oldUsedRcvBuffer : SeqNo) (tcpseg : TCPSegment) : DataReceiver Q :=
  if r.state.sackEnabled then
    let dsack := decide (oldUsedRcvBuffer = getAmountOfBufferedBytes r.receiveQueue)
    { r with state := { r.state with
        startSeqno := tcpseg.sequenceNo
        endSeqno := tcpseg.endNo
        sndDsack := r.state.sndDsack || dsack
        sndSack := r.state.sndSack || !dsack } }
  else r

/-- A segment that filled the gap up to a FIN that had arrived before. -/
def passRememberedFin {Q : Type} (r : DataReceiver Q) (event : TCPEventCode) : DataReceiver Q × TCPEventCode :=
  if r.state.finRcvd ∧ r.state.rcvNxt = r.state.rcvFinSeq then
    ({ r with state := { r.state with ackNow := true, rcvNxt := r.state.rcvFinSeq + 1 } }, r.finEvent)
  else (r, event)

/-- The text goes into the queue as far as it lies in the window, with none where the segment is
dropped for want of space. -/
def insertText (r : DataReceiver Q) (tcpseg : TCPSegment) : Sim (Option (DataReceiver Q × TCPSegment)) := do
  let tcpseg ← tcpseg.truncateSegment r.state.rcvNxt (r.state.rcvNxt + r.state.rcvWnd)
  let r := r.updateRcvQueueVars
  if r.HasEnoughSpace tcpseg then
    let (rcvNxt, receiveQueue) ← insertBytesFromSegment r.receiveQueue tcpseg
    return some ({ r with state := { r.state with rcvNxt := rcvNxt }, receiveQueue := receiveQueue }, tcpseg)
  else return none

def forwardText (r : DataReceiver Q) (event : TCPEventCode) : Sim (DataReceiver Q × TCPEventCode) := do
  let receiveQueue ← forwardData loopLimit r.receiveQueue r.state.rcvNxt
  return { r with receiveQueue := receiveQueue }.passRememberedFin event

/-- The seventh step. `dataAcked` is what the TCP algorithm does when the segment has acknowledged
data: it may send segments. -/
def processText (dataAcked : DataReceiver Q → Sim (DataReceiver Q)) (r : DataReceiver Q)
    (tcpseg : TCPSegment) (event : TCPEventCode) : Sim (Option (TextProcessed Q)) :=
  if tcpseg.payloadLength > 0 then do
    let oldRcvNxt := r.state.rcvNxt
    match ← (r.noteLength tcpseg).insertText tcpseg with
    | none => return none
    | some (r, tcpseg) =>
      let oldUsedRcvBuffer := r.state.usedRcvBuffer
      let r ← dataAcked r
      if oldRcvNxt = r.state.rcvNxt then
        return some ⟨r.noteOutOfOrder oldUsedRcvBuffer tcpseg, tcpseg, event⟩
      else
        let (r, event) ← r.forwardText event
        return some ⟨r, tcpseg, event⟩
  else return some ⟨r, tcpseg, event⟩

/-- The eighth step. -/
def processFin {Q : Type} (p : TextProcessed Q) : DataReceiver Q × TCPEventCode :=
  let r := p.receiver
  if p.tcpseg.finBit then
    let finSeq := p.tcpseg.endNo
    if r.state.rcvNxt = finSeq then
      ({ r with state := { r.state with ackNow := true, rcvNxt := r.state.rcvNxt + 1 } }, r.finEvent)
    else
      ({ r with state := { r.state with ackNow := true, finRcvd := true, rcvFinSeq := finSeq } }, p.event)
  else (r, p.event)

/-- The FIN has been taken for the octet with number `finSeq`: `rcvNxt` had come up to it and
went over it, or the number is remembered and `rcvNxt` stays. -/
def FinTakenAt {Q : Type} (finSeq : SeqNo) (r r' : DataReceiver Q) : Prop :=
  if r.state.rcvNxt = finSeq then r'.state.rcvNxt = finSeq + 1
  else r'.state.rcvNxt = r.state.rcvNxt ∧ r'.state.finRcvd = true ∧ r'.state.rcvFinSeq = finSeq

instance {Q : Type} (finSeq : SeqNo) (r r' : DataReceiver Q) : Decidable (FinTakenAt finSeq r r') := by
  unfold FinTakenAt
  infer_instance

theorem processFin_takenAt {Q : Type} (p : TextProcessed Q) (hfin : p.tcpseg.finBit = true) :
    FinTakenAt p.tcpseg.endNo p.receiver (processFin p).1 := by
  rw [FinTakenAt, processFin, if_pos hfin]
  split
  · next heq => rw [if_pos heq, ← heq]
  · next hne => rw [if_neg hne]; exact ⟨rfl, rfl, rfl⟩

/-- The number is determined by what happened. -/
theorem FinTakenAt.unique {Q : Type} {x y : SeqNo} {r r' : DataReceiver Q} (hx : FinTakenAt x r r')
    (hy : FinTakenAt y r r') : x = y := by
  have hsucc : ∀ z : SeqNo, z + 1 ≠ z := by
    intro z hz
    bv_omega
  rw [FinTakenAt] at hx hy
  by_cases hxr : r.state.rcvNxt = x
  · rw [if_pos hxr] at hx
    by_cases hyr : r.state.rcvNxt = y
    · exact hxr.symm.trans hyr
    · rw [if_neg hyr, hx, hxr] at hy
      exact absurd hy.1 (hsucc x)
  · rw [if_neg hxr] at hx
    by_cases hyr : r.state.rcvNxt = y
    · rw [if_pos hyr, hx.1, hyr] at hy
      exact absurd hy.symm (hsucc y)
    · rw [if_neg hyr] at hy
      exact hx.2.2.symm.trans hy.2.2

end DataReceiver

namespace TCPSegment

variable {seg seg' : TCPSegment}

theorem truncateData_ok {left right : Nat} (h : seg.truncateData left right = .ok seg') :
    left + right ≤ seg.payloadLength ∧ seg'.sequenceNo = seg.sequenceNo + BitVec.ofNat 32 left ∧
      seg'.payloadLength = seg.payloadLength - (left + right) ∧ seg'.finBit = seg.finBit := by
  rw [truncateData, ensure_bind_ok] at h
  obtain ⟨hle, h⟩ := h
  split at h
  · obtain ⟨bytes, -, h⟩ := bind_ok.mp h
    cases h
    exact ⟨hle, rfl, rfl, rfl⟩
  · cases h
    exact ⟨hle, rfl, rfl, rfl⟩

/-- What is cut off on the right is missing from the end. -/
theorem endNo_truncateData {left right : Nat}
    (h : seg.truncateData left right = .ok seg') : seg'.endNo + BitVec.ofNat 32 right = seg.endNo := by
  obtain ⟨hle, hseq, hlen, -⟩ := truncateData_ok h
  have hsum : left + (seg.payloadLength - (left + right)) + right = seg.payloadLength := by omega
  have hparts : BitVec.ofNat 32 left + BitVec.ofNat 32 (seg.payloadLength - (left + right)) +
      BitVec.ofNat 32 right = BitVec.ofNat 32 seg.payloadLength := by
    rw [← BitVec.ofNat_add, ← BitVec.ofNat_add, hsum]
  rw [endNo, endNo, hseq, hlen, ← hparts]
  simp only [BitVec.add_assoc]

theorem endNo_truncateSegment {firstSeqNo endSeqNo : SeqNo}
    (h : seg.truncateSegment firstSeqNo endSeqNo = .ok seg') :
    seg'.finBit = seg.finBit ∧ (seg'.endNo = seg.endNo ↔ ¬ seqGreater seg.endNo endSeqNo) := by
  have hcommon := truncateSegment_ok h
  rw [truncateSegment, ensure_bind_ok] at h
  simp only [hcommon, and_self, not_true_eq_false, if_false] at h
  have hcut : seg.truncateData (if seqLess seg.sequenceNo firstSeqNo then
      (firstSeqNo - seg.sequenceNo).toNat else 0)
      (if seqGreater seg.endNo endSeqNo then (seg.endNo - endSeqNo).toNat else 0) = .ok seg' := h.2
  have hend := endNo_truncateData hcut
  refine ⟨(truncateData_ok hcut).2.2.2, ?_⟩
  by_cases hgreater : seqGreater seg.endNo endSeqNo
  · rw [if_pos hgreater, BitVec.ofNat_toNat, BitVec.setWidth_eq] at hend
    refine ⟨fun heq => ?_, fun hnot => absurd hgreater hnot⟩
    have hne := hgreater.1
    exact absurd (by bv_omega) hne
  · rw [if_neg hgreater, BitVec.add_zero] at hend
    exact ⟨fun _ => hgreater, fun _ => hend⟩

end TCPSegment

namespace DataReceiver

variable {Q : Type} [TCPReceiveQueue Q] {dataAcked : DataReceiver Q → Sim (DataReceiver Q)}

theorem insertText_tcpseg {r r' : DataReceiver Q} {tcpseg cut : TCPSegment}
    (h : r.insertText tcpseg = .ok (some (r', cut))) :
    tcpseg.truncateSegment r.state.rcvNxt (r.state.rcvNxt + r.state.rcvWnd) = .ok cut := by
  rw [insertText] at h
  obtain ⟨seg, hcut, h⟩ := bind_ok.mp h
  simp only at h
  split at h
  · obtain ⟨⟨rcvNxt, q⟩, -, h⟩ := bind_ok.mp h
    cases h
    exact hcut
  · cases h

/-- The segment that goes to the eighth step. -/
theorem processText_tcpseg {r : DataReceiver Q} {tcpseg : TCPSegment} {event : TCPEventCode}
    {p : TextProcessed Q} (h : r.processText dataAcked tcpseg event = .ok (some p)) :
    tcpseg.payloadLength = 0 ∧ p.tcpseg = tcpseg ∨ 0 < tcpseg.payloadLength ∧
      tcpseg.truncateSegment r.state.rcvNxt (r.state.rcvNxt + r.state.rcvWnd) = .ok p.tcpseg := by
  rw [processText] at h
  by_cases hpos : tcpseg.payloadLength > 0
  · rw [if_pos hpos] at h
    obtain ⟨inserted, hinsert, h⟩ := bind_ok.mp h
    cases inserted with
    | none => cases h
    | some inserted =>
      obtain ⟨r', cut⟩ := inserted
      obtain ⟨r'', -, h⟩ := bind_ok.mp h
      have hp : p.tcpseg = cut := by
        split at h
        · cases h
          rfl
        · obtain ⟨⟨r₁, event₁⟩, -, h⟩ := bind_ok.mp h
          cases h
          rfl
      have hcut := insertText_tcpseg hinsert
      rw [hp]
      exact .inr ⟨hpos, hcut⟩
  · rw [if_neg hpos] at h
    cases h
    exact .inl ⟨by omega, rfl⟩

/-- Whenever a segment with a FIN comes to the eighth step, the FIN is taken for the octet behind
the segment as it arrived exactly if no text was cut off at the right edge of the window. -/
theorem fin_takenAt_iff (dataAcked : DataReceiver Q → Sim (DataReceiver Q)) (r : DataReceiver Q)
    (tcpseg : TCPSegment) (event : TCPEventCode) (p : TextProcessed Q) (hfin : tcpseg.finBit = true)
    (h : r.processText dataAcked tcpseg event = .ok (some p)) :
    FinTakenAt tcpseg.endNo p.receiver (processFin p).1 ↔
      tcpseg.payloadLength = 0 ∨ ¬ seqGreater tcpseg.endNo (r.state.rcvNxt + r.state.rcvWnd) := by
  cases processText_tcpseg h with
  | inl hempty =>
    obtain ⟨hlen, hseg⟩ := hempty
    have htaken := processFin_takenAt p (by rw [hseg]; exact hfin)
    rw [hseg] at htaken
    exact ⟨fun _ => .inl hlen, fun _ => htaken⟩
  | inr hcut =>
    obtain ⟨hpos, hcut⟩ := hcut
    obtain ⟨hbit, hend⟩ := TCPSegment.endNo_truncateSegment hcut
    have htaken := processFin_takenAt p (hbit.trans hfin)
    have hne : tcpseg.payloadLength ≠ 0 := by omega
    rw [or_iff_right hne, ← hend]
    constructor
    · intro hat
      exact htaken.unique hat
    · intro heq
      rw [← heq]
      exact htaken

/-- A receiver with ten octets of buffer, all of which are free. -/
def tenFree : DataReceiver (TCPVirtualDataRcvQueue Region) where
  fsm := .established
  state := { rcvNxt := 1000, rcvWnd := 10, maxRcvBuffer := 10, rcvAdv := 1010 }
  receiveQueue := .init 1000

/-- The last octets of the stream reach beyond the window. -/
def straddling : TCPSegment := { sequenceNo := 1000, payloadLength := 20, finBit := true, ackBit := true }

def fitting : TCPSegment := { sequenceNo := 1000, payloadLength := 10, finBit := true, ackBit := true }

/-- Ten of twenty octets are taken, and the FIN behind the twentieth is acknowledged. -/
theorem straddling_fin_lost :
    tenFree.state.isSegmentAcceptable straddling ∧
    ∃ p, tenFree.processText .ok straddling .ignore = .ok (some p) ∧
      p.receiver.state.rcvNxt = 1010 ∧ (processFin p).1.state.rcvNxt = 1011 ∧ (processFin p).2 = .rcvFin ∧
      straddling.endNo = 1020 ∧ ¬ FinTakenAt straddling.endNo p.receiver (processFin p).1 :=
  ⟨by decide, ⟨{ tenFree with
      state := { tenFree.state with rcvNxt := 1010, freeRcvBuffer := 10 }
      receiveQueue := ⟨1010, []⟩ }, { straddling with payloadLength := 10 }, .ignore⟩,
    by decide, by decide, by decide, by decide, by decide, by decide⟩

theorem fitting_fin_taken : ∃ p, tenFree.processText .ok fitting .ignore = .ok (some p) ∧
    FinTakenAt fitting.endNo p.receiver (processFin p).1 :=
  ⟨⟨{ tenFree with
      state := { tenFree.state with rcvNxt := 1010, freeRcvBuffer := 10 }
      receiveQueue := ⟨1010, []⟩ }, fitting, .ignore⟩,
    by decide, (fin_takenAt_iff .ok tenFree fitting .ignore _ rfl (by decide)).mpr (.inr (by decide))⟩

end DataReceiver

end Inet.Tcp
