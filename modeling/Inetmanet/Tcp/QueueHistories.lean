import Inetmanet.Lib.Observations
import Inetmanet.Tcp.ByteStreamSendQueue
import Inetmanet.Tcp.MsgBasedQueues
import Inetmanet.Tcp.TCPReno

/-!
# Queues that are initialized again

`init` may be called on a queue that has been in use, as when a connection returns to
LISTEN. The byte stream queue is then as good as new. The retransmission queue and the
queues of messages keep a list, and are as good as new only if it is empty.
-/
namespace Inet.Tcp

open Observations RegionClass TCPVirtualDataRcvQueue

/-- What a call on a queue returns. -/
inductive QueueAnswer where
  | nothing
  | seqNo (n : SeqNo)
  | bytes (n : ULong)
  | count (n : Nat)
  | flag (b : Bool)
  | block (length : SeqNo) (sacked rexmitted : Bool)
  | segment (tcpseg : TCPSegment)
  | message (msg : Option CPacket)
  deriving DecidableEq, Repr

theorem seqLE_self (seqNum : SeqNo) : seqLE seqNum seqNum := by
  rw [seqLE, BitVec.sub_self]
  decide

theorem seqLess_add (seqNum : SeqNo) {n : SeqNo} (hpos : 0 < n.toNat) (hlt : n.toNat < 2 ^ 31) : seqLess seqNum (seqNum + n) := by
  have hdiff : seqNum + n - seqNum = n := by grind
  refine ⟨?_, by rwa [hdiff]⟩
  intro heq
  rw [← heq, BitVec.sub_self] at hdiff
  rw [← hdiff] at hpos
  exact absurd hpos (by decide)

theorem not_seqLE_of_seqLess {a b : SeqNo} (h : seqLess a b) : ¬ seqLE b a := by
  intro hle
  have hdiff : b - a = -(a - b) := by grind
  have hless := h.2
  rw [hdiff, BitVec.toNat_neg] at hless
  rw [seqLE] at hle
  have hne : (a - b).toNat ≠ 0 := by
    intro hzero
    exact h.1 (by have := BitVec.eq_of_toNat_eq (x := a - b) (y := 0#32) hzero; grind)
  omega

namespace TCPSACKRexmitQueue

/-- The constructor. -/
def created : TCPSACKRexmitQueue := ⟨[], 0, 0⟩

/-- `init` on a queue with contents. -/
def reinit (q : TCPSACKRexmitQueue) (seqNum : SeqNo) : TCPSACKRexmitQueue := { q with beginNo := seqNum, endNo := seqNum }

inductive Call where
  | init (seqNum : SeqNo)
  | getBufferStartSeq
  | getBufferEndSeq
  | discardUpTo (seqNum : SeqNo)
  | enqueueSentData (fromSeqNum toSeqNum : SeqNo)
  | setSackedBit (fromSeqNum toSeqNum : SeqNo)
  | getSackedBit (seqNum : SeqNo)
  | getHighestSackedSeqNum
  | getHighestRexmittedSeqNum
  | checkRexmitQueueForSackedOrRexmittedSegments (fromSeqNum : SeqNo)
  | resetSackedBit
  | resetRexmittedBit
  | getTotalAmountOfSackedBytes
  | getAmountOfSackedBytes (seqNum : SeqNo)
  | getNumOfDiscontiguousSacks (seqNum : SeqNo)
  | checkSackBlock (seqNum : SeqNo)

def answer (q : TCPSACKRexmitQueue) : Call → Sim (QueueAnswer × TCPSACKRexmitQueue)
  | .init seqNum => return (.nothing, q.reinit seqNum)
  | .getBufferStartSeq => return (.seqNo q.beginNo, q)
  | .getBufferEndSeq => return (.seqNo q.endNo, q)
  | .discardUpTo seqNum => return (.nothing, ← q.discardUpTo seqNum)
  | .enqueueSentData fromSeqNum toSeqNum => return (.nothing, ← q.enqueueSentData fromSeqNum toSeqNum)
  | .setSackedBit fromSeqNum toSeqNum => return (.nothing, ← q.setSackedBit fromSeqNum toSeqNum)
  | .getSackedBit seqNum => return (.flag (← q.getSackedBit seqNum), q)
  | .getHighestSackedSeqNum => return (.seqNo q.getHighestSackedSeqNum, q)
  | .getHighestRexmittedSeqNum => return (.seqNo q.getHighestRexmittedSeqNum, q)
  | .checkRexmitQueueForSackedOrRexmittedSegments fromSeqNum =>
    return (.seqNo (← q.checkRexmitQueueForSackedOrRexmittedSegments fromSeqNum), q)
  | .resetSackedBit => return (.nothing, q.resetSackedBit)
  | .resetRexmittedBit => return (.nothing, q.resetRexmittedBit)
  | .getTotalAmountOfSackedBytes => return (.seqNo q.getTotalAmountOfSackedBytes, q)
  | .getAmountOfSackedBytes seqNum => return (.seqNo (← q.getAmountOfSackedBytes seqNum), q)
  | .getNumOfDiscontiguousSacks seqNum => return (.seqNo (← q.getNumOfDiscontiguousSacks seqNum), q)
  | .checkSackBlock seqNum => do
    let (length, sacked, rexmitted) ← q.checkSackBlock seqNum
    return (.block length sacked rexmitted, q)

/-- After `init`, the queue is as one that has just been created. -/
def Flushed (q : TCPSACKRexmitQueue) (seqNum : SeqNo) : Prop :=
  Indistinguishable answer (q.reinit seqNum) (created.reinit seqNum)

section

variable {q : TCPSACKRexmitQueue} {seqNum n : SeqNo} {i : RexmitRegion} {l : List RexmitRegion}

theorem reinit_of_nil (h : q.rexmitQueue = []) : q.reinit seqNum = created.reinit seqNum := by
  rw [reinit, h]
  rfl

/-- Some octets are sent, and it is asked for the block that begins with them. -/
def probe (seqNum n : SeqNo) : List Call :=
  [.enqueueSentData seqNum (seqNum + n), .getBufferStartSeq, .checkSackBlock seqNum]

theorem created_probe (seqNum : SeqNo) (hpos : 0 < n.toNat) (hlt : n.toNat < 2 ^ 31) :
    answers answer (created.reinit seqNum) (probe seqNum n) = .ok [.nothing, .seqNo seqNum, .block n false false] := by
  have hless := seqLess_add seqNum hpos hlt
  have hself := seqLE_self seqNum
  have henqueue : (created.reinit seqNum).enqueueSentData seqNum (seqNum + n) =
      .ok ⟨[⟨seqNum, seqNum + n, false, false⟩], seqNum, seqNum + n⟩ := by
    simp [enqueueSentData, created, reinit, hself, hless, CheckQueue, Contiguous, bind, Except.bind, pure, Except.pure]
  apply answers_cons_of_ok ⟨[⟨seqNum, seqNum + n, false, false⟩], seqNum, seqNum + n⟩
  · simp only [answer, henqueue, bind, Except.bind, pure, Except.pure]
  apply answers_cons_of_ok _
  · rfl
  apply answers_cons_of_ok ⟨[⟨seqNum, seqNum + n, false, false⟩], seqNum, seqNum + n⟩
  · have hbehind := not_seqLE_of_seqLess hless
    have hdiff : seqNum + n - seqNum = n := by grind
    simp [answer, checkSackBlock, after, Around, hself, hless, hbehind, hdiff, bind, Except.bind, pure, Except.pure]
  · rfl

/-- The block is the first of the regions that have been left. -/
theorem left_probe {blockLength : SeqNo} (hq : q.rexmitQueue = i :: l)
    (h : answers answer (q.reinit seqNum) (probe seqNum n) = .ok [.nothing, .seqNo seqNum, .block blockLength false false]) :
    blockLength = i.endSeqNum - seqNum := by
  obtain ⟨q₁, henqueue, h⟩ := answers_cons_ok.mp h
  obtain ⟨q₂, hstart, h⟩ := answers_cons_ok.mp h
  obtain ⟨q₃, hblock, -⟩ := answers_cons_ok.mp h
  obtain ⟨q', henqueue, hq₁⟩ := bind_ok.mp henqueue
  cases hq₁
  have hbegin : q₁.beginNo = seqNum ∧ q₁ = q₂ := by simpa [answer, pure, Except.pure] using hstart
  obtain ⟨hbegin, rfl⟩ := hbegin
  rw [enqueueSentData] at henqueue
  obtain ⟨-, henqueue⟩ := ensure_bind_ok.mp henqueue
  obtain ⟨-, henqueue⟩ := ensure_bind_ok.mp henqueue
  obtain ⟨regions, hregions, henqueue⟩ := bind_ok.mp henqueue
  rw [if_pos (.inr rfl), reinit, hq] at hregions
  cases hregions
  simp only [List.cons_append, List.head?_cons] at henqueue
  split at henqueue
  · next front back hfront _ =>
    obtain ⟨hcheck, henqueue⟩ := ensure_bind_ok.mp henqueue
    obtain rfl := Except.ok.inj henqueue
    cases hfront
    obtain ⟨-, hless, -⟩ := hcheck
    have hbegin : i.beginSeqNum = seqNum := hbegin
    rw [hbegin] at hless
    obtain ⟨⟨length, sacked, rexmitted⟩, hlookup, heq⟩ := bind_ok.mp hblock
    cases heq
    rw [checkSackBlock] at hlookup
    obtain ⟨-, hlookup⟩ := ensure_bind_ok.mp hlookup
    rw [after, List.dropWhile_cons_of_neg (by simpa using not_seqLE_of_seqLess hless)] at hlookup
    obtain ⟨-, hlookup⟩ := ensure_bind_ok.mp hlookup
    exact (congrArg Prod.fst (Except.ok.inj hlookup)).symm
  · cases henqueue

/-- What is left is found out by two probes. -/
theorem flushed_iff : q.Flushed seqNum ↔ q.rexmitQueue = [] := by
  constructor
  · intro h
    cases hq : q.rexmitQueue with
    | nil => rfl
    | cons i l =>
      have hone := left_probe hq ((h (probe seqNum 1)).trans (created_probe seqNum (by decide) (by decide)))
      have htwo := left_probe hq ((h (probe seqNum 2)).trans (created_probe seqNum (by decide) (by decide)))
      exact absurd (hone.trans htwo.symm) (by decide)
  · intro h
    exact .of_eq (reinit_of_nil h)

end

end TCPSACKRexmitQueue

/-- The calls on a send queue with messages of one kind. -/
inductive SendQueueCall (μ : Type) where
  | init (startSeq : SeqNo)
  | enqueueAppData (msg : μ)
  | getBufferStartSeq
  | getBufferEndSeq
  | getBytesAvailable (fromSeq : SeqNo)
  | createSegmentWithBytes (fromSeq : SeqNo) (numBytes : Nat)
  | discardUpTo (seqNum : SeqNo)

namespace TCPMsgBasedSendQueue

/-- The constructor. -/
def created : TCPMsgBasedSendQueue := ⟨[], 0, 0⟩

/-- `init` on a queue with contents. -/
def reinit (q : TCPMsgBasedSendQueue) (startSeq : SeqNo) : TCPMsgBasedSendQueue :=
  { q with beginNo := startSeq, endNo := startSeq }

def answer (q : TCPMsgBasedSendQueue) : SendQueueCall CPacket → Sim (QueueAnswer × TCPMsgBasedSendQueue)
  | .init startSeq => return (.nothing, q.reinit startSeq)
  | .enqueueAppData msg => return (.nothing, ← q.enqueueAppData msg)
  | .getBufferStartSeq => return (.seqNo q.beginNo, q)
  | .getBufferEndSeq => return (.seqNo q.endNo, q)
  | .getBytesAvailable fromSeq => return (.bytes (TCPSendQueue.getBytesAvailable ⟨q.beginNo, q.endNo⟩ fromSeq), q)
  | .createSegmentWithBytes fromSeq numBytes => return (.segment (← q.createSegmentWithBytes fromSeq numBytes), q)
  | .discardUpTo seqNum => return (.nothing, ← q.discardUpTo seqNum)

/-- After `init`, the queue is as one that has just been created. -/
def Flushed (q : TCPMsgBasedSendQueue) (startSeq : SeqNo) : Prop :=
  Indistinguishable answer (q.reinit startSeq) (created.reinit startSeq)

section

variable {q : TCPMsgBasedSendQueue} {startSeq seqNum : SeqNo} {i : TCPPayloadMessage} {l : List TCPPayloadMessage}

theorem reinit_of_nil (h : q.payloadQueue = []) : q.reinit startSeq = created.reinit startSeq := by
  rw [reinit, h]
  rfl

/-- A message of one byte is enqueued and sent. -/
def probe (start : SeqNo) (msg : CPacket) : List (SendQueueCall CPacket) :=
  [.init start, .enqueueAppData msg, .createSegmentWithBytes start 1]

/-- The segment holds the message behind those that have been left, unless there are such. -/
theorem probe_answers (q : TCPMsgBasedSendQueue) (start : SeqNo) {msg : CPacket} (hmsg : msg.byteLength = 1)
    {tcpseg : TCPSegment} (h : answers answer q (probe start msg) = .ok [.nothing, .nothing, .segment tcpseg]) :
    tcpseg.payloadList = (List.dropWhile (fun p => seqLE p.endSequenceNo start)
      (q.payloadQueue ++ [⟨start + 1#32, msg⟩])).takeWhile fun p => seqLE p.endSequenceNo (start + 1#32) := by
  obtain ⟨q₁, hinit, h⟩ := answers_cons_ok.mp h
  obtain ⟨q₂, henqueue, h⟩ := answers_cons_ok.mp h
  obtain ⟨q₃, hcreate, -⟩ := answers_cons_ok.mp h
  cases hinit
  obtain ⟨q', henqueue, hq₂⟩ := bind_ok.mp henqueue
  cases hq₂
  simp only [enqueueAppData, reinit, hmsg] at henqueue
  split at henqueue
  · cases henqueue
  cases henqueue
  obtain ⟨tcpseg', hsegment, heq⟩ := bind_ok.mp hcreate
  cases heq
  rw [createSegmentWithBytes] at hsegment
  obtain ⟨-, hsegment⟩ := ensure_bind_ok.mp hsegment
  cases hsegment
  rfl

theorem created_probe (startSeq start : SeqNo) {msg : CPacket} (hmsg : msg.byteLength = 1) :
    answers answer (created.reinit startSeq) (probe start msg) =
      .ok [.nothing, .nothing, .segment { sequenceNo := start, payloadLength := 1, payloadList := [⟨start + 1#32, msg⟩] }] := by
  have hless := seqLess_add (n := 1#32) start (by decide) (by decide)
  have hbehind := not_seqLE_of_seqLess hless
  have hself := seqLE_self
  have hnot : ¬ seqLess (start + 1#32) start := fun h => hbehind h.2
  apply answers_cons_of_ok ⟨[], start, start⟩
  · rfl
  apply answers_cons_of_ok ⟨[⟨start + 1#32, msg⟩], start, start + 1#32⟩
  · simp [answer, enqueueAppData, hmsg, hnot, bind, Except.bind, pure, Except.pure]
  apply answers_cons_of_ok ⟨[⟨start + 1#32, msg⟩], start, start + 1#32⟩
  · simp [answer, createSegmentWithBytes, hself, hbehind, bind, Except.bind, pure, Except.pure]
  · rfl

/-- A message that has been left would travel once more. -/
theorem flushed_iff : q.Flushed startSeq ↔ q.payloadQueue = [] := by
  constructor
  · intro h
    cases hq : q.payloadQueue with
    | nil => rfl
    | cons i l =>
      have hend : i.endSequenceNo - 1 + 1#32 = i.endSequenceNo := BitVec.sub_add_cancel _ _
      have hless := seqLess_add (n := 1#32) (i.endSequenceNo - 1) (by decide) (by decide)
      rw [hend] at hless
      -- another message than the one that has been left
      have hanswers := (h (probe (i.endSequenceNo - 1) ⟨i.msg.id + 1, 1⟩)).trans (created_probe startSeq _ rfl)
      have hlist := probe_answers (q.reinit startSeq) (i.endSequenceNo - 1) rfl hanswers
      rw [hend, reinit, hq, List.cons_append, List.dropWhile_cons_of_neg (by simpa using not_seqLE_of_seqLess hless),
        List.takeWhile_cons_of_pos (by simpa using seqLE_self _)] at hlist
      have hmsg := congrArg TCPPayloadMessage.msg (List.cons.inj hlist).1
      exact absurd (congrArg CPacket.id hmsg) (Nat.succ_ne_self _)
  · intro h
    exact .of_eq (reinit_of_nil h)

end

end TCPMsgBasedSendQueue

namespace TCPByteStreamSendQueue

def answer (q : TCPByteStreamSendQueue) : SendQueueCall Bytes → Sim (QueueAnswer × TCPByteStreamSendQueue)
  | .init startSeq => return (.nothing, q.init startSeq)
  | .enqueueAppData byteArray => return (.nothing, q.enqueueAppData byteArray)
  | .getBufferStartSeq => return (.seqNo q.beginNo, q)
  | .getBufferEndSeq => return (.seqNo q.endNo, q)
  | .getBytesAvailable fromSeq => return (.bytes (TCPSendQueue.getBytesAvailable ⟨q.beginNo, q.endNo⟩ fromSeq), q)
  | .createSegmentWithBytes fromSeq numBytes => return (.segment (← q.createSegmentWithBytes fromSeq numBytes), q)
  | .discardUpTo seqNum => return (.nothing, ← q.discardUpTo seqNum)

/-- After `init`, the queue is as one that has just been created. -/
def Flushed (q : TCPByteStreamSendQueue) (startSeq : SeqNo) : Prop :=
  Indistinguishable answer (q.init startSeq) (created.init startSeq)

theorem flushed (q : TCPByteStreamSendQueue) (startSeq : SeqNo) : q.Flushed startSeq := .of_eq (q.init_eq startSeq)

end TCPByteStreamSendQueue

namespace TCPMsgBasedRcvQueue

/-- The constructor, which does not set `rcv_nxt`. -/
def created (rcvNxt : SeqNo) : TCPMsgBasedRcvQueue := ⟨⟨rcvNxt, []⟩, []⟩

/-- `init` on a queue with contents. -/
def reinit (q : TCPMsgBasedRcvQueue) (startSeq : SeqNo) : TCPMsgBasedRcvQueue :=
  { q with toTCPVirtualDataRcvQueue := .init startSeq }

inductive Call where
  | init (startSeq : SeqNo)
  | insertBytesFromSegment (tcpseg : TCPSegment)
  | extractBytesUpTo (seq : SeqNo)
  | getAmountOfBufferedBytes
  | getAmountOfFreeBytes (maxRcvBuffer : SeqNo)
  | getQueueLength
  | getLE (fromSeqNum : SeqNo)
  | getRE (toSeqNum : SeqNo)
  | getFirstSeqNo

def answer (q : TCPMsgBasedRcvQueue) : Call → Sim (QueueAnswer × TCPMsgBasedRcvQueue)
  | .init startSeq => return (.nothing, q.reinit startSeq)
  | .insertBytesFromSegment tcpseg => do
    let q ← q.insertBytesFromSegment tcpseg
    return (.seqNo q.rcvNxt, q)
  | .extractBytesUpTo seq => do
    let (msg, q) ← q.extractBytesUpTo seq
    return (.message msg, q)
  | .getAmountOfBufferedBytes => return (.seqNo q.getAmountOfBufferedBytes, q)
  | .getAmountOfFreeBytes maxRcvBuffer => return (.seqNo (q.getAmountOfFreeBytes maxRcvBuffer), q)
  | .getQueueLength => return (.count q.getQueueLength, q)
  | .getLE fromSeqNum => return (.seqNo (q.getLE fromSeqNum), q)
  | .getRE toSeqNum => return (.seqNo (q.getRE toSeqNum), q)
  | .getFirstSeqNo => return (.seqNo q.getFirstSeqNo, q)

/-- After `init`, the queue is as one that has just been created. -/
def Flushed (q : TCPMsgBasedRcvQueue) (startSeq : SeqNo) : Prop :=
  ∀ rcvNxt, Indistinguishable answer (q.reinit startSeq) ((created rcvNxt).reinit startSeq)

section

variable {q : TCPMsgBasedRcvQueue} {startSeq : SeqNo} {i : PayloadItem} {l : List PayloadItem}

theorem reinit_of_nil (h : q.payloadList = []) (rcvNxt : SeqNo) : q.reinit startSeq = (created rcvNxt).reinit startSeq := by
  rw [reinit, h]
  rfl

/-- A segment of one byte arrives, with no message in it. -/
def probe (start : SeqNo) : List Call :=
  [.init start, .insertBytesFromSegment { sequenceNo := start, payloadLength := 1 }, .extractBytesUpTo (start + 1#32)]

/-- The byte is extracted with the first of the messages that have been left, if this is where it ends. -/
theorem probe_answers (q : TCPMsgBasedRcvQueue) (start : SeqNo) (hfirst : ∀ i ∈ q.payloadList.head?, i.seqNo = start + 1#32) :
    answers answer q (probe start) =
      .ok [.nothing, .seqNo (start + 1#32), .message (q.payloadList.head?.map PayloadItem.packet)] := by
  have hless := seqLess_add (n := 1#32) start (by decide) (by decide)
  have hbehind := not_seqLE_of_seqLess hless
  have hself := seqLE_self
  have hge : seqGE start start := hself start
  have hge' : seqGE (start + 1#32) (start + 1#32) := hself _
  apply answers_cons_of_ok (q.reinit start)
  · rfl
  apply answers_cons_of_ok ⟨⟨start + 1#32, [⟨start, start + 1#32⟩]⟩, q.payloadList⟩
  · simp [answer, reinit, insertBytesFromSegment, insertMessages, TCPVirtualDataRcvQueue.insertBytesFromSegment,
      TCPVirtualDataRcvQueue.init, outOfRange, TCPVirtualDataRcvQueue.merge, mergeFrom,
      createRegionFromSegment, getBegin, getEnd, TCPSegment.endNo, hge, bind,
      Except.bind, pure, Except.pure]
  cases hl : q.payloadList with
  | nil =>
    apply answers_cons_of_ok ⟨⟨start + 1#32, []⟩, []⟩
    · simp [answer, extractBytesUpTo, extractLimit, extractTo, getBegin,
        getEnd, hself, hbehind, hge', bind, Except.bind, pure, Except.pure]
    · rfl
  | cons i l =>
    have hi := hfirst i (by rw [hl]; rfl)
    have hnot : ¬ seqLess (start + 1#32) (start + 1#32) := fun h => h.1 rfl
    apply answers_cons_of_ok ⟨⟨start + 1#32, []⟩, l⟩
    · simp [answer, extractBytesUpTo, extractLimit, extractTo, getBegin,
        getEnd, hi, hnot, hself, hbehind, hge', bind, Except.bind, pure, Except.pure]
    · rfl

/-- A message that has been left would be handed up once more. -/
theorem flushed_iff : q.Flushed startSeq ↔ q.payloadList = [] := by
  constructor
  · intro h
    cases hq : q.payloadList with
    | nil => rfl
    | cons i l =>
      have hend : i.seqNo - 1 + 1#32 = i.seqNo := BitVec.sub_add_cancel _ _
      have hleft := probe_answers (q.reinit startSeq) (i.seqNo - 1) (by
        intro j hj
        rw [reinit, hq] at hj
        cases hj
        exact hend.symm)
      have hnew := probe_answers ((created 0).reinit startSeq) (i.seqNo - 1) (by
        intro j hj
        cases hj)
      have hsame := hleft.symm.trans ((h 0 (probe (i.seqNo - 1))).trans hnew)
      rw [reinit, hq] at hsame
      cases hsame
  · intro h rcvNxt
    exact .of_eq (reinit_of_nil h rcvNxt)

end

end TCPMsgBasedRcvQueue

/-- `init` flushes the byte stream queue after any history. The others are flushed exactly if
their list is empty already. -/
theorem init_flushes_iff (startSeq : SeqNo) :
    (∀ history q, after TCPSACKRexmitQueue.answer .created history = .ok q → (q.Flushed startSeq ↔ q.rexmitQueue = [])) ∧
    (∀ history q, after TCPMsgBasedSendQueue.answer .created history = .ok q →
      (q.Flushed startSeq ↔ q.payloadQueue = [])) ∧
    (∀ history q, after TCPByteStreamSendQueue.answer .created history = .ok q → q.Flushed startSeq) ∧
    ∀ rcvNxt history q, after TCPMsgBasedRcvQueue.answer (.created rcvNxt) history = .ok q →
      (q.Flushed startSeq ↔ q.payloadList = []) := by
  refine ⟨?_, ?_, ?_, ?_⟩
  · intro _ _ _
    exact TCPSACKRexmitQueue.flushed_iff
  · intro _ _ _
    exact TCPMsgBasedSendQueue.flushed_iff
  · intro _ q _
    exact q.flushed startSeq
  · intro _ _ _ _
    exact TCPMsgBasedRcvQueue.flushed_iff

/-- Everything that was sent has been acknowledged, and everything received handed up. -/
theorem acknowledged_flushed :
    TCPSACKRexmitQueue.Flushed ⟨[], 1010, 1010⟩ 5000 ∧ TCPMsgBasedSendQueue.Flushed ⟨[], 1010, 1010⟩ 5000 ∧
      TCPByteStreamSendQueue.Flushed ⟨⟨[[1, 2]], 2⟩, 1000, 1002⟩ 5000 ∧
      TCPMsgBasedRcvQueue.Flushed ⟨⟨1010, []⟩, []⟩ 5000 := by
  have hall := init_flushes_iff 5000
  refine ⟨?_, ?_, ?_, ?_⟩
  · exact (hall.1 [.init 1000, .enqueueSentData 1000 1010, .discardUpTo 1010] _ (by decide)).mpr rfl
  · exact (hall.2.1 [.init 1000, .enqueueAppData ⟨7, 10⟩, .discardUpTo 1010] _ (by decide)).mpr rfl
  · exact hall.2.2.1 [.init 1000, .enqueueAppData [1, 2]] _ (by decide)
  · exact (hall.2.2.2 0 [.init 1000, .insertBytesFromSegment { sequenceNo := 1000, payloadLength := 10 },
      .extractBytesUpTo 1010] _ (by decide)).mpr rfl

/-- A region that is not acknowledged, a message that waits to be sent and one that waits for
the bytes before it are there after `init`. -/
theorem contents_survive_init :
    (¬ ∀ history q startSeq, after TCPSACKRexmitQueue.answer .created history = .ok q → q.Flushed startSeq) ∧
    (¬ ∀ history q startSeq, after TCPMsgBasedSendQueue.answer .created history = .ok q → q.Flushed startSeq) ∧
    ¬ ∀ rcvNxt history q startSeq, after TCPMsgBasedRcvQueue.answer (.created rcvNxt) history = .ok q →
      q.Flushed startSeq := by
  refine ⟨?_, ?_, ?_⟩
  · intro h
    have hflushed := h [.init 1000, .enqueueSentData 1000 1010] ⟨[⟨1000, 1010, false, false⟩], 1000, 1010⟩ 5000
      (by decide)
    cases TCPSACKRexmitQueue.flushed_iff.mp hflushed
  · intro h
    have hflushed := h [.init 1000, .enqueueAppData ⟨7, 10⟩] ⟨[⟨1010, ⟨7, 10⟩⟩], 1000, 1010⟩ 5000 (by decide)
    cases TCPMsgBasedSendQueue.flushed_iff.mp hflushed
  · intro h
    have hflushed := h 0 [.init 1000, .insertBytesFromSegment
      { sequenceNo := 1010, payloadLength := 10, payloadList := [⟨1020, ⟨7, 20⟩⟩] }]
      ⟨⟨1000, [⟨1010, 1020⟩]⟩, [⟨1020, ⟨7, 20⟩⟩]⟩ 5000 (by decide)
    cases TCPMsgBasedRcvQueue.flushed_iff.mp hflushed

end Inet.Tcp
