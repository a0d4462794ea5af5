import Inetmanet.Tcp.RcvQueue

/-!
# Queues of messages

`TCPMsgBasedSendQueue.cc` and `TCPMsgBasedRcvQueue.cc`: in object mode a message
is a packet that ends at a sequence number and travels in the segment that
holds its last byte.
-/
namespace Inet.Tcp

structure TCPMsgBasedSendQueue where
  payloadQueue : List TCPPayloadMessage
  beginNo : SeqNo
  endNo : SeqNo
  deriving DecidableEq, Repr

namespace TCPMsgBasedSendQueue

def init (startSeq : SeqNo) : TCPMsgBasedSendQueue := ⟨[], startSeq, startSeq⟩

def enqueueAppData (q : TCPMsgBasedSendQueue) (msg : CPacket) : Sim TCPMsgBasedSendQueue := do
  let endNo := q.endNo + BitVec.ofNat 32 msg.byteLength
  if seqLess endNo q.beginNo then
    throw (.runtime "Send queue is full")
  return { q with payloadQueue := q.payloadQueue ++ [⟨endNo, msg⟩], endNo := endNo }

def createSegmentWithBytes (q : TCPMsgBasedSendQueue) (fromSeq : SeqNo) (numBytes : Nat) :
    Sim TCPSegment := do
  let toSeq := fromSeq + BitVec.ofNat 32 numBytes
  ensure (seqLE q.beginNo fromSeq ∧ seqLE toSeq q.endNo)
    "seqLE(begin, fromSeq) && seqLE(fromSeq + numBytes, end)"
  let rest := q.payloadQueue.dropWhile fun i => seqLE i.endSequenceNo fromSeq
  return {
    sequenceNo := fromSeq
    payloadLength := numBytes
    payloadList := rest.takeWhile fun i => seqLE i.endSequenceNo toSeq }

def discardUpTo (q : TCPMsgBasedSendQueue) (seqNum : SeqNo) : Sim TCPMsgBasedSendQueue := do
  ensure (seqLE q.beginNo seqNum ∧ seqLE seqNum q.endNo)
    "seqLE(begin, seqNum) && seqLE(seqNum, end)"
  return { q with
    beginNo := seqNum
    payloadQueue := q.payloadQueue.dropWhile fun i => seqLE i.endSequenceNo seqNum }

end TCPMsgBasedSendQueue

structure PayloadItem where
  seqNo : SeqNo
  packet : CPacket
  deriving DecidableEq, Repr

/-- A queue of byte counts, and the messages whose last byte has arrived. -/
structure TCPMsgBasedRcvQueue extends TCPVirtualDataRcvQueue Region where
  payloadList : List PayloadItem
  deriving DecidableEq, Repr

namespace TCPMsgBasedRcvQueue

def init (startSeq : SeqNo) : TCPMsgBasedRcvQueue :=
  { toTCPVirtualDataRcvQueue := .init startSeq, payloadList := [] }

/-- The first item is not behind the last one. -/
def FrontLEBack (l : List PayloadItem) : Prop :=
  match l.head?, l.getLast? with
  | some front, some back => seqLE front.seqNo back.seqNo
  | _, _ => True

instance (l : List PayloadItem) : Decidable (FrontLEBack l) := by
  unfold FrontLEBack
  split <;> infer_instance

/-- The loop of `insertBytesFromSegment` over the messages of the segment. The
iterator stands between the items in `passed` and those in `rest`. -/
def insertMessages (passed rest : List PayloadItem) :
    List TCPPayloadMessage → Sim (List PayloadItem)
  | [] => .ok (passed ++ rest)
  | m :: msgs =>
    let passed' := passed ++ rest.takeWhile fun i => seqLess i.seqNo m.endSequenceNo
    let rest' := rest.dropWhile fun i => seqLess i.seqNo m.endSequenceNo
    -- insert, avoiding duplicates
    if rest'.head?.map PayloadItem.seqNo = some m.endSequenceNo then
      insertMessages passed' rest' msgs
    else do
      let rest'' := ⟨m.endSequenceNo, m.msg⟩ :: rest'
      ensure (FrontLEBack (passed' ++ rest''))
        "seqLE(payloadList.front().seqNo, payloadList.back().seqNo)"
      insertMessages passed' rest'' msgs

def insertBytesFromSegment (q : TCPMsgBasedRcvQueue) (tcpseg : TCPSegment) :
    Sim TCPMsgBasedRcvQueue := do
  let v ← q.toTCPVirtualDataRcvQueue.insertBytesFromSegment tcpseg
  let payloadList ← insertMessages [] q.payloadList tcpseg.payloadList
  return { toTCPVirtualDataRcvQueue := v, payloadList := payloadList }

/-- Extraction goes no further than the end of the first message. -/
def extractLimit (q : TCPMsgBasedRcvQueue) (seq : SeqNo) : SeqNo :=
  match q.payloadList with
  | [] => seq
  | front :: _ => if seqLess front.seqNo seq then front.seqNo else seq

def extractBytesUpTo (q : TCPMsgBasedRcvQueue) (seq : SeqNo) :
    Sim (Option CPacket × TCPMsgBasedRcvQueue) := do
  match ← q.toTCPVirtualDataRcvQueue.extractTo (q.extractLimit seq) with
  | (none, v) => return (none, { q with toTCPVirtualDataRcvQueue := v })
  | (some reg, v) =>
    match q.payloadList with
    | [] => return (none, { q with toTCPVirtualDataRcvQueue := v })
    | front :: l =>
      if front.seqNo = reg.endNo then
        return (some front.packet, { toTCPVirtualDataRcvQueue := v, payloadList := l })
      else return (none, { q with toTCPVirtualDataRcvQueue := v })

/-- `while ((msg = extractBytesUpTo(rcv_nxt)) != NULL)`, for so many rounds. -/
def extractAll : Nat → TCPMsgBasedRcvQueue → Sim (List CPacket × TCPMsgBasedRcvQueue)
  | 0, _ => .error .diverges
  | rounds + 1, q => do
    match ← q.extractBytesUpTo q.rcvNxt with
    | (none, q) => return ([], q)
    | (some msg, q) =>
      let (msgs, q) ← extractAll rounds q
      return (msg :: msgs, q)

end TCPMsgBasedRcvQueue

end Inet.Tcp
