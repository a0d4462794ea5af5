import Inetmanet.Tcp.Segment

/-!
# The send queue of bytes

`TCPByteStreamSendQueue.cc`, and `ByteArrayBuffer.cc`, which keeps its data.
-/
namespace Inet

structure ByteArrayBuffer where
  dataList : List Bytes
  dataLength : Nat
  deriving DecidableEq, Repr

namespace ByteArrayBuffer

def push (b : ByteArrayBuffer) (byteArray : Bytes) : ByteArrayBuffer :=
  ⟨b.dataList ++ [byteArray], b.dataLength + byteArray.length⟩

/-- The loop of `getBytesToBuffer`: what is copied into a buffer of this length. -/
def getBytes (bufferLength srcOffs : Nat) : List Bytes → Bytes
  | [] => []
  | i :: l =>
    if bufferLength = 0 then []
    else
      let copied := i.copied bufferLength srcOffs
      if copied = [] then getBytes bufferLength (srcOffs - i.length) l
      else copied ++ getBytes (bufferLength - copied.length) 0 l

def getBytesToBuffer (b : ByteArrayBuffer) (bufferLength srcOffs : Nat) : Bytes :=
  getBytes bufferLength srcOffs b.dataList

/-- The loop of `drop`. -/
def dropFrom (length dataLength : Nat) : List Bytes → Sim ByteArrayBuffer
  | [] => if length = 0 then .ok ⟨[], dataLength⟩ else .error (.nullPointer "dataListM.front()")
  | front :: l =>
    if length = 0 then .ok ⟨front :: l, dataLength⟩
    else if front.length ≤ length then dropFrom (length - front.length) (dataLength - front.length) l
    else do
      let front ← front.truncateData length 0
      return ⟨front :: l, dataLength - length⟩

def drop (b : ByteArrayBuffer) (length : Nat) : Sim ByteArrayBuffer := do
  ensure (length ≤ b.dataLength) "lengthP <= dataLengthM"
  dropFrom length b.dataLength b.dataList

/-- The loop of `clear`. -/
def popAll : List Bytes → List Bytes
  | [] => []
  | _ :: l => popAll l

def clear (b : ByteArrayBuffer) : ByteArrayBuffer := ⟨popAll b.dataList, 0⟩

theorem popAll_eq (l : List Bytes) : popAll l = [] := by
  induction l with
  | nil => rfl
  | cons _ l ih => exact ih

/-- Nothing is left of the contents. -/
theorem clear_eq (b : ByteArrayBuffer) : b.clear = ⟨[], 0⟩ := by
  rw [clear, popAll_eq]

end ByteArrayBuffer

namespace Tcp

structure TCPByteStreamSendQueue where
  dataBuffer : ByteArrayBuffer
  beginNo : SeqNo
  endNo : SeqNo
  deriving DecidableEq, Repr

namespace TCPByteStreamSendQueue

/-- The constructor. -/
def created : TCPByteStreamSendQueue := ⟨⟨[], 0⟩, 0, 0⟩

def init (q : TCPByteStreamSendQueue) (startSeq : SeqNo) : TCPByteStreamSendQueue :=
  ⟨q.dataBuffer.clear, startSeq, startSeq⟩

/-- The message is one of bytes, and as long as its byte array. -/
def enqueueAppData (q : TCPByteStreamSendQueue) (byteArray : Bytes) : TCPByteStreamSendQueue :=
  { q with dataBuffer := q.dataBuffer.push byteArray, endNo := q.endNo + BitVec.ofNat 32 byteArray.length }

def createSegmentWithBytes (q : TCPByteStreamSendQueue) (fromSeq : SeqNo) (numBytes : Nat) : Sim TCPSegment := do
  ensure (seqLE q.beginNo fromSeq ∧ seqLE (fromSeq + BitVec.ofNat 32 numBytes) q.endNo)
    "seqLE(begin, fromSeq) && seqLE(fromSeq+numBytes, end)"
  let buffer := q.dataBuffer.getBytesToBuffer numBytes (fromSeq - q.beginNo).toNat
  ensure (buffer.length = numBytes) "bytes == numBytes"
  return { sequenceNo := fromSeq, payloadLength := numBytes, byteArray := buffer }

def discardUpTo (q : TCPByteStreamSendQueue) (seqNum : SeqNo) : Sim TCPByteStreamSendQueue := do
  ensure (seqLE q.beginNo seqNum ∧ seqLE seqNum q.endNo) "seqLE(begin, seqNum) && seqLE(seqNum, end)"
  let dataBuffer ← q.dataBuffer.drop (seqNum - q.beginNo).toNat
  return { q with dataBuffer := dataBuffer, beginNo := seqNum }

/-- `init` leaves what it leaves of a queue that has just been created. -/
theorem init_eq (q : TCPByteStreamSendQueue) (startSeq : SeqNo) : q.init startSeq = created.init startSeq := by
  rw [init, init, ByteArrayBuffer.clear_eq, ByteArrayBuffer.clear_eq]

end TCPByteStreamSendQueue

end Tcp

end Inet
