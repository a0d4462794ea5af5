import Inetmanet.Base.ByteArray
import Inetmanet.Tcp.SeqNo

/-!
# TCP segments

`TCPSegment.msg`, `TCPSegment.h` and `TCPSegment.cc`. Ports, header fields,
options and the payload in its three forms: a length, the messages whose last
byte travels in the segment, and the bytes themselves.
-/
namespace Inet.Tcp

/-- `TCP_HEADER_OCTETS` -/
def tcpHeaderOctets : Nat := 20

structure TCPPayloadMessage where
  endSequenceNo : SeqNo
  msg : CPacket
  deriving DecidableEq, Repr

structure TCPOption where
  kind : Nat
  length : Nat
  values : List SeqNo
  deriving DecidableEq, Repr

structure TCPSegment where
  srcPort : Nat := 0
  destPort : Nat := 0
  sequenceNo : SeqNo := 0
  ackNo : SeqNo := 0
  headerLength : Nat := tcpHeaderOctets
  ackBit : Bool := false
  rstBit : Bool := false
  synBit : Bool := false
  finBit : Bool := false
  window : Nat := 0
  options : List TCPOption := []
  payloadLength : Nat := 0
  payloadList : List TCPPayloadMessage := []
  byteArray : Bytes := []
  deriving DecidableEq, Repr

namespace TCPSegment

/-- `sequenceNo + payloadLength`, the sequence number behind the data. -/
def endNo (seg : TCPSegment) : SeqNo := seg.sequenceNo + BitVec.ofNat 32 seg.payloadLength

def truncateData (seg : TCPSegment) (truncleft truncright : Nat) : Sim TCPSegment := do
  ensure (seg.payloadLength ≥ truncleft + truncright) "payloadLength_var >= truncleft + truncright"
  let byteArray ← if seg.byteArray.length ≠ 0 then seg.byteArray.truncateData truncleft truncright
    else pure seg.byteArray
  let front := seg.payloadList.dropWhile
    (fun p => (p.endSequenceNo - seg.sequenceNo).toNat ≤ truncleft)
  let sequenceNo := seg.sequenceNo + BitVec.ofNat 32 truncleft
  let payloadLength := seg.payloadLength - (truncleft + truncright)
  let back := front.reverse.dropWhile (fun p => (p.endSequenceNo - sequenceNo).toNat > payloadLength)
  return { seg with
    sequenceNo := sequenceNo
    payloadLength := payloadLength
    payloadList := back.reverse
    byteArray := byteArray }

/-- Cut the data down to the numbers from `firstSeqNo` up to `endSeqNo`. -/
def truncateSegment (seg : TCPSegment) (firstSeqNo endSeqNo : SeqNo) : Sim TCPSegment := do
  ensure (seg.payloadLength > 0) "payloadLength_var > 0"
  if ¬ (seqLess seg.sequenceNo endSeqNo ∧ seqLess firstSeqNo seg.endNo) then
    throw (.runtime "truncateSegment(%u,%u) called on [%u, %u) segment\n")
  let truncleft := if seqLess seg.sequenceNo firstSeqNo then
    (firstSeqNo - seg.sequenceNo).toNat else 0
  let truncright := if seqGreater seg.endNo endSeqNo then (seg.endNo - endSeqNo).toNat else 0
  seg.truncateData truncleft truncright

/-- A segment that was cut down has had a common part with the range. -/
theorem truncateSegment_ok {seg seg' : TCPSegment} {firstSeqNo endSeqNo : SeqNo}
    (h : seg.truncateSegment firstSeqNo endSeqNo = .ok seg') :
    seqLess seg.sequenceNo endSeqNo ∧ seqLess firstSeqNo seg.endNo := by
  by_cases hcommon : seqLess seg.sequenceNo endSeqNo ∧ seqLess firstSeqNo seg.endNo
  · exact hcommon
  · rw [truncateSegment, ensure_bind_ok] at h
    simp [hcommon, throw, throwThe, MonadExceptOf.throw, bind, Except.bind] at h

open SerialNumber in
/-- What is cut off from a segment that has a part in the window, on both sides. -/
theorem truncateSegment_nth {base : SeqNo} (seg : TCPSegment) {a rcv wnd : Nat} (hseq : seg.sequenceNo = nth base a)
    (hpos : 0 < seg.payloadLength) (h₁ : a < rcv + wnd) (h₂ : rcv < a + seg.payloadLength)
    (hleft : rcv + wnd < a + 2 ^ 31) (hright : a + seg.payloadLength < rcv + 2 ^ 31) :
    seg.truncateSegment (nth base rcv) (nth base (rcv + wnd)) =
      seg.truncateData (max a rcv - a) (a + seg.payloadLength - min (a + seg.payloadLength) (rcv + wnd)) := by
  have hend : seg.endNo = nth base (a + seg.payloadLength) := by rw [endNo, hseq, nth_add]
  have hless : seqLess (nth base a) (nth base (rcv + wnd)) := by rwa [seqLess_nth (by omega) (by omega)]
  have hless' : seqLess (nth base rcv) (nth base (a + seg.payloadLength)) := by
    rwa [seqLess_nth (by omega) (by omega)]
  have hl : (if seqLess (nth base a) (nth base rcv) then (nth base rcv - nth base a).toNat else 0) =
      max a rcv - a := by
    simp (disch := omega) only [seqLess_nth]
    split
    · rw [toNat_nth_sub base (by omega) (by omega)]
      omega
    · omega
  have hr : (if seqGreater (nth base (a + seg.payloadLength)) (nth base (rcv + wnd)) then
      (nth base (a + seg.payloadLength) - nth base (rcv + wnd)).toNat else 0) =
      a + seg.payloadLength - min (a + seg.payloadLength) (rcv + wnd) := by
    simp (disch := omega) only [seqGreater_nth]
    split
    · rw [toNat_nth_sub base (by omega) (by omega)]
      omega
    · omega
  simp only [truncateSegment, hpos, ensure_pos, hseq, hend, hless, hless', hl, hr, not_true_eq_false, and_self,
    if_false, bind, Except.bind]

end TCPSegment

end Inet.Tcp
