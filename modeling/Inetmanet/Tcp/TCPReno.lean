import Inetmanet.Tcp.LossRecovery

/-!
# TCP Reno

The sending half of an established connection whose algorithm is `TCPReno`:
`TCPReno.cc` with what it inherits from `TCPBaseAlg.cc`, and the functions of
`TCPConnection` that it rests on. Time is left out: an event says which timer has
expired, and whether the connection has been idle for longer than the timeout.
-/
namespace Inet.Tcp

namespace TCPSACKRexmitQueue

/-- The loop of `checkRexmitQueueForSackedOrRexmittedSegments`. -/
def forwardOver (bytes fromSeqNum : SeqNo) : List RexmitRegion → Sim SeqNo
  | [] => .ok bytes
  | i :: l =>
    if i.sacked || i.rexmitted then do
      ensure (Around fromSeqNum i) "seqLE(i->beginSeqNum, fromSeqNum) && seqLess(fromSeqNum, i->endSeqNum)"
      forwardOver (bytes + (i.endSeqNum - fromSeqNum)) i.endSeqNum l
    else .ok bytes

def checkRexmitQueueForSackedOrRexmittedSegments (q : TCPSACKRexmitQueue) (fromSeqNum : SeqNo) : Sim SeqNo := do
  ensure (seqLE q.beginNo fromSeqNum ∧ seqLE fromSeqNum q.endNo) "seqLE(begin, fromSeqNum) && seqLE(fromSeqNum, end)"
  if q.rexmitQueue = [] ∨ q.endNo = fromSeqNum then return 0
  else forwardOver 0 fromSeqNum (after fromSeqNum q.rexmitQueue)

end TCPSACKRexmitQueue

structure SentSegment where
  sequenceNo : SeqNo
  payloadLength : SeqNo
  finBit : Bool
  deriving DecidableEq, Repr

/-- What is read of a segment with the ACK bit. -/
structure AckSegment where
  sequenceNo : SeqNo
  ackNo : SeqNo
  /-- shifted by the window scale already -/
  window : SeqNo
  payloadLength : Nat := 0
  sacks : List Sack := []
  /-- of the option with the blocks -/
  optionLength : Nat := 8 * sacks.length + 2
  /-- The state in which the segment finds the connection; it rests on the receiving half too. -/
  fsm : Fsm.State := .established
  /-- Is there room for the text in the receive queue? -/
  textAccepted : Bool := true
  deriving DecidableEq, Repr

structure TCPReno extends TCPConnection where
  sndCwnd : SeqNo
  ssthresh : SeqNo := 0xffffffff
  sackedBytes : SeqNo := 0
  sackedBytesOld : SeqNo := 0
  /-- `options_len` of the segments in the order in which they are sent; the receiving half decides on it -/
  optionsLen : Nat → SeqNo
  /-- the last first -/
  sent : List SentSegment := []

def TCP_OPTION_TS_SIZE : SeqNo := 12

/-- `std::min` -/
def stdMin {w : Nat} (a b : BitVec w) : BitVec w := if b < a then b else a

/-- `std::max` -/
def stdMax {w : Nat} (a b : BitVec w) : BitVec w := if a < b then b else a

namespace TCPReno

def setSndNxt (s : TCPReno) (sndNxt : SeqNo) : TCPReno := { s with state := { s.state with sndNxt := sndNxt } }

def setSndMax (s : TCPReno) (sndMax : SeqNo) : TCPReno := { s with state := { s.state with sndMax := sndMax } }

def setRexmitQueue (s : TCPReno) (q : TCPSACKRexmitQueue) : TCPReno := { s with rexmitQueue := q }

def setSndCwnd (s : TCPReno) (sndCwnd : SeqNo) : TCPReno := { s with sndCwnd := sndCwnd }

def setConnection (s : TCPReno) (conn : TCPConnection) : TCPReno := { s with toTCPConnection := conn }

/-- `snd_nxt` is forwarded before data is sent after a timeout. -/
def forwardSndNxt (s : TCPReno) : Sim TCPReno :=
  if s.state.sackEnabled = true ∧ s.state.afterRto = true then do
    let forward ← s.rexmitQueue.checkRexmitQueueForSackedOrRexmittedSegments s.state.sndNxt
    return s.setSndNxt (s.state.sndNxt + forward)
  else .ok s

/-- How many of `bytes` are there and fit into the segment. -/
def segmentBytes (s : TCPReno) (bytes : SeqNo) : SeqNo :=
  let buffered := s.sendQueue.getBytesAvailable s.state.sndNxt
  let bytes := if bytes.setWidth 64 > buffered then buffered.setWidth 32 else bytes
  let optionsLen := s.optionsLen s.sent.length
  if bytes + optionsLen > s.state.sndMss then s.state.sndMss - optionsLen else bytes

def enqueueSegment (s : TCPReno) (bytes : SeqNo) : Sim TCPReno :=
  if s.state.sackEnabled = true then do
    let q ← s.rexmitQueue.enqueueSentData s.state.sndNxt (s.state.sndNxt + bytes)
    return s.setRexmitQueue q
  else .ok s

/-- The FIN goes with the segment that ends where it stands. -/
def carriesFin (s : TCPReno) (bytes : SeqNo) : Bool :=
  s.state.sendFin && decide (s.state.sndNxt + bytes = s.state.sndFinSeq)

def segmentSent (s : TCPReno) (bytes : SeqNo) : TCPReno :=
  { s with
    state := { s.state with
      sentBytes := bytes
      sndNxt := if s.carriesFin bytes then s.state.sndFinSeq + 1 else s.state.sndNxt + bytes
      afterRto := s.state.afterRto && !decide (seqGE (s.state.sndNxt + bytes) s.state.sndMax) }
    sent := ⟨s.state.sndNxt, bytes, s.carriesFin bytes⟩ :: s.sent }

def sendSegment (s : TCPReno) (bytes : SeqNo) : Sim TCPReno := do
  let s ← s.forwardSndNxt
  ensure (s.optionsLen s.sent.length < s.state.sndMss) "options_len < state->snd_mss"
  -- `createSegmentWithBytes`
  ensure (seqLE s.sendQueue.bufferStartSeq s.state.sndNxt ∧
    seqLE (s.state.sndNxt + s.segmentBytes bytes) s.sendQueue.bufferEndSeq)
    "seqLE(begin, fromSeq) && seqLE(fromSeq + numBytes, end)"
  let s' ← s.enqueueSegment (s.segmentBytes bytes)
  return s'.segmentSent (s.segmentBytes bytes)

/-- The loop of `sendData` that sends whole segments. -/
def sendWhole (effectiveMaxBytesSend : ULong) : Nat → ULong → TCPReno → Sim (ULong × TCPReno)
  | 0, _, _ => .error .diverges
  | fuel + 1, bytesToSend, s =>
    if bytesToSend ≥ effectiveMaxBytesSend then do
      let s ← s.sendSegment s.state.sndMss
      sendWhole effectiveMaxBytesSend fuel (bytesToSend - s.state.sentBytes.setWidth 64) s
    else .ok (bytesToSend, s)

/-- What is left to be sent, and the state. -/
def sendBytes (s : TCPReno) (bytesToSend effectiveMaxBytesSend : ULong) : Sim (ULong × TCPReno) :=
  if bytesToSend ≤ s.state.sndMss.setWidth 64 then do
    let s ← s.sendSegment (bytesToSend.setWidth 32)
    return (bytesToSend - s.state.sentBytes.setWidth 64, s)
  else sendWhole effectiveMaxBytesSend loopLimit bytesToSend s

/-- The last segment could be less than `snd_mss`. -/
def sendLast (s : TCPReno) (bytesToSend : ULong) : Sim TCPReno :=
  let buffered := s.sendQueue.getBytesAvailable s.state.sndNxt
  if bytesToSend = buffered ∧ buffered ≠ 0 then s.sendSegment (bytesToSend.setWidth 32) else .ok s

/-- Remember the highest sequence number sent. -/
def rememberHighest (s : TCPReno) : TCPReno :=
  if seqGreater s.state.sndNxt s.state.sndMax then s.setSndMax s.state.sndNxt else s

/-- `bytesToSend`, or none where nothing can be sent. -/
def bytesInWindow (s : TCPReno) (fullSegmentsOnly : Bool) (congestionWindow effectiveMaxBytesSend : ULong) :
    Option ULong :=
  let buffered := s.sendQueue.getBytesAvailable s.state.sndNxt
  let maxWindow := stdMin (s.state.sndWnd.setWidth 64) congestionWindow
  let outstanding := (s.state.sndNxt - s.state.sndUna).setWidth 64
  if buffered = 0 ∨ maxWindow ≤ outstanding then none
  else if fullSegmentsOnly ∧ stdMin (maxWindow - outstanding) buffered < effectiveMaxBytesSend then none
  else some (stdMin (maxWindow - outstanding) buffered)

/-- `TCPConnection::sendData` -/
def sendData (s : TCPReno) (fullSegmentsOnly : Bool) (congestionWindow : SeqNo) : Sim TCPReno :=
  let s := if s.state.afterRto then s else s.setSndNxt s.state.sndMax
  let effectiveMaxBytesSend : ULong :=
    (if s.state.tsEnabled then s.state.sndMss - TCP_OPTION_TS_SIZE else s.state.sndMss).setWidth 64
  match s.bytesInWindow fullSegmentsOnly (congestionWindow.setWidth 64) effectiveMaxBytesSend with
  | none => .ok s
  | some bytesToSend => do
    let (bytesToSend, s) ← s.sendBytes bytesToSend effectiveMaxBytesSend
    let s ← s.sendLast bytesToSend
    return s.rememberHighest

def sendProbe (s : TCPReno) : Sim TCPReno :=
  let s := s.setSndNxt s.state.sndMax
  if s.sendQueue.getBytesAvailable s.state.sndNxt = 0 then .ok s
  else do
    let s ← s.sendSegment 1
    return s.setSndMax s.state.sndNxt

/-- The octets that the Limited Transmit algorithm allows. -/
def limitedBytes (s : TCPReno) (fullSegmentsOnly : Bool) (congestionWindow : SeqNo) : Option SeqNo :=
  let buffered := s.sendQueue.getBytesAvailable s.state.sndMax
  let sndMss : ULong := s.state.sndMss.setWidth 64
  let outstandingData : ULong := (s.state.sndMax - s.state.sndUna).setWidth 64
  -- cut off to 32 bits
  let effectiveWin : SeqNo :=
    stdMin s.state.sndWnd congestionWindow - outstandingData.setWidth 32 + 2 * s.state.sndMss
  let bytes := stdMin effectiveWin s.state.sndMss
  if s.state.sackEnabled = true ∧ s.sackedBytesOld = s.sackedBytes then none
  else if ¬ (buffered ≥ sndMss ∨ fullSegmentsOnly = false ∧ buffered > 0) then none
  else if ¬ (outstandingData + sndMss ≤ s.state.sndWnd.setWidth 64 ∧
      outstandingData + sndMss ≤ (congestionWindow + 2 * s.state.sndMss).setWidth 64) then none
  else if bytes ≥ s.state.sndMss ∨ fullSegmentsOnly = false ∧ bytes > 0 then some bytes
  else none

def sendOneNewSegment (s : TCPReno) (fullSegmentsOnly : Bool) (congestionWindow : SeqNo) : Sim TCPReno := do
  ensure (s.state.limitedTransmitEnabled = true) "state->limited_transmit_enabled"
  match s.limitedBytes fullSegmentsOnly congestionWindow with
  | none => return s
  | some bytes => do
    let s' ← (s.setSndNxt s.state.sndMax).sendSegment bytes
    let s' := s'.rememberHighest
    return if s'.state.afterRto then s'.setSndNxt (s.state.sndNxt + s'.state.sentBytes) else s'

/-- `sendFin` at a sequence number, over which `snd_nxt` and `snd_max` are advanced. -/
def sendFinAt (s : TCPReno) (seqNum : SeqNo) : TCPReno :=
  { (s.setSndNxt (seqNum + 1)).setSndMax (seqNum + 1) with sent := ⟨seqNum, 0, true⟩ :: s.sent }

def updateHighRxt (s : TCPReno) : TCPReno :=
  if s.state.sackEnabled then s.setConnection s.toTCPConnection.setHighRxt else s

def retransmitOneSegment (s : TCPReno) (calledAtRto : Bool) : Sim TCPReno :=
  let una := s.setSndNxt s.state.sndUna
  let bytes := stdMin ((stdMin s.state.sndMss (s.state.sndMax - s.state.sndUna)).setWidth 64)
    (s.sendQueue.getBytesAvailable s.state.sndUna)
  if bytes = 0 ∧ s.state.sendFin = true ∧ s.state.sndFinSeq = s.sendQueue.bufferEndSeq then
    .ok (una.sendFinAt s.sendQueue.bufferEndSeq)
  else do
    ensure (bytes ≠ 0) "bytes != 0"
    let s' ← una.sendSegment (bytes.setWidth 32)
    return (if calledAtRto = false ∧ seqGreater s.state.sndNxt s'.state.sndNxt then s'.setSndNxt s.state.sndNxt
      else s').updateHighRxt

def sendSegmentDuringLossRecoveryPhase (s : TCPReno) (seqNum : SeqNo) : Sim TCPReno := do
  ensure (s.state.sackEnabled = true ∧ s.state.lossRecovery = true) "state->sack_enabled && state->lossRecovery"
  let s ← (s.setSndNxt seqNum).sendSegment s.state.sndMss
  let sentSeqNum := seqNum + s.state.sentBytes
  ensure (seqLE s.state.sndNxt (sentSeqNum + 1)) "seqLE(state->snd_nxt, sentSeqNum + 1)"
  let s := if seqLess seqNum s.state.sndMax then s.setConnection s.toTCPConnection.setHighRxt else s
  return if seqGreater sentSeqNum s.state.sndMax then s.setSndMax sentSeqNum else s

def addToPipe (s : TCPReno) : TCPReno := { s with state := { s.state with pipe := s.state.pipe + s.state.sentBytes } }

/-- The condition of step (C), on `int`. -/
def PipeAllows (s : TCPReno) (congestionWindow : SeqNo) : Prop :=
  s.state.sndMss.sle (congestionWindow - s.state.pipe) = true
deriving Decidable

/-- The loop of `sendDataDuringLossRecoveryPhase`. -/
def recoverFrom (congestionWindow : SeqNo) : Nat → TCPReno → Sim TCPReno
  | 0, _ => .error .diverges
  | fuel + 1, s =>
    if s.PipeAllows congestionWindow then do
      let (conn, seqNum) ← s.toTCPConnection.nextSeg
      match seqNum with
      | none => return s.setConnection conn
      | some seqNum => do
        let s ← (s.setConnection conn).sendSegmentDuringLossRecoveryPhase seqNum
        recoverFrom congestionWindow fuel s.addToPipe
    else .ok s

def sendDataDuringLossRecoveryPhase (s : TCPReno) (congestionWindow : SeqNo) : Sim TCPReno := do
  ensure (s.state.sackEnabled = true ∧ s.state.lossRecovery = true) "state->sack_enabled && state->lossRecovery"
  recoverFrom congestionWindow loopLimit s

/-- `setPipe`, and the segments for which there is room. -/
def setPipeAndSend (s : TCPReno) : Sim TCPReno := do
  let conn ← s.toTCPConnection.setPipe
  if conn.state.lossRecovery = true ∧ (s.setConnection conn).PipeAllows s.sndCwnd then
    (s.setConnection conn).sendDataDuringLossRecoveryPhase s.sndCwnd
  else return s.setConnection conn

/-- `TCPBaseAlg::sendData`; `idle` tells whether more than `rexmit_timeout` has passed since data was sent. -/
def sendPending (s : TCPReno) (sendCommandInvoked idle : Bool) : Sim TCPReno :=
  let fullSegmentsOnly := sendCommandInvoked && s.state.nagleEnabled && s.state.sndUna != s.state.sndMax
  let restartWindow :=
    if s.state.increasedIWEnabled then stdMin (stdMin (4 * s.state.sndMss) (stdMax (2 * s.state.sndMss) 4380)) s.sndCwnd
    else s.state.sndMss
  let s :=
    if s.sendQueue.getBytesAvailable s.state.sndNxt ≠ 0 ∧ idle then s.setSndCwnd restartWindow
    else s
  s.sendData fullSegmentsOnly s.sndCwnd

def recalculateSlowStartThreshold (s : TCPReno) : TCPReno :=
  { s with ssthresh := stdMax (stdMin s.sndCwnd s.state.sndWnd / 2) (2 * s.state.sndMss) }

/-- Slow start and congestion avoidance; a division by 0 ends the simulation. -/
def growWindow (s : TCPReno) : Sim TCPReno :=
  if s.state.dupacks ≥ DUPTHRESH then .ok (s.setSndCwnd s.ssthresh)
  else if s.sndCwnd < s.ssthresh then .ok (s.setSndCwnd (s.sndCwnd + s.state.sndMss))
  else if s.sndCwnd = 0 then .error (.runtime "division by zero")
  else .ok (s.setSndCwnd (s.sndCwnd + stdMax (s.state.sndMss * s.state.sndMss / s.sndCwnd) 1))

def endRecovery (s : TCPReno) : TCPReno := { s with state := { s.state with lossRecovery := false } }

/-- What the arrival of an acknowledgement means for loss recovery. -/
def continueRecovery (s : TCPReno) : Sim TCPReno :=
  if s.state.sackEnabled = true ∧ s.state.lossRecovery = true then
    if seqGE s.state.sndUna s.state.recoveryPoint then .ok s.endRecovery else s.setPipeAndSend
  else .ok s

def receivedDataAck (s : TCPReno) (idle : Bool) : Sim TCPReno := do
  let s ← s.growWindow
  let s ← s.continueRecovery
  s.sendPending false idle

/-- `TCPBaseAlg::receivedDuplicateAck` -/
def limitedTransmit (s : TCPReno) : Sim TCPReno :=
  if s.state.dupacks < DUPTHRESH ∧ s.state.limitedTransmitEnabled = true then
    s.sendOneNewSegment (s.state.nagleEnabled && s.state.sndUna != s.state.sndMax) s.sndCwnd
  else .ok s

def enterRecovery (s : TCPReno) : TCPReno :=
  if s.state.sackEnabled = true ∧ (s.state.recoveryPoint = 0 ∨ seqGE s.state.sndUna s.state.recoveryPoint) then
    { s with state := { s.state with recoveryPoint := s.state.sndMax, lossRecovery := true } }
  else s

/-- `snd_cwnd` is set to `ssthresh` plus 3 segments, and the missing segment is sent again. -/
def fastRetransmit (s : TCPReno) : Sim TCPReno :=
  let s := s.enterRecovery.recalculateSlowStartThreshold
  (s.setSndCwnd (s.ssthresh + 3 * s.state.sndMss)).retransmitOneSegment false

def receivedDuplicateAck (s : TCPReno) (idle : Bool) : Sim TCPReno := do
  let s ← s.limitedTransmit
  if s.state.dupacks = DUPTHRESH then do
    let s ← s.fastRetransmit
    let s ← if s.state.sackEnabled then s.setPipeAndSend else pure s
    s.sendPending false idle
  else if s.state.dupacks > DUPTHRESH then
    (s.setSndCwnd (s.sndCwnd + s.state.sndMss)).sendPending false idle
  else return s

/-- From `TCPBaseAlg::processRexmitTimer`, unless the connection is aborted. -/
def forgetSacks (s : TCPReno) : TCPReno :=
  let state :=
    if s.state.lossRecovery then { s.state with recoveryPoint := s.state.sndMax, lossRecovery := false } else s.state
  if s.state.sackEnabled then { s with rexmitQueue := s.rexmitQueue.resetSackedBit.resetRexmittedBit, state := state }
  else s

def startSlowStart (s : TCPReno) : TCPReno := { s with state := { s.state with afterRto := true } }

def processRexmitTimer (s : TCPReno) : Sim TCPReno :=
  let s := s.forgetSacks.recalculateSlowStartThreshold
  (s.setSndCwnd s.state.sndMss).startSlowStart.retransmitOneSegment true

def sackBlock (ackNo : SeqNo) (s : TCPReno) (tmp : Sack) : Sim TCPReno :=
  if seqGreater tmp.end_ ackNo ∧ seqGreater tmp.end_ s.state.sndUna then do
    let q ← s.rexmitQueue.setSackedBit tmp.start tmp.end_
    return s.setRexmitQueue q
  else .ok s

/-- The option is right, comes where one is expected, and has blocks. -/
def ReadsSACKs (s : TCPReno) (seg : AckSegment) : Prop :=
  seg.optionLength % 8 = 2 ∧ s.state.sackEnabled = true ∧ seg.fsm.Synchronized ∧ seg.sacks ≠ []
deriving Decidable

def processSACKOption (s : TCPReno) (seg : AckSegment) : Sim TCPReno :=
  if s.ReadsSACKs seg then do
    let s ← seg.sacks.foldlM (sackBlock seg.ackNo) s
    return { s with sackedBytesOld := s.sackedBytes, sackedBytes := s.rexmitQueue.getTotalAmountOfSackedBytes }
  else .ok s

def updateWndInfo (s : TCPReno) (seg : AckSegment) : TCPReno :=
  if seqLess s.state.sndWl1 seg.sequenceNo ∨ s.state.sndWl1 = seg.sequenceNo ∧ seqLE s.state.sndWl2 seg.ackNo ∨
      s.state.sndWl2 = seg.ackNo ∧ seg.window > s.state.sndWnd then
    { s with state := { s.state with sndWnd := seg.window, sndWl1 := seg.sequenceNo, sndWl2 := seg.ackNo } }
  else s

def setDupacks (s : TCPReno) (dupacks : SeqNo) : TCPReno := { s with state := { s.state with dupacks := dupacks } }

def IsDuplicateAck (s : TCPReno) (seg : AckSegment) : Prop :=
  s.state.sndUna = seg.ackNo ∧ seg.payloadLength = 0 ∧ s.state.sndUna ≠ s.state.sndMax
deriving Decidable

def countDuplicate (s : TCPReno) (seg : AckSegment) : TCPReno :=
  (s.setDupacks (s.state.dupacks + 1)).updateWndInfo seg

/-- Does the segment acknowledge our FIN? -/
def AcksFin (s : TCPReno) (seg : AckSegment) : Prop :=
  s.state.sendFin = true ∧ seg.ackNo = s.state.sndFinSeq + 1
deriving Decidable

/-- The FIN is not in the queues. -/
def discardUpToSeq (s : TCPReno) (seg : AckSegment) : SeqNo := if s.AcksFin seg then seg.ackNo - 1 else seg.ackNo

def discardAcked (s : TCPReno) (seqNum : SeqNo) : Sim TCPReno := do
  ensure (seqLE s.sendQueue.bufferStartSeq seqNum ∧ seqLE seqNum s.sendQueue.bufferEndSeq)
    "seqLE(begin, seqNum) && seqLE(seqNum, end)"
  let q ← if s.state.sackEnabled then s.rexmitQueue.discardUpTo seqNum else pure s.rexmitQueue
  return { s with sendQueue := { s.sendQueue with bufferStartSeq := seqNum }, rexmitQueue := q }

/-- An acknowledgement in the window. -/
def acknowledge (s : TCPReno) (seg : AckSegment) : Sim TCPReno := do
  let advanced : TCPReno := { s with
    state := { s.state with
      sndUna := seg.ackNo
      sndNxt := if seqLess s.state.sndNxt seg.ackNo then seg.ackNo else s.state.sndNxt
      finAckRcvd := s.state.finAckRcvd || decide (s.AcksFin seg) } }
  let s ← advanced.discardAcked (s.discardUpToSeq seg)
  return s.updateWndInfo seg

/-- `processAckInEstabEtc`; the algorithm is told of an acknowledgement with text once the text has been taken. -/
def processAck (s : TCPReno) (seg : AckSegment) (idle : Bool) : Sim TCPReno :=
  if seqGE s.state.sndUna seg.ackNo then
    if s.IsDuplicateAck seg then (s.countDuplicate seg).receivedDuplicateAck idle else .ok (s.setDupacks 0)
  else if seqLE seg.ackNo s.state.sndMax then do
    let s ← s.acknowledge seg
    if seg.payloadLength = 0 ∨ seg.textAccepted then do
      let s ← s.receivedDataAck idle
      return s.setDupacks 0
    else return s
  else .ok (s.setDupacks 0)

def receivedSegment (s : TCPReno) (seg : AckSegment) (idle : Bool) : Sim TCPReno := do
  let s ← s.processSACKOption seg
  s.processAck seg idle

def enqueueAppData (s : TCPReno) (byteLength : SeqNo) : Sim TCPReno :=
  let bufferEndSeq := s.sendQueue.bufferEndSeq + byteLength
  if seqLess bufferEndSeq s.sendQueue.bufferStartSeq then .error (.runtime "Send queue is full")
  else .ok { s with sendQueue := { s.sendQueue with bufferEndSeq := bufferEndSeq } }

def process_SEND (s : TCPReno) (byteLength : SeqNo) (idle : Bool) : Sim TCPReno := do
  let s ← s.enqueueAppData byteLength
  s.sendPending true idle

def process_CLOSE (s : TCPReno) : TCPReno :=
  let s := if s.state.sndMax = s.sendQueue.bufferEndSeq then s.sendFinAt s.state.sndMax else s
  { s with state := { s.state with sendFin := true, sndFinSeq := s.sendQueue.bufferEndSeq } }

inductive Event where
  /-- The connection has been established, and what waits is sent. -/
  | established (idle : Bool)
  | send (byteLength : SeqNo) (idle : Bool)
  | close
  | segment (seg : AckSegment) (idle : Bool)
  | rexmitTimer
  | persistTimer

def step (s : TCPReno) : Event → Sim TCPReno
  | .established idle => s.sendPending false idle
  | .send byteLength idle => s.process_SEND byteLength idle
  | .close => .ok s.process_CLOSE
  | .segment seg idle => s.receivedSegment seg idle
  | .rexmitTimer => s.processRexmitTimer
  | .persistTimer => s.sendProbe

/-- The handshake is over, and both sides have allowed selective acknowledgements. -/
structure Initial (s : TCPReno) : Prop where
  sackEnabled : s.state.sackEnabled = true
  sndNxt : s.state.sndNxt = s.state.sndUna
  sndMax : s.state.sndMax = s.state.sndUna
  sendFin : s.state.sendFin = false
  afterRto : s.state.afterRto = false
  lossRecovery : s.state.lossRecovery = false
  recoveryPoint : s.state.recoveryPoint = 0
  dupacks : s.state.dupacks = 0
  bufferStartSeq : s.sendQueue.bufferStartSeq = s.state.sndUna
  buffered : (s.sendQueue.bufferEndSeq - s.sendQueue.bufferStartSeq).toNat < 2 ^ 31
  rexmitQueue : s.rexmitQueue = .init s.state.sndUna
  sent : s.sent = []
  /-- as `options_len < state->snd_mss` demands of every segment -/
  room : s.state.tsEnabled = true → TCP_OPTION_TS_SIZE < s.state.sndMss

/-- The states of runs in which every event meets a condition. -/
inductive Reached (Meets : TCPReno → Event → Prop) : TCPReno → Prop where
  | start {s : TCPReno} (hs : s.Initial) : Reached Meets s
  | step {s s' : TCPReno} {event : Event} (hs : Reached Meets s) (hmeets : Meets s event)
      (hstep : s.step event = .ok s') : Reached Meets s'

/-- The states in which `setPipe` is called while a segment is processed. -/
inductive SetPipeCall (s : TCPReno) (seg : AckSegment) : TCPReno → Prop where
  /-- in `receivedDuplicateAck` -/
  | duplicateAck {s₁ s₂ s₃ : TCPReno} (hsack : s.processSACKOption seg = .ok s₁)
      (hold : seqGE s₁.state.sndUna seg.ackNo) (hduplicate : s₁.IsDuplicateAck seg)
      (hlimited : (s₁.countDuplicate seg).limitedTransmit = .ok s₂) (hthird : s₂.state.dupacks = DUPTHRESH)
      (hretransmit : s₂.fastRetransmit = .ok s₃) (henabled : s₃.state.sackEnabled = true) : SetPipeCall s seg s₃
  /-- in `receivedDataAck` -/
  | dataAck {s₁ s₂ s₃ : TCPReno} (hsack : s.processSACKOption seg = .ok s₁)
      (hnew : ¬ seqGE s₁.state.sndUna seg.ackNo) (hsent : seqLE seg.ackNo s₁.state.sndMax)
      (hacknowledge : s₁.acknowledge seg = .ok s₂) (hnotify : seg.payloadLength = 0 ∨ seg.textAccepted = true)
      (hgrow : s₂.growWindow = .ok s₃) (hrecovery : s₃.state.sackEnabled = true ∧ s₃.state.lossRecovery = true)
      (hpoint : ¬ seqGE s₃.state.sndUna s₃.state.recoveryPoint) : SetPipeCall s seg s₃

end TCPReno

end Inet.Tcp
