import Inetmanet.Tcp.TCPReno
import Inetmanet.Lib.Runs

/-!
# TCP NewReno

`TCPNewReno.cc`, with what it inherits from `TCPBaseAlg.cc`, on the sending half of an
established connection. The sending functions of `TCPConnection` and the processing of
acknowledgements are those of `TCPReno`.
-/
namespace Inet.Tcp

/-- What is done to `snd_cwnd`. -/
inductive WindowChange where
  /-- It gets a new value. -/
  | set (sndCwnd : SeqNo)
  /-- Fast Recovery begins with this threshold and three segments. -/
  | enter (ssthresh : SeqNo)
  /-- A segment is added for a duplicate acknowledgement. -/
  | inflate
  /-- A partial acknowledgement takes away what it acknowledges. -/
  | deflate (acked : SeqNo)
  deriving DecidableEq, Repr

structure TCPNewReno extends TCPReno where
  recover : SeqNo := 0
  firstPartialACK : Bool := false
  /-- the changes of `snd_cwnd`, the last first -/
  changes : List WindowChange := []

namespace TCPNewReno

def setReno (s : TCPNewReno) (reno : TCPReno) : TCPNewReno := { s with toTCPReno := reno }

def setCwnd (s : TCPNewReno) (sndCwnd : SeqNo) : TCPNewReno :=
  { s with sndCwnd := sndCwnd, changes := .set sndCwnd :: s.changes }

/-- Is there data to send after an idle time? Then `snd_cwnd` is reduced. -/
def RestartsWindow (s : TCPNewReno) (idle : Bool) : Prop :=
  s.sendQueue.getBytesAvailable s.state.sndNxt ≠ 0 ∧ idle = true
deriving Decidable

/-- `TCPBaseAlg::sendData` -/
def sendPending (s : TCPNewReno) (sendCommandInvoked idle : Bool) : Sim TCPNewReno := do
  let reno ← s.toTCPReno.sendPending sendCommandInvoked idle
  return if s.RestartsWindow idle then (s.setReno reno).setCwnd reno.sndCwnd else s.setReno reno

def retransmitOneSegment (s : TCPNewReno) (calledAtRto : Bool) : Sim TCPNewReno := do
  let reno ← s.toTCPReno.retransmitOneSegment calledAtRto
  return s.setReno reno

/-- Fast Recovery is over. -/
def exitRecovery (s : TCPNewReno) : TCPNewReno :=
  { s with state := { s.state with lossRecovery := false }, firstPartialACK := false }

def processRexmitTimer (s : TCPNewReno) : Sim TCPNewReno :=
  let s := s.setReno s.toTCPReno.forgetSacks
  let s := { s with recover := s.state.sndMax - 1 }.exitRecovery
  let s := (s.setReno s.toTCPReno.recalculateSlowStartThreshold).setCwnd s.state.sndMss
  (s.setReno s.toTCPReno.startSlowStart).retransmitOneSegment true

/-- Does the acknowledgement cover everything up to and including `recover`? -/
def IsFullAck (s : TCPNewReno) : Prop := seqGE (s.state.sndUna - 1) s.recover
deriving Decidable

/-- The window that is left when Fast Recovery ends. -/
def fullAck (s : TCPNewReno) : TCPNewReno :=
  (s.setCwnd (stdMin s.ssthresh (s.state.sndMax - s.state.sndUna + s.state.sndMss))).exitRecovery

/-- Deflate the window, and add back a segment if at least one was acknowledged. -/
def deflate (s : TCPNewReno) (acked : SeqNo) : TCPNewReno :=
  { s with
    sndCwnd := if acked ≥ s.state.sndMss then s.sndCwnd - acked + s.state.sndMss else s.sndCwnd - acked
    changes := .deflate acked :: s.changes }

def partialAck (s : TCPNewReno) (firstSeqAcked : SeqNo) (idle : Bool) : Sim TCPNewReno := do
  let s ← s.retransmitOneSegment false
  let s ← (s.deflate (s.state.sndUna - firstSeqAcked)).sendPending false idle
  return if s.state.lossRecovery = true ∧ s.firstPartialACK = false then { s with firstPartialACK := true } else s

/-- Slow start and congestion avoidance; a division by 0 ends the simulation. -/
def growWindow (s : TCPNewReno) : Sim TCPNewReno :=
  if s.sndCwnd < s.ssthresh then .ok (s.setCwnd (s.sndCwnd + s.state.sndMss))
  else if s.sndCwnd = 0 then .error (.runtime "division by zero")
  else .ok (s.setCwnd (s.sndCwnd + stdMax (s.state.sndMss * s.state.sndMss / s.sndCwnd) 1))

/-- `recover` is pulled along. -/
def pullRecover (s : TCPNewReno) : TCPNewReno := { s with recover := s.state.sndUna - 2 }

/-- A partial acknowledgement calls `sendData` twice. -/
def receivedDataAck (s : TCPNewReno) (firstSeqAcked : SeqNo) (idle idleLater : Bool) : Sim TCPNewReno := do
  let s ←
    if s.state.lossRecovery then
      if s.IsFullAck then pure s.fullAck else s.partialAck firstSeqAcked idle
    else do
      let s ← s.growWindow
      pure s.pullRecover
  s.sendPending false idleLater

/-- The check of step 1, which compares the sequence numbers as they are. -/
def CoversMore (s : TCPNewReno) : Prop := s.state.sndUna - 1 > s.recover
deriving Decidable

def enterWindow (s : TCPNewReno) : TCPNewReno :=
  { s with sndCwnd := s.ssthresh + 3 * s.state.sndMss, changes := .enter s.ssthresh :: s.changes }

def enterRecovery (s : TCPNewReno) : TCPNewReno :=
  let s := s.setReno s.toTCPReno.recalculateSlowStartThreshold
  let s := { s with
    recover := s.state.sndMax - 1
    firstPartialACK := false
    state := { s.state with lossRecovery := true } }
  s.enterWindow

def inflate (s : TCPNewReno) : TCPNewReno :=
  { s with sndCwnd := s.sndCwnd + s.state.sndMss, changes := .inflate :: s.changes }

def receivedDuplicateAck (s : TCPNewReno) (idle : Bool) : Sim TCPNewReno := do
  let reno ← s.toTCPReno.limitedTransmit
  let s := s.setReno reno
  if s.state.dupacks = DUPTHRESH then
    if s.state.lossRecovery = false ∧ s.CoversMore then do
      let s ← s.enterRecovery.retransmitOneSegment false
      s.sendPending false idle
    else return s
  else if s.state.dupacks > DUPTHRESH ∧ s.state.lossRecovery = true then s.inflate.sendPending false idle
  else return s

def setDupacks (s : TCPNewReno) (dupacks : SeqNo) : TCPNewReno := s.setReno (s.toTCPReno.setDupacks dupacks)

/-- `processAckInEstabEtc` -/
def processAck (s : TCPNewReno) (seg : AckSegment) (idle idleLater : Bool) : Sim TCPNewReno :=
  if seqGE s.state.sndUna seg.ackNo then
    if s.IsDuplicateAck seg then (s.setReno (s.toTCPReno.countDuplicate seg)).receivedDuplicateAck idle
    else .ok (s.setDupacks 0)
  else if seqLE seg.ackNo s.state.sndMax then do
    let reno ← s.toTCPReno.acknowledge seg
    if seg.payloadLength = 0 ∨ seg.textAccepted then do
      let s ← (s.setReno reno).receivedDataAck s.state.sndUna idle idleLater
      return s.setDupacks 0
    else return s.setReno reno
  else .ok (s.setDupacks 0)

def receivedSegment (s : TCPNewReno) (seg : AckSegment) (idle idleLater : Bool) : Sim TCPNewReno := do
  let reno ← s.toTCPReno.processSACKOption seg
  (s.setReno reno).processAck seg idle idleLater

inductive Event where
  /-- The connection has been established, and what waits is sent. -/
  | established (idle : Bool)
  | send (byteLength : SeqNo) (idle : Bool)
  | close
  | segment (seg : AckSegment) (idle idleLater : Bool)
  | rexmitTimer
  | persistTimer
  deriving DecidableEq, Repr

def step (s : TCPNewReno) : Event → Sim TCPNewReno
  | .established idle => s.sendPending false idle
  | .send byteLength idle => do
    let reno ← s.toTCPReno.enqueueAppData byteLength
    (s.setReno reno).sendPending true idle
  | .close => .ok (s.setReno s.toTCPReno.process_CLOSE)
  | .segment seg idle idleLater => s.receivedSegment seg idle idleLater
  | .rexmitTimer => s.processRexmitTimer
  | .persistTimer => do
    let reno ← s.toTCPReno.sendProbe
    return s.setReno reno

end TCPNewReno

end Inet.Tcp
