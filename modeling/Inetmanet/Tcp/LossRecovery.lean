import Inetmanet.Tcp.SACKRexmitQueue
import Inetmanet.Tcp.State

/-!
# Loss recovery with selective acknowledgements

`TCPConnectionSackUtil.cc`: what a sender takes for lost, how many octets it
estimates to be on the way, and which segment it sends next.
-/
namespace Inet.Tcp

namespace TCPSACKRexmitQueue

def getHighestRexmittedSeqNum (q : TCPSACKRexmitQueue) : SeqNo :=
  match q.rexmitQueue.reverse.find? RexmitRegion.rexmitted with
  | some i => i.endSeqNum
  | none => q.beginNo

end TCPSACKRexmitQueue

/-- `TCPSendQueue`: the octets that wait to be sent or to be acknowledged. -/
structure TCPSendQueue where
  bufferStartSeq : SeqNo
  bufferEndSeq : SeqNo
  deriving DecidableEq, Repr

/-- `ulong` of the 64-bit platforms. -/
abbrev ULong := BitVec 64

def TCPSendQueue.getBytesAvailable (sendQueue : TCPSendQueue) (fromSeq : SeqNo) : ULong :=
  if seqLess fromSeq sendQueue.bufferEndSeq then (sendQueue.bufferEndSeq - fromSeq).setWidth 64 else 0

/-- The state variables with those that only loss recovery uses. -/
structure SenderState extends TCPStateVariables where
  highRxt : SeqNo := 0
  pipe : SeqNo := 0
  recoveryPoint : SeqNo := 0
  sentBytes : SeqNo := 0
  deriving DecidableEq, Repr

/-- The sending half of `TCPConnection`. -/
structure TCPConnection where
  state : SenderState
  sendQueue : TCPSendQueue
  rexmitQueue : TCPSACKRexmitQueue
  deriving DecidableEq, Repr

def DUPTHRESH : SeqNo := 3

/-- No loop over the regions takes this many turns and ends. -/
def loopLimit : Nat := 2 ^ 32

namespace TCPConnection

def isLost (conn : TCPConnection) (seqNum : SeqNo) : Sim Bool := do
  ensure (conn.state.sackEnabled = true) "state->sack_enabled"
  ensure (seqGE seqNum conn.state.sndUna) "seqGE(seqNum, state->snd_una)"
  let runs ← conn.rexmitQueue.getNumOfDiscontiguousSacks seqNum
  if runs ≥ DUPTHRESH then return true
  let bytes ← conn.rexmitQueue.getAmountOfSackedBytes seqNum
  return bytes ≥ DUPTHRESH * conn.state.sndMss

/-- What one turn of the loop of `setPipe` adds for a block that has not been acknowledged. -/
def inPipe (conn : TCPConnection) (s1 length : SeqNo) (pipe : SeqNo) : Sim SeqNo := do
  let lost ← conn.isLost s1
  let pipe := if lost = false then pipe + length else pipe
  return if seqLess s1 conn.state.highRxt then pipe + length else pipe

/-- The loop of `setPipe`. -/
def pipeFrom (conn : TCPConnection) : Nat → SeqNo → SeqNo → Sim SeqNo
  | 0, _, _ => .error .diverges
  | fuel + 1, s1, pipe =>
    if seqLess s1 conn.state.sndMax then do
      let (length, sacked, _) ← conn.rexmitQueue.checkSackBlock s1
      let pipe ← if sacked then pure pipe else conn.inPipe s1 length pipe
      conn.pipeFrom fuel (s1 + length) pipe
    else .ok pipe

def setHighRxt (conn : TCPConnection) : TCPConnection :=
  { conn with state := { conn.state with highRxt := conn.rexmitQueue.getHighestRexmittedSeqNum } }

def setPipe (conn : TCPConnection) : Sim TCPConnection := do
  ensure (conn.state.sackEnabled = true) "state->sack_enabled"
  let conn := conn.setHighRxt
  let pipe ← conn.pipeFrom loopLimit conn.state.sndUna 0
  return { conn with state := { conn.state with pipe := pipe } }

/-- The loops of rules (1) and (3) of `nextSeg`, up to the first block that has not
been acknowledged. -/
def unsackedFrom (conn : TCPConnection) (highestSackedSeqNum : SeqNo) : Nat → SeqNo → Sim (Option SeqNo)
  | 0, _ => .error .diverges
  | fuel + 1, s =>
    if seqLess s conn.state.sndMax ∧ seqLess s highestSackedSeqNum then do
      let (shift, sacked, _) ← conn.rexmitQueue.checkSackBlock s
      if sacked then conn.unsackedFrom highestSackedSeqNum fuel (s + shift) else return some s
    else .ok none

/-- Rule (1): the first octet above `highRxt` that has not been acknowledged, if it is lost. -/
def firstLost (conn : TCPConnection) : Sim (Option SeqNo) := do
  match ← conn.unsackedFrom conn.rexmitQueue.getHighestSackedSeqNum loopLimit conn.state.highRxt with
  | none => return none
  | some s2 => return if ← conn.isLost s2 then some s2 else none

/-- `effectiveWin`: the subtraction is one of `ulong` and wraps around. -/
def effectiveWin (conn : TCPConnection) : ULong :=
  conn.state.sndWnd.setWidth 64 - conn.state.pipe.setWidth 64

/-- Rule (2): there is data that has not been sent, and the window allows it. -/
def MaySendNew (conn : TCPConnection) : Prop :=
  conn.sendQueue.getBytesAvailable conn.state.sndMax > 0 ∧
    conn.effectiveWin ≥ conn.state.sndMss.setWidth 64
deriving Decidable

/-- Rule (3): the first octet above `highRxt` that has not been acknowledged, lost or not. -/
def lastResort (conn : TCPConnection) : Sim (Option SeqNo) :=
  conn.unsackedFrom conn.rexmitQueue.getHighestSackedSeqNum loopLimit conn.state.highRxt

/-- The sequence number to send from, or none where the source returns `false`. -/
def nextSeg (conn : TCPConnection) : Sim (TCPConnection × Option SeqNo) := do
  ensure (conn.state.sackEnabled = true) "state->sack_enabled"
  let conn := conn.setHighRxt
  match ← conn.firstLost with
  | some s2 => return (conn, some s2)
  | none =>
    if conn.MaySendNew then return (conn, some conn.state.sndMax)
    return (conn, ← conn.lastResort)

end TCPConnection

end Inet.Tcp
