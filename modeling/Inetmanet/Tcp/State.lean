import Inetmanet.Tcp.SeqNo

/-!
# The state variables of a connection

`TCPStateVariables` of `TCPConnection.h`, with the values its constructor gives them.
-/
namespace Inet.Tcp

/-- `Sack` of `TCPSegment.msg`: a block of sequence numbers. -/
structure Sack where
  start : SeqNo
  end_ : SeqNo
  deriving DecidableEq, Repr

namespace Sack

def empty (s : Sack) : Prop := s.start = 0 ∧ s.end_ = 0
deriving Decidable

def contains (s other : Sack) : Prop := seqLE s.start other.start ∧ seqLE other.end_ s.end_
deriving Decidable

end Sack

namespace Fsm

inductive State where
  | init | closed | listen | synSent | synRcvd | established
  | closeWait | lastAck | finWait1 | finWait2 | closing | timeWait
  deriving DecidableEq, Repr

/-- The states in which options of segments with text count. -/
def State.Synchronized (state : State) : Prop :=
  state = .synRcvd ∨ state = .established ∨ state = .finWait1 ∨ state = .finWait2
deriving Decidable

/-- The states of the handshake before a SYN has come. -/
def State.Opening (state : State) : Prop := state = .listen ∨ state = .synSent
deriving Decidable

end Fsm

structure TCPStateVariables where
  active : Bool := false
  fork : Bool := false
  sndMss : SeqNo := 0
  -- send sequence number variables
  sndUna : SeqNo := 0
  sndNxt : SeqNo := 0
  sndMax : SeqNo := 0
  sndWnd : SeqNo := 0
  sndWl1 : SeqNo := 0
  sndWl2 : SeqNo := 0
  iss : SeqNo := 0
  -- receive sequence number variables
  rcvNxt : SeqNo := 0
  rcvWnd : SeqNo := 0
  irs : SeqNo := 0
  rcvAdv : SeqNo := 0
  synRexmitCount : Nat := 0
  finAckRcvd : Bool := false
  sendFin : Bool := false
  sndFinSeq : SeqNo := 0
  finRcvd : Bool := false
  rcvFinSeq : SeqNo := 0
  nagleEnabled : Bool := false
  delayedAcksEnabled : Bool := false
  limitedTransmitEnabled : Bool := false
  increasedIWEnabled : Bool := false
  fullSizedSegmentCounter : SeqNo := 0
  ackNow : Bool := false
  /-- Set at a retransmission timeout, until `sndNxt` or `sndUna` has come back to `sndMax`. -/
  afterRto : Bool := false
  wsSupport : Bool := false
  wsEnabled : Bool := false
  tsSupport : Bool := false
  tsEnabled : Bool := false
  sackSupport : Bool := false
  sackEnabled : Bool := false
  startSeqno : SeqNo := 0
  endSeqno : SeqNo := 0
  sndSack : Bool := false
  sndDsack : Bool := false
  sacksArray : List Sack := []
  lossRecovery : Bool := false
  dupacks : SeqNo := 0
  maxRcvBuffer : SeqNo := 0
  usedRcvBuffer : SeqNo := 0
  freeRcvBuffer : SeqNo := 0
  deriving DecidableEq, Repr

end Inet.Tcp
