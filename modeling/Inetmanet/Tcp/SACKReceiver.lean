import Inetmanet.Tcp.State
import Inetmanet.Tcp.RcvQueue

/-!
# The receiver's side of selective acknowledgement

`isSegmentAcceptable`, the parts of `processSegment1stThru8th` that take data in,
and `addSacks`. The data segments have the ACK bit, and neither of the bits SYN,
RST and FIN; what they acknowledge does not matter here. Nor do the counters that
decide when an ACK may be delayed: one that has blocks to report is sent at once.
-/
namespace Inet.Tcp

/-- `TCP_OPTIONS_MAX_SIZE` -/
def tcpOptionsMaxSize : Nat := 40

/-- `TCP_OPTION_SACK_MIN_SIZE` -/
def tcpOptionSackMinSize : Nat := 10

/-- The padding and the SACK option that `addSacks` writes, and the length of all options then. -/
structure SackOption where
  nops : Nat
  blocks : List Sack
  optionsLen : Nat
  deriving DecidableEq, Repr

/-- Blocks below `rcvNxt` are deleted. -/
def deleteOldSacks (rcvNxt : SeqNo) : List Sack → Sim (List Sack)
  | [] => .ok []
  | it :: l =>
    if seqLE it.end_ rcvNxt ∨ it.empty then deleteOldSacks rcvNxt l
    else do
      ensure (seqGE it.start rcvNxt) "seqGE(it->getStart(), state->rcv_nxt)"
      return it :: (← deleteOldSacks rcvNxt l)

/-- Blocks that an earlier one contains are deleted; there are as many rounds as blocks at most. -/
def deleteContainedSacks : Nat → List Sack → Sim (List Sack)
  | 0, l => .ok l
  | _ + 1, [] => .ok []
  | fuel + 1, it :: l => do
    ensure (¬ it.empty) "!it->empty()"
    return it :: (← deleteContainedSacks fuel (l.filter fun it2 => ¬ it.contains it2))

namespace TCPStateVariables

def resetSackFlags (state : TCPStateVariables) : TCPStateVariables :=
  { state with sndSack := false, sndDsack := false, startSeqno := 0, endSeqno := 0 }

/-- Put the block of the segment that triggered the ACK in front. A D-SACK block, which is
taken out again later, is not compared with the others. -/
def insertSack (state : TCPStateVariables) (receiveQueue : TCPVirtualDataRcvQueue Region)
    (sacks : List Sack) : Sim (List Sack × Bool) := do
  let start := state.startSeqno
  let end_ := state.endSeqno
  if start = end_ then return (sacks, false)
  if state.sndDsack then
    let end_ := if seqLess start state.rcvNxt ∧ seqLess state.rcvNxt end_ then state.rcvNxt else end_
    return (⟨start, end_⟩ :: (← deleteContainedSacks sacks.length sacks), true)
  else
    let sacks := ⟨receiveQueue.getLE start, receiveQueue.getRE end_⟩ :: sacks
    return (← deleteContainedSacks sacks.length sacks, false)

/-- `usedOptionsLen` is the length of the options that the segment has already. -/
def addSacks (state : TCPStateVariables) (receiveQueue : TCPVirtualDataRcvQueue Region)
    (usedOptionsLen : Nat) : Sim (TCPStateVariables × Option SackOption) := do
  let sacks ← deleteOldSacks state.rcvNxt state.sacksArray
  if usedOptionsLen > tcpOptionsMaxSize - tcpOptionSackMinSize then
    return ({ state with sacksArray := sacks }.resetSackFlags, none)
  let (sacks, dsackInserted) ← state.insertSack receiveQueue sacks
  let kept := if dsackInserted then sacks.tail else sacks
  let n := min sacks.length ((tcpOptionsMaxSize - usedOptionsLen - 2) / 8)
  if n = 0 then
    return ({ state with sacksArray := kept }.resetSackFlags, none)
  -- `while (used_options_len % 4 != 2)`
  let nops := (6 - usedOptionsLen % 4) % 4
  let blocks := sacks.take n
  ensure (∀ it ∈ blocks, it.start ≠ it.end_) "it->getStart() != it->getEnd()"
  let optionsLen := usedOptionsLen + nops + 8 * n + 2
  ensure (optionsLen ≤ tcpOptionsMaxSize) "options_len <= TCP_OPTIONS_MAX_SIZE"
  return ({ state with sacksArray := kept }.resetSackFlags, some ⟨nops, blocks, optionsLen⟩)

def isSegmentAcceptable (state : TCPStateVariables) (tcpseg : TCPSegment) : Prop :=
  let len := tcpseg.payloadLength
  let seqNo := tcpseg.sequenceNo
  let rcvWndEnd := state.rcvNxt + state.rcvWnd
  if len = 0 then
    (if state.rcvWnd = 0 then seqNo = state.rcvNxt
      else seqLE state.rcvNxt seqNo ∧ seqLE seqNo rcvWndEnd) ∨
    seqLess state.sndUna tcpseg.ackNo ∧
      seqLE tcpseg.ackNo (if state.afterRto then state.sndMax else state.sndNxt)
  else state.rcvWnd ≠ 0 ∧
    (seqLE state.rcvNxt seqNo ∧ seqLess seqNo rcvWndEnd ∨
      seqLess state.rcvNxt tcpseg.endNo ∧ seqLE tcpseg.endNo rcvWndEnd)

instance (state : TCPStateVariables) (tcpseg : TCPSegment) : Decidable (state.isSegmentAcceptable tcpseg) := by
  unfold isSegmentAcceptable
  infer_instance

def updateRcvQueueVars (state : TCPStateVariables) (receiveQueue : TCPVirtualDataRcvQueue Region) :
    TCPStateVariables :=
  let freeRcvBuffer := receiveQueue.getAmountOfFreeBytes state.maxRcvBuffer
  { state with freeRcvBuffer := freeRcvBuffer, usedRcvBuffer := state.maxRcvBuffer - freeRcvBuffer }

def hasEnoughSpaceForSegmentInReceiveQueue (state : TCPStateVariables)
    (receiveQueue : TCPVirtualDataRcvQueue Region) (tcpseg : TCPSegment) : Prop :=
  let firstSeq := receiveQueue.getFirstSeqNo
  seqLE firstSeq tcpseg.sequenceNo ∧ seqLE tcpseg.endNo (firstSeq + state.maxRcvBuffer)

instance (state : TCPStateVariables) (receiveQueue : TCPVirtualDataRcvQueue Region) (tcpseg : TCPSegment) :
    Decidable (state.hasEnoughSpaceForSegmentInReceiveQueue receiveQueue tcpseg) :=
  inferInstanceAs (Decidable (_ ∧ _))

end TCPStateVariables

/-- The receiving half of a connection. -/
structure Receiver where
  state : TCPStateVariables
  receiveQueue : TCPVirtualDataRcvQueue Region
  deriving DecidableEq, Repr

namespace Receiver

/-- The loop that forwards data to the application, as long as the queue gives any away. -/
def forwardData : Nat → TCPVirtualDataRcvQueue Region → SeqNo → Sim (TCPVirtualDataRcvQueue Region)
  | 0, _, _ => .error .diverges
  | fuel + 1, q, rcvNxt => do
    match ← q.extractBytesUpTo Region.copyTo rcvNxt with
    | (none, q) => return q
    | (some _, q) => forwardData fuel q rcvNxt

/-- The flags for a segment that is not acceptable. -/
def notAcceptable (r : Receiver) (tcpseg : TCPSegment) : Receiver :=
  if tcpseg.payloadLength > 0 ∧ r.state.sackEnabled ∧ seqLess tcpseg.endNo r.state.rcvNxt then
    { r with state := { r.state with
        startSeqno := tcpseg.sequenceNo, endSeqno := tcpseg.endNo, sndDsack := true } }
  else r

/-- Take in what `truncateSegment` left of the text, before the ACK it causes is sent. -/
def insertText (r : Receiver) (tcpseg : TCPSegment) : Sim Receiver := do
  let state := r.state
  if ¬ state.hasEnoughSpaceForSegmentInReceiveQueue r.receiveQueue tcpseg then return r
  let receiveQueue ← r.receiveQueue.insertBytesFromSegment tcpseg
  let oldRcvNxt := state.rcvNxt
  let state := { state with rcvNxt := receiveQueue.rcvNxt }
  if oldRcvNxt = state.rcvNxt then
    if ¬ state.sackEnabled then return ⟨state, receiveQueue⟩
    let state := { state with startSeqno := tcpseg.sequenceNo, endSeqno := tcpseg.endNo }
    if state.usedRcvBuffer = receiveQueue.getAmountOfBufferedBytes then
      return ⟨{ state with sndDsack := true }, receiveQueue⟩
    else return ⟨{ state with sndSack := true }, receiveQueue⟩
  else
    let receiveQueue ← forwardData (receiveQueue.getQueueLength + 1) receiveQueue state.rcvNxt
    if state.sackEnabled ∧ receiveQueue.getQueueLength ≠ 0 then
      return ⟨{ state with startSeqno := tcpseg.sequenceNo, endSeqno := tcpseg.endNo, sndSack := true,
                           ackNow := true }, receiveQueue⟩
    else return ⟨state, receiveQueue⟩

/-- The text of a segment that is acceptable. -/
def processText (r : Receiver) (tcpseg : TCPSegment) : Sim Receiver := do
  let tcpseg ← tcpseg.truncateSegment r.state.rcvNxt (r.state.rcvNxt + r.state.rcvWnd)
  insertText { r with state := r.state.updateRcvQueueVars r.receiveQueue } tcpseg

/-- A data segment arrives while the window is `rcvWnd`. -/
def processSegment (r : Receiver) (rcvWnd : SeqNo) (tcpseg : TCPSegment) : Sim Receiver :=
  let r := { r with state := { r.state with rcvWnd := rcvWnd } }
  if r.state.isSegmentAcceptable tcpseg then r.processText tcpseg else .ok (r.notAcceptable tcpseg)

/-- The part of `writeHeaderOptions` for ACKs and data segments. A timestamp option comes first,
with padding unless there are blocks to report. -/
def writeHeaderOptions (r : Receiver) : Sim (Receiver × Option SackOption) :=
  if r.state.sackEnabled ∧ (r.state.sndSack ∨ r.state.sndDsack) then do
    let (state, option) ← r.state.addSacks r.receiveQueue (if r.state.tsEnabled then 10 else 0)
    return ({ r with state := state }, option)
  else .ok (r, none)

end Receiver

end Inet.Tcp
