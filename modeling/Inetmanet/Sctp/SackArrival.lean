import Inetmanet.Lib.CounterLoops
import Inetmanet.Sctp.SCTPGapList
import Inetmanet.Sctp.Sender

/-!
# The arrival of SACK and FORWARD-TSN chunks

`SCTPAssociationRcvMessage.cc`. `processSackArrived` is followed to the end of the gap
reports and to `advancePeerTsn`; the rest of it sets windows, timers and path variables
and reads no TSN of the chunk. Retransmission timers, the pseudo-cumulative TSNs of the
paths and statistics are left out.
-/
namespace Inet.Sctp

open CounterLoops

structure SCTPSackChunk where
  cumTsnAck : Tsn
  /-- `gapStart` and `gapStop` -/
  gaps : List Gap := []
  /-- `nrGapStart` and `nrGapStop` -/
  nrGaps : List Gap := []
  nrSubtractRGaps : Bool := false
  sackSeqNum : BitVec 32 := 0
  deriving DecidableEq, Repr

/-- The loops over the TSNs of a block do not differ but in what they do with a TSN. -/
def whileTsnLe (enter : SCTPGapList → Tsn → SCTPGapList) (stop tsn : Tsn) (l : SCTPGapList) : Sim SCTPGapList :=
  loop CRuntimeError.diverges (tsnLe · stop) (· + 1) (fun l tsn => .ok (enter l tsn)) (2 ^ 32) tsn l

/-- A gap block is entered; with the list goes `lastTSN`. -/
def enterBlock (enter : SCTPGapList → Tsn → SCTPGapList) (acc : SCTPGapList × Tsn) (block : Gap) : Sim (SCTPGapList × Tsn) := do
  ensure (tsnLt (acc.2 + 1) block.start) "tsnLt(lastTSN + 1, tsn)"
  let l ← whileTsnLe enter block.stop block.start acc.1
  .ok (l, block.stop)

def enterRevokable (l : SCTPGapList) (tsn : Tsn) : SCTPGapList := (l.updateGapList tsn false true).2.1

/-- With `nrSubtractRGaps`, what is revokable stays so. -/
def enterNonRevokable (nrSubtractRGaps : Bool) (l : SCTPGapList) (tsn : Tsn) : SCTPGapList :=
  if nrSubtractRGaps ∧ l.tsnIsRevokable tsn then l else (l.updateGapList tsn false false).2.1

def SCTPSackChunk.sackGapList (sackChunk : SCTPSackChunk) : Sim SCTPGapList := do
  let l := ({} : SCTPGapList).setInitialCumAckTSN sackChunk.cumTsnAck
  let (l, _) ← sackChunk.gaps.foldlM (enterBlock enterRevokable) (l, sackChunk.cumTsnAck)
  let (l, _) ← sackChunk.nrGaps.foldlM (enterBlock (enterNonRevokable sackChunk.nrSubtractRGaps)) (l, sackChunk.cumTsnAck)
  .ok l

namespace Sender

/-- The sender with what it has learned from SACKs. -/
structure SackReceiver extends SCTPAssociation where
  lastTsnAck : Tsn
  highestTsnAcked : Tsn
  checkSackSeqNumber : Bool := false
  incomingSackSeqNum : BitVec 32 := 0

/-- What depends on paths and times. -/
structure SackRules where
  sackPath : PathId
  chunkReportedAsMissing : Tsn → Nat
  late : Tsn → Bool
  simTime : Nat

variable (rules : SackRules)

def assertLastPath (s : SCTPAssociation) (tsn : Tsn) : Sim Unit :=
  match s.getChunk tsn with
  | none => .ok ()
  | some chunk => ensure (chunk.lastDestination ≠ none) "myChunkLastPath != NULL"

/-- A TSN that is not listed in the gap reports; `r` holds `tsnCheck`. -/
def reportNotListed (r : SCTPAssociation × Tsn) (pos : Tsn) : Sim (SCTPAssociation × Tsn) := do
  ensure (r.2 = pos) "tsnCheck == pos"
  assertLastPath r.1 pos
  .ok (r.1, r.2 + 1)

/-- A TSN in a gap report. -/
def reportListed (sackGapList : SCTPGapList) (r : SCTPAssociation × Tsn) (pos : Tsn) : Sim (SCTPAssociation × Tsn) := do
  ensure (r.2 = pos) "tsnCheck == pos"
  assertLastPath r.1 pos
  let s ← r.1.handleChunkReportedAsAcked pos rules.sackPath (decide (sackGapList.tsnIsNonRevokable pos))
  .ok (s, r.2 + 1)

/-- A gap report; with `r` goes `lo1`. -/
def reportBlock (sackGapList : SCTPGapList) (acc : (SCTPAssociation × Tsn) × Tsn) (block : Gap) :
    Sim ((SCTPAssociation × Tsn) × Tsn) := do
  let r ← upTo .diverges (block.start - 1) reportNotListed (acc.2 + 1) acc.1
  let r ← upTo .diverges block.stop (reportListed rules sackGapList) block.start r
  .ok (r, block.stop)

/-- The chunks before a gap report; with the sender goes `lo`. -/
def reportMissing (acc : SCTPAssociation × Tsn) (block : Gap) : Sim (SCTPAssociation × Tsn) := do
  let s ← upTo .diverges (block.start - 1) (fun (s : SCTPAssociation) pos =>
    s.handleChunkReportedAsMissing pos rules.sackPath (rules.chunkReportedAsMissing pos) (rules.late pos) rules.simTime)
    (acc.2 + 1) acc.1
  .ok (s, block.stop)

namespace SackReceiver

variable (s : SackReceiver)

/-- The chunks above `tsn` are no longer acknowledged. -/
def renegeAbove (tsn : Tsn) : Sim SackReceiver := do
  let s' ← downTo .diverges (tsn + 1) (fun (s' : SCTPAssociation) i => s'.tsnWasReneged i rules.sackPath) s.highestTsnAcked
    s.toSCTPAssociation
  .ok { s with toSCTPAssociation := s', highestTsnAcked := tsn }

/-- Nothing is acknowledged above the last gap report any more. -/
def renegeBehind (last : Gap) : Sim SackReceiver :=
  if tsnLt last.stop s.highestTsnAcked then s.renegeAbove rules last.stop else .ok s

/-- The gap reports, of which the last one is `last`. -/
def processGapReports (tsna : Tsn) (sackGapList : SCTPGapList) (last : Gap) : Sim SackReceiver := do
  let s ← s.renegeBehind rules last
  let (r, _) ← sackGapList.CombinedGapList.gaps.foldlM (reportBlock rules sackGapList) ((s.toSCTPAssociation, tsna + 1), tsna)
  let (s', _) ← sackGapList.CombinedGapList.gaps.foldlM (reportMissing rules) (r.1, tsna)
  .ok { s with toSCTPAssociation := s', highestTsnAcked := last.stop }

/-- Reneging and gap reports. -/
def processGaps (tsna : Tsn) (sackGapList : SCTPGapList) : Sim SackReceiver :=
  match sackGapList.CombinedGapList.gaps.getLast? with
  | none => if tsnLt tsna s.highestTsnAcked then s.renegeAbove rules tsna else .ok s
  | some last => if s.retransmissionQ = [] then .ok s else s.processGapReports rules tsna sackGapList last

/-- A new cumulative acknowledgement. -/
def processCumAck (tsna : Tsn) : Sim SackReceiver :=
  if tsnGt tsna s.lastTsnAck then do
    let s' ← s.cumAcked tsna rules.sackPath
    .ok { s with toSCTPAssociation := s', lastTsnAck := tsna }
  else .ok s

def processSackArrived (sackChunk : SCTPSackChunk) : Sim SackReceiver := do
  let sackGapList ← sackChunk.sackGapList
  if s.checkSackSeqNumber ∧ sackChunk.sackSeqNum ≤ s.incomingSackSeqNum then .ok s
  else
    let s := { s with incomingSackSeqNum := sackChunk.sackSeqNum }
    if tsnLt sackChunk.cumTsnAck s.lastTsnAck then .ok s
    else do
      let s ← s.processCumAck rules sackChunk.cumTsnAck
      let s ← s.processGaps rules sackChunk.cumTsnAck sackGapList
      .ok { s with toSCTPAssociation := s.advancePeerTsn }

end SackReceiver

end Sender

structure SCTPReceiveStream where
  expectedStreamSeqNum : Int
  /-- the numbers of the chunks in `orderedQ`, by increasing TSN -/
  orderedQ : List Ssn := []
  deriving DecidableEq, Repr

/-- The receiver, as far as a FORWARD-TSN changes it. -/
structure ForwardTsnReceiver where
  gapList : SCTPGapList
  receiveStreams : Nat → Option SCTPReceiveStream

namespace SCTPReceiveStream

def nextExpected (rStream : SCTPReceiveStream) (ssn : Int) : Int :=
  match rStream.orderedQ with
  | first :: _ => first.toNat
  | [] => if rStream.expectedStreamSeqNum ≤ ssn then ssn + 1 else rStream.expectedStreamSeqNum

def skip (rStream : SCTPReceiveStream) (ssn : Int) : SCTPReceiveStream :=
  { rStream with expectedStreamSeqNum := if rStream.nextExpected ssn > 65535 then 0 else rStream.nextExpected ssn }

end SCTPReceiveStream

namespace ForwardTsnReceiver

variable (m : ForwardTsnReceiver)

/-- A stream of the chunk; those with the SSN −1 are unordered. -/
def skipStream (receiveStreams : Nat → Option SCTPReceiveStream) (stream : Nat × Int) : Sim (Nat → Option SCTPReceiveStream) :=
  if stream.2 = -1 then .ok receiveStreams
  else
    match receiveStreams stream.1 with
    | none => .error (.nullPointer "rStream")
    | some rStream => .ok (Function.update receiveStreams stream.1 (some (rStream.skip stream.2)))

def abandon (gapList : SCTPGapList) (i : Tsn) : SCTPGapList :=
  if gapList.CumAckTSN < i ∧ ¬ gapList.tsnInGapList i then (gapList.updateGapList i false false).2.1.tryToAdvanceCumAckTSN.1
  else gapList

def processForwardTsnArrived (fwChunk : Sender.SCTPForwardTsnChunk) : Sim ForwardTsnReceiver :=
  if fwChunk.newCumTsn ≤ m.gapList.CumAckTSN then .ok m
  else do
    let receiveStreams ← fwChunk.streams.foldlM skipStream m.receiveStreams
    let gapList ← upTo .diverges fwChunk.newCumTsn (fun l i => .ok (abandon l i)) (m.gapList.CumAckTSN + 1) m.gapList
    .ok { gapList, receiveStreams }

end ForwardTsnReceiver

end Inet.Sctp
