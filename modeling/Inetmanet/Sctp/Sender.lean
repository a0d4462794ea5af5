import Inetmanet.Sctp.SenderBooks

/-!
# The sender of an SCTP association

The queues and the paths, and every operation that changes the accounting: the DATA
chunks of `sendOnPath`, stored packets, what `processSackArrived` does to a chunk, the
timeout of T3, rescheduling, reported packet drops and partial reliability.
-/
namespace Inet.Sctp.Sender

structure SCTPPathVariables where
  activePath : Bool := true
  confirmed : Bool := true
  /-- `blockingTimeout` is positive and lies ahead. -/
  blocked : Bool := false
  deriving DecidableEq, Repr

/-- A chunk of a packet that is put together; all others but DATA are alike here. -/
inductive SCTPChunk where
  | DATA (tsn : Tsn)
  | control
  deriving DecidableEq, Repr

structure SCTPForwardTsnChunk where
  newCumTsn : Tsn
  /-- the pairs of `sid` and `ssn`, by increasing `sid` -/
  streams : List (Nat × Int)
  deriving DecidableEq, Repr

structure SCTPAssociation where
  books : Books := fun _ => 0
  /-- the keys of `sctpPathMap` -/
  paths : List PathId
  path : PathId → SCTPPathVariables := fun _ => {}
  primaryPath : PathId
  /-- by increasing TSN -/
  retransmissionQ : List SCTPDataVariables := []
  nextTSN : Tsn
  advancedPeerAckPoint : Tsn
  /-- `state->sctpMsg`: the packet that is stored -/
  sctpMsg : Option (List SCTPChunk) := none
  allowCMT : Bool := false
  cmtSmartReneging : Bool := false
  numGapReports : Nat := 3
  rtxMethod : Nat := 0
  prMethod : Nat := 0

/-- The conversion to `int16`. -/
def int16 (x : Nat) : Int := (BitVec.ofNat 16 x).toInt

namespace SCTPAssociation

variable (s : SCTPAssociation)

/-- The chunks of the transmission queue, by increasing TSN. -/
def transmissionQ : List SCTPDataVariables := s.retransmissionQ.filter (·.enqueuedInTransmissionQ)

def getChunk (tsn : Tsn) : Option SCTPDataVariables := s.retransmissionQ.find? fun chunk => decide (chunk.tsn = tsn)

/-- `SCTPQueue::checkAndInsertChunk`, for a key that is not there yet. -/
def insertChunk (chunk : SCTPDataVariables) : List SCTPDataVariables → List SCTPDataVariables
  | [] => [chunk]
  | c :: q => if chunk.tsn < c.tsn then chunk :: c :: q else c :: insertChunk chunk q

/-- Something is done to a chunk that a pointer is at hand of. -/
def onChunk (f : Books → SCTPDataVariables → Sim (Books × SCTPDataVariables)) (tsn : Tsn) : Sim SCTPAssociation :=
  match s.getChunk tsn with
  | none => .error (.nullPointer "chunk")
  | some chunk => do
    let (b, chunk') ← f s.books chunk
    .ok { s with books := b, retransmissionQ := s.retransmissionQ.map fun c => if c.tsn = tsn then chunk' else c }

def getNextPath (oldPath : PathId) : Option PathId :=
  if s.paths.length > 1 then
    s.paths.find? fun p => decide (p ≠ oldPath ∧ (s.path p).activePath ∧ (¬ s.allowCMT ∨ ¬ (s.path p).blocked))
  else none

def getNextDestination (chunk : SCTPDataVariables) : Option PathId :=
  if chunk.numberOfTransmissions = 0 then chunk.initialDestination.or (some s.primaryPath)
  else if chunk.hasBeenFastRetransmitted then chunk.lastDestination
  else
    match chunk.lastDestination.bind s.getNextPath with
    | some next => if (s.path next).confirmed then some next else chunk.lastDestination
    | none => chunk.lastDestination

/-- The last part of the loop in `sendOnPath`, for a new chunk. -/
def sendFirst (datVar : SCTPDataVariables) (path : PathId) : Sim SCTPAssociation := do
  ensure (datVar.tsn = 0) "datVar->tsn == 0"
  let tsn := s.nextTSN
  if (s.getChunk tsn).isSome then .error (.runtime "Cannot add datVar to retransmissionQ!")
  else
    let chunk := { datVar with
      tsn, lastDestination := some path, countsAsOutstanding := true, hasBeenReneged := false, hasBeenAcked := false,
      queuedOnPath := some path, numberOfTransmissions := datVar.numberOfTransmissions + 1, gapReports := 0,
      hasBeenFastRetransmitted := false }
    let b := increaseOutstandingBytes s.books chunk path
    .ok { s with
      books := (b.add (.pathQueuedBytes path) chunk.booksize).add .queuedSentBytes chunk.booksize
      nextTSN := s.nextTSN + 1
      retransmissionQ := insertChunk chunk s.retransmissionQ }

/-- `makeDataVarFromDataMsg` and the first transmission of the chunk. -/
def transmit (datVar : Sctp.SCTPDataVariables) (prMethod : PrMethod) (expiryTime allowedNoRetransmissions : Nat) (path : PathId) :
    Sim SCTPAssociation :=
  s.sendFirst { toSCTPDataVariables := datVar, prMethod, expiryTime, allowedNoRetransmissions, initialDestination := some path } path

/-- The chunk that `getOutboundDataChunk` finds. -/
def outboundDataChunk (path : PathId) (availableSpace availableCwnd : Int) : Option SCTPDataVariables :=
  s.transmissionQ.find? fun chunk =>
    decide (¬ chunk.hasBeenAcked ∧ ¬ chunk.hasBeenAbandoned ∧ chunk.nextDestination = some path ∧
      (chunk.room : Int) ≤ availableSpace ∧ int32 chunk.booksize ≤ availableCwnd)

/-- A chunk of the transmission queue is taken out and sent again. -/
def sendAgain (path : PathId) (b : Books) (chunk : SCTPDataVariables) : Sim (Books × SCTPDataVariables) :=
  let b := (b.sub (.roomTransQ path) chunk.room).sub (.bookedTransQ path) chunk.booksize
  let chunk := { chunk with
    enqueuedInTransmissionQ := false, numberOfRetransmissions := chunk.numberOfRetransmissions + 1, countsAsOutstanding := true,
    hasBeenReneged := false }
  let b := increaseOutstandingBytes b chunk path
  if chunk.numberOfTransmissions = 0 then .error (.runtime "Cannot add datVar to retransmissionQ!")
  else
    .ok (b, { chunk with
      lastDestination := some path, numberOfTransmissions := chunk.numberOfTransmissions + 1, gapReports := 0,
      hasBeenFastRetransmitted := false })

def retransmit (path : PathId) (availableSpace availableCwnd : Int) : Sim SCTPAssociation :=
  match s.outboundDataChunk path availableSpace availableCwnd with
  | none => .ok s
  | some chunk => s.onChunk (sendAgain path) chunk.tsn

/-- A control chunk is taken for a DATA chunk: what is read is no TSN. -/
def getTsn : SCTPChunk → Sim Tsn
  | .DATA tsn => .ok tsn
  | .control => .error (.outOfBounds "((SCTPDataChunk*)sctpMsg->getChunks(i))->getTsn()")

def unbook (b : Books) (chunk : SCTPDataVariables) : Sim (Books × SCTPDataVariables) := do
  let (b, chunk) ← decreaseOutstandingBytes b chunk
  let queuedOnPath ← deref chunk.queuedOnPath "chunk->queuedOnPath"
  .ok (b.sub (.pathQueuedBytes queuedOnPath) chunk.booksize, { chunk with queuedOnPath := none })

def storePacket (sctpMsg : List SCTPChunk) : Sim SCTPAssociation := do
  let s ← sctpMsg.foldlM (fun (s : SCTPAssociation) c => getTsn c >>= s.onChunk unbook) s
  .ok { s with sctpMsg := some sctpMsg }

def bookAgain (path : PathId) (b : Books) (chunk : SCTPDataVariables) : Sim (Books × SCTPDataVariables) :=
  let b := b.add (.pathQueuedBytes path) chunk.booksize
  let chunk := { chunk with queuedOnPath := some path, lastDestination := some path }
  .ok (increaseOutstandingBytes b chunk path, { chunk with countsAsOutstanding := true })

/-- `loadPacket`, where a packet is stored. -/
def loadPacket (path : PathId) : Sim SCTPAssociation :=
  match s.sctpMsg with
  | none => .ok s
  | some sctpMsg =>
    sctpMsg.foldlM (fun (s : SCTPAssociation) c => getTsn c >>= s.onChunk (bookAgain path)) { s with sctpMsg := none }

/-- `dequeueAckedChunks`, on the rest of the retransmission queue. -/
def dequeueAckedChunks (tsna : Tsn) (sackPath : PathId) : Books → List SCTPDataVariables → Sim (Books × List SCTPDataVariables)
  | b, [] => .ok (b, [])
  | b, chunk :: q =>
    if tsnGe tsna chunk.tsn then do
      let b ← nonRenegablyAckChunk b chunk sackPath
      dequeueAckedChunks tsna sackPath b q
    else .ok (b, chunk :: q)

/-- A new cumulative acknowledgement. -/
def cumAcked (tsna : Tsn) (sackPath : PathId) : Sim SCTPAssociation := do
  let (b, q) ← dequeueAckedChunks tsna sackPath s.books s.retransmissionQ
  .ok { s with
    books := b, retransmissionQ := q
    advancedPeerAckPoint := if tsnGt tsna s.advancedPeerAckPoint then tsna else s.advancedPeerAckPoint }

/-- For a TSN in a gap block, if its chunk has not been acknowledged before. -/
def handleChunkReportedAsAcked (tsn : Tsn) (sackPath : PathId) (sackIsNonRevokable : Bool) : Sim SCTPAssociation :=
  match s.getChunk tsn with
  | none => .ok s
  | some chunk =>
    if chunk.hasBeenAcked then .ok s
    else if sackIsNonRevokable then do
      let b ← nonRenegablyAckChunk s.books chunk sackPath
      .ok { s with books := b, retransmissionQ := s.retransmissionQ.filter fun c => decide (c.tsn ≠ tsn) }
    else s.onChunk (fun b chunk => renegablyAckChunk b chunk sackPath) tsn

def renege (sackPath : PathId) (b : Books) (chunk : SCTPDataVariables) : Sim (Books × SCTPDataVariables) :=
  if s.allowCMT ∧ s.cmtSmartReneging ∧ some sackPath ≠ chunk.ackedOnPath then .ok (b, chunk)
  else do
    let (b, chunk) ← decreaseOutstandingBytes b { chunk with hasBeenAcked := false }
    .ok (b, { chunk with hasBeenReneged := true, gapReports := 1 })

/-- `tsnWasReneged`, for a chunk that has been acknowledged. -/
def tsnWasReneged (tsn : Tsn) (sackPath : PathId) : Sim SCTPAssociation :=
  match s.getChunk tsn with
  | none => .ok s
  | some chunk => if chunk.hasBeenAcked then s.onChunk (s.renege sackPath) tsn else .ok s

/-- The rule of `rtxMethod`. `late`: enough time has passed since the chunk was sent. -/
def fastRtx (chunk : SCTPDataVariables) (late : Bool) : Bool :=
  match s.rtxMethod with
  | 0 => !chunk.hasBeenFastRetransmitted &&
      (decide (chunk.numberOfRetransmissions = 0) || (chunk.hasBeenMoved && chunk.countsAsOutstanding && late))
  | 1 => !chunk.hasBeenFastRetransmitted && (decide (chunk.numberOfRetransmissions = 0) || late)
  | 3 => true
  | _ => false

def reportMissing (chunkReportedAsMissing : Nat) (late : Bool) (simTime : Nat) (b : Books) (chunk : SCTPDataVariables) :
    Sim (Books × SCTPDataVariables) :=
  if chunkReportedAsMissing = 0 then .ok (b, chunk)
  else
    let chunk := { chunk with gapReports := chunk.gapReports + chunkReportedAsMissing }
    if s.numGapReports ≤ chunk.gapReports ∧ s.fastRtx chunk late then
      let chunk := { chunk with hasBeenMoved := false }
      if chunk.enqueuedInTransmissionQ then .ok (b, chunk)
      else do
        let (b, chunk) ← chunkMustBeAbandoned simTime b chunk
        let chunk := { chunk with hasBeenFastRetransmitted := true, sendForwardIfAbandoned := true }
        let chunk := { chunk with nextDestination := s.getNextDestination chunk }
        ensure (chunk.nextDestination ≠ none) "myChunkNextPath != NULL"
        let (b, chunk) ← decreaseOutstandingBytes b chunk
        bookInTransmissionQ b chunk
    else .ok (b, chunk)

/-- For a TSN between the gap blocks. `chunkReportedAsMissing` is what the rules for several paths make of it. -/
def handleChunkReportedAsMissing (tsn : Tsn) (sackPath : PathId) (chunkReportedAsMissing : Nat) (late : Bool) (simTime : Nat) :
    Sim SCTPAssociation :=
  match s.getChunk tsn with
  | none => .ok s
  | some chunk =>
    if chunk.hasBeenAcked then s.onChunk (s.renege sackPath) tsn
    else s.onChunk (s.reportMissing chunkReportedAsMissing late simTime) tsn

def rtxOnTimeout (path : PathId) (simTime : Nat) (b : Books) (chunk : SCTPDataVariables) : Sim (Books × SCTPDataVariables) := do
  let (b, chunk) ← chunkMustBeAbandoned simTime b chunk
  if ¬ chunk.hasBeenAbandoned ∧ (¬ chunk.hasBeenAcked ∧ chunk.countsAsOutstanding ∨ chunk.hasBeenReneged) ∧
      chunk.lastDestination = some path then
    let nextPath ← deref (s.getNextDestination chunk) "nextPath"
    moveChunkToOtherPath b { chunk with hasBeenTimerBasedRtxed := true, sendForwardIfAbandoned := true } nextPath
  else .ok (b, chunk)

/-- The retransmission of `process_TIMEOUT_RTX`. -/
def process_TIMEOUT_RTX (path : PathId) (simTime : Nat) : Sim SCTPAssociation :=
  (s.retransmissionQ.map (·.tsn)).foldlM (fun (s' : SCTPAssociation) tsn => s'.onChunk (s.rtxOnTimeout path simTime) tsn) s

def reschedule (path : PathId) (late : Bool) (b : Books) (chunk : SCTPDataVariables) : Sim (Books × SCTPDataVariables) :=
  if chunk.countsAsOutstanding ∧ ¬ chunk.hasBeenMoved ∧ (chunk.lastDestination ≠ some path ∨ late) then do
    ensure (0 < chunk.numberOfTransmissions) "chunk->numberOfTransmissions > 0"
    ensure (chunk.hasBeenAcked = false) "chunk->hasBeenAcked == false"
    let (b, chunk') ← moveChunkToOtherPath b chunk path
    .ok (b, { chunk' with hasBeenMoved := decide (chunk.lastDestination ≠ some path) })
  else .ok (b, chunk)

/-- `blocking`: a blocking fraction is over the threshold, and the path is neither blocked nor in fast recovery. -/
def chunkReschedulingControl (path : PathId) (blocking late : Bool) : Sim SCTPAssociation := do
  ensure ((s.paths.map fun p => s.books (.pathOutstandingBytes p)).sum % 2 ^ 32 = s.books .outstandingBytes)
    "totalOutstandingBytes == state->outstandingBytes"
  if blocking then
    match s.retransmissionQ with
    | [] => .ok s
    | chunk :: _ => s.onChunk (reschedule path late) chunk.tsn
  else .ok s

/-- The DATA chunks of a packet that the peer reports as dropped. -/
def processPacketDropArrived (tsns : List Tsn) : Sim SCTPAssociation :=
  tsns.foldlM (fun (s : SCTPAssociation) tsn =>
    match s.getChunk tsn with
    | none => .ok s
    | some chunk => if chunk.hasBeenAcked then .ok s else s.onChunk putInTransmissionQ tsn) s

/-- The last chunk for which a FORWARD-TSN is to be sent, after the policies have been applied. -/
def peekAbandonedChunk (path : PathId) (simTime : Nat) : Option SCTPDataVariables × SCTPAssociation :=
  if s.prMethod = 0 then (none, s)
  else
    let q := s.retransmissionQ.map fun chunk => if chunk.lastDestination = some path then applyPolicies simTime chunk else chunk
    ((q.filter fun chunk => chunk.lastDestination = some path ∧ chunk.hasBeenAbandoned ∧ chunk.sendForwardIfAbandoned).getLast?,
      { s with retransmissionQ := q })

/-- The loop of `advancePeerTsn`, from the chunk after the advanced point on. -/
def advanceOver (point : Tsn) : List SCTPDataVariables → Tsn
  | [] => point
  | chunk :: q =>
    if chunk.hasBeenAbandoned then advanceOver chunk.tsn q else if chunk.hasBeenAcked then advanceOver point q else point

def advancePeerTsn : SCTPAssociation :=
  { s with
    advancedPeerAckPoint := advanceOver s.advancedPeerAckPoint
      (s.retransmissionQ.dropWhile fun chunk => decide (chunk.tsn ≠ s.advancedPeerAckPoint + 1)) }

def setSid (sid : Nat) (ssn : Int) : List (Nat × Int) → List (Nat × Int)
  | [] => [(sid, ssn)]
  | e :: l => if sid < e.1 then (sid, ssn) :: e :: l else if sid = e.1 then (sid, ssn) :: l else e :: setSid sid ssn l

/-- The chunk is in the FORWARD-TSN for the path `pid`. -/
def InForwardTsn (pid : PathId) (newCumTsn : Tsn) (chunk : SCTPDataVariables) : Prop :=
  chunk.lastDestination = some pid ∧ chunk.hasBeenAbandoned ∧ chunk.tsn ≤ newCumTsn
deriving Decidable

/-- The fake retransmission of a chunk in a FORWARD-TSN. -/
def fakeRetransmission (pid : PathId) (newCumTsn : Tsn) (b : Books) (chunk : SCTPDataVariables) : Sim (Books × SCTPDataVariables) :=
  if InForwardTsn pid newCumTsn chunk ∧ chunk.sendForwardIfAbandoned then
    let chunk := { chunk with
      gapReports := 0, hasBeenFastRetransmitted := false, numberOfRetransmissions := chunk.numberOfRetransmissions + 1,
      sendForwardIfAbandoned := false }
    if chunk.enqueuedInTransmissionQ then
      .ok ((b.sub (.roomTransQ pid) chunk.room).sub (.bookedTransQ pid) chunk.booksize,
        { chunk with enqueuedInTransmissionQ := false })
    else .ok (b, chunk)
  else .ok (b, chunk)

def createForwardTsnChunk (pid : PathId) : Sim (SCTPForwardTsnChunk × SCTPAssociation) := do
  let s := s.advancePeerTsn
  let newCumTsn := s.advancedPeerAckPoint
  let streams := s.retransmissionQ.foldl (fun l chunk =>
    if InForwardTsn pid newCumTsn chunk then setSid chunk.sid (if chunk.ordered then int16 chunk.ssn else -1) l else l) []
  let s ← (s.retransmissionQ.map (·.tsn)).foldlM (fun (s : SCTPAssociation) tsn =>
    s.onChunk (fakeRetransmission pid newCumTsn) tsn) s
  .ok ({ newCumTsn, streams }, s)

end SCTPAssociation

end Inet.Sctp.Sender
