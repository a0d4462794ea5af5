import Inetmanet.Sctp.OutboundData

/-!
# The books of an SCTP sender

`SCTPAssociationSendAll.cc`, `SCTPAssociationRcvMessage.cc`, `SCTPAssociationUtil.cc`,
`SCTPQueue.cc`: what is done to a chunk and to the counters between its first
transmission and its acknowledgement. The transmission queue holds some of the chunks
of the retransmission queue; `enqueuedInTransmissionQ` is set where one is put in and
cleared where it is taken out, so here the flag is the queue. Times, the congestion
control and the choices of the scheduler come in as arguments. Counters that the
accounting does not read (`sendBuffer`, `peerRwnd`, `roomRetransQ`, statistics) are left out.
-/
namespace Inet.Sctp.Sender

/-- The paths are numbered in the order of `sctpPathMap`. -/
abbrev PathId := Nat

inductive Counter where
  /-- `state->outstandingBytes` -/
  | outstandingBytes
  /-- `state->queuedSentBytes` -/
  | queuedSentBytes
  /-- `path->outstandingBytes` -/
  | pathOutstandingBytes (path : PathId)
  /-- `path->queuedBytes` -/
  | pathQueuedBytes (path : PathId)
  | roomTransQ (path : PathId)
  | bookedTransQ (path : PathId)
  deriving DecidableEq, Repr

abbrev Books := Counter → Nat

/-- `uint64` for the counters of the association, `uint32` for those of a path. -/
def Counter.size : Counter → Nat
  | .outstandingBytes | .queuedSentBytes => 2 ^ 64
  | _ => 2 ^ 32

def Books.add (b : Books) (i : Counter) (n : Nat) : Books := Function.update b i ((b i + n) % i.size)

def Books.sub (b : Books) (i : Counter) (n : Nat) : Books := Function.update b i ((b i + (i.size - n % i.size)) % i.size)

inductive PrMethod where
  | PR_NONE
  | PR_TTL
  | PR_RTX
  | PR_PRIO
  deriving DecidableEq, Repr

structure SCTPDataVariables extends Sctp.SCTPDataVariables where
  prMethod : PrMethod := .PR_NONE
  expiryTime : Nat := 0
  allowedNoRetransmissions : Nat := 0
  gapReports : Nat := 0
  numberOfTransmissions : Nat := 0
  numberOfRetransmissions : Nat := 0
  enqueuedInTransmissionQ : Bool := false
  countsAsOutstanding : Bool := false
  hasBeenFastRetransmitted : Bool := false
  hasBeenTimerBasedRtxed : Bool := false
  hasBeenAbandoned : Bool := false
  sendForwardIfAbandoned : Bool := false
  hasBeenReneged : Bool := false
  hasBeenAcked : Bool := false
  hasBeenMoved : Bool := false
  initialDestination : Option PathId := none
  lastDestination : Option PathId := none
  nextDestination : Option PathId := none
  queuedOnPath : Option PathId := none
  ackedOnPath : Option PathId := none
  deriving DecidableEq, Repr

/-- The bytes that a chunk takes in a packet. -/
def SCTPDataVariables.room (chunk : SCTPDataVariables) : Nat := ADD_PADDING (chunk.userData.length + SCTP_DATA_CHUNK_LENGTH)

def deref {α : Type} (pointer : Option α) (name : String) : Sim α :=
  match pointer with
  | some a => .ok a
  | none => .error (.nullPointer name)

def increaseOutstandingBytes (b : Books) (chunk : SCTPDataVariables) (path : PathId) : Books :=
  (b.add (.pathOutstandingBytes path) chunk.booksize).add .outstandingBytes chunk.booksize

def decreaseOutstandingBytes (b : Books) (chunk : SCTPDataVariables) : Sim (Books × SCTPDataVariables) :=
  if chunk.countsAsOutstanding then do
    let lastPath ← deref chunk.lastDestination "lastPath"
    ensure (chunk.booksize ≤ b (.pathOutstandingBytes lastPath)) "lastPath->outstandingBytes >= chunk->booksize"
    let b' := (b.sub (.pathOutstandingBytes lastPath) chunk.booksize).sub .outstandingBytes chunk.booksize
    ensure (b' .outstandingBytes < 2 ^ 63) "(int64)state->outstandingBytes >= 0"
    .ok (b', { chunk with countsAsOutstanding := false })
  else .ok (b, chunk)

/-- What follows a successful insertion into the transmission queue. -/
def bookInTransmissionQ (b : Books) (chunk : SCTPDataVariables) : Sim (Books × SCTPDataVariables) := do
  let path ← deref chunk.nextDestination "qCounter.roomTransQ.find(chunk->getNextDestination())"
  .ok ((b.add (.roomTransQ path) chunk.room).add (.bookedTransQ path) chunk.booksize,
    { chunk with enqueuedInTransmissionQ := true })

/-- A chunk that is taken out of the transmission queue because it has been acknowledged. -/
def dropFromTransmissionQ (b : Books) (chunk : SCTPDataVariables) : Sim (Books × SCTPDataVariables) :=
  if chunk.enqueuedInTransmissionQ then do
    let path ← deref chunk.nextDestination "qCounter.roomTransQ.find(chunk->getNextDestination())"
    .ok ((b.sub (.roomTransQ path) chunk.room).sub (.bookedTransQ path) chunk.booksize,
      { chunk with enqueuedInTransmissionQ := false })
  else .ok (b, chunk)

/-- The chunk itself is deleted. -/
def nonRenegablyAckChunk (b : Books) (chunk : SCTPDataVariables) (sackPath : PathId) : Sim Books := do
  ensure (chunk.lastDestination ≠ none) "lastPath != NULL"
  let queuedOnPath ← deref chunk.queuedOnPath "chunk->queuedOnPath"
  ensure (chunk.booksize ≤ b (.pathQueuedBytes queuedOnPath)) "chunk->queuedOnPath->queuedBytes >= chunk->booksize"
  let b := b.sub (.pathQueuedBytes queuedOnPath) chunk.booksize
  let chunk := { chunk with queuedOnPath := none }
  ensure (chunk.booksize ≤ b .queuedSentBytes) "state->queuedSentBytes >= chunk->booksize"
  let b := b.sub .queuedSentBytes chunk.booksize
  let (b, chunk) ← if chunk.hasBeenAcked then .ok (b, chunk) else decreaseOutstandingBytes b chunk
  let (b, _) ← dropFromTransmissionQ b { chunk with hasBeenAcked := true, ackedOnPath := some sackPath }
  .ok b

def renegablyAckChunk (b : Books) (chunk : SCTPDataVariables) (sackPath : PathId) : Sim (Books × SCTPDataVariables) := do
  let (b, chunk) ← decreaseOutstandingBytes b chunk
  dropFromTransmissionQ b { chunk with hasBeenAcked := true, ackedOnPath := some sackPath, gapReports := 0 }

def moveChunkToOtherPath (b : Books) (chunk : SCTPDataVariables) (newPath : PathId) : Sim (Books × SCTPDataVariables) := do
  let (b, chunk) ← decreaseOutstandingBytes b chunk
  let chunk := { chunk with hasBeenFastRetransmitted := false, gapReports := 0, nextDestination := some newPath }
  let queuedOnPath ← deref chunk.queuedOnPath "chunk->queuedOnPath"
  ensure (chunk.booksize ≤ b (.pathQueuedBytes queuedOnPath)) "chunk->queuedOnPath->queuedBytes >= chunk->booksize"
  let b := (b.sub (.pathQueuedBytes queuedOnPath) chunk.booksize).add (.pathQueuedBytes newPath) chunk.booksize
  let chunk := { chunk with queuedOnPath := some newPath }
  if chunk.enqueuedInTransmissionQ then .ok (b, chunk) else bookInTransmissionQ b chunk

def putInTransmissionQ (b : Books) (chunk : SCTPDataVariables) : Sim (Books × SCTPDataVariables) := do
  let (b, chunk) ← decreaseOutstandingBytes b chunk
  if chunk.enqueuedInTransmissionQ then .ok (b, chunk)
  else bookInTransmissionQ b { chunk with hasBeenFastRetransmitted := true, nextDestination := chunk.lastDestination }

/-- The flag `hasBeenAbandoned` of the chunk is the value that is returned. -/
def chunkMustBeAbandoned (simTime : Nat) (b : Books) (chunk : SCTPDataVariables) : Sim (Books × SCTPDataVariables) :=
  match chunk.prMethod with
  | .PR_TTL =>
    if 0 < chunk.expiryTime ∧ chunk.expiryTime ≤ simTime ∧ ¬ chunk.hasBeenAbandoned then
      .ok (b, { chunk with hasBeenAbandoned := true, sendForwardIfAbandoned := true })
    else .ok (b, chunk)
  | .PR_RTX =>
    if chunk.allowedNoRetransmissions ≤ chunk.numberOfRetransmissions ∧ ¬ chunk.hasBeenAbandoned then do
      let (b, chunk) ← decreaseOutstandingBytes b { chunk with hasBeenAbandoned := true, sendForwardIfAbandoned := true }
      .ok (b, { chunk with countsAsOutstanding := false })
    else .ok (b, chunk)
  | _ => .ok (b, chunk)

/-- The part of `peekAbandonedChunk` that applies the policies. -/
def applyPolicies (simTime : Nat) (chunk : SCTPDataVariables) : SCTPDataVariables :=
  if ¬ chunk.hasBeenAbandoned ∧ ¬ chunk.hasBeenAcked ∧ (chunk.hasBeenFastRetransmitted ∨ chunk.hasBeenTimerBasedRtxed) then
    match chunk.prMethod with
    | .PR_TTL =>
      if 0 < chunk.expiryTime ∧ chunk.expiryTime ≤ simTime then { chunk with hasBeenAbandoned := true } else chunk
    | .PR_RTX =>
      if chunk.hasBeenFastRetransmitted ∧ chunk.allowedNoRetransmissions ≤ chunk.numberOfRetransmissions then
        { chunk with hasBeenAbandoned := true }
      else chunk
    | _ => chunk
  else chunk

end Inet.Sctp.Sender
