import Inetmanet.Simulation
import Inetmanet.Lib.Runs
import Inetmanet.Sctp.Tsn

/-!
# The send queues of an SCTP association

`SCTPAssociationEventProc.cc`, `SCTPAssociationUtil.cc`, `SCTPAssociationSendAll.cc`:
how a user message is queued, cut into fragments, taken from its queue and numbered.
The encapsulated message is its data. Counters that only measure the queues, the
attributes of partial reliability and the choice of a path are left out.
-/
namespace Inet.Sctp

def IP_HEADER_LENGTH : Int := 20
def SCTP_COMMON_HEADER : Int := 12
def SCTP_DATA_CHUNK_LENGTH : Nat := 16

def ADD_PADDING (x : Nat) : Nat := (x + 3) / 4 * 4

/-- The conversion to `int32`. -/
def int32 (x : Nat) : Int := (BitVec.ofNat 32 x).toInt

/-- `msgNum` tells the messages of an association apart, so it is not taken modulo 2^32. -/
structure SCTPDataMsg where
  sid : Nat
  msgNum : Nat
  ordered : Bool
  data : List (BitVec 8)
  booksize : Nat
  fragment : Bool := false
  bBit : Bool := false
  eBit : Bool := false
  deriving DecidableEq, Repr

structure SCTPDataVariables where
  tsn : Tsn := 0
  sid : Nat
  ssn : Nat
  ordered : Bool
  bbit : Bool
  ebit : Bool
  booksize : Nat
  userData : List (BitVec 8)
  deriving DecidableEq, Repr

structure SCTPSendStream where
  nextStreamSeqNum : Nat := 0
  streamQ : List SCTPDataMsg := []
  unorderedStreamQ : List SCTPDataMsg := []
  deriving DecidableEq, Repr

/-- The stream with the id `sid` is in the map if `sid < outboundStreams`. -/
structure SCTPAssociation where
  outboundStreams : Nat
  sendStreams : Nat → SCTPSendStream := fun _ => {}
  assocPmtu : BitVec 32
  padding : Bool
  header : Nat
  lastMsgWasFragment : Bool := false
  lastStreamScheduled : Nat := 0
  msgNum : Nat := 0
  nextTSN : Tsn

/-- The length of the DATA chunk, as it is compared with the room that is left. -/
def SCTPDataMsg.chunkLength (m : SCTPDataMsg) : Int := int32 (ADD_PADDING (m.data.length + SCTP_DATA_CHUNK_LENGTH))

namespace SCTPAssociation

variable (a : SCTPAssociation)

def queue (sid : Nat) (ordered : Bool) : List SCTPDataMsg :=
  if ordered then (a.sendStreams sid).streamQ else (a.sendStreams sid).unorderedStreamQ

def setQueue (sid : Nat) (ordered : Bool) (q : List SCTPDataMsg) : SCTPAssociation :=
  { a with
    sendStreams := fun s =>
      if s = sid then
        if ordered then { a.sendStreams s with streamQ := q } else { a.sendStreams s with unorderedStreamQ := q }
      else a.sendStreams s }

def booksize (length : Nat) : Nat :=
  (if a.padding then ADD_PADDING (length + a.header) else length + a.header) % 2 ^ 32

/-- `process_SEND`, for a message that the send buffer has room for. -/
def process_SEND (sid : Nat) (ordered : Bool) (data : List (BitVec 8)) : Sim (SCTPDataMsg × SCTPAssociation) :=
  if sid < a.outboundStreams then
    let datMsg := { sid, ordered, data, msgNum := a.msgNum + 1, booksize := a.booksize data.length }
    .ok (datMsg, { a.setQueue sid ordered (a.queue sid ordered ++ [datMsg]) with msgNum := a.msgNum + 1 })
  else .error (.runtime "Stream with id %d not found")

/-- The chunk does not fit into a packet of its own. -/
def TooLong (m : SCTPDataMsg) : Prop := m.chunkLength > a.assocPmtu.toInt - IP_HEADER_LENGTH - SCTP_COMMON_HEADER
deriving Decidable

def fragmentOf (m : SCTPDataMsg) (bBit eBit : Bool) (data : List (BitVec 8)) : SCTPDataMsg :=
  { m with data, bBit, eBit, fragment := true, booksize := a.booksize data.length }

/-- The fragments of what is left of a message, of `msgbytes` bytes each and the last one with the rest. -/
def fragments (m : SCTPDataMsg) (msgbytes : Nat) : Nat → Bool → List (BitVec 8) → List SCTPDataMsg
  | 0, _, _ => []
  | fuel + 1, bBit, data =>
    if data.length ≤ msgbytes then [a.fragmentOf m bBit true data]
    else a.fragmentOf m bBit false (data.take msgbytes) :: fragments m msgbytes fuel false (data.drop msgbytes)

/-- The fragmentation of the message in front of the queue. Fragments without payload would never get to its end. -/
def fragmentFront (sid : Nat) (ordered : Bool) (m : SCTPDataMsg) (q : List SCTPDataMsg) : Sim SCTPAssociation :=
  let msgbytes := (a.assocPmtu - 48).toNat
  if msgbytes = 0 ∧ m.data ≠ [] then .error .diverges
  else
    .ok { a.setQueue sid ordered (a.fragments m msgbytes (m.data.length + 1) true m.data ++ q) with
      lastMsgWasFragment := true }

/-- The front of the queue is taken out if the packet and the congestion window have room for it. -/
def popFront (sid : Nat) (ordered : Bool) (availableSpace availableCwnd : Int) : Option SCTPDataMsg × SCTPAssociation :=
  match a.queue sid ordered with
  | [] => (none, a)
  | m :: q =>
    if m.chunkLength ≤ availableSpace ∧ int32 m.booksize ≤ availableCwnd then
      if m.fragment then (some m, { a.setQueue sid ordered q with lastMsgWasFragment := !m.eBit })
      else (some { m with bBit := true, eBit := true }, { a.setQueue sid ordered q with lastMsgWasFragment := false })
    else (none, a)

/-- The stream to send from. `scheduled` is what the stream scheduler returns and `recorded` the stream it leaves in
`lastStreamScheduled`. -/
def nextStream (scheduled : Option Nat) (recorded : Nat) : Option Nat × SCTPAssociation :=
  if a.lastMsgWasFragment then (some a.lastStreamScheduled, a)
  else (scheduled, { a with lastStreamScheduled := recorded })

/-- The queue of a stream that is looked at, with its first message. -/
def front (sid : Nat) : Option (Bool × SCTPDataMsg × List SCTPDataMsg) :=
  if sid < a.outboundStreams then
    match (a.sendStreams sid).unorderedStreamQ, (a.sendStreams sid).streamQ with
    | m :: q, _ => some (false, m, q)
    | [], m :: q => some (true, m, q)
    | [], [] => none
  else none

def dequeueOutboundDataMsg (scheduled : Option Nat) (recorded : Nat) (availableSpace availableCwnd : Int) :
    Sim (Option SCTPDataMsg × SCTPAssociation) :=
  match a.nextStream scheduled recorded with
  | (none, a) => .ok (none, a)
  | (some sid, a) =>
    match a.front sid with
    | none => .ok (none, a)
    | some (ordered, m, q) =>
      if a.TooLong m then
        match a.fragmentFront sid ordered m q with
        | .ok a => .ok (a.popFront sid ordered availableSpace availableCwnd)
        | .error e => .error e
      else .ok (a.popFront sid ordered availableSpace availableCwnd)

def setNextStreamSeqNum (sid num : Nat) : SCTPAssociation :=
  { a with
    sendStreams := fun s => if s = sid then { a.sendStreams s with nextStreamSeqNum := num } else a.sendStreams s }

def makeDataVarFromDataMsg (datMsg : SCTPDataMsg) : SCTPDataVariables × SCTPAssociation :=
  let datVar : SCTPDataVariables :=
    { sid := datMsg.sid, ssn := 0, ordered := datMsg.ordered, bbit := datMsg.bBit, ebit := datMsg.eBit,
      booksize := datMsg.booksize, userData := datMsg.data }
  if datMsg.ordered then
    let ssn := (a.sendStreams datMsg.sid).nextStreamSeqNum
    let nextSSN := if datMsg.eBit then ssn + 1 else ssn
    ({ datVar with ssn }, a.setNextStreamSeqNum datMsg.sid (if nextSSN > 65535 then 0 else nextSSN))
  else (datVar, a)

/-- The part of `sendOnPath` that takes a new chunk: it gets the next TSN. -/
def sendChunk (scheduled : Option Nat) (recorded : Nat) (availableSpace availableCwnd : Int) :
    Sim (Option (SCTPDataMsg × SCTPDataVariables) × SCTPAssociation) :=
  match a.dequeueOutboundDataMsg scheduled recorded availableSpace availableCwnd with
  | .error e => .error e
  | .ok (none, a) => .ok (none, a)
  | .ok (some datMsg, a) =>
    let (datVar, a) := a.makeDataVarFromDataMsg datMsg
    .ok (some (datMsg, { datVar with tsn := a.nextTSN }), { a with nextTSN := a.nextTSN + 1 })

end SCTPAssociation

end Inet.Sctp
