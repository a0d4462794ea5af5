import Inetmanet.Tcp.MsgBasedQueues
import Inetmanet.Tcp.ReceiveWindow
import Inetmanet.Tcp.TCPBaseAlg

/-!
# A connection

`TCPConnection` with both of its halves: the state machine, the options of arriving segments
and those of departing ones, and the segments that are sent without text. The algorithm is
one of those derived from `TCPBaseAlg`.
-/
namespace Inet.Tcp

namespace Fsm

inductive Event where
  | ignore
  | openActive | openPassive | send | close | abort | status | queueBytesLimit
  | rcvData | rcvAck | rcvSyn | rcvSynAck | rcvFin | rcvFinAck | rcvRst | rcvUnexpSyn
  | timeout2MSL | timeoutConnEstab | timeoutFinWait2
  deriving DecidableEq, Repr

/-- `performStateTransition`; `active` tells whether the connection was opened actively. -/
def transition (active : Bool) : State → Event → State
  | .init, .openPassive => .listen
  | .init, .openActive => .synSent
  | .listen, .openActive | .listen, .send => .synSent
  | .listen, .close | .listen, .abort => .closed
  | .listen, .rcvSyn => .synRcvd
  | .synRcvd, .close => .finWait1
  | .synRcvd, .abort | .synRcvd, .rcvUnexpSyn => .closed
  | .synRcvd, .timeoutConnEstab | .synRcvd, .rcvRst => if active then .closed else .listen
  | .synRcvd, .rcvAck => .established
  | .synRcvd, .rcvFin => .closeWait
  | .synSent, .close | .synSent, .abort | .synSent, .timeoutConnEstab | .synSent, .rcvRst => .closed
  | .synSent, .rcvSynAck => .established
  | .synSent, .rcvSyn => .synRcvd
  | .established, .close => .finWait1
  | .established, .rcvFin => .closeWait
  | .established, .abort | .established, .rcvRst | .established, .rcvUnexpSyn => .closed
  | .closeWait, .close => .lastAck
  | .closeWait, .abort | .closeWait, .rcvRst | .closeWait, .rcvUnexpSyn => .closed
  | .lastAck, .abort | .lastAck, .rcvAck | .lastAck, .rcvRst | .lastAck, .rcvUnexpSyn => .closed
  | .finWait1, .rcvFin => .closing
  | .finWait1, .rcvAck => .finWait2
  | .finWait1, .rcvFinAck => .timeWait
  | .finWait1, .abort | .finWait1, .rcvRst | .finWait1, .rcvUnexpSyn => .closed
  | .finWait2, .rcvFin => .timeWait
  | .finWait2, .abort | .finWait2, .timeoutFinWait2 | .finWait2, .rcvRst | .finWait2, .rcvUnexpSyn => .closed
  | .closing, .rcvAck => .timeWait
  | .closing, .abort | .closing, .rcvRst | .closing, .rcvUnexpSyn => .closed
  | .timeWait, .abort | .timeWait, .timeout2MSL | .timeWait, .rcvRst | .timeWait, .rcvUnexpSyn => .closed
  | state, _ => state

theorem transition_ignore (active : Bool) (state : State) : transition active state .ignore = state := by
  cases state <;> rfl

end Fsm

/-- The receive queues of the three transfer modes. -/
class RcvQueue (Q : Type) where
  init : SeqNo → Q → Q
  insertBytesFromSegment : Q → TCPSegment → Sim Q
  /-- All of them keep regions, which the queries look at. -/
  regions : Q → TCPVirtualDataRcvQueue Region
  regions_init : ∀ startSeq q, regions (init startSeq q) = .init startSeq

instance {ρ : Type} [RegionClass ρ] : RcvQueue (TCPVirtualDataRcvQueue ρ) where
  init startSeq _ := .init startSeq
  insertBytesFromSegment := TCPVirtualDataRcvQueue.insertBytesFromSegment
  regions q := ⟨q.rcvNxt, q.regionList.map fun r => ⟨RegionClass.getBegin r, RegionClass.getEnd r⟩⟩
  regions_init _ _ := rfl

instance : RcvQueue TCPMsgBasedRcvQueue where
  init startSeq q := { q with toTCPVirtualDataRcvQueue := .init startSeq }
  insertBytesFromSegment := TCPMsgBasedRcvQueue.insertBytesFromSegment
  regions := TCPMsgBasedRcvQueue.toTCPVirtualDataRcvQueue
  regions_init _ _ := rfl

/-- The state variables with those of the options. The last four are counters, which nothing reads. -/
structure Tcb extends SenderState where
  sndWs : Bool := false
  rcvWs : Bool := false
  rcvWndScale : Nat := 0
  sndWndScale : SeqNo := 0
  sndInitialTs : Bool := false
  rcvInitialTs : Bool := false
  tsRecent : SeqNo := 0
  lastAckSent : SeqNo := 0
  timeLastDataSent : Int := 0
  sndSackPerm : Bool := false
  rcvSackPerm : Bool := false
  sackedBytes : SeqNo := 0
  sackedBytesOld : SeqNo := 0
  sndSacks : Nat := 0
  rcvSacks : Nat := 0
  rcvNaseg : Nat := 0
  tcpRcvQueueDrops : Nat := 0
  deriving DecidableEq, Repr

structure SockPair where
  localAddr : Nat
  remoteAddr : Nat
  localPort : Nat
  remotePort : Nat
  deriving DecidableEq, Repr

/-- The calls that register a connection with the TCP module. -/
inductive MainCall where
  | addForkedConnection (sockPair : SockPair)
  | updateSockPair (sockPair : SockPair)
  deriving DecidableEq, Repr

structure Connection (Q : Type) where
  simTime : Int
  fsm : Fsm.State
  state : Tcb
  sendQueue : TCPSendQueue
  rexmitQueue : TCPSACKRexmitQueue
  receiveQueue : Q
  sockPair : SockPair := ⟨0, 0, 0, 0⟩
  delayedAckTimer : Bool := false
  synRexmitTimer : Bool := false
  connEstabTimer : Bool := false
  /-- the last first -/
  calls : List MainCall := []
  /-- the last first -/
  sent : List TCPSegment := []
  deriving DecidableEq, Repr

namespace Connection

variable {Q : Type}

def setState (conn : Connection Q) (state : Tcb) : Connection Q := { conn with state := state }

def TCPOPTION_NO_OPERATION : Nat := 1
def TCPOPTION_MAXIMUM_SEGMENT_SIZE : Nat := 2
def TCPOPTION_WINDOW_SCALE : Nat := 3
def TCPOPTION_SACK_PERMITTED : Nat := 4
def TCPOPTION_SACK : Nat := 5
def TCPOPTION_TIMESTAMP : Nat := 8

def PAWS_IDLE_TIME_THRESH : Int := 24 * 24 * 3600 * second

def idle (conn : Connection Q) : Int := conn.simTime - conn.state.timeLastDataSent

def processMSSOption (conn : Connection Q) (option : TCPOption) : Sim (Connection Q) :=
  if option.length ≠ 4 ∨ ¬ conn.fsm.Opening then .ok conn
  else match option.values with
    | [] => .error (.runtime "TCPOption for MSS does not contain the data its getLength() promises")
    | value :: _ =>
      let sndMss := if value < conn.state.sndMss then value else conn.state.sndMss
      .ok (conn.setState { conn.state with sndMss := if sndMss = 0 then 536 else sndMss })

def processWSOption (conn : Connection Q) (option : TCPOption) : Sim (Connection Q) :=
  if option.length ≠ 3 ∨ ¬ conn.fsm.Opening then .ok conn
  else match option.values with
    | [] => .error (.runtime "TCPOption for WS does not contain the data its getLength() promises")
    | value :: _ =>
      .ok (conn.setState { conn.state with
        rcvWs := true
        wsEnabled := conn.state.wsSupport && conn.state.sndWs
        sndWndScale := if value > 14 then 14 else value })

/-- Is a timestamp taken over, with a segment that begins at `sequenceNo`? -/
def Records (conn : Connection Q) (sequenceNo tsval : SeqNo) : Prop :=
  ¬ seqLess tsval conn.state.tsRecent ∧ seqLE sequenceNo conn.state.lastAckSent
deriving Decidable

/-- Timestamps are agreed on in SYN segments, and then looked at as long as text is exchanged. -/
def ExpectsTS (conn : Connection Q) : Prop :=
  if conn.state.tsEnabled then conn.fsm.Synchronized else conn.fsm.Opening

instance (conn : Connection Q) : Decidable conn.ExpectsTS := by
  unfold ExpectsTS
  infer_instance

def enableTS (conn : Connection Q) : Connection Q :=
  if conn.state.tsEnabled then conn
  else conn.setState { conn.state with
    rcvInitialTs := true, tsEnabled := conn.state.tsSupport && conn.state.sndInitialTs }

/-- A timestamp that is older than `ts_recent` is not recorded, whether the connection has been idle or not. -/
def updateTsRecent (conn : Connection Q) (sequenceNo tsval : SeqNo) : Connection Q :=
  if conn.state.tsEnabled = true ∧ conn.Records sequenceNo tsval then
    conn.setState { conn.state with tsRecent := tsval }
  else conn

def processTSOption (conn : Connection Q) (tcpseg : TCPSegment) (option : TCPOption) : Sim (Connection Q) :=
  if option.length ≠ 10 ∨ ¬ conn.ExpectsTS then .ok conn
  else match option.values with
    | [tsval, _] => .ok (conn.enableTS.updateTsRecent tcpseg.sequenceNo tsval)
    | _ => .error (.runtime "TCPOption for TS does not contain the data its getLength() promises")

def processSACKPermittedOption (conn : Connection Q) (option : TCPOption) : Sim (Connection Q) :=
  if option.length ≠ 2 ∨ ¬ conn.fsm.Opening then .ok conn
  else .ok (conn.setState { conn.state with
    rcvSackPerm := true, sackEnabled := conn.state.sackSupport && conn.state.sndSackPerm })

/-- The blocks of a SACK option: its values two by two. -/
def sackBlocks : List SeqNo → List Sack
  | start :: end_ :: values => ⟨start, end_⟩ :: sackBlocks values
  | _ => []

/-- Is the block one of octets that have not been acknowledged? -/
def Counts (sndUna ackNo : SeqNo) (tmp : Sack) : Prop := seqGreater tmp.end_ ackNo ∧ seqGreater tmp.end_ sndUna
deriving Decidable

def setSackedBits (sndUna ackNo : SeqNo) (blocks : List Sack) (q : TCPSACKRexmitQueue) : Sim TCPSACKRexmitQueue :=
  blocks.foldlM (fun q tmp => if Counts sndUna ackNo tmp then q.setSackedBit tmp.start tmp.end_ else .ok q) q

/-- D-SACK blocks are recognized, and nothing is done about them. -/
def processSACKOption (conn : Connection Q) (tcpseg : TCPSegment) (option : TCPOption) : Sim (Connection Q) :=
  let blocks := sackBlocks option.values
  if option.length % 8 ≠ 2 ∨ conn.state.sackEnabled = false ∨ ¬ conn.fsm.Synchronized ∨ blocks = [] then .ok conn
  else do
    let q ← setSackedBits conn.state.sndUna tcpseg.ackNo blocks conn.rexmitQueue
    return { conn with
      rexmitQueue := q
      state := { conn.state with
        rcvSacks := conn.state.rcvSacks + blocks.length
        sackedBytesOld := conn.state.sackedBytes
        sackedBytes := q.getTotalAmountOfSackedBytes } }

def processOption (tcpseg : TCPSegment) (conn : Connection Q) (option : TCPOption) : Sim (Connection Q) :=
  if option.kind = TCPOPTION_MAXIMUM_SEGMENT_SIZE then conn.processMSSOption option
  else if option.kind = TCPOPTION_WINDOW_SCALE then conn.processWSOption option
  else if option.kind = TCPOPTION_SACK_PERMITTED then conn.processSACKPermittedOption option
  else if option.kind = TCPOPTION_SACK then conn.processSACKOption tcpseg option
  else if option.kind = TCPOPTION_TIMESTAMP then conn.processTSOption tcpseg option
  else .ok conn

def readHeaderOptions (conn : Connection Q) (tcpseg : TCPSegment) : Sim (Connection Q) :=
  tcpseg.options.foldlM (processOption tcpseg) conn

def optionsLength (options : List TCPOption) : Nat := (options.map TCPOption.length).sum

def nop : TCPOption := ⟨TCPOPTION_NO_OPERATION, 1, []⟩

def timestampOption (conn : Connection Q) (ackBit : Bool) : TCPOption :=
  ⟨TCPOPTION_TIMESTAMP, 10, [TCPBaseAlg.convertSimtimeToTS conn.simTime, if ackBit then conn.state.tsRecent else 0]⟩

/-- The NOPs and the option that `addSacks` writes. -/
def sackOptions (option : SackOption) : List TCPOption :=
  List.replicate option.nops nop ++
    [⟨TCPOPTION_SACK, 8 * option.blocks.length + 2, option.blocks.flatMap fun it => [it.start, it.end_]⟩]

/-- Are options offered in a SYN? `received` tells whether the other side has offered them. -/
def Offers (conn : Connection Q) (support received : Bool) : Prop :=
  support = true ∧ (received = true ∨ conn.fsm = .init ∨ conn.fsm = .synSent ∧ conn.state.synRexmitCount > 0)
deriving Decidable

section Writing

variable [RcvQueue Q]

open RcvQueue

def writeMSS (conn : Connection Q) (options : List TCPOption) : List TCPOption :=
  if conn.state.sndMss > 0 then options ++ [⟨TCPOPTION_MAXIMUM_SEGMENT_SIZE, 4, [conn.state.sndMss]⟩] else options

def writeWS (conn : Connection Q) (options : List TCPOption) : Connection Q × List TCPOption :=
  if conn.Offers conn.state.wsSupport conn.state.rcvWs then
    let scaledRcvWnd := (regions conn.receiveQueue).getFirstSeqNo + conn.state.maxRcvBuffer - conn.state.rcvNxt
    let rcvWndScale := shiftCount 14 (scaledRcvWnd.setWidth 64)
    (conn.setState { conn.state with
        rcvWndScale := rcvWndScale, sndWs := true, wsEnabled := conn.state.wsSupport && conn.state.rcvWs },
      options ++ [nop, ⟨TCPOPTION_WINDOW_SCALE, 3, [BitVec.ofNat 32 rcvWndScale]⟩])
  else (conn, options)

def writeSACKPermitted (conn : Connection Q) (options : List TCPOption) : Connection Q × List TCPOption :=
  if conn.Offers conn.state.sackSupport conn.state.rcvSackPerm then
    (conn.setState { conn.state with
        sndSackPerm := true, sackEnabled := conn.state.sackSupport && conn.state.rcvSackPerm },
      options ++ (if conn.state.tsSupport then [] else [nop, nop]) ++ [⟨TCPOPTION_SACK_PERMITTED, 2, []⟩])
  else (conn, options)

def writeInitialTS (conn : Connection Q) (ackBit : Bool) (options : List TCPOption) : Connection Q × List TCPOption :=
  if conn.Offers conn.state.tsSupport conn.state.rcvInitialTs then
    (conn.setState { conn.state with
        sndInitialTs := true, tsEnabled := conn.state.tsSupport && conn.state.rcvInitialTs },
      options ++ (if conn.state.sackSupport then [] else [nop, nop]) ++ [conn.timestampOption ackBit])
  else (conn, options)

/-- Does a segment report blocks? -/
def ReportsSacks (conn : Connection Q) : Prop :=
  conn.state.sackEnabled = true ∧ (conn.state.sndSack = true ∨ conn.state.sndDsack = true)
deriving Decidable

def writeTS (conn : Connection Q) (ackBit : Bool) : List TCPOption :=
  if conn.state.tsEnabled then
    (if conn.ReportsSacks then [] else [nop, nop]) ++ [conn.timestampOption ackBit]
  else []

def writeSACKs (conn : Connection Q) (options : List TCPOption) : Sim (Connection Q × List TCPOption) :=
  if conn.ReportsSacks then do
    let (state, option) ← conn.state.addSacks (regions conn.receiveQueue) (optionsLength options)
    let conn := conn.setState { conn.state with toTCPStateVariables := state }
    match option with
    | none => return (conn, options)
    | some option =>
      return (conn.setState { conn.state with sndSacks := conn.state.sndSacks + option.blocks.length },
        options ++ sackOptions option)
  else .ok (conn, options)

def IsInitial (conn : Connection Q) (synBit : Bool) : Prop :=
  synBit = true ∧ (conn.fsm = .init ∨ conn.fsm = .listen ∨
    (conn.fsm = .synSent ∨ conn.fsm = .synRcvd) ∧ conn.state.synRexmitCount > 0)
deriving Decidable

def chooseOptions (conn : Connection Q) (tcpseg : TCPSegment) : Sim (Connection Q × List TCPOption) :=
  if conn.IsInitial tcpseg.synBit then
    let (conn, options) := conn.writeWS (conn.writeMSS [])
    let (conn, options) := conn.writeSACKPermitted options
    .ok (conn.writeInitialTS tcpseg.ackBit options)
  else if conn.fsm = .synSent ∨ conn.fsm.Synchronized then conn.writeSACKs (conn.writeTS tcpseg.ackBit)
  else .ok (conn, [])

/-- All options are dropped if they are too long. -/
def setOptions (tcpseg : TCPSegment) (options : List TCPOption) : TCPSegment :=
  if optionsLength options ≤ tcpOptionsMaxSize then
    { tcpseg with options := options, headerLength := tcpHeaderOctets + optionsLength options }
  else { tcpseg with options := [], headerLength := tcpHeaderOctets }

def writeHeaderOptions (conn : Connection Q) (tcpseg : TCPSegment) : Sim (Connection Q × TCPSegment) := do
  let (conn, options) ← conn.chooseOptions tcpseg
  return (conn, setOptions tcpseg options)

def updateRcvQueueVars (conn : Connection Q) : Connection Q :=
  let freeRcvBuffer := (regions conn.receiveQueue).getAmountOfFreeBytes conn.state.maxRcvBuffer
  conn.setState { conn.state with
    freeRcvBuffer := freeRcvBuffer, usedRcvBuffer := conn.state.maxRcvBuffer - freeRcvBuffer }

/-- Returns the value for the header. -/
def updateRcvWnd (conn : Connection Q) : Sim (Connection Q × SeqNo) := do
  let conn := conn.updateRcvQueueVars
  let win := conn.state.windowFor
  let rcvAdv := if win > 0 ∧ seqGE (conn.state.rcvNxt + win) conn.state.rcvAdv then conn.state.rcvNxt + win
    else conn.state.rcvAdv
  let conn := conn.setState { conn.state with rcvAdv := rcvAdv, rcvWnd := win }
  ensure (conn.state.wsEnabled = true → conn.state.rcvWndScale ≤ 14) "state->rcv_wnd_scale <= 14"
  let scaledRcvWnd := if conn.state.wsEnabled then win >>> conn.state.rcvWndScale else win
  ensure ((scaledRcvWnd.setWidth 16).setWidth 32 = scaledRcvWnd) "scaled_rcv_wnd == (unsigned short)scaled_rcv_wnd"
  return (conn, scaledRcvWnd)

def sendToIP (conn : Connection Q) (tcpseg : TCPSegment) : Connection Q :=
  let tcpseg := { tcpseg with srcPort := conn.sockPair.localPort, destPort := conn.sockPair.remotePort }
  { conn with
    state := { conn.state with sentBytes := BitVec.ofNat 32 tcpseg.payloadLength }
    sent := tcpseg :: conn.sent }

/-- The algorithm is told that an ACK has been sent. -/
def ackSent (conn : Connection Q) : Connection Q :=
  { conn with
    state := { conn.state with fullSizedSegmentCounter := 0, ackNow := false, lastAckSent := conn.state.rcvNxt }
    delayedAckTimer := false }

def sendAck (conn : Connection Q) : Sim (Connection Q) := do
  let (conn, window) ← conn.updateRcvWnd
  let (conn, tcpseg) ← conn.writeHeaderOptions
    { ackBit := true, sequenceNo := conn.state.sndNxt, ackNo := conn.state.rcvNxt, window := window.toNat }
  return (conn.sendToIP tcpseg).ackSent

/-- The window in the header is not scaled, and cut off to 16 bits. -/
def sendSynAck (conn : Connection Q) : Sim (Connection Q) := do
  let (conn, _) ← conn.updateRcvWnd
  let synAck : TCPSegment :=
    { synBit := true, ackBit := true, sequenceNo := conn.state.iss, ackNo := conn.state.rcvNxt,
      window := conn.state.rcvWnd.toNat % 2 ^ 16 }
  let conn := conn.setState { conn.state with sndMax := conn.state.iss + 1, sndNxt := conn.state.iss + 1 }
  let (conn, tcpseg) ← conn.writeHeaderOptions synAck
  return (conn.sendToIP tcpseg).ackSent

end Writing

end Connection

end Inet.Tcp
