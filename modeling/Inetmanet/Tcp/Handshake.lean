import Inetmanet.Tcp.Connection
import Inetmanet.Lib.Ensures

/-!
# The handshake

`processSegmentInListen` and `processSegmentInSynSent`: what the arrival of a SYN does to a
connection, and the event that is returned for the state machine.
-/
namespace Inet.Tcp

/-- The parameters of the TCP module that `configureStateVariables` reads. -/
structure TCPParameters where
  advertisedWindow : Int
  windowScalingSupport : Bool
  delayedAcksEnabled : Bool
  nagleEnabled : Bool
  limitedTransmitEnabled : Bool
  increasedIWEnabled : Bool
  mss : SeqNo
  timestampSupport : Bool
  sackSupport : Bool
  tcpAlgorithmClass : String
  deriving DecidableEq, Repr

def TCPSendQueue.discardUpTo (sendQueue : TCPSendQueue) (seqNum : SeqNo) : Sim TCPSendQueue := do
  ensure (seqLE sendQueue.bufferStartSeq seqNum ∧ seqLE seqNum sendQueue.bufferEndSeq)
    "seqLE(begin, seqNum) && seqLE(seqNum, end)"
  return { sendQueue with bufferStartSeq := seqNum }

theorem not_seqLE_succ (a : SeqNo) : ¬ seqLE (a + 1) a := by
  rw [seqLE]
  bv_omega

namespace Connection

variable {Q : Type}

def configureStateVariables (conn : Connection Q) (par : TCPParameters) : Sim (Connection Q) := do
  if par.windowScalingSupport = false ∧ (par.advertisedWindow > 65535 ∨ par.advertisedWindow ≤ 0) then
    throw (.runtime "Invalid advertisedWindow parameter: %ld")
  let rcvWnd := if par.windowScalingSupport = true ∧ par.advertisedWindow > 65535 then tcpMaxWin
    else BitVec.ofInt 32 par.advertisedWindow
  ensure (par.sackSupport = true → par.tcpAlgorithmClass = "TCPReno") "false"
  return conn.setState { conn.state with
    wsSupport := par.windowScalingSupport
    rcvWnd := rcvWnd
    rcvAdv := rcvWnd
    maxRcvBuffer := BitVec.ofInt 32 par.advertisedWindow
    delayedAcksEnabled := par.delayedAcksEnabled
    nagleEnabled := par.nagleEnabled
    limitedTransmitEnabled := par.limitedTransmitEnabled
    increasedIWEnabled := par.increasedIWEnabled
    sndMss := par.mss
    tsSupport := par.timestampSupport
    sackSupport := par.sackSupport }

/-- What cloning does to the connection that is cloned: it is configured again, and gets a new retransmission queue. -/
def cloneListeningConnection (conn : Connection Q) (par : TCPParameters) : Sim (Connection Q) :=
  { conn with rexmitQueue := ⟨[], 0, 0⟩ }.configureStateVariables par

/-- The sockets of a segment as the receiver sees them. -/
def sockPairOf (tcpseg : TCPSegment) (srcAddr destAddr : Nat) : SockPair :=
  ⟨destAddr, srcAddr, tcpseg.destPort, tcpseg.srcPort⟩

def updateSockPair (conn : Connection Q) (sockPair : SockPair) (call : MainCall) : Sim (Connection Q) := do
  ensure (conn.sockPair.localPort = sockPair.localPort) "conn->localPort == localPort"
  return { conn with sockPair := sockPair, calls := call :: conn.calls }

/-- The foreign socket is filled in, in a new connection if the listener forks. -/
def bindOrFork (conn : Connection Q) (par : TCPParameters) (sockPair : SockPair) : Sim (Connection Q) :=
  if conn.state.fork then do
    let conn ← conn.cloneListeningConnection par
    conn.updateSockPair sockPair (.addForkedConnection sockPair)
  else conn.updateSockPair sockPair (.updateSockPair sockPair)

/-- `iss` is chosen from the time of the simulation. -/
def selectInitialSeqNum (conn : Connection Q) (iss : SeqNo) : Connection Q :=
  { conn with
    state := { conn.state with iss := iss, sndUna := iss, sndNxt := iss, sndMax := iss }
    sendQueue := ⟨iss + 1, iss + 1⟩
    rexmitQueue := { conn.rexmitQueue with beginNo := iss + 1, endNo := iss + 1 } }

/-- `updateWndInfo` with `doAlways`; the window of a SYN is not scaled. -/
def pickUpWindow (conn : Connection Q) (tcpseg : TCPSegment) : Connection Q :=
  conn.setState { conn.state with
    sndWnd := BitVec.ofNat 32 tcpseg.window, sndWl1 := tcpseg.sequenceNo, sndWl2 := tcpseg.ackNo }

def readSynOptions (conn : Connection Q) (tcpseg : TCPSegment) : Sim (Connection Q) :=
  if tcpseg.headerLength > tcpHeaderOctets then conn.readHeaderOptions tcpseg else .ok conn

def startSynRexmitTimer (conn : Connection Q) : Connection Q :=
  { conn with state := { conn.state with synRexmitCount := 0 }, synRexmitTimer := true }

/-- A RST for a segment, to where it came from. -/
def sendRst (conn : Connection Q) (tcpseg : TCPSegment) : Connection Q :=
  { conn with sent := { srcPort := tcpseg.destPort, destPort := tcpseg.srcPort, rstBit := true,
                        sequenceNo := tcpseg.ackNo } :: conn.sent }

section

variable [RcvQueue Q]

open RcvQueue

/-- The receive side starts behind the SYN. -/
def synReceived (conn : Connection Q) (tcpseg : TCPSegment) : Connection Q :=
  let rcvNxt := tcpseg.sequenceNo + 1
  { conn with
    state := { conn.state with rcvNxt := rcvNxt, rcvAdv := rcvNxt + conn.state.rcvWnd, irs := tcpseg.sequenceNo }
    receiveQueue := init rcvNxt conn.receiveQueue }

def HasEnoughSpace (conn : Connection Q) (tcpseg : TCPSegment) : Prop :=
  let firstSeq := (regions conn.receiveQueue).getFirstSeqNo
  seqLE firstSeq tcpseg.sequenceNo ∧ seqLE tcpseg.endNo (firstSeq + conn.state.maxRcvBuffer)
deriving Decidable

/-- Text of a SYN; there is none left to take if there is no space for it. -/
def takeSynText (conn : Connection Q) (tcpseg : TCPSegment) : Sim (Connection Q × Bool) :=
  if tcpseg.payloadLength > 0 then
    let conn := conn.updateRcvQueueVars
    if conn.HasEnoughSpace tcpseg then do
      let receiveQueue ← insertBytesFromSegment conn.receiveQueue tcpseg
      return ({ conn with receiveQueue := receiveQueue }, true)
    else .ok (conn.setState { conn.state with tcpRcvQueueDrops := conn.state.tcpRcvQueueDrops + 1 }, false)
  else .ok (conn, true)

def processSegmentInListen (conn : Connection Q) (par : TCPParameters) (iss : SeqNo) (tcpseg : TCPSegment)
    (srcAddr destAddr : Nat) : Sim (Connection Q × Fsm.Event) :=
  if tcpseg.rstBit then .ok (conn, .ignore)
  else if tcpseg.ackBit then .ok (conn.sendRst tcpseg, .ignore)
  else if tcpseg.synBit then do
    let conn ← conn.bindOrFork par (sockPairOf tcpseg srcAddr destAddr)
    let conn := ((conn.synReceived tcpseg).selectInitialSeqNum iss).pickUpWindow tcpseg
    let conn ← conn.readSynOptions tcpseg
    let conn ← (conn.setState { conn.state with ackNow := true }).sendSynAck
    let conn := { conn.startSynRexmitTimer with connEstabTimer := true }
    let (conn, taken) ← conn.takeSynText tcpseg
    return (conn, if taken then .rcvSyn else .ignore)
  else .ok (conn, .ignore)

def discardRexmits (conn : Connection Q) (seqNum : SeqNo) : Sim TCPSACKRexmitQueue :=
  if conn.state.sackEnabled then conn.rexmitQueue.discardUpTo seqNum else .ok conn.rexmitQueue

/-- The ACK that comes with a SYN. -/
def discardSyn (conn : Connection Q) (tcpseg : TCPSegment) : Sim (Connection Q) :=
  if tcpseg.ackBit then do
    let sendQueue ← conn.sendQueue.discardUpTo tcpseg.ackNo
    let rexmitQueue ← conn.discardRexmits tcpseg.ackNo
    let conn := { conn with
      state := { conn.state with sndUna := tcpseg.ackNo }, sendQueue := sendQueue, rexmitQueue := rexmitQueue }
    return conn.pickUpWindow tcpseg
  else .ok conn

/-- Does the segment acknowledge something that was not sent? -/
def HasWrongAckNo (conn : Connection Q) (tcpseg : TCPSegment) : Prop :=
  tcpseg.ackBit = true ∧ (seqLE tcpseg.ackNo conn.state.iss ∨ seqGreater tcpseg.ackNo conn.state.sndNxt)
deriving Decidable

/-- `established` is the method of the algorithm, which sends the ACK of the SYN and what waits to be sent. -/
def processSegmentInSynSent (established : Connection Q → Sim (Connection Q)) (conn : Connection Q)
    (tcpseg : TCPSegment) (srcAddr destAddr : Nat) : Sim (Connection Q × Fsm.Event) :=
  if conn.HasWrongAckNo tcpseg then .ok (if tcpseg.rstBit then conn else conn.sendRst tcpseg, .ignore)
  else if tcpseg.rstBit then .ok (conn, if tcpseg.ackBit then .rcvRst else .ignore)
  else if tcpseg.synBit then do
    let conn ← (conn.synReceived tcpseg).discardSyn tcpseg
    let sockPair := sockPairOf tcpseg srcAddr destAddr
    let conn ← conn.updateSockPair sockPair (.updateSockPair sockPair)
    if seqGreater conn.state.sndUna conn.state.iss then do
      let (conn, taken) ← conn.takeSynText tcpseg
      if taken then do
        let conn ← conn.readSynOptions tcpseg
        let conn ← established (conn.setState { conn.state with ackNow := true })
        return (conn, .rcvSynAck)
      else return (conn, .ignore)
    else do
      let conn := conn.setState { conn.state with sndMax := conn.state.iss, sndNxt := conn.state.iss }
      let conn ← conn.sendSynAck
      let (conn, taken) ← conn.startSynRexmitTimer.takeSynText tcpseg
      return (conn, if taken then .rcvSyn else .ignore)
  else .ok (conn, .ignore)

/-- The two cases of `process_RCV_SEGMENT` that belong to the handshake. -/
def processSegmentInHandshake (established : Connection Q → Sim (Connection Q)) (par : TCPParameters) (iss : SeqNo)
    (conn : Connection Q) (tcpseg : TCPSegment) (srcAddr destAddr : Nat) : Sim (Connection Q × Fsm.Event) :=
  if conn.fsm = .listen then conn.processSegmentInListen par iss tcpseg srcAddr destAddr
  else conn.processSegmentInSynSent established tcpseg srcAddr destAddr

end

section Aside

variable {Q : Type} {conn conn' conn'' : Connection Q} {tcpseg : TCPSegment}

/-- Neither the receive queue nor the TCP module is concerned. -/
structure Aside (conn conn' : Connection Q) : Prop where
  receiveQueue : conn'.receiveQueue = conn.receiveQueue
  calls : conn'.calls = conn.calls

theorem Aside.refl (conn : Connection Q) : Aside conn conn := ⟨rfl, rfl⟩

theorem Aside.trans (h : Aside conn conn') (h' : Aside conn' conn'') : Aside conn conn'' :=
  ⟨h'.1.trans h.1, h'.2.trans h.2⟩

theorem enableTS_aside (conn : Connection Q) : Aside conn conn.enableTS := by
  rw [enableTS]
  split
  · exact .refl conn
  · exact ⟨rfl, rfl⟩

theorem updateTsRecent_aside (conn : Connection Q) (sequenceNo tsval : SeqNo) :
    Aside conn (conn.updateTsRecent sequenceNo tsval) := by
  rw [updateTsRecent]
  split
  · exact ⟨rfl, rfl⟩
  · exact .refl conn

theorem processOption_aside {option : TCPOption} (h : processOption tcpseg conn option = .ok conn') : Aside conn conn' := by
  rw [processOption] at h
  split at h
  · rw [processMSSOption] at h
    split at h
    · cases h
      exact .refl _
    · split at h
      · cases h
      · cases h
        exact ⟨rfl, rfl⟩
  · split at h
    · rw [processWSOption] at h
      split at h
      · cases h
        exact .refl _
      · split at h
        · cases h
        · cases h
          exact ⟨rfl, rfl⟩
    · split at h
      · rw [processSACKPermittedOption] at h
        split at h
        · cases h
          exact .refl _
        · cases h
          exact ⟨rfl, rfl⟩
      · split at h
        · rw [processSACKOption] at h
          split at h
          · cases h
            exact .refl _
          · obtain ⟨q, -, h⟩ := bind_ok.mp h
            cases h
            exact ⟨rfl, rfl⟩
        · split at h
          · rw [processTSOption] at h
            split at h
            · cases h
              exact .refl _
            · split at h
              · cases h
                exact conn.enableTS_aside.trans (conn.enableTS.updateTsRecent_aside _ _)
              · cases h
          · cases h
            exact .refl _

theorem readSynOptions_aside (h : conn.readSynOptions tcpseg = .ok conn') : Aside conn conn' := by
  rw [readSynOptions, readHeaderOptions] at h
  split at h
  · have hstep (conn₁ : Connection Q) (option : TCPOption) (haside : Aside conn conn₁) :
        Ensures (conn₁.processOption tcpseg option) (Aside conn) :=
      fun _ hoption => haside.trans (processOption_aside hoption)
    exact Ensures.foldlM_invariant hstep (.refl conn) conn' h
  · cases h
    exact .refl _

variable [RcvQueue Q]

theorem updateRcvWnd_aside {window : SeqNo} (h : conn.updateRcvWnd = .ok (conn', window)) : Aside conn conn' := by
  rw [updateRcvWnd] at h
  obtain ⟨-, h⟩ := ensure_bind_ok.mp h
  obtain ⟨-, h⟩ := ensure_bind_ok.mp h
  cases h
  exact ⟨rfl, rfl⟩

theorem writeWS_aside (conn : Connection Q) (options : List TCPOption) : Aside conn (conn.writeWS options).1 := by
  rw [writeWS]
  split
  · exact ⟨rfl, rfl⟩
  · exact .refl conn

omit [RcvQueue Q] in
theorem writeSACKPermitted_aside (conn : Connection Q) (options : List TCPOption) :
    Aside conn (conn.writeSACKPermitted options).1 := by
  rw [writeSACKPermitted]
  split
  · exact ⟨rfl, rfl⟩
  · exact .refl conn

omit [RcvQueue Q] in
theorem writeInitialTS_aside (conn : Connection Q) (ackBit : Bool) (options : List TCPOption) :
    Aside conn (conn.writeInitialTS ackBit options).1 := by
  rw [writeInitialTS]
  split
  · exact ⟨rfl, rfl⟩
  · exact .refl conn

theorem writeSACKs_aside {options options' : List TCPOption} (h : conn.writeSACKs options = .ok (conn', options')) :
    Aside conn conn' := by
  rw [writeSACKs] at h
  split at h
  · obtain ⟨⟨state, option⟩, -, h⟩ := bind_ok.mp h
    simp only at h
    split at h
    · cases h
      exact ⟨rfl, rfl⟩
    · cases h
      exact ⟨rfl, rfl⟩
  · cases h
    exact .refl conn

theorem writeHeaderOptions_aside {tcpseg' : TCPSegment} (h : conn.writeHeaderOptions tcpseg = .ok (conn', tcpseg')) :
    Aside conn conn' := by
  rw [writeHeaderOptions] at h
  obtain ⟨⟨conn₁, options⟩, hchoose, h⟩ := bind_ok.mp h
  cases h
  rw [chooseOptions] at hchoose
  split at hchoose
  · have hws := conn.writeWS_aside (conn.writeMSS [])
    have hsack := (conn.writeWS (conn.writeMSS [])).1.writeSACKPermitted_aside (conn.writeWS (conn.writeMSS [])).2
    have hts := Connection.writeInitialTS_aside
      ((conn.writeWS (conn.writeMSS [])).1.writeSACKPermitted (conn.writeWS (conn.writeMSS [])).2).1 tcpseg.ackBit
      ((conn.writeWS (conn.writeMSS [])).1.writeSACKPermitted (conn.writeWS (conn.writeMSS [])).2).2
    rw [← show _ = conn' from congrArg Prod.fst (Except.ok.inj hchoose)]
    exact (hws.trans hsack).trans hts
  · split at hchoose
    · exact writeSACKs_aside hchoose
    · cases hchoose
      exact .refl conn

theorem sendSynAck_aside (h : conn.sendSynAck = .ok conn') : Aside conn conn' := by
  rw [sendSynAck] at h
  obtain ⟨⟨conn₁, window⟩, hwindow, h⟩ := bind_ok.mp h
  obtain ⟨⟨conn₂, synAck⟩, hwrite, h⟩ := bind_ok.mp h
  cases h
  have hset : Aside conn₁ (conn₁.setState { conn₁.state with sndMax := conn₁.state.iss + 1, sndNxt := conn₁.state.iss + 1 }) :=
    ⟨rfl, rfl⟩
  have hsent : Aside conn₂ (conn₂.sendToIP synAck).ackSent := ⟨rfl, rfl⟩
  exact (((updateRcvWnd_aside hwindow).trans hset).trans (writeHeaderOptions_aside hwrite)).trans hsent

omit [RcvQueue Q] in
theorem discardSyn_aside (h : conn.discardSyn tcpseg = .ok conn') : Aside conn conn' := by
  rw [discardSyn] at h
  split at h
  · obtain ⟨sendQueue, -, h⟩ := bind_ok.mp h
    obtain ⟨rexmitQueue, -, h⟩ := bind_ok.mp h
    cases h
    exact ⟨rfl, rfl⟩
  · cases h
    exact .refl conn

end Aside

variable {destAddr srcAddr : Nat} {par : TCPParameters}

section Text

variable {Q : Type} [RcvQueue Q] {conn conn' : Connection Q} {tcpseg : TCPSegment}

open RcvQueue

/-- The queue that starts behind a SYN has no space for what starts with it. -/
theorem not_hasEnoughSpace {q : Q} (hq : conn.receiveQueue = init (tcpseg.sequenceNo + 1) q) :
    ¬ conn.HasEnoughSpace tcpseg := by
  rintro ⟨hfirst, -⟩
  rw [hq, regions_init] at hfirst
  exact not_seqLE_succ tcpseg.sequenceNo hfirst

theorem takeSynText_ok {q : Q} {taken : Bool} (hq : conn.receiveQueue = init (tcpseg.sequenceNo + 1) q)
    (h : conn.takeSynText tcpseg = .ok (conn', taken)) :
    taken = decide (tcpseg.payloadLength = 0) ∧ conn'.calls = conn.calls := by
  rw [takeSynText] at h
  split at h
  · next hpos =>
    have hspace : ¬ conn.updateRcvQueueVars.HasEnoughSpace tcpseg := not_hasEnoughSpace hq
    simp only [if_neg hspace] at h
    cases h
    exact ⟨(decide_eq_false (Nat.ne_of_gt hpos)).symm, rfl⟩
  · next hzero =>
    cases h
    exact ⟨(decide_eq_true (Nat.eq_zero_of_not_pos hzero)).symm, rfl⟩

omit [RcvQueue Q] in
theorem updateSockPair_calls {sockPair : SockPair} {call : MainCall}
    (h : conn.updateSockPair sockPair call = .ok conn') :
    conn'.calls = call :: conn.calls ∧ conn'.receiveQueue = conn.receiveQueue := by
  rw [updateSockPair] at h
  obtain ⟨-, h⟩ := ensure_bind_ok.mp h
  cases h
  exact ⟨rfl, rfl⟩

omit [RcvQueue Q] in
theorem configureStateVariables_calls (h : conn.configureStateVariables par = .ok conn') :
    conn'.calls = conn.calls := by
  rw [configureStateVariables] at h
  split at h
  · cases h
  · obtain ⟨-, h⟩ := ensure_bind_ok.mp h
    cases h
    rfl

omit [RcvQueue Q] in
theorem bindOrFork_calls {sockPair : SockPair} (h : conn.bindOrFork par sockPair = .ok conn') :
    ∃ call, conn'.calls = call :: conn.calls := by
  rw [bindOrFork] at h
  split at h
  · obtain ⟨conn₁, hclone, h⟩ := bind_ok.mp h
    rw [cloneListeningConnection] at hclone
    have hcalls := configureStateVariables_calls hclone
    exact ⟨_, (updateSockPair_calls h).1.trans (congrArg _ hcalls)⟩
  · exact ⟨_, (updateSockPair_calls h).1⟩

/-- A SYN in LISTEN: the TCP module is called, and the event depends on the text alone. -/
theorem processSegmentInListen_syn {iss : SeqNo} {event : Fsm.Event}
    (hrst : tcpseg.rstBit = false) (hack : tcpseg.ackBit = false) (hsyn : tcpseg.synBit = true)
    (h : conn.processSegmentInListen par iss tcpseg srcAddr destAddr = .ok (conn', event)) :
    conn'.calls ≠ conn.calls ∧ event = if tcpseg.payloadLength = 0 then .rcvSyn else .ignore := by
  rw [processSegmentInListen, hrst, hack, hsyn] at h
  obtain ⟨conn₁, hbind, h⟩ := bind_ok.mp h
  obtain ⟨conn₂, hread, h⟩ := bind_ok.mp h
  obtain ⟨conn₃, hsynack, h⟩ := bind_ok.mp h
  obtain ⟨⟨conn₄, taken⟩, htext, h⟩ := bind_ok.mp h
  cases h
  obtain ⟨call, hcall⟩ := bindOrFork_calls hbind
  have haside := readSynOptions_aside hread
  have haside' := sendSynAck_aside hsynack
  have hqueue := haside'.receiveQueue.trans haside.receiveQueue
  have htake := fun hq => takeSynText_ok (q := conn₁.receiveQueue) hq htext
  obtain ⟨htaken, hcalls⟩ := htake hqueue
  constructor
  · rw [hcalls]
    change conn₃.calls ≠ conn.calls
    rw [haside'.calls]
    change conn₂.calls ≠ conn.calls
    rw [haside.calls]
    change conn₁.calls ≠ conn.calls
    rw [hcall]
    exact List.cons_ne_self call conn.calls
  · rw [htaken]
    simp only [decide_eq_true_eq]

/-- A SYN in SYN_SENT. -/
theorem processSegmentInSynSent_syn {established : Connection Q → Sim (Connection Q)}
    {event : Fsm.Event} (hwrong : ¬ conn.HasWrongAckNo tcpseg) (hrst : tcpseg.rstBit = false)
    (hsyn : tcpseg.synBit = true)
    (h : conn.processSegmentInSynSent established tcpseg srcAddr destAddr = .ok (conn', event)) :
    if tcpseg.payloadLength = 0 then event = .rcvSyn ∨ event = .rcvSynAck
    else event = .ignore ∧ conn'.calls ≠ conn.calls := by
  rw [processSegmentInSynSent, if_neg hwrong, hrst, hsyn] at h
  obtain ⟨conn₁, hdiscard, h⟩ := bind_ok.mp h
  obtain ⟨conn₂, hbind, h⟩ := bind_ok.mp h
  have haside := discardSyn_aside hdiscard
  obtain ⟨hcall, hqueue₂⟩ := updateSockPair_calls hbind
  have hqueue : conn₂.receiveQueue = init (tcpseg.sequenceNo + 1) conn.receiveQueue :=
    hqueue₂.trans haside.receiveQueue
  have hcalls₂ : conn₂.calls ≠ conn.calls := by
    rw [hcall, haside.calls]
    exact List.cons_ne_self _ conn.calls
  split at h
  · obtain ⟨⟨conn₃, taken⟩, htext, h⟩ := bind_ok.mp h
    obtain ⟨htaken, hcalls⟩ := takeSynText_ok hqueue htext
    by_cases hzero : tcpseg.payloadLength = 0
    · rw [htaken, decide_eq_true hzero] at h
      obtain ⟨conn₄, -, h⟩ := bind_ok.mp h
      obtain ⟨conn₅, -, h⟩ := bind_ok.mp h
      cases h
      rw [if_pos hzero]
      exact .inr rfl
    · rw [htaken, decide_eq_false hzero] at h
      cases h
      rw [if_neg hzero, hcalls]
      exact ⟨rfl, hcalls₂⟩
  · obtain ⟨conn₃, hsynack, h⟩ := bind_ok.mp h
    obtain ⟨⟨conn₄, taken⟩, htext, h⟩ := bind_ok.mp h
    have haside' := sendSynAck_aside hsynack
    have htake := fun hq => takeSynText_ok (q := conn.receiveQueue) hq htext
    obtain ⟨htaken, hcalls⟩ := htake (haside'.receiveQueue.trans hqueue)
    cases h
    by_cases hzero : tcpseg.payloadLength = 0
    · rw [if_pos hzero, htaken, decide_eq_true hzero]
      exact .inl rfl
    · rw [if_neg hzero, htaken, decide_eq_false hzero, hcalls]
      change Fsm.Event.ignore = .ignore ∧ conn₃.calls ≠ conn.calls
      rw [haside'.calls]
      exact ⟨rfl, hcalls₂⟩

end Text

section Atomic

variable {Q : Type} [RcvQueue Q]

def IsSynAck (tcpseg : TCPSegment) : Bool := tcpseg.synBit && tcpseg.ackBit

/-- The connection is bound or forked, its sequence numbers are set, or a SYN+ACK is sent. -/
def Acted {Q : Type} (conn conn' : Connection Q) : Prop :=
  conn'.calls ≠ conn.calls ∨ conn'.state.rcvNxt ≠ conn.state.rcvNxt ∨ conn'.state.irs ≠ conn.state.irs ∨
    conn'.state.iss ≠ conn.state.iss ∨ conn'.state.sndUna ≠ conn.state.sndUna ∨
    conn'.sent.filter IsSynAck ≠ conn.sent.filter IsSynAck
deriving Decidable

/-- The event takes the state machine out of the state in which it waits for a SYN. -/
def Advances {Q : Type} (conn : Connection Q) (event : Fsm.Event) : Prop :=
  Fsm.transition conn.state.active conn.fsm event = .synRcvd ∨
    Fsm.transition conn.state.active conn.fsm event = .established
deriving Decidable

/-- Is the SYN of the segment looked at? -/
def LooksAtSyn {Q : Type} (conn : Connection Q) (tcpseg : TCPSegment) : Prop :=
  tcpseg.rstBit = false ∧ if conn.fsm = .listen then tcpseg.ackBit = false else ¬ conn.HasWrongAckNo tcpseg
deriving Decidable

omit [RcvQueue Q] in
theorem not_acted_sendRst (conn : Connection Q) (tcpseg : TCPSegment) : ¬ Acted conn (conn.sendRst tcpseg) := by
  rintro (h | h | h | h | h | h)
  · exact h rfl
  · exact h rfl
  · exact h rfl
  · exact h rfl
  · exact h rfl
  · exact h rfl

omit [RcvQueue Q] in
theorem not_acted_self (conn : Connection Q) : ¬ Acted conn conn := by
  rintro (h | h | h | h | h | h)
  · exact h rfl
  · exact h rfl
  · exact h rfl
  · exact h rfl
  · exact h rfl
  · exact h rfl

theorem not_acted_of_not_looksAtSyn {established : Connection Q → Sim (Connection Q)}
    {iss : SeqNo} {conn conn' : Connection Q} {tcpseg : TCPSegment}
    (hlooks : ¬ conn.LooksAtSyn tcpseg)
    (hrun : processSegmentInHandshake established par iss conn tcpseg srcAddr destAddr = .ok (conn', event)) :
    ¬ Acted conn conn' := by
  rw [processSegmentInHandshake] at hrun
  split at hrun
  · next hlisten =>
    rw [LooksAtSyn, if_pos hlisten] at hlooks
    rw [processSegmentInListen] at hrun
    split at hrun
    · cases hrun
      exact conn.not_acted_self
    · next hrst =>
      split at hrun
      · cases hrun
        exact conn.not_acted_sendRst tcpseg
      · next hack => exact absurd ⟨eq_false_of_ne_true hrst, eq_false_of_ne_true hack⟩ hlooks
  · next hlisten =>
    rw [LooksAtSyn, if_neg hlisten] at hlooks
    rw [processSegmentInSynSent] at hrun
    split at hrun
    · cases hrun
      split
      · exact conn.not_acted_self
      · exact conn.not_acted_sendRst tcpseg
    · next hwrong =>
      split at hrun
      · cases hrun
        exact conn.not_acted_self
      · next hrst => exact absurd ⟨eq_false_of_ne_true hrst, hwrong⟩ hlooks

/-- A SYN that is looked at has no text, or else the connection stays where it is although it has acted. -/
theorem acted_advances_iff (established : Connection Q → Sim (Connection Q)) (par : TCPParameters) (iss : SeqNo)
    (conn conn' : Connection Q) (tcpseg : TCPSegment) (srcAddr destAddr : Nat) (event : Fsm.Event)
    (hfsm : conn.fsm.Opening) (hsyn : tcpseg.synBit = true)
    (hrun : processSegmentInHandshake established par iss conn tcpseg srcAddr destAddr = .ok (conn', event)) :
    (Acted conn conn' → conn.Advances event) ↔ (conn.LooksAtSyn tcpseg → tcpseg.payloadLength = 0) := by
  by_cases hlooks : conn.LooksAtSyn tcpseg
  · have hevent : if tcpseg.payloadLength = 0 then conn.Advances event else event = .ignore ∧ Acted conn conn' := by
      rw [processSegmentInHandshake] at hrun
      cases hfsm with
      | inl hlisten =>
        rw [if_pos hlisten] at hrun
        rw [LooksAtSyn, if_pos hlisten] at hlooks
        obtain ⟨hcalls, hevent⟩ := processSegmentInListen_syn hlooks.1 hlooks.2 hsyn hrun
        split
        · next hzero =>
          rw [hevent, if_pos hzero, Advances, hlisten]
          exact .inl rfl
        · next hpos =>
          rw [hevent, if_neg hpos]
          exact ⟨rfl, .inl hcalls⟩
      | inr hsent =>
        have hlisten : conn.fsm ≠ .listen := by
          rw [hsent]
          decide
        rw [if_neg hlisten] at hrun
        rw [LooksAtSyn, if_neg hlisten] at hlooks
        have hcases := processSegmentInSynSent_syn hlooks.2 hlooks.1 hsyn hrun
        split at hcases
        · next hzero =>
          rw [if_pos hzero, Advances, hsent]
          cases hcases with
          | inl hsyn => rw [hsyn]; exact .inl rfl
          | inr hsynack => rw [hsynack]; exact .inr rfl
        · next hpos =>
          rw [if_neg hpos]
          exact ⟨hcases.1, .inl hcases.2⟩
    have hstays : ¬ conn.Advances .ignore := by
      rw [Advances, Fsm.transition_ignore]
      cases hfsm with
      | inl hlisten => rw [hlisten]; decide
      | inr hsent => rw [hsent]; decide
    constructor
    · intro hatomic _
      by_contra hpos
      rw [if_neg hpos] at hevent
      obtain ⟨hignore, hacted⟩ := hevent
      rw [hignore] at hatomic
      exact hstays (hatomic hacted)
    · intro hzero _
      rw [if_pos (hzero hlooks)] at hevent
      exact hevent
  · have hnot := not_acted_of_not_looksAtSyn hlooks hrun
    exact ⟨fun _ hlooks' => absurd hlooks' hlooks, fun _ hacted => absurd hacted hnot⟩

end Atomic

def listening : Connection (TCPVirtualDataRcvQueue Region) where
  simTime := second
  fsm := .listen
  state := { fork := false, rcvWnd := 5000, rcvAdv := 5000, maxRcvBuffer := 5000, sndMss := 536 }
  sendQueue := ⟨0, 0⟩
  rexmitQueue := .init 0
  receiveQueue := .init 0
  sockPair := ⟨0, 0, 80, 0⟩

/-- The SYN with number 7 has been sent. -/
def opened : Connection (TCPVirtualDataRcvQueue Region) where
  simTime := second
  fsm := .synSent
  state := { active := true, iss := 7, sndUna := 7, sndNxt := 8, sndMax := 8, rcvWnd := 5000, rcvAdv := 5000,
             maxRcvBuffer := 5000, sndMss := 536 }
  sendQueue := ⟨8, 8⟩
  rexmitQueue := .init 8
  receiveQueue := .init 0
  sockPair := ⟨1, 2, 1025, 80⟩

def defaults : TCPParameters where
  advertisedWindow := 5000
  windowScalingSupport := false
  delayedAcksEnabled := false
  nagleEnabled := true
  limitedTransmitEnabled := false
  increasedIWEnabled := false
  mss := 536
  timestampSupport := false
  sackSupport := false
  tcpAlgorithmClass := "TCPReno"

def synSegment : TCPSegment := { srcPort := 1025, destPort := 80, sequenceNo := 100, synBit := true, window := 5000 }

theorem synSegment_atomic :
    ∃ result, processSegmentInHandshake .ok defaults 250000 listening synSegment 2 1 = .ok result ∧
      (Acted listening result.1 → listening.Advances result.2) :=
  exists_ok rfl fun result hrun =>
    (acted_advances_iff .ok defaults 250000 listening result.1 synSegment 2 1 result.2 (by decide) rfl hrun).mpr
      fun _ => rfl

/-- With ten octets of text a SYN is answered with a SYN+ACK, and a SYN+ACK acknowledges the SYN,
while the connections stay in LISTEN and in SYN_SENT. -/
theorem text_not_atomic :
    (∃ conn, processSegmentInHandshake .ok defaults 250000 listening { synSegment with payloadLength := 10 } 2 1 =
        .ok (conn, .ignore) ∧ Acted listening conn ∧ ¬ listening.Advances .ignore ∧ conn.state.rcvNxt = 101 ∧
        conn.sockPair = ⟨1, 2, 80, 1025⟩ ∧ (conn.sent.map IsSynAck) = [true]) ∧
    ∃ conn, processSegmentInHandshake .ok defaults 0 opened
        { srcPort := 80, destPort := 1025, sequenceNo := 100, ackNo := 8, synBit := true, ackBit := true,
          window := 5000, payloadLength := 10 } 2 1 = .ok (conn, .ignore) ∧
      Acted opened conn ∧ ¬ opened.Advances .ignore ∧ conn.state.rcvNxt = 101 ∧ conn.state.sndUna = 8 := by
  constructor
  · exact ⟨_, rfl, by decide, by decide, rfl, rfl, rfl⟩
  · exact ⟨_, rfl, by decide, by decide, rfl, rfl⟩

end Connection

end Inet.Tcp
