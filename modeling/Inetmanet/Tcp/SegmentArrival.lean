import Inetmanet.Tcp.Connection

/-!
# The first check of an arriving segment

`processSegment1stThru8th` up to the test whether the segment is acceptable, and the reply to
one that is not. What the second to the eighth step do is a parameter.
-/
namespace Inet.Tcp

namespace Connection

variable {Q : Type}

/-- The first timestamp option counts. -/
def getTSval (tcpseg : TCPSegment) : Sim SeqNo :=
  match tcpseg.options.find? fun option => option.kind = TCPOPTION_TIMESTAMP with
  | none => .ok 0
  | some option => match option.values with
    | [] => .error (.runtime "Array of size 0 indexed by 0")
    | tsval :: _ => .ok tsval

/-- The test of PAWS, which is passed by a segment without options. -/
def failsPAWS (conn : Connection Q) (tcpseg : TCPSegment) : Sim Bool :=
  if tcpseg.headerLength > tcpHeaderOctets ∧ conn.state.tsEnabled = true then do
    let tsval ← getTSval tcpseg
    return decide (tsval ≠ 0 ∧ seqLess tsval conn.state.tsRecent ∧ conn.idle > PAWS_IDLE_TIME_THRESH)
  else .ok false

def readOptions (conn : Connection Q) (tcpseg : TCPSegment) : Sim (Connection Q) :=
  if tcpseg.headerLength > tcpHeaderOctets then conn.readHeaderOptions tcpseg else .ok conn

/-- The connection after the options have been read, and whether the segment is acceptable. -/
def firstCheck (conn : Connection Q) (tcpseg : TCPSegment) : Sim (Connection Q × Bool) := do
  let fails ← conn.failsPAWS tcpseg
  let conn ← conn.readOptions tcpseg
  return (conn, !fails && decide (conn.state.isSegmentAcceptable tcpseg))

/-- A duplicate is reported. -/
def setDsack (conn : Connection Q) (tcpseg : TCPSegment) : Connection Q :=
  if tcpseg.synBit = false ∧ tcpseg.payloadLength > 0 ∧ conn.state.sackEnabled = true ∧
      seqLess tcpseg.endNo conn.state.rcvNxt then
    conn.setState { conn.state with startSeqno := tcpseg.sequenceNo, endSeqno := tcpseg.endNo, sndDsack := true }
  else conn

def countNaseg (conn : Connection Q) : Connection Q :=
  conn.setState { conn.state with rcvNaseg := conn.state.rcvNaseg + 1 }

variable [RcvQueue Q]

/-- The reply to a segment that is not acceptable; there is none to an RST. -/
def replyNotAcceptable (conn : Connection Q) (tcpseg : TCPSegment) : Sim (Connection Q) := do
  let conn ← if tcpseg.rstBit then .ok conn else (conn.setDsack tcpseg).sendAck
  return conn.countNaseg

/-- `rest` stands for the second to the eighth step. -/
def processSegment1stThru8th (rest : Connection Q → TCPSegment → Sim (Connection Q × Fsm.Event))
    (conn : Connection Q) (tcpseg : TCPSegment) : Sim (Connection Q × Fsm.Event) := do
  let (conn, acceptable) ← conn.firstCheck tcpseg
  if acceptable then rest conn tcpseg
  else do
    let conn ← conn.replyNotAcceptable tcpseg
    return (conn, .ignore)

section Options

variable {Q : Type} {conn conn' conn'' : Connection Q} {tcpseg : TCPSegment} {option : TCPOption}

/-- After the handshake the options change the scoreboard, its counters and `ts_recent` at most. -/
def OptionsRead (conn conn' : Connection Q) : Prop :=
  conn' = { conn with
    rexmitQueue := conn'.rexmitQueue
    state := { conn.state with
      tsRecent := conn'.state.tsRecent
      sackedBytes := conn'.state.sackedBytes
      sackedBytesOld := conn'.state.sackedBytesOld
      rcvSacks := conn'.state.rcvSacks } }

theorem OptionsRead.refl (conn : Connection Q) : OptionsRead conn conn := rfl

section

variable (h : OptionsRead conn conn')
include h

theorem OptionsRead.trans (h' : OptionsRead conn' conn'') : OptionsRead conn conn'' := by
  rw [OptionsRead] at h h' ⊢
  apply h'.trans
  rw [h]

theorem OptionsRead.fsm : conn'.fsm = conn.fsm := by
  rw [OptionsRead] at h
  rw [h]

theorem OptionsRead.acceptable (tcpseg : TCPSegment) :
    conn'.state.isSegmentAcceptable tcpseg ↔ conn.state.isSegmentAcceptable tcpseg := by
  rw [OptionsRead] at h
  rw [h]

end

/-- Does a SACK option change the scoreboard? -/
def TakesSACK (conn : Connection Q) (option : TCPOption) : Prop :=
  option.kind = TCPOPTION_SACK ∧ option.length % 8 = 2 ∧ conn.state.sackEnabled = true ∧ conn.fsm.Synchronized ∧
    sackBlocks option.values ≠ []
deriving Decidable

/-- Is the timestamp option looked at? -/
def ReadsTS (conn : Connection Q) (option : TCPOption) : Prop :=
  option.kind = TCPOPTION_TIMESTAMP ∧ option.length = 10 ∧ conn.state.tsEnabled = true ∧ conn.fsm.Synchronized
deriving Decidable

/-- `ts_recent` after an option. -/
def recordTS (conn : Connection Q) (sequenceNo tsRecent : SeqNo) (option : TCPOption) : SeqNo :=
  match option.values with
  | [tsval, _] =>
    if conn.ReadsTS option ∧ ¬ seqLess tsval tsRecent ∧ seqLE sequenceNo conn.state.lastAckSent then tsval else tsRecent
  | _ => tsRecent

/-- A handler that changes nothing but the scoreboard and what is derived from it. -/
theorem processSACKOption_read (h : conn.processSACKOption tcpseg option = .ok conn') :
    OptionsRead conn conn' ∧ conn'.state.tsRecent = conn.state.tsRecent ∧
      (conn' ≠ conn → option.length % 8 = 2 ∧ conn.state.sackEnabled = true ∧ conn.fsm.Synchronized ∧
        sackBlocks option.values ≠ []) := by
  rw [processSACKOption] at h
  split at h
  · cases h
    exact ⟨.refl conn, rfl, fun hne => absurd rfl hne⟩
  · next hcounts =>
    simp only [not_or, not_not, Bool.not_eq_false, ne_eq] at hcounts
    obtain ⟨q, -, h⟩ := bind_ok.mp h
    cases h
    exact ⟨rfl, rfl, fun _ => hcounts⟩

theorem recordTS_skip {sequenceNo tsRecent : SeqNo} (h : ¬ conn.ReadsTS option) :
    conn.recordTS sequenceNo tsRecent option = tsRecent := by
  rw [recordTS]
  split
  · rw [if_neg fun hand => h hand.1]
  · rfl

theorem processTSOption_read (hfsm : ¬ conn.fsm.Opening) (hkind : option.kind = TCPOPTION_TIMESTAMP)
    (h : conn.processTSOption tcpseg option = .ok conn') :
    OptionsRead conn conn' ∧ conn'.state.tsRecent = conn.recordTS tcpseg.sequenceNo conn.state.tsRecent option ∧
      (conn'.state.tsRecent = conn.state.tsRecent → conn' = conn) := by
  rw [processTSOption] at h
  by_cases hreads : conn.ReadsTS option
  · obtain ⟨-, hlength, henabled, hsynchronized⟩ := id hreads
    have hexpects : conn.ExpectsTS := by
      rw [ExpectsTS, if_pos henabled]
      exact hsynchronized
    rw [if_neg (by simp only [hlength, hexpects]; decide)] at h
    split at h
    · next tsval _ hvalues =>
      cases h
      rw [recordTS, hvalues, enableTS, if_pos henabled, updateTsRecent]
      simp only [henabled, hreads, true_and]
      by_cases hrecords : ¬ seqLess tsval conn.state.tsRecent ∧ seqLE tcpseg.sequenceNo conn.state.lastAckSent
      · rw [if_pos (show conn.Records tcpseg.sequenceNo tsval from hrecords), if_pos hrecords]
        refine ⟨rfl, rfl, fun hsame => ?_⟩
        change tsval = conn.state.tsRecent at hsame
        rw [hsame]
        rfl
      · rw [if_neg (show ¬ conn.Records tcpseg.sequenceNo tsval from hrecords), if_neg hrecords]
        exact ⟨.refl conn, rfl, fun _ => rfl⟩
    · cases h
  · have hskip : option.length ≠ 10 ∨ ¬ conn.ExpectsTS := by
      rw [ExpectsTS]
      by_cases henabled : conn.state.tsEnabled = true
      · rw [if_pos henabled, ← not_and_or]
        intro hand
        exact hreads ⟨hkind, hand.1, henabled, hand.2⟩
      · rw [if_neg henabled]
        exact .inr hfsm
    rw [if_pos hskip] at h
    cases h
    exact ⟨.refl conn, (recordTS_skip hreads).symm, fun _ => rfl⟩

/-- One option, once the handshake is over. -/
theorem processOption_read (hfsm : ¬ conn.fsm.Opening) (h : processOption tcpseg conn option = .ok conn') :
    OptionsRead conn conn' ∧ conn'.state.tsRecent = conn.recordTS tcpseg.sequenceNo conn.state.tsRecent option ∧
      (¬ conn.TakesSACK option → conn'.state.tsRecent = conn.state.tsRecent → conn' = conn) := by
  have hother (hkind : option.kind ≠ TCPOPTION_TIMESTAMP) (hok : conn' = conn) :
      OptionsRead conn conn' ∧ conn'.state.tsRecent = conn.recordTS tcpseg.sequenceNo conn.state.tsRecent option ∧
        (¬ conn.TakesSACK option → conn'.state.tsRecent = conn.state.tsRecent → conn' = conn) := by
    rw [hok]
    exact ⟨.refl conn, (recordTS_skip fun hreads => hkind hreads.1).symm, fun _ _ => rfl⟩
  rw [processOption] at h
  split at h
  · next hkind =>
    rw [processMSSOption, if_pos (.inr hfsm)] at h
    cases h
    exact hother (by rw [hkind]; decide) rfl
  · split at h
    · next hkind =>
      rw [processWSOption, if_pos (.inr hfsm)] at h
      cases h
      exact hother (by rw [hkind]; decide) rfl
    · split at h
      · next hkind =>
        rw [processSACKPermittedOption, if_pos (.inr hfsm)] at h
        cases h
        exact hother (by rw [hkind]; decide) rfl
      · split at h
        · next hkind =>
          obtain ⟨hread, hrecent, hchanged⟩ := processSACKOption_read h
          have hreads : ¬ conn.ReadsTS option := fun hreads => absurd (hkind.symm.trans hreads.1) (by decide)
          refine ⟨hread, hrecent.trans (recordTS_skip hreads).symm, fun htakes _ => ?_⟩
          by_contra hne
          exact htakes ⟨hkind, hchanged hne⟩
        · split at h
          · next hkind =>
            obtain ⟨hread, hrecent, hsame⟩ := processTSOption_read hfsm hkind h
            exact ⟨hread, hrecent, fun _ => hsame⟩
          · next hkind =>
            cases h
            exact hother hkind rfl

theorem OptionsRead.recordTS (h : OptionsRead conn conn') (sequenceNo : SeqNo) :
    conn'.recordTS sequenceNo = conn.recordTS sequenceNo := by
  rw [OptionsRead] at h
  rw [h]
  rfl

/-- All options, once the handshake is over. -/
theorem readHeaderOptions_read {options : List TCPOption} (hfsm : ¬ conn.fsm.Opening)
    (h : options.foldlM (processOption tcpseg) conn = .ok conn') :
    OptionsRead conn conn' ∧
      conn'.state.tsRecent = options.foldl (conn.recordTS tcpseg.sequenceNo) conn.state.tsRecent ∧
      ((∀ option ∈ options, ¬ conn.TakesSACK option ∧
        conn.recordTS tcpseg.sequenceNo conn.state.tsRecent option = conn.state.tsRecent) → conn' = conn) := by
  induction options generalizing conn with
  | nil =>
    cases h
    exact ⟨.refl _, rfl, fun _ => rfl⟩
  | cons option options ih =>
    obtain ⟨conn₁, hoption, h⟩ := bind_ok.mp h
    obtain ⟨hread, hrecent, hsame⟩ := processOption_read hfsm hoption
    obtain ⟨hread', hrecent', hsame'⟩ := ih (hread.fsm ▸ hfsm) h
    refine ⟨hread.trans hread', ?_, ?_⟩
    · rw [hrecent', hrecent, List.foldl_cons, hread.recordTS]
    · intro hnone
      obtain ⟨htakes, hrecord⟩ := hnone option List.mem_cons_self
      have heq := hsame htakes (hrecent.trans hrecord)
      refine (hsame' fun option' hmem => ?_).trans heq
      rw [heq]
      exact hnone option' (List.mem_cons_of_mem _ hmem)

end Options

section Reply

variable {Q : Type} [RcvQueue Q] {conn conn' conn'' : Connection Q} {tcpseg : TCPSegment}

/-- The variables of the window, of the report of blocks and of delayed ACKs may be different. -/
def Replied (conn conn' : Connection Q) : Prop :=
  conn' = { conn with
    delayedAckTimer := conn'.delayedAckTimer
    sent := conn'.sent
    state := { conn.state with
      rcvWnd := conn'.state.rcvWnd
      rcvAdv := conn'.state.rcvAdv
      freeRcvBuffer := conn'.state.freeRcvBuffer
      usedRcvBuffer := conn'.state.usedRcvBuffer
      startSeqno := conn'.state.startSeqno
      endSeqno := conn'.state.endSeqno
      sndSack := conn'.state.sndSack
      sndDsack := conn'.state.sndDsack
      sacksArray := conn'.state.sacksArray
      sndSacks := conn'.state.sndSacks
      sentBytes := conn'.state.sentBytes
      fullSizedSegmentCounter := conn'.state.fullSizedSegmentCounter
      ackNow := conn'.state.ackNow
      lastAckSent := conn'.state.lastAckSent } }

omit [RcvQueue Q] in
theorem Replied.refl (conn : Connection Q) : Replied conn conn := rfl

omit [RcvQueue Q] in
theorem Replied.trans (h : Replied conn conn') (h' : Replied conn' conn'') : Replied conn conn'' := by
  rw [Replied] at h h' ⊢
  apply h'.trans
  rw [h]

theorem updateRcvWnd_replied {window : SeqNo} (h : conn.updateRcvWnd = .ok (conn', window)) :
    Replied conn conn' ∧ conn'.sent = conn.sent := by
  rw [updateRcvWnd] at h
  obtain ⟨-, h⟩ := ensure_bind_ok.mp h
  obtain ⟨-, h⟩ := ensure_bind_ok.mp h
  cases h
  exact ⟨rfl, rfl⟩

omit [RcvQueue Q] in
theorem addSacks_frame {state state' : TCPStateVariables} {receiveQueue : TCPVirtualDataRcvQueue Region}
    {usedOptionsLen : Nat} {option : Option SackOption}
    (h : state.addSacks receiveQueue usedOptionsLen = .ok (state', option)) :
    state' = { state with
      sacksArray := state'.sacksArray, sndSack := false, sndDsack := false, startSeqno := 0, endSeqno := 0 } := by
  rw [TCPStateVariables.addSacks] at h
  obtain ⟨sacks, -, h⟩ := bind_ok.mp h
  simp only at h
  split at h
  · cases h
    rfl
  · obtain ⟨⟨sacks', dsackInserted⟩, -, h⟩ := bind_ok.mp h
    split at h
    · cases h
      rfl
    · obtain ⟨-, h⟩ := ensure_bind_ok.mp h
      obtain ⟨-, h⟩ := ensure_bind_ok.mp h
      cases h
      rfl

theorem writeSACKs_replied {options options' : List TCPOption} (h : conn.writeSACKs options = .ok (conn', options')) :
    Replied conn conn' ∧ conn'.sent = conn.sent := by
  rw [writeSACKs] at h
  split at h
  · obtain ⟨⟨state, option⟩, hadd, h⟩ := bind_ok.mp h
    have hframe := addSacks_frame hadd
    simp only at h
    split at h
    · cases h
      rw [hframe]
      exact ⟨rfl, rfl⟩
    · cases h
      rw [hframe]
      exact ⟨rfl, rfl⟩
  · cases h
    exact ⟨.refl conn, rfl⟩

/-- The options are written into a segment without the SYN bit. -/
theorem writeHeaderOptions_replied {tcpseg' : TCPSegment} (hsyn : tcpseg.synBit = false)
    (h : conn.writeHeaderOptions tcpseg = .ok (conn', tcpseg')) :
    Replied conn conn' ∧ conn'.sent = conn.sent ∧ ∃ options, tcpseg' = setOptions tcpseg options := by
  rw [writeHeaderOptions] at h
  obtain ⟨⟨conn₁, options⟩, hchoose, h⟩ := bind_ok.mp h
  cases h
  rw [chooseOptions, if_neg fun hinitial => absurd (hsyn.symm.trans hinitial.1) (by decide)] at hchoose
  split at hchoose
  · obtain ⟨hreplied, hsent⟩ := writeSACKs_replied hchoose
    exact ⟨hreplied, hsent, options, rfl⟩
  · cases hchoose
    exact ⟨.refl conn, rfl, [], rfl⟩

/-- `<SEQ=SND.NXT><ACK=RCV.NXT><CTL=ACK>` -/
structure IsAckOf (conn : Connection Q) (ack : TCPSegment) : Prop where
  sequenceNo : ack.sequenceNo = conn.state.sndNxt
  ackNo : ack.ackNo = conn.state.rcvNxt
  payloadLength : ack.payloadLength = 0
  bits : ack.ackBit = true ∧ ack.synBit = false ∧ ack.rstBit = false ∧ ack.finBit = false

omit [RcvQueue Q] in
theorem IsAckOf.sendToIP {tcpseg' : TCPSegment} (h : IsAckOf conn tcpseg) (options : List TCPOption)
    (hoptions : tcpseg' = setOptions tcpseg options) (srcPort destPort : Nat) :
    IsAckOf conn { tcpseg' with srcPort := srcPort, destPort := destPort } := by
  rw [hoptions, setOptions]
  split
  · exact ⟨h.1, h.2, h.3, h.4⟩
  · exact ⟨h.1, h.2, h.3, h.4⟩

theorem sendAck_replied (h : conn.sendAck = .ok conn') :
    Replied conn conn' ∧ ∃ ack, conn'.sent = ack :: conn.sent ∧ IsAckOf conn ack := by
  rw [sendAck] at h
  obtain ⟨⟨conn₁, window⟩, hwindow, h⟩ := bind_ok.mp h
  obtain ⟨⟨conn₂, ack⟩, hwrite, h⟩ := bind_ok.mp h
  cases h
  obtain ⟨hreplied₁, hsent₁⟩ := updateRcvWnd_replied hwindow
  obtain ⟨hreplied₂, hsent₂, options, hoptions⟩ := writeHeaderOptions_replied rfl hwrite
  have hlast : Replied conn₂ (conn₂.sendToIP ack).ackSent := rfl
  refine ⟨(hreplied₁.trans hreplied₂).trans hlast, ?_⟩
  refine ⟨{ ack with srcPort := conn₂.sockPair.localPort, destPort := conn₂.sockPair.remotePort },
    congrArg _ (hsent₂.trans hsent₁), ?_⟩
  apply IsAckOf.sendToIP _ options hoptions
  rw [Replied] at hreplied₁
  rw [hreplied₁]
  exact ⟨rfl, rfl, rfl, rfl, rfl, rfl, rfl⟩

omit [RcvQueue Q] in
theorem setDsack_replied (conn : Connection Q) (tcpseg : TCPSegment) :
    Replied conn (conn.setDsack tcpseg) ∧ (conn.setDsack tcpseg).sent = conn.sent := by
  rw [setDsack]
  split
  · exact ⟨rfl, rfl⟩
  · exact ⟨.refl conn, rfl⟩

theorem replyNotAcceptable_replied (h : conn.replyNotAcceptable tcpseg = .ok conn') :
    ∃ conn₁, conn' = conn₁.countNaseg ∧ Replied conn conn₁ ∧ (tcpseg.rstBit = true → conn₁ = conn) ∧
      (tcpseg.rstBit = false → ∃ ack, conn'.sent = ack :: conn.sent ∧ IsAckOf conn ack) := by
  rw [replyNotAcceptable] at h
  split at h
  · next hrst =>
    cases h
    exact ⟨conn, rfl, .refl conn, fun _ => rfl, fun hno => absurd (hrst.symm.trans hno) (by decide)⟩
  · next hrst =>
    obtain ⟨conn₁, hack, h⟩ := bind_ok.mp h
    cases h
    obtain ⟨hreplied, hsent⟩ := setDsack_replied conn tcpseg
    obtain ⟨hreplied₁, ack, hsent₁, hack⟩ := sendAck_replied hack
    refine ⟨conn₁, rfl, hreplied.trans hreplied₁, fun hyes => absurd hyes hrst, fun _ => ⟨ack, ?_, ?_⟩⟩
    · exact hsent₁.trans (by rw [hsent])
    · rw [Replied] at hreplied
      rw [hreplied] at hack
      exact ⟨hack.1, hack.2, hack.3, hack.4⟩

end Reply

section NotAcceptable

variable {Q : Type} [RcvQueue Q] {conn conn' : Connection Q} {tcpseg : TCPSegment} {event : Fsm.Event}

/-- Does an option of the segment change the scoreboard or `ts_recent`? -/
def OptionsCount (conn : Connection Q) (tcpseg : TCPSegment) : Prop :=
  tcpseg.headerLength > tcpHeaderOctets ∧ ∃ option ∈ tcpseg.options, conn.TakesSACK option ∨
    conn.recordTS tcpseg.sequenceNo conn.state.tsRecent option ≠ conn.state.tsRecent

/-- The options of the segment have been read, and it has been replied to. -/
structure Dropped (tcpseg : TCPSegment) (conn conn' : Connection Q) : Prop where
  effects : ∃ conn₁ conn₂, conn.readOptions tcpseg = .ok conn₁ ∧ OptionsRead conn conn₁ ∧ Replied conn₁ conn₂ ∧
    conn' = conn₂.countNaseg
  sndUna : conn'.state.sndUna = conn.state.sndUna
  sndWnd : conn'.state.sndWnd = conn.state.sndWnd
  rcvNxt : conn'.state.rcvNxt = conn.state.rcvNxt
  receiveQueue : conn'.receiveQueue = conn.receiveQueue
  reply : tcpseg.rstBit = false → ∃ ack, conn'.sent = ack :: conn.sent ∧ IsAckOf conn ack
  noReply : tcpseg.rstBit = true → conn'.sent = conn.sent
  options : ¬ conn.OptionsCount tcpseg → conn'.rexmitQueue = conn.rexmitQueue ∧
    conn'.state.sackedBytes = conn.state.sackedBytes ∧ conn'.state.tsRecent = conn.state.tsRecent

omit [RcvQueue Q] in
theorem readOptions_read (hfsm : ¬ conn.fsm.Opening) (h : conn.readOptions tcpseg = .ok conn') :
    OptionsRead conn conn' ∧ (¬ conn.OptionsCount tcpseg → conn' = conn) := by
  rw [readOptions] at h
  split at h
  · next hlength =>
    obtain ⟨hread, -, hsame⟩ := readHeaderOptions_read hfsm h
    refine ⟨hread, fun hcount => hsame fun option hmem => ?_⟩
    constructor
    · intro htakes
      exact hcount ⟨hlength, option, hmem, .inl htakes⟩
    · by_contra hrecord
      exact hcount ⟨hlength, option, hmem, .inr hrecord⟩
  · cases h
    exact ⟨.refl conn, fun _ => rfl⟩

end NotAcceptable

/-- Two hundred octets are on the way, and the other side is expected to go on at 1000. -/
def midway : Connection (TCPVirtualDataRcvQueue Region) where
  simTime := 10 * second
  fsm := .established
  state := {
    sndMss := 100, sndUna := 100, sndNxt := 300, sndMax := 300, rcvNxt := 1000, rcvWnd := 5000, rcvAdv := 6000,
    maxRcvBuffer := 5000, sackEnabled := true, tsEnabled := true, tsRecent := 5, lastAckSent := 1000,
    timeLastDataSent := 9 * second }
  sendQueue := ⟨100, 300⟩
  rexmitQueue := ⟨[⟨100, 300, false, false⟩], 100, 300⟩
  receiveQueue := .init 1000

/-- An old segment without text, with a timestamp and a block of 100 octets. -/
def late : TCPSegment where
  sequenceNo := 500
  ackNo := 100
  headerLength := 40
  ackBit := true
  options := [⟨TCPOPTION_TIMESTAMP, 10, [7, 0]⟩, ⟨TCPOPTION_SACK, 10, [200, 300]⟩]

section PAWS

variable {Q : Type} {conn conn₁ : Connection Q} {tcpseg : TCPSegment}

/-- The segment carries a timestamp that is older than `ts_recent`. -/
def IsOlder (conn : Connection Q) (tcpseg : TCPSegment) : Prop :=
  tcpseg.headerLength > tcpHeaderOctets ∧ conn.state.tsEnabled = true ∧
    ∃ tsval, getTSval tcpseg = .ok tsval ∧ tsval ≠ 0 ∧ seqLess tsval conn.state.tsRecent

/-- The segment is not acceptable, and has not changed what it is to be compared with. -/
def Rejects (conn : Connection Q) (tcpseg : TCPSegment) : Prop :=
  ∃ conn₁, conn.firstCheck tcpseg = .ok (conn₁, false) ∧ conn₁.state.rcvNxt = conn.state.rcvNxt ∧
    conn₁.receiveQueue = conn.receiveQueue ∧ conn₁.state.tsRecent = conn.state.tsRecent

/-- `ts_recent` after all options of a segment. -/
def tsRecentAfter (conn : Connection Q) (tcpseg : TCPSegment) : SeqNo :=
  tcpseg.options.foldl (conn.recordTS tcpseg.sequenceNo) conn.state.tsRecent

section

variable (h : conn.IsOlder tcpseg)
include h

/-- The test of PAWS fails after a longer idle period, and only then. -/
theorem IsOlder.failsPAWS :
    conn.failsPAWS tcpseg = .ok (decide (conn.idle > PAWS_IDLE_TIME_THRESH)) := by
  obtain ⟨hlength, henabled, tsval, hval, hzero, hless⟩ := h
  rw [Connection.failsPAWS, if_pos ⟨hlength, henabled⟩, hval]
  simp only [bind, Except.bind, pure, Except.pure, hzero, hless, true_and, not_false_eq_true, ne_eq]

theorem IsOlder.firstCheck (hfsm : ¬ conn.fsm.Opening)
    (hread : conn.readOptions tcpseg = .ok conn₁) :
    conn.firstCheck tcpseg = .ok (conn₁, !decide (conn.idle > PAWS_IDLE_TIME_THRESH) &&
      decide (conn.state.isSegmentAcceptable tcpseg)) := by
  have hacceptable := (readOptions_read hfsm hread).1.acceptable tcpseg
  rw [Connection.firstCheck, h.failsPAWS, hread]
  simp only [bind, Except.bind, pure, Except.pure, hacceptable]

theorem IsOlder.tsRecent (hfsm : ¬ conn.fsm.Opening)
    (hread : conn.readOptions tcpseg = .ok conn₁) : conn₁.state.tsRecent = conn.tsRecentAfter tcpseg := by
  rw [readOptions, if_pos h.1] at hread
  exact (readHeaderOptions_read hfsm hread).2.1

end

/-- An old duplicate that comes before the idle period is over is rejected exactly if it is not acceptable anyway. -/
theorem rejects_iff (conn : Connection Q) (tcpseg : TCPSegment) (hfsm : ¬ conn.fsm.Opening)
    (holder : conn.IsOlder tcpseg) :
    (conn.idle ≤ PAWS_IDLE_TIME_THRESH → conn.Rejects tcpseg) ↔
      (conn.idle ≤ PAWS_IDLE_TIME_THRESH → (conn.readOptions tcpseg).isOk = true ∧
        ¬ conn.state.isSegmentAcceptable tcpseg ∧ conn.tsRecentAfter tcpseg = conn.state.tsRecent) := by
  constructor
  · intro hrejects hidle
    obtain ⟨conn₁, hcheck, -, -, hrecent⟩ := hrejects hidle
    cases hread : conn.readOptions tcpseg with
    | error e =>
      rw [firstCheck, holder.failsPAWS, hread] at hcheck
      cases hcheck
    | ok conn₂ =>
      rw [holder.firstCheck hfsm hread] at hcheck
      obtain ⟨hconn, hacceptable⟩ := Prod.mk.inj (Except.ok.inj hcheck)
      rw [decide_eq_false (Int.not_lt.mpr hidle), Bool.not_false, Bool.true_and] at hacceptable
      refine ⟨rfl, of_decide_eq_false hacceptable, ?_⟩
      rw [← holder.tsRecent hfsm hread, hconn]
      exact hrecent
  · intro hcondition hidle
    obtain ⟨hok, hnot, hrecent⟩ := hcondition hidle
    cases hread : conn.readOptions tcpseg with
    | error e =>
      rw [hread] at hok
      cases hok
    | ok conn₁ =>
      have hframe := (readOptions_read hfsm hread).1
      rw [OptionsRead] at hframe
      refine ⟨conn₁, ?_, ?_, ?_, ?_⟩
      · rw [holder.firstCheck hfsm hread, decide_eq_false hnot, Bool.and_false]
      · rw [hframe]
      · rw [hframe]
      · rw [holder.tsRecent hfsm hread]
        exact hrecent

end PAWS

/-- Ten octets that are expected, with a timestamp older than the last one. -/
def duplicate : TCPSegment where
  sequenceNo := 1000
  ackNo := 100
  headerLength := 32
  ackBit := true
  payloadLength := 10
  options := [⟨TCPOPTION_TIMESTAMP, 10, [3, 0]⟩, nop, nop]

/-- The same octets before those that are expected. -/
def stale : TCPSegment := { duplicate with sequenceNo := 900 }

theorem stale_rejected : midway.Rejects stale :=
  (rejects_iff midway stale (by decide) ⟨by decide, rfl, 3, rfl, by decide, by decide⟩).mpr
    (fun _ => ⟨rfl, by decide, by decide⟩) (by decide)

/-- The old octets are taken for new ones. After 25 days without data they would have been rejected. -/
theorem duplicate_taken : midway.IsOlder duplicate ∧ midway.idle ≤ PAWS_IDLE_TIME_THRESH ∧
    midway.firstCheck duplicate = .ok (midway, true) ∧
    (∃ p, DataReceiver.processText .ok ⟨.established, midway.state.toTCPStateVariables, midway.receiveQueue⟩ duplicate
      .ignore = .ok (some p) ∧ p.receiver.state.rcvNxt = 1010) ∧
    { midway with simTime := 25 * 24 * 3600 * second }.firstCheck duplicate =
      .ok ({ midway with simTime := 25 * 24 * 3600 * second }, false) ∧
    ¬ (midway.idle ≤ PAWS_IDLE_TIME_THRESH → midway.Rejects duplicate) := by
  refine ⟨⟨by decide, rfl, 3, rfl, by decide, by decide⟩, by decide, rfl, ⟨_, rfl, rfl⟩, rfl, ?_⟩
  intro hrejects
  obtain ⟨conn₁, hcheck, -⟩ := hrejects (by decide)
  cases hcheck

end Connection

end Inet.Tcp
