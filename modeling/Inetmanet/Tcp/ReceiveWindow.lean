import Inetmanet.Tcp.FinReceiver

/-!
# The advertised window

`updateRcvWnd`, the window scale option, and what moves the left and the right
edge of the window: the opening of the connection, text, and a FIN.
-/
namespace Inet.Tcp

open BitVec TCPStateVariables

/-- `TCP_MAX_WIN` -/
def tcpMaxWin : SeqNo := 65535

/-- A receiver with the variables of the window scale option. -/
structure WindowReceiver where
  receiver : DataReceiver (TCPVirtualDataRcvQueue Region)
  rcvWndScale : Nat := 0
  sndWs : Bool := false
  rcvWs : Bool := false
  /-- The connection has left the states in which text is processed. -/
  finPassed : Bool := false
  deriving DecidableEq, Repr

/-- The part of `configureStateVariables` about the window; the parameter is a `long`. -/
def configureStateVariables (advertisedWindow : Int) (windowScalingSupport : Bool) (mss : SeqNo) :
    Sim TCPStateVariables := do
  if windowScalingSupport = false ∧ (advertisedWindow > 65535 ∨ advertisedWindow ≤ 0) then
    throw (.runtime "Invalid advertisedWindow parameter: %ld")
  let rcvWnd := if windowScalingSupport = true ∧ advertisedWindow > 65535 then tcpMaxWin
    else BitVec.ofInt 32 advertisedWindow
  return { wsSupport := windowScalingSupport, rcvWnd := rcvWnd, rcvAdv := rcvWnd,
           maxRcvBuffer := BitVec.ofInt 32 advertisedWindow, sndMss := mss }

namespace TCPStateVariables

/-- No window of less than a segment, to avoid the silly window syndrome. -/
def avoidSillyWindow (state : TCPStateVariables) (win : SeqNo) : SeqNo :=
  if win < state.maxRcvBuffer / 4 ∧ win < state.sndMss then 0 else win

/-- The window is not to shrink. -/
def keepRightEdge (state : TCPStateVariables) (win : SeqNo) : SeqNo :=
  if win < state.rcvAdv - state.rcvNxt then state.rcvAdv - state.rcvNxt else win

/-- Without the window scale option the header has room for 16 bits. -/
def observeLimit (state : TCPStateVariables) (win : SeqNo) : SeqNo :=
  if win > tcpMaxWin ∧ state.wsEnabled = false then tcpMaxWin else win

def windowFor (state : TCPStateVariables) : SeqNo :=
  state.observeLimit (state.keepRightEdge (state.avoidSillyWindow state.freeRcvBuffer))

end TCPStateVariables

/-- The loop of `writeHeaderOptions` that chooses the shift count, with at most `left` turns. -/
def shiftCount : (left : Nat) → ULong → Nat
  | 0, _ => 0
  | left + 1, scaledRcvWnd => if scaledRcvWnd > 65535 then 1 + shiftCount left (scaledRcvWnd >>> 1) else 0

namespace WindowReceiver

def configured (state : TCPStateVariables) : WindowReceiver where
  receiver := { fsm := .synRcvd, state := state, receiveQueue := .init 0 }

def state (w : WindowReceiver) : TCPStateVariables := w.receiver.state

def withState (w : WindowReceiver) (state : TCPStateVariables) : WindowReceiver :=
  { w with receiver := { w.receiver with state := state } }

/-- A SYN: the window starts behind it. -/
def synReceived (w : WindowReceiver) (sequenceNo : SeqNo) : WindowReceiver where
  receiver := { w.receiver with
    state := { w.state with
      rcvNxt := sequenceNo + 1, rcvAdv := sequenceNo + 1 + w.state.rcvWnd, irs := sequenceNo }
    receiveQueue := .init (sequenceNo + 1) }
  rcvWndScale := w.rcvWndScale
  sndWs := w.sndWs
  rcvWs := w.rcvWs

/-- `processWSOption` -/
def readWindowScale (w : WindowReceiver) : WindowReceiver :=
  { w.withState { w.state with wsEnabled := w.state.wsSupport && w.sndWs } with rcvWs := true }

/-- The window scale option of a SYN segment that is sent. -/
def writeWindowScale (w : WindowReceiver) : WindowReceiver :=
  if w.state.wsSupport then
    let scaledRcvWnd := w.receiver.receiveQueue.getFirstSeqNo + w.state.maxRcvBuffer - w.state.rcvNxt
    { w.withState { w.state with wsEnabled := w.state.wsSupport && w.rcvWs } with
      rcvWndScale := shiftCount 14 (scaledRcvWnd.setWidth 64), sndWs := true }
  else w

/-- Returns the value for the header. -/
def updateRcvWnd (w : WindowReceiver) : Sim (WindowReceiver × BitVec 16) := do
  let receiver := w.receiver.updateRcvQueueVars
  let win := receiver.state.windowFor
  let rcvAdv := if win > 0 ∧ seqGE (receiver.state.rcvNxt + win) receiver.state.rcvAdv then
    receiver.state.rcvNxt + win else receiver.state.rcvAdv
  let state : TCPStateVariables := { receiver.state with rcvAdv := rcvAdv, rcvWnd := win }
  ensure (state.wsEnabled = true → w.rcvWndScale ≤ 14) "state->rcv_wnd_scale <= 14"
  let scaledRcvWnd : SeqNo := if state.wsEnabled then win >>> w.rcvWndScale else win
  ensure ((scaledRcvWnd.setWidth 16).setWidth 32 = scaledRcvWnd)
    "scaled_rcv_wnd == (unsigned short)scaled_rcv_wnd"
  return (w.withState state, scaledRcvWnd.setWidth 16)

end WindowReceiver

/-- What moves the window, in the order of the source within one segment: text goes into the
queue, text is forwarded, the FIN bit is looked at; segments may be sent in between. -/
inductive WindowEvent where
  | synReceived (sequenceNo : SeqNo)
  | readWindowScale
  | writeWindowScale
  | insertText (tcpseg : TCPSegment)
  | forwardText
  | takeFin (tcpseg : TCPSegment)
  | updateRcvWnd

namespace WindowReceiver

/-- The states of the connection that follow these events take no text. -/
def passes (event : TCPEventCode) : Bool := decide (event = .rcvFin ∨ event = .rcvFinAck)

def step (w : WindowReceiver) : WindowEvent → Sim WindowReceiver
  | .synReceived sequenceNo => .ok (w.synReceived sequenceNo)
  | .readWindowScale => .ok w.readWindowScale
  | .writeWindowScale => .ok w.writeWindowScale
  | .insertText tcpseg =>
    if w.finPassed ∨ tcpseg.payloadLength = 0 ∨ ¬ w.state.isSegmentAcceptable tcpseg then .ok w
    else do
      match ← w.receiver.insertText tcpseg with
      | none => return w
      | some (receiver, _) => return { w with receiver := receiver }
  | .forwardText =>
    if w.finPassed then .ok w
    else do
      let (receiver, event) ← w.receiver.forwardText .ignore
      return { w with receiver := receiver, finPassed := passes event }
  | .takeFin tcpseg =>
    let (receiver, event) := DataReceiver.processFin ⟨w.receiver, tcpseg, .ignore⟩
    .ok { w with receiver := receiver, finPassed := w.finPassed || passes event }
  | .updateRcvWnd => do
    let (w, _) ← w.updateRcvWnd
    return w

def run (w : WindowReceiver) : List WindowEvent → Sim WindowReceiver
  | [] => .ok w
  | e :: events => do
    let w ← w.step e
    w.run events

/-- The left edge is not behind the right one, the window is bounded, the right edge does not move
to the left, and the value for the header is the scaled window. -/
structure Advertises (w w' : WindowReceiver) (header : BitVec 16) : Prop where
  ordered : seqLE w.state.rcvNxt w.state.rcvAdv
  bounded : w'.state.rcvWnd.toNat ≤ max w'.state.freeRcvBuffer.toNat (w.state.rcvAdv - w.state.rcvNxt).toNat
  edge : seqLE w.state.rcvAdv w'.state.rcvAdv
  scaled : header.toNat = if w.state.wsEnabled then w'.state.rcvWnd.toNat / 2 ^ w.rcvWndScale
    else w'.state.rcvWnd.toNat

def CallMeets (w : WindowReceiver) : Prop :=
  ∃ w' header, w.updateRcvWnd = .ok (w', header) ∧ w.Advertises w' header

section WindowFor

variable (state : TCPStateVariables)

theorem avoidSillyWindow_le (win : SeqNo) : (state.avoidSillyWindow win).toNat ≤ win.toNat := by
  rw [avoidSillyWindow]
  split
  · exact Nat.zero_le _
  · exact Nat.le_refl _

theorem keepRightEdge_le (win : SeqNo) :
    (state.keepRightEdge win).toNat ≤ max win.toNat (state.rcvAdv - state.rcvNxt).toNat := by
  rw [keepRightEdge]
  split
  · exact Nat.le_max_right _ _
  · exact Nat.le_max_left _ _

theorem observeLimit_le (win : SeqNo) : (state.observeLimit win).toNat ≤ win.toNat := by
  rw [observeLimit]
  split
  · next h => exact Nat.le_of_lt (lt_def.mp h.1)
  · exact Nat.le_refl _

theorem windowFor_le :
    state.windowFor.toNat ≤ max state.freeRcvBuffer.toNat (state.rcvAdv - state.rcvNxt).toNat := by
  have h₁ := observeLimit_le state (state.keepRightEdge (state.avoidSillyWindow state.freeRcvBuffer))
  have h₂ := keepRightEdge_le state (state.avoidSillyWindow state.freeRcvBuffer)
  have h₃ := avoidSillyWindow_le state state.freeRcvBuffer
  rw [windowFor]
  omega

theorem windowFor_le_of_not_enabled (h : state.wsEnabled = false) : state.windowFor.toNat ≤ 65535 := by
  rw [windowFor, observeLimit]
  split
  · exact Nat.le_refl _
  · next hle => exact Nat.le_of_not_lt fun hgt => hle ⟨lt_def.mpr hgt, h⟩

end WindowFor

theorem shiftCount_le (left : Nat) (x : ULong) : shiftCount left x ≤ left := by
  induction left generalizing x with
  | zero => exact Nat.le_refl _
  | succ left ih =>
    rw [shiftCount]
    have := ih (x >>> 1)
    split <;> omega

/-- The shift count suffices where any does. -/
theorem shiftCount_fits (left : Nat) (x : ULong) (hx : x.toNat < 2 ^ 16 * 2 ^ left) :
    x.toNat / 2 ^ shiftCount left x < 2 ^ 16 := by
  induction left generalizing x with
  | zero => simpa [shiftCount] using hx
  | succ left ih =>
    rw [shiftCount]
    split
    · have hhalf : (x >>> 1).toNat = x.toNat / 2 := by simp [toNat_ushiftRight, Nat.shiftRight_eq_div_pow]
      have := ih (x >>> 1) (by rw [hhalf]; rw [Nat.pow_succ] at hx; omega)
      rwa [hhalf, Nat.div_div_eq_div_mul, ← Nat.pow_succ', Nat.succ_eq_one_add] at this
    · next hle =>
      have hsmall : x.toNat ≤ 65535 := by simpa [lt_def] using hle
      simpa using Nat.lt_succ_of_le hsmall

end WindowReceiver

end Inet.Tcp
