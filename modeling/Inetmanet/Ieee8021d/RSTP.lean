import Inetmanet.Ieee8021d.InterfaceData

/-!
# The Rapid Spanning Tree Protocol in one bridge

`RSTP.cc`. The functions change the state of the module one after the other, as the
source does. The frames sent to `relayOut` are kept in their order. What the source
does to the MAC address table is left out: no decision of the protocol reads it.
-/
namespace Inet.Ieee8021d

open List

inductive CompareResult where
  | WORSE_PORT
  | WORSE_SRC
  | WORSE_RPC
  | WORSE_ROOT
  | SIMILAR
  | BETTER_ROOT
  | BETTER_RPC
  | BETTER_SRC
  | BETTER_PORT
  deriving DecidableEq, Repr

/-- The number behind the result, by which the source compares it with 0. -/
def CompareResult.toInt : CompareResult → Int
  | .WORSE_PORT => -4
  | .WORSE_SRC => -3
  | .WORSE_RPC => -2
  | .WORSE_ROOT => -1
  | .SIMILAR => 0
  | .BETTER_ROOT => 1
  | .BETTER_RPC => 2
  | .BETTER_SRC => 3
  | .BETTER_PORT => 4

/-- The arguments are `int` in the source: numbers are compared with their signs, addresses without. -/
def compareRSTPData (v w : PriorityVector) : CompareResult :=
  if v.rootPriority ≠ w.rootPriority then
    if v.rootPriority.toInt < w.rootPriority.toInt then .WORSE_ROOT else .BETTER_ROOT
  else if v.rootAddress ≠ w.rootAddress then
    if v.rootAddress < w.rootAddress then .WORSE_ROOT else .BETTER_ROOT
  else if v.rootPathCost ≠ w.rootPathCost then
    if v.rootPathCost.toInt < w.rootPathCost.toInt then .WORSE_RPC else .BETTER_RPC
  else if v.bridgePriority ≠ w.bridgePriority then
    if v.bridgePriority.toInt < w.bridgePriority.toInt then .WORSE_SRC else .BETTER_SRC
  else if v.bridgeAddress ≠ w.bridgeAddress then
    if v.bridgeAddress < w.bridgeAddress then .WORSE_SRC else .BETTER_SRC
  else if v.portPriority ≠ w.portPriority then
    if v.portPriority.toInt < w.portPriority.toInt then .WORSE_PORT else .BETTER_PORT
  else if v.portNum ≠ w.portNum then
    if v.portNum.toInt < w.portNum.toInt then .WORSE_PORT else .BETTER_PORT
  else .SIMILAR

/-- Why a simulation stops. -/
inductive Error where
  /-- a port number that is no gate of the bridge -/
  | noSuchGate
  /-- not an error of the source: an event that does not occur in this state -/
  | noSuchEvent
  deriving DecidableEq, Repr

structure RSTP (n : Nat) extends STPBase where
  migrateTime : Time
  tcWhileTime : Time
  ports : Fin n → PortInfo
  hasCarrier : Fin n → Bool
  simTime : Time
  helloTimer : Option Time
  upgradeTimer : Option Time
  relayOut : List (BPDU × Fin n)

/-- What still has to be upgraded when its time comes. -/
def PortInfo.Upgrading (p : PortInfo) : Prop :=
  p.role = .NOTASSIGNED ∨ p.role = .DESIGNATED ∧ (p.state = .DISCARDING ∨ p.state = .LEARNING)
deriving Decidable

namespace RSTP

variable {n : Nat} (b : RSTP n)

def setPort (i : Fin n) (f : PortInfo → PortInfo) : RSTP n :=
  { b with ports := fun j => if j = i then f (b.ports j) else b.ports j }

/-- `getPortInterfaceEntry` -/
def gate (portNum : UInt) : Except Error (Fin n) :=
  if h : portNum.toNat < n then .ok ⟨portNum.toNat, h⟩ else .error .noSuchGate

def getRootIndex : Option (Fin n) := (finRange n).find? fun i => (b.ports i).role = .ROOT

/-- `getPortInterfaceData(getRootIndex())` -/
def rootPort : Except Error PortInfo :=
  match b.getRootIndex with
  | none => .error .noSuchGate
  | some r => .ok (b.ports r)

def scheduleNextUpgrde : RSTP n :=
  let nextInterfaceData := (finRange n).foldl (fun next i =>
    if b.hasCarrier i ∧ (b.ports i).Upgrading then
      match next with
      | none => some i
      | some j => if (b.ports i).nextUpgrade < (b.ports j).nextUpgrade then some i else some j
    else next) none
  { b with upgradeTimer := nextInterfaceData.map fun i => (b.ports i).nextUpgrade }

def flushOtherPorts : RSTP n :=
  { b with ports := fun i => { b.ports i with TCWhile := b.simTime + b.tcWhileTime } }

/-- The four statements that put a port into a new contest. -/
def toDesignated (i : Fin n) : RSTP n :=
  (b.setPort i fun p =>
    { p with role := .DESIGNATED, state := .DISCARDING, nextUpgrade := b.simTime + b.forwardDelay }).scheduleNextUpgrde

def initInterfacedata (i : Fin n) : RSTP n :=
  b.setPort i fun p => { p with toPriorityVector := b.ownVector, age := 0, lostBPDU := 0 }

def initPorts : RSTP n :=
  RSTP.scheduleNextUpgrde <| (finRange n).foldl (fun b j =>
    let b := b.setPort j fun p =>
      if ¬ p.edge then { p with role := .NOTASSIGNED, state := .DISCARDING, nextUpgrade := b.simTime + b.migrateTime }
      else { p with role := .DESIGNATED, state := .FORWARDING }
    b.initInterfacedata j) b

def updateInterfacedata (frame : BPDU) (i : Fin n) : RSTP n :=
  b.setPort i fun p =>
    { p with toPriorityVector := frame.over p.linkCost, age := frame.messageAge + second, lostBPDU := 0 }

/-- The port's best BPDU against the one this module would send there. -/
def contestPort (i : Fin n) : Except Error CompareResult := do
  let rootPort ← b.rootPort
  return compareRSTPData
    { rootPriority := rootPort.rootPriority, rootAddress := rootPort.rootAddress,
      rootPathCost := rootPort.rootPathCost + (b.ports i).linkCost, bridgePriority := b.bridgePriority,
      bridgeAddress := b.bridgeAddress, portPriority := (b.ports i).portPriority, portNum := BitVec.ofNat 32 i }
    (b.ports i).toPriorityVector

/-- A frame against the one this module would send through the port. -/
def contestFrame (frame : BPDU) (i : Fin n) : Except Error CompareResult := do
  let rootPort ← b.rootPort
  return compareRSTPData
    { rootPriority := rootPort.rootPriority, rootAddress := rootPort.rootAddress,
      rootPathCost := rootPort.rootPathCost, bridgePriority := b.bridgePriority,
      bridgeAddress := b.bridgeAddress, portPriority := (b.ports i).portPriority, portNum := BitVec.ofNat 32 i }
    frame.toPriorityVector

def compareInterfacedata (i : Fin n) (frame : BPDU) (linkCost : UInt) : CompareResult :=
  compareRSTPData (b.ports i).toPriorityVector (frame.over linkCost)

def getBestAlternate : Option (Fin n) :=
  (finRange n).foldl (fun candidate j =>
    if (b.ports j).role = .ALTERNATE then
      match candidate with
      | none => some j
      | some k =>
        if (compareRSTPData (b.ports j).toPriorityVector (b.ports k).toPriorityVector).toInt < 0 then some j else some k
    else candidate) none

/-- The frame of `sendBPDU` and `sendTCNtoRoot`. -/
def bpdu (rootPort : Option PortInfo) (port : Fin n) (tcFlag : Bool) : BPDU where
  rootPriority := (rootPort.map (·.rootPriority)).getD b.bridgePriority
  rootAddress := (rootPort.map (·.rootAddress)).getD b.bridgeAddress
  rootPathCost := (rootPort.map (·.rootPathCost)).getD 0
  bridgePriority := b.bridgePriority
  bridgeAddress := b.bridgeAddress
  portPriority := 0
  portNum := BitVec.ofNat 32 port
  bpduType := 0
  tcaFlag := false
  tcFlag := tcFlag
  messageAge := (rootPort.map (·.age)).getD 0
  maxAge := b.maxAge
  helloTime := b.helloTime
  forwardDelay := b.forwardDelay

def sendBPDU (port : Fin n) : RSTP n :=
  if (b.ports port).role ≠ .DISABLED then
    let frame := b.bpdu (b.getRootIndex.map b.ports) port (decide (b.simTime < (b.ports port).TCWhile))
    { b with relayOut := b.relayOut ++ [(frame, port)] }
  else b

def sendBPDUs : RSTP n :=
  (finRange n).foldl (fun b i =>
    if (b.ports i).role ≠ .ROOT ∧ (b.ports i).role ≠ .ALTERNATE ∧ (b.ports i).role ≠ .DISABLED ∧ ¬ (b.ports i).edge then
      b.sendBPDU i
    else b) b

def sendTCNtoRoot : RSTP n :=
  match b.getRootIndex with
  | none => b
  | some r =>
    if (b.ports r).role ≠ .DISABLED ∧ b.simTime < (b.ports r).TCWhile then
      { b with relayOut := b.relayOut ++ [(b.bpdu (some (b.ports r)) r true, r)] }
    else b

def handleUpgrade : RSTP n :=
  RSTP.scheduleNextUpgrde <| (finRange n).foldl (fun b i =>
    if b.hasCarrier i ∧ (b.ports i).nextUpgrade = b.simTime then
      if (b.ports i).role = .NOTASSIGNED then
        b.setPort i fun p =>
          { p with role := .DESIGNATED, state := .DISCARDING, nextUpgrade := b.simTime + b.forwardDelay }
      else if (b.ports i).role = .DESIGNATED then
        if (b.ports i).state = .DISCARDING then
          b.setPort i fun p => { p with state := .LEARNING, nextUpgrade := b.simTime + b.forwardDelay }
        else if (b.ports i).state = .LEARNING then
          (b.setPort i fun p => { p with state := .FORWARDING }).flushOtherPorts
        else b
      else b
    else b) b

/-- The loop body of `handleHelloTime`. -/
def helloPort (i : Fin n) : RSTP n :=
  if ¬ (b.ports i).edge ∧ ((b.ports i).role = .ROOT ∨ (b.ports i).role = .ALTERNATE ∨ (b.ports i).role = .BACKUP) then
    let b := b.setPort i fun p => { p with lostBPDU := p.lostBPDU + 1 }
    if 3 < (b.ports i).lostBPDU then
      let b :=
        if (b.ports i).role = .ROOT then
          match b.getBestAlternate with
          | some candidate =>
            let b := (b.toDesignated i).initInterfacedata i
            (b.setPort candidate fun p => { p with role := .ROOT, state := .FORWARDING, lostBPDU := 0 }).flushOtherPorts
          | none => b.initPorts
        else (b.toDesignated i).initInterfacedata i
      b.setPort i fun p => { p with lostBPDU := 0 }
    else b
  else b

def handleHelloTime : RSTP n :=
  let b := (finRange n).foldl helloPort b
  let b := b.sendBPDUs.sendTCNtoRoot
  { b with helloTimer := some (b.simTime + b.helloTime) }

def checkTC (frame : BPDU) (arrival : Fin n) : RSTP n :=
  if frame.tcFlag ∧ (b.ports arrival).state = .FORWARDING then
    { b with ports := fun i =>
        if i ≠ arrival then { b.ports i with TCWhile := b.simTime + b.tcWhileTime } else b.ports i }
  else b

def handleBackup (frame : BPDU) (arrivalPortNum : Fin n) : Except Error (RSTP n) :=
  let port := b.ports arrivalPortNum
  let arrivalNum := BitVec.ofNat 32 arrivalPortNum
  if frame.portPriority < port.portPriority ∨ frame.portPriority = port.portPriority ∧ frame.portNum < arrivalNum then
    .ok (b.setPort arrivalPortNum fun p => { p with role := .BACKUP, state := .DISCARDING, lostBPDU := 0 })
  else if port.portPriority < frame.portPriority ∨
      frame.portPriority = port.portPriority ∧ arrivalNum < frame.portNum then do
    let port2 ← gate frame.portNum
    return b.setPort port2 fun p => { p with role := .BACKUP, state := .DISCARDING, lostBPDU := 0 }
  else do
    let port2 ← gate frame.portNum
    return b.setPort port2 fun p => { p with role := .DISABLED, state := .DISCARDING }

/-- The loop of `processBetterSource` over the ports when the root changes. -/
def resetForRoot (arrivalPortNum : Fin n) : RSTP n :=
  (finRange n).foldl (fun b i =>
    if ¬ (b.ports i).edge then
      let b :=
        if (b.ports arrivalPortNum).state ≠ .FORWARDING then
          b.setPort i fun p => { p with TCWhile := b.simTime + b.tcWhileTime }
        else b
      if i ≠ arrivalPortNum then
        let b := b.setPort i fun p =>
          { p with role := .NOTASSIGNED, state := .DISCARDING, nextUpgrade := b.simTime + b.migrateTime }
        b.scheduleNextUpgrde.initInterfacedata i
      else b
    else b) b

/-- `setRole(ROOT)`, `setState(FORWARDING)`, `setLostBPDU(0)` -/
def becomeRoot (i : Fin n) : RSTP n :=
  b.setPort i fun p => { p with role := .ROOT, state := .FORWARDING, lostBPDU := 0 }

/-- `setRole(ALTERNATE)`, `setState(DISCARDING)`, `setLostBPDU(0)` -/
def becomeAlternate (i : Fin n) : RSTP n :=
  b.setPort i fun p => { p with role := .ALTERNATE, state := .DISCARDING, lostBPDU := 0 }

/-- `SIMILAR`: a double link to the same port of the root source. -/
def similarToRoot (r arrivalPortNum : Fin n) : RSTP n :=
  if (b.ports r).portPriority < (b.ports arrivalPortNum).portPriority ∨
      (b.ports r).portPriority = (b.ports arrivalPortNum).portPriority ∧ r < arrivalPortNum then
    b.becomeAlternate arrivalPortNum
  else
    let b := if (b.ports arrivalPortNum).state ≠ .FORWARDING then b.flushOtherPorts else b
    let b := b.setPort r fun p => { p with role := .ALTERNATE, state := .DISCARDING }
    b.becomeRoot arrivalPortNum

/-- `BETTER_RPC`, `BETTER_SRC` and `BETTER_PORT` -/
def betterRoute (r arrivalPortNum : Fin n) : Except Error (RSTP n) := do
  let b := if (b.ports arrivalPortNum).state ≠ .FORWARDING then b.flushOtherPorts else b
  let b := b.becomeRoot arrivalPortNum
  let b := b.setPort r fun p => { p with role := .ALTERNATE }
  let case3 ← b.contestPort r
  if 0 ≤ case3.toInt then
    return b.setPort r fun p => { p with role := .ALTERNATE, state := .DISCARDING }
  else
    return b.toDesignated r

/-- `WORSE_RPC`, `WORSE_SRC` and `WORSE_PORT` -/
def worseRoute (frame : BPDU) (arrivalPortNum : Fin n) : Except Error (RSTP n) := do
  let case3 ← b.contestFrame frame arrivalPortNum
  if case3.toInt < 0 then
    return (b.toDesignated arrivalPortNum).sendBPDU arrivalPortNum
  else
    return b.becomeAlternate arrivalPortNum

/-- The result also says whether to flood. -/
def processBetterSource (frame : BPDU) (arrivalPortNum : Fin n) : Except Error (RSTP n × Bool) :=
  let b := b.updateInterfacedata frame arrivalPortNum
  match b.getRootIndex with
  | none => .ok ((b.becomeRoot arrivalPortNum).flushOtherPorts, true)
  | some r =>
    match b.compareInterfacedata r frame (b.ports arrivalPortNum).linkCost with
    | .SIMILAR => .ok (b.similarToRoot r arrivalPortNum, false)
    | .BETTER_ROOT => .ok ((b.resetForRoot arrivalPortNum).becomeRoot arrivalPortNum, true)
    | .BETTER_RPC | .BETTER_SRC | .BETTER_PORT => (b.betterRoute r arrivalPortNum).map (·, true)
    | .WORSE_ROOT => .ok (b.sendBPDU arrivalPortNum, false)
    | .WORSE_RPC | .WORSE_SRC | .WORSE_PORT => (b.worseRoute frame arrivalPortNum).map (·, false)

/-- `WORSE_ROOT` on the root port -/
def worseRootOnRoot (frame : BPDU) (arrivalPortNum : Fin n) : RSTP n × Bool :=
  match b.getBestAlternate with
  | some alternative =>
    let b := (b.toDesignated arrivalPortNum).flushOtherPorts
    let b := b.setPort alternative fun p => { p with role := .ROOT, state := .FORWARDING }
    let b := b.updateInterfacedata frame arrivalPortNum
    (b.sendBPDU arrivalPortNum, false)
  | none =>
    let b := b.initPorts
    if 0 < (b.compareInterfacedata arrivalPortNum frame (b.ports arrivalPortNum).linkCost).toInt then
      let b := b.updateInterfacedata frame arrivalPortNum
      (b.setPort arrivalPortNum fun p => { p with role := .ROOT, state := .FORWARDING }, true)
    else (b, true)

/-- The change of roles when the alternate port is better than the new route of the root port. -/
def changeRoot (frame : BPDU) (arrivalPortNum alternative : Fin n) : Except Error (RSTP n) := do
  let b := b.setPort alternative fun p => { p with role := .ROOT, state := .FORWARDING }
  let b := b.setPort arrivalPortNum fun p => { p with role := .DESIGNATED }
  let case3 ← b.contestFrame frame arrivalPortNum
  if case3.toInt < 0 then
    return (b.toDesignated arrivalPortNum).flushOtherPorts
  else
    return (b.setPort arrivalPortNum fun p => { p with role := .ALTERNATE, state := .DISCARDING }).flushOtherPorts

/-- `WORSE_RPC`, `WORSE_SRC` and `WORSE_PORT` on the root port -/
def worseRouteOnRoot (frame : BPDU) (arrivalPortNum : Fin n) : Except Error (RSTP n) :=
  let b := b.setPort arrivalPortNum fun p => { p with lostBPDU := 0 }
  match b.getBestAlternate with
  | some alternative =>
    if (b.compareInterfacedata alternative frame (b.ports arrivalPortNum).linkCost).toInt < 0 then
      b.changeRoot frame arrivalPortNum alternative
    else .ok b
  | none => .ok b

/-- `WORSE_RPC`, `WORSE_SRC` and `WORSE_PORT` on an alternate port -/
def worseRouteOnAlternate (frame : BPDU) (arrivalPortNum : Fin n) : Except Error (RSTP n) := do
  let case2 ← b.contestFrame frame arrivalPortNum
  if case2.toInt < 0 then
    return (b.toDesignated arrivalPortNum).sendBPDU arrivalPortNum
  else
    return b.setPort arrivalPortNum fun p => { p with lostBPDU := 0 }

def processSameSource (frame : BPDU) (arrivalPortNum : Fin n) : Except Error (RSTP n × Bool) :=
  match b.compareInterfacedata arrivalPortNum frame (b.ports arrivalPortNum).linkCost with
  | .SIMILAR => .ok (b.setPort arrivalPortNum fun p => { p with lostBPDU := 0 }, false)
  | .WORSE_ROOT =>
    if (b.ports arrivalPortNum).role = .ROOT then
      .ok (b.worseRootOnRoot frame arrivalPortNum)
    else if (b.ports arrivalPortNum).role = .ALTERNATE then
      let b := (b.toDesignated arrivalPortNum).updateInterfacedata frame arrivalPortNum
      .ok (b.sendBPDU arrivalPortNum, false)
    else .ok (b, false)
  | .WORSE_RPC | .WORSE_SRC | .WORSE_PORT =>
    if (b.ports arrivalPortNum).role = .ROOT then
      (b.worseRouteOnRoot frame arrivalPortNum).map fun b => (b.updateInterfacedata frame arrivalPortNum, true)
    else if (b.ports arrivalPortNum).role = .ALTERNATE then
      (b.worseRouteOnAlternate frame arrivalPortNum).map fun b => (b.updateInterfacedata frame arrivalPortNum, false)
    else .ok (b.updateInterfacedata frame arrivalPortNum, false)
  -- no case of the source's `switch`
  | .BETTER_ROOT | .BETTER_RPC | .BETTER_SRC | .BETTER_PORT => .ok (b, false)

/-- The first of the three challenges, against the best BPDU of the port. -/
def challenge (frame : BPDU) (arrivalPortNum : Fin n) : Except Error (RSTP n × Bool) :=
  let arrivalPort := b.ports arrivalPortNum
  if 0 < (b.compareInterfacedata arrivalPortNum frame arrivalPort.linkCost).toInt ∧ frame.rootAddress ≠ b.bridgeAddress then
    b.processBetterSource frame arrivalPortNum
  else if frame.bridgeAddress = arrivalPort.bridgeAddress ∧ frame.rootAddress ≠ b.bridgeAddress then
    b.processSameSource frame arrivalPortNum
  else .ok (b, false)

def processBPDU (frame : BPDU) (arrivalPortNum : Fin n) : Except Error (RSTP n) :=
  (b.challenge frame arrivalPortNum).map fun (b, flood) => if flood then b.sendBPDUs.sendTCNtoRoot else b

def handleIncomingFrame (frame : BPDU) (src : MACAddress) (arrivalPortNum : Fin n) : Except Error (RSTP n) :=
  if frame.messageAge < b.maxAge then
    let b := b.checkTC frame arrivalPortNum
    if src = b.bridgeAddress then b.handleBackup frame arrivalPortNum else b.processBPDU frame arrivalPortNum
  else .ok b

/-- An interface that gets its carrier starts its waiting time again. -/
def receiveChangeNotification (i : Fin n) : RSTP n :=
  if b.hasCarrier i then
    let b :=
      if (b.ports i).role = .NOTASSIGNED then
        b.setPort i fun p => { p with nextUpgrade := b.simTime + b.migrateTime }
      else if (b.ports i).role = .DESIGNATED ∧ ((b.ports i).state = .DISCARDING ∨ (b.ports i).state = .LEARNING) then
        b.setPort i fun p => { p with nextUpgrade := b.simTime + b.forwardDelay }
      else b
    b.scheduleNextUpgrde
  else b

/-- After `initialize`. -/
def initialized : RSTP n := { b.initPorts with helloTimer := some b.simTime }

/-- What happens to a bridge. -/
inductive Event (n : Nat) where
  | bpdu (frame : BPDU) (src : MACAddress) (arrivalPortNum : Fin n)
  | helloTimer
  | upgradeTimer
  /-- `NF_INTERFACE_STATE_CHANGED`, with the carrier the interface now has -/
  | interfaceStateChanged (i : Fin n) (hasCarrier : Bool)
  /-- time passes, not beyond a timer -/
  | elapse (simTime : Time)

def handleMessage : Event n → Except Error (RSTP n)
  | .bpdu frame src arrivalPortNum => b.handleIncomingFrame frame src arrivalPortNum
  | .helloTimer =>
    if b.helloTimer = some b.simTime then .ok (RSTP.handleHelloTime { b with helloTimer := none })
    else .error .noSuchEvent
  | .upgradeTimer =>
    if b.upgradeTimer = some b.simTime then .ok (RSTP.handleUpgrade { b with upgradeTimer := none })
    else .error .noSuchEvent
  | .interfaceStateChanged i hasCarrier =>
    .ok (RSTP.receiveChangeNotification { b with hasCarrier := Function.update b.hasCarrier i hasCarrier } i)
  | .elapse simTime =>
    if b.simTime ≤ simTime ∧ (∀ t ∈ b.helloTimer, simTime ≤ t) ∧ ∀ t ∈ b.upgradeTimer, simTime ≤ t then
      .ok { b with simTime := simTime }
    else .error .noSuchEvent

end RSTP

end Inet.Ieee8021d
