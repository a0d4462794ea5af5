import Inetmanet.Ieee8021d.InterfaceData

/-!
# The Spanning Tree Protocol in one bridge

`STP.cc`. Roles are chosen anew from the stored vectors after every BPDU. The frames
sent to `relayOut` are kept in their order, with their destination and port. What the
source does to the MAC address table is left out: no decision of the protocol reads it.
-/
namespace Inet.Ieee8021d

/-- 1: A is superior, -1: B is superior. -/
def compareBridgeIDs (aPriority : UInt) (aAddress : MACAddress) (bPriority : UInt) (bAddress : MACAddress) : Int :=
  if aPriority < bPriority then 1
  else if bPriority < aPriority then -1
  else if aAddress < bAddress then 1
  else if bAddress < aAddress then -1
  else 0

def comparePortIDs (aPriority aNum bPriority bNum : UInt) : Int :=
  if aPriority < bPriority then 1
  else if bPriority < aPriority then -1
  else if aNum < bNum then 1
  else if bNum < aNum then -1
  else 0

def comparePorts (portA portB : PriorityVector) : Int :=
  let result := compareBridgeIDs portA.rootPriority portA.rootAddress portB.rootPriority portB.rootAddress
  if result ≠ 0 then result
  else if portA.rootPathCost < portB.rootPathCost then 1
  else if portB.rootPathCost < portA.rootPathCost then -1
  else
    let result := compareBridgeIDs portA.bridgePriority portA.bridgeAddress portB.bridgePriority portB.bridgeAddress
    if result ≠ 0 then result
    else comparePortIDs portA.portPriority portA.portNum portB.portPriority portB.portNum

def STP_MULTICAST_ADDRESS : MACAddress := 0x0180C2000000

/-- The `helloTime` of the base class is hidden by a counter of the same name, which is the one here. -/
structure STP (n : Nat) extends STPBase where
  ports : Fin n → PortInfo
  isRoot : Bool
  rootPort : Fin n
  desPorts : List (Fin n)
  rootPathCost : UInt
  rootPriority : UInt
  rootAddress : MACAddress
  currentMaxAge : Time
  currentFwdDelay : Time
  currentHelloTime : Time
  currentBridgePriority : UInt
  topologyChangeNotification : Bool
  topologyChangeRecvd : Bool
  relayOut : List (BPDU × MACAddress × Fin n)

namespace STP

variable {n : Nat} (b : STP n)

def setPort (i : Fin n) (f : PortInfo → PortInfo) : STP n :=
  { b with ports := fun j => if j = i then f (b.ports j) else b.ports j }

def initInterfacedata (portNum : Fin n) : STP n :=
  b.setPort portNum fun ifd =>
    { ifd with role := .NOTASSIGNED, state := .DISCARDING, toPriorityVector := b.ownVector, age := 0, lostBPDU := 0 }

/-- The frame of `generateBPDU`. -/
def bpdu (port : Fin n) (tcFlag tcaFlag : Bool) : BPDU where
  rootPriority := b.rootPriority
  rootAddress := b.rootAddress
  rootPathCost := b.rootPathCost
  bridgePriority := b.bridgePriority
  bridgeAddress := b.bridgeAddress
  portPriority := (b.ports port).priority
  portNum := BitVec.ofNat 32 port
  bpduType := 0
  tcaFlag := b.topologyChangeNotification && !(b.isRoot || tcFlag) && tcaFlag
  tcFlag := b.topologyChangeNotification && (b.isRoot || tcFlag)
  messageAge := 0
  maxAge := b.currentMaxAge
  helloTime := b.currentHelloTime
  forwardDelay := b.currentFwdDelay

def generateBPDU (port : Fin n) (address : MACAddress) (tcFlag tcaFlag : Bool) : STP n :=
  { b with relayOut := b.relayOut ++ [(b.bpdu port tcFlag tcaFlag, address, port)] }

def tcnBPDU : BPDU where
  rootPriority := 0
  rootAddress := 0
  rootPathCost := 0
  bridgePriority := 0
  bridgeAddress := 0
  portPriority := 0
  portNum := 0
  bpduType := 1
  tcaFlag := false
  tcFlag := false
  messageAge := 0
  maxAge := 0
  helloTime := 0
  forwardDelay := 0

def generateTCN : STP n :=
  if (b.topologyChangeNotification || !b.topologyChangeRecvd) ∧ (b.ports b.rootPort).role = .ROOT then
    { b with
      topologyChangeNotification := false
      relayOut := b.relayOut ++ [(tcnBPDU, STP_MULTICAST_ADDRESS, b.rootPort)] }
  else b

def setSuperiorBPDU (portNum : Fin n) (frame : BPDU) : STP n :=
  if frame.maxAge ≤ frame.messageAge then b
  else b.setPort portNum fun portData =>
    { portData with
      toPriorityVector := frame.over portData.linkCost
      maxAge := frame.maxAge
      fwdDelay := frame.forwardDelay
      helloTime := frame.helloTime
      age := 0 }

def isSuperiorBPDU (portNum : Fin n) (frame : BPDU) : STP n × Bool :=
  let result := comparePorts (b.ports portNum).toPriorityVector (frame.over (b.ports portNum).linkCost)
  if 0 < result then (b, false)
  else if result < 0 then
    ((b.setPort portNum fun port => { port with fdWhile := 0, state := .DISCARDING }).setSuperiorBPDU portNum frame, true)
  else (b.setSuperiorBPDU portNum frame, true)

/-- The port has heard of a better root than this bridge. -/
def Better (i : Fin n) : Prop :=
  0 < compareBridgeIDs (b.ports i).rootPriority (b.ports i).rootAddress b.bridgePriority b.bridgeAddress
deriving Decidable

def checkRootEligibility : Bool := decide (∀ i, ¬ b.Better i)

/-- No round of the loop depends on another one. -/
def setAllDesignated : STP n :=
  { b with
    ports := fun i => if (b.ports i).role = .DISABLED then b.ports i else { b.ports i with role := .DESIGNATED }
    desPorts := (List.finRange n).filter fun i => (b.ports i).role ≠ .DISABLED }

/-- The best port in the loop of `selectRootPort`, which starts with port 0. -/
def bestPort : Fin n :=
  (List.finRange n).foldl (fun best i =>
    let result := comparePorts (b.ports i).toPriorityVector (b.ports best).toPriorityVector
    if 0 < result then i
    else if result < 0 then best
    else if (b.ports i).priority < (b.ports best).priority then i
    else best) ⟨0, b.rootPort.pos⟩

def selectRootPort : STP n :=
  let xRootPort := b.bestPort
  let best := b.ports xRootPort
  { b with
    ports := fun i => { b.ports i with role := if i = xRootPort then .ROOT else .NOTASSIGNED }
    desPorts := []
    topologyChangeNotification := b.topologyChangeNotification || decide (b.rootPort ≠ xRootPort)
    rootPort := xRootPort
    rootPathCost := best.rootPathCost
    rootAddress := best.rootAddress
    rootPriority := best.rootPriority
    currentMaxAge := best.maxAge
    currentFwdDelay := best.fwdDelay
    currentHelloTime := best.helloTime }

def bridgeGlobal (i : Fin n) : PriorityVector where
  rootPriority := b.rootPriority
  rootAddress := b.rootAddress
  rootPathCost := b.rootPathCost + (b.ports i).linkCost
  bridgePriority := b.bridgePriority
  bridgeAddress := b.bridgeAddress
  portPriority := (b.ports i).priority
  portNum := BitVec.ofNat 32 i

/-- What `selectDesignatedPorts` makes of the role of a port. -/
def contest (i : Fin n) : PortRole :=
  let result := comparePorts (b.bridgeGlobal i) (b.ports i).toPriorityVector
  if (b.ports i).role = .ROOT ∨ (b.ports i).role = .DISABLED then (b.ports i).role
  else if 0 < result then .DESIGNATED
  else if result < 0 then .ALTERNATE
  else (b.ports i).role

/-- No round of the loop depends on another one. -/
def selectDesignatedPorts : STP n :=
  { b with
    ports := fun i => { b.ports i with role := b.contest i }
    desPorts := (List.finRange n).filter fun i =>
      ¬ ((b.ports i).role = .ROOT ∨ (b.ports i).role = .DISABLED) ∧
        0 < comparePorts (b.bridgeGlobal i) (b.ports i).toPriorityVector }

def tryRoot : STP n :=
  if b.checkRootEligibility then
    { { b with isRoot := true }.setAllDesignated with
      rootPriority := b.bridgePriority
      rootAddress := b.bridgeAddress
      rootPathCost := 0
      currentHelloTime := b.helloTime
      currentMaxAge := b.maxAge
      currentFwdDelay := b.forwardDelay }
  else { b with isRoot := false }.selectRootPort.selectDesignatedPorts

/-- BPDUs on all designated ports -/
def relayBPDU (tcFlag : Bool) : STP n :=
  b.desPorts.foldl (fun b i => b.generateBPDU i STP_MULTICAST_ADDRESS tcFlag false) b

def handleBPDU (frame : BPDU) (arrivalGate : Fin n) : STP n :=
  let b :=
    if frame.tcaFlag then { b with topologyChangeRecvd := true, topologyChangeNotification := false } else b
  let (b, superior) := b.isSuperiorBPDU arrivalGate frame
  let b :=
    if ¬ superior then
      if (b.ports arrivalGate).role = .DESIGNATED then b.generateBPDU arrivalGate STP_MULTICAST_ADDRESS false false else b
    else if (b.ports arrivalGate).role = .ROOT then b.relayBPDU frame.tcFlag
    else b
  b.tryRoot

def handleTCN (tcn : BPDU) (src dest : MACAddress) (arrivalGate : Fin n) : STP n :=
  let b := { b with topologyChangeNotification := true }
  let b := b.generateBPDU arrivalGate src false true
  if ¬ b.isRoot then { b with relayOut := b.relayOut ++ [(tcn, dest, b.rootPort)] } else b

def generateHelloBDPUs : STP n :=
  (List.finRange n).foldl (fun b i => b.generateBPDU i STP_MULTICAST_ADDRESS false false) b

def lostRoot : STP n := { b with topologyChangeNotification := true }.tryRoot

def lostAlternate : STP n := { b.selectDesignatedPorts with topologyChangeNotification := true }

/-- A round of the information age check. -/
def checkAge (i : Fin n) : STP n :=
  if b.currentMaxAge ≤ (b.ports i).age then
    if (b.ports i).role = .ROOT then (b.initInterfacedata i).lostRoot else (b.initInterfacedata i).lostAlternate
  else b

/-- A round of the check of `fdWhile`. -/
def checkFdWhile (port : PortInfo) : PortInfo :=
  if port.role = .ROOT ∨ port.role = .DESIGNATED then
    if b.currentFwdDelay ≤ port.fdWhile then
      match port.state with
      | .DISCARDING => { port with state := .LEARNING, fdWhile := 0 }
      | .LEARNING => { port with state := .FORWARDING, fdWhile := 0 }
      | .FORWARDING => { port with fdWhile := 0 }
    else port
  else { port with fdWhile := 0, state := .DISCARDING }

def checkHello : STP n :=
  if b.currentHelloTime ≤ b.helloTime then { (if b.isRoot then b.generateHelloBDPUs else b) with helloTime := 0 } else b

def checkTimers : STP n :=
  let b := (List.finRange n).foldl checkAge b.checkHello
  { b with ports := fun i => b.checkFdWhile (b.ports i) }

def reset : STP n :=
  { b with
    isRoot := true
    rootPriority := b.bridgePriority
    rootAddress := b.bridgeAddress
    rootPathCost := 0
    currentHelloTime := b.helloTime
    currentMaxAge := b.maxAge
    currentFwdDelay := b.forwardDelay }.setAllDesignated

def checkParametersChange : STP n :=
  let b :=
    if b.isRoot then
      { b with currentHelloTime := b.helloTime, currentMaxAge := b.maxAge, currentFwdDelay := b.forwardDelay }
    else b
  if b.currentBridgePriority ≠ b.bridgePriority then { b with currentBridgePriority := b.bridgePriority }.reset else b

/-- `tickInterval` is one second. -/
def tickPort (port : PortInfo) : PortInfo :=
  if port.role = .DISABLED then port
  else
    { port with
      age := if port.role ≠ .DESIGNATED then port.age + second else port.age
      fdWhile := if port.role = .ROOT ∨ port.role = .DESIGNATED then port.fdWhile + second else port.fdWhile }

/-- `handleTick` up to `checkTimers` -/
def countTick : STP n :=
  { b with helloTime := if b.isRoot then b.helloTime + second else 0, ports := fun i => tickPort (b.ports i) }

def handleTick : STP n := b.countTick.checkTimers.checkParametersChange.generateTCN

/-- After `initialize`. -/
def initialized : STP n :=
  let b := { b with ports := fun i => (b.initInterfacedata i).ports i }
  { b with
    isRoot := true
    topologyChangeNotification := false
    topologyChangeRecvd := true
    rootPriority := b.bridgePriority
    rootAddress := b.bridgeAddress
    rootPathCost := 0
    rootPort := ⟨0, b.rootPort.pos⟩
    currentHelloTime := 0
    currentMaxAge := b.maxAge
    currentFwdDelay := b.forwardDelay
    currentBridgePriority := b.bridgePriority
    helloTime := 0 }.setAllDesignated

/-- What happens to a bridge. -/
inductive Event (n : Nat) where
  | bpdu (frame : BPDU) (src dest : MACAddress) (arrivalGate : Fin n)
  | tick

/-- Other types of BPDUs are ignored. -/
def handleMessage : Event n → STP n
  | .bpdu frame src dest arrivalGate =>
    if frame.bpduType = 0 then b.handleBPDU frame arrivalGate
    else if frame.bpduType = 1 then b.handleTCN frame src dest arrivalGate
    else b
  | .tick => b.handleTick

end STP

end Inet.Ieee8021d
