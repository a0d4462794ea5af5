import Inetmanet.Arp.ARP

/-!
# Ports of a bridge

`Ieee8021dInterfaceData.h`, `Ieee8021dBPDU.msg` and `STPBase.h`. The seven fields
by which ports and BPDUs are compared are one structure.
-/
namespace Inet.Ieee8021d

export Inet.Arp (MACAddress Time)

/-- `unsigned int` -/
abbrev UInt := BitVec 32

/-- One second in units of `simtime_t`. -/
def second : Time := 1000000000000

inductive PortRole where
  | ALTERNATE
  | NOTASSIGNED
  | DISABLED
  | DESIGNATED
  | BACKUP
  | ROOT
  deriving DecidableEq, Repr

inductive PortState where
  | DISCARDING
  | LEARNING
  | FORWARDING
  deriving DecidableEq, Repr

/-- What a port or a BPDU says of the root and of the way to it. -/
structure PriorityVector where
  rootPriority : UInt
  rootAddress : MACAddress
  rootPathCost : UInt
  bridgePriority : UInt
  bridgeAddress : MACAddress
  portPriority : UInt
  portNum : UInt
  deriving DecidableEq, Repr

structure PortInfo extends PriorityVector where
  priority : UInt
  linkCost : UInt
  edge : Bool
  state : PortState
  role : PortRole
  age : Time
  maxAge : Time
  fdWhile : Time
  fwdDelay : Time
  helloTime : Time
  TCWhile : Time
  lostBPDU : UInt
  nextUpgrade : Time
  deriving DecidableEq, Repr

structure BPDU extends PriorityVector where
  bpduType : UInt
  tcaFlag : Bool
  tcFlag : Bool
  messageAge : Time
  maxAge : Time
  helloTime : Time
  forwardDelay : Time
  deriving DecidableEq, Repr

/-- The vector of a frame as the port behind a link of this cost sees it. -/
def BPDU.over (frame : BPDU) (linkCost : UInt) : PriorityVector :=
  { frame.toPriorityVector with rootPathCost := frame.rootPathCost + linkCost }

structure STPBase where
  bridgePriority : UInt
  bridgeAddress : MACAddress
  maxAge : Time
  helloTime : Time
  forwardDelay : Time
  deriving DecidableEq, Repr

/-- The vector of a port that has heard nothing: `setPortPriority(-1)`, `setPortNum(-1)`. -/
def STPBase.ownVector (b : STPBase) : PriorityVector where
  rootPriority := b.bridgePriority
  rootAddress := b.bridgeAddress
  rootPathCost := 0
  bridgePriority := b.bridgePriority
  bridgeAddress := b.bridgeAddress
  portPriority := -1
  portNum := -1

end Inet.Ieee8021d
