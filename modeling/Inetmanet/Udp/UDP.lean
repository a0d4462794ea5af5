import Inetmanet.Lib.Ensures
import Inetmanet.Ipv4.IPv4
import Inetmanet.Ipv6.AddressGrammar

/-!
# The sockets of UDP

The commands of the applications on the tables of sockets, and the socket that a
unicast packet goes to. A pointer to a `SockDesc` is the key it has in `socketsByIdMap`.
-/
namespace Inet.Udp

open Ipv4 Ipv6 Function

/-- The null address is always `.ipv4 0`. -/
inductive IPvXAddress where
  | ipv4 (addr : IPv4Address)
  | ipv6 (addr : IPv6Address)
  deriving DecidableEq

def IPvXAddress.isUnspecified : IPvXAddress → Bool
  | .ipv4 addr => addr == 0
  | .ipv6 _ => false

structure SockDesc where
  sockId : Int
  appGateIndex : Int
  isBound : Bool := false
  onlyLocalPortIsSet : Bool := false
  reuseAddr : Bool := false
  localAddr : IPvXAddress := .ipv4 0
  remoteAddr : IPvXAddress := .ipv4 0
  localPort : Int := -1
  remotePort : Int := -1
  deriving DecidableEq

structure UDP where
  socketsByIdMap : Int → Option SockDesc
  socketsByPortMap : Int → Option (List Int)
  lastEphemeralPort : Nat

namespace UDP

variable (u : UDP)

/-- What `socketsByPortMap[port]` is. -/
def portList (port : Int) : List Int := (u.socketsByPortMap port).getD []

def setPortList (port : Int) (list : List Int) : UDP :=
  { u with socketsByPortMap := update u.socketsByPortMap port (some list) }

def pushBack (port sockId : Int) : UDP := u.setPortList port (u.portList port ++ [sockId])

def store (sd : SockDesc) : UDP := { u with socketsByIdMap := update u.socketsByIdMap sd.sockId (some sd) }

/-- `lastEphemeralPort++`, and the wrap from 5000 to 1024. -/
def nextEphemeralPort (port : Nat) : Nat := if port + 1 = 5000 then 1024 else port + 1

/-- The loop of `getEphemeralPort`, which is over once it has tried the whole range. -/
def searchPort (searchUntil : Nat) : Nat → Nat → Sim Nat
  | 0, _ => .error .diverges
  | fuel + 1, port =>
    if (u.socketsByPortMap port).isSome then
      if port = searchUntil then
        .error (.runtime "Ephemeral port range %d..%d exhausted, all ports occupied")
      else searchPort searchUntil fuel (nextEphemeralPort port)
    else .ok port

def getEphemeralPort : Sim (Int × UDP) :=
  (u.searchPort u.lastEphemeralPort (5000 - 1024) (nextEphemeralPort u.lastEphemeralPort)).map fun (port : Nat) =>
    (port, { u with lastEphemeralPort := port })

def createSocket (sockId gateIndex : Int) (localAddr : IPvXAddress) (localPort : Int) : Sim (SockDesc × UDP) := do
  let (port, u) ← (if localPort = -1 then u.getEphemeralPort else .ok (localPort, u) : Sim (Int × UDP))
  let sd : SockDesc :=
    { sockId, appGateIndex := gateIndex, localAddr, localPort := port,
      onlyLocalPortIsSet := localAddr.isUnspecified }
  pure (sd, (u.store sd).pushBack port sockId)

def getOrCreateSocket (sockId gateIndex : Int) : Sim (SockDesc × UDP) :=
  if sockId = -1 then .error (.runtime "sockId in UDP command not filled in")
  else match u.socketsByIdMap sockId with
    | some sd => .ok (sd, u)
    | none => u.createSocket sockId gateIndex (.ipv4 0) (-1)

/-- The sockets on a port, in the order of the list. -/
def socketsOn (port : BitVec 16) : List SockDesc := (u.portList port.toNat).filterMap u.socketsByIdMap

def findFirstSocketByLocalAddress (localAddr : IPvXAddress) (localPort : BitVec 16) : Option SockDesc :=
  (u.socketsOn localPort).find? fun sd => sd.localAddr.isUnspecified || sd.localAddr = localAddr

def bind (sockId gateIndex : Int) (localAddr : IPvXAddress) (localPort : Int) : Sim UDP :=
  let existing := u.findFirstSocketByLocalAddress localAddr (.ofInt 16 localPort)
  if sockId = -1 then .error (.runtime "sockId in BIND message not filled in")
  else if localPort < -1 ∨ localPort > 65535 then .error (.runtime "bind: invalid local port number %d")
  else if existing.any fun existing => (u.socketsByIdMap sockId).all fun sd => !sd.reuseAddr || !existing.reuseAddr then
    .error (.runtime "bind: local address/port %s:%u already taken")
  else match u.socketsByIdMap sockId with
    | some sd =>
      if sd.isBound then .error (.runtime "bind: socket is already bound (sockId=%d)")
      else if localPort ≠ -1 ∧ sd.localPort ≠ localPort then
        let u := u.setPortList sd.localPort ((u.portList sd.localPort).filter (· != sockId))
        .ok ((u.store { sd with isBound := true, localAddr, localPort }).pushBack localPort sockId)
      else .ok (u.store { sd with isBound := true, localAddr })
    | none => (u.createSocket sockId gateIndex localAddr localPort).map fun (sd, u) => u.store { sd with isBound := true }

def connect (sockId gateIndex : Int) (remoteAddr : IPvXAddress) (remotePort : Int) : Sim UDP :=
  if remoteAddr.isUnspecified then .error (.runtime "connect: unspecified remote address")
  else if remotePort ≤ 0 ∨ remotePort > 65535 then .error (.runtime "connect: invalid remote port number %d")
  else (u.getOrCreateSocket sockId gateIndex).map fun (sd, u) =>
    u.store { sd with remoteAddr, remotePort, onlyLocalPortIsSet := false }

def setReuseAddress (sockId gateIndex : Int) (reuseAddr : Bool) : Sim UDP :=
  (u.getOrCreateSocket sockId gateIndex).map fun (sd, u) => u.store { sd with reuseAddr }

/-- The packet itself is left out. -/
def processPacketFromApp (sockId gateIndex : Int) (destAddr : IPvXAddress) (destPort : Int) : Sim UDP := do
  let (sd, u) ← u.getOrCreateSocket sockId gateIndex
  let destAddr := if destAddr.isUnspecified then sd.remoteAddr else destAddr
  let destPort := if destPort = -1 then sd.remotePort else destPort
  if destAddr.isUnspecified ∨ destPort = -1 then
    .error (.runtime "send: missing destination address or port when sending over unconnected port")
  -- the parameter of `sendDown` is a `ushort`
  else if BitVec.ofInt 16 destPort = 0 then .error (.runtime "send invalid remote port number %d")
  else .ok u

def close (sockId : Int) : Sim UDP :=
  match u.socketsByIdMap sockId with
  | none => .error (.runtime "socket id=%d doesn't exist (already closed?)")
  | some sd =>
    let list := (u.portList sd.localPort).erase sockId
    .ok { u with
      socketsByIdMap := update u.socketsByIdMap sockId none
      socketsByPortMap := update u.socketsByPortMap sd.localPort (if list.isEmpty then none else some list) }

def accepts (localAddr remoteAddr : IPvXAddress) (remotePort : BitVec 16) (sd : SockDesc) : Bool :=
  sd.onlyLocalPortIsSet || (sd.remotePort = -1 || sd.remotePort = remotePort.toNat) &&
    (sd.localAddr.isUnspecified || sd.localAddr = localAddr) && (sd.remoteAddr.isUnspecified || sd.remoteAddr = remoteAddr)

/-- The loop of `findSocketForUnicastPacket`, over the sockets in the order it takes them. -/
def selectSocket (matching : SockDesc → Bool) : List SockDesc → Option SockDesc → Option SockDesc
  | [], socketBoundToAnyAddress => socketBoundToAnyAddress
  | sd :: list, socketBoundToAnyAddress =>
    if matching sd then
      if sd.localAddr.isUnspecified then selectSocket matching list (some sd) else some sd
    else selectSocket matching list socketBoundToAnyAddress

def findSocketForUnicastPacket (localAddr : IPvXAddress) (localPort : BitVec 16) (remoteAddr : IPvXAddress)
    (remotePort : BitVec 16) : Option SockDesc :=
  selectSocket (accepts localAddr remoteAddr remotePort) (u.socketsOn localPort).reverse none

end UDP

end Inet.Udp
