import Inetmanet.Arp.ARP

/-!
# The DHCP server

`DHCPServer.cc`: the table of leases and `processDHCPMessage`.
-/
namespace Inet.Dhcp

open Inet.Ipv4 (IPv4Address)
open Inet.Arp (MACAddress)

/-- `simtime_t`, in seconds. -/
abbrev Time := ℚ

inductive DHCPOpcode where
  | bootRequest
  | bootReply
  deriving DecidableEq, Repr

inductive DHCPMessageType where
  | dhcpDiscover
  | dhcpOffer
  | dhcpRequest
  | dhcpDecline
  | dhcpAck
  | dhcpNak
  | dhcpRelease
  | dhcpInform
  deriving DecidableEq, Repr

structure DHCPOptions where
  messageType : DHCPMessageType
  /-- 0 where the client asks for no address in particular -/
  requestedIp : IPv4Address := 0
  serverIdentifier : IPv4Address := 0
  subnetMask : IPv4Address := 0
  router : List IPv4Address := []
  dns : List IPv4Address := []
  renewalTime : Time := 0
  rebindingTime : Time := 0
  leaseTime : Time := 0
  deriving DecidableEq, Repr

structure DHCPMessage where
  byteLength : Nat := 308
  op : DHCPOpcode
  htype : Int := 1
  hlen : Int := 6
  hops : Int := 0
  xid : BitVec 32
  secs : Int := 0
  broadcast : Bool := false
  ciaddr : IPv4Address := 0
  yiaddr : IPv4Address := 0
  giaddr : IPv4Address := 0
  chaddr : MACAddress
  sname : String := ""
  file : String := ""
  options : DHCPOptions
  deriving DecidableEq, Repr

structure DHCPLease where
  xid : BitVec 32 := 0
  ip : IPv4Address := 0
  mac : MACAddress := 0
  gateway : IPv4Address := 0
  subnetMask : IPv4Address := 0
  dns : IPv4Address := 0
  leaseTime : Time := 0
  leased : Bool := false
  deriving DecidableEq, Repr

/-- The interface that is served. -/
structure InterfaceEntry where
  interfaceId : Nat
  ipAddress : IPv4Address
  deriving DecidableEq, Repr

/-- A message handed to UDP. -/
structure Datagram where
  message : DHCPMessage
  srcPort : Nat
  destAddr : IPv4Address
  destPort : Nat
  outInterfaceId : Nat
  deriving DecidableEq, Repr

/-- `leased` is a `std::map`, which is gone through in the order of the addresses. -/
structure DHCPServer where
  leased : Std.TreeMap IPv4Address DHCPLease := ∅
  isOperational : Bool := false
  ie : Option InterfaceEntry := none
  maxNumOfClients : BitVec 32
  leaseTime : BitVec 32
  subnetMask : IPv4Address
  gateway : IPv4Address
  ipAddressStart : IPv4Address
  numSent : Nat := 0
  numReceived : Nat := 0
  sent : List Datagram := []

def clientPort : Nat := 68

def serverPort : Nat := 67

/-- `getNetworkMask`, by the class of the address. -/
def getNetworkMask (addr : IPv4Address) : IPv4Address :=
  if addr &&& 0x80000000 = 0 then 0xFF000000
  else if addr &&& 0xC0000000 = 0x80000000 then 0xFFFF0000
  else if addr &&& 0xE0000000 = 0xC0000000 then 0xFFFFFF00
  else 0

def makeBroadcastAddress (addr netmask : IPv4Address) : IPv4Address := addr ||| ~~~ netmask

def maskedAddrAreEqual (addr1 addr2 netmask : IPv4Address) : Prop := (addr1 ^^^ addr2) &&& netmask = 0
deriving Decidable

namespace DHCPServer

/-- `sendToUDP` -/
def sendToUDP (s : DHCPServer) (ie : InterfaceEntry) (msg : DHCPMessage) (destAddr : IPv4Address) : DHCPServer :=
  { s with numSent := s.numSent + 1,
           sent := s.sent ++ [⟨msg, serverPort, destAddr, clientPort, ie.interfaceId⟩] }

/-- A write through the pointer to the lease of an address. -/
def write (s : DHCPServer) (addr : IPv4Address) (lease : DHCPLease) : DHCPServer :=
  { s with leased := s.leased.insert addr lease }

def sendNAK (s : DHCPServer) (ie : InterfaceEntry) (msg : DHCPMessage) : DHCPServer :=
  s.sendToUDP ie { op := .bootReply, xid := msg.xid, broadcast := msg.broadcast, giaddr := msg.giaddr,
                   chaddr := msg.chaddr,
                   options := { messageType := .dhcpNak, serverIdentifier := ie.ipAddress } }
    0xFFFFFFFF

/-- The options of an offer or an acknowledgement. -/
def leaseOptions (s : DHCPServer) (ie : InterfaceEntry) (messageType : DHCPMessageType) (lease : DHCPLease) :
    DHCPOptions where
  messageType := messageType
  subnetMask := lease.subnetMask
  renewalTime := s.leaseTime.toNat * (1 / 2)
  rebindingTime := s.leaseTime.toNat * (7 / 8)
  leaseTime := s.leaseTime.toNat
  router := [lease.gateway]
  dns := [lease.dns]
  serverIdentifier := ie.ipAddress

/-- The acknowledgement for the lease at `addr`. -/
def sendACK (s : DHCPServer) (ie : InterfaceEntry) (simTime : Time) (addr : IPv4Address) (lease : DHCPLease)
    (packet : DHCPMessage) : DHCPServer :=
  let ack : DHCPMessage :=
    { op := .bootReply, xid := lease.xid, ciaddr := lease.ip, yiaddr := lease.ip, chaddr := lease.mac,
      options := s.leaseOptions ie .dhcpAck lease }
  (s.write addr { lease with leaseTime := simTime }).sendToUDP ie ack
    (if packet.giaddr = 0 ∧ packet.ciaddr ≠ 0 then packet.ciaddr
      else makeBroadcastAddress lease.ip (getNetworkMask lease.ip))

/-- The offer of the lease at `addr`. -/
def sendOffer (s : DHCPServer) (ie : InterfaceEntry) (simTime : Time) (addr : IPv4Address) (lease : DHCPLease) :
    DHCPServer :=
  let offer : DHCPMessage :=
    { op := .bootReply, xid := lease.xid, yiaddr := lease.ip, giaddr := lease.gateway, chaddr := lease.mac,
      options := s.leaseOptions ie .dhcpOffer lease }
  (s.write addr { lease with leaseTime := simTime }).sendToUDP ie offer
    (makeBroadcastAddress lease.ip (getNetworkMask lease.ip))

def getLeaseByMac (s : DHCPServer) (mac : MACAddress) : Option (IPv4Address × DHCPLease) :=
  s.leased.toList.find? fun entry => entry.2.mac = mac

def newLease (s : DHCPServer) (addr : IPv4Address) : DHCPLease where
  ip := addr
  gateway := s.gateway
  subnetMask := s.subnetMask

/-- The loop over the pool, with `left` turns to go. -/
def poolLease (s : DHCPServer) : (left : Nat) → (i : BitVec 32) → Option (DHCPServer × IPv4Address × DHCPLease)
  | 0, _ => none
  | left + 1, i =>
    let addr := s.ipAddressStart + i
    match s.leased[addr]? with
    | some lease => if lease.leased then s.poolLease left (i + 1) else some (s, addr, lease)
    | none => some (s.write addr (s.newLease addr), addr, s.newLease addr)

/-- A lease that may be given away, in the table that has it. -/
def getAvailableLease (s : DHCPServer) (requestedAddress : IPv4Address) :
    Option (DHCPServer × IPv4Address × DHCPLease) :=
  if requestedAddress ≠ 0 then
    match s.leased[requestedAddress]? with
    | some lease =>
      if lease.leased = false then some (s, requestedAddress, lease)
      else some (s.write requestedAddress (s.newLease requestedAddress), requestedAddress,
        s.newLease requestedAddress)
    | none => some (s.write requestedAddress (s.newLease requestedAddress), requestedAddress,
        s.newLease requestedAddress)
  else s.poolLease s.maxNumOfClients.toNat 0

/-- A DHCPDISCOVER -/
def discoverArrived (s : DHCPServer) (ie : InterfaceEntry) (simTime : Time) (packet : DHCPMessage) : DHCPServer :=
  match s.getLeaseByMac packet.chaddr with
  | none =>
    match s.getAvailableLease packet.options.requestedIp with
    | some (s, addr, lease) =>
      s.sendOffer ie simTime addr { lease with mac := packet.chaddr, xid := packet.xid, leased := true }
    | none => s
  | some (addr, lease) => s.sendOffer ie simTime addr { lease with xid := packet.xid }

/-- The lease at `addr` is prolonged and acknowledged. -/
def confirmLease (s : DHCPServer) (ie : InterfaceEntry) (simTime : Time) (addr : IPv4Address) (lease : DHCPLease)
    (packet : DHCPMessage) : DHCPServer :=
  s.sendACK ie simTime addr { lease with xid := packet.xid, leaseTime := s.leaseTime.toNat, leased := true } packet

/-- A DHCPREQUEST -/
def requestArrived (s : DHCPServer) (ie : InterfaceEntry) (simTime : Time) (packet : DHCPMessage) : DHCPServer :=
  if packet.options.serverIdentifier = ie.ipAddress then
    match s.getLeaseByMac packet.chaddr with
    | some (addr, lease) =>
      if lease.ip ≠ packet.options.requestedIp then s.sendNAK ie packet
      else s.confirmLease ie simTime addr lease packet
    | none => s.sendNAK ie packet
  else if packet.ciaddr = 0 then
    -- init-reboot
    match s.leased[packet.options.requestedIp]? with
    | none => s
    | some lease =>
      if maskedAddrAreEqual packet.options.requestedIp lease.ip s.subnetMask then
        s.confirmLease ie simTime packet.options.requestedIp lease packet
      else s.sendNAK ie packet
  else
    -- renewing or rebinding
    match s.leased[packet.ciaddr]? with
    | some lease => s.confirmLease ie simTime packet.ciaddr lease packet
    | none => s.sendNAK ie packet

/-- Other messages are dropped. -/
def bootRequestArrived (s : DHCPServer) (ie : InterfaceEntry) (simTime : Time) (packet : DHCPMessage) : DHCPServer :=
  match packet.op, packet.options.messageType with
  | .bootRequest, .dhcpDiscover => s.discoverArrived ie simTime packet
  | .bootRequest, .dhcpRequest => s.requestArrived ie simTime packet
  | _, _ => s

def processDHCPMessage (s : DHCPServer) (simTime : Time) (inputInterfaceId : Nat) (packet : DHCPMessage) :
    Sim DHCPServer := do
  ensure (s.isOperational = true ∧ s.ie.isSome) "isOperational && ie != NULL"
  match s.ie with
  | none => throw (.nullPointer "ie")
  | some ie =>
    if inputInterfaceId ≠ ie.interfaceId then return s
    let s := s.bootRequestArrived ie simTime packet
    return { s with numReceived := s.numReceived + 1 }

end DHCPServer

end Inet.Dhcp
