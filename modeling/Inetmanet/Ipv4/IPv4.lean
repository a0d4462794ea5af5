import Inetmanet.Simulation
import Inetmanet.Base.ReassemblyBuffer

/-!
# Fragmentation and reassembly of IPv4 datagrams

`IPv4.cc` (`fragmentAndSend` and `reassembleAndDeliver`) and `IPv4FragBuf.cc`.
Every fragment carries the whole encapsulated packet, with its length set to that
of the part; the virtual field `totalPayloadLength` says how long it was before.
-/
namespace Inet.Ipv4

/-- `uint32`; the unspecified address is 0. -/
abbrev IPv4Address := BitVec 32

instance : LawfulBEq IPv4Address := inferInstance

structure IPv4Datagram where
  byteLength : Nat
  headerLength : Nat
  srcAddress : IPv4Address
  destAddress : IPv4Address
  timeToLive : Int
  identification : Nat
  moreFragments : Bool
  dontFragment : Bool
  /-- in bytes -/
  fragmentOffset : Nat
  totalPayloadLength : Nat
  encapsulatedPacket : Option CPacket
  deriving DecidableEq, Repr

namespace IPv4Datagram

/-- `cPacket::encapsulate` -/
def encapsulate (d : IPv4Datagram) (packet : CPacket) : IPv4Datagram :=
  { d with byteLength := d.byteLength + packet.byteLength, encapsulatedPacket := some packet }

/-- `cPacket::decapsulate`, whose result the callers dereference. -/
def decapsulate (d : IPv4Datagram) : Sim (CPacket × IPv4Datagram) :=
  match d.encapsulatedPacket with
  | none => .error (.nullPointer "payload")
  | some packet =>
    if d.byteLength < packet.byteLength then
      .error (.runtime "decapsulate(): packet length is smaller than encapsulated packet")
    else .ok (packet, { d with byteLength := d.byteLength - packet.byteLength, encapsulatedPacket := none })

end IPv4Datagram

structure InterfaceEntry where
  mtu : Nat
  isLoopback : Bool
  ipAddress : IPv4Address
  deriving DecidableEq, Repr

inductive IcmpType where
  | ICMP_TIME_EXCEEDED
  | ICMP_DESTINATION_UNREACHABLE
  deriving DecidableEq, Repr

inductive SendOutcome where
  /-- The calls of `sendDatagramToOutput`. -/
  | sent (l : List IPv4Datagram)
  | icmpError (type : IcmpType) (datagram : IPv4Datagram)
  deriving DecidableEq, Repr

/-- The part of the payload from `offset` on. -/
def makeFragment (datagram : IPv4Datagram) (payload : CPacket) (fragmentLength offset : Nat) : IPv4Datagram :=
  let lastFragment : Bool := payload.byteLength ≤ offset + fragmentLength
  let thisFragmentLength := if lastFragment then payload.byteLength - offset else fragmentLength
  let fragment : IPv4Datagram := { datagram with
    moreFragments := if lastFragment then datagram.moreFragments else true
    fragmentOffset := datagram.fragmentOffset + offset }
  fragment.encapsulate { payload with byteLength := thisFragmentLength }

/-- The loop of `fragmentAndSend`; each round advances by at least one byte. -/
def fragments (datagram : IPv4Datagram) (payload : CPacket) (fragmentLength : Nat) : Nat → Nat → List IPv4Datagram
  | 0, _ => []
  | fuel + 1, offset =>
    if offset < payload.byteLength then
      makeFragment datagram payload fragmentLength offset ::
        fragments datagram payload fragmentLength fuel (offset + fragmentLength)
    else []

/-- Fill in the source address, and decrement the hop counter. -/
def stamp (datagram : IPv4Datagram) (ie : InterfaceEntry) : IPv4Datagram :=
  { datagram with
    srcAddress := if datagram.srcAddress = 0 then ie.ipAddress else datagram.srcAddress
    timeToLive := if ie.isLoopback then datagram.timeToLive else datagram.timeToLive - 1 }

def fragmentAndSend (isDsr : Bool) (datagram : IPv4Datagram) (ie : InterfaceEntry) : Sim SendOutcome := do
  let datagram := stamp datagram ie
  if datagram.timeToLive < 0 then
    return .icmpError .ICMP_TIME_EXCEEDED datagram
  if ie.mtu = 0 ∨ datagram.byteLength ≤ ie.mtu then
    return .sent [datagram]
  let datagram := match datagram.encapsulatedPacket with
    | some packet => { datagram with totalPayloadLength := packet.byteLength }
    | none => datagram
  if datagram.dontFragment then
    return .icmpError .ICMP_DESTINATION_UNREACHABLE datagram
  let (payload, datagram) ← datagram.decapsulate
  -- a header that does not fit leaves no room, whatever the sign of the difference
  let mtu := if isDsr then ie.mtu - 30 else ie.mtu
  let fragmentLength := ((mtu - datagram.byteLength) / 8) * 8
  if fragmentLength = 0 then
    throw (.runtime "Cannot fragment datagram: MTU=%d too small for header size (%d bytes)")
  return .sent (fragments datagram payload fragmentLength payload.byteLength 0)

structure Key where
  id : Nat
  src : IPv4Address
  dest : IPv4Address
  deriving DecidableEq, Repr

/-- `ushort id` -/
def IPv4Datagram.key (d : IPv4Datagram) : Key := ⟨d.identification % 2 ^ 16, d.srcAddress, d.destAddress⟩

structure DatagramBuffer where
  buf : ReassemblyBuffer
  datagram : IPv4Datagram
  lastupdate : Int
  deriving DecidableEq, Repr

/-- The map `bufs`. -/
structure IPv4FragBuf where
  bufs : List (Key × DatagramBuffer)
  deriving DecidableEq, Repr

namespace IPv4FragBuf

def find (f : IPv4FragBuf) (k : Key) : Option DatagramBuffer :=
  (f.bufs.find? fun b => b.1 = k).map Prod.snd

def erase (f : IPv4FragBuf) (k : Key) : IPv4FragBuf := ⟨f.bufs.filter fun b => b.1 ≠ k⟩

def insert (f : IPv4FragBuf) (k : Key) (b : DatagramBuffer) : IPv4FragBuf := ⟨(k, b) :: (f.erase k).bufs⟩

/-- Which of two fragments is kept: one that carries the modelled content. -/
def stored (first : Option IPv4Datagram) (datagram : IPv4Datagram) : IPv4Datagram :=
  match first with
  | none => datagram
  | some d => if d.encapsulatedPacket = none ∧ datagram.encapsulatedPacket ≠ none then datagram else d

/-- The complete datagram is handed back as soon as there is one. -/
def addFragment (f : IPv4FragBuf) (datagram : IPv4Datagram) (now : Int) :
    Sim (IPv4FragBuf × Option IPv4Datagram) :=
  let i := f.find datagram.key
  let bytes := datagram.byteLength - datagram.headerLength
  let (buf, isComplete) := ((i.map DatagramBuffer.buf).getD .init).addFragment datagram.fragmentOffset
    (datagram.fragmentOffset + bytes) (!datagram.moreFragments)
  let kept := stored (i.map DatagramBuffer.datagram) datagram
  if isComplete then
    match i with
    | none => .error (.nullPointer "bufs.erase(bufs.end())")
    | some _ =>
      .ok (f.erase datagram.key, some { kept with
        byteLength := kept.headerLength + buf.getTotalLength, fragmentOffset := 0, moreFragments := false })
  else .ok (f.insert datagram.key ⟨buf, kept, now⟩, none)

/-- The datagrams of the buffers that are removed go into ICMP messages. -/
def purgeStaleFragments (f : IPv4FragBuf) (lastupdate : Int) : IPv4FragBuf × List IPv4Datagram :=
  (⟨f.bufs.filter fun b => ¬ b.2.lastupdate < lastupdate⟩,
    (f.bufs.filter fun b => b.2.lastupdate < lastupdate).map fun b => b.2.datagram)

end IPv4FragBuf

structure IPv4 where
  fragbuf : IPv4FragBuf
  lastCheckTime : Int
  fragmentTimeoutTime : Int
  deriving DecidableEq, Repr

/-- What `reassembleAndDeliver` hands up, and what it has given up waiting for. -/
structure DeliverOutcome where
  delivered : Option IPv4Datagram
  timedOut : List IPv4Datagram
  deriving DecidableEq, Repr

namespace IPv4

/-- The payload of a fragment gets the length it had before it was cut. -/
def restorePayloadLength (datagram : IPv4Datagram) : Sim IPv4Datagram :=
  if datagram.totalPayloadLength = 0 then .ok datagram
  else match datagram.encapsulatedPacket with
    | none => .error (.nullPointer "datagram->getEncapsulatedPacket()")
    | some packet =>
      if datagram.totalPayloadLength ≠ packet.byteLength then do
        let totalLength := datagram.byteLength
        let (payload, datagram) ← datagram.decapsulate
        let datagram := { datagram with headerLength := datagram.byteLength }
        let datagram := datagram.encapsulate { payload with byteLength := datagram.totalPayloadLength }
        return { datagram with byteLength := totalLength }
      else .ok datagram

/-- Times are in the ticks of a clock of which `second` make a second. -/
def purge (second : Int) (ip : IPv4) (now : Int) : IPv4 × List IPv4Datagram :=
  if now ≥ ip.lastCheckTime + 10 * second then
    let (fragbuf, timedOut) := ip.fragbuf.purgeStaleFragments (now - ip.fragmentTimeoutTime)
    ({ ip with fragbuf := fragbuf, lastCheckTime := now }, timedOut)
  else (ip, [])

def reassembleAndDeliver (second : Int) (ip : IPv4) (now : Int) (datagram : IPv4Datagram) :
    Sim (IPv4 × DeliverOutcome) :=
  if datagram.fragmentOffset ≠ 0 ∨ datagram.moreFragments then do
    let (ip, timedOut) := ip.purge second now
    let datagram ← restorePayloadLength datagram
    let (fragbuf, complete) ← ip.fragbuf.addFragment datagram now
    return ({ ip with fragbuf := fragbuf }, ⟨complete, timedOut⟩)
  else .ok (ip, ⟨some datagram, []⟩)

end IPv4

end Inet.Ipv4
