import Inetmanet.Base.ReassemblyBuffer
import Inetmanet.Ipv6.IPv6Datagram

/-!
# Fragmentation and reassembly of IPv6 datagrams

`IPv6.cc` (`fragmentAndSend`) and `IPv6FragBuf.cc`. Only the fragment from the start
on carries the encapsulated packet, at its full length.
-/
namespace Inet.Ipv6

structure InterfaceEntry where
  mtu : Nat
  preferredAddress : IPv6Address
  /-- `isTentativeAddress` of the preferred address -/
  isTentative : Bool
  deriving DecidableEq, Repr

inductive IcmpType where
  | ICMPv6_TIME_EXCEEDED
  | ICMPv6_PACKET_TOO_BIG
  | ICMPv6_PARAMETER_PROBLEM
  deriving DecidableEq, Repr

inductive SendOutcome where
  /-- The calls of `sendDatagramToOutput`. -/
  | sent (l : List IPv6Datagram)
  | icmpError (type : IcmpType) (datagram : IPv6Datagram)
  /-- Until the source address is no longer tentative. -/
  | rescheduled (datagram : IPv6Datagram)
  deriving DecidableEq, Repr

/-- `fragmentAndSend` numbers what it cuts. -/
structure IPv6 where
  curFragmentId : BitVec 32
  deriving DecidableEq, Repr

/-- The part of the payload from `offset` on. -/
def makeFragment (datagram : IPv6Datagram) (encapsulatedPacket : Option CPacket) (identification : BitVec 32)
    (headerLength payloadLength fragmentLength offset : Nat) : Sim IPv6Datagram := do
  let lastFragment : Bool := payloadLength ≤ offset + fragmentLength
  let thisFragmentLength := if lastFragment then payloadLength - offset else fragmentLength
  let fh : IPv6FragmentHeader := ⟨identification, offset % 2 ^ 16, !lastFragment⟩
  let copy ← datagram.dup
  let fragment := if offset = 0 then copy.encapsulate encapsulatedPacket else copy
  let fragment ← fragment.addExtensionHeader (.fragment fh)
  return { fragment with byteLength := headerLength + IPv6_FRAGMENT_HEADER_LENGTH + thisFragmentLength }

/-- The loop of `fragmentAndSend`; each round advances by at least one byte. -/
def fragments (datagram : IPv6Datagram) (encapsulatedPacket : Option CPacket) (identification : BitVec 32)
    (headerLength payloadLength fragmentLength : Nat) : Nat → Nat → Sim (List IPv6Datagram)
  | 0, _ => .ok []
  | fuel + 1, offset =>
    if offset < payloadLength then do
      let fragment ← makeFragment datagram encapsulatedPacket identification headerLength payloadLength
        fragmentLength offset
      let rest ← fragments datagram encapsulatedPacket identification headerLength payloadLength
        fragmentLength fuel (offset + fragmentLength)
      return fragment :: rest
    else .ok []

/-- From `int headerLength` on. -/
def createFragments (ip : IPv6) (datagram : IPv6Datagram) (mtu : Nat) : Sim (IPv6 × SendOutcome) := do
  let headerLength := datagram.calculateUnfragmentableHeaderByteLength
  let payloadLength := datagram.byteLength - headerLength
  -- headers that do not fit leave no room, whatever the sign of the difference
  let fragmentLength := ((mtu - headerLength - IPv6_FRAGMENT_HEADER_LENGTH) / 8) * 8
  ensure (0 < fragmentLength) "fragmentLength > 0"
  let (encapsulatedPacket, datagram) ← datagram.decapsulate
  let l ← fragments datagram encapsulatedPacket ip.curFragmentId headerLength payloadLength fragmentLength
    payloadLength 0
  return (⟨ip.curFragmentId + 1⟩, .sent l)

/-- The source address is there. -/
def sendWithSource (ip : IPv6) (datagram : IPv6Datagram) (ie : InterfaceEntry) (fromHL : Bool) :
    Sim (IPv6 × SendOutcome) :=
  if datagram.byteLength ≤ ie.mtu then .ok (ip, .sent [datagram])
  else if ¬ fromHL then .ok (ip, .icmpError .ICMPv6_PACKET_TOO_BIG datagram)
  else createFragments ip datagram ie.mtu

/-- The source address can be unspecified while duplicate addresses are looked for. -/
def needsSource (datagram : IPv6Datagram) (fromHL : Bool) : Bool :=
  fromHL && datagram.srcAddress == 0 && !isSolicitedNodeMulticastAddress datagram.destAddress

/-- The datagram with its source address filled in. -/
def stamp (datagram : IPv6Datagram) (ie : InterfaceEntry) (fromHL : Bool) : IPv6Datagram :=
  if needsSource datagram fromHL then { datagram with srcAddress := ie.preferredAddress } else datagram

def fragmentAndSend (ip : IPv6) (datagram : IPv6Datagram) (ie : InterfaceEntry) (fromHL : Bool) :
    Sim (IPv6 × SendOutcome) :=
  if datagram.hopLimit ≤ 0 then .ok (ip, .icmpError .ICMPv6_TIME_EXCEEDED datagram)
  else if needsSource datagram fromHL ∧ ie.preferredAddress = 0 then
    .error (.assertion "!srcAddr.isUnspecified()")
  else if needsSource datagram fromHL ∧ ie.isTentative then .ok (ip, .rescheduled (stamp datagram ie fromHL))
  else sendWithSource ip (stamp datagram ie fromHL) ie fromHL

structure Key where
  id : BitVec 32
  src : IPv6Address
  dest : IPv6Address
  deriving DecidableEq, Repr

structure DatagramBuffer where
  buf : ReassemblyBuffer
  datagram : Option IPv6Datagram
  createdAt : Int
  deriving DecidableEq, Repr

/-- The map `bufs`. -/
structure IPv6FragBuf where
  bufs : List (Key × DatagramBuffer)
  deriving DecidableEq, Repr

/-- What `addFragment` returns, and the datagram it reports to its sender. -/
structure AddOutcome where
  returned : Option IPv6Datagram
  parameterProblem : Option IPv6Datagram
  deriving DecidableEq, Repr

namespace IPv6FragBuf

def find (f : IPv6FragBuf) (k : Key) : Option DatagramBuffer :=
  (f.bufs.find? fun b => b.1 = k).map Prod.snd

def erase (f : IPv6FragBuf) (k : Key) : IPv6FragBuf := ⟨f.bufs.filter fun b => b.1 ≠ k⟩

def insert (f : IPv6FragBuf) (k : Key) (b : DatagramBuffer) : IPv6FragBuf := ⟨(k, b) :: (f.erase k).bufs⟩

/-- The first fragment replaces the one that was there. -/
def stored (kept : Option IPv6Datagram) (datagram : IPv6Datagram) (offset : Nat) : Option IPv6Datagram :=
  if offset = 0 then some datagram else kept

/-- The iterator `i` still is `bufs.end()` when the buffer has just been made. -/
def complete (f : IPv6FragBuf) (k : Key) (i : Option DatagramBuffer) (buf : DatagramBuffer) :
    Sim (IPv6FragBuf × AddOutcome) :=
  match buf.datagram with
  | none => .error (.assertion "ret")
  | some ret =>
    let ret := ret.removeFragmentHeader
    let ret := { ret with byteLength := ret.calculateUnfragmentableHeaderByteLength + buf.buf.getTotalLength }
    match i with
    | none => .error (.nullPointer "bufs.erase(bufs.end())")
    | some _ => .ok (f.erase k, ⟨some ret, none⟩)

def addFragment (f : IPv6FragBuf) (datagram : IPv6Datagram) (fh : IPv6FragmentHeader) (now : Int) :
    Sim (IPv6FragBuf × AddOutcome) := do
  let key : Key := ⟨fh.identification, datagram.srcAddress, datagram.destAddress⟩
  let i := f.find key
  -- a new buffer stays when the fragment is discarded
  let buf := i.getD ⟨.init, none, now⟩
  let fragmentLength ← datagram.calculateFragmentLength
  let offset := fh.fragmentOffset
  if fh.moreFragments ∧ fragmentLength % 8 ≠ 0 then return (f.insert key buf, ⟨none, some datagram⟩)
  if offset + fragmentLength > 65535 then return (f.insert key buf, ⟨none, some datagram⟩)
  let (regions, isComplete) := buf.buf.addFragment offset ((offset + fragmentLength) % 2 ^ 16).toNat (!fh.moreFragments)
  let buf := { buf with buf := regions, datagram := stored buf.datagram datagram offset }
  if isComplete then f.complete key i buf
  else return (f.insert key buf, ⟨none, none⟩)

variable {f : IPv6FragBuf} {k k' : Key}

@[simp] theorem find_erase_self (f : IPv6FragBuf) (k : Key) : (f.erase k).find k = none := by
  have hnone : (f.erase k).bufs.find? (fun b => b.1 = k) = none := by
    rw [List.find?_eq_none]
    intro b hb
    simpa using (List.mem_filter.mp hb).2
  rw [find, hnone]
  rfl

@[simp] theorem find_insert_self (f : IPv6FragBuf) (k : Key) (b : DatagramBuffer) : (f.insert k b).find k = some b := by
  simp [find, insert]

end IPv6FragBuf

end Inet.Ipv6
