import Inetmanet.Tcp.Segment

/-!
# TCP segments on the wire

`TCPSerializer.cc`. A buffer is the memory from a pointer on; writing behind its
end is an error.
-/
namespace Inet

namespace Bytes

/-- `buf[off] = b` -/
def put (buf : Bytes) (off : Nat) (b : UInt8) : Sim Bytes :=
  if off < buf.length then pure (buf.set off b) else throw (.outOfBounds "buf")

/-- Writes the bytes of a field of a header. -/
def store (buf : Bytes) (off : Nat) (src : Bytes) : Sim Bytes :=
  if off + src.length ≤ buf.length then pure (memcpy buf off src) else throw (.outOfBounds "buf")

/-- `buf[off]`; behind the end of the buffer there is some byte nobody relies on. -/
def load (buf : Bytes) (off : Nat) : UInt8 := buf.getD off 0

/-- `memcpy` out of a buffer. -/
def copyFrom (buf : Bytes) (off length : Nat) : Sim Bytes :=
  if off + length ≤ buf.length then pure ((buf.drop off).take length) else throw (.outOfBounds "buf")

/-- `htons` -/
def htons (v : Nat) : Bytes := [UInt8.ofNat (v / 256), UInt8.ofNat v]

/-- `htonl` -/
def htonl (v : Nat) : Bytes := htons (v / 65536) ++ htons v

def ntohs (buf : Bytes) (off : Nat) : Nat := 256 * (buf.load off).toNat + (buf.load (off + 1)).toNat

def ntohl (buf : Bytes) (off : Nat) : Nat := 65536 * buf.ntohs off + buf.ntohs (off + 2)

end Bytes

namespace Tcp

/-- A `TCPSegment` with the fields that only the serializer needs. -/
structure TCPPacket extends TCPSegment where
  urgBit : Bool := false
  pshBit : Bool := false
  urgentPointer : Nat := 0
  byteLength : Nat := 0
  deriving DecidableEq, Repr

/-- `TCP_MAX_HEADER_OCTETS` -/
def tcpMaxHeaderOctets : Nat := 60

def TCPOPTION_END_OF_OPTION_LIST : Nat := 0
def TCPOPTION_NO_OPERATION : Nat := 1

namespace TCPSerializer

def TH_FIN : UInt8 := 0x01
def TH_SYN : UInt8 := 0x02
def TH_RST : UInt8 := 0x04
def TH_PUSH : UInt8 := 0x08
def TH_ACK : UInt8 := 0x10
def TH_URG : UInt8 := 0x20
def TH_FLAGS : UInt8 := 0x3F

/-- `th_offs` is the upper half of its byte; `th_x2`, the lower half, keeps what it holds. -/
def putOffs (buf : Bytes) (offs : Nat) : Sim Bytes :=
  buf.put 12 (UInt8.ofNat (16 * (offs % 16) + (buf.load 12).toNat % 16))

def flags (tcpseg : TCPPacket) : UInt8 :=
  let flags : UInt8 := 0
  let flags := if tcpseg.finBit then flags ||| TH_FIN else flags
  let flags := if tcpseg.synBit then flags ||| TH_SYN else flags
  let flags := if tcpseg.rstBit then flags ||| TH_RST else flags
  let flags := if tcpseg.pshBit then flags ||| TH_PUSH else flags
  let flags := if tcpseg.ackBit then flags ||| TH_ACK else flags
  if tcpseg.urgBit then flags ||| TH_URG else flags

/-- The fields of `struct tcphdr`. -/
def putHeader (tcpseg : TCPPacket) (buf : Bytes) : Sim Bytes := do
  let buf ← buf.store 16 (Bytes.htons 0)
  let buf ← buf.store 0 (Bytes.htons tcpseg.srcPort)
  let buf ← buf.store 2 (Bytes.htons tcpseg.destPort)
  let buf ← buf.store 4 (Bytes.htonl tcpseg.sequenceNo.toNat)
  let buf ← buf.store 8 (Bytes.htonl tcpseg.ackNo.toNat)
  let buf ← putOffs buf (tcpHeaderOctets / 4)
  let buf ← buf.put 13 (TH_FLAGS &&& flags tcpseg)
  let buf ← buf.store 14 (Bytes.htons tcpseg.window)
  buf.store 18 (Bytes.htons tcpseg.urgentPointer)

/-- The loop over `p`, which goes down from `p0 + n - 1` to `p0`. -/
def putValue (buf : Bytes) (options p0 : Nat) : Nat → BitVec 32 → Sim Bytes
  | 0, _ => pure buf
  | n + 1, value => do
    let buf ← buf.put (options + (p0 + n)) (UInt8.ofNat (value &&& 0xFF).toNat)
    putValue buf options p0 n (value >>> 8)

/-- The values from number `k` on; `length - 1` is an `unsigned int`. -/
def putValues (buf : Bytes) (options length : Nat) : Nat → List (BitVec 32) → Sim Bytes
  | _, [] => pure buf
  | k, value :: values => do
    let p0 := 2 + 4 * k
    let p := min ((length + (2 ^ 32 - 1)) % 2 ^ 32) (5 + 4 * k)
    let buf ← putValue buf options p0 (p + 1 - p0) value
    putValues buf options length (k + 1) values

def putOption (buf : Bytes) (options : Nat) (option : TCPOption) : Sim Bytes := do
  let buf ← buf.put options (UInt8.ofNat option.kind)
  let buf ← if option.length > 1 then buf.put (options + 1) (UInt8.ofNat option.length) else pure buf
  putValues buf options option.length 0 option.values

/-- One round of the loop over the options; the other part of the state is `lengthCounter`. -/
def putNextOption (maxOptLength : Nat) (acc : Bytes × Nat) (option : TCPOption) : Sim (Bytes × Nat) := do
  let lengthCounter := acc.2 + option.length
  ensure (lengthCounter ≤ maxOptLength) "lengthCounter <= maxOptLength"
  let buf ← putOption acc.1 (tcpHeaderOctets + acc.2) option
  return (buf, lengthCounter)

/-- Zeros up to the next multiple of four. -/
def padding (lengthCounter : Nat) : Bytes := List.replicate ((4 - lengthCounter % 4) % 4) 0

/-- The buffer and the number of option bytes. -/
def putOptions (tcpseg : TCPPacket) (buf : Bytes) : Sim (Bytes × Nat) :=
  let numOptions := tcpseg.options.length % 2 ^ 16
  if numOptions > 0 then do
    let maxOptLength := (tcpseg.headerLength + (2 ^ 32 - tcpHeaderOctets)) % 2 ^ 32
    let (buf, lengthCounter) ← (tcpseg.options.take numOptions).foldlM (putNextOption maxOptLength) (buf, 0)
    let buf ← buf.store (tcpHeaderOctets + lengthCounter) (padding lengthCounter)
    let lengthCounter := lengthCounter + (padding lengthCounter).length
    ensure (tcpHeaderOctets + lengthCounter ≤ tcpMaxHeaderOctets)
      "TCP_HEADER_OCTETS+lengthCounter <= TCP_MAX_HEADER_OCTETS"
    let buf ← putOffs buf ((tcpHeaderOctets + lengthCounter) / 4)
    return (buf, lengthCounter)
  else pure (buf, 0)

/-- The payload, or that many `'t'`. -/
def putData (tcpseg : TCPPacket) (buf : Bytes) (lengthCounter : Nat) : Sim Bytes :=
  if tcpseg.byteLength > tcpseg.headerLength then
    let dataLength := tcpseg.byteLength - tcpseg.headerLength
    if tcpseg.byteArray.length > 0 then do
      ensure (tcpseg.byteArray.length = dataLength) "tcpseg->getByteArray().getDataArraySize() == dataLength"
      buf.store (tcpHeaderOctets + lengthCounter) (tcpseg.byteArray.copied dataLength 0)
    else buf.store (tcpHeaderOctets + lengthCounter) (List.replicate dataLength 't'.toUInt8)
  else pure buf

/-- The buffer afterwards and the number of bytes written. Nothing looks at the size of the buffer. -/
def serialize (tcpseg : TCPPacket) (buf : Bytes) : Sim (Bytes × Nat) := do
  let buf ← putHeader tcpseg buf
  let (buf, lengthCounter) ← putOptions tcpseg buf
  let buf ← putData tcpseg buf lengthCounter
  return (buf, tcpseg.byteLength)

/-- The loop over `l`. -/
def parseValue (buf : Bytes) (options length k : Nat) : BitVec 32 :=
  (List.range' (2 + 4 * k) (min length (6 + 4 * k) - (2 + 4 * k))).foldl
    (fun value l => (value <<< 8) + BitVec.ofNat 32 (buf.load (options + l)).toNat) 0

def parseOption (buf : Bytes) (options : Nat) : TCPOption :=
  let kind := (buf.load options).toNat
  let length := (buf.load (options + 1)).toNat
  let length := if kind = TCPOPTION_END_OF_OPTION_LIST ∨ kind = TCPOPTION_NO_OPERATION then 1 else length
  { kind := kind, length := length, values := (List.range ((length + 1) / 4)).map (parseValue buf options length) }

/-- The options from byte `j` on. No more than `optionBytes` of them have a length; an option
without one is read for ever. -/
def parseOptions (buf : Bytes) (optionBytes : Nat) : Nat → Nat → Sim (List TCPOption)
  | 0, j => if j < optionBytes then throw .diverges else pure []
  | fuel + 1, j =>
    if j < optionBytes then do
      let option := parseOption buf (tcpHeaderOctets + j)
      let options ← parseOptions buf optionBytes fuel (j + option.length)
      return option :: options
    else pure []

def parseHeaderOptions (buf : Bytes) (hdrLength : Nat) : Sim (List TCPOption) :=
  if hdrLength > tcpHeaderOctets then
    let optionBytes := hdrLength - tcpHeaderOctets
    parseOptions buf optionBytes optionBytes 0
  else pure []

def parseData (buf : Bytes) (hdrLength dataLength : Nat) (withBytes : Bool) : Sim Bytes :=
  if withBytes then buf.copyFrom hdrLength dataLength else pure []

/-- Parses into a fresh segment. -/
def parse (buf : Bytes) (bufsize : Nat) (withBytes : Bool) : Sim TCPPacket := do
  let hdrLength := (buf.load 12).toNat / 16 * 4
  let flags := buf.load 13
  let options ← parseHeaderOptions buf hdrLength
  let payloadLength := (bufsize + (2 ^ 32 - hdrLength)) % 2 ^ 32
  let byteArray ← parseData buf hdrLength payloadLength withBytes
  return {
    srcPort := buf.ntohs 0
    destPort := buf.ntohs 2
    sequenceNo := BitVec.ofNat 32 (buf.ntohl 4)
    ackNo := BitVec.ofNat 32 (buf.ntohl 8)
    headerLength := hdrLength
    finBit := flags &&& TH_FIN == TH_FIN
    synBit := flags &&& TH_SYN == TH_SYN
    rstBit := flags &&& TH_RST == TH_RST
    pshBit := flags &&& TH_PUSH == TH_PUSH
    ackBit := flags &&& TH_ACK == TH_ACK
    urgBit := flags &&& TH_URG == TH_URG
    window := buf.ntohs 14
    urgentPointer := buf.ntohs 18
    options := options
    byteLength := bufsize
    payloadLength := payloadLength
    byteArray := byteArray }

end TCPSerializer

end Tcp

end Inet
