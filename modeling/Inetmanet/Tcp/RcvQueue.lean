import Inetmanet.Tcp.Segment

/-!
# The receive queue

`TCPVirtualDataRcvQueue.cc`. The queue keeps a sorted list of regions of
sequence numbers. What a region carries besides its bounds is up to the region
class, whose virtual methods are the fields of `RegionClass`; the queue itself
is written once for all of them.
-/
namespace Inet.Tcp

/-- The virtual methods of `TCPVirtualDataRcvQueue::Region`. -/
class RegionClass (ρ : Type) where
  getBegin : ρ → SeqNo
  getEnd : ρ → SeqNo
  /-- `merge(other)`: the merged region, or `none` where the source returns false. -/
  merge : ρ → ρ → Sim (Option ρ)
  /-- `split(seq)`: the part below `seq` and what remains of the region. -/
  split : ρ → SeqNo → Sim (ρ × ρ)
  createRegionFromSegment : TCPSegment → Sim ρ

open RegionClass

inductive CompareStatus where
  | before | beforeTouch | overlap | afterTouch | after
  deriving DecidableEq, Repr

section

variable {ρ : Type} [RegionClass ρ]

/-- `Region::getLength` -/
def getLength (r : ρ) : Nat := (getEnd r - getBegin r).toNat

/-- `Region::compare` -/
def compare (r other : ρ) : CompareStatus :=
  if getEnd r = getBegin other then .beforeTouch
  else if getBegin r = getEnd other then .afterTouch
  else if seqLess (getEnd r) (getBegin other) then .before
  else if seqLess (getEnd other) (getBegin r) then .after
  else .overlap

/-- The loop of `merge`, over the regions from the last to the first. -/
def mergeFrom (seg : ρ) : List ρ → Sim (List ρ)
  | [] => .ok [seg]
  | r :: l =>
    if compare r seg = .before then .ok (seg :: r :: l)
    else if compare r seg ≠ .after then do
      match ← merge seg r with
      | some seg' => mergeFrom seg' l
      | none => throw (.runtime "Model error: merge of region [%u,%u) with [%u,%u) unsuccessful")
    else do return r :: (← mergeFrom seg l)

end

/-- A call on a receive queue. -/
inductive RcvQueueCall where
  | insertBytesFromSegment (tcpseg : TCPSegment)
  | extractBytesUpTo (seq : SeqNo)

structure TCPVirtualDataRcvQueue (ρ : Type) where
  rcvNxt : SeqNo
  regionList : List ρ
  deriving DecidableEq, Repr

namespace TCPVirtualDataRcvQueue

variable {ρ : Type}

def init (startSeq : SeqNo) : TCPVirtualDataRcvQueue ρ := ⟨startSeq, []⟩

variable [RegionClass ρ]

/-- The range check of `insertBytesFromSegment` in debug builds. -/
def outOfRange (q : TCPVirtualDataRcvQueue ρ) (region : ρ) : Prop :=
  match q.regionList.head?, q.regionList.getLast? with
  | some front, some back =>
    let ob := getBegin front
    let oe := getEnd back
    let nb := getBegin region
    let ne := getEnd region
    let minb := seqMin ob nb
    let maxe := seqMax oe ne
    seqGE minb oe ∨ seqGE minb ne ∨ seqGE ob maxe ∨ seqGE nb maxe
  | _, _ => False

instance (q : TCPVirtualDataRcvQueue ρ) (region : ρ) : Decidable (q.outOfRange region) := by
  unfold outOfRange
  split <;> infer_instance

def merge (q : TCPVirtualDataRcvQueue ρ) (seg : ρ) : Sim (List ρ) := do
  return (← mergeFrom seg q.regionList.reverse).reverse

/-- Returns the queue; its `rcvNxt` is what the source returns. -/
def insertBytesFromSegment (q : TCPVirtualDataRcvQueue ρ) (tcpseg : TCPSegment) :
    Sim (TCPVirtualDataRcvQueue ρ) := do
  let region ← createRegionFromSegment tcpseg
  if q.outOfRange region then
    throw (.runtime "The new segment is [%u, %u) out of the acceptable range at the queue %s")
  match ← q.merge region with
  | [] => throw (.nullPointer "regionList.front()")
  | front :: l =>
    let rcvNxt := if seqGE q.rcvNxt (getBegin front) then getEnd front else q.rcvNxt
    return ⟨rcvNxt, front :: l⟩

def extractTo (q : TCPVirtualDataRcvQueue ρ) (seq : SeqNo) :
    Sim (Option ρ × TCPVirtualDataRcvQueue ρ) := do
  ensure (seqLE seq q.rcvNxt) "seqLE(seq, rcv_nxt)"
  match q.regionList with
  | [] => return (none, q)
  | reg :: l =>
    if seqLE seq (getBegin reg) then return (none, q)
    else if seqGE seq (getEnd reg) then return (some reg, { q with regionList := l })
    else
      let (part, rest) ← split reg seq
      return (some part, { q with regionList := rest :: l })

/-- `extractBytesUpTo`: the packet is what `copyTo` of the region class makes of it. -/
def extractBytesUpTo {π : Type} (copyTo : ρ → Sim π) (q : TCPVirtualDataRcvQueue ρ) (seq : SeqNo) :
    Sim (Option π × TCPVirtualDataRcvQueue ρ) := do
  match ← q.extractTo seq with
  | (none, q) => return (none, q)
  | (some reg, q) => return (some (← copyTo reg), q)

/-- A `uint32` sum. -/
def getAmountOfBufferedBytes (q : TCPVirtualDataRcvQueue ρ) : SeqNo :=
  q.regionList.foldl (fun bytes r => bytes + BitVec.ofNat 32 (getLength r)) 0

def getAmountOfFreeBytes (q : TCPVirtualDataRcvQueue ρ) (maxRcvBuffer : SeqNo) : SeqNo :=
  let usedRcvBuffer := q.getAmountOfBufferedBytes
  if maxRcvBuffer > usedRcvBuffer then maxRcvBuffer - usedRcvBuffer else 0

def getQueueLength (q : TCPVirtualDataRcvQueue ρ) : Nat := q.regionList.length

/-- The left edge of the region around `fromSeqNum`. -/
def getLE (q : TCPVirtualDataRcvQueue ρ) (fromSeqNum : SeqNo) : SeqNo :=
  match q.regionList.find?
    (fun r => seqLE (getBegin r) fromSeqNum ∧ seqLess fromSeqNum (getEnd r)) with
  | some r => getBegin r
  | none => fromSeqNum

/-- The right edge of the region that holds the number before `toSeqNum`. -/
def getRE (q : TCPVirtualDataRcvQueue ρ) (toSeqNum : SeqNo) : SeqNo :=
  match q.regionList.find?
    (fun r => seqLess (getBegin r) toSeqNum ∧ seqLE toSeqNum (getEnd r)) with
  | some r => getEnd r
  | none => toSeqNum

def getFirstSeqNo (q : TCPVirtualDataRcvQueue ρ) : SeqNo :=
  match q.regionList with
  | [] => q.rcvNxt
  | front :: _ => seqMin (getBegin front) q.rcvNxt

end TCPVirtualDataRcvQueue

/-- `TCPVirtualDataRcvQueue::Region` -/
structure Region where
  beginNo : SeqNo
  endNo : SeqNo
  deriving DecidableEq, Repr

namespace Region

def merge (r other : Region) : Sim (Option Region) :=
  if seqLess r.endNo other.beginNo ∨ seqLess other.endNo r.beginNo then .ok none
  else .ok <| some
    { beginNo := if seqLess other.beginNo r.beginNo then other.beginNo else r.beginNo
      endNo := if seqLess r.endNo other.endNo then other.endNo else r.endNo }

def split (r : Region) (seq : SeqNo) : Sim (Region × Region) := do
  ensure (seqGreater seq r.beginNo ∧ seqLess seq r.endNo)
    "seqGreater(seq, begin) && seqLess(seq, end)"
  return (⟨r.beginNo, seq⟩, ⟨seq, r.endNo⟩)

/-- `Region::copyTo`: only the length of the packet is set. -/
def copyTo (r : Region) : Sim Nat := .ok (r.endNo - r.beginNo).toNat

end Region

instance : RegionClass Region where
  getBegin := Region.beginNo
  getEnd := Region.endNo
  merge := Region.merge
  split := Region.split
  createRegionFromSegment := fun tcpseg => .ok ⟨tcpseg.sequenceNo, tcpseg.endNo⟩

end Inet.Tcp
