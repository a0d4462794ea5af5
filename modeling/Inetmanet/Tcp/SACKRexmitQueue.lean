import Inetmanet.Simulation
import Inetmanet.Tcp.SeqNo

/-!
# The SACK retransmission queue

`TCPSACKRexmitQueue.cc`: the sender's record of what it has sent and not had
acknowledged, in regions of octets that are equally marked as selectively
acknowledged and as retransmitted.
-/
namespace Inet.Tcp

structure RexmitRegion where
  beginSeqNum : SeqNo
  endSeqNum : SeqNo
  sacked : Bool
  rexmitted : Bool
  deriving DecidableEq, Repr

structure TCPSACKRexmitQueue where
  rexmitQueue : List RexmitRegion
  beginNo : SeqNo
  endNo : SeqNo
  deriving DecidableEq, Repr

namespace TCPSACKRexmitQueue

/-- `init` on a queue that has just been created. -/
def init (seqNum : SeqNo) : TCPSACKRexmitQueue := ⟨[], seqNum, seqNum⟩

/-- The regions follow each other from `b` to `e`, and none is empty. -/
def Contiguous (b e : SeqNo) : List RexmitRegion → Prop
  | [] => b = e
  | i :: l => b = i.beginSeqNum ∧ seqLess i.beginSeqNum i.endSeqNum ∧ Contiguous i.endSeqNum e l

instance decidableContiguous (e : SeqNo) :
    (b : SeqNo) → (l : List RexmitRegion) → Decidable (Contiguous b e l)
  | b, [] => inferInstanceAs (Decidable (b = e))
  | b, i :: l =>
    have := decidableContiguous e i.endSeqNum l
    inferInstanceAs (Decidable (b = i.beginSeqNum ∧ seqLess i.beginSeqNum i.endSeqNum ∧
      Contiguous i.endSeqNum e l))

def CheckQueue (q : TCPSACKRexmitQueue) : Prop := Contiguous q.beginNo q.endNo q.rexmitQueue

instance (q : TCPSACKRexmitQueue) : Decidable q.CheckQueue := decidableContiguous _ _ _

/-- The regions that end at `seqNum` or before it, which the searches skip. -/
def upTo (seqNum : SeqNo) (l : List RexmitRegion) : List RexmitRegion :=
  l.takeWhile fun i => seqLE i.endSeqNum seqNum

def after (seqNum : SeqNo) (l : List RexmitRegion) : List RexmitRegion :=
  l.dropWhile fun i => seqLE i.endSeqNum seqNum

/-- `seqLE(i->beginSeqNum, seqNum) && seqLess(seqNum, i->endSeqNum)` -/
def Around (seqNum : SeqNo) (i : RexmitRegion) : Prop :=
  seqLE i.beginSeqNum seqNum ∧ seqLess seqNum i.endSeqNum
deriving Decidable

def discardUpTo (q : TCPSACKRexmitQueue) (seqNum : SeqNo) : Sim TCPSACKRexmitQueue := do
  ensure (seqLE q.beginNo seqNum ∧ seqLE seqNum q.endNo) "seqLE(begin, seqNum) && seqLE(seqNum, end)"
  let rexmitQueue ← (match after seqNum q.rexmitQueue with
    | [] => pure []
    | i :: l => do
      ensure (Around seqNum i) "seqLE(i->beginSeqNum, seqNum) && seqLess(seqNum, i->endSeqNum)"
      return { i with beginSeqNum := seqNum } :: l)
  let q := { q with rexmitQueue := rexmitQueue, beginNo := seqNum }
  ensure q.CheckQueue "checkQueue()"
  return q

/-- Cut a region in two, unless it begins at `fromSeqNum`: the part below, if any, and the rest. -/
def chunkItem (fromSeqNum : SeqNo) (i : RexmitRegion) : List RexmitRegion × RexmitRegion :=
  if i.beginSeqNum ≠ fromSeqNum then
    ([{ i with endSeqNum := fromSeqNum }], { i with beginSeqNum := fromSeqNum })
  else ([], i)

/-- The second half of `enqueueSentData`: what follows the regions that were
marked as retransmitted, with `fromSeqNum` now being the end of these. -/
def enqueueRest (fromSeqNum toSeqNum : SeqNo) : List RexmitRegion → Sim (List RexmitRegion)
  | [] => .ok [⟨fromSeqNum, toSeqNum, false, false⟩]
  | i :: l => do
    ensure (seqLess i.beginSeqNum toSeqNum)
      "i == rexmitQueue.end() || seqLess(i->beginSeqNum, toSeqNum)"
    return ⟨fromSeqNum, toSeqNum, i.sacked, true⟩ :: { i with beginSeqNum := toSeqNum } :: l

/-- The branch of `enqueueSentData` for data that starts below the end of the queue. -/
def enqueueAgain (fromSeqNum toSeqNum : SeqNo) (l : List RexmitRegion) : Sim (List RexmitRegion) :=
  match after fromSeqNum l with
  | [] => .error (.assertion "i != rexmitQueue.end()")
  | i :: l' => do
    ensure (Around fromSeqNum i) "seqLE(i->beginSeqNum, fromSeqNum) && seqLess(fromSeqNum, i->endSeqNum)"
    let (chunk, i) := chunkItem fromSeqNum i
    let swept := upTo toSeqNum (i :: l')
    let rest := after toSeqNum (i :: l')
    let done := upTo fromSeqNum l ++ chunk ++ swept.map fun r => { r with rexmitted := true }
    let sweptTo := (swept.getLast?.map RexmitRegion.endSeqNum).getD fromSeqNum
    if sweptTo ≠ toSeqNum then
      return done ++ (← enqueueRest sweptTo toSeqNum rest)
    else do
      ensure (swept ≠ []) "found"
      return done ++ rest

def enqueueSentData (q : TCPSACKRexmitQueue) (fromSeqNum toSeqNum : SeqNo) :
    Sim TCPSACKRexmitQueue := do
  ensure (seqLE q.beginNo fromSeqNum ∧ seqLE fromSeqNum q.endNo)
    "seqLE(begin, fromSeqNum) && seqLE(fromSeqNum, end)"
  ensure (seqLess fromSeqNum toSeqNum) "seqLess(fromSeqNum, toSeqNum)"
  let rexmitQueue ← (if q.rexmitQueue = [] ∨ q.endNo = fromSeqNum then
      pure (q.rexmitQueue ++ [⟨fromSeqNum, toSeqNum, false, false⟩])
    else enqueueAgain fromSeqNum toSeqNum q.rexmitQueue)
  match rexmitQueue.head?, rexmitQueue.getLast? with
  | some front, some back => do
    let q := ⟨rexmitQueue, front.beginSeqNum, back.endSeqNum⟩
    ensure q.CheckQueue "checkQueue()"
    return q
  | _, _ => throw (.nullPointer "rexmitQueue.front()")

/-- The second half of `setSackedBit`: a region that only begins below `toSeqNum` is cut in two. -/
def sackRest (toSeqNum : SeqNo) : List RexmitRegion → List RexmitRegion
  | [] => []
  | i :: l =>
    if seqLess i.beginSeqNum toSeqNum ∧ seqLess toSeqNum i.endSeqNum then
      { i with endSeqNum := toSeqNum, sacked := true } :: { i with beginSeqNum := toSeqNum } :: l
    else i :: l

def setSackedBit (q : TCPSACKRexmitQueue) (fromSeqNum toSeqNum : SeqNo) :
    Sim TCPSACKRexmitQueue := do
  let fromSeqNum := if seqLess fromSeqNum q.beginNo then q.beginNo else fromSeqNum
  ensure (seqLess fromSeqNum q.endNo) "seqLess(fromSeqNum, end)"
  ensure (seqLess q.beginNo toSeqNum ∧ seqLE toSeqNum q.endNo)
    "seqLess(begin, toSeqNum) && seqLE(toSeqNum, end)"
  ensure (seqLess fromSeqNum toSeqNum) "seqLess(fromSeqNum, toSeqNum)"
  let rexmitQueue ← (if q.rexmitQueue = [] then pure []
    else match after fromSeqNum q.rexmitQueue with
      | [] => throw (.assertion "i != rexmitQueue.end() && seqLE(i->beginSeqNum, fromSeqNum) && seqLess(fromSeqNum, i->endSeqNum)")
      | i :: l => do
        ensure (Around fromSeqNum i)
          "i != rexmitQueue.end() && seqLE(i->beginSeqNum, fromSeqNum) && seqLess(fromSeqNum, i->endSeqNum)"
        let (chunk, i) := chunkItem fromSeqNum i
        let swept := (upTo toSeqNum (i :: l)).map fun r =>
          if seqGE r.beginSeqNum fromSeqNum then { r with sacked := true } else r
        return upTo fromSeqNum q.rexmitQueue ++ chunk ++ swept ++ sackRest toSeqNum (after toSeqNum (i :: l)))
  let q := { q with rexmitQueue := rexmitQueue }
  ensure q.CheckQueue "checkQueue()"
  return q

def resetSackedBit (q : TCPSACKRexmitQueue) : TCPSACKRexmitQueue :=
  { q with rexmitQueue := q.rexmitQueue.map fun i => { i with sacked := false } }

def resetRexmittedBit (q : TCPSACKRexmitQueue) : TCPSACKRexmitQueue :=
  { q with rexmitQueue := q.rexmitQueue.map fun i => { i with rexmitted := false } }

def getSackedBit (q : TCPSACKRexmitQueue) (seqNum : SeqNo) : Sim Bool := do
  ensure (seqLE q.beginNo seqNum ∧ seqLE seqNum q.endNo) "seqLE(begin, seqNum) && seqLE(seqNum, end)"
  if q.endNo = seqNum then return false
  match after seqNum q.rexmitQueue with
  | [] => throw (.assertion "(i != rexmitQueue.end()) && seqLE(i->beginSeqNum, seqNum) && seqLess(seqNum, i->endSeqNum)")
  | i :: _ => do
    ensure (Around seqNum i)
      "(i != rexmitQueue.end()) && seqLE(i->beginSeqNum, seqNum) && seqLess(seqNum, i->endSeqNum)"
    return i.sacked

def getHighestSackedSeqNum (q : TCPSACKRexmitQueue) : SeqNo :=
  match q.rexmitQueue.reverse.find? RexmitRegion.sacked with
  | some i => i.endSeqNum
  | none => q.beginNo

def getTotalAmountOfSackedBytes (q : TCPSACKRexmitQueue) : SeqNo :=
  q.rexmitQueue.foldl
    (fun bytes i => if i.sacked then bytes + (i.endSeqNum - i.beginSeqNum) else bytes) 0

/-- The loop of `getAmountOfSackedBytes`, over the regions from the last to the first. -/
def sackedFrom (fromSeqNum bytes : SeqNo) : List RexmitRegion → SeqNo
  | [] => bytes
  | i :: l =>
    if seqLE fromSeqNum i.beginSeqNum then
      sackedFrom fromSeqNum (if i.sacked then bytes + (i.endSeqNum - i.beginSeqNum) else bytes) l
    else if seqLess i.beginSeqNum fromSeqNum ∧ seqLess fromSeqNum i.endSeqNum ∧ i.sacked then
      bytes + (i.endSeqNum - fromSeqNum)
    else bytes

def getAmountOfSackedBytes (q : TCPSACKRexmitQueue) (fromSeqNum : SeqNo) : Sim SeqNo := do
  ensure (seqLE q.beginNo fromSeqNum ∧ seqLE fromSeqNum q.endNo)
    "seqLE(begin, fromSeqNum) && seqLE(fromSeqNum, end)"
  return sackedFrom fromSeqNum 0 q.rexmitQueue.reverse

/-- The loop of `getNumOfDiscontiguousSacks`. -/
def countRuns (counter : SeqNo) (prevSacked : Bool) : List RexmitRegion → SeqNo
  | [] => counter
  | i :: l => countRuns (if i.sacked && !prevSacked then counter + 1 else counter) i.sacked l

def getNumOfDiscontiguousSacks (q : TCPSACKRexmitQueue) (fromSeqNum : SeqNo) : Sim SeqNo := do
  ensure (seqLE q.beginNo fromSeqNum ∧ seqLE fromSeqNum q.endNo)
    "seqLE(begin, fromSeqNum) && seqLE(fromSeqNum, end)"
  if q.rexmitQueue = [] ∨ fromSeqNum = q.endNo then return 0
  return countRuns 0 false (after fromSeqNum q.rexmitQueue)

/-- Length, sacked bit and rexmitted bit. -/
def checkSackBlock (q : TCPSACKRexmitQueue) (fromSeqNum : SeqNo) : Sim (SeqNo × Bool × Bool) := do
  ensure (seqLE q.beginNo fromSeqNum ∧ seqLess fromSeqNum q.endNo)
    "seqLE(begin, fromSeqNum) && seqLess(fromSeqNum, end)"
  match after fromSeqNum q.rexmitQueue with
  | [] => throw (.assertion "i != rexmitQueue.end()")
  | i :: _ => do
    ensure (Around fromSeqNum i) "seqLE(i->beginSeqNum, fromSeqNum) && seqLess(fromSeqNum, i->endSeqNum)"
    return (i.endSeqNum - fromSeqNum, i.sacked, i.rexmitted)

end TCPSACKRexmitQueue

end Inet.Tcp
