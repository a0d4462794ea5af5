import Inetmanet.Sctp.Tsn

/-!
# Gap lists

`SCTPGapList.cc`. A simple gap list is the first `NumGaps` entries of its two
arrays; what lies behind them is never used.
-/
namespace Inet.Sctp

def MAX_GAP_COUNT : Nat := 500

/-- `GapStartList[i]` and `GapStopList[i]` -/
structure Gap where
  start : Tsn
  stop : Tsn
  deriving DecidableEq, Repr

structure SCTPSimpleGapList where
  gaps : List Gap := []
  deriving DecidableEq, Repr

/-- What `updateGapList` leaves behind: its result, the reference parameters and the list. -/
structure SimpleUpdate where
  result : Bool
  cTsnAck : Tsn
  newChunkReceived : Bool
  list : SCTPSimpleGapList
  deriving DecidableEq, Repr

namespace SCTPSimpleGapList

variable (l : SCTPSimpleGapList)

def tsnInGapList (tsn : Tsn) : Prop := ∃ g ∈ l.gaps, tsnBetween g.start tsn g.stop
deriving Decidable

/-- Takes out the blocks at the front that start at or before `cTsnAck`. -/
def forwardCumAckTSN (cTsnAck : Tsn) : SCTPSimpleGapList := ⟨l.gaps.dropWhile fun g => tsnGe cTsnAck g.start⟩

/-- One round of the loop. The entries move down by one, but `NumGaps` stays. -/
def tryToAdvanceStep (acc : SCTPSimpleGapList × Tsn × Bool) : SCTPSimpleGapList × Tsn × Bool :=
  match acc.1.gaps with
  | [] => acc
  | g :: gaps =>
    if acc.2.1 + 1 = g.start then (⟨gaps ++ [gaps.getLastD g]⟩, g.stop, true) else acc

/-- The list, `cTsnAck` and whether there was progress. -/
def tryToAdvanceCumAckTSN (cTsnAck : Tsn) : SCTPSimpleGapList × Tsn × Bool :=
  Nat.repeat tryToAdvanceStep l.gaps.length (l, cTsnAck, false)

/-- What becomes of a block with more than one TSN and those behind it. -/
def removeFromGap (removedTSN : Tsn) (g : Gap) (back : List Gap) : List Gap :=
  if g.stop = removedTSN then { g with stop := g.stop - 1 } :: back
  else if g.start = removedTSN then { g with start := g.start + 1 } :: back
  else { g with stop := removedTSN - 1 } :: { g with start := removedTSN + 1 } :: back

/-- The loop over `i`, from the last block to the first: `front` holds the blocks up to `i`, the last one
first, `back` those behind it. -/
def removeLoop (removedTSN : Tsn) : List Gap → List Gap → List Gap
  | [], back => back
  | g :: front, back =>
    if tsnBetween g.start removedTSN g.stop then
      if (g.stop - g.start + 1).toInt > 1 then
        -- the arrays have no more room than this
        (front.reverse ++ removeFromGap removedTSN g back).take MAX_GAP_COUNT
      else front.reverse ++ back
    else removeLoop removedTSN front (g :: back)

def removeFromGapList (removedTSN : Tsn) : SCTPSimpleGapList := ⟨removeLoop removedTSN l.gaps.reverse []⟩

/-- `GapStopList[i-1] = stop`, where `front` holds the blocks before `i`. -/
def setLastStop (front : List Gap) (stop : Tsn) : List Gap :=
  match front.getLast? with
  | some g => front.dropLast ++ [{ g with stop := stop }]
  | none => front

/-- The TSN fits into no gap between two blocks. -/
def updateEnd (receivedTSN cTsnAck : Tsn) (gaps : List Gap) (lo : Tsn) : SimpleUpdate :=
  if receivedTSN = lo then
    if receivedTSN = cTsnAck + 1 then ⟨true, receivedTSN, true, ⟨gaps⟩⟩
    else ⟨true, cTsnAck, true, ⟨setLastStop gaps ((gaps.getLastD ⟨0, 0⟩).stop + 1)⟩⟩
  else if gaps = [] ∨ tsnGt receivedTSN ((gaps.getLastD ⟨0, 0⟩).stop + 1) then
    if gaps.length < MAX_GAP_COUNT then ⟨true, cTsnAck, true, ⟨gaps ++ [⟨receivedTSN, receivedTSN⟩]⟩⟩
    else ⟨true, cTsnAck, false, ⟨gaps⟩⟩
  else ⟨true, cTsnAck, false, ⟨gaps⟩⟩

/-- The TSN fits into the gap from `lo` to the TSN before block `g`. -/
def updateBetween (receivedTSN cTsnAck : Tsn) (front : List Gap) (lo : Tsn) (g : Gap) (back : List Gap) : SimpleUpdate :=
  let hi := g.start - 1
  let gapsize := hi - lo + 1
  if gapsize > 1 then
    if receivedTSN = hi then ⟨true, cTsnAck, true, ⟨front ++ { g with start := receivedTSN } :: back⟩⟩
    else if receivedTSN = lo then
      if receivedTSN = cTsnAck + 1 then ⟨true, cTsnAck + 1, true, ⟨front ++ g :: back⟩⟩
      else ⟨true, cTsnAck, true, ⟨setLastStop front receivedTSN ++ g :: back⟩⟩
    else ⟨true, cTsnAck, true, ⟨(front ++ ⟨receivedTSN, receivedTSN⟩ :: g :: back).take MAX_GAP_COUNT⟩⟩
  else if lo = cTsnAck + 1 then ⟨true, g.stop, true, ⟨front ++ back⟩⟩
  else ⟨true, cTsnAck, true, ⟨setLastStop front g.stop ++ back⟩⟩

/-- The loop over the blocks: those in `front` have been passed. -/
def updateLoop (receivedTSN cTsnAck : Tsn) : List Gap → Tsn → List Gap → SimpleUpdate
  | front, lo, [] => updateEnd receivedTSN cTsnAck front lo
  | front, lo, g :: back =>
    if g.start > 0 then
      if tsnBetween lo receivedTSN (g.start - 1) then updateBetween receivedTSN cTsnAck front lo g back
      else updateLoop receivedTSN cTsnAck (front ++ [g]) (g.stop + 1) back
    else updateLoop receivedTSN cTsnAck (front ++ [g]) lo back

def updateGapList (receivedTSN cTsnAck : Tsn) (newChunkReceived : Bool) : SimpleUpdate :=
  if tsnLe receivedTSN cTsnAck then ⟨false, cTsnAck, newChunkReceived, l⟩
  else
    let update := updateLoop receivedTSN cTsnAck [] (cTsnAck + 1) l.gaps
    { update with newChunkReceived := newChunkReceived || update.newChunkReceived }

end SCTPSimpleGapList

structure SCTPGapList where
  CumAckTSN : Tsn := 0
  RevokableGapList : SCTPSimpleGapList := {}
  NonRevokableGapList : SCTPSimpleGapList := {}
  CombinedGapList : SCTPSimpleGapList := {}
  deriving DecidableEq, Repr

namespace SCTPGapList

variable (l : SCTPGapList)

def setInitialCumAckTSN (cumAckTSN : Tsn) : SCTPGapList := { l with CumAckTSN := cumAckTSN }

def tsnInGapList (tsn : Tsn) : Prop := l.CombinedGapList.tsnInGapList tsn
deriving Decidable
def tsnIsRevokable (tsn : Tsn) : Prop := l.RevokableGapList.tsnInGapList tsn
deriving Decidable
def tsnIsNonRevokable (tsn : Tsn) : Prop := l.NonRevokableGapList.tsnInGapList tsn
deriving Decidable

def forwardCumAckTSN (cumAckTSN : Tsn) : SCTPGapList where
  CumAckTSN := cumAckTSN
  CombinedGapList := l.CombinedGapList.forwardCumAckTSN cumAckTSN
  RevokableGapList := l.RevokableGapList.forwardCumAckTSN cumAckTSN
  NonRevokableGapList := l.NonRevokableGapList.forwardCumAckTSN cumAckTSN

def tryToAdvanceCumAckTSN : SCTPGapList × Bool :=
  match l.CombinedGapList.tryToAdvanceCumAckTSN l.CumAckTSN with
  | (combined, cumAckTSN, progress) =>
    if progress then
      ({ CumAckTSN := cumAckTSN
         CombinedGapList := combined
         RevokableGapList := l.RevokableGapList.forwardCumAckTSN cumAckTSN
         NonRevokableGapList := l.NonRevokableGapList.forwardCumAckTSN cumAckTSN }, true)
    else ({ l with CumAckTSN := cumAckTSN, CombinedGapList := combined }, false)

def removeFromGapList (removedTSN : Tsn) : SCTPGapList :=
  { l with
    RevokableGapList := l.RevokableGapList.removeFromGapList removedTSN
    NonRevokableGapList := l.NonRevokableGapList.removeFromGapList removedTSN
    CombinedGapList := l.CombinedGapList.removeFromGapList removedTSN }

/-- The list in which the TSN is entered first works on a copy of `CumAckTSN`. -/
def updateRevokability (receivedTSN : Tsn) (newChunkReceived tsnIsRevokable : Bool) : SCTPGapList × Bool :=
  if tsnIsRevokable then
    let update := l.RevokableGapList.updateGapList receivedTSN l.CumAckTSN newChunkReceived
    ({ l with RevokableGapList := update.list }, update.newChunkReceived)
  else
    let update := l.NonRevokableGapList.updateGapList receivedTSN l.CumAckTSN newChunkReceived
    ({ l with
       NonRevokableGapList := update.list
       RevokableGapList :=
         if update.result = true then l.RevokableGapList.removeFromGapList receivedTSN else l.RevokableGapList },
      update.newChunkReceived)

/-- The result, the list and `newChunkReceived`. -/
def updateGapList (receivedTSN : Tsn) (newChunkReceived : Bool) (tsnIsRevokable : Bool := true) :
    Bool × SCTPGapList × Bool :=
  let (l, newChunkReceived) := l.updateRevokability receivedTSN newChunkReceived tsnIsRevokable
  let update := l.CombinedGapList.updateGapList receivedTSN l.CumAckTSN newChunkReceived
  let l' := { l with CombinedGapList := update.list, CumAckTSN := update.cTsnAck }
  (update.result,
    if l.CumAckTSN ≠ update.cTsnAck then
      { l' with
        RevokableGapList := l'.RevokableGapList.forwardCumAckTSN update.cTsnAck
        NonRevokableGapList := l'.NonRevokableGapList.forwardCumAckTSN update.cTsnAck }
    else l',
    update.newChunkReceived)

end SCTPGapList

end Inet.Sctp
