import Inetmanet.Lib.SideBySide
import Inetmanet.Tcp.TCPReno

/-!
# Shifting the sequence space

What the retransmission queue and the rules of loss recovery do does not depend on where
the sequence space begins: shift all sequence numbers, and the results are shifted.
-/
namespace Inet.Tcp

open List

section Compare

variable (c a b : SeqNo)

theorem add_sub_add : b + c - (a + c) = b - a := by grind

@[simp] theorem shift_inj : a + c = b + c ↔ a = b := BitVec.add_left_inj c

@[simp] theorem seqLess_shift : seqLess (a + c) (b + c) ↔ seqLess a b := by
  rw [seqLess, seqLess, add_sub_add, Ne, shift_inj]

@[simp] theorem seqLE_shift : seqLE (a + c) (b + c) ↔ seqLE a b := by rw [seqLE, seqLE, add_sub_add]

@[simp] theorem seqGreater_shift : seqGreater (a + c) (b + c) ↔ seqGreater a b := by
  rw [seqGreater, seqGreater, add_sub_add, Ne, shift_inj]

@[simp] theorem seqGE_shift : seqGE (a + c) (b + c) ↔ seqGE a b := by rw [seqGE, seqGE, add_sub_add]

theorem shift_add (n : SeqNo) : a + c + n = a + n + c := by grind

end Compare

/-- Assertions that say the same. -/
theorem ensure_sideBySide {p q : Prop} [Decidable p] [Decidable q] {text : String} {α β : Type} {r : α → β → Prop}
    {f : Unit → Sim α} {g : Unit → Sim β} (hiff : p ↔ q) (h : p → SideBySide r (f ()) (g ())) :
    SideBySide r (ensure p text >>= f) (ensure q text >>= g) := by
  by_cases hp : p
  · rw [ensure_pos hp, ensure_pos (hiff.mp hp)]
    exact h hp
  · rw [ensure, ensure, if_neg hp, if_neg (mt hiff.mpr hp)]
    exact .error r _

def RexmitRegion.shift (c : SeqNo) (i : RexmitRegion) : RexmitRegion :=
  { i with beginSeqNum := i.beginSeqNum + c, endSeqNum := i.endSeqNum + c }

namespace TCPSACKRexmitQueue

def shift (c : SeqNo) (q : TCPSACKRexmitQueue) : TCPSACKRexmitQueue :=
  ⟨q.rexmitQueue.map (RexmitRegion.shift c), q.beginNo + c, q.endNo + c⟩

variable (c : SeqNo) (q : TCPSACKRexmitQueue) (seqNum fromSeqNum toSeqNum : SeqNo) (l : List RexmitRegion)

theorem after_shift :
    after (seqNum + c) (l.map (RexmitRegion.shift c)) = (after seqNum l).map (RexmitRegion.shift c) := by
  induction l with
  | nil => rfl
  | cons i l ih =>
    rw [after] at ih ⊢
    rw [after, map_cons, dropWhile_cons, dropWhile_cons, ih]
    simp only [RexmitRegion.shift, seqLE_shift]
    split
    · rfl
    · rfl

theorem upTo_shift :
    upTo (seqNum + c) (l.map (RexmitRegion.shift c)) = (upTo seqNum l).map (RexmitRegion.shift c) := by
  induction l with
  | nil => rfl
  | cons i l ih =>
    rw [upTo] at ih ⊢
    rw [upTo, map_cons, takeWhile_cons, takeWhile_cons, ih]
    simp only [RexmitRegion.shift, seqLE_shift]
    split
    · rfl
    · rfl

@[simp] theorem around_shift (i : RexmitRegion) : Around (seqNum + c) (i.shift c) ↔ Around seqNum i := by
  simp [Around, RexmitRegion.shift]

theorem contiguous_shift (b e : SeqNo) :
    Contiguous (b + c) (e + c) (l.map (RexmitRegion.shift c)) ↔ Contiguous b e l := by
  induction l generalizing b with
  | nil => exact shift_inj c b e
  | cons i l ih =>
    rw [map_cons, Contiguous, Contiguous]
    simp only [RexmitRegion.shift, shift_inj, seqLess_shift]
    rw [← ih i.endSeqNum]

@[simp] theorem checkQueue_shift : (q.shift c).CheckQueue ↔ q.CheckQueue :=
  contiguous_shift c q.rexmitQueue q.beginNo q.endNo

theorem discardUpTo_shift :
    SideBySide (fun a b => b = a.shift c) (q.discardUpTo seqNum) ((q.shift c).discardUpTo (seqNum + c)) := by
  rw [discardUpTo, discardUpTo]
  apply ensure_sideBySide (by simp [shift])
  intro _
  refine SideBySide.bind (r := fun (a b : List RexmitRegion) => b = a.map (RexmitRegion.shift c)) ?_ ?_
  · rw [shift, after_shift]
    cases after seqNum q.rexmitQueue with
    | nil => exact .ok rfl
    | cons i l =>
      apply ensure_sideBySide (by simp)
      exact fun _ => .ok rfl
  · rintro l _ rfl
    exact ensure_sideBySide (checkQueue_shift c ⟨l, seqNum, q.endNo⟩).symm fun _ => .ok rfl

theorem chunkItem_shift (i : RexmitRegion) : chunkItem (fromSeqNum + c) (i.shift c) =
    ((chunkItem fromSeqNum i).1.map (RexmitRegion.shift c), (chunkItem fromSeqNum i).2.shift c) := by
  rw [chunkItem, chunkItem]
  simp only [RexmitRegion.shift, ne_eq, shift_inj]
  split
  · rfl
  · rfl

theorem enqueueRest_shift : SideBySide (fun a b => b = a.map (RexmitRegion.shift c)) (enqueueRest fromSeqNum toSeqNum l)
    (enqueueRest (fromSeqNum + c) (toSeqNum + c) (l.map (RexmitRegion.shift c))) := by
  cases l with
  | nil => exact .ok rfl
  | cons i l =>
    apply ensure_sideBySide (by simp [RexmitRegion.shift])
    exact fun _ => .ok rfl

/-- Up to where the regions that have been swept go. -/
theorem sweptTo_shift : ((l.map (RexmitRegion.shift c)).getLast?.map RexmitRegion.endSeqNum).getD (fromSeqNum + c) =
    (l.getLast?.map RexmitRegion.endSeqNum).getD fromSeqNum + c := by
  rw [getLast?_map]
  cases l.getLast? with
  | none => rfl
  | some i => rfl

theorem enqueueAgain_shift :
    SideBySide (fun a b => b = a.map (RexmitRegion.shift c)) (enqueueAgain fromSeqNum toSeqNum l)
      (enqueueAgain (fromSeqNum + c) (toSeqNum + c) (l.map (RexmitRegion.shift c))) := by
  rw [enqueueAgain, enqueueAgain, after_shift]
  cases after fromSeqNum l with
  | nil => exact .error _ _
  | cons i l' =>
    apply ensure_sideBySide (by simp)
    intro _
    rw [chunkItem_shift]
    simp only [← map_cons, upTo_shift, after_shift, sweptTo_shift]
    have hmarked (l : List RexmitRegion) : (l.map (RexmitRegion.shift c)).map (fun r => { r with rexmitted := true }) =
        (l.map fun r => { r with rexmitted := true }).map (RexmitRegion.shift c) := by
      rw [map_map, map_map]
      rfl
    rw [hmarked, ← map_append, ← map_append]
    apply SideBySide.ite (by simp)
    · intro _
      apply (enqueueRest_shift c _ toSeqNum _).bind
      rintro rest _ rfl
      exact .ok map_append.symm
    · intro _
      apply ensure_sideBySide (by simp)
      exact fun _ => .ok map_append.symm

theorem enqueueSentData_shift : SideBySide (fun a b => b = a.shift c) (q.enqueueSentData fromSeqNum toSeqNum)
    ((q.shift c).enqueueSentData (fromSeqNum + c) (toSeqNum + c)) := by
  rw [enqueueSentData, enqueueSentData]
  apply ensure_sideBySide (by simp [shift])
  intro _
  apply ensure_sideBySide (by simp)
  intro _
  refine SideBySide.bind (r := fun (a b : List RexmitRegion) => b = a.map (RexmitRegion.shift c)) ?_ ?_
  · apply SideBySide.ite (by simp [shift])
    · intro _
      apply SideBySide.pure
      rw [shift, map_append]
      rfl
    · exact fun _ => enqueueAgain_shift c fromSeqNum toSeqNum q.rexmitQueue
  · rintro l _ rfl
    rw [head?_map, getLast?_map]
    cases l.head? with
    | none => exact .throw _ _
    | some front =>
      cases l.getLast? with
      | none => exact .throw _ _
      | some back =>
        exact ensure_sideBySide (checkQueue_shift c ⟨l, front.beginSeqNum, back.endSeqNum⟩).symm fun _ => .ok rfl

theorem sackRest_shift : sackRest (toSeqNum + c) (l.map (RexmitRegion.shift c)) =
    (sackRest toSeqNum l).map (RexmitRegion.shift c) := by
  cases l with
  | nil => rfl
  | cons i l =>
    rw [map_cons, sackRest, sackRest]
    simp only [RexmitRegion.shift, seqLess_shift]
    split
    · rfl
    · rfl

theorem setSackedBit_shift : SideBySide (fun a b => b = a.shift c) (q.setSackedBit fromSeqNum toSeqNum)
    ((q.shift c).setSackedBit (fromSeqNum + c) (toSeqNum + c)) := by
  rw [setSackedBit, setSackedBit]
  have hfrom : (if seqLess (fromSeqNum + c) (q.shift c).beginNo then (q.shift c).beginNo else fromSeqNum + c) =
      (if seqLess fromSeqNum q.beginNo then q.beginNo else fromSeqNum) + c := by
    simp only [shift, seqLess_shift]
    split
    · rfl
    · rfl
  rw [hfrom]
  generalize (if seqLess fromSeqNum q.beginNo then q.beginNo else fromSeqNum) = fromSeqNum
  apply ensure_sideBySide (by simp [shift])
  intro _
  apply ensure_sideBySide (by simp [shift])
  intro _
  apply ensure_sideBySide (by simp)
  intro _
  refine SideBySide.bind (r := fun (a b : List RexmitRegion) => b = a.map (RexmitRegion.shift c)) ?_ ?_
  · rw [shift]
    apply SideBySide.ite (by simp)
    · exact fun _ => .pure rfl
    · intro _
      rw [after_shift]
      cases after fromSeqNum q.rexmitQueue with
      | nil => exact .throw _ _
      | cons i l =>
        apply ensure_sideBySide (by simp)
        intro _
        rw [chunkItem_shift]
        obtain ⟨chunk, i⟩ := chunkItem fromSeqNum i
        have hmarked (l : List RexmitRegion) : (l.map (RexmitRegion.shift c)).map (fun r =>
              if seqGE r.beginSeqNum (fromSeqNum + c) then { r with sacked := true } else r) =
            (l.map fun r => if seqGE r.beginSeqNum fromSeqNum then { r with sacked := true } else r).map
              (RexmitRegion.shift c) := by
          rw [map_map, map_map]
          apply map_congr_left
          intro r _
          simp only [Function.comp_apply, RexmitRegion.shift, seqGE_shift]
          split
          · rfl
          · rfl
        apply SideBySide.pure
        simp only [← map_cons, upTo_shift, after_shift, sackRest_shift, hmarked, map_append]
  · rintro l _ rfl
    exact ensure_sideBySide (checkQueue_shift c ⟨l, q.beginNo, q.endNo⟩).symm fun _ => .ok rfl

theorem resetBits_shift :
    (q.shift c).resetSackedBit.resetRexmittedBit = q.resetSackedBit.resetRexmittedBit.shift c := by
  simp [resetSackedBit, resetRexmittedBit, shift, RexmitRegion.shift, Function.comp_def]

theorem highest_shift (bit : RexmitRegion → Bool) (hbit : ∀ i : RexmitRegion, bit (i.shift c) = bit i) :
    (match (q.shift c).rexmitQueue.reverse.find? bit with
      | some i => i.endSeqNum
      | none => (q.shift c).beginNo) =
    (match q.rexmitQueue.reverse.find? bit with
      | some i => i.endSeqNum
      | none => q.beginNo) + c := by
  have hbits : bit ∘ RexmitRegion.shift c = bit := funext hbit
  rw [shift, ← map_reverse, find?_map, hbits]
  cases q.rexmitQueue.reverse.find? bit with
  | none => rfl
  | some i => rfl

theorem getHighestSackedSeqNum_shift : (q.shift c).getHighestSackedSeqNum = q.getHighestSackedSeqNum + c :=
  highest_shift c q RexmitRegion.sacked fun _ => rfl

theorem getHighestRexmittedSeqNum_shift : (q.shift c).getHighestRexmittedSeqNum = q.getHighestRexmittedSeqNum + c :=
  highest_shift c q RexmitRegion.rexmitted fun _ => rfl

theorem getTotalAmountOfSackedBytes_shift :
    (q.shift c).getTotalAmountOfSackedBytes = q.getTotalAmountOfSackedBytes := by
  rw [getTotalAmountOfSackedBytes, getTotalAmountOfSackedBytes, shift, foldl_map]
  simp only [RexmitRegion.shift, add_sub_add]

theorem sackedFrom_shift (bytes : SeqNo) :
    sackedFrom (fromSeqNum + c) bytes (l.map (RexmitRegion.shift c)) = sackedFrom fromSeqNum bytes l := by
  induction l generalizing bytes with
  | nil => rfl
  | cons i l ih =>
    rw [map_cons, sackedFrom, sackedFrom]
    simp only [RexmitRegion.shift, seqLE_shift, seqLess_shift, add_sub_add]
    rw [← ih]

theorem getAmountOfSackedBytes_shift :
    (q.shift c).getAmountOfSackedBytes (fromSeqNum + c) = q.getAmountOfSackedBytes fromSeqNum := by
  rw [getAmountOfSackedBytes, getAmountOfSackedBytes]
  simp only [shift, seqLE_shift, ← map_reverse, sackedFrom_shift]

theorem countRuns_shift (counter : SeqNo) (prevSacked : Bool) :
    countRuns counter prevSacked (l.map (RexmitRegion.shift c)) = countRuns counter prevSacked l := by
  induction l generalizing counter prevSacked with
  | nil => rfl
  | cons i l ih => exact ih _ _

theorem getNumOfDiscontiguousSacks_shift :
    (q.shift c).getNumOfDiscontiguousSacks (fromSeqNum + c) = q.getNumOfDiscontiguousSacks fromSeqNum := by
  rw [getNumOfDiscontiguousSacks, getNumOfDiscontiguousSacks]
  simp only [shift, seqLE_shift, shift_inj, after_shift, countRuns_shift, map_eq_nil_iff]

theorem checkSackBlock_shift : (q.shift c).checkSackBlock (fromSeqNum + c) = q.checkSackBlock fromSeqNum := by
  rw [checkSackBlock, checkSackBlock]
  simp only [shift, seqLE_shift, seqLess_shift, after_shift]
  cases after fromSeqNum q.rexmitQueue with
  | nil => rfl
  | cons i l =>
    simp only [map_cons, around_shift]
    simp only [RexmitRegion.shift, add_sub_add]

theorem forwardOver_shift (bytes : SeqNo) :
    forwardOver bytes (fromSeqNum + c) (l.map (RexmitRegion.shift c)) = forwardOver bytes fromSeqNum l := by
  induction l generalizing bytes fromSeqNum with
  | nil => rfl
  | cons i l ih =>
    rw [map_cons, forwardOver, forwardOver]
    simp only [around_shift]
    simp only [RexmitRegion.shift, add_sub_add]
    rw [← ih i.endSeqNum]

theorem checkRexmitQueue_shift : (q.shift c).checkRexmitQueueForSackedOrRexmittedSegments (fromSeqNum + c) =
    q.checkRexmitQueueForSackedOrRexmittedSegments fromSeqNum := by
  rw [checkRexmitQueueForSackedOrRexmittedSegments, checkRexmitQueueForSackedOrRexmittedSegments]
  simp only [shift, seqLE_shift, shift_inj, after_shift, forwardOver_shift, map_eq_nil_iff]

end TCPSACKRexmitQueue

end Inet.Tcp
