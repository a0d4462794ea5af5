import Inetmanet.Tcp.LossRecoveryRules

/-!
# Calls on a short queue

What the operations of the SACK retransmission queue need, and what they do, said of
the queue alone: it passes its own check and is shorter than half of the sequence space.
-/
namespace Inet.Tcp

open SerialNumber RunLength BitVec Scoreboard

namespace TCPSACKRexmitQueue

/-- The queue passes its own check and is shorter than half of the sequence space. -/
structure Short (q : TCPSACKRexmitQueue) : Prop where
  checkQueue : q.CheckQueue
  length : q.octets.length < 2 ^ 31

/-- How far a sequence number lies beyond the begin. -/
def position (q : TCPSACKRexmitQueue) (seqNum : SeqNo) : Nat := (seqNum - q.beginNo).toNat

namespace Short

variable {q q' : TCPSACKRexmitQueue} {seqNum fromSeqNum toSeqNum : SeqNo}

theorem represents (h : q.Short) : Represents q.beginNo ⟨0, q.octets⟩ (runsOf q.rexmitQueue) q :=
  represents_octets h.checkQueue h.length

theorem nth_position (q : TCPSACKRexmitQueue) (seqNum : SeqNo) : nth q.beginNo (q.position seqNum) = seqNum :=
  (eq_nth _ _).symm

theorem position_beginNo (q : TCPSACKRexmitQueue) : q.position q.beginNo = 0 := by
  rw [position, BitVec.sub_self]
  rfl

section

variable (h : q.Short)
include h

theorem position_endNo : q.position q.endNo = q.octets.length := by
  have hlength := h.length
  have hend : q.endNo = nth q.beginNo (0 + q.octets.length) := h.represents.endNo
  have hdistance := toNat_nth_sub q.beginNo (Nat.zero_le (0 + q.octets.length)) (by omega)
  rw [nth_zero, ← hend] at hdistance
  rw [position, hdistance]
  omega

/-- The entry assertion of most functions. -/
theorem entry_iff :
    seqLE q.beginNo seqNum ∧ seqLE seqNum q.endNo ↔ q.position seqNum ≤ q.octets.length := by
  have hlength := h.length
  have hend := h.position_endNo
  constructor
  · rintro ⟨hnear, hle⟩
    rw [seqLE_offset q.beginNo hnear (by rw [← position, hend]; exact hlength)] at hle
    exact Nat.le_trans hle (Nat.le_of_eq hend)
  · intro hle
    have hnear : q.position seqNum < 2 ^ 31 := Nat.lt_of_le_of_lt hle hlength
    refine ⟨hnear, ?_⟩
    rw [seqLE_offset q.beginNo hnear (by rw [← position, hend]; exact hlength)]
    exact Nat.le_trans hle (Nat.le_of_eq hend.symm)

theorem discardUpTo (hrun : q.discardUpTo seqNum = .ok q') :
    q'.Short ∧ q'.beginNo = seqNum ∧ q.position seqNum ≤ q.octets.length ∧
      q'.octets = q.octets.drop (q.position seqNum) := by
  have hentry := hrun
  rw [TCPSACKRexmitQueue.discardUpTo] at hentry
  have hle := h.entry_iff.mp (ensure_bind_ok.mp hentry).1
  obtain ⟨runs, q₁, hok, hrep⟩ := h.represents.discardUpTo (a := q.position seqNum)
    ⟨Nat.zero_le _, by simpa only [last, Nat.zero_add] using hle⟩
  rw [nth_position, hrun] at hok
  cases hok
  have hoctets : q'.octets = q.octets.drop (q.position seqNum) := hrep.octets
  refine ⟨⟨hrep.checkQueue, ?_⟩, hrep.beginNo.trans (nth_position q seqNum), hle, hoctets⟩
  rw [hoctets, List.length_drop]
  exact Nat.lt_of_le_of_lt (Nat.sub_le _ _) h.length

theorem enqueueSentData (hrun : q.enqueueSentData fromSeqNum toSeqNum = .ok q')
    (hto : q.position toSeqNum < 2 ^ 31) :
    q'.Short ∧ q'.beginNo = q.beginNo ∧ q.position fromSeqNum ≤ q.octets.length ∧
      q.position fromSeqNum < q.position toSeqNum ∧
      q'.octets = onRange (q.position fromSeqNum) (q.position toSeqNum) (fun f => { f with rexmitted := true }) q.octets ++
        List.replicate (q.position toSeqNum - q.octets.length) ⟨false, false⟩ := by
  have hentry := hrun
  rw [TCPSACKRexmitQueue.enqueueSentData] at hentry
  obtain ⟨hbounds, hrest⟩ := ensure_bind_ok.mp hentry
  have hfrom := h.entry_iff.mp hbounds
  have hless := (ensure_bind_ok.mp hrest).1
  rw [seqLess_offset q.beginNo (Nat.lt_of_le_of_lt hfrom h.length) hto] at hless
  obtain ⟨runs, q₁, hok, hrep⟩ := h.represents.enqueueSentData (a := q.position fromSeqNum) (b := q.position toSeqNum)
    ⟨Nat.zero_le _, by simpa only [last, Nat.zero_add] using hfrom, hless, by simpa only [Nat.zero_add] using hto⟩
  rw [nth_position, nth_position, hrun] at hok
  cases hok
  have hoctets := hrep.octets
  have hspan := hrep.span
  simp only [apply, last, Nat.sub_zero, Nat.zero_add] at hoctets
  refine ⟨⟨hrep.checkQueue, ?_⟩, hrep.beginNo.trans (nth_zero _), hfrom, hless, hoctets⟩
  rw [hrep.octets]
  exact hspan

/-- The assertions hold of every part of the queue, and of what follows it. -/
theorem enqueueSentData_ok (hfrom : q.position fromSeqNum ≤ q.octets.length)
    (hless : q.position fromSeqNum < q.position toSeqNum) (hto : q.position toSeqNum < 2 ^ 31) :
    ∃ q', q.enqueueSentData fromSeqNum toSeqNum = .ok q' := by
  obtain ⟨runs, q', hok, -⟩ := h.represents.enqueueSentData (a := q.position fromSeqNum) (b := q.position toSeqNum)
    ⟨Nat.zero_le _, by simpa only [last, Nat.zero_add] using hfrom, hless, by simpa only [Nat.zero_add] using hto⟩
  rw [nth_position, nth_position] at hok
  exact ⟨q', hok⟩

theorem resetBits : q.resetSackedBit.resetRexmittedBit.Short ∧
    q.resetSackedBit.resetRexmittedBit.beginNo = q.beginNo ∧
    q.resetSackedBit.resetRexmittedBit.octets.length = q.octets.length := by
  have hrep := h.represents.resetSackedBit.resetRexmittedBit
  have hlength : q.resetSackedBit.resetRexmittedBit.octets.length = q.octets.length := by
    rw [hrep.octets]
    simp only [apply, List.length_map]
  exact ⟨⟨hrep.checkQueue, by rw [hlength]; exact h.length⟩, rfl, hlength⟩

end

end Short

/-- Where a block starts once its start has been moved to the begin of the queue. -/
def startOf (q : TCPSACKRexmitQueue) (fromSeqNum : SeqNo) : SeqNo :=
  if seqLess fromSeqNum q.beginNo then q.beginNo else fromSeqNum

/-- What `setSackedBit` asserts of a block. -/
def Sackable (q : TCPSACKRexmitQueue) (fromSeqNum toSeqNum : SeqNo) : Prop :=
  seqLess (q.startOf fromSeqNum) q.endNo ∧ (seqLess q.beginNo toSeqNum ∧ seqLE toSeqNum q.endNo) ∧
    seqLess (q.startOf fromSeqNum) toSeqNum
deriving Decidable

section SetSackedBit

variable {q q' : TCPSACKRexmitQueue} {fromSeqNum toSeqNum : SeqNo}

theorem not_startOf_before (q : TCPSACKRexmitQueue) (fromSeqNum : SeqNo) : ¬ seqLess (q.startOf fromSeqNum) q.beginNo := by
  rw [startOf]
  split
  · exact fun hself => hself.1 rfl
  · assumption

/-- A start below the queue is moved to its begin. -/
theorem setSackedBit_startOf (q : TCPSACKRexmitQueue) (fromSeqNum toSeqNum : SeqNo) :
    q.setSackedBit (q.startOf fromSeqNum) toSeqNum = q.setSackedBit fromSeqNum toSeqNum := by
  have hself : ¬ seqLess q.beginNo q.beginNo := fun h => h.1 rfl
  by_cases hbelow : seqLess fromSeqNum q.beginNo
  · simp only [setSackedBit, startOf, if_pos hbelow, if_neg hself]
  · simp only [startOf, if_neg hbelow]

theorem Sackable.of_ok (hrun : q.setSackedBit fromSeqNum toSeqNum = .ok q') : q.Sackable fromSeqNum toSeqNum := by
  rw [setSackedBit] at hrun
  obtain ⟨hstart, hrun⟩ := ensure_bind_ok.mp hrun
  obtain ⟨hto, hrun⟩ := ensure_bind_ok.mp hrun
  exact ⟨hstart, hto, (ensure_bind_ok.mp hrun).1⟩

/-- Where the block lies in the queue. -/
theorem Sackable.positions (h : q.Sackable fromSeqNum toSeqNum) (hq : q.Short) :
    q.position (q.startOf fromSeqNum) < q.position toSeqNum ∧ q.position toSeqNum ≤ q.octets.length := by
  obtain ⟨hstart, hto, hless⟩ := h
  have hlength := hq.length
  have hto := hq.entry_iff.mp ⟨hto.1.2, hto.2⟩
  have hbefore := q.not_startOf_before fromSeqNum
  refine ⟨?_, hto⟩
  have hnear : q.position (q.startOf fromSeqNum) < 2 ^ 31 := by
    have hdistance := toNat_sub_offset q.beginNo (q.startOf fromSeqNum) q.endNo
    have hbegin := toNat_sub_offset q.beginNo (q.startOf fromSeqNum) q.beginNo
    change _ = if q.position _ ≤ q.position _ then q.position _ - q.position _ else
      2 ^ 32 - (q.position _ - q.position _) at hdistance hbegin
    rw [hq.position_endNo] at hdistance
    rw [Short.position_beginNo] at hbegin
    have hend := hstart.2
    have hne : ¬ (q.beginNo - q.startOf fromSeqNum).toNat < 2 ^ 31 ∨ q.startOf fromSeqNum = q.beginNo := by
      by_cases heq : q.startOf fromSeqNum = q.beginNo
      · exact .inr heq
      · exact .inl fun hclose => hbefore ⟨heq, hclose⟩
    cases hne with
    | inl hfar =>
      split at hdistance
      · omega
      · split at hbegin
        · omega
        · omega
    | inr heq =>
      rw [heq, Short.position_beginNo]
      decide
  rwa [seqLess_offset q.beginNo hnear (Nat.lt_of_le_of_lt hto hlength)] at hless

/-- The assertions hold of every block that meets the first ones, and the octets inside it are marked. -/
theorem Short.setSackedBit (h : q.Short) (hsackable : q.Sackable fromSeqNum toSeqNum) :
    ∃ q', q.setSackedBit fromSeqNum toSeqNum = .ok q' ∧ q'.Short ∧ q'.beginNo = q.beginNo ∧ q'.endNo = q.endNo ∧
      q'.octets = onRange (q.position (q.startOf fromSeqNum)) (q.position toSeqNum) (fun f => { f with sacked := true })
        q.octets := by
  obtain ⟨hless, hto⟩ := hsackable.positions h
  obtain ⟨runs, q', hok, hrep⟩ := h.represents.setSackedBit (a := q.position (q.startOf fromSeqNum))
    (b := q.position toSeqNum) ⟨by simp only; omega, by simp only [last]; omega, by simp only; omega,
      by simpa only [last, Nat.zero_add] using hto, hless⟩
  rw [nth_position, nth_position, setSackedBit_startOf] at hok
  have hoctets := hrep.octets
  refine ⟨q', hok, ⟨hrep.checkQueue, ?_⟩, hrep.beginNo.trans (nth_zero _), ?_, hoctets⟩
  · rw [hoctets]
    exact hrep.span
  · rw [hrep.endNo, h.represents.endNo]
    simp only [apply, last, length_onRange]

/-- An octet between the start and the end of a block lies inside it, also where the block reaches over
the end of the sequence space. -/
theorem Sackable.inside (h : q.Sackable fromSeqNum toSeqNum) (hq : q.Short) {n : Nat}
    (hstart : q.position (q.startOf fromSeqNum) ≤ n) (hn : n < q.position toSeqNum) :
    nth q.beginNo n - fromSeqNum < toSeqNum - fromSeqNum := by
  have hto := (h.positions hq).2
  have hlength := hq.length
  have hx : q.position (nth q.beginNo n) = n := by
    have hdistance := toNat_nth_sub q.beginNo (Nat.zero_le n) (by omega)
    rwa [nth_zero] at hdistance
  -- counted from the start of the block in the queue
  have hoffset (x : SeqNo) (hle : q.position (q.startOf fromSeqNum) ≤ q.position x) :
      (x - q.startOf fromSeqNum).toNat = q.position x - q.position (q.startOf fromSeqNum) := by
    rw [toNat_sub_offset q.beginNo]
    exact if_pos hle
  have hx' := hoffset (nth q.beginNo n) (by rw [hx]; exact hstart)
  have hto' := hoffset toSeqNum (by omega)
  have hadd (x : SeqNo) : (x - fromSeqNum).toNat =
      ((q.startOf fromSeqNum - fromSeqNum).toNat + (x - q.startOf fromSeqNum).toNat) % 2 ^ 32 := by
    grind
  have hbefore : (q.startOf fromSeqNum - fromSeqNum).toNat + (toSeqNum - q.startOf fromSeqNum).toNat < 2 ^ 32 := by
    rw [startOf]
    split
    · next hbelow =>
      have hnear : (q.beginNo - fromSeqNum).toNat < 2 ^ 31 := hbelow.2
      have hposition : (toSeqNum - q.beginNo).toNat ≤ q.octets.length := hto
      omega
    · rw [BitVec.sub_self]
      exact Nat.lt_of_le_of_lt (Nat.le_of_eq (Nat.zero_add _)) (isLt _)
  rw [lt_def, hadd, hadd toSeqNum, Nat.mod_eq_of_lt hbefore, Nat.mod_eq_of_lt (by omega)]
  omega

end SetSackedBit

end TCPSACKRexmitQueue

end Inet.Tcp
