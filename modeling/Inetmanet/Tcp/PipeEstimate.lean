import Inetmanet.Tcp.NextSeg

/-!
# The estimate of the octets on the way

`setPipe` adds whole blocks. All octets of a block count alike, so the sum is the
one over the single octets, as long as `snd_max` does not lie behind the queue.
-/
namespace Inet.Tcp

open SerialNumber RunLength BitVec Finset

namespace TCPSACKRexmitQueue

theorem endSeqNum_regionsOf {base : SeqNo} {p : Nat} {l : List (Nat × Flags)} {i : RexmitRegion}
    (hi : i ∈ regionsOf base p l) : ∃ k, k ≤ total l ∧ i.endSeqNum = nth base (p + k) := by
  induction l generalizing p with
  | nil => cases hi
  | cons r l ih =>
    obtain ⟨n, f⟩ := r
    simp only [regionsOf, List.mem_cons] at hi
    cases hi with
    | inl heq => exact ⟨n, by simp, by rw [heq]⟩
    | inr hmem =>
      obtain ⟨k, hk, hend⟩ := ih hmem
      exact ⟨n + k, by simp [hk], by rw [hend, Nat.add_assoc]⟩

/-- A block does not reach over the end of a region. -/
theorem Represents.block_le {base : SeqNo} {s : Scoreboard} {runs : List (Nat × Flags)}
    {q : TCPSACKRexmitQueue} (h : Represents base s runs q) {x m n : Nat} (hx : s.first ≤ x) (hxm : x < m)
    (hm : m ≤ s.last) {i : RexmitRegion} (hi : i ∈ q.rexmitQueue) (hend : i.endSeqNum = nth base m)
    {sacked rexmitted : Bool} (hn : n ≤ s.last - x)
    (hcheck : q.checkSackBlock (nth base x) = .ok (BitVec.ofNat 32 n, sacked, rexmitted)) : x + n ≤ m := by
  have hspan := h.span
  have hlast : s.last = s.first + s.flags.length := rfl
  obtain ⟨r, l, k, f, tail, haft, haround, hregions, -, hflags⟩ := h.around hx (by omega)
  simp only [regionsOf, List.cons.injEq, RexmitRegion.mk.injEq] at hregions
  obtain ⟨⟨-, hrend, -, -⟩, htail⟩ := hregions
  have htotal : s.flags.length - (x - s.first) = k + total tail := by
    have := congrArg List.length hflags
    simpa using this
  -- the block is the rest of the region around the position
  have hk : k = n := by
    rw [TCPSACKRexmitQueue.checkSackBlock, ensure_bind_ok, haft] at hcheck
    have hlen := hcheck.2
    simp only [haround, ensure_pos, bind, Except.bind, pure, Except.pure, Except.ok.injEq, Prod.mk.injEq] at hlen
    have heq := congrArg BitVec.toNat hlen.1
    rw [hrend, toNat_nth_sub base (by omega) (by omega), toNat_ofNat, Nat.mod_eq_of_lt (by omega)] at heq
    omega
  rw [← List.takeWhile_append_dropWhile (p := fun i => decide (seqLE i.endSeqNum (nth base x)))
    (l := q.rexmitQueue), List.mem_append] at hi
  cases hi with
  | inl hbefore =>
    have hle := List.mem_takeWhile_imp hbefore
    rw [decide_eq_true_iff, hend, seqLE_nth (by omega) (by omega)] at hle
    omega
  | inr hfrom =>
    change i ∈ after (nth base x) q.rexmitQueue at hfrom
    rw [haft, List.mem_cons] at hfrom
    cases hfrom with
    | inl heq =>
      rw [heq, hrend, nth_eq_nth (by omega) (by omega)] at hend
      omega
    | inr hmem =>
      rw [htail] at hmem
      obtain ⟨j, hj, hjend⟩ := endSeqNum_regionsOf hmem
      rw [hjend, nth_eq_nth (by omega) (by omega)] at hend
      omega

end TCPSACKRexmitQueue

namespace TCPConnection

/-- `snd_max` does not lie within a region of the queue. -/
def SndMaxAtEdge (conn : TCPConnection) : Prop :=
  conn.state.sndMax = conn.state.sndUna ∨
    ∃ i ∈ conn.rexmitQueue.rexmitQueue, i.endSeqNum = conn.state.sndMax

/-- What an octet adds to the estimate. -/
def octetPipe (conn : TCPConnection) (n : Nat) : Nat :=
  (if Unsacked conn.flags n ∧ ¬ LostAt conn.state.sndMss conn.flags n then 1 else 0) +
    (if Unsacked conn.flags n ∧ n < conn.highRxtAt then 1 else 0)

/-- The octets that are neither acknowledged nor lost, and those that have been sent again. -/
def octetsInPipe (conn : TCPConnection) : Nat :=
  ((Finset.range conn.maxAt).filter fun n =>
      Unsacked conn.flags n ∧ ¬ LostAt conn.state.sndMss conn.flags n).card +
    ((Finset.range conn.maxAt).filter fun n => Unsacked conn.flags n ∧ n < conn.highRxtAt).card

theorem octetsInPipe_eq (conn : TCPConnection) :
    conn.octetsInPipe = ∑ n ∈ Finset.Ico 0 conn.maxAt, conn.octetPipe n := by
  rw [octetsInPipe, card_filter, card_filter, ← sum_add_distrib, range_eq_Ico]
  rfl

theorem octetsInPipe_le (conn : TCPConnection) : conn.octetsInPipe ≤ 2 * conn.maxAt := by
  have h₁ := card_filter_le (Finset.range conn.maxAt) fun n =>
    Unsacked conn.flags n ∧ ¬ LostAt conn.state.sndMss conn.flags n
  have h₂ := card_filter_le (Finset.range conn.maxAt) fun n =>
    Unsacked conn.flags n ∧ n < conn.highRxtAt
  rw [card_range] at h₁ h₂
  rw [octetsInPipe]
  omega

namespace Recovering

variable {conn : TCPConnection}

section

variable (h : conn.Recovering)
include h

/-- All octets of a block add the same. -/
theorem octetPipe_block {x n : Nat} {f : Flags}
    (hsame : ∀ y, x ≤ y → y < x + n → conn.flags[y]? = some f) {y : Nat} (hxy : x ≤ y) (hy : y < x + n) :
    conn.octetPipe y = if f.sacked then 0
      else (if LostAt conn.state.sndMss conn.flags x then 0 else 1) + if x < conn.highRxtAt then 1 else 0 := by
  have hflag := hsame y hxy hy
  cases hf : f.sacked with
  | true =>
    have hnot : ¬ Unsacked conn.flags y := by
      rintro ⟨g, hg, hno⟩
      rw [hflag] at hg
      cases hg
      rw [hf] at hno
      cases hno
    simp [octetPipe, hnot]
  | false =>
    have hun : Unsacked conn.flags y := ⟨f, hflag, hf⟩
    have hlost : LostAt conn.state.sndMss conn.flags y ↔ LostAt conn.state.sndMss conn.flags x := by
      obtain ⟨k, rfl⟩ := Nat.exists_eq_add_of_le hxy
      clear hflag hun hxy
      induction k with
      | zero => exact Iff.rfl
      | succ k ih =>
        rw [← Nat.add_assoc, LostAt.skip (hsame (x + k) (by omega) (by omega)) hf]
        exact ih (by omega)
    -- the end of what has been sent again is the end of a block
    have hrxt : y < conn.highRxtAt ↔ x < conn.highRxtAt := by
      refine ⟨fun hlt => by omega, fun hlt => ?_⟩
      by_contra hge
      have hlast := h.highestRexmitted.1
      obtain ⟨g, hg, hrexmitted⟩ := hlast.holds (conn.highRxtAt - 1) (by omega)
      rw [hsame _ (by omega) (by omega)] at hg
      cases hg
      have := hlast.above y f (by omega) hflag
      rw [hrexmitted] at this
      cases this
    simp only [octetPipe, hun, true_and, hlost, hrxt, ite_not, Bool.false_eq_true, if_false]

theorem inPipe {x n : Nat} (hx : x < conn.flags.length) (pipe : SeqNo) :
    conn.setHighRxt.inPipe (conn.seqAt x) (BitVec.ofNat 32 n) pipe =
      .ok (pipe + BitVec.ofNat 32 (n * ((if LostAt conn.state.sndMss conn.flags x then 0 else 1) +
        if x < conn.highRxtAt then 1 else 0))) := by
  have hlen := h.length_lt
  have hle := h.highestRexmitted.1.le_length
  have hlost : conn.setHighRxt.isLost (conn.seqAt x) =
      .ok (decide (LostAt conn.state.sndMss conn.flags x)) := h.isLost (Nat.le_of_lt hx)
  have hless : seqLess (conn.seqAt x) conn.setHighRxt.state.highRxt ↔ x < conn.highRxtAt := by
    change seqLess (conn.seqAt x) conn.rexmitQueue.getHighestRexmittedSeqNum ↔ _
    rw [h.highestRexmitted.2]
    exact seqLess_nth (by omega) (by omega)
  rw [TCPConnection.inPipe, hlost]
  simp only [bind, Except.bind, pure, Except.pure, hless, decide_eq_false_iff_not]
  by_cases hl : LostAt conn.state.sndMss conn.flags x <;> by_cases hr : x < conn.highRxtAt <;>
    simp [hl, hr, Nat.mul_two, ofNat_add, BitVec.add_assoc]

theorem sndMax_above {x : Nat} (hx : x ≤ conn.flags.length) :
    seqLess (conn.seqAt x) conn.setHighRxt.state.sndMax ↔ x < conn.maxAt := by
  have hlen := h.length_lt
  have hshort := h.maxAt_lt
  change seqLess _ conn.state.sndMax ↔ _
  rw [sndMax_eq]
  exact seqLess_nth (by omega) (by omega)

/-- One turn of the loop of `setPipe` adds a block. -/
theorem pipeFrom_block {x : Nat} (hin : x < conn.flags.length) (hmax : x < conn.maxAt) (fuel : Nat) (pipe : SeqNo) :
    ∃ (n : Nat) (f : Flags), 0 < n ∧ x + n ≤ conn.flags.length ∧
      conn.rexmitQueue.checkSackBlock (conn.seqAt x) = .ok (BitVec.ofNat 32 n, f.sacked, f.rexmitted) ∧
      conn.setHighRxt.pipeFrom (fuel + 1) (conn.seqAt x) pipe = conn.setHighRxt.pipeFrom fuel (conn.seqAt (x + n))
        (pipe + BitVec.ofNat 32 (∑ k ∈ Finset.Ico x (x + n), conn.octetPipe k)) := by
  obtain ⟨n, f, hn, hend, hcheck, hsame⟩ := h.block hin
  refine ⟨n, f, hn, hend, hcheck, ?_⟩
  have hsum : ∑ k ∈ Finset.Ico x (x + n), conn.octetPipe k =
      n * (if f.sacked then 0 else (if LostAt conn.state.sndMss conn.flags x then 0 else 1) +
        if x < conn.highRxtAt then 1 else 0) := by
    rw [sum_const_nat fun y hy => h.octetPipe_block hsame (mem_Ico.mp hy).1 (mem_Ico.mp hy).2,
      Nat.card_Ico, Nat.add_sub_cancel_left]
  have hstep : conn.seqAt x + BitVec.ofNat 32 n = conn.seqAt (x + n) := (nth_add _ x n).symm
  have hcheck' : conn.setHighRxt.rexmitQueue.checkSackBlock (conn.seqAt x) =
      .ok (BitVec.ofNat 32 n, f.sacked, f.rexmitted) := hcheck
  rw [TCPConnection.pipeFrom, if_pos ((h.sndMax_above (Nat.le_of_lt hin)).mpr hmax), hcheck', hsum]
  cases hf : f.sacked with
  | true => simp [bind, Except.bind, pure, Except.pure, hstep]
  | false => simp only [bind, Except.bind, if_neg (Bool.false_ne_true), h.inPipe hin, hstep]

/-- The loop of `setPipe`, one block at a time. -/
theorem pipeFrom (hedge : conn.SndMaxAtEdge) (hmax : conn.maxAt ≤ conn.flags.length)
    (fuel : Nat) {x : Nat} (hx : x ≤ conn.maxAt) (hfuel : conn.maxAt < x + fuel) (pipe : SeqNo) :
    conn.setHighRxt.pipeFrom fuel (conn.seqAt x) pipe =
      .ok (pipe + BitVec.ofNat 32 (∑ n ∈ Finset.Ico x conn.maxAt, conn.octetPipe n)) := by
  have hlen := h.length_lt
  induction fuel generalizing x pipe with
  | zero => omega
  | succ fuel ih =>
    by_cases hin : x < conn.maxAt
    · obtain ⟨n, f, hn, hend, hcheck, hturn⟩ := h.pipeFrom_block (by omega) hin fuel pipe
      have hnm : x + n ≤ conn.maxAt := by
        obtain ⟨runs, hrep⟩ := h.represents
        cases hedge with
        | inl heq =>
          have : conn.maxAt = 0 := by rw [maxAt, heq]; simp
          omega
        | inr hedge =>
          obtain ⟨i, hi, hiend⟩ := hedge
          rw [sndMax_eq] at hiend
          exact hrep.block_le (Nat.zero_le x) hin (by simpa [Scoreboard.last] using hmax) hi hiend
            (by simp only [Scoreboard.last]; omega) hcheck
      rw [hturn, ih hnm (by omega), BitVec.add_assoc, ← ofNat_add,
        sum_Ico_consecutive conn.octetPipe (Nat.le_add_right x n) hnm]
    · rw [TCPConnection.pipeFrom, if_neg (mt (h.sndMax_above (by omega)).mp hin), Finset.Ico_eq_empty (by omega)]
      simp

/-- `setPipe` goes through and counts the octets. -/
theorem setPipe (hedge : conn.SndMaxAtEdge) (hmax : conn.maxAt ≤ conn.flags.length) :
    ∃ conn', conn.setPipe = .ok conn' ∧ conn'.state.pipe.toNat = conn.octetsInPipe := by
  have hshort := h.maxAt_lt
  have hle := conn.octetsInPipe_le
  have hloop := h.pipeFrom hedge hmax loopLimit (Nat.zero_le _) (by rw [loopLimit]; omega) 0
  have hzero : (0 : SeqNo) + BitVec.ofNat 32 conn.octetsInPipe = BitVec.ofNat 32 conn.octetsInPipe :=
    BitVec.zero_add _
  rw [← octetsInPipe_eq, seqAt, nth_zero, hzero] at hloop
  have hrun : conn.setPipe = .ok { conn.setHighRxt with
      state := { conn.setHighRxt.state with pipe := BitVec.ofNat 32 conn.octetsInPipe } } := by
    have hloop' : conn.setHighRxt.pipeFrom loopLimit conn.setHighRxt.state.sndUna 0 =
        .ok (BitVec.ofNat 32 conn.octetsInPipe) := hloop
    rw [TCPConnection.setPipe, ensure_pos h.sackEnabled]
    simp only [bind, Except.bind, hloop']
    rfl
  refine ⟨_, hrun, ?_⟩
  rw [toNat_ofNat, Nat.mod_eq_of_lt (by omega)]

/-- With `snd_max` behind the queue the loop asks for a block that is not there. -/
theorem pipeFrom_beyond (hmax : conn.flags.length < conn.maxAt) (fuel : Nat) {x : Nat}
    (hx : x ≤ conn.flags.length) (hfuel : conn.flags.length < x + fuel) (pipe : SeqNo) :
    conn.setHighRxt.pipeFrom fuel (conn.seqAt x) pipe =
      .error (.assertion "seqLE(begin, fromSeqNum) && seqLess(fromSeqNum, end)") := by
  have hlen := h.length_lt
  induction fuel generalizing x pipe with
  | zero => omega
  | succ fuel ih =>
    by_cases hin : x < conn.flags.length
    · obtain ⟨n, f, hn, hend, -, hturn⟩ := h.pipeFrom_block hin (by omega) fuel pipe
      rw [hturn]
      exact ih hend (by omega) _
    · obtain ⟨runs, hrep⟩ := h.represents
      have hnot : ¬ seqLess (conn.seqAt x) conn.rexmitQueue.endNo := by
        rw [hrep.endNo, seqAt, seqLess_nth (by simp only [Scoreboard.last]; omega)
          (by simp only [Scoreboard.last]; omega)]
        simp only [Scoreboard.last]
        omega
      have hcheck : conn.setHighRxt.rexmitQueue.checkSackBlock (conn.seqAt x) =
          .error (.assertion "seqLE(begin, fromSeqNum) && seqLess(fromSeqNum, end)") := by
        rw [TCPSACKRexmitQueue.checkSackBlock]
        exact bind_error.mpr (.inl (ensure_error.mpr ⟨fun hc => hnot hc.2, rfl⟩))
      rw [TCPConnection.pipeFrom, if_pos ((h.sndMax_above hx).mpr (by omega)), hcheck]
      rfl

end

end Recovering

/-- `setPipe` meets its specification exactly where `snd_max` is not behind the queue. -/
theorem setPipe_iff (conn : TCPConnection) (h : conn.Recovering)
    (hedge : conn.maxAt ≤ conn.flags.length → conn.SndMaxAtEdge) :
    (∃ conn', conn.setPipe = .ok conn' ∧ conn'.state.pipe.toNat = conn.octetsInPipe) ↔
      conn.maxAt ≤ conn.flags.length := by
  refine ⟨?_, fun hmax => h.setPipe (hedge hmax) hmax⟩
  rintro ⟨conn', hrun, -⟩
  by_contra hlt
  have hlen := h.length_lt
  have hloop := h.pipeFrom_beyond (by omega) loopLimit (Nat.zero_le _) (by rw [loopLimit]; omega) 0
  rw [seqAt, nth_zero] at hloop
  rw [TCPConnection.setPipe, ensure_bind_ok] at hrun
  obtain ⟨pipe, hpipe, -⟩ := bind_ok.mp hrun.2
  change conn.setHighRxt.pipeFrom loopLimit conn.state.sndUna 0 = _ at hpipe
  rw [hloop] at hpipe
  cases hpipe

theorem gapSender_setPipe :
    ∃ conn', gapSender.setPipe = .ok conn' ∧ conn'.state.pipe.toNat = gapSender.octetsInPipe :=
  (setPipe_iff gapSender gapSender_recovering fun _ => .inr ⟨⟨3, 6, true, false⟩, by decide, rfl⟩).mpr (by decide)

end TCPConnection

end Inet.Tcp
