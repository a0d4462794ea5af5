import Inetmanet.Tcp.SACKScoreboard

/-!
# Questions asked of the SACK scoreboard

What the queue answers is what the flags of the single octets say: how many of
them are selectively acknowledged, in how many runs, and up to where.
-/
namespace Inet.Tcp

open SerialNumber RunLength List Scoreboard

/-- How many octets are selectively acknowledged. -/
def sackedOctets (l : List Flags) : Nat := l.countP Flags.sacked

/-- In how many runs they lie, given whether the octet before the first one is. -/
def sackedRuns (prevSacked : Bool) : List Flags → Nat
  | [] => 0
  | f :: l => (if f.sacked && !prevSacked then 1 else 0) + sackedRuns f.sacked l

/-- The last octet that is selectively acknowledged is the `n`-th one, if there is one. -/
structure HighestSacked (l : List Flags) (n : Nat) : Prop where
  sacked : ∀ m, n = m + 1 → ∃ f, l[m]? = some f ∧ f.sacked
  above : ∀ m f, n ≤ m → l[m]? = some f → f.sacked = false

theorem sackedOctets_append (l m : List Flags) :
    sackedOctets (l ++ m) = sackedOctets l + sackedOctets m :=
  countP_append

theorem sackedOctets_replicate (n : Nat) (f : Flags) :
    sackedOctets (replicate n f) = if f.sacked then n else 0 :=
  countP_replicate

theorem sackedRuns_replicate (prevSacked : Bool) (n : Nat) (f : Flags) (l : List Flags) :
    sackedRuns prevSacked (replicate (n + 1) f ++ l) =
      (if f.sacked && !prevSacked then 1 else 0) + sackedRuns f.sacked l := by
  induction n generalizing prevSacked with
  | zero => rfl
  | succ n ih =>
    rw [replicate_succ, cons_append, sackedRuns, ih]
    cases f.sacked <;> simp

namespace TCPSACKRexmitQueue

variable {base : SeqNo} {p : Nat}

section

variable (base)

/-- Some loops visit the regions from the last to the first. -/
theorem reverse_regionsOf_concat (p : Nat) (l : List (Nat × Flags)) (n : Nat) (f : Flags) :
    (regionsOf base p (l ++ [(n, f)])).reverse =
      ⟨nth base (p + total l), nth base (p + total l + n), f.sacked, f.rexmitted⟩ ::
        (regionsOf base p l).reverse := by
  rw [regionsOf_append, reverse_append]
  rfl

theorem totalAmount_regionsOf (p : Nat) (bytes : SeqNo) (l : List (Nat × Flags)) :
    (regionsOf base p l).foldl
        (fun bytes i => if i.sacked then bytes + (i.endSeqNum - i.beginSeqNum) else bytes) bytes =
      bytes + BitVec.ofNat 32 (sackedOctets (expand l)) := by
  induction l generalizing p bytes with
  | nil => simp [regionsOf, sackedOctets]
  | cons r l ih =>
    obtain ⟨n, f⟩ := r
    have hn : nth base (p + n) - nth base p = BitVec.ofNat 32 n := by
      rw [nth_sub base (Nat.le_add_right p n), Nat.add_sub_cancel_left]
    rw [regionsOf, foldl_cons, ih, hn, expand_cons, sackedOctets_append, sackedOctets_replicate]
    cases f.sacked with
    | false => simp
    | true => simp [BitVec.ofNat_add, BitVec.add_assoc]

theorem sackedFrom_regionsOf (p : Nat) (l : List (Nat × Flags)) (hlen : total l < 2 ^ 31) {i : Nat}
    (hi : i ≤ total l) (bytes : SeqNo) :
    sackedFrom (nth base (p + i)) bytes (regionsOf base p l).reverse =
      bytes + BitVec.ofNat 32 (sackedOctets ((expand l).drop i)) := by
  induction l using reverseRecOn generalizing bytes with
  | nil => simp [regionsOf, sackedFrom, sackedOctets]
  | append_singleton l r ih =>
    obtain ⟨n, f⟩ := r
    simp only [total_append, total_cons, total_nil, Nat.add_zero] at hlen hi
    have hexp : expand (l ++ [(n, f)]) = expand l ++ replicate n f := by simp
    have hle : seqLE (nth base (p + i)) (nth base (p + total l)) ↔ i ≤ total l := by
      rw [seqLE_nth (by omega) (by omega)]
      omega
    rw [reverse_regionsOf_concat, sackedFrom, hexp, drop_append, sackedOctets_append, length_expand]
    simp only [hle]
    by_cases hil : i ≤ total l
    · -- the whole region lies behind the position
      have hzero : i - total l = 0 := by omega
      have hn : nth base (p + total l + n) - nth base (p + total l) = BitVec.ofNat 32 n := by
        rw [nth_sub base (Nat.le_add_right _ n), Nat.add_sub_cancel_left]
      rw [if_pos hil, ih (by omega) hil, hn, hzero, drop_zero, sackedOctets_replicate]
      cases f.sacked with
      | false => simp
      | true => simp only [if_true]; rw [Nat.add_comm, BitVec.ofNat_add, ← BitVec.add_assoc]
    · -- the position lies in the region, and the loop ends here
      have hfront : (expand l).drop i = [] := drop_eq_nil_of_le (by rw [length_expand]; omega)
      have hsub : nth base (p + total l + n) - nth base (p + i) = BitVec.ofNat 32 (n - (i - total l)) := by
        rw [nth_sub base (by omega)]
        congr 1
        omega
      have hin : seqLess (nth base (p + total l)) (nth base (p + i)) := by
        rw [seqLess_nth (by omega) (by omega)]
        omega
      have hend : seqLess (nth base (p + i)) (nth base (p + total l + n)) ↔ i < total l + n := by
        rw [seqLess_nth (by omega) (by omega)]
        omega
      rw [if_neg hil, hfront, drop_replicate, sackedOctets_replicate, hsub]
      simp only [hin, hend, true_and]
      by_cases hlast : i < total l + n
      · cases f.sacked with
        | false => simp [sackedOctets]
        | true => simp [sackedOctets, hlast]
      · have hzero : n - (i - total l) = 0 := by omega
        simp [sackedOctets, hlast, hzero]

theorem countRuns_regionsOf (p : Nat) {l : List (Nat × Flags)} (hl : Positive l) (counter : SeqNo) (prevSacked : Bool) :
    countRuns counter prevSacked (regionsOf base p l) =
      counter + BitVec.ofNat 32 (sackedRuns prevSacked (expand l)) := by
  induction l generalizing p counter prevSacked with
  | nil => simp [regionsOf, countRuns, sackedRuns]
  | cons r l ih =>
    obtain ⟨n, f⟩ := r
    obtain ⟨hn, hl'⟩ := Positive.cons_iff.mp hl
    obtain ⟨m, rfl⟩ := Nat.exists_eq_succ_of_ne_zero (Nat.pos_iff_ne_zero.mp hn)
    rw [regionsOf, countRuns, ih _ hl', expand_cons, sackedRuns_replicate]
    cases hs : (f.sacked && !prevSacked) with
    | false => simp
    | true => simp only [if_true]; rw [BitVec.ofNat_add, ← BitVec.add_assoc]; rfl

/-- Where the last region with a property ends. -/
theorem lastWhere_regionsOf (first : Nat) {p : Flags → Bool} {P : RexmitRegion → Bool}
    (hP : ∀ a b f, P ⟨a, b, f.sacked, f.rexmitted⟩ = p f) {l : List (Nat × Flags)} (hl : Positive l) :
    ∃ n, LastWhere p (expand l) n ∧
      (match (regionsOf base first l).reverse.find? P with
        | some i => i.endSeqNum
        | none => nth base first) = nth base (first + n) := by
  induction l using reverseRecOn with
  | nil => exact ⟨0, .nil p, rfl⟩
  | append_singleton l r ih =>
    obtain ⟨n, f⟩ := r
    obtain ⟨hl', hn⟩ := Positive.append_iff.mp hl
    have hexp : expand (l ++ [(n, f)]) = expand l ++ replicate n f := by simp
    rw [reverse_regionsOf_concat, find?_cons, hexp, hP]
    cases hs : p f with
    | false =>
      obtain ⟨k, hk, heq⟩ := ih hl'
      exact ⟨k, hk.append_not n hs, heq⟩
    | true =>
      refine ⟨_, LastWhere.append_holds _ (hn (n, f) (mem_singleton.mpr rfl)) hs, ?_⟩
      rw [length_expand, ← Nat.add_assoc]

end

/-- What the queue answers to every question about the octets `flags` that start at `first`. -/
structure Answers (base : SeqNo) (s : Scoreboard) (q : TCPSACKRexmitQueue) : Prop where
  total : q.getTotalAmountOfSackedBytes = BitVec.ofNat 32 (sackedOctets s.flags)
  amount : ∀ x, s.first ≤ x → x ≤ s.last → q.getAmountOfSackedBytes (nth base x) =
    .ok (BitVec.ofNat 32 (sackedOctets (s.flags.drop (x - s.first))))
  runs : ∀ x, s.first ≤ x → x ≤ s.last → q.getNumOfDiscontiguousSacks (nth base x) =
    .ok (BitVec.ofNat 32 (sackedRuns false (s.flags.drop (x - s.first))))
  highest : ∃ n, HighestSacked s.flags n ∧ q.getHighestSackedSeqNum = nth base (s.first + n)
  sackedBit : ∀ x, s.first ≤ x → x ≤ s.last → q.getSackedBit (nth base x) =
    .ok ((s.flags[x - s.first]?.map Flags.sacked).getD false)
  /-- The block is one of octets with the same flags. -/
  block : ∀ x, s.first ≤ x → x < s.last → ∃ n f, 0 < n ∧
    q.checkSackBlock (nth base x) = .ok (BitVec.ofNat 32 n, f.sacked, f.rexmitted) ∧
    ∀ y, x ≤ y → y < x + n → s.flags[y - s.first]? = some f

namespace Represents

variable {s : Scoreboard} {runs : List (Nat × Flags)} {q : TCPSACKRexmitQueue}

variable {x : Nat}

/-- A position of the queue lies in a region of octets with the same flags. -/
theorem around (h : Represents base s runs q) (h₁ : s.first ≤ x) (h₂ : x < s.last) :
    ∃ r l n f tail, after (nth base x) q.rexmitQueue = r :: l ∧ Around (nth base x) r ∧
      { r with beginSeqNum := nth base x } :: l = regionsOf base x ((n, f) :: tail) ∧
      Positive ((n, f) :: tail) ∧ s.flags.drop (x - s.first) = expand ((n, f) :: tail) := by
  have hspan := h.span
  have hlen := h.length_flags
  rw [h.last_eq] at h₂
  have hpos : s.first + (x - s.first) = x := by omega
  have hdisc := discard_regionsOf base (p := s.first) h.positive (by omega) (i := x - s.first) (by omega)
  rw [hpos, ← h.rexmitQueue] at hdisc
  obtain ⟨-, hend⟩ | ⟨r, l, m, haft, haround, hregions, hpm, hexp⟩ := hdisc
  · omega
  · cases m with
    | nil => simp [regionsOf] at hregions
    | cons y tail => exact ⟨r, l, y.1, y.2, tail, haft, haround, hregions, hpm, by rw [hexp, h.flags]⟩

theorem endNo_eq_iff (h : Represents base s runs q) (h₁ : s.first ≤ x) (h₂ : x ≤ s.last) :
    q.endNo = nth base x ↔ x = s.last := by
  have hspan := h.span
  rw [last] at h₂ ⊢
  rw [h.endNo, last, nth_eq_nth (by omega) (by omega)]
  exact eq_comm

/-- There are no octets behind the end. -/
theorem drop_last (s : Scoreboard) : s.flags.drop (s.last - s.first) = [] :=
  drop_eq_nil_of_le (by rw [last]; omega)

section

variable (h : Represents base s runs q)
include h

section

variable (h₁ : s.first ≤ x)
include h₁

theorem getAmountOfSackedBytes (h₂ : x ≤ s.last) :
    q.getAmountOfSackedBytes (nth base x) =
      .ok (BitVec.ofNat 32 (sackedOctets (s.flags.drop (x - s.first)))) := by
  have hspan := h.span
  have hlen := h.length_flags
  have hentry := h.entry h₁ h₂
  rw [h.last_eq] at h₂
  have hloop := (sackedFrom_regionsOf base s.first runs (by omega) (i := x - s.first) (by omega) 0).trans
    (BitVec.zero_add _)
  rw [show s.first + (x - s.first) = x by omega, ← h.rexmitQueue, ← h.flags] at hloop
  rw [TCPSACKRexmitQueue.getAmountOfSackedBytes, ensure_pos hentry, hloop]
  rfl

theorem getNumOfDiscontiguousSacks (h₂ : x ≤ s.last) :
    q.getNumOfDiscontiguousSacks (nth base x) =
      .ok (BitVec.ofNat 32 (sackedRuns false (s.flags.drop (x - s.first)))) := by
  rw [TCPSACKRexmitQueue.getNumOfDiscontiguousSacks, ensure_pos (h.entry h₁ h₂)]
  by_cases hend : x = s.last
  · rw [if_pos (.inr ((h.endNo_eq_iff h₁ h₂).mpr hend).symm), hend, drop_last]
    rfl
  · obtain ⟨r, l, n, f, tail, haft, -, hregions, hpm, hexp⟩ := h.around h₁ (by omega)
    have hne : q.rexmitQueue ≠ [] := by
      intro hnil
      rw [hnil] at haft
      cases haft
    have hcond : ¬ (q.rexmitQueue = [] ∨ nth base x = q.endNo) := by
      rintro (hnil | heq)
      · exact hne hnil
      · exact hend ((h.endNo_eq_iff h₁ h₂).mp heq.symm)
    have hcount := (countRuns_regionsOf base x hpm 0 false).trans (BitVec.zero_add _)
    rw [← hregions, ← hexp] at hcount
    rw [if_neg hcond, haft, ← hcount]
    rfl

theorem getSackedBit (h₂ : x ≤ s.last) :
    q.getSackedBit (nth base x) = .ok ((s.flags[x - s.first]?.map Flags.sacked).getD false) := by
  rw [TCPSACKRexmitQueue.getSackedBit, ensure_pos (h.entry h₁ h₂)]
  by_cases hend : x = s.last
  · have hnone : s.flags[x - s.first]? = none :=
      getElem?_eq_none (by rw [hend, last]; omega)
    simp [(h.endNo_eq_iff h₁ h₂).mpr hend, hnone, bind, Except.bind, pure, Except.pure]
  · obtain ⟨r, l, n, f, tail, haft, haround, hregions, hpm, hexp⟩ := h.around h₁ (by omega)
    have hne : q.endNo ≠ nth base x := fun heq => hend ((h.endNo_eq_iff h₁ h₂).mp heq)
    have hr : r.sacked = f.sacked := by
      simp only [regionsOf, cons.injEq, RexmitRegion.mk.injEq] at hregions
      exact hregions.1.2.2.1
    have hget : s.flags[x - s.first]? = some f := by
      have hn := (Positive.cons_iff.mp hpm).1
      have hhead := congrArg head? hexp
      rw [head?_drop, expand_cons, head?_append, head?_replicate] at hhead
      simpa [Nat.pos_iff_ne_zero.mp hn] using hhead
    simp [hne, haft, haround, hget, hr, bind, Except.bind, pure, Except.pure]

theorem checkSackBlock (h₂ : x < s.last) :
    ∃ n f, 0 < n ∧ q.checkSackBlock (nth base x) = .ok (BitVec.ofNat 32 n, f.sacked, f.rexmitted) ∧
      ∀ y, x ≤ y → y < x + n → s.flags[y - s.first]? = some f := by
  have hspan := h.span
  have hentry : seqLE q.beginNo (nth base x) ∧ seqLess (nth base x) q.endNo := by
    refine ⟨(h.entry h₁ (Nat.le_of_lt h₂)).1, ?_⟩
    rw [last] at h₂
    rw [h.endNo, last, seqLess_nth (by omega) (by omega)]
    exact h₂
  obtain ⟨r, l, n, f, tail, haft, haround, hregions, hpm, hexp⟩ := h.around h₁ h₂
  simp only [regionsOf, cons.injEq, RexmitRegion.mk.injEq] at hregions
  obtain ⟨⟨-, hend, hsacked, hrexmitted⟩, -⟩ := hregions
  have hn : nth base (x + n) - nth base x = BitVec.ofNat 32 n := by
    rw [nth_sub base (Nat.le_add_right x n), Nat.add_sub_cancel_left]
  refine ⟨n, f, (Positive.cons_iff.mp hpm).1, ?_, ?_⟩
  · rw [TCPSACKRexmitQueue.checkSackBlock, ensure_pos hentry, haft]
    simp [haround, hend, hsacked, hrexmitted, hn, bind, Except.bind, pure, Except.pure]
  · intro y hy₁ hy₂
    have hget := congrArg (fun l : List Flags => l[y - x]?) hexp
    simp only [getElem?_drop, expand_cons] at hget
    rw [getElem?_append_left (by simp only [length_replicate]; omega),
      getElem?_replicate_of_lt (by omega)] at hget
    rw [← hget]
    congr 1
    omega

end

theorem answers : Answers base s q where
  total := by
    rw [getTotalAmountOfSackedBytes, h.rexmitQueue, h.flags]
    exact (totalAmount_regionsOf base s.first 0 runs).trans (BitVec.zero_add _)
  amount _ h₁ h₂ := h.getAmountOfSackedBytes h₁ h₂
  runs _ h₁ h₂ := h.getNumOfDiscontiguousSacks h₁ h₂
  highest := by
    rw [getHighestSackedSeqNum, h.rexmitQueue, h.beginNo, h.flags]
    obtain ⟨n, hn, heq⟩ := lastWhere_regionsOf base s.first (p := Flags.sacked)
      (P := RexmitRegion.sacked) (fun _ _ _ => rfl) h.positive
    exact ⟨n, ⟨hn.holds, hn.above⟩, heq⟩
  sackedBit _ h₁ h₂ := h.getSackedBit h₁ h₂
  block _ h₁ h₂ := h.checkSackBlock h₁ h₂

end

end Represents

/-- Whatever calls a queue gets within its entry assertions, none of them fails, and its
regions are the octets of the scoreboard in order. -/
theorem scoreboard_exact (base : SeqNo) (start : Nat) (ops : List ScoreboardOp)
    (h : Scoreboard.AllAllowed ⟨start, []⟩ ops) :
    ∃ q, run base (init (nth base start)) ops = .ok q ∧ q.CheckQueue ∧
      q.beginNo = nth base (ops.foldl Scoreboard.apply ⟨start, []⟩).first ∧
      q.endNo = nth base (ops.foldl Scoreboard.apply ⟨start, []⟩).last ∧
      q.octets = (ops.foldl Scoreboard.apply ⟨start, []⟩).flags ∧
      Answers base (ops.foldl Scoreboard.apply ⟨start, []⟩) q := by
  obtain ⟨runs, q, hrun, hq⟩ := (Represents.init base start).run h
  exact ⟨q, hrun, hq.checkQueue, hq.beginNo, hq.endNo, hq.octets, hq.answers⟩

/-- Four octets are sent, the middle two of them are acknowledged selectively, and the last
three are sent again together with a new one, across the wrap-around. -/
theorem scoreboard_exact_wrap :
    ∃ q, run 0xfffffffe (init (nth 0xfffffffe 0))
        [.enqueueSentData 0 4, .setSackedBit 1 3, .enqueueSentData 1 5] = .ok q ∧
      q.CheckQueue ∧ q.beginNo = 0xfffffffe ∧ q.endNo = 3 ∧
      q.octets = [⟨false, false⟩, ⟨true, true⟩, ⟨true, true⟩, ⟨false, true⟩, ⟨false, false⟩] ∧
      Answers 0xfffffffe ⟨0, [⟨false, false⟩, ⟨true, true⟩, ⟨true, true⟩, ⟨false, true⟩, ⟨false, false⟩]⟩ q :=
  scoreboard_exact 0xfffffffe 0 [.enqueueSentData 0 4, .setSackedBit 1 3, .enqueueSentData 1 5]
    (by simp [Scoreboard.AllAllowed, Scoreboard.Allowed, Scoreboard.apply, Scoreboard.last])

end TCPSACKRexmitQueue

end Inet.Tcp
