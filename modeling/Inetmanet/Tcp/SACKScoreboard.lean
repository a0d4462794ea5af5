import Inetmanet.Lib.RunLength
import Inetmanet.Tcp.SACKRexmitQueue

/-!
# The scoreboard of the SACK retransmission queue

What the queue stands for: the flags of every octet that has been sent and not
acknowledged. Octets stand at positions counted from an arbitrary base number.
-/
namespace Inet.Tcp

open SerialNumber RunLength List

structure Flags where
  sacked : Bool
  rexmitted : Bool
  deriving DecidableEq, Repr

/-- The flags of the octets from position `first` on. -/
structure Scoreboard where
  first : Nat
  flags : List Flags
  deriving DecidableEq, Repr

inductive ScoreboardOp where
  | enqueueSentData (a b : Nat)
  | setSackedBit (a b : Nat)
  | discardUpTo (a : Nat)
  | resetSackedBit
  | resetRexmittedBit

namespace Scoreboard

/-- The position behind the last octet. -/
def last (s : Scoreboard) : Nat := s.first + s.flags.length

/-- What an operation does to the flags of every octet. -/
def apply (s : Scoreboard) : ScoreboardOp → Scoreboard
  | .enqueueSentData a b =>
    { s with flags := onRange (a - s.first) (b - s.first) (fun f => { f with rexmitted := true }) s.flags ++
        List.replicate (b - s.last) ⟨false, false⟩ }
  | .setSackedBit a b =>
    { s with flags := onRange (a - s.first) (b - s.first) (fun f => { f with sacked := true }) s.flags }
  | .discardUpTo a => ⟨a, s.flags.drop (a - s.first)⟩
  | .resetSackedBit => { s with flags := s.flags.map fun f => { f with sacked := false } }
  | .resetRexmittedBit => { s with flags := s.flags.map fun f => { f with rexmitted := false } }

/-- The entry assertions, for positions within half of the sequence space. -/
def Allowed (s : Scoreboard) : ScoreboardOp → Prop
  | .enqueueSentData a b => s.first ≤ a ∧ a ≤ s.last ∧ a < b ∧ b < s.first + 2 ^ 31
  | .setSackedBit a b => s.first < a + 2 ^ 31 ∧ a < s.last ∧ s.first < b ∧ b ≤ s.last ∧ a < b
  | .discardUpTo a => s.first ≤ a ∧ a ≤ s.last
  | .resetSackedBit => True
  | .resetRexmittedBit => True

def AllAllowed (s : Scoreboard) : List ScoreboardOp → Prop
  | [] => True
  | op :: ops => s.Allowed op ∧ (s.apply op).AllAllowed ops

end Scoreboard

namespace TCPSACKRexmitQueue

open Scoreboard

/-- The call that an operation on positions stands for. -/
def call (base : SeqNo) (q : TCPSACKRexmitQueue) : ScoreboardOp → Sim TCPSACKRexmitQueue
  | .enqueueSentData a b => q.enqueueSentData (nth base a) (nth base b)
  | .setSackedBit a b => q.setSackedBit (nth base a) (nth base b)
  | .discardUpTo a => q.discardUpTo (nth base a)
  | .resetSackedBit => .ok q.resetSackedBit
  | .resetRexmittedBit => .ok q.resetRexmittedBit

def run (base : SeqNo) (q : TCPSACKRexmitQueue) : List ScoreboardOp → Sim TCPSACKRexmitQueue
  | [] => .ok q
  | op :: ops => do
    let q ← q.call base op
    q.run base ops

/-- The flags octet by octet, as the regions give them. -/
def octets (q : TCPSACKRexmitQueue) : List Flags :=
  q.rexmitQueue.flatMap fun i =>
    List.replicate (i.endSeqNum - i.beginSeqNum).toNat ⟨i.sacked, i.rexmitted⟩

/-- The regions of runs of flags, from a position on. -/
def regionsOf (base : SeqNo) : Nat → List (Nat × Flags) → List RexmitRegion
  | _, [] => []
  | p, (n, f) :: l => ⟨nth base p, nth base (p + n), f.sacked, f.rexmitted⟩ :: regionsOf base (p + n) l

variable {base : SeqNo} {p : Nat} {l : List (Nat × Flags)}

theorem regionsOf_append (base : SeqNo) (p : Nat) (l m : List (Nat × Flags)) :
    regionsOf base p (l ++ m) = regionsOf base p l ++ regionsOf base (p + total l) m := by
  induction l generalizing p with
  | nil => rfl
  | cons r l ih =>
    simp [regionsOf, ih, Nat.add_assoc]

/-- No run is empty. -/
def Positive (l : List (Nat × Flags)) : Prop := ∀ r ∈ l, 0 < r.1

theorem Positive.cons_iff {r : Nat × Flags} : Positive (r :: l) ↔ 0 < r.1 ∧ Positive l := by
  simp [Positive]

theorem Positive.append_iff {m : List (Nat × Flags)} :
    Positive (l ++ m) ↔ Positive l ∧ Positive m := by
  simp only [Positive, mem_append]
  constructor
  · intro h
    exact ⟨fun r hr => h r (.inl hr), fun r hr => h r (.inr hr)⟩
  · rintro ⟨h₁, h₂⟩ r (hr | hr)
    · exact h₁ r hr
    · exact h₂ r hr

theorem Positive.mapRuns (h : Positive l) (g : Flags → Flags) : Positive (mapRuns g l) := by
  intro r hr
  obtain ⟨r', hr', heq⟩ := mem_map.mp hr
  rw [← heq]
  exact h r' hr'

theorem contiguous_regionsOf (hl : Positive l) (hlen : total l < 2 ^ 31) :
    Contiguous (nth base p) (nth base (p + total l)) (regionsOf base p l) := by
  induction l generalizing p with
  | nil => rfl
  | cons r l ih =>
    obtain ⟨n, f⟩ := r
    obtain ⟨hn, hl'⟩ := Positive.cons_iff.mp hl
    simp only [total_cons] at hlen hn
    have hless : seqLess (nth base p) (nth base (p + n)) := by
      rw [seqLess_nth (by omega) (by omega)]
      omega
    have hrest := ih (p := p + n) hl' (by omega)
    rw [Nat.add_assoc] at hrest
    exact ⟨rfl, hless, hrest⟩

theorem octets_regionsOf (hlen : total l < 2 ^ 31) :
    (regionsOf base p l).flatMap (fun i =>
      replicate (i.endSeqNum - i.beginSeqNum).toNat (⟨i.sacked, i.rexmitted⟩ : Flags)) =
      expand l := by
  induction l generalizing p with
  | nil => rfl
  | cons r l ih =>
    obtain ⟨n, f⟩ := r
    simp only [total_cons] at hlen
    have hn : (nth base (p + n) - nth base p).toNat = n := by
      rw [toNat_nth_sub base (by omega) (by omega)]
      omega
    simp only [regionsOf, flatMap_cons, hn, ih (p := p + n) (by omega), expand_cons]

theorem map_regionsOf {g : Flags → Flags} {h : RexmitRegion → RexmitRegion}
    (hh : ∀ a b f, h ⟨a, b, f.sacked, f.rexmitted⟩ = ⟨a, b, (g f).sacked, (g f).rexmitted⟩) :
    (regionsOf base p l).map h = regionsOf base p (mapRuns g l) := by
  induction l generalizing p with
  | nil => rfl
  | cons r l ih =>
    simp [regionsOf, ih, hh]

/-- Where the regions end. -/
theorem getLast_regionsOf (base : SeqNo) (p : Nat) (l : List (Nat × Flags)) :
    ((regionsOf base p l).getLast?.map RexmitRegion.endSeqNum).getD (nth base p) =
      nth base (p + total l) := by
  induction l generalizing p with
  | nil => simp [regionsOf]
  | cons r l ih =>
    obtain ⟨n, f⟩ := r
    have hrest := ih (p + n)
    rw [total_cons, ← Nat.add_assoc, ← hrest, regionsOf, getLast?_cons]
    cases (regionsOf base (p + n) l).getLast? <;> rfl

/-- The first and the last region of a queue that is not empty. -/
theorem ends_regionsOf (base : SeqNo) (p : Nat) (hl : l ≠ []) :
    ∃ front back, (regionsOf base p l).head? = some front ∧ (regionsOf base p l).getLast? = some back ∧
      front.beginSeqNum = nth base p ∧ back.endSeqNum = nth base (p + total l) := by
  have hlast := getLast_regionsOf base p l
  cases l with
  | nil => exact absurd rfl hl
  | cons r l =>
    rw [regionsOf, getLast?_cons] at hlast
    exact ⟨_, _, rfl, getLast?_cons, rfl, hlast⟩

/-- A search splits the runs at the one around the position it looks for. -/
theorem scan (base : SeqNo) (hl : Positive l) (hlen : total l < 2 ^ 31) {k : Nat} (hk : k < 2 ^ 31) :
    ∃ before rest, l = before ++ rest ∧ total before ≤ k ∧
      (∀ r rest', rest = r :: rest' → k < total before + r.1) ∧
      upTo (nth base (p + k)) (regionsOf base p l) = regionsOf base p before ∧
      after (nth base (p + k)) (regionsOf base p l) = regionsOf base (p + total before) rest := by
  induction l generalizing p k with
  | nil => exact ⟨[], [], rfl, Nat.zero_le _, by simp, rfl, rfl⟩
  | cons r l ih =>
    obtain ⟨n, f⟩ := r
    obtain ⟨hn, hl'⟩ := Positive.cons_iff.mp hl
    simp only [total_cons] at hlen hn
    have hle : seqLE (nth base (p + n)) (nth base (p + k)) ↔ n ≤ k := by
      rw [seqLE_nth (by omega) (by omega)]
      omega
    by_cases hnk : n ≤ k
    · obtain ⟨before, rest, heq, hbefore, hrest, hup, haft⟩ :=
        ih (p := p + n) hl' (by omega) (k := k - n) (by omega)
      have hpk : p + n + (k - n) = p + k := by omega
      rw [hpk] at hup haft
      refine ⟨(n, f) :: before, rest, by simp [heq], by simp only [total_cons]; omega, ?_, ?_, ?_⟩
      · intro r rest' hr
        have := hrest r rest' hr
        simp only [total_cons]
        omega
      · simpa [upTo, regionsOf, hle, hnk] using hup
      · simpa [after, regionsOf, hle, hnk, Nat.add_assoc] using haft
    · refine ⟨[], (n, f) :: l, rfl, Nat.zero_le _, ?_, ?_, ?_⟩
      · intro r rest' hr
        simp only [cons.injEq] at hr
        rw [← hr.1]
        omega
      · simp [upTo, regionsOf, hle, hnk]
      · simp [after, regionsOf, hle, hnk]

/-- What an update between two positions works on: the runs below the first
position, those that end up to the second one, and the others. -/
structure Swept (base : SeqNo) (p i j : Nat) (l below swept above : List (Nat × Flags))
    (r : RexmitRegion) (l' : List RexmitRegion) : Prop where
  found : after (nth base (p + i)) (regionsOf base p l) = r :: l'
  around : Around (nth base (p + i)) r
  regions_below : upTo (nth base (p + i)) (regionsOf base p l) ++ (chunkItem (nth base (p + i)) r).1 =
    regionsOf base p below
  regions_swept : upTo (nth base (p + j)) ((chunkItem (nth base (p + i)) r).2 :: l') =
    regionsOf base (p + i) swept
  regions_above : after (nth base (p + j)) ((chunkItem (nth base (p + i)) r).2 :: l') =
    regionsOf base (p + i + total swept) above
  expand_eq : expand l = expand below ++ expand swept ++ expand above
  total_below : total below = i
  total_swept : i + total swept ≤ j
  total_above : ∀ x above', above = x :: above' → j < i + total swept + x.1
  positive : Positive below ∧ Positive swept ∧ Positive above

variable {i j a b : Nat}

theorem sweep (base : SeqNo) (hl : Positive l) (hlen : total l < 2 ^ 31) (hi : i < total l) (hij : i < j)
    (hj : j < 2 ^ 31) : ∃ below swept above r l', Swept base p i j l below swept above r l' := by
  obtain ⟨before, rest, hsplit, hbefore, hrest, hup, haft⟩ := scan base (p := p) hl hlen
    (k := i) (by omega)
  cases rest with
  | nil =>
    rw [hsplit] at hi
    simp only [total_append, total_nil] at hi
    omega
  | cons x tail =>
    obtain ⟨n, f⟩ := x
    have hin := hrest (n, f) tail rfl
    rw [hsplit] at hl hlen
    obtain ⟨hposb, hpos⟩ := Positive.append_iff.mp hl
    obtain ⟨hn, htail⟩ := Positive.cons_iff.mp hpos
    simp only [total_append, total_cons] at hlen hin hn
    -- the part of the run below the position, and the rest of it
    have hk : p + total before + (i - total before) = p + i := by omega
    have hend : p + total before + n = p + i + (n - (i - total before)) := by omega
    have hchunk : chunkItem (nth base (p + i))
        ⟨nth base (p + total before), nth base (p + total before + n), f.sacked, f.rexmitted⟩ =
        (regionsOf base (p + total before)
            (if i = total before then [] else [(i - total before, f)]),
          ⟨nth base (p + i), nth base (p + i + (n - (i - total before))), f.sacked, f.rexmitted⟩) := by
      have heq : nth base (p + total before) = nth base (p + i) ↔ i = total before := by
        rw [nth_eq_nth (by omega) (by omega)]
        omega
      by_cases hib : i = total before
      · simp [chunkItem, hib, regionsOf]
      · simp [chunkItem, heq, hib, regionsOf, hk, hend]
    have hpos' : Positive ((n - (i - total before), f) :: tail) :=
      Positive.cons_iff.mpr ⟨by simp only; omega, htail⟩
    obtain ⟨swept, above, hsplit', hswept, habove, hup', haft'⟩ := scan base (p := p + i)
      hpos' (by simp only [total_cons]; omega) (k := j - i) (by omega)
    have hpj : p + i + (j - i) = p + j := by omega
    rw [hpj] at hup' haft'
    have htotal : total (before ++ if i = total before then [] else [(i - total before, f)]) = i := by
      split <;> simp <;> omega
    have hcut : replicate n f =
        expand (if i = total before then [] else [(i - total before, f)]) ++
          replicate (n - (i - total before)) f := by
      split
      · congr 1
        omega
      · simp only [expand_cons, expand_nil, append_nil]
        exact replicate_cut (by omega) f
    refine ⟨before ++ (if i = total before then [] else [(i - total before, f)]), swept, above,
      ⟨nth base (p + total before), nth base (p + total before + n), f.sacked, f.rexmitted⟩,
      regionsOf base (p + total before + n) tail, ?_⟩
    have htail' : regionsOf base (p + total before + n) tail =
        regionsOf base (p + i + (n - (i - total before))) tail := by rw [hend]
    constructor
    · exact haft
    · constructor
      · rw [seqLE_nth (by omega) (by omega)]
        omega
      · rw [seqLess_nth (by omega) (by omega)]
        omega
    · rw [hup, hchunk, regionsOf_append]
    · rw [hchunk, htail']
      exact hup'
    · rw [hchunk, htail']
      exact haft'
    · have hexp := congrArg expand hsplit'
      rw [expand_cons, expand_append] at hexp
      rw [hsplit, expand_append, expand_append, expand_cons, hcut, append_assoc, hexp,
        append_assoc, append_assoc]
    · exact htotal
    · omega
    · intro x above' heq
      have := habove x above' heq
      omega
    · rw [hsplit'] at hpos'
      obtain ⟨hps, hpa⟩ := Positive.append_iff.mp hpos'
      refine ⟨Positive.append_iff.mpr ⟨hposb, ?_⟩, hps, hpa⟩
      split
      · simp [Positive]
      · simp [Positive]; omega

def rexmit (f : Flags) : Flags := { f with rexmitted := true }

def sack (f : Flags) : Flags := { f with sacked := true }

section Swept

variable {i j : Nat} {below swept above : List (Nat × Flags)} {r : RexmitRegion} {l' : List RexmitRegion}
variable (h : Swept base p i j l below swept above r l') (g : Flags → Flags)
include h

theorem Swept.total_eq : total l = i + total swept + total above := by
  have hlength := congrArg length h.expand_eq
  simpa [h.total_below, Nat.add_assoc] using hlength

theorem Swept.positive_marked : Positive (below ++ mapRuns g swept) :=
  Positive.append_iff.mpr ⟨h.positive.1, h.positive.2.1.mapRuns g⟩

/-- The regions below the first position, the marked ones, and what follows them. -/
theorem Swept.regionsOf_marked (rest : List (Nat × Flags)) :
    regionsOf base p (below ++ mapRuns g swept ++ rest) = regionsOf base p below ++
      regionsOf base (p + i) (mapRuns g swept) ++ regionsOf base (p + i + total swept) rest := by
  rw [regionsOf_append, regionsOf_append, total_append, total_mapRuns, h.total_below, Nat.add_assoc]

/-- The range ends where a run ends. -/
theorem Swept.marked_whole (hall : i + total swept = j) : Positive (below ++ mapRuns g swept ++ above) ∧
    expand (below ++ mapRuns g swept ++ above) = onRange i j g (expand l) := by
  have hfront : (expand below).length = i := by rw [length_expand, h.total_below]
  refine ⟨Positive.append_iff.mpr ⟨h.positive_marked g, h.positive.2.2⟩, ?_⟩
  rw [h.expand_eq, onRange_middle g hfront (by rw [hfront, length_expand, hall])]
  simp

/-- The range ends inside a run, which is cut in two. -/
theorem Swept.marked_part {k m : Nat} {f : Flags} {tail : List (Nat × Flags)} (habove : above = (m, f) :: tail)
    (hpart : i + total swept < j) (hk : j = i + total swept + k) :
    k < m ∧ Positive (below ++ mapRuns g swept ++ (k, g f) :: (m - k, f) :: tail) ∧
    expand (below ++ mapRuns g swept ++ (k, g f) :: (m - k, f) :: tail) = onRange i j g (expand l) := by
  have hm : k < m := by
    have := h.total_above (m, f) tail habove
    simp only at this
    omega
  obtain ⟨-, -, hpa⟩ := h.positive
  rw [habove] at hpa
  have hfront : (expand below).length = i := by rw [length_expand, h.total_below]
  refine ⟨hm, Positive.append_iff.mpr ⟨h.positive_marked g, Positive.cons_iff.mpr ⟨?_, Positive.cons_iff.mpr ⟨?_, ?_⟩⟩⟩, ?_⟩
  · omega
  · omega
  · exact (Positive.cons_iff.mp hpa).2
  · have hexp : expand l = expand below ++ (expand swept ++ replicate k f) ++ (replicate (m - k) f ++ expand tail) := by
      rw [h.expand_eq, habove, expand_cons, replicate_cut (k := k) (n := m) (by omega) f]
      simp only [append_assoc]
    rw [hexp, onRange_middle g hfront (by
      simp only [hfront, length_append, length_expand, length_replicate]
      omega)]
    simp

end Swept

/-- Data sent again is marked as retransmitted; what lies behind the end of the
queue is appended unmarked. -/
theorem enqueueAgain_regionsOf (base : SeqNo) (hl : Positive l) (hlen : total l < 2 ^ 31) {i j : Nat}
    (hi : i < total l) (hij : i < j) (hj : j < 2 ^ 31) :
    ∃ l', enqueueAgain (nth base (p + i)) (nth base (p + j)) (regionsOf base p l) =
        .ok (regionsOf base p l') ∧ Positive l' ∧
      expand l' = onRange i j rexmit (expand l) ++ replicate (j - total l) ⟨false, false⟩ := by
  obtain ⟨below, swept, above, r, l', h⟩ := sweep base (p := p) hl hlen hi hij hj
  have htb := h.total_below
  have hts := h.total_swept
  have htotal := h.total_eq
  have hmarked : (regionsOf base (p + i) swept).map (fun r => { r with rexmitted := true }) =
      regionsOf base (p + i) (mapRuns rexmit swept) :=
    map_regionsOf fun a b f => rfl
  have hto := getLast_regionsOf base (p + i) swept
  have hne : nth base (p + i + total swept) = nth base (p + j) ↔ i + total swept = j := by
    rw [nth_eq_nth (by omega) (by omega)]
    omega
  by_cases hall : i + total swept = j
  · obtain ⟨hpositive, hexpand⟩ := h.marked_whole rexmit hall
    refine ⟨_, ?_, hpositive, ?_⟩
    · have hnn : regionsOf base (p + i) swept ≠ [] := by
        intro hnil
        cases swept with
        | nil =>
          simp only [total_nil] at hall
          omega
        | cons x tail => simp [regionsOf] at hnil
      rw [enqueueAgain, h.found, h.regionsOf_marked]
      simp only [h.around, ensure_pos, hto, hne.mpr hall, hnn, h.regions_below, h.regions_swept, hmarked, h.regions_above,
        ne_eq, not_true_eq_false, not_false_eq_true, if_false, bind, Except.bind, pure, Except.pure]
    · have hzero : j - total l = 0 := by omega
      rw [hexpand, hzero, replicate_zero, append_nil]
  · have hsto : ¬ nth base (p + i + total swept) = nth base (p + j) := fun heq => hall (hne.mp heq)
    have hrun : enqueueAgain (nth base (p + i)) (nth base (p + j)) (regionsOf base p l) =
        (enqueueRest (nth base (p + i + total swept)) (nth base (p + j)) (regionsOf base (p + i + total swept) above)).map
          (regionsOf base p below ++ regionsOf base (p + i) (mapRuns rexmit swept) ++ ·) := by
      rw [enqueueAgain, h.found]
      simp only [h.around, ensure_pos, hto, hsto, h.regions_below, h.regions_swept, hmarked, h.regions_above, ne_eq,
        not_false_eq_true, if_true, bind, Except.bind, pure, Except.pure]
      cases enqueueRest (nth base (p + i + total swept)) (nth base (p + j))
        (regionsOf base (p + i + total swept) above) <;> rfl
    obtain ⟨k, hk⟩ := Nat.exists_eq_add_of_le hts
    have hj' : p + i + total swept + k = p + j := by omega
    cases above with
    | nil =>
      -- the range reaches beyond the end of the queue
      refine ⟨below ++ mapRuns rexmit swept ++ [(k, ⟨false, false⟩)], ?_, ?_, ?_⟩
      · rw [hrun, h.regionsOf_marked]
        simp only [regionsOf, hj']
        rfl
      · refine Positive.append_iff.mpr ⟨h.positive_marked rexmit, ?_⟩
        simp only [Positive, mem_singleton, forall_eq]
        omega
      · have hfront : (expand below).length = i := by rw [length_expand, htb]
        have hlen' : total l = i + total swept := htotal
        have hrest : j - total l = k := by omega
        rw [h.expand_eq, expand_nil, append_nil,
          onRange_tail rexmit hfront (by rw [hfront, length_expand]; omega), hrest]
        simp
    | cons x tail =>
      obtain ⟨m, f⟩ := x
      obtain ⟨hm, hpositive, hexpand⟩ := h.marked_part rexmit rfl (by omega) hk
      simp only [total_cons] at htotal
      have hend : p + i + total swept + m = p + j + (m - k) := by omega
      refine ⟨_, ?_, hpositive, ?_⟩
      · have hbelow : seqLess (nth base (p + i + total swept)) (nth base (p + j)) := by
          rw [seqLess_nth (by omega) (by omega)]
          omega
        rw [hrun, h.regionsOf_marked]
        simp only [regionsOf, hj', ← hend, enqueueRest, hbelow, ensure_pos, rexmit]
        rfl
      · have hzero : j - total l = 0 := by omega
        rw [hexpand, hzero, replicate_zero, append_nil]

theorem mem_regionsOf {i : RexmitRegion} (hi : i ∈ regionsOf base p l) :
    ∃ a, p ≤ a ∧ a ≤ p + total l ∧ i.beginSeqNum = nth base a := by
  induction l generalizing p with
  | nil => cases hi
  | cons r l ih =>
    cases mem_cons.mp hi with
    | inl heq => exact ⟨p, Nat.le_refl _, Nat.le_add_right _ _, by rw [heq]⟩
    | inr hmem =>
      obtain ⟨a, h₁, h₂, h₃⟩ := ih hmem
      refine ⟨a, by omega, ?_, h₃⟩
      simp only [total_cons]
      omega

/-- Every octet of the range is marked as selectively acknowledged. -/
theorem sackBetween_regionsOf (base : SeqNo) (hl : Positive l) (hlen : total l < 2 ^ 31) {i j : Nat}
    (hij : i < j) (hj : j ≤ total l) :
    ∃ r l' m, after (nth base (p + i)) (regionsOf base p l) = r :: l' ∧ Around (nth base (p + i)) r ∧
      upTo (nth base (p + i)) (regionsOf base p l) ++ (chunkItem (nth base (p + i)) r).1 ++
          (upTo (nth base (p + j)) ((chunkItem (nth base (p + i)) r).2 :: l')).map
            (fun r => if seqGE r.beginSeqNum (nth base (p + i)) then { r with sacked := true } else r) ++
          sackRest (nth base (p + j))
            (after (nth base (p + j)) ((chunkItem (nth base (p + i)) r).2 :: l')) =
        regionsOf base p m ∧
      Positive m ∧ expand m = onRange i j sack (expand l) := by
  obtain ⟨below, swept, above, r, l', h⟩ := sweep base (p := p) hl hlen (by omega) hij
    (by omega)
  have hts := h.total_swept
  have htotal := h.total_eq
  have hmarked : (regionsOf base (p + i) swept).map
      (fun r => if seqGE r.beginSeqNum (nth base (p + i)) then { r with sacked := true } else r) =
      regionsOf base (p + i) (mapRuns sack swept) := by
    rw [← map_regionsOf (h := fun r => { r with sacked := true }) fun a b f => rfl]
    apply map_congr_left
    intro x hx
    obtain ⟨a, h₁, h₂, h₃⟩ := mem_regionsOf hx
    have hge : seqGE x.beginSeqNum (nth base (p + i)) := by
      rw [h₃, seqGE_nth (by omega) (by omega)]
      exact h₁
    rw [if_pos hge]
  refine ⟨r, l', ?_⟩
  rw [h.regions_below, h.regions_swept, hmarked, h.regions_above]
  by_cases hall : i + total swept = j
  · refine ⟨below ++ mapRuns sack swept ++ above, h.found, h.around, ?_, h.marked_whole sack hall⟩
    have hsame : sackRest (nth base (p + j)) (regionsOf base (p + i + total swept) above) =
        regionsOf base (p + i + total swept) above := by
      cases above with
      | nil => rfl
      | cons x tail =>
        have hnot : ¬ seqLess (nth base (p + i + total swept)) (nth base (p + j)) := by
          rw [seqLess_nth (by omega) (by omega)]
          omega
        simp [regionsOf, sackRest, hnot]
    rw [hsame, h.regionsOf_marked]
  · cases above with
    | nil =>
      simp only [total_nil] at htotal
      omega
    | cons x tail =>
      obtain ⟨m, f⟩ := x
      obtain ⟨k, hk⟩ := Nat.exists_eq_add_of_le hts
      obtain ⟨hm, hpositive, hexpand⟩ := h.marked_part sack rfl (by omega) hk
      simp only [total_cons] at htotal
      have hj' : p + i + total swept + k = p + j := by omega
      have hend : p + i + total swept + m = p + j + (m - k) := by omega
      refine ⟨_, h.found, h.around, ?_, hpositive, hexpand⟩
      have hbelow : seqLess (nth base (p + i + total swept)) (nth base (p + j)) := by
        rw [seqLess_nth (by omega) (by omega)]
        omega
      have habove : seqLess (nth base (p + j)) (nth base (p + i + total swept + m)) := by
        rw [seqLess_nth (by omega) (by omega)]
        omega
      rw [h.regionsOf_marked]
      simp only [regionsOf, hj', ← hend, sackRest, hbelow, habove, and_self, if_true, sack]

/-- Discarding cuts the runs off below a position. -/
theorem discard_regionsOf (base : SeqNo) (hl : Positive l) (hlen : total l < 2 ^ 31) (hi : i ≤ total l) :
    (after (nth base (p + i)) (regionsOf base p l) = [] ∧ i = total l) ∨
    ∃ r l' m, after (nth base (p + i)) (regionsOf base p l) = r :: l' ∧ Around (nth base (p + i)) r ∧
      { r with beginSeqNum := nth base (p + i) } :: l' = regionsOf base (p + i) m ∧ Positive m ∧
      expand m = (expand l).drop i := by
  obtain ⟨before, rest, hsplit, hbefore, hrest, -, haft⟩ := scan base (p := p) hl hlen
    (k := i) (by omega)
  rw [hsplit] at hl hlen hi
  obtain ⟨hposb, hpos⟩ := Positive.append_iff.mp hl
  cases rest with
  | nil =>
    refine .inl ⟨haft, ?_⟩
    simp only [total_append, total_nil] at hi
    rw [hsplit, total_append, total_nil]
    omega
  | cons x tail =>
    obtain ⟨n, f⟩ := x
    have hin := hrest (n, f) tail rfl
    obtain ⟨hn, htail⟩ := Positive.cons_iff.mp hpos
    simp only [total_append, total_cons] at hlen hin hi
    have hend : p + total before + n = p + i + (n - (i - total before)) := by omega
    refine .inr ⟨_, _, (n - (i - total before), f) :: tail, haft, ⟨?_, ?_⟩, ?_, ?_, ?_⟩
    · rw [seqLE_nth (by omega) (by omega)]
      omega
    · rw [seqLess_nth (by omega) (by omega)]
      omega
    · simp only [regionsOf, hend]
    · refine Positive.cons_iff.mpr ⟨?_, htail⟩
      omega
    · have hcut := replicate_cut (k := i - total before) (n := n) (by omega) f
      have hexp : expand l = (expand before ++ replicate (i - total before) f) ++
          (replicate (n - (i - total before)) f ++ expand tail) := by
        rw [hsplit, expand_append, expand_cons, hcut]
        simp only [append_assoc]
      rw [hexp, drop_left' (by
        simp only [length_append, length_expand, length_replicate]
        omega), expand_cons]

/-- The queue holds the scoreboard, in runs of octets with the same flags. -/
structure Represents (base : SeqNo) (s : Scoreboard) (runs : List (Nat × Flags))
    (q : TCPSACKRexmitQueue) : Prop where
  rexmitQueue : q.rexmitQueue = regionsOf base s.first runs
  beginNo : q.beginNo = nth base s.first
  endNo : q.endNo = nth base s.last
  flags : s.flags = expand runs
  positive : Positive runs
  span : s.flags.length < 2 ^ 31

namespace Represents

variable {s : Scoreboard} {runs : List (Nat × Flags)} {q : TCPSACKRexmitQueue}

theorem init (base : SeqNo) (start : Nat) :
    Represents base ⟨start, []⟩ [] (.init (nth base start)) where
  rexmitQueue := rfl
  beginNo := rfl
  endNo := rfl
  flags := rfl
  positive := by simp [Positive]
  span := by simp

section

variable (h : Represents base s runs q)
include h

theorem length_flags : s.flags.length = total runs := by
  rw [h.flags, length_expand]

theorem last_eq : s.last = s.first + total runs := by
  rw [last, h.length_flags]

theorem checkQueue : q.CheckQueue := by
  have hspan := h.span
  rw [h.length_flags] at hspan
  rw [CheckQueue, h.rexmitQueue, h.beginNo, h.endNo, h.last_eq]
  exact contiguous_regionsOf h.positive hspan

theorem octets : q.octets = s.flags := by
  have hspan := h.span
  rw [h.length_flags] at hspan
  rw [TCPSACKRexmitQueue.octets, h.rexmitQueue, octets_regionsOf hspan, h.flags]

/-- The entry assertion for a position of the queue, its end included. -/
theorem entry (h₁ : s.first ≤ a) (h₂ : a ≤ s.last) :
    seqLE q.beginNo (nth base a) ∧ seqLE (nth base a) q.endNo := by
  have hspan := h.span
  rw [last] at h₂
  rw [h.beginNo, h.endNo, last, seqLE_nth (by omega) (by omega),
    seqLE_nth (by omega) (by omega)]
  exact ⟨h₁, h₂⟩

theorem discardUpTo (ha : s.Allowed (.discardUpTo a)) :
    ∃ runs' q', q.discardUpTo (nth base a) = .ok q' ∧
      Represents base (s.apply (.discardUpTo a)) runs' q' := by
  obtain ⟨h₁, h₂⟩ := ha
  have hlen := h.length_flags
  have hspan := h.span
  have hentry := h.entry h₁ h₂
  rw [h.last_eq] at h₂
  have hpos : s.first + (a - s.first) = a := by omega
  have hdisc := discard_regionsOf base (p := s.first) h.positive (by omega)
    (i := a - s.first) (by omega)
  rw [hpos, ← h.rexmitQueue] at hdisc
  have hend : q.endNo = nth base (s.apply (.discardUpTo a)).last := by
    rw [h.endNo]
    congr 1
    simp only [apply, last, length_drop]
    omega
  have hspan' : (s.apply (.discardUpTo a)).flags.length < 2 ^ 31 := by
    simp only [apply, length_drop]
    omega
  cases hdisc with
  | inl hnone =>
    have hflags : (s.apply (.discardUpTo a)).flags = expand [] :=
      drop_eq_nil_of_le (by omega)
    have hrep : Represents base (s.apply (.discardUpTo a)) [] { q with rexmitQueue := [], beginNo := nth base a } :=
      ⟨rfl, rfl, hend, hflags, by simp [Positive], hspan'⟩
    refine ⟨[], _, ?_, hrep⟩
    simp [TCPSACKRexmitQueue.discardUpTo, hentry, hnone.1, hrep.checkQueue, bind, Except.bind, pure,
      Except.pure]
  | inr hsome =>
    obtain ⟨r, l', m, haft, haround, hregions, hpm, hexp⟩ := hsome
    have hflags : (s.apply (.discardUpTo a)).flags = expand m := by
      rw [hexp, ← h.flags]
      rfl
    have hrep : Represents base (s.apply (.discardUpTo a)) m
        { q with rexmitQueue := { r with beginSeqNum := nth base a } :: l', beginNo := nth base a } :=
      ⟨hregions, rfl, hend, hflags, hpm, hspan'⟩
    refine ⟨m, _, ?_, hrep⟩
    simp [TCPSACKRexmitQueue.discardUpTo, hentry, haft, haround, hrep.checkQueue, bind, Except.bind,
      pure, Except.pure]

theorem setSackedBit (ha : s.Allowed (.setSackedBit a b)) :
    ∃ runs' q', q.setSackedBit (nth base a) (nth base b) = .ok q' ∧
      Represents base (s.apply (.setSackedBit a b)) runs' q' := by
  obtain ⟨hnear, halast, hbfirst, hblast, hab⟩ := ha
  have hlen := h.length_flags
  have hspan := h.span
  have hlast := h.last_eq
  -- a start below the queue is moved to its begin
  have hfrom : (if seqLess (nth base a) q.beginNo then q.beginNo else nth base a) =
      nth base (s.first + (a - s.first)) := by
    rw [h.beginNo]
    simp (disch := omega) only [seqLess_nth]
    split
    · congr 1; omega
    · congr 1; omega
  have hto : nth base b = nth base (s.first + (b - s.first)) := by congr 1; omega
  obtain ⟨r, l', m, haft, haround, hregions, hpm, hexp⟩ := sackBetween_regionsOf base
    (p := s.first) h.positive (by omega) (i := a - s.first) (j := b - s.first) (by omega) (by omega)
  have hassert₁ : seqLess (nth base (s.first + (a - s.first))) q.endNo := by
    rw [h.endNo, seqLess_nth (by omega) (by omega)]
    omega
  have hassert₂ : seqLess q.beginNo (nth base (s.first + (b - s.first))) ∧
      seqLE (nth base (s.first + (b - s.first))) q.endNo := by
    rw [h.beginNo, h.endNo, seqLess_nth (by omega) (by omega), seqLE_nth (by omega) (by omega)]
    omega
  have hassert₃ : seqLess (nth base (s.first + (a - s.first))) (nth base (s.first + (b - s.first))) := by
    rw [seqLess_nth (by omega) (by omega)]
    omega
  have hne : q.rexmitQueue ≠ [] := by
    intro hnil
    rw [← h.rexmitQueue, hnil] at haft
    simp [after] at haft
  have hrep : Represents base (s.apply (.setSackedBit a b)) m
      { q with rexmitQueue := regionsOf base s.first m } := by
    refine ⟨rfl, h.beginNo, ?_, ?_, hpm, ?_⟩
    · rw [h.endNo]
      congr 1
      simp [apply, last]
    · rw [hexp, ← h.flags]
      rfl
    · simpa [apply] using hspan
  refine ⟨m, _, ?_, hrep⟩
  rw [← h.rexmitQueue] at haft hregions
  simp only [TCPSACKRexmitQueue.setSackedBit, hfrom, hto, hassert₁, hassert₂, hassert₃, and_self,
    ensure_pos, hne, if_false, haft, haround, hregions, hrep.checkQueue, bind, Except.bind, pure,
    Except.pure]

/-- The last lines of `enqueueSentData`, once the new regions are known. -/
theorem enqueueSentData_of_regions
    (ha : s.Allowed (.enqueueSentData a b)) (runs' : List (Nat × Flags))
    (hregions : (if q.rexmitQueue = [] ∨ q.endNo = nth base a then
        pure (q.rexmitQueue ++ [⟨nth base a, nth base b, false, false⟩])
      else enqueueAgain (nth base a) (nth base b) q.rexmitQueue) =
        (.ok (regionsOf base s.first runs') : Sim (List RexmitRegion)))
    (hpos : Positive runs')
    (hexp : expand runs' = (s.apply (.enqueueSentData a b)).flags) :
    ∃ q', q.enqueueSentData (nth base a) (nth base b) = .ok q' ∧
      Represents base (s.apply (.enqueueSentData a b)) runs' q' := by
  obtain ⟨hfirst, hlast, hab, hspan'⟩ := ha
  have hspan := h.span
  have hlen : (s.apply (.enqueueSentData a b)).flags.length = max s.flags.length (b - s.first) := by
    simp only [apply, length_append, length_onRange, length_replicate,
      last]
    omega
  have htotal : total runs' = max s.flags.length (b - s.first) := by
    rw [← length_expand, hexp, hlen]
  have hne : runs' ≠ [] := by
    intro hnil
    rw [hnil, total_nil] at htotal
    omega
  obtain ⟨front, back, hfront, hback, hfb, hbe⟩ := ends_regionsOf base s.first hne
  have hrep : Represents base (s.apply (.enqueueSentData a b)) runs'
      ⟨regionsOf base s.first runs', front.beginSeqNum, back.endSeqNum⟩ := by
    refine ⟨rfl, hfb, ?_, hexp.symm, hpos, by omega⟩
    rw [last, hlen, ← htotal]
    exact hbe
  have hentry := h.entry hfirst hlast
  have hless : seqLess (nth base a) (nth base b) := by
    rw [seqLess_nth (by rw [last] at hlast; omega) (by omega)]
    exact hab
  refine ⟨_, ?_, hrep⟩
  rw [TCPSACKRexmitQueue.enqueueSentData, hregions]
  simp only [hentry, hless, and_self, ensure_pos, hfront, hback, hrep.checkQueue, bind, Except.bind,
    pure, Except.pure]

theorem enqueueSentData (ha : s.Allowed (.enqueueSentData a b)) :
    ∃ runs' q', q.enqueueSentData (nth base a) (nth base b) = .ok q' ∧
      Represents base (s.apply (.enqueueSentData a b)) runs' q' := by
  obtain ⟨hfirst, hlast, hab, hspan'⟩ := ha
  have hlen := h.length_flags
  have hspan := h.span
  have hend : q.endNo = nth base a ↔ a = s.last := by
    rw [last] at hlast ⊢
    rw [h.endNo, last, nth_eq_nth (by omega) (by omega)]
    omega
  rw [h.last_eq] at hlast
  have hrange : b - s.last = b - s.first - total runs := by rw [h.last_eq]; omega
  by_cases hnew : a = s.last
  · -- new data
    have heq : a = s.first + total runs := by rw [hnew, h.last_eq]
    have hb : s.first + total runs + (b - a) = b := by omega
    refine ⟨_, h.enqueueSentData_of_regions ⟨hfirst, by omega, hab, hspan'⟩
      (runs ++ [(b - a, ⟨false, false⟩)]) ?_ ?_ ?_⟩
    · rw [if_pos (.inr (hend.mpr hnew)), h.rexmitQueue, regionsOf_append]
      simp only [regionsOf, hb]
      rw [← heq]
      rfl
    · refine Positive.append_iff.mpr ⟨h.positive, ?_⟩
      simp only [Positive, mem_singleton, forall_eq]
      omega
    · simp only [apply]
      rw [onRange_none _ (.inl (by omega)), ← hnew, h.flags]
      simp
  · -- data sent again
    have hcond : ¬ (q.rexmitQueue = [] ∨ q.endNo = nth base a) := by
      rintro (hnil | hlast')
      · have hzero : runs = [] := by
          rw [h.rexmitQueue] at hnil
          cases runs with
          | nil => rfl
          | cons r l => simp [regionsOf] at hnil
        rw [hzero, total_nil] at hlast
        rw [h.last_eq, hzero, total_nil] at hnew
        omega
      · exact hnew (hend.mp hlast')
    obtain ⟨m, hrun, hpm, hexp⟩ := enqueueAgain_regionsOf base (p := s.first) h.positive
      (by omega) (i := a - s.first) (j := b - s.first) (by omega) (by omega) (by omega)
    rw [show s.first + (a - s.first) = a by omega, show s.first + (b - s.first) = b by omega,
      ← h.rexmitQueue] at hrun
    refine ⟨m, h.enqueueSentData_of_regions ⟨hfirst, by rw [h.last_eq]; omega, hab, hspan'⟩ m
      (by rw [if_neg hcond, hrun]) hpm ?_⟩
    rw [hexp, ← h.flags, ← hrange]
    rfl

theorem mapFlags {g : Flags → Flags} {reset : RexmitRegion → RexmitRegion}
    (hreset : ∀ a b f, reset ⟨a, b, f.sacked, f.rexmitted⟩ = ⟨a, b, (g f).sacked, (g f).rexmitted⟩) :
    Represents base { s with flags := s.flags.map g } (mapRuns g runs)
      { q with rexmitQueue := q.rexmitQueue.map reset } where
  rexmitQueue := by
    rw [h.rexmitQueue]
    exact map_regionsOf hreset
  beginNo := h.beginNo
  endNo := h.endNo.trans (by simp [last])
  flags := by simp [h.flags]
  positive := h.positive.mapRuns _
  span := by simpa using h.span

theorem resetSackedBit : Represents base (s.apply .resetSackedBit)
    (mapRuns (fun f => { f with sacked := false }) runs) q.resetSackedBit :=
  h.mapFlags fun _ _ _ => rfl

theorem resetRexmittedBit : Represents base (s.apply .resetRexmittedBit)
    (mapRuns (fun f => { f with rexmitted := false }) runs) q.resetRexmittedBit :=
  h.mapFlags fun _ _ _ => rfl

/-- Every allowed call goes through and does to the flags what the scoreboard says. -/
theorem call {op : ScoreboardOp} (ha : s.Allowed op) :
    ∃ runs' q', q.call base op = .ok q' ∧ Represents base (s.apply op) runs' q' := by
  cases op with
  | enqueueSentData a b => exact h.enqueueSentData ha
  | setSackedBit a b => exact h.setSackedBit ha
  | discardUpTo a => exact h.discardUpTo ha
  | resetSackedBit => exact ⟨_, _, rfl, h.resetSackedBit⟩
  | resetRexmittedBit => exact ⟨_, _, rfl, h.resetRexmittedBit⟩

theorem run {ops : List ScoreboardOp} (ha : s.AllAllowed ops) :
    ∃ runs' q', q.run base ops = .ok q' ∧ Represents base (ops.foldl apply s) runs' q' := by
  induction ops generalizing s runs q with
  | nil => exact ⟨runs, q, rfl, h⟩
  | cons op ops ih =>
    obtain ⟨hop, hops⟩ := ha
    obtain ⟨runs₁, q₁, hcall, h₁⟩ := h.call hop
    obtain ⟨runs', q', hrun, h'⟩ := ih h₁ hops
    exact ⟨runs', q', by simp [TCPSACKRexmitQueue.run, hcall, hrun, bind, Except.bind], h'⟩

end

end Represents

end TCPSACKRexmitQueue

end Inet.Tcp
