import Inetmanet.Tcp.LossRecovery
import Inetmanet.Tcp.SACKQueries

/-!
# The scoreboard under the rules of loss recovery

Octets are counted from the first one that has not been acknowledged. What is
taken for lost is so from below: everything before a lost octet is lost too.
-/
namespace Inet.Tcp

open SerialNumber RunLength List

theorem sackedRuns_le (l : List Flags) : sackedRuns false l ≤ sackedRuns true l + 1 := by
  cases l with
  | nil => exact Nat.zero_le _
  | cons f l => cases h : f.sacked <;> simp [sackedRuns, h]; omega

theorem sackedRuns_tail (f : Flags) (l : List Flags) : sackedRuns false l ≤ sackedRuns false (f :: l) := by
  cases h : f.sacked with
  | false => simp [sackedRuns, h]
  | true =>
    have := sackedRuns_le l
    simp [sackedRuns, h]
    omega

theorem sackedOctets_tail (f : Flags) (l : List Flags) : sackedOctets l ≤ sackedOctets (f :: l) := by
  simp only [sackedOctets, countP_cons]
  omega

/-- A count that does not grow when the first member goes does not grow when more go. -/
theorem count_drop_le {α : Type} {count : List α → Nat} (h : ∀ a l, count l ≤ count (a :: l)) (n : Nat)
    (l : List α) : count (l.drop n) ≤ count l := by
  induction n generalizing l with
  | zero => exact Nat.le_refl _
  | succ n ih =>
    cases l with
    | nil => exact Nat.le_refl _
    | cons a l => exact Nat.le_trans (ih l) (h a l)

/-- The runs and the octets above an octet that make it a lost one. -/
def LostAt (sndMss : SeqNo) (l : List Flags) (n : Nat) : Prop :=
  DUPTHRESH.toNat ≤ sackedRuns false (l.drop n) ∨ (DUPTHRESH * sndMss).toNat ≤ sackedOctets (l.drop n)
deriving Decidable

variable {l : List Flags}

theorem LostAt.mono {sndMss : SeqNo} {m n : Nat} (h : LostAt sndMss l n) (hmn : m ≤ n) :
    LostAt sndMss l m := by
  obtain ⟨k, rfl⟩ := Nat.exists_eq_add_of_le hmn
  rw [LostAt, ← drop_drop] at h
  cases h with
  | inl hruns => exact .inl (Nat.le_trans hruns (count_drop_le sackedRuns_tail k _))
  | inr hoctets => exact .inr (Nat.le_trans hoctets (count_drop_le sackedOctets_tail k _))

/-- Octets that are not acknowledged selectively do not count. -/
theorem LostAt.skip {sndMss : SeqNo} {n : Nat} {f : Flags} (hf : l[n]? = some f)
    (hsacked : f.sacked = false) : LostAt sndMss l (n + 1) ↔ LostAt sndMss l n := by
  obtain ⟨hn, rfl⟩ := List.getElem?_eq_some_iff.mp hf
  have hdrop := drop_eq_getElem_cons hn
  have hruns : sackedRuns false (l.drop n) = sackedRuns false (l.drop (n + 1)) := by
    rw [hdrop, sackedRuns, hsacked]
    exact Nat.zero_add _
  have hoctets : sackedOctets (l.drop n) = sackedOctets (l.drop (n + 1)) := by
    rw [hdrop, sackedOctets, countP_cons, hsacked]
    rfl
  rw [LostAt, LostAt, hruns, hoctets]

theorem sackedRuns_le_length (b : Bool) (l : List Flags) : sackedRuns b l ≤ l.length := by
  induction l generalizing b with
  | nil => exact Nat.le_refl _
  | cons f l ih =>
    have := ih f.sacked
    rw [sackedRuns, length_cons]
    split <;> omega

/-- An octet that has been sent and that no selective acknowledgement has covered. -/
def Unsacked (l : List Flags) (n : Nat) : Prop := ∃ f, l[n]? = some f ∧ f.sacked = false

theorem Unsacked.lt_length {n : Nat} (h : Unsacked l n) : n < l.length := by
  obtain ⟨f, hf, -⟩ := h
  exact (List.getElem?_eq_some_iff.mp hf).1

instance (l : List Flags) (n : Nat) : Decidable (Unsacked l n) :=
  match h : l[n]? with
  | none => .isFalse fun ⟨f, hf, _⟩ => by rw [h] at hf; cases hf
  | some f => decidable_of_iff (f.sacked = false) (by simp [Unsacked, h])

namespace TCPSACKRexmitQueue

def runsOf (l : List RexmitRegion) : List (Nat × Flags) :=
  l.map fun i => ((i.endSeqNum - i.beginSeqNum).toNat, ⟨i.sacked, i.rexmitted⟩)

theorem regionsOf_runsOf {base e : SeqNo} {p : Nat} {l : List RexmitRegion}
    (h : Contiguous (nth base p) e l) :
    regionsOf base p (runsOf l) = l ∧ Positive (runsOf l) ∧ e = nth base (p + total (runsOf l)) := by
  induction l generalizing p with
  | nil => exact ⟨rfl, by simp [Positive, runsOf], h.symm⟩
  | cons i l ih =>
    obtain ⟨hbegin, hless, hrest⟩ := h
    have hend : i.endSeqNum = nth base (p + (i.endSeqNum - i.beginSeqNum).toNat) := by
      rw [← nth_nth, hbegin]
      exact eq_nth _ _
    have hpos : 0 < (i.endSeqNum - i.beginSeqNum).toNat := by
      apply Nat.pos_of_ne_zero
      intro hzero
      rw [hzero, Nat.add_zero, hbegin] at hend
      exact hless.1 hend.symm
    rw [hend] at hrest
    obtain ⟨hregions, hpositive, he⟩ := ih hrest
    refine ⟨?_, Positive.cons_iff.mpr ⟨hpos, hpositive⟩, ?_⟩
    · rw [runsOf, List.map_cons, regionsOf, ← hend, hbegin]
      exact congrArg (i :: ·) hregions
    · rw [he, Nat.add_assoc]
      rfl

/-- Every queue that passes its check stands for its octets, counted from its begin. -/
theorem represents_octets {q : TCPSACKRexmitQueue} (h : q.CheckQueue) (hlen : q.octets.length < 2 ^ 31) :
    Represents q.beginNo ⟨0, q.octets⟩ (runsOf q.rexmitQueue) q := by
  have h₀ : Contiguous (nth q.beginNo 0) q.endNo q.rexmitQueue := by rwa [nth_zero]
  obtain ⟨hregions, hpositive, he⟩ := regionsOf_runsOf h₀
  have hoctets : q.octets = expand (runsOf q.rexmitQueue) := by
    rw [octets, expand, runsOf, flatMap_map]
  have htotal : total (runsOf q.rexmitQueue) = q.octets.length := by rw [hoctets, length_expand]
  exact ⟨hregions.symm, (nth_zero _).symm, by rw [he, htotal]; rfl, hoctets, hpositive, hlen⟩

theorem Represents.highestRexmitted {base : SeqNo} {s : Scoreboard} {runs : List (Nat × Flags)}
    {q : TCPSACKRexmitQueue} (h : Represents base s runs q) :
    ∃ n, LastWhere Flags.rexmitted s.flags n ∧ q.getHighestRexmittedSeqNum = nth base (s.first + n) := by
  rw [getHighestRexmittedSeqNum, h.rexmitQueue, h.beginNo, h.flags]
  exact lastWhere_regionsOf base s.first (P := RexmitRegion.rexmitted) (fun _ _ _ => rfl) h.positive

end TCPSACKRexmitQueue

namespace TCPConnection

/-- What `setPipe` and `nextSeg` are called on: the queue passes its check and begins at
`snd_una`, and less than half of the sequence space is outstanding. -/
structure Recovering (conn : TCPConnection) : Prop where
  sackEnabled : conn.state.sackEnabled = true
  checkQueue : conn.rexmitQueue.CheckQueue
  beginNo : conn.rexmitQueue.beginNo = conn.state.sndUna
  short : conn.rexmitQueue.octets.length < 2 ^ 31
  outstanding : (conn.state.sndMax - conn.state.sndUna).toNat < 2 ^ 31

/-- The flags of the octets from `snd_una` on. -/
def flags (conn : TCPConnection) : List Flags := conn.rexmitQueue.octets

/-- The octet at a distance from `snd_una`. -/
def seqAt (conn : TCPConnection) (n : Nat) : SeqNo := nth conn.state.sndUna n

/-- The distance of `snd_max` from `snd_una`. -/
def maxAt (conn : TCPConnection) : Nat := (conn.state.sndMax - conn.state.sndUna).toNat

namespace Recovering

variable {conn : TCPConnection}

theorem represents (h : conn.Recovering) :
    ∃ runs, TCPSACKRexmitQueue.Represents conn.state.sndUna ⟨0, conn.flags⟩ runs conn.rexmitQueue := by
  have hrep := TCPSACKRexmitQueue.represents_octets h.checkQueue h.short
  rw [h.beginNo] at hrep
  exact ⟨_, hrep⟩

theorem sndMax_eq (conn : TCPConnection) : conn.state.sndMax = conn.seqAt conn.maxAt :=
  eq_nth _ _

theorem answers (h : conn.Recovering) :
    TCPSACKRexmitQueue.Answers conn.state.sndUna ⟨0, conn.flags⟩ conn.rexmitQueue := by
  obtain ⟨runs, hrep⟩ := h.represents
  exact hrep.answers

theorem isLost (h : conn.Recovering) {n : Nat} (hn : n ≤ conn.flags.length) :
    conn.isLost (conn.seqAt n) = .ok (decide (LostAt conn.state.sndMss conn.flags n)) := by
  have hshort : conn.flags.length < 2 ^ 31 := h.short
  have hlen : (conn.flags.drop n).length < 2 ^ 31 := by rw [length_drop]; omega
  have hge : seqGE (conn.seqAt n) conn.state.sndUna := by
    have hnear := @seqGE_nth conn.state.sndUna n 0 (by omega) (by omega)
    rw [nth_zero] at hnear
    exact hnear.mpr (Nat.zero_le n)
  have hruns := h.answers.runs n (Nat.zero_le n) (by simpa [Scoreboard.last] using hn)
  have hamount := h.answers.amount n (Nat.zero_le n) (by simpa [Scoreboard.last] using hn)
  have hrunsLt := Nat.lt_of_le_of_lt (sackedRuns_le_length false (conn.flags.drop n)) hlen
  have hoctetsLt : sackedOctets (conn.flags.drop n) < 2 ^ 31 :=
    Nat.lt_of_le_of_lt countP_le_length hlen
  rw [TCPConnection.isLost, ensure_pos h.sackEnabled, ensure_pos hge, seqAt, hruns, hamount]
  simp only [bind, Except.bind, pure, Except.pure, Nat.sub_zero, ge_iff_le, BitVec.le_def,
    BitVec.toNat_ofNat, LostAt]
  rw [Nat.mod_eq_of_lt (by omega), Nat.mod_eq_of_lt (by omega)]
  split
  · simp [*]
  · simp [*]

end Recovering

end TCPConnection

end Inet.Tcp
