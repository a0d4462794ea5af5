import Inetmanet.Tcp.LossRecoveryRules

/-!
# The segment that is sent next

`nextSeg` follows rule (1) to the letter: it finds the first lost octet where
there is one. Rule (2) subtracts the estimate of the octets on the way from the
window without a check, so a window smaller than the estimate allows everything.
-/
namespace Inet.Tcp

open SerialNumber RunLength

/-- The first position from `x` on where `P` holds, if there is one. -/
def FirstFrom (P : Nat → Prop) (x : Nat) : Option Nat → Prop
  | some y => x ≤ y ∧ P y ∧ ∀ z, x ≤ z → z < y → ¬ P z
  | none => ∀ z, x ≤ z → ¬ P z

theorem FirstFrom.skip {P : Nat → Prop} {x y : Nat} {o : Option Nat} (h : FirstFrom P y o) (hxy : x ≤ y)
    (hnot : ∀ z, x ≤ z → z < y → ¬ P z) : FirstFrom P x o := by
  cases o with
  | none =>
    intro z hz
    by_cases hzy : z < y
    · exact hnot z hz hzy
    · exact h z (by omega)
  | some w =>
    obtain ⟨hyw, hw, hbelow⟩ := h
    refine ⟨Nat.le_trans hxy hyw, hw, ?_⟩
    intro z hz hzw
    by_cases hzy : z < y
    · exact hnot z hz hzy
    · exact hbelow z (by omega) hzw

theorem FirstFrom.unique {P : Nat → Prop} {x n : Nat} {o : Option Nat} (h : FirstFrom P x o)
    (hn : FirstFrom P x (some n)) : o = some n := by
  cases o with
  | none => exact absurd hn.2.1 (h n hn.1)
  | some m =>
    have hmn := h.2.2 n hn.1
    have hnm := hn.2.2 m h.1
    congr 1
    by_contra hne
    rcases Nat.lt_or_gt_of_ne hne with hlt | hlt
    · exact hnm hlt h.2.1
    · exact hmn hlt hn.2.1

namespace TCPConnection

/-- The distance of `highRxt` from `snd_una`, as `getHighestRexmittedSeqNum` gives it. -/
def highRxtAt (conn : TCPConnection) : Nat :=
  (conn.rexmitQueue.getHighestRexmittedSeqNum - conn.state.sndUna).toNat

/-- The distance of the highest octet that has been acknowledged selectively. -/
def highestSackedAt (conn : TCPConnection) : Nat :=
  (conn.rexmitQueue.getHighestSackedSeqNum - conn.state.sndUna).toNat

/-- The octets that the loops of `nextSeg` look for. -/
def Candidate (conn : TCPConnection) (n : Nat) : Prop :=
  n < min conn.maxAt conn.highestSackedAt ∧ Unsacked conn.flags n

/-- The criteria (1.a), (1.b) and (1.c), for an octet that has not been acknowledged. -/
def MeetsRuleOne (conn : TCPConnection) (n : Nat) : Prop :=
  conn.highRxtAt ≤ n ∧ n < min conn.maxAt conn.highestSackedAt ∧ Unsacked conn.flags n ∧
    conn.isLost (conn.seqAt n) = .ok true

namespace Recovering

variable {conn : TCPConnection}

section

variable (h : conn.Recovering)
include h

theorem setHighRxt : conn.setHighRxt.Recovering :=
  ⟨h.sackEnabled, h.checkQueue, h.beginNo, h.short, h.outstanding⟩

theorem length_lt : conn.flags.length < 2 ^ 31 := h.short

theorem maxAt_lt : conn.maxAt < 2 ^ 31 := h.outstanding

theorem highestRexmitted : LastWhere Flags.rexmitted conn.flags conn.highRxtAt ∧
      conn.rexmitQueue.getHighestRexmittedSeqNum = conn.seqAt conn.highRxtAt := by
  obtain ⟨runs, hrep⟩ := h.represents
  obtain ⟨n, hn, heq⟩ := hrep.highestRexmitted
  have hlen := h.length_lt
  have hle := hn.le_length
  simp only [Nat.zero_add] at hn hle heq
  have hat : conn.highRxtAt = n := by
    have hsub := toNat_nth_sub conn.state.sndUna (Nat.zero_le n) (by omega)
    rw [nth_zero] at hsub
    rw [highRxtAt, heq, hsub, Nat.sub_zero]
  rw [hat]
  exact ⟨hn, heq⟩

theorem highestSacked :
    HighestSacked conn.flags conn.highestSackedAt ∧ conn.highestSackedAt ≤ conn.flags.length ∧
      conn.rexmitQueue.getHighestSackedSeqNum = conn.seqAt conn.highestSackedAt := by
  obtain ⟨n, hn, heq⟩ := h.answers.highest
  have hlen := h.length_lt
  have hle : n ≤ conn.flags.length := LastWhere.le_length (p := Flags.sacked) ⟨hn.sacked, hn.above⟩
  simp only [Nat.zero_add] at heq
  have hat : conn.highestSackedAt = n := by
    have hsub := toNat_nth_sub conn.state.sndUna (Nat.zero_le n) (by omega)
    rw [nth_zero] at hsub
    rw [highestSackedAt, heq, hsub, Nat.sub_zero]
  rw [hat]
  exact ⟨hn, hle, heq⟩

/-- A block ends within the queue. -/
theorem block {x : Nat} (hx : x < conn.flags.length) : ∃ n f, 0 < n ∧ x + n ≤ conn.flags.length ∧
      conn.rexmitQueue.checkSackBlock (conn.seqAt x) = .ok (BitVec.ofNat 32 n, f.sacked, f.rexmitted) ∧
      ∀ y, x ≤ y → y < x + n → conn.flags[y]? = some f := by
  obtain ⟨n, f, hn, hcheck, hsame⟩ := h.answers.block x (Nat.zero_le x) (by simpa [Scoreboard.last] using hx)
  simp only [Nat.sub_zero] at hsame
  have hend := (List.getElem?_eq_some_iff.mp (hsame (x + n - 1) (by omega) (by omega))).1
  exact ⟨n, f, hn, by omega, hcheck, hsame⟩

/-- The loops over the blocks visit every octet that they look for. -/
theorem unsackedFrom {fuel x : Nat} (hx : x ≤ conn.flags.length)
    (hfuel : conn.flags.length < x + fuel) :
    ∃ o, conn.unsackedFrom (conn.seqAt conn.highestSackedAt) fuel (conn.seqAt x) = .ok (o.map conn.seqAt) ∧
      FirstFrom conn.Candidate x o := by
  have hlen := h.length_lt
  have hmax := h.maxAt_lt
  have hle := h.highestSacked.2.1
  induction fuel generalizing x with
  | zero => omega
  | succ fuel ih =>
    have hless₁ : seqLess (conn.seqAt x) conn.state.sndMax ↔ x < conn.maxAt := by
      rw [sndMax_eq]
      exact seqLess_nth (by omega) (by omega)
    have hless₂ : seqLess (conn.seqAt x) (conn.seqAt conn.highestSackedAt) ↔ x < conn.highestSackedAt :=
      seqLess_nth (by omega) (by omega)
    rw [TCPConnection.unsackedFrom]
    simp only [hless₁, hless₂]
    by_cases hin : x < conn.maxAt ∧ x < conn.highestSackedAt
    · obtain ⟨n, f, hn, hend, hcheck, hsame⟩ := h.block (x := x) (by omega)
      rw [if_pos hin, hcheck]
      cases hf : f.sacked with
      | true =>
        -- the block is acknowledged, and none of its octets is looked for
        obtain ⟨o, hrun, hfirst⟩ := ih (x := x + n) hend (by omega)
        refine ⟨o, ?_, hfirst.skip (by omega) ?_⟩
        · have hstep : conn.seqAt (x + n) = conn.seqAt x + BitVec.ofNat 32 n := nth_add _ x n
          rw [← hrun, hstep]
          rfl
        · rintro z hz hzn ⟨-, g, hg, hnot⟩
          rw [hsame z hz hzn] at hg
          cases hg
          rw [hf] at hnot
          cases hnot
      | false =>
        refine ⟨some x, rfl, Nat.le_refl x, ⟨by omega, f, hsame x (Nat.le_refl x) (by omega), hf⟩, ?_⟩
        intro z hz hzx
        omega
    · rw [if_neg hin]
      refine ⟨none, rfl, ?_⟩
      rintro z hz ⟨hlt, -⟩
      omega

/-- The loops as `nextSeg` starts them. -/
theorem unsackedFrom_highRxt :
    ∃ o, conn.setHighRxt.unsackedFrom conn.rexmitQueue.getHighestSackedSeqNum loopLimit
        conn.rexmitQueue.getHighestRexmittedSeqNum = .ok (o.map conn.seqAt) ∧
      FirstFrom conn.Candidate conn.highRxtAt o := by
  have hlen := h.length_lt
  obtain ⟨hlast, hrexmitted⟩ := h.highestRexmitted
  obtain ⟨-, -, hsacked⟩ := h.highestSacked
  rw [hrexmitted, hsacked]
  exact h.setHighRxt.unsackedFrom hlast.le_length (by rw [loopLimit]; change conn.flags.length < _; omega)

theorem lost_iff {n : Nat} (hn : n ≤ conn.flags.length) :
    conn.isLost (conn.seqAt n) = .ok true ↔ LostAt conn.state.sndMss conn.flags n := by
  rw [h.isLost hn]
  simp

/-- Everything before a lost octet is lost. -/
theorem isLost_antitone {m n : Nat} (hmn : m ≤ n) (hn : n ≤ conn.flags.length)
    (hlost : conn.isLost (conn.seqAt n) = .ok true) : conn.isLost (conn.seqAt m) = .ok true := by
  rw [h.lost_iff (Nat.le_trans hmn hn)]
  exact ((h.lost_iff hn).mp hlost).mono hmn

/-- What rule (1) finds. -/
theorem firstLost : ∃ o, conn.setHighRxt.firstLost = .ok (o.map conn.seqAt) ∧
      match o with
      | some n => IsLeast {n | conn.MeetsRuleOne n} n
      | none => ∀ n, ¬ conn.MeetsRuleOne n := by
  obtain ⟨o, hrun, hfirst⟩ := h.unsackedFrom_highRxt
  change conn.setHighRxt.unsackedFrom conn.setHighRxt.rexmitQueue.getHighestSackedSeqNum loopLimit
    conn.setHighRxt.state.highRxt = _ at hrun
  rw [TCPConnection.firstLost, hrun]
  cases o with
  | none =>
    refine ⟨none, rfl, ?_⟩
    rintro n ⟨hn, hlt, hunsacked, -⟩
    exact hfirst n hn ⟨hlt, hunsacked⟩
  | some n =>
    obtain ⟨hle, ⟨hlt, hunsacked⟩, hbelow⟩ := hfirst
    have hlen := hunsacked.lt_length
    have hlost : conn.setHighRxt.isLost (conn.seqAt n) = _ := h.isLost (n := n) (by omega)
    by_cases hn : LostAt conn.state.sndMss conn.flags n
    · rw [decide_eq_true hn] at hlost
      refine ⟨some n, ?_, ⟨hle, hlt, hunsacked, hlost⟩, ?_⟩
      · simp [bind, Except.bind, pure, Except.pure, hlost]
      · rintro m ⟨hm, hmlt, hmunsacked, -⟩
        by_contra hnm
        exact hbelow m hm (by omega) ⟨hmlt, hmunsacked⟩
    · rw [decide_eq_false hn] at hlost
      refine ⟨none, ?_, ?_⟩
      · simp [bind, Except.bind, pure, Except.pure, hlost]
      · -- an octet that is not acknowledged lies behind the first one, which is not lost
        rintro m ⟨hm, hmlt, hmunsacked, hmlost⟩
        by_cases hnm : n ≤ m
        · have := h.isLost_antitone hnm (Nat.le_of_lt hmunsacked.lt_length) hmlost
          cases hlost.symm.trans this
        · exact hbelow m hm (by omega) ⟨hmlt, hmunsacked⟩

end

end Recovering

/-- Rule (1) is exact: it yields the smallest octet that meets its criteria, and nothing where
there is none. The loop may stop at the first octet that is not lost, because no later one is. -/
theorem nextSeg_ruleOne (conn : TCPConnection) (h : conn.Recovering) :
    (∀ m n, m ≤ n → n ≤ conn.flags.length → conn.isLost (conn.seqAt n) = .ok true →
      conn.isLost (conn.seqAt m) = .ok true) ∧
    ((∃ n, conn.MeetsRuleOne n) → ∃ n, IsLeast {n | conn.MeetsRuleOne n} n ∧
      conn.nextSeg = .ok (conn.setHighRxt, some (conn.seqAt n))) ∧
    ((¬ ∃ n, conn.MeetsRuleOne n) → conn.setHighRxt.firstLost = .ok none) := by
  obtain ⟨o, hrun, ho⟩ := h.firstLost
  refine ⟨fun m n hmn hn hlost => h.isLost_antitone hmn hn hlost, ?_, ?_⟩
  · rintro ⟨n, hn⟩
    cases o with
    | none => exact absurd hn (ho n)
    | some m =>
      refine ⟨m, ho, ?_⟩
      rw [nextSeg, ensure_pos h.sackEnabled]
      simp only [bind, Except.bind, hrun, Option.map_some]
      rfl
  · intro hnone
    cases o with
    | none => exact hrun
    | some m => exact absurd ⟨m, ho.1⟩ hnone

/-- The last three octets have been acknowledged, which is three segments, and the first two
have been sent again. -/
def gapSender : TCPConnection where
  state := { sackEnabled := true, sndUna := 0xffffffff, sndMax := 6, sndMss := 1 }
  sendQueue := ⟨0xffffffff, 6⟩
  rexmitQueue := ⟨[⟨0xffffffff, 1, false, true⟩, ⟨1, 3, false, false⟩, ⟨3, 6, true, false⟩], 0xffffffff, 6⟩

theorem gapSender_recovering : gapSender.Recovering := by
  constructor <;> decide

theorem gapSender_ruleOne :
    ∃ n, IsLeast {n | gapSender.MeetsRuleOne n} n ∧
      gapSender.nextSeg = .ok (gapSender.setHighRxt, some (gapSender.seqAt n)) :=
  (nextSeg_ruleOne gapSender gapSender_recovering).2.1
    ⟨2, by decide, by decide, ⟨⟨false, false⟩, by decide, rfl⟩, by decide⟩

/-- The octet that the rules yield, where rule (2) applies under a condition. -/
inductive Chosen (conn : TCPConnection) (new : Prop) : Nat → Prop where
  | ruleOne {n : Nat} (h : IsLeast {n | conn.MeetsRuleOne n} n) : Chosen conn new n
  | ruleTwo (hnone : ¬ ∃ n, conn.MeetsRuleOne n) (hnew : new) : Chosen conn new conn.maxAt
  | ruleThree {n : Nat} (hnone : ¬ ∃ n, conn.MeetsRuleOne n) (hnew : ¬ new)
      (hfirst : FirstFrom conn.Candidate conn.highRxtAt (some n)) : Chosen conn new n

section

variable {conn : TCPConnection} {new : Prop} {n : Nat}

/-- What is chosen is new, or has neither been acknowledged nor been sent again. -/
theorem Chosen.cases (hn : conn.Chosen new n) : (n = conn.maxAt ∧ (¬ ∃ m, conn.MeetsRuleOne m) ∧ new) ∨
    n < conn.maxAt ∧ conn.highRxtAt ≤ n ∧ Unsacked conn.flags n := by
  cases hn with
  | ruleOne h =>
    have hlt := h.1.2.1
    exact .inr ⟨by omega, h.1.1, h.1.2.2.1⟩
  | ruleTwo hnone hnew => exact .inl ⟨rfl, hnone, hnew⟩
  | ruleThree hnone hnew hfirst =>
    obtain ⟨hle, ⟨hlt, hunsacked⟩, -⟩ := hfirst
    exact .inr ⟨by omega, hle, hunsacked⟩

/-- `nextSeg` follows the rules with the wrapped difference. -/
theorem Recovering.nextSeg_iff (h : conn.Recovering) {conn' : TCPConnection} {seqNum : SeqNo} :
    conn.nextSeg = .ok (conn', some seqNum) ↔
      conn' = conn.setHighRxt ∧ ∃ n, conn.Chosen conn.setHighRxt.MaySendNew n ∧ conn.seqAt n = seqNum := by
  obtain ⟨o, hrun, ho⟩ := h.firstLost
  rw [nextSeg, ensure_pos h.sackEnabled]
  simp only [bind, Except.bind, hrun]
  cases o with
  | some n =>
    simp only [Option.map_some, pure, Except.pure, Except.ok.injEq, Prod.mk.injEq, Option.some.injEq, eq_comm (b := conn')]
    refine and_congr_right fun _ => ⟨fun heq => ⟨n, .ruleOne ho, heq⟩, ?_⟩
    rintro ⟨m, hm, rfl⟩
    cases hm with
    | ruleOne hm => rw [hm.unique ho]
    | ruleTwo hnone => exact absurd ⟨n, ho.1⟩ hnone
    | ruleThree hnone => exact absurd ⟨n, ho.1⟩ hnone
  | none =>
    have hnone : ¬ ∃ n, conn.MeetsRuleOne n := not_exists.mpr ho
    by_cases hnew : conn.setHighRxt.MaySendNew
    · simp only [Option.map_none, if_pos hnew, pure, Except.pure, Except.ok.injEq, Prod.mk.injEq, Option.some.injEq,
        eq_comm (b := conn')]
      refine and_congr_right fun _ => ⟨fun heq => ⟨_, .ruleTwo hnone hnew, ?_⟩, ?_⟩
      · rw [← heq]
        exact (Recovering.sndMax_eq conn).symm
      · rintro ⟨m, hm, rfl⟩
        cases hm with
        | ruleOne hm => exact absurd ⟨m, hm.1⟩ hnone
        | ruleTwo => exact Recovering.sndMax_eq conn
        | ruleThree _ hnot => exact absurd hnew hnot
    · obtain ⟨o, hloop, hfirst⟩ := h.unsackedFrom_highRxt
      have hresort : conn.setHighRxt.lastResort = .ok (o.map conn.seqAt) := hloop
      simp only [Option.map_none, if_neg hnew, hresort, pure, Except.pure, Except.ok.injEq, Prod.mk.injEq,
        eq_comm (b := conn'), Option.map_eq_some_iff]
      refine and_congr_right fun _ => exists_congr fun n => and_congr_left fun _ => ⟨?_, ?_⟩
      · rintro rfl
        exact .ruleThree hnone hnew hfirst
      · intro hn
        cases hn with
        | ruleOne hn => exact absurd ⟨n, hn.1⟩ hnone
        | ruleTwo _ hyes => exact absurd hyes hnew
        | ruleThree _ _ hn => exact hfirst.unique hn

end

end TCPConnection

end Inet.Tcp
