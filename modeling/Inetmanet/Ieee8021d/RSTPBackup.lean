import Inetmanet.Ieee8021d.RSTPRoles

/-!
# Several ports of an RSTP bridge on one LAN

`handleBackup` compares the port priority of the frame, which `sendBPDU` leaves 0, with
the one stored from the best BPDU of the arrival port, which is -1 in a port that has
heard nothing.
-/
namespace Inet.Ieee8021d.RSTP

open BitVec Finset

variable {n : Nat} {b : RSTP n} {P : Finset (Fin n)}

/-- A BPDU of the bridge on its way back. -/
structure Echo (n : Nat) where
  frame : BPDU
  sender : Fin n
  arrival : Fin n

def receive (b : RSTP n) (e : Echo n) : Except Error (RSTP n) := b.handleIncomingFrame e.frame b.bridgeAddress e.arrival

/-- Sent through one port of the bridge at any time, received on another one and not too old. -/
structure Returned (b : RSTP n) (e : Echo n) : Prop where
  ne : e.sender ≠ e.arrival
  fresh : e.frame.messageAge < b.maxAge
  sent : ∃ (c : RSTP n) (root : Option PortInfo) (tcFlag : Bool), e.frame = c.bpdu root e.sender tcFlag

/-- The BPDUs that the ports of a LAN send one another, in whatever order they arrive. -/
structure Echoes (b : RSTP n) (P : Finset (Fin n)) (l : List (Echo n)) : Prop where
  returned : ∀ e ∈ l, e.sender ∈ P ∧ e.arrival ∈ P ∧ b.Returned e
  all : ∀ s ∈ P, ∀ r ∈ P, s ≠ r → ∃ e ∈ l, e.sender = s ∧ e.arrival = r

/-- The port's own priority and number. -/
def portId (b : RSTP n) (i : Fin n) : Nat ×ₗ Fin n := toLex ((b.ports i).priority.toNat, i)

/-- The first condition of `handleBackup`: the arrival port is to be demoted, not the sending one. -/
def Yields (b : RSTP n) (e : Echo n) : Prop :=
  e.frame.portPriority < (b.ports e.arrival).portPriority ∨
    e.frame.portPriority = (b.ports e.arrival).portPriority ∧ e.frame.portNum < BitVec.ofNat 32 e.arrival
deriving Decidable

/-- What handling the frames is to lead to. -/
structure KeepsOne (b : RSTP n) (P : Finset (Fin n)) (l : List (Echo n)) : Prop where
  compares : ∀ e ∈ l, b.Yields e ↔ b.portId e.sender < b.portId e.arrival
  one : ∃ c, Runs.run receive b l = .ok c ∧
    ∃ k ∈ P, ∀ p ∈ P, b.portId k ≤ b.portId p ∧ ((c.ports p).role ≠ .BACKUP ↔ p = k)

/-- The ports are numbered by their ids, and no port but the last one has heard a port priority. -/
def InOrder (b : RSTP n) (P : Finset (Fin n)) : Prop := ∀ s ∈ P, ∀ r ∈ P, s < r →
  (b.ports s).priority.toNat ≤ (b.ports r).priority.toNat ∧ (b.ports s).portPriority = 0

/-- The port that the frame demotes. -/
def demoted (b : RSTP n) (e : Echo n) : Fin n := if b.Yields e then e.arrival else e.sender

variable {e : Echo n} {l : List (Echo n)}

def backup (port : PortInfo) : PortInfo := { port with role := .BACKUP, state := .DISCARDING, lostBPDU := 0 }

section
variable (hn : n ≤ 2 ^ 32)
include hn

theorem Returned.num_lt (i j : Fin n) : BitVec.ofNat 32 i < BitVec.ofNat 32 j ↔ i < j := by
  rw [lt_def, Fin.lt_def, toNat_ofNat, toNat_ofNat, Nat.mod_eq_of_lt (by omega),
    Nat.mod_eq_of_lt (by omega)]

theorem gate_ofNat (i : Fin n) : gate (BitVec.ofNat 32 i) = .ok i := by
  have hnum : (BitVec.ofNat 32 i).toNat = i := by
    rw [toNat_ofNat, Nat.mod_eq_of_lt (by omega)]
  unfold gate
  simp only [hnum, i.isLt, dif_pos]

theorem Returned.yields_iff (h : b.Returned e) :
    b.Yields e ↔ (b.ports e.arrival).portPriority ≠ 0 ∨ e.sender < e.arrival := by
  obtain ⟨c, root, tcFlag, hframe⟩ := h.sent
  have hpriority : (0 : UInt) < (b.ports e.arrival).portPriority ↔ (b.ports e.arrival).portPriority ≠ 0 := by
    rw [lt_def, ne_eq, ← toNat_inj]
    exact Nat.pos_iff_ne_zero
  unfold Yields
  rw [hframe]
  change (0 : UInt) < _ ∨ (0 : UInt) = _ ∧ BitVec.ofNat 32 e.sender < BitVec.ofNat 32 e.arrival ↔ _
  rw [hpriority, num_lt hn]
  tauto

/-- One of the two ports is demoted, and what is compared stays. -/
theorem Returned.receive_ok (h : b.Returned e) : ∃ c, b.receive e = .ok c ∧ c.maxAge = b.maxAge ∧ ∀ p,
    (c.ports p).portPriority = (b.ports p).portPriority ∧
      (c.ports p).role = if p = b.demoted e then .BACKUP else (b.ports p).role := by
  obtain ⟨c, root, tcFlag, hframe⟩ := h.sent
  have hport := b.checkTC_port e.frame e.arrival
  have hmaxAge : (b.checkTC e.frame e.arrival).maxAge = b.maxAge := by
    unfold checkTC
    split_ifs <;> rfl
  have hkept : ∀ i p, let d := (b.checkTC e.frame e.arrival).setPort i backup
      (d.ports p).portPriority = (b.ports p).portPriority ∧
        (d.ports p).role = if p = i then .BACKUP else (b.ports p).role := by
    intro i p
    obtain ⟨t, ht⟩ := hport p
    dsimp only [setPort]
    rw [ht]
    split_ifs <;> exact ⟨rfl, rfl⟩
  have hstored : ((b.checkTC e.frame e.arrival).ports e.arrival).portPriority = (b.ports e.arrival).portPriority := by
    obtain ⟨t, ht⟩ := hport e.arrival
    rw [ht]
  unfold receive handleIncomingFrame
  rw [if_pos h.fresh, if_pos checkTC_bridgeAddress.symm, handleBackup, hstored]
  by_cases hyields : b.Yields e
  · rw [demoted, if_pos hyields]
    unfold Yields at hyields
    rw [if_pos hyields]
    exact ⟨_, rfl, hmaxAge, hkept e.arrival⟩
  · have hother : (b.ports e.arrival).portPriority = 0 ∧ e.arrival < e.sender := by
      have hnot := (h.yields_iff hn).not.mp hyields
      push Not at hnot
      exact ⟨hnot.1, lt_of_le_of_ne hnot.2 h.ne.symm⟩
    have hsends :
        e.frame.portPriority = (b.ports e.arrival).portPriority ∧ BitVec.ofNat 32 e.arrival < e.frame.portNum := by
      rw [hframe, hother.1]
      exact ⟨rfl, (num_lt hn _ _).mpr hother.2⟩
    have hgate : gate e.frame.portNum = .ok e.sender := by
      rw [hframe]
      exact gate_ofNat hn e.sender
    rw [demoted, if_neg hyields]
    unfold Yields at hyields
    rw [if_neg hyields, if_pos (Or.inr hsends), hgate]
    exact ⟨_, rfl, hmaxAge, hkept e.sender⟩

/-- The ports that are demoted are the ones that the frames demote in the first state. -/
theorem run_backup (h : ∀ e ∈ l, b.Returned e) : ∃ c, Runs.run receive b l = .ok c ∧
    ∀ p, (c.ports p).role = .BACKUP ↔ (b.ports p).role = .BACKUP ∨ ∃ e ∈ l, b.demoted e = p := by
  induction l generalizing b with
  | nil => exact ⟨b, rfl, by simp⟩
  | cons e l ih =>
    obtain ⟨d, hd, hmaxAge, hports⟩ := (h e List.mem_cons_self).receive_ok hn
    obtain ⟨c, hc, hrole⟩ := ih (b := d) fun e' he' =>
      have hreturned := h e' (List.mem_cons_of_mem _ he')
      { hreturned with fresh := hmaxAge ▸ hreturned.fresh }
    refine ⟨c, Runs.run_cons.mpr ⟨d, hd, hc⟩, fun p => ?_⟩
    have hyields : ∀ e', d.Yields e' ↔ b.Yields e' := by
      intro e'
      unfold Yields
      rw [(hports _).1]
    have hdemoted : ∀ e', d.demoted e' = b.demoted e' := by
      intro e'
      unfold demoted
      simp only [hyields]
    rw [hrole p, (hports p).2]
    simp only [hdemoted, List.mem_cons, exists_eq_or_imp]
    by_cases hp : p = b.demoted e
    · simp [hp]
    · simp [hp, Ne.symm hp]

end

theorem portId_lt {s r : Fin n} (hsr : s < r) :
    b.portId s < b.portId r ↔ (b.ports s).priority.toNat ≤ (b.ports r).priority.toNat := by
  rw [portId, portId, Prod.Lex.toLex_lt_toLex]
  simp only [hsr, and_true]
  exact le_iff_lt_or_eq.symm

theorem InOrder.lt (h : b.InOrder P) {s r : Fin n} (hs : s ∈ P) (hr : r ∈ P) (hsr : s < r) : b.portId s < b.portId r :=
  (portId_lt hsr).mpr (h s hs r hr hsr).1

section
variable (hn : n ≤ 2 ^ 32) (h : b.Echoes P l)
include hn h

theorem KeepsOne.inOrder (hkeeps : b.KeepsOne P l) : b.InOrder P := by
  intro s hs r hr hsr
  obtain ⟨e, he, rfl, rfl⟩ := h.all s hs r hr hsr.ne
  obtain ⟨e', he', hs', hr'⟩ := h.all _ hr _ hs hsr.ne'
  have hup := (hkeeps.compares e he).mp (((h.returned e he).2.2.yields_iff hn).mpr (Or.inr hsr))
  refine ⟨(portId_lt hsr).mp hup, ?_⟩
  by_contra hstored
  have hdown := (hkeeps.compares e' he').mp (((h.returned e' he').2.2.yields_iff hn).mpr (Or.inl (hr' ▸ hstored)))
  rw [hs', hr'] at hdown
  exact lt_asymm hdown hup

theorem InOrder.yields_iff (horder : b.InOrder P) (he : e ∈ l) : b.Yields e ↔ e.sender < e.arrival := by
  obtain ⟨hs, hr, hreturned⟩ := h.returned e he
  rw [hreturned.yields_iff hn]
  refine ⟨fun h => ?_, Or.inr⟩
  by_contra hnot
  have hgt := lt_of_le_of_ne (not_lt.mp hnot) hreturned.ne.symm
  exact h.elim (fun hstored => hstored (horder _ hr _ hs hgt).2) hnot

theorem InOrder.demoted_eq (horder : b.InOrder P) (he : e ∈ l) : b.demoted e = max e.sender e.arrival := by
  have hyields := horder.yields_iff hn h he
  unfold demoted
  split_ifs with hlower
  · exact (max_eq_right (hyields.mp hlower).le).symm
  · exact (max_eq_left (not_lt.mp (hyields.not.mp hlower))).symm

theorem Echoes.keepsOne_iff (hP : P.Nonempty) :
    b.KeepsOne P l ↔ b.InOrder P ∧ ∀ k ∈ P, (∀ p ∈ P, k ≤ p) → (b.ports k).role ≠ .BACKUP := by
  obtain ⟨c, hc, hrole⟩ := run_backup hn fun e he => (h.returned e he).2.2
  constructor
  · intro hkeeps
    have horder := hkeeps.inOrder hn h
    refine ⟨horder, fun m hm hleast => ?_⟩
    obtain ⟨c', hc', k, hk, hone⟩ := hkeeps.one
    cases hc.symm.trans hc'
    have hkm : k = m := by
      by_contra hne
      exact not_lt.mpr (hone m hm).1 (horder.lt hm hk (lt_of_le_of_ne (hleast k hk) (Ne.symm hne)))
    have hstays := (hone k hk).2.mpr rfl
    rw [ne_eq, hrole] at hstays
    exact hkm ▸ fun hbackup => hstays (Or.inl hbackup)
  · rintro ⟨horder, hfirst⟩
    refine ⟨fun e he => ?_, c, hc, P.min' hP, P.min'_mem hP, fun p hp => ⟨?_, ?_⟩⟩
    · obtain ⟨hs, hr, hreturned⟩ := h.returned e he
      rw [horder.yields_iff hn h he]
      cases lt_or_gt_of_ne hreturned.ne with
      | inl hlt => exact iff_of_true hlt (horder.lt hs hr hlt)
      | inr hgt => exact iff_of_false hgt.not_gt (horder.lt hr hs hgt).not_gt
    · cases (P.min'_le p hp).eq_or_lt with
      | inl heq => rw [heq]
      | inr hlt => exact (horder.lt (P.min'_mem hP) hp hlt).le
    · rw [ne_eq, hrole]
      constructor
      · intro hstays
        by_contra hne
        obtain ⟨e, he, hs, hr⟩ := h.all _ (P.min'_mem hP) p hp (Ne.symm hne)
        refine hstays (Or.inr ⟨e, he, ?_⟩)
        rw [horder.demoted_eq hn h he, hs, hr]
        exact max_eq_right (P.min'_le p hp)
      · rintro rfl hdown
        refine hdown.elim (hfirst _ hp fun q hq => P.min'_le q hq) fun ⟨e, he, heq⟩ => ?_
        obtain ⟨hs, hr, hreturned⟩ := h.returned e he
        rw [horder.demoted_eq hn h he] at heq
        exact hreturned.ne (le_antisymm (le_trans (le_max_left _ _) (heq.trans_le (P.min'_le _ hr)))
          (le_trans (le_max_right _ _) (heq.trans_le (P.min'_le _ hs))))
end

/-- A bridge with two ports, none of them an edge port. -/
def plainBridge : RSTP 2 := { edgeBridge with ports := fun i => { edgeBridge.ports i with edge := false } }

/-- Each port hears the other one. -/
def crossing : List (Echo 2) := [⟨plainBridge.bpdu none 0 false, 0, 1⟩, ⟨plainBridge.bpdu none 1 false, 1, 0⟩]

theorem crossing_echoes : plainBridge.initialized.Echoes univ crossing where
  returned e he := by
    rw [crossing, List.mem_cons, List.mem_singleton] at he
    rcases he with rfl | rfl
    · exact ⟨mem_univ _, mem_univ _, by decide, by decide, plainBridge, none, false, rfl⟩
    · exact ⟨mem_univ _, mem_univ _, by decide, by decide, plainBridge, none, false, rfl⟩
  all := by decide

theorem crossing_keepsOne : plainBridge.initialized.KeepsOne univ crossing ↔
    plainBridge.initialized.InOrder univ ∧
      ∀ k ∈ univ, (∀ p ∈ univ, k ≤ p) → (plainBridge.initialized.ports k).role ≠ .BACKUP :=
  Echoes.keepsOne_iff (by decide : 2 ≤ 2 ^ 32) crossing_echoes ⟨0, mem_univ 0⟩

/-- Both ports have heard nothing but these frames, and both go into the backup role. -/
theorem crossing_both : plainBridge.initialized.Echoes univ crossing ∧
    ¬ plainBridge.initialized.KeepsOne univ crossing := by
  refine ⟨crossing_echoes, fun hkeeps => ?_⟩
  obtain ⟨c, hc, k, hk, hone⟩ := hkeeps.one
  have hrun : ∃ d, Runs.run receive plainBridge.initialized crossing = .ok d ∧ ∀ p : Fin 2, (d.ports p).role = .BACKUP :=
    ⟨_, rfl, by decide⟩
  obtain ⟨d, hd, hrole⟩ := hrun
  cases hd.symm.trans hc
  exact (hone k hk).2.mpr rfl (hrole k)

end Inet.Ieee8021d.RSTP
