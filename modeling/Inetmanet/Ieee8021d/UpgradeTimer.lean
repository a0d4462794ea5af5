import Inetmanet.Ieee8021d.RSTPVectors
import Inetmanet.Lib.Ensures

/-!
# The upgrade timer of RSTP

Each function of the module leaves the upgrade timer no later than the first port
that waits for it.
-/
namespace Inet.Ieee8021d.RSTP

open IndexLoops

variable {n : Nat} {b b' : RSTP n} {i j k : Fin n} {f g : PortInfo → PortInfo} {frame : BPDU}

/-- No port that waits has waited too long. -/
def Timely (b : RSTP n) : Prop :=
  ∀ i, b.hasCarrier i → (b.ports i).Upgrading → b.simTime ≤ (b.ports i).nextUpgrade

/-- The timer rings for every port that waits. -/
def Covered (b : RSTP n) : Prop :=
  ∀ i, b.hasCarrier i → (b.ports i).Upgrading →
    ∃ t, b.upgradeTimer = some t ∧ b.simTime ≤ t ∧ t ≤ (b.ports i).nextUpgrade

@[simp] theorem setPort_ports : (b.setPort i f).ports j = if j = i then f (b.ports j) else b.ports j := rfl
@[simp] theorem setPort_toSTPBase : (b.setPort i f).toSTPBase = b.toSTPBase := rfl

@[simp] theorem scheduleNextUpgrde_ports : b.scheduleNextUpgrde.ports = b.ports := rfl
@[simp] theorem scheduleNextUpgrde_toSTPBase : b.scheduleNextUpgrde.toSTPBase = b.toSTPBase := rfl

theorem setPort_setPort : (b.setPort i f).setPort i g = b.setPort i (g ∘ f) := by
  unfold setPort
  congr 1
  funext j
  by_cases h : j = i <;> simp [h]

theorem scheduleNextUpgrde_upgradeTimer : b.scheduleNextUpgrde.upgradeTimer =
    (((List.finRange n).filter fun i => b.hasCarrier i ∧ (b.ports i).Upgrading).argmin
      fun i => (b.ports i).nextUpgrade).map fun i => (b.ports i).nextUpgrade := by
  rw [← foldl_best]
  unfold scheduleNextUpgrde
  dsimp only
  congr 2
  funext next i
  cases next with
  | none => rfl
  | some j => by_cases h : (b.ports i).nextUpgrade < (b.ports j).nextUpgrade <;> simp only [h, if_true, if_false]

theorem Covered.timely (h : b.Covered) : b.Timely := by
  intro i hc hi
  obtain ⟨t, -, hnow, ht⟩ := h i hc hi
  exact Nat.le_trans hnow ht

theorem Timely.scheduleNextUpgrde (h : b.Timely) : b.scheduleNextUpgrde.Covered := by
  intro i hc hi
  rw [scheduleNextUpgrde_upgradeTimer]
  cases hbest : ((List.finRange n).filter fun i => b.hasCarrier i ∧ (b.ports i).Upgrading).argmin
      fun i => (b.ports i).nextUpgrade with
  | none => exact absurd ⟨hc, hi⟩ (best_none hbest i (List.mem_finRange i))
  | some k =>
    obtain ⟨hk, hmin⟩ := best_some hbest
    exact ⟨(b.ports k).nextUpgrade, rfl, h k hk.1 hk.2, hmin i (List.mem_finRange i) ⟨hc, hi⟩⟩

/-- A change by which no port begins to wait. -/
theorem Covered.of_fewer (h : b.Covered) (hc : b'.hasCarrier = b.hasCarrier) (ht : b'.simTime = b.simTime)
    (htimer : b'.upgradeTimer = b.upgradeTimer)
    (hports : ∀ i, (b'.ports i).Upgrading → (b.ports i).Upgrading ∧ (b'.ports i).nextUpgrade = (b.ports i).nextUpgrade) :
    b'.Covered := by
  intro i hci hi
  rw [hc] at hci
  rw [ht, htimer, (hports i hi).2]
  exact h i hci (hports i hi).1

theorem Covered.setPort (h : b.Covered)
    (hf : (f (b.ports i)).Upgrading → (b.ports i).Upgrading ∧ (f (b.ports i)).nextUpgrade = (b.ports i).nextUpgrade) :
    (b.setPort i f).Covered := by
  refine h.of_fewer rfl rfl rfl fun j => ?_
  rw [setPort_ports]
  by_cases hj : j = i
  · subst hj
    rw [if_pos rfl]
    exact hf
  · rw [if_neg hj]
    exact fun hu => ⟨hu, rfl⟩

/-- A port that begins to wait gets a time of its own. -/
theorem Timely.setPort (h : b.Timely) (hf : b.simTime ≤ (f (b.ports i)).nextUpgrade) : (b.setPort i f).Timely := by
  intro j hc hu
  rw [setPort_ports] at hu ⊢
  by_cases hj : j = i
  · subst hj
    rw [if_pos rfl]
    exact hf
  · rw [if_neg hj] at hu ⊢
    exact h j hc hu

theorem Covered.toDesignated (h : b.Covered) : (b.toDesignated i).Covered :=
  Timely.scheduleNextUpgrde (h.timely.setPort (Nat.le_add_right _ _))

theorem Covered.flushOtherPorts (h : b.Covered) : b.flushOtherPorts.Covered :=
  h.of_fewer rfl rfl rfl fun _ hu => ⟨hu, rfl⟩

theorem Covered.updateInterfacedata (h : b.Covered) : (b.updateInterfacedata frame i).Covered :=
  h.setPort fun hu => ⟨hu, rfl⟩

theorem Covered.initInterfacedata (h : b.Covered) : (b.initInterfacedata i).Covered :=
  h.setPort fun hu => ⟨hu, rfl⟩

/-- A role in which a port does not wait. -/
def Settled (role : PortRole) : Prop := role ≠ .NOTASSIGNED ∧ role ≠ .DESIGNATED

section

variable (h : b.Covered)
include h

theorem Covered.setRole (hrole : Settled (f (b.ports i)).role) : (b.setPort i f).Covered := by
  refine h.setPort fun hu => ?_
  cases hu with
  | inl hu => exact absurd hu hrole.1
  | inr hu => exact absurd hu.1 hrole.2

theorem Covered.becomeRoot : (b.becomeRoot i).Covered := h.setRole (by simp [Settled])

theorem Covered.becomeAlternate : (b.becomeAlternate i).Covered := h.setRole (by simp [Settled])

theorem Covered.sendBPDU : (b.sendBPDU i).Covered := by
  unfold RSTP.sendBPDU
  split
  · exact h.of_fewer rfl rfl rfl fun _ hu => ⟨hu, rfl⟩
  · exact h

theorem Covered.sendBPDUs : b.sendBPDUs.Covered := by
  refine foldl_keeps (fun b i hb => ?_) _ h
  split
  · exact hb.sendBPDU
  · exact hb

theorem Covered.sendTCNtoRoot : b.sendTCNtoRoot.Covered := by
  unfold RSTP.sendTCNtoRoot
  split
  · exact h
  · split
    · exact h.of_fewer rfl rfl rfl fun _ hu => ⟨hu, rfl⟩
    · exact h

end

/-- What `initPorts` makes of a port. -/
def initPort (b : RSTP n) (p : PortInfo) : PortInfo :=
  { (if ¬ p.edge then { p with role := .NOTASSIGNED, state := .DISCARDING, nextUpgrade := b.simTime + b.migrateTime }
    else { p with role := .DESIGNATED, state := .FORWARDING }) with
    toPriorityVector := b.ownVector, age := 0, lostBPDU := 0 }

theorem initPorts_eq (b : RSTP n) : ∃ c : RSTP n, b.initPorts = c.scheduleNextUpgrde ∧ c.toSTPBase = b.toSTPBase ∧
    c.simTime = b.simTime ∧ ∀ i, c.ports i = b.initPort (b.ports i) := by
  have hkeeps : ∀ (c : RSTP n) j (f : PortInfo → PortInfo),
      c.toSTPBase = b.toSTPBase ∧ c.simTime = b.simTime ∧ c.migrateTime = b.migrateTime →
      ((c.setPort j f).initInterfacedata j).toSTPBase = b.toSTPBase ∧
        ((c.setPort j f).initInterfacedata j).simTime = b.simTime ∧
        ((c.setPort j f).initInterfacedata j).migrateTime = b.migrateTime := fun c j f hc => hc
  refine ⟨_, rfl, ?_, ?_, foldl_local ports (fun _ => b.initPort) (fun c j hc => hkeeps c j _ hc) ?_ ⟨rfl, rfl, rfl⟩⟩
  · exact (foldl_keeps (fun c j hc => hkeeps c j _ hc) _ ⟨rfl, rfl, rfl⟩).1
  · exact (foldl_keeps (fun c j hc => hkeeps c j _ hc) _ ⟨rfl, rfl, rfl⟩).2.1
  · intro c ⟨hbase, htime, hmigrate⟩ i j
    simp only [RSTP.initInterfacedata, setPort_ports, setPort_toSTPBase, initPort, hbase, htime, hmigrate]
    by_cases hj : j = i
    · subst hj
      simp
    · simp [hj]

/-- The loop over the ports leaves no old time behind. -/
theorem initPorts_covered (b : RSTP n) : b.initPorts.Covered := by
  obtain ⟨c, hc, -, htime, hports⟩ := b.initPorts_eq
  rw [hc]
  refine Timely.scheduleNextUpgrde fun i _ hu => ?_
  rw [hports, initPort] at hu ⊢
  by_cases he : (b.ports i).edge
  · simp [he, PortInfo.Upgrading] at hu
  · rw [if_pos he, htime]
    exact Nat.le_add_right _ _

section

variable (h : b.Covered)
include h

theorem Covered.resetForRoot : (b.resetForRoot i).Covered := by
  refine foldl_keeps (fun b j hb => ?_) _ h
  split
  · have htc : (if (b.ports i).state ≠ .FORWARDING then
        b.setPort j fun p => { p with TCWhile := b.simTime + b.tcWhileTime } else b).Covered := by
      split
      · exact hb.setPort fun hu => ⟨hu, rfl⟩
      · exact hb
    dsimp only
    split
    · exact Covered.initInterfacedata (Timely.scheduleNextUpgrde (htc.timely.setPort (Nat.le_add_right _ _)))
    · exact htc
  · exact hb

theorem Covered.toDesignated_setPort : ((b.setPort i f).toDesignated i).Covered := by
  unfold RSTP.toDesignated
  rw [setPort_setPort]
  exact Timely.scheduleNextUpgrde (h.timely.setPort (Nat.le_add_right _ _))

theorem Covered.flushIf {c : Prop} [Decidable c] : (if c then b.flushOtherPorts else b).Covered := by
  split
  · exact h.flushOtherPorts
  · exact h

theorem Covered.similarToRoot : (b.similarToRoot i j).Covered := by
  unfold RSTP.similarToRoot
  split
  · exact h.becomeAlternate
  · exact Covered.becomeRoot (h.flushIf.setRole (by simp [Settled]))

theorem Covered.betterRoute : Ensures (b.betterRoute i j) Covered := by
  have hroot := (h.flushIf (c := (b.ports j).state ≠ .FORWARDING)).becomeRoot (i := j)
  refine .bind_any fun case3 => .ite (fun _ => .pure ?_) fun _ => .pure ?_
  · rw [setPort_setPort]
    exact hroot.setRole (by simp [Settled])
  · exact hroot.toDesignated_setPort

theorem Covered.worseRoute : Ensures (b.worseRoute frame i) Covered :=
  .bind_any fun _ =>
    .ite (fun _ => .pure h.toDesignated.sendBPDU) fun _ => .pure h.becomeAlternate

theorem Covered.processBetterSource :
    Ensures (b.processBetterSource frame i) fun result => result.1.Covered := by
  have hb : (b.updateInterfacedata frame i).Covered := h.updateInterfacedata
  unfold RSTP.processBetterSource
  dsimp only
  split
  · exact .ok hb.becomeRoot.flushOtherPorts
  · split
    · exact .ok hb.similarToRoot
    · exact .ok hb.resetForRoot.becomeRoot
    iterate 3 exact .map hb.betterRoute
    · exact .ok hb.sendBPDU
    iterate 3 exact .map hb.worseRoute

theorem Covered.worseRootOnRoot : (b.worseRootOnRoot frame i).1.Covered := by
  unfold RSTP.worseRootOnRoot
  split
  · exact (h.toDesignated.flushOtherPorts.setRole (by simp [Settled])).updateInterfacedata.sendBPDU
  · dsimp only
    split
    · dsimp only
      refine Covered.setRole (initPorts_covered b).updateInterfacedata ?_
      simp [Settled]
    · exact initPorts_covered b

theorem Covered.changeRoot : Ensures (b.changeRoot frame i j) Covered := by
  have hroot : (b.setPort j fun p => { p with role := .ROOT, state := .FORWARDING }).Covered :=
    h.setRole (by simp [Settled])
  refine .bind_any fun case3 => .ite (fun _ => .pure ?_) fun _ => .pure ?_
  · exact hroot.toDesignated_setPort.flushOtherPorts
  · refine Covered.flushOtherPorts ?_
    rw [setPort_setPort]
    exact hroot.setRole (by simp [Settled])

theorem Covered.lostBPDU : (b.setPort i fun p => { p with lostBPDU := 0 }).Covered :=
  h.setPort fun hu => ⟨hu, rfl⟩

theorem Covered.worseRouteOnRoot : Ensures (b.worseRouteOnRoot frame i) Covered := by
  unfold RSTP.worseRouteOnRoot
  dsimp only
  split
  · exact .ite (fun _ => h.lostBPDU.changeRoot) fun _ => .ok h.lostBPDU
  · exact .ok h.lostBPDU

theorem Covered.worseRouteOnAlternate : Ensures (b.worseRouteOnAlternate frame i) Covered :=
  .bind_any fun _ =>
    .ite (fun _ => .pure h.toDesignated.sendBPDU) fun _ => .pure h.lostBPDU

theorem Covered.processSameSource :
    Ensures (b.processSameSource frame i) fun result => result.1.Covered := by
  unfold RSTP.processSameSource
  split
  · exact .ok h.lostBPDU
  · refine .ite (fun _ => .ok h.worseRootOnRoot) fun _ => .ite (fun _ => .ok ?_) fun _ => .ok h
    exact h.toDesignated.updateInterfacedata.sendBPDU
  iterate 3
    refine .ite (fun _ => .map ?_) fun _ => .ite (fun _ => .map ?_) fun _ => .ok h.updateInterfacedata
    · exact h.worseRouteOnRoot.mono fun b' hb' => hb'.updateInterfacedata
    · exact h.worseRouteOnAlternate.mono fun b' hb' => hb'.updateInterfacedata
  all_goals exact .ok h

theorem Covered.processBPDU : Ensures (b.processBPDU frame i) Covered := by
  have hchallenge : Ensures (b.challenge frame i) fun result => result.1.Covered :=
    .ite (fun _ => h.processBetterSource) fun _ => .ite (fun _ => h.processSameSource) fun _ => .ok h
  refine .map (hchallenge.mono fun result hresult => ?_)
  dsimp only
  split
  · exact hresult.sendBPDUs.sendTCNtoRoot
  · exact hresult

theorem Covered.handleBackup : Ensures (b.handleBackup frame i) Covered := by
  refine .ite (fun _ => .ok (h.setRole (by simp [Settled]))) fun _ => .ite (fun _ => ?_) fun _ => ?_
  all_goals
    refine .bind_any fun port2 => .pure ?_
    exact h.setRole (by simp [Settled])

theorem Covered.handleIncomingFrame {src : MACAddress} :
    Ensures (b.handleIncomingFrame frame src i) Covered := by
  have htc : (b.checkTC frame i).Covered := by
    unfold RSTP.checkTC
    split
    · refine h.of_fewer rfl rfl rfl fun j hu => ?_
      dsimp only at hu ⊢
      split at hu <;> simp_all [PortInfo.Upgrading]
    · exact h
  exact .ite (fun _ => .ite (fun _ => htc.handleBackup) fun _ => htc.processBPDU) fun _ => .ok h

theorem Covered.helloPort : (b.helloPort i).Covered := by
  unfold RSTP.helloPort
  split
  · have hl : (b.setPort i fun p => { p with lostBPDU := p.lostBPDU + 1 }).Covered := h.setPort fun hu => ⟨hu, rfl⟩
    dsimp only
    split
    · refine Covered.setPort ?_ fun hu => ⟨hu, rfl⟩
      split
      · split
        · exact (hl.toDesignated.initInterfacedata.setRole (by simp [Settled])).flushOtherPorts
        · exact initPorts_covered _
      · exact hl.toDesignated.initInterfacedata
    · exact hl
  · exact h

theorem Covered.handleHelloTime : b.handleHelloTime.Covered := by
  have hloop : ((List.finRange n).foldl RSTP.helloPort b).Covered :=
    foldl_keeps (fun _ _ hb => hb.helloPort) _ h
  exact hloop.sendBPDUs.sendTCNtoRoot.of_fewer rfl rfl rfl fun _ hu => ⟨hu, rfl⟩

end

theorem Timely.handleUpgrade (h : b.Timely) : b.handleUpgrade.Covered := by
  refine Timely.scheduleNextUpgrde ?_
  refine foldl_keeps (fun b i hb => ?_) _ h
  split
  · next hnow =>
    split
    · exact hb.setPort (Nat.le_add_right _ _)
    · split
      · split
        · exact hb.setPort (Nat.le_add_right _ _)
        · split
          · exact hb.setPort (Nat.le_of_eq hnow.2.symm)
          · exact hb
      · exact hb
  · exact hb

theorem Covered.receiveChangeNotification (h : b.Covered) (hasCarrier : Bool) :
    (RSTP.receiveChangeNotification { b with hasCarrier := Function.update b.hasCarrier i hasCarrier } i).Covered := by
  unfold RSTP.receiveChangeNotification
  simp only [Function.update_self]
  split
  · refine Timely.scheduleNextUpgrde fun j hc hu => ?_
    by_cases hj : j = i
    · subst hj
      revert hu
      split
      · simp [RSTP.setPort]
      · split
        · simp [RSTP.setPort]
        · next hrole hstate => exact fun hu => absurd hu (by simp [PortInfo.Upgrading, hrole, hstate])
    · have hold : (b.ports j).Upgrading → b.hasCarrier j → b.simTime ≤ (b.ports j).nextUpgrade :=
        fun hu hc => h.timely j hc hu
      revert hu hc
      split
      · simpa [RSTP.setPort, hj] using fun hc hu => hold hu hc
      · split
        · simpa [RSTP.setPort, hj] using fun hc hu => hold hu hc
        · simpa [hj] using fun hc hu => hold hu hc
  · next hoff =>
    intro j hc hu
    by_cases hj : j = i
    · subst hj
      simp [hoff] at hc
    · exact h j (by simpa [hj] using hc) hu

theorem Covered.handleMessage (h : b.Covered) (event : Event n) : Ensures (b.handleMessage event) Covered := by
  cases event with
  | bpdu frame src arrivalPortNum => exact h.handleIncomingFrame
  | helloTimer => exact .ite (fun _ => .ok (Covered.handleHelloTime h)) fun _ => .error
  | upgradeTimer => exact .ite (fun _ => .ok (Timely.handleUpgrade h.timely)) fun _ => .error
  | interfaceStateChanged i hasCarrier => exact .ok (h.receiveChangeNotification hasCarrier)
  | elapse simTime =>
    refine .ite (fun hle => .ok fun i hc hu => ?_) fun _ => .error
    obtain ⟨t, ht, -, hnext⟩ := h i hc hu
    exact ⟨t, ht, hle.2.2 t ht, hnext⟩

theorem initialized_covered (b : RSTP n) : b.initialized.Covered :=
  (initPorts_covered b).of_fewer rfl rfl rfl fun _ hu => ⟨hu, rfl⟩

end Inet.Ieee8021d.RSTP
