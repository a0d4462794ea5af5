import Inetmanet.Ieee8021d.RSTPRoles

/-!
# What leaves an RSTP bridge unchanged

A frame that changes no role, no state and no vector has been ignored or repeats what
the port knows; a hello timer that changes nothing has found no port that waits for a
BPDU in vain; an upgrade timer that changes nothing has found nothing to upgrade.
-/
namespace Inet.Ieee8021d.RSTP

variable {n : Nat} {b c : RSTP n} {i j k r : Fin n} {f : PortInfo → PortInfo} {frame : BPDU} {src : MACAddress}
  {d : Bool}

/-- The same roles, states and vectors. -/
def SameCore (b c : RSTP n) : Prop :=
  ∀ i, (b.ports i).role = (c.ports i).role ∧ (b.ports i).state = (c.ports i).state ∧
    (b.ports i).toPriorityVector = (c.ports i).toPriorityVector
deriving Decidable

/-- The frame does not move the port. -/
def Quiet (b : RSTP n) (frame : BPDU) (i : Fin n) : Prop :=
  frame.rootAddress = b.bridgeAddress ∨
    (b.compareInterfacedata i frame (b.ports i).linkCost).toInt ≤ 0 ∧
      (frame.bridgeAddress ≠ (b.ports i).bridgeAddress ∨
        b.compareInterfacedata i frame (b.ports i).linkCost = .SIMILAR ∨
        b.compareInterfacedata i frame (b.ports i).linkCost = .WORSE_ROOT ∧
          (b.ports i).role ≠ .ROOT ∧ (b.ports i).role ≠ .ALTERNATE)

theorem setPort_vector (hf : ∀ p, (f p).toPriorityVector = p.toPriorityVector) (j : Fin n) :
    ((b.setPort i f).ports j).toPriorityVector = (b.ports j).toPriorityVector := by
  rw [setPort_ports]
  split
  · exact hf _
  · rfl

theorem setPort_linkCost (hf : ∀ p, (f p).linkCost = p.linkCost) (j : Fin n) :
    ((b.setPort i f).ports j).linkCost = (b.ports j).linkCost := by
  rw [setPort_ports]
  split
  · exact hf _
  · rfl

@[simp] theorem toDesignated_vector : ((b.toDesignated i).ports j).toPriorityVector = (b.ports j).toPriorityVector := by
  rw [toDesignated_ports]
  exact setPort_vector (by intro p; rfl) j

@[simp] theorem becomeRoot_vector : ((b.becomeRoot i).ports j).toPriorityVector = (b.ports j).toPriorityVector :=
  setPort_vector (by intro p; rfl) j

@[simp] theorem becomeAlternate_vector :
    ((b.becomeAlternate i).ports j).toPriorityVector = (b.ports j).toPriorityVector :=
  setPort_vector (by intro p; rfl) j

@[simp] theorem flushIf_vector {p : Prop} [Decidable p] :
    ((if p then b.flushOtherPorts else b).ports j).toPriorityVector = (b.ports j).toPriorityVector := by
  split <;> rfl

theorem similarToRoot_vector : ((b.similarToRoot r i).ports j).toPriorityVector = (b.ports j).toPriorityVector := by
  unfold similarToRoot
  split
  · exact becomeAlternate_vector
  · rw [becomeRoot_vector, setPort_vector, flushIf_vector]
    intro p
    rfl

theorem betterRoute_vector :
    Ensures (b.betterRoute r i) fun c => ∀ j, (c.ports j).toPriorityVector = (b.ports j).toPriorityVector := by
  refine .bind_any fun case3 => .ite (fun _ => .pure ?_) fun _ => .pure ?_
  · intro j
    rw [setPort_vector, setPort_vector, becomeRoot_vector, flushIf_vector] <;> intro p <;> rfl
  · intro j
    rw [toDesignated_vector, setPort_vector, becomeRoot_vector, flushIf_vector]
    intro p
    rfl

theorem worseRoute_vector :
    Ensures (b.worseRoute frame i) fun c => ∀ j, (c.ports j).toPriorityVector = (b.ports j).toPriorityVector := by
  refine .bind_any fun case3 => .ite (fun _ => .pure ?_) fun _ => .pure ?_
  · intro j
    rw [sendBPDU_ports, toDesignated_vector]
  · intro j
    rw [becomeAlternate_vector]

/-- A better BPDU is stored. -/
theorem processBetterSource_vector : Ensures (b.processBetterSource frame i) fun result =>
    (result.1.ports i).toPriorityVector = frame.over (b.ports i).linkCost := by
  unfold processBetterSource
  dsimp only
  split
  · refine .ok ?_
    simp
  · split
    · refine .ok ?_
      rw [similarToRoot_vector, updateInterfacedata_vector]
    · refine .ok ?_
      rw [becomeRoot_vector, (resetForRoot_ports _ i i).2.2 (Or.inl rfl), updateInterfacedata_vector]
    iterate 3
      refine .map (betterRoute_vector.mono fun c hc => ?_)
      rw [hc i, updateInterfacedata_vector]
    · refine .ok ?_
      rw [sendBPDU_ports, updateInterfacedata_vector]
    iterate 3
      refine .map (worseRoute_vector.mono fun c hc => ?_)
      rw [hc i, updateInterfacedata_vector]

@[simp] theorem toDesignated_linkCost : ((b.toDesignated i).ports j).linkCost = (b.ports j).linkCost := by
  rw [toDesignated_ports]
  exact setPort_linkCost (by intro p; rfl) j

theorem changeRoot_linkCost : Ensures (b.changeRoot frame i k) fun c => ∀ j, (c.ports j).linkCost = (b.ports j).linkCost := by
  refine .bind_any fun case3 => .ite (fun _ => .pure ?_) fun _ => .pure ?_
  · intro j
    change ((RSTP.toDesignated _ i).ports j).linkCost = _
    rw [toDesignated_linkCost, setPort_linkCost, setPort_linkCost] <;> intro p <;> rfl
  · intro j
    change ((RSTP.setPort _ i _).ports j).linkCost = _
    rw [setPort_linkCost, setPort_linkCost, setPort_linkCost] <;> intro p <;> rfl

theorem worseRouteOnRoot_linkCost :
    Ensures (b.worseRouteOnRoot frame i) fun c => (c.ports i).linkCost = (b.ports i).linkCost := by
  have hl : ((b.setPort i fun p => { p with lostBPDU := 0 }).ports i).linkCost = (b.ports i).linkCost :=
    setPort_linkCost (by intro p; rfl) i
  unfold worseRouteOnRoot
  dsimp only
  split
  · refine .ite (fun _ => changeRoot_linkCost.mono fun c hc => ?_) fun _ => .ok hl
    rw [hc i, hl]
  · exact .ok hl

theorem worseRouteOnAlternate_linkCost :
    Ensures (b.worseRouteOnAlternate frame i) fun c => (c.ports i).linkCost = (b.ports i).linkCost := by
  refine .bind_any fun case2 => .ite (fun _ => .pure ?_) fun _ => .pure ?_
  · rw [sendBPDU_ports, toDesignated_linkCost]
  · rw [setPort_linkCost]
    intro p
    rfl

theorem initPorts_linkCost : (b.initPorts.ports j).linkCost = (b.ports j).linkCost := by
  unfold initPorts
  refine IndexLoops.foldl_keeps (p := fun c : RSTP n => (c.ports j).linkCost = (b.ports j).linkCost)
    (fun c i hc => ?_) _ rfl
  unfold initInterfacedata
  rw [setPort_linkCost, setPort_linkCost, hc]
  · intro p
    split <;> rfl
  · intro p
    rfl

/-- A worse BPDU of the same source is stored, or the port loses its role. -/
theorem processSameSource_vector (hne : b.compareInterfacedata i frame (b.ports i).linkCost ≠ .SIMILAR)
    (hle : (b.compareInterfacedata i frame (b.ports i).linkCost).toInt ≤ 0)
    (hrole : b.compareInterfacedata i frame (b.ports i).linkCost = .WORSE_ROOT →
      (b.ports i).role = .ROOT ∨ (b.ports i).role = .ALTERNATE) :
    Ensures (b.processSameSource frame i) fun result =>
      (result.1.ports i).toPriorityVector = frame.over (b.ports i).linkCost ∨
        (result.1.ports i).role ≠ (b.ports i).role := by
  unfold processSameSource
  split
  · next hcmp => exact absurd hcmp hne
  · next hcmp =>
    refine .ite (fun hroot => .ok ?_) fun hroot => .ite (fun halt => .ok (Or.inl ?_)) fun halt => ?_
    · unfold worseRootOnRoot
      split
      · next k hk =>
        left
        rw [sendBPDU_ports, updateInterfacedata_vector, setPort_linkCost]
        · change frame.over (((b.toDesignated i).ports i).linkCost) = _
          rw [toDesignated_linkCost]
        · intro p
          rfl
      · dsimp only
        split
        · left
          rw [setPort_vector, updateInterfacedata_vector, initPorts_linkCost]
          intro p
          rfl
        · right
          rw [hroot]
          exact (initPorts_ports b i).2.1
    · rw [sendBPDU_ports, updateInterfacedata_vector, toDesignated_linkCost]
    · cases hrole hcmp with
      | inl h => exact absurd h hroot
      | inr h => exact absurd h halt
  iterate 3
    refine .ite (fun _ => .map ?_) fun _ => .ite (fun _ => .map ?_) fun _ => .ok (Or.inl updateInterfacedata_vector)
    · exact worseRouteOnRoot_linkCost.mono fun c hc => Or.inl (by rw [updateInterfacedata_vector, hc])
    · exact worseRouteOnAlternate_linkCost.mono fun c hc => Or.inl (by rw [updateInterfacedata_vector, hc])
  all_goals
    next hcmp =>
      rw [hcmp] at hle
      exact absurd hle (by decide)

theorem quiet_of_challenge (h : b.challenge frame i = .ok (c, d)) (hcore : SameCore c b) : b.Quiet frame i := by
  have hrole := (hcore i).1
  have hvec := (hcore i).2.2
  by_cases hown : frame.rootAddress = b.bridgeAddress
  · exact .inl hown
  · right
    unfold challenge at h
    by_cases hpos : 0 < (b.compareInterfacedata i frame (b.ports i).linkCost).toInt
    · -- a better BPDU would be stored
      rw [if_pos ⟨hpos, hown⟩] at h
      have hstored : (c.ports i).toPriorityVector = _ := processBetterSource_vector (c, d) h
      rw [hvec] at hstored
      rw [compareInterfacedata_pos, ← hstored] at hpos
      exact absurd hpos (lt_irrefl _)
    · rw [if_neg fun hand => hpos hand.1] at h
      refine ⟨not_lt.mp hpos, ?_⟩
      by_cases hsource : frame.bridgeAddress = (b.ports i).bridgeAddress
      · right
        by_contra hmoves
        rw [not_or] at hmoves
        rw [if_pos ⟨hsource, hown⟩] at h
        have hrole' : b.compareInterfacedata i frame (b.ports i).linkCost = .WORSE_ROOT →
            (b.ports i).role = .ROOT ∨ (b.ports i).role = .ALTERNATE := by
          intro hcmp
          by_contra hno
          rw [not_or] at hno
          exact hmoves.2 ⟨hcmp, hno⟩
        have hstored := processSameSource_vector hmoves.1 (not_lt.mp hpos) hrole' (c, d) h
        cases hstored with
        | inl hstored => exact hmoves.1 (compare_similar.mpr (hvec.symm.trans hstored))
        | inr hstored => exact hstored hrole
      · exact .inl hsource

theorem sameCore_checkTC : SameCore (b.checkTC frame i) b := by
  intro j
  obtain ⟨t, ht⟩ := checkTC_port b frame i j
  rw [ht]
  exact ⟨rfl, rfl, rfl⟩

theorem quiet_checkTC : (b.checkTC frame i).Quiet frame i ↔ b.Quiet frame i := by
  have hsource : ((b.checkTC frame i).ports i).bridgeAddress = (b.ports i).bridgeAddress := by
    rw [(sameCore_checkTC i).2.2]
  unfold Quiet
  rw [checkTC_bridgeAddress, checkTC_compare, checkTC_linkCost, checkTC_role, hsource]

/-- A frame that changes nothing is quiet. -/
theorem quiet_of_sameCore (hage : frame.messageAge < b.maxAge) (hsrc : src ≠ b.bridgeAddress)
    (h : b.handleIncomingFrame frame src i = .ok c) (hcore : SameCore c b) : b.Quiet frame i := by
  unfold handleIncomingFrame at h
  rw [if_pos hage] at h
  rw [if_neg (by rwa [checkTC_bridgeAddress])] at h
  unfold processBPDU at h
  cases hch : (b.checkTC frame i).challenge frame i with
  | error e =>
    rw [hch] at h
    cases h
  | ok result =>
    obtain ⟨c', flood⟩ := result
    rw [hch] at h
    have hc : c.ports = c'.ports := by
      cases flood with
      | false =>
        cases h
        rfl
      | true =>
        cases h
        simp
    refine quiet_checkTC.mp (quiet_of_challenge hch fun j => ?_)
    rw [← hc, (hcore j).1, (hcore j).2.1, (hcore j).2.2]
    have htc : SameCore (b.checkTC frame i) b := sameCore_checkTC
    exact ⟨(htc j).1.symm, (htc j).2.1.symm, (htc j).2.2.symm⟩

/-- A frame that is too old resets no counter. -/
theorem young_of_lostBPDU (hlost : (b.ports i).lostBPDU ≠ 0) (h : b.handleIncomingFrame frame src i = .ok c)
    (hzero : (c.ports i).lostBPDU = 0) : frame.messageAge < b.maxAge := by
  by_contra hage
  unfold handleIncomingFrame at h
  rw [if_neg hage] at h
  cases h
  exact hlost hzero

/-- A quiet frame that resets the counter of lost BPDUs repeats the vector of the port. -/
theorem repeats_of_quiet (hquiet : b.Quiet frame i) (hsrc : src ≠ b.bridgeAddress) (hlost : (b.ports i).lostBPDU ≠ 0)
    (h : b.handleIncomingFrame frame src i = .ok c) (hzero : (c.ports i).lostBPDU = 0) :
    (b.ports i).toPriorityVector = frame.over (b.ports i).linkCost := by
  have hage := young_of_lostBPDU hlost h hzero
  unfold handleIncomingFrame at h
  have htc : ((b.checkTC frame i).ports i).lostBPDU ≠ 0 := by
    obtain ⟨t, ht⟩ := checkTC_port b frame i i
    rw [ht]
    exact hlost
  rw [if_pos hage] at h
  rw [if_neg (by rwa [checkTC_bridgeAddress])] at h
  by_contra hne
  have hsimilar : b.compareInterfacedata i frame (b.ports i).linkCost ≠ .SIMILAR :=
    fun hcmp => hne (compare_similar.mp hcmp)
  -- in every other case the frame is dropped
  have hdrop : (b.checkTC frame i).challenge frame i = .ok (b.checkTC frame i, false) := by
    have hq := quiet_checkTC.mpr hquiet
    have hs : (b.checkTC frame i).compareInterfacedata i frame ((b.checkTC frame i).ports i).linkCost ≠ .SIMILAR := by
      rwa [checkTC_compare, checkTC_linkCost]
    unfold challenge
    cases hq with
    | inl hown => rw [if_neg fun hand => hand.2 hown, if_neg fun hand => hand.2 hown]
    | inr hq =>
      rw [if_neg fun hand => absurd hand.1 (not_lt.mpr hq.1)]
      split
      · next hsame =>
        cases hq.2 with
        | inl hsource => exact absurd hsame.1 hsource
        | inr hq =>
          cases hq with
          | inl hcmp => exact absurd hcmp hs
          | inr hworse =>
            unfold processSameSource
            rw [hworse.1]
            rw [if_neg hworse.2.1, if_neg hworse.2.2]
      · rfl
  unfold processBPDU at h
  rw [hdrop] at h
  cases h
  exact htc hzero

/-- A port that waits for BPDUs would give up its role. -/
theorem role_of_helloPort (hedge : (b.ports i).edge = false) (hlost : (b.ports i).lostBPDU = 3)
    (hcore : SameCore (b.helloPort i) b) :
    (b.ports i).role ≠ .ROOT ∧ (b.ports i).role ≠ .ALTERNATE ∧ (b.ports i).role ≠ .BACKUP := by
  have hrole := (hcore i).1
  unfold helloPort at hrole
  split at hrole
  · next hwaits =>
    have hlimit : 3 < ((b.setPort i fun p => { p with lostBPDU := p.lostBPDU + 1 }).ports i).lostBPDU := by
      simp [hlost]
    rw [if_pos hlimit] at hrole
    have hsame : ((b.setPort i fun p => { p with lostBPDU := p.lostBPDU + 1 }).ports i).role = (b.ports i).role := by simp
    rw [setPort_ports, if_pos rfl, hsame] at hrole
    by_cases hroot : (b.ports i).role = .ROOT
    · rw [if_pos hroot] at hrole
      split at hrole
      · next k hk =>
        have hki : i ≠ k := by
          rintro rfl
          rw [(getBestAlternate_some hk).1] at hsame
          rw [hroot] at hsame
          cases hsame
        rw [flushOtherPorts_role, setPort_ports, if_neg hki, hroot] at hrole
        simp [initInterfacedata, toDesignated_ports] at hrole
      · rw [hroot] at hrole
        exact absurd hrole (initPorts_ports _ i).2.1
    · rw [if_neg hroot] at hrole
      have hd : (b.ports i).role = .DESIGNATED := by
        rw [← hrole]
        simp [initInterfacedata, toDesignated_ports]
      rw [hd]
      simp
  · next hwaits =>
    simpa [hedge, not_or] using hwaits

/-- What one round of `handleUpgrade` does to its port. -/
def upgraded (b : RSTP n) (i : Fin n) : PortRole × PortState × Time → PortRole × PortState × Time := fun (role, state, t) =>
  if b.hasCarrier i ∧ t = b.simTime then
    if role = .NOTASSIGNED then (.DESIGNATED, .DISCARDING, b.simTime + b.forwardDelay)
    else if role = .DESIGNATED then
      if state = .DISCARDING then (role, .LEARNING, b.simTime + b.forwardDelay)
      else if state = .LEARNING then (role, .FORWARDING, t)
      else (role, state, t)
    else (role, state, t)
  else (role, state, t)

theorem handleUpgrade_port (b : RSTP n) (i : Fin n) :
    ((b.handleUpgrade.ports i).role, (b.handleUpgrade.ports i).state, (b.handleUpgrade.ports i).nextUpgrade) =
      b.upgraded i ((b.ports i).role, (b.ports i).state, (b.ports i).nextUpgrade) := by
  unfold handleUpgrade
  refine IndexLoops.foldl_local
    (I := fun c : RSTP n => c.simTime = b.simTime ∧ c.hasCarrier = b.hasCarrier ∧ c.forwardDelay = b.forwardDelay)
    (fun (c : RSTP n) j => ((c.ports j).role, (c.ports j).state, (c.ports j).nextUpgrade)) b.upgraded
    (fun c j hc => ?_) (fun c hc j k => ?_) ⟨rfl, rfl, rfl⟩ i
  · split_ifs <;> exact hc
  · unfold upgraded
    by_cases hkj : k = j
    · split_ifs <;> simp_all [RSTP.flushOtherPorts]
    · split_ifs <;> simp_all [RSTP.flushOtherPorts]

theorem settled_of_handleUpgrade (hcarrier : b.hasCarrier i) (htime : (b.ports i).nextUpgrade = b.simTime)
    (hcore : SameCore b.handleUpgrade b) : ¬ (b.ports i).Upgrading := by
  intro hu
  have hport := handleUpgrade_port b i
  rw [(hcore i).1, (hcore i).2.1, upgraded, if_pos ⟨hcarrier, htime⟩] at hport
  cases hu with
  | inl hrole => simp [hrole] at hport
  | inr hd =>
    obtain ⟨hrole, hstate⟩ := hd
    cases hstate with
    | inl hstate => simp [hrole, hstate] at hport
    | inr hstate => simp [hrole, hstate] at hport

end Inet.Ieee8021d.RSTP
