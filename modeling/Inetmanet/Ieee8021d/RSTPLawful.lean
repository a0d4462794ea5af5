import Inetmanet.Ieee8021d.RSTPNetwork

/-!
# Bridges that hear only other bridges

A bridge that receives the BPDUs of other bridges, and none on its edge ports, never has a
backup port, and its root port and alternate ports name a root better than itself. With
the invariant of the roles this is what stable networks need.
-/
namespace Inet.Ieee8021d

open RSTP IndexLoops

def PriorityVector.rootId (v : PriorityVector) : Int ×ₗ Nat := toLex (v.rootPriority.toInt, v.rootAddress.toNat)

/-- What holds of every port of a bridge with this identifier. -/
structure PortInfo.Law (own : Int ×ₗ Nat) (p : PortInfo) : Prop where
  edge : p.edge → p.role = .DESIGNATED
  backup : p.role ≠ .BACKUP ∧ p.role ≠ .DISABLED
  root : p.role = .ROOT → p.state = .FORWARDING
  alternate : p.role = .ALTERNATE → p.state = .DISCARDING
  below : p.role = .ROOT ∨ p.role = .ALTERNATE → p.rootId < own

variable {v w : PriorityVector}

theorem rootId_le_of_key (h : v.key ≤ w.key) : v.rootId ≤ w.rootId := by
  simp only [PriorityVector.key, Prod.Lex.toLex_le_toLex] at h
  simp only [PriorityVector.rootId, Prod.Lex.toLex_le_toLex]
  omega

/-- A worse route leads to the same root. -/
theorem rootId_of_worse (h : compareRSTPData v w = .WORSE_RPC ∨ compareRSTPData v w = .WORSE_SRC ∨
    compareRSTPData v w = .WORSE_PORT) : v.rootId = w.rootId := by
  unfold compareRSTPData at h
  unfold PriorityVector.rootId
  split_ifs at h <;> simp_all

namespace RSTP

variable {n : Nat} {b c : RSTP n} {i j k r : Fin n} {f : PortInfo → PortInfo} {frame : BPDU} {src : MACAddress}

@[simp] theorem flushOtherPorts_bridgeId : b.flushOtherPorts.bridgeId = b.bridgeId := rfl
@[simp] theorem flushOtherPorts_linkCost : (b.flushOtherPorts.ports i).linkCost = (b.ports i).linkCost := rfl
@[simp] theorem setPort_bridgeId : (b.setPort i f).bridgeId = b.bridgeId := rfl

def AllLaw (b : RSTP n) : Prop := ∀ i, (b.ports i).Law b.bridgeId

def Rooted (b : RSTP n) : Prop := ∃ r, (b.ports r).role = .ROOT

/-- The bridge has heard of no better root. -/
def Alone (b : RSTP n) : Prop := ∀ i, (b.ports i).toPriorityVector = b.ownVector ∧ (b.ports i).role ≠ .ALTERNATE

structure Lawful (b : RSTP n) : Prop where
  laws : b.AllLaw
  roots : b.Rooted ∨ b.Alone

variable {own : Int ×ₗ Nat} {p : PortInfo}

theorem law_designated (h : p.role = .DESIGNATED) : p.Law own :=
  ⟨fun _ => h, by simp [h], by simp [h], by simp [h], by simp [h]⟩

theorem law_notassigned (h : p.role = .NOTASSIGNED) (he : p.edge = false) : p.Law own :=
  ⟨by simp [he], by simp [h], by simp [h], by simp [h], by simp [h]⟩

theorem law_root (h : p.role = .ROOT) (hs : p.state = .FORWARDING) (he : p.edge = false)
    (hid : p.rootId < own) : p.Law own :=
  ⟨by simp [he], by simp [h], fun _ => hs, by simp [h], fun _ => hid⟩

theorem law_alternate (h : p.role = .ALTERNATE) (hs : p.state = .DISCARDING)
    (he : p.edge = false) (hid : p.rootId < own) : p.Law own :=
  ⟨by simp [he], by simp [h], by simp [h], fun _ => hs, fun _ => hid⟩

theorem AllLaw.not_edge (h : b.AllLaw) (hrole : (b.ports i).role ≠ .DESIGNATED) : (b.ports i).edge = false := by
  by_contra he
  exact hrole ((h i).edge (by simpa using he))

theorem AllLaw.setPort (h : b.AllLaw) (hf : (f (b.ports i)).Law b.bridgeId) : (b.setPort i f).AllLaw := by
  intro j
  rw [setPort_ports]
  by_cases hj : j = i
  · subst hj
    rw [if_pos rfl]
    exact hf
  · rw [if_neg hj]
    exact h j

/-- Only what a law speaks of matters. -/
theorem AllLaw.congr (h : b.AllLaw) (hbase : c.toSTPBase = b.toSTPBase)
    (hports : ∀ i, (c.ports i).edge = (b.ports i).edge ∧ (c.ports i).role = (b.ports i).role ∧
      (c.ports i).state = (b.ports i).state ∧ (c.ports i).toPriorityVector = (b.ports i).toPriorityVector) : c.AllLaw := by
  intro i
  obtain ⟨he, hr, hs, hv⟩ := hports i
  have hid : c.bridgeId = b.bridgeId := by
    unfold bridgeId
    rw [hbase]
  have hi := h i
  constructor
  · rw [he, hr]
    exact hi.edge
  · rw [hr]
    exact hi.backup
  · rw [hr, hs]
    exact hi.root
  · rw [hr, hs]
    exact hi.alternate
  · rw [hr, hv, hid]
    exact hi.below

section

variable (h : b.Lawful)
include h

theorem Lawful.congr (hbase : c.toSTPBase = b.toSTPBase)
    (hports : ∀ i, (c.ports i).edge = (b.ports i).edge ∧ (c.ports i).role = (b.ports i).role ∧
      (c.ports i).state = (b.ports i).state ∧ (c.ports i).toPriorityVector = (b.ports i).toPriorityVector) : c.Lawful := by
  refine ⟨h.laws.congr hbase hports, ?_⟩
  cases h.roots with
  | inl hr =>
    obtain ⟨r, hr⟩ := hr
    exact .inl ⟨r, (hports r).2.1.trans hr⟩
  | inr ha =>
    refine .inr fun i => ⟨?_, ?_⟩
    · rw [(hports i).2.2.2, (ha i).1, hbase]
    · rw [(hports i).2.1]
      exact (ha i).2

theorem Lawful.flushOtherPorts : b.flushOtherPorts.Lawful :=
  h.congr rfl fun _ => ⟨rfl, rfl, rfl, rfl⟩

theorem Lawful.sendBPDU : (b.sendBPDU i).Lawful := by
  unfold RSTP.sendBPDU
  split
  · exact h.congr rfl fun _ => ⟨rfl, rfl, rfl, rfl⟩
  · exact h

theorem Lawful.sendBPDUs : b.sendBPDUs.Lawful := by
  refine foldl_keeps (p := Lawful) (fun c i hc => ?_) _ h
  split
  · exact hc.sendBPDU
  · exact hc

theorem Lawful.sendTCNtoRoot : b.sendTCNtoRoot.Lawful := by
  unfold RSTP.sendTCNtoRoot
  split
  · exact h
  · split
    · exact h.congr rfl fun _ => ⟨rfl, rfl, rfl, rfl⟩
    · exact h

theorem Lawful.scheduleNextUpgrde : b.scheduleNextUpgrde.Lawful :=
  h.congr rfl fun _ => ⟨rfl, rfl, rfl, rfl⟩

/-- A port that is not the root port gets another role. -/
theorem Lawful.setPort (hf : (f (b.ports i)).Law b.bridgeId) (hold : (b.ports i).role ≠ .ROOT)
    (hnew : b.Rooted ∨ (f (b.ports i)).role ≠ .ALTERNATE ∧ (f (b.ports i)).toPriorityVector = (b.ports i).toPriorityVector) :
    (b.setPort i f).Lawful := by
  refine ⟨h.laws.setPort hf, ?_⟩
  have hrooted : b.Rooted → (b.setPort i f).Rooted := by
    rintro ⟨r, hr⟩
    have hri : r ≠ i := by
      rintro rfl
      exact hold hr
    exact ⟨r, by simpa [hri] using hr⟩
  cases h.roots with
  | inl hr => exact .inl (hrooted hr)
  | inr ha =>
    cases hnew with
    | inl hr => exact .inl (hrooted hr)
    | inr hnew =>
      refine .inr fun j => ?_
      by_cases hj : j = i
      · subst hj
        rw [setPort_ports, if_pos rfl]
        exact ⟨hnew.2.trans (ha j).1, hnew.1⟩
      · rw [setPort_ports, if_neg hj]
        exact ha j

theorem Lawful.lostBPDU {x : PortInfo → UInt} :
    (b.setPort i fun p => { p with lostBPDU := x p }).Lawful := by
  refine h.congr rfl fun j => ?_
  rw [setPort_ports]
  split <;> exact ⟨rfl, rfl, rfl, rfl⟩

theorem Lawful.toDesignated (hold : (b.ports i).role ≠ .ROOT) : (b.toDesignated i).Lawful :=
  Lawful.scheduleNextUpgrde (h.setPort (law_designated rfl) hold (Or.inr ⟨by simp, rfl⟩))

end

theorem initPorts_lawful (b : RSTP n) : b.initPorts.Lawful := by
  obtain ⟨c, hc, hbase, -, hports⟩ := b.initPorts_eq
  rw [hc]
  refine Lawful.scheduleNextUpgrde ⟨fun i => ?_, Or.inr fun i => ?_⟩
  · unfold bridgeId
    rw [hports, hbase, initPort]
    by_cases he : (b.ports i).edge
    · rw [if_neg (not_not.mpr he)]
      exact law_designated rfl
    · rw [if_pos he]
      exact law_notassigned rfl (by simpa using he)
  · rw [hports, hbase, initPort]
    exact ⟨rfl, by split <;> simp⟩

theorem AllLaw.updateInterfacedata (h : b.AllLaw)
    (hv : (b.ports i).role = .ROOT ∨ (b.ports i).role = .ALTERNATE → (frame.over (b.ports i).linkCost).rootId < b.bridgeId) :
    (b.updateInterfacedata frame i).AllLaw :=
  h.setPort ⟨(h i).edge, (h i).backup, (h i).root, (h i).alternate, hv⟩

theorem Rooted.updateInterfacedata (h : b.Rooted) : (b.updateInterfacedata frame i).Rooted := by
  obtain ⟨r, hr⟩ := h
  exact ⟨r, by simpa using hr⟩

theorem Lawful.rooted (h : b.Lawful) (hrole : (b.ports i).role = .ROOT ∨ (b.ports i).role = .ALTERNATE) : b.Rooted := by
  cases h.roots with
  | inl hr => exact hr
  | inr ha =>
    cases hrole with
    | inl hi => exact ⟨i, hi⟩
    | inr hi => exact absurd hi (ha i).2

/-- The arrival port's new vector names a root better than the bridge. -/
structure Heard (b : RSTP n) (i : Fin n) : Prop where
  laws : b.AllLaw
  edge : (b.ports i).edge = false
  below : (b.ports i).rootId < b.bridgeId

theorem Heard.becomeRoot (h : b.Heard i) : (b.becomeRoot i).Lawful :=
  ⟨h.laws.setPort (law_root rfl rfl h.edge h.below), Or.inl ⟨i, by simp [RSTP.becomeRoot]⟩⟩

theorem Heard.becomeAlternate (h : b.Heard i) (hr : (b.ports r).role = .ROOT) (hri : r ≠ i) :
    (b.becomeAlternate i).Lawful :=
  ⟨h.laws.setPort (law_alternate rfl rfl h.edge h.below), Or.inl ⟨r, by simpa [RSTP.becomeAlternate, hri] using hr⟩⟩

theorem Heard.flushIf {p : Prop} [Decidable p] (h : b.Heard i) : (if p then b.flushOtherPorts else b).Heard i := by
  split
  · exact ⟨h.laws.congr rfl fun _ => ⟨rfl, rfl, rfl, rfl⟩, h.edge, h.below⟩
  · exact h

theorem flushIf_role {p : Prop} [Decidable p] : ((if p then b.flushOtherPorts else b).ports i).role = (b.ports i).role := by
  split <;> rfl

section

variable (h : b.Heard i)
include h

theorem Heard.setOther (hf : (f (b.ports r)).Law b.bridgeId) (hri : r ≠ i) : (b.setPort r f).Heard i where
  laws := h.laws.setPort hf
  edge := by
    rw [setPort_ports, if_neg hri.symm]
    exact h.edge
  below := by
    rw [setPort_ports, if_neg hri.symm]
    exact h.below

/-- The old root port is demoted, the arrival port takes over. -/
theorem Heard.takeOver (hri : r ≠ i)
    (hf : (f (b.ports r)).Law b.bridgeId) : ((b.becomeRoot i).setPort r f).Lawful := by
  unfold RSTP.becomeRoot
  rw [setPort_comm hri.symm]
  exact (h.setOther hf hri).becomeRoot

section

variable (hr : (b.ports r).role = .ROOT)
include hr

theorem Heard.law_demoted (hrole : p.role = .ALTERNATE)
    (hstate : p.state = .DISCARDING) (hedge : p.edge = (b.ports r).edge)
    (hvec : p.toPriorityVector = (b.ports r).toPriorityVector) : p.Law b.bridgeId := by
  refine law_alternate hrole hstate ?_ ?_
  · rw [hedge]
    exact h.laws.not_edge (by simp [hr])
  · rw [hvec]
    exact (h.laws r).below (Or.inl hr)

theorem Heard.similarToRoot : (b.similarToRoot r i).Lawful := by
  unfold RSTP.similarToRoot
  split
  · next hlocal =>
    refine h.becomeAlternate hr ?_
    rintro rfl
    simp at hlocal
  · have hc := h.flushIf (p := (b.ports i).state ≠ .FORWARDING)
    have hrc : ((if (b.ports i).state ≠ .FORWARDING then b.flushOtherPorts else b).ports r).role = .ROOT := by
      rw [flushIf_role, hr]
    generalize (if (b.ports i).state ≠ .FORWARDING then b.flushOtherPorts else b) = c at hc hrc ⊢
    have hlaw := hc.law_demoted hrc (p := { c.ports r with role := .ALTERNATE, state := .DISCARDING }) rfl rfl rfl rfl
    by_cases hri : r = i
    · subst hri
      refine Heard.becomeRoot ⟨hc.laws.setPort hlaw, ?_, ?_⟩
      · simpa using hc.edge
      · simpa using hc.below
    · exact (hc.setOther hlaw hri).becomeRoot

theorem Heard.betterRoute (hri : r ≠ i) :
    Ensures (b.betterRoute r i) Lawful := by
  have hc := h.flushIf (p := (b.ports i).state ≠ .FORWARDING)
  have hrc : ((if (b.ports i).state ≠ .FORWARDING then b.flushOtherPorts else b).ports r).role = .ROOT := by
    rw [flushIf_role, hr]
  refine .bind_any fun case3 => .ite (fun _ => .pure ?_) fun _ => .pure ?_
  · rw [setPort_setPort]
    exact hc.takeOver hri (hc.law_demoted hrc rfl rfl rfl rfl)
  · unfold RSTP.toDesignated
    rw [setPort_setPort]
    exact Lawful.scheduleNextUpgrde (hc.takeOver hri (law_designated rfl))

theorem Heard.worseRoute (hri : r ≠ i) :
    Ensures (b.worseRoute frame i) Lawful := by
  refine .bind_any fun case3 => .ite (fun _ => .pure ?_) fun _ => .pure ?_
  · have hd : (b.toDesignated i).Lawful := by
      refine Lawful.scheduleNextUpgrde ⟨h.laws.setPort (law_designated rfl), Or.inl ⟨r, ?_⟩⟩
      simpa [hri] using hr
    exact hd.sendBPDU
  · exact h.becomeAlternate hr hri

end

end

theorem resetForRoot_edge (b : RSTP n) (i j : Fin n) :
    ((b.resetForRoot i).ports j).edge = (b.ports j).edge ∧ (b.resetForRoot i).toSTPBase = b.toSTPBase := by
  refine foldl_keeps (p := fun c : RSTP n => (c.ports j).edge = (b.ports j).edge ∧ c.toSTPBase = b.toSTPBase)
    (fun c k hc => ?_) _ ⟨rfl, rfl⟩
  by_cases hjk : j = k
  · split_ifs <;> simp_all [RSTP.initInterfacedata]
  · split_ifs <;> simp_all [RSTP.initInterfacedata]

theorem Heard.resetForRoot (h : b.Heard i) : (b.resetForRoot i).Heard i := by
  have hid : (b.resetForRoot i).bridgeId = b.bridgeId := by
    unfold bridgeId
    rw [(resetForRoot_edge b i i).2]
  have hedge : ((b.resetForRoot i).ports i).edge = false := (resetForRoot_edge b i i).1.trans h.edge
  have hvec := (resetForRoot_ports b i i).2.2 (Or.inl rfl)
  refine ⟨fun j => ?_, hedge, ?_⟩
  · obtain ⟨hrole, hstate, hv⟩ := resetForRoot_ports b i j
    have he := (resetForRoot_edge b i j).1
    rw [hid]
    by_cases hkeep : j = i ∨ (b.ports j).edge
    · rw [if_pos hkeep] at hrole hstate
      have hj := h.laws j
      exact ⟨by rw [he, hrole]; exact hj.edge, by rw [hrole]; exact hj.backup, by rw [hrole, hstate]; exact hj.root,
        by rw [hrole, hstate]; exact hj.alternate, by rw [hrole, hv hkeep]; exact hj.below⟩
    · rw [if_neg hkeep] at hrole
      refine law_notassigned hrole (he.trans ?_)
      simpa using (not_or.mp hkeep).2
  · rw [hid, hvec]
    exact h.below

/-- A bridge without root port is alone. -/
theorem Lawful.alone (h : b.Lawful) (hnone : b.getRootIndex = none) : b.Alone := by
  cases h.roots with
  | inl hr =>
    obtain ⟨r, hr⟩ := hr
    exact absurd hr (getRootIndex_none.mp hnone r)
  | inr ha => exact ha

theorem ownVector_rootId : b.ownVector.rootId = b.bridgeId := rfl

/-- A root with another address is another root. -/
theorem rootId_ne {cost : UInt} (hroot : frame.rootAddress ≠ b.bridgeAddress) : (frame.over cost).rootId ≠ b.bridgeId := by
  intro heq
  unfold PriorityVector.rootId bridgeId at heq
  rw [toLex_inj, Prod.mk.injEq] at heq
  exact hroot (BitVec.eq_of_toNat_eq heq.2)

theorem Lawful.processBetterSource (h : b.Lawful) (he : (b.ports i).edge = false)
    (hroot : frame.rootAddress ≠ b.bridgeAddress)
    (hbetter : 0 < (b.compareInterfacedata i frame (b.ports i).linkCost).toInt) :
    Ensures (b.processBetterSource frame i) fun result => result.1.Lawful := by
  replace hbetter := compareInterfacedata_pos.mp hbetter
  have hlaws : (b.updateInterfacedata frame i).AllLaw := h.laws.updateInterfacedata fun hrole =>
    lt_of_le_of_lt (rootId_le_of_key hbetter.le) ((h.laws i).below hrole)
  have hedge : ((b.updateInterfacedata frame i).ports i).edge = false := by rw [updateInterfacedata_edge, he]
  have heard (hid : (frame.over (b.ports i).linkCost).rootId < b.bridgeId) : (b.updateInterfacedata frame i).Heard i :=
    ⟨hlaws, hedge, by rw [updateInterfacedata_vector]; exact hid⟩
  unfold RSTP.processBetterSource
  dsimp only
  split
  · next hnone =>
    rw [updateInterfacedata_getRootIndex] at hnone
    refine .ok (Lawful.flushOtherPorts (heard ?_).becomeRoot)
    refine lt_of_le_of_ne ?_ (rootId_ne hroot)
    have hle := rootId_le_of_key hbetter.le
    rwa [(h.alone hnone i).1] at hle
  · next r hsome =>
    rw [updateInterfacedata_getRootIndex] at hsome
    have hr := getRootIndex_some hsome
    have hrc : ((b.updateInterfacedata frame i).ports r).role = .ROOT := by rw [updateInterfacedata_role, hr]
    -- the root named by a frame that is not worse than the root port's vector
    have hle (hk : (frame.over (b.ports i).linkCost).rootId ≤ ((b.updateInterfacedata frame i).ports r).rootId) :
        (b.updateInterfacedata frame i).Heard i :=
      heard (lt_of_le_of_lt hk ((hlaws r).below (Or.inl hrc)))
    have hne (x : CompareResult) (hx : x ≠ .SIMILAR)
        (hcmp : (b.updateInterfacedata frame i).compareInterfacedata r frame (b.ports i).linkCost = x) : r ≠ i := by
      rintro rfl
      refine hx (hcmp.symm.trans (compare_similar.mpr updateInterfacedata_vector))
    have hwins (x : CompareResult) (hx : 0 < x.toInt)
        (hcmp : (b.updateInterfacedata frame i).compareInterfacedata r frame (b.ports i).linkCost = x) :
        (b.updateInterfacedata frame i).Heard i := by
      rw [← hcmp, compareInterfacedata_pos] at hx
      exact hle (rootId_le_of_key hx.le)
    have hworse (hcmp : (b.updateInterfacedata frame i).compareInterfacedata r frame (b.ports i).linkCost = .WORSE_RPC ∨
        (b.updateInterfacedata frame i).compareInterfacedata r frame (b.ports i).linkCost = .WORSE_SRC ∨
        (b.updateInterfacedata frame i).compareInterfacedata r frame (b.ports i).linkCost = .WORSE_PORT) :
        (b.updateInterfacedata frame i).Heard i := hle (le_of_eq (rootId_of_worse hcmp).symm)
    rw [updateInterfacedata_linkCost]
    split
    · next hcmp =>
      have hsame := compare_similar.mp hcmp
      exact .ok ((hle (le_of_eq (by rw [hsame]))).similarToRoot hrc)
    · next hcmp => exact .ok (hwins _ (by decide) hcmp).resetForRoot.becomeRoot
    iterate 3
      next hcmp => exact .map ((hwins _ (by decide) hcmp).betterRoute hrc (hne _ (by decide) hcmp))
    · exact .ok (Lawful.sendBPDU ⟨hlaws, Or.inl ⟨r, hrc⟩⟩)
    · next hcmp => exact .map ((hworse (Or.inl hcmp)).worseRoute hrc (hne _ (by decide) hcmp))
    · next hcmp => exact .map ((hworse (Or.inr (Or.inl hcmp))).worseRoute hrc (hne _ (by decide) hcmp))
    · next hcmp => exact .map ((hworse (Or.inr (Or.inr hcmp))).worseRoute hrc (hne _ (by decide) hcmp))

/-- The alternate port `k` takes the place of a root port. -/
theorem Lawful.becomeRoot (h : b.AllLaw) (hk : (b.ports k).role = .ALTERNATE)
    (hf : (f (b.ports k)).role = .ROOT ∧ (f (b.ports k)).state = .FORWARDING)
    (hsame : (f (b.ports k)).edge = (b.ports k).edge ∧ (f (b.ports k)).toPriorityVector = (b.ports k).toPriorityVector) :
    (b.setPort k f).Lawful := by
  refine ⟨h.setPort (law_root hf.1 hf.2 ?_ ?_), Or.inl ⟨k, by simpa using hf.1⟩⟩
  · rw [hsame.1]
    exact h.not_edge (by simp [hk])
  · rw [hsame.2]
    exact (h k).below (Or.inr hk)

section

variable (h : b.Lawful)
include h

theorem Lawful.worseRootOnRoot (he : (b.ports i).edge = false) (hroot : frame.rootAddress ≠ b.bridgeAddress)
    (hi : (b.ports i).role = .ROOT) : (b.worseRootOnRoot frame i).1.Lawful := by
  unfold RSTP.worseRootOnRoot
  split
  · next k hk =>
    have hkrole := (getBestAlternate_some hk).1
    have hki : k ≠ i := by
      rintro rfl
      rw [hkrole] at hi
      cases hi
    have hd : (b.toDesignated i).flushOtherPorts.AllLaw := by
      have hset : (b.setPort i fun p =>
          { p with role := .DESIGNATED, state := .DISCARDING, nextUpgrade := b.simTime + b.forwardDelay }).AllLaw :=
        h.laws.setPort (law_designated rfl)
      exact hset.congr rfl fun _ => ⟨rfl, rfl, rfl, rfl⟩
    have hkd : ((b.toDesignated i).flushOtherPorts.ports k).role = .ALTERNATE := by
      rw [flushOtherPorts_role, toDesignated_ports, setPort_ports, if_neg hki, hkrole]
    have hkroot : (((b.toDesignated i).flushOtherPorts.setPort k fun p =>
        { p with role := .ROOT, state := .FORWARDING })).Lawful := Lawful.becomeRoot hd hkd ⟨rfl, rfl⟩ ⟨rfl, rfl⟩
    refine Lawful.sendBPDU ⟨hkroot.laws.updateInterfacedata fun hrole => ?_, Or.inl ?_⟩
    · simp [hki.symm, toDesignated_ports] at hrole
    · exact Rooted.updateInterfacedata ⟨k, by simp⟩
  · next hnone =>
    dsimp only
    have hinit := initPorts_lawful b
    split
    · next hbetter =>
      rw [compareInterfacedata_pos] at hbetter
      have halone := hinit.alone (getRootIndex_none.mpr fun j => (initPorts_ports b j).2.1)
      have hbase : b.initPorts.toSTPBase = b.toSTPBase := by
        refine (foldl_keeps (p := fun c : RSTP n => c.toSTPBase = b.toSTPBase) (fun c j hc => ?_) _ rfl :
          (RSTP.toSTPBase _) = _)
        exact hc
      have hid : b.initPorts.bridgeAddress = b.bridgeAddress := by rw [hbase]
      have hle := rootId_le_of_key hbetter.le
      rw [(halone i).1, ownVector_rootId] at hle
      have hlt := lt_of_le_of_ne hle (rootId_ne (by rw [hid]; exact hroot))
      have hedge : (b.initPorts.ports i).edge = false := by
        have hport := foldl_keeps (p := fun c : RSTP n => (c.ports i).edge = (b.ports i).edge)
          (f := fun b j => RSTP.initInterfacedata (b.setPort j fun p =>
            if ¬ p.edge then
              { p with role := .NOTASSIGNED, state := .DISCARDING, nextUpgrade := b.simTime + b.migrateTime }
            else { p with role := .DESIGNATED, state := .FORWARDING }) j)
          (fun c j hc => by
            by_cases hij : i = j
            · subst hij
              simp only [RSTP.initInterfacedata, setPort_ports, if_true]
              split <;> exact hc
            · simpa [RSTP.initInterfacedata, hij] using hc) (List.finRange n) (s := b) rfl
        exact hport.trans he
      refine ⟨AllLaw.setPort (hinit.laws.updateInterfacedata fun hrole => ?_) (law_root rfl rfl ?_ ?_), Or.inl ⟨i, by simp⟩⟩
      · cases hrole with
        | inl hr => exact absurd hr (initPorts_ports b i).2.1
        | inr hr => exact absurd hr (initPorts_ports b i).2.2
      · rw [updateInterfacedata_edge, hedge]
      · rw [updateInterfacedata_vector]
        exact hlt
    · exact hinit

theorem Lawful.changeRoot (hi : (b.ports i).role = .ROOT) (hk : (b.ports k).role = .ALTERNATE)
    (hid : (frame.over (b.ports i).linkCost).rootId < b.bridgeId) :
    Ensures (b.changeRoot frame i k) fun c => (c.updateInterfacedata frame i).Lawful := by
  have hki : k ≠ i := by
    rintro rfl
    rw [hk] at hi
    cases hi
  have he := h.laws.not_edge (i := i) (by simp [hi])
  have hroot : (b.setPort k fun p => { p with role := .ROOT, state := .FORWARDING }).Lawful :=
    Lawful.becomeRoot h.laws hk ⟨rfl, rfl⟩ ⟨rfl, rfl⟩
  refine .bind_any fun case3 => .ite (fun _ => .pure ?_) fun _ => .pure ?_
  · unfold RSTP.toDesignated
    rw [setPort_setPort]
    refine ⟨AllLaw.updateInterfacedata ?_ fun hrole => ?_, Or.inl (Rooted.updateInterfacedata ⟨k, by simp [hki]⟩)⟩
    · exact AllLaw.congr (hroot.laws.setPort (law_designated rfl)) rfl fun _ => ⟨rfl, rfl, rfl, rfl⟩
    · simp at hrole
  · rw [setPort_setPort]
    refine ⟨AllLaw.updateInterfacedata ?_ fun _ => ?_, Or.inl (Rooted.updateInterfacedata ⟨k, by simp [hki]⟩)⟩
    · refine AllLaw.congr (hroot.laws.setPort (law_alternate rfl rfl ?_ ?_)) rfl fun _ => ⟨rfl, rfl, rfl, rfl⟩
      · simpa [hki.symm] using he
      · simpa [hki.symm] using (h.laws i).below (Or.inl hi)
    · simpa [hki.symm] using hid

theorem Lawful.worseRouteOnRoot (hi : (b.ports i).role = .ROOT)
    (hid : (frame.over (b.ports i).linkCost).rootId < b.bridgeId) :
    Ensures (b.worseRouteOnRoot frame i) fun c => (c.updateInterfacedata frame i).Lawful := by
  have hl : (b.setPort i fun p => { p with lostBPDU := 0 }).Lawful := h.lostBPDU
  have hir : ((b.setPort i fun p => { p with lostBPDU := 0 }).ports i).role = .ROOT := by simpa using hi
  have hidl : (frame.over ((b.setPort i fun p => { p with lostBPDU := 0 }).ports i).linkCost).rootId <
      (b.setPort i fun p => { p with lostBPDU := 0 }).bridgeId := by simpa using hid
  unfold RSTP.worseRouteOnRoot
  dsimp only
  generalize (b.setPort i fun p => { p with lostBPDU := 0 }) = c at hl hir hidl ⊢
  have hkeep : (c.updateInterfacedata frame i).Lawful :=
    ⟨hl.laws.updateInterfacedata fun _ => hidl, Or.inl (Rooted.updateInterfacedata ⟨i, hir⟩)⟩
  split
  · next k hk => exact .ite (fun _ => hl.changeRoot hir (getBestAlternate_some hk).1 hidl) fun _ => .ok hkeep
  · exact .ok hkeep

theorem Lawful.worseRouteOnAlternate (hi : (b.ports i).role = .ALTERNATE)
    (hid : (frame.over (b.ports i).linkCost).rootId < b.bridgeId) :
    Ensures (b.worseRouteOnAlternate frame i) fun c => (c.updateInterfacedata frame i).Lawful := by
  obtain ⟨r, hr⟩ := h.rooted (Or.inr hi)
  have hri : r ≠ i := by
    rintro rfl
    rw [hr] at hi
    cases hi
  refine .bind_any fun case2 => .ite (fun _ => .pure ?_) fun _ => .pure ?_
  · have hd : ((b.toDesignated i).sendBPDU i).Lawful := (h.toDesignated (by simp [hi])).sendBPDU
    have hrd : (((b.toDesignated i).sendBPDU i).ports r).role = .ROOT := by
      rw [sendBPDU_ports, toDesignated_ports, setPort_ports, if_neg hri, hr]
    refine ⟨hd.laws.updateInterfacedata fun hrole => ?_, Or.inl (Rooted.updateInterfacedata ⟨r, hrd⟩)⟩
    simp [toDesignated_ports] at hrole
  · refine ⟨h.lostBPDU.laws.updateInterfacedata fun _ => ?_, Or.inl (Rooted.updateInterfacedata ⟨r, ?_⟩)⟩
    · simpa using hid
    · simpa [hri] using hr

/-- A frame of the same source comes to a port that has heard of a root. -/
theorem Lawful.processSameSource (he : (b.ports i).edge = false)
    (hroot : frame.rootAddress ≠ b.bridgeAddress) (hother : frame.bridgeAddress ≠ b.bridgeAddress)
    (hsource : frame.bridgeAddress = (b.ports i).bridgeAddress) :
    Ensures (b.processSameSource frame i) fun result => result.1.Lawful := by
  have hrooted : b.Rooted := by
    cases h.roots with
    | inl hr => exact hr
    | inr ha =>
      rw [(ha i).1] at hsource
      exact absurd hsource hother
  have hworse (hcmp : b.compareInterfacedata i frame (b.ports i).linkCost = .WORSE_RPC ∨
      b.compareInterfacedata i frame (b.ports i).linkCost = .WORSE_SRC ∨
      b.compareInterfacedata i frame (b.ports i).linkCost = .WORSE_PORT)
      (hrole : (b.ports i).role = .ROOT ∨ (b.ports i).role = .ALTERNATE) :
      (frame.over (b.ports i).linkCost).rootId < b.bridgeId := by
    have hbelow := (h.laws i).below hrole
    have hsame := rootId_of_worse hcmp
    rw [hsame] at hbelow
    exact hbelow
  have hroute (hcmp : b.compareInterfacedata i frame (b.ports i).linkCost = .WORSE_RPC ∨
      b.compareInterfacedata i frame (b.ports i).linkCost = .WORSE_SRC ∨
      b.compareInterfacedata i frame (b.ports i).linkCost = .WORSE_PORT) :
      Ensures (if (b.ports i).role = .ROOT then
          (b.worseRouteOnRoot frame i).map fun b => (b.updateInterfacedata frame i, true)
        else if (b.ports i).role = .ALTERNATE then
          (b.worseRouteOnAlternate frame i).map fun b => (b.updateInterfacedata frame i, false)
        else .ok (b.updateInterfacedata frame i, false)) fun result => result.1.Lawful := by
    refine .ite (fun hi => .map ?_) fun hi => .ite (fun halt => .map ?_) fun halt => .ok ?_
    · exact h.worseRouteOnRoot hi (hworse hcmp (Or.inl hi))
    · exact h.worseRouteOnAlternate halt (hworse hcmp (Or.inr halt))
    · exact ⟨h.laws.updateInterfacedata fun hrole => absurd hrole (not_or.mpr ⟨hi, halt⟩), Or.inl hrooted.updateInterfacedata⟩
  unfold RSTP.processSameSource
  split
  · have hl : (b.setPort i fun p => { p with lostBPDU := 0 }).Lawful := h.lostBPDU
    exact .ok hl
  · refine .ite (fun hi => .ok (h.worseRootOnRoot he hroot hi)) fun hi => .ite (fun halt => .ok ?_) fun _ => .ok h
    obtain ⟨r, hr⟩ := hrooted
    have hri : r ≠ i := by
      rintro rfl
      exact hi hr
    have hd : (b.toDesignated i).Lawful := h.toDesignated hi
    have hrd : ((b.toDesignated i).ports r).role = .ROOT := by
      rw [toDesignated_ports, setPort_ports, if_neg hri, hr]
    refine Lawful.sendBPDU ⟨hd.laws.updateInterfacedata fun hrole => ?_, Or.inl (Rooted.updateInterfacedata ⟨r, hrd⟩)⟩
    simp [toDesignated_ports] at hrole
  · next hcmp => exact hroute (Or.inl hcmp)
  · next hcmp => exact hroute (Or.inr (Or.inl hcmp))
  · next hcmp => exact hroute (Or.inr (Or.inr hcmp))
  all_goals exact .ok h

theorem Lawful.processBPDU (he : (b.ports i).edge = false) (hother : frame.bridgeAddress ≠ b.bridgeAddress) :
    Ensures (b.processBPDU frame i) Lawful := by
  have hchallenge : Ensures (b.challenge frame i) fun result => result.1.Lawful := by
    refine .ite (fun hb => h.processBetterSource he hb.2 hb.1) fun _ => .ite (fun hs => ?_) fun _ => .ok h
    exact h.processSameSource he hs.2 hother hs.1
  refine .map (hchallenge.mono fun result hresult => ?_)
  dsimp only
  split
  · exact hresult.sendBPDUs.sendTCNtoRoot
  · exact hresult

end

/-- BPDUs come from other bridges, and not on edge ports. -/
def FromOthers (b : RSTP n) : Event n → Prop
  | .bpdu frame src i => (b.ports i).edge = false ∧ src ≠ b.bridgeAddress ∧ frame.bridgeAddress ≠ b.bridgeAddress
  | _ => True

section

variable (h : b.Lawful)
include h

theorem Lawful.helloPort : (b.helloPort i).Lawful := by
  unfold RSTP.helloPort
  split
  · next hwaits =>
    have hl : (b.setPort i fun p => { p with lostBPDU := p.lostBPDU + 1 }).Lawful := h.lostBPDU
    dsimp only
    generalize (b.setPort i fun p => { p with lostBPDU := p.lostBPDU + 1 }) = c at hl ⊢
    split
    · refine Lawful.lostBPDU ?_
      split
      · next hroot =>
        split
        · next k hk =>
          have hkrole := (getBestAlternate_some hk).1
          have hki : k ≠ i := by
            rintro rfl
            rw [hkrole] at hroot
            cases hroot
          have hd : ((c.toDesignated i).initInterfacedata i).AllLaw := by
            have hset : (c.toDesignated i).AllLaw := by
              refine AllLaw.congr (hl.laws.setPort (i := i) (f := fun p =>
                { p with role := .DESIGNATED, state := .DISCARDING, nextUpgrade := c.simTime + c.forwardDelay })
                (law_designated rfl)) rfl fun _ => ⟨rfl, rfl, rfl, rfl⟩
            refine hset.setPort (law_designated ?_)
            simp [toDesignated_ports]
          refine Lawful.flushOtherPorts (Lawful.becomeRoot hd ?_ ⟨rfl, rfl⟩ ⟨rfl, rfl⟩)
          simp [RSTP.initInterfacedata, toDesignated_ports, hki, hkrole]
        · exact initPorts_lawful c
      · next hroot =>
        -- the port that gives up is not the root port
        have hd : (c.toDesignated i).Lawful := hl.toDesignated hroot
        have hrole : ((c.toDesignated i).ports i).role = .DESIGNATED := by simp [toDesignated_ports]
        refine ⟨hd.laws.setPort (law_designated (by simpa using hrole)), ?_⟩
        cases hd.roots with
        | inl hr =>
          obtain ⟨r, hr⟩ := hr
          have hri : r ≠ i := by
            rintro rfl
            rw [hrole] at hr
            cases hr
          exact .inl ⟨r, by simpa [RSTP.initInterfacedata, hri] using hr⟩
        | inr ha =>
          refine .inr fun j => ?_
          by_cases hj : j = i
          · subst hj
            simp only [RSTP.initInterfacedata, setPort_ports, if_true]
            exact ⟨rfl, by simp [hrole]⟩
          · simp only [RSTP.initInterfacedata, setPort_ports, hj, if_false]
            exact ha j
    · exact hl
  · exact h

theorem Lawful.handleHelloTime : b.handleHelloTime.Lawful := by
  have hloop : ((List.finRange n).foldl RSTP.helloPort b).Lawful :=
    foldl_keeps (p := Lawful) (fun _ _ hc => hc.helloPort) _ h
  exact hloop.sendBPDUs.sendTCNtoRoot.congr rfl fun _ => ⟨rfl, rfl, rfl, rfl⟩

theorem Lawful.handleUpgrade : b.handleUpgrade.Lawful := by
  unfold RSTP.handleUpgrade
  refine Lawful.scheduleNextUpgrde (foldl_keeps (p := Lawful) (fun c i hc => ?_) _ h)
  split
  · split
    · next hrole => exact hc.setPort (law_designated rfl) (by simp [hrole]) (Or.inr ⟨by simp, rfl⟩)
    · split
      · next hrole =>
        split
        · exact hc.setPort (law_designated hrole) (by simp [hrole]) (Or.inr ⟨by simp [hrole], rfl⟩)
        · split
          · exact Lawful.flushOtherPorts
              (hc.setPort (law_designated hrole) (by simp [hrole]) (Or.inr ⟨by simp [hrole], rfl⟩))
          · exact hc
      · exact hc
  · exact hc

theorem Lawful.receiveChangeNotification : (b.receiveChangeNotification i).Lawful := by
  unfold RSTP.receiveChangeNotification
  split
  · refine Lawful.scheduleNextUpgrde (h.congr ?_ fun j => ?_)
    · split
      · rfl
      · split <;> rfl
    · split
      · rw [setPort_ports]
        split <;> exact ⟨rfl, rfl, rfl, rfl⟩
      · split
        · rw [setPort_ports]
          split <;> exact ⟨rfl, rfl, rfl, rfl⟩
        · exact ⟨rfl, rfl, rfl, rfl⟩
  · exact h

theorem Lawful.handleMessage {event : Event n} (hothers : b.FromOthers event) :
    Ensures (b.handleMessage event) Lawful := by
  cases event with
  | bpdu frame src i =>
    obtain ⟨he, hsrc, hother⟩ := hothers
    have htc : (b.checkTC frame i).Lawful := by
      refine h.congr ?_ fun j => ?_
      · unfold RSTP.checkTC
        split <;> rfl
      · obtain ⟨t, ht⟩ := checkTC_port b frame i j
        rw [ht]
        exact ⟨rfl, rfl, rfl, rfl⟩
    have hedge : ((b.checkTC frame i).ports i).edge = false := by
      obtain ⟨t, ht⟩ := checkTC_port b frame i i
      rw [ht]
      exact he
    refine .ite (fun _ => .ite (fun hown => ?_) fun _ => ?_) fun _ => .ok h
    · rw [checkTC_bridgeAddress] at hown
      exact absurd hown hsrc
    · exact htc.processBPDU hedge (by rw [checkTC_bridgeAddress]; exact hother)
  | helloTimer => exact .ite (fun _ => .ok (Lawful.handleHelloTime (h.congr rfl fun _ => ⟨rfl, rfl, rfl, rfl⟩))) fun _ => .error
  | upgradeTimer => exact .ite (fun _ => .ok (Lawful.handleUpgrade (h.congr rfl fun _ => ⟨rfl, rfl, rfl, rfl⟩))) fun _ => .error
  | interfaceStateChanged i hasCarrier =>
    exact .ok (Lawful.receiveChangeNotification (h.congr rfl fun _ => ⟨rfl, rfl, rfl, rfl⟩))
  | elapse simTime => exact .ite (fun _ => .ok (h.congr rfl fun _ => ⟨rfl, rfl, rfl, rfl⟩)) fun _ => .error

/-- BPDUs of other bridges keep the roles in order. -/
theorem Lawful.sound {event : Event n} (hothers : b.FromOthers event) : b.Sound event := by
  cases event with
  | bpdu frame src i =>
    intro _ _ _ _
    constructor
    · intro r _ _ j _ hedge hroot
      rw [(h.laws j).edge hedge] at hroot
      cases hroot
    · intro hnone j _ halt
      exact absurd halt (h.alone hnone j).2
  | helloTimer => trivial
  | upgradeTimer => trivial
  | interfaceStateChanged i hasCarrier => trivial
  | elapse simTime => trivial

end

/-- The states of a bridge that hears other bridges. -/
def Reached (b : RSTP n) : Prop :=
  ∃ (start : RSTP n) (events : List (Event n)), Runs.EveryStep handleMessage FromOthers start.initialized events ∧
    Runs.run handleMessage start.initialized events = .ok b

theorem Reached.kept (h : b.Reached) : b.Kept := by
  obtain ⟨start, events, hothers, hrun⟩ := h
  have hstates := hothers.everyState (s := start.initialized) (p := fun c : RSTP n => c.Lawful ∧ RolesOk c.ports)
    (fun c event c' hc hs hstep => ⟨hc.1.handleMessage hs c' hstep, hc.2.handleMessage (hc.1.sound hs) c' hstep⟩)
    ⟨(initPorts_lawful start).congr rfl fun _ => ⟨rfl, rfl, rfl, rfl⟩, initPorts_rolesOk start⟩
  obtain ⟨hlawful, hroles⟩ := hstates events b (List.prefix_refl _) hrun
  exact
    { oneRoot := hroles.oneRoot
      rootBest := hroles.rootBest
      rootForwards := fun i => (hlawful.laws i).root
      alternateDiscards := fun i => (hlawful.laws i).alternate
      noBackup := fun i => (hlawful.laws i).backup
      edges := fun i => (hlawful.laws i).edge
      rootBetter := fun i hi => by
        have hbelow := (hlawful.laws i).below (Or.inl hi)
        refine lt_of_not_ge fun hge => absurd (rootId_le_of_key hge) (not_le.mpr ?_)
        rwa [ownVector_rootId] }

end RSTP

end Inet.Ieee8021d
