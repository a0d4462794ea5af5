import Inetmanet.Ieee8021d.UpgradeTimer
import Inetmanet.Lib.Runs

/-!
# Port roles of an RSTP bridge

At most one port is the root port, and no alternate port is better. A BPDU breaks
this in two ways: a better root leaves an edge port in its `ROOT` role, and a bridge
that has lost its root port takes the arrival port without asking the alternate ones.
-/
namespace Inet.Ieee8021d

open IndexLoops

/-- Only root and designated ports let frames through. -/
def PortInfo.StateOk (p : PortInfo) : Prop := p.state ≠ .DISCARDING → p.role = .ROOT ∨ p.role = .DESIGNATED

namespace RSTP

/-- The roles of the ports of a bridge. -/
structure RolesOk {n : Nat} (ports : Fin n → PortInfo) : Prop where
  states : ∀ i, (ports i).StateOk
  oneRoot : ∀ i j, (ports i).role = .ROOT → (ports j).role = .ROOT → i = j
  rootBest : ∀ i j, (ports i).role = .ROOT → (ports j).role = .ALTERNATE → (ports i).key ≤ (ports j).key

namespace RolesOk

variable {n : Nat} {p q : Fin n → PortInfo} {k : Fin n}

/-- A change that makes no new root port, no new alternate port, no alternate port better and no root port worse. -/
theorem of_fewer (h : RolesOk p) (hs : ∀ i, (q i).StateOk)
    (hr : ∀ i, (q i).role = .ROOT → (p i).role = .ROOT ∧ (q i).key ≤ (p i).key)
    (ha : ∀ i, (q i).role = .ALTERNATE → (p i).role = .ALTERNATE ∧ (p i).key ≤ (q i).key) : RolesOk q where
  states := hs
  oneRoot i j hi hj := h.oneRoot i j (hr i hi).1 (hr j hj).1
  rootBest i j hi hj := (hr i hi).2.trans ((h.rootBest i j (hr i hi).1 (ha j hj).1).trans (ha j hj).2)

theorem of_root (k : Fin n) (hs : ∀ i, (q i).StateOk) (hr : ∀ i, (q i).role = .ROOT → i = k)
    (ha : ∀ j, (q j).role = .ALTERNATE → (q k).key ≤ (q j).key) : RolesOk q where
  states := hs
  oneRoot i j hi hj := (hr i hi).trans (hr j hj).symm
  rootBest i j hi hj := hr i hi ▸ ha j hj

theorem congr (h : RolesOk p) (hrole : ∀ i, (q i).role = (p i).role) (hstate : ∀ i, (q i).state = (p i).state)
    (hvec : ∀ i, (q i).toPriorityVector = (p i).toPriorityVector) : RolesOk q := by
  refine h.of_fewer (fun i => ?_) (fun i hi => ?_) (fun i hi => ?_)
  · unfold PortInfo.StateOk
    rw [hrole, hstate]
    exact h.states i
  · rw [hvec]
    exact ⟨hrole i ▸ hi, le_rfl⟩
  · rw [hvec]
    exact ⟨hrole i ▸ hi, le_rfl⟩

end RolesOk

variable {n : Nat} {b : RSTP n} {i j k r : Fin n} {f : PortInfo → PortInfo} {frame : BPDU}

/-- The BPDU leaves one root port, the best one. -/
structure RootKept (b : RSTP n) (frame : BPDU) (i : Fin n) : Prop where
  edges : ∀ r, b.getRootIndex = some r → b.compareInterfacedata r frame (b.ports i).linkCost = .BETTER_ROOT →
    ∀ j, j ≠ i → (b.ports j).edge → (b.ports j).role ≠ .ROOT
  alternates : b.getRootIndex = none → ∀ j, j ≠ i → (b.ports j).role = .ALTERNATE →
    0 ≤ (b.compareInterfacedata j frame (b.ports i).linkCost).toInt

/-- What a bridge may receive. -/
def Sound (b : RSTP n) : Event n → Prop
  | .bpdu frame src i => frame.messageAge < b.maxAge → src ≠ b.bridgeAddress → frame.rootAddress ≠ b.bridgeAddress →
      0 < (b.compareInterfacedata i frame (b.ports i).linkCost).toInt → b.RootKept frame i
  | _ => True

/-- The invariant of the port roles. -/
structure RoleInvariant (b : RSTP n) : Prop where
  oneRoot : ∀ i j, (b.ports i).role = .ROOT → (b.ports j).role = .ROOT → i = j
  forwarding : ∀ i, (b.ports i).state = .FORWARDING ∨ (b.ports i).state = .LEARNING →
    (b.ports i).role = .ROOT ∨ (b.ports i).role = .DESIGNATED
  discarding : ∀ i, (b.ports i).role ∈ [.ALTERNATE, .BACKUP, .DISABLED, .NOTASSIGNED] → (b.ports i).state = .DISCARDING
  rootBest : ∀ i j, (b.ports i).role = .ROOT → (b.ports j).role = .ALTERNATE →
    (compareRSTPData (b.ports i).toPriorityVector (b.ports j).toPriorityVector).toInt ≤ 0
  upgrade : ∀ i, b.hasCarrier i → (b.ports i).role = .NOTASSIGNED ∨
      (b.ports i).role = .DESIGNATED ∧ (b.ports i).state ≠ .FORWARDING →
    ∃ t, b.upgradeTimer = some t ∧ b.simTime ≤ t ∧ t ≤ (b.ports i).nextUpgrade

theorem PortInfo.upgrading_iff {p : PortInfo} :
    p.Upgrading ↔ p.role = .NOTASSIGNED ∨ p.role = .DESIGNATED ∧ p.state ≠ .FORWARDING := by
  unfold PortInfo.Upgrading
  cases p.state <;> simp

theorem roleInvariant_of (hroles : RolesOk b.ports) (hcovered : b.Covered) : b.RoleInvariant where
  oneRoot := hroles.oneRoot
  forwarding i hi := hroles.states i (by rintro hd; simp [hd] at hi)
  discarding i hi := by
    by_contra hd
    cases hroles.states i hd with
    | inl h => simp [h] at hi
    | inr h => simp [h] at hi
  rootBest i j hi hj := compare_le.mpr (hroles.rootBest i j hi hj)
  upgrade i hc hi := hcovered i hc (PortInfo.upgrading_iff.mpr hi)

@[simp] theorem sendBPDU_ports : (b.sendBPDU i).ports = b.ports := by
  unfold sendBPDU
  split <;> rfl

@[simp] theorem sendBPDUs_ports : b.sendBPDUs.ports = b.ports := by
  refine foldl_keeps (p := fun c : RSTP n => c.ports = b.ports) (fun c i hc => ?_) _ rfl
  split
  · rw [sendBPDU_ports, hc]
  · exact hc

@[simp] theorem sendTCNtoRoot_ports : b.sendTCNtoRoot.ports = b.ports := by
  unfold sendTCNtoRoot
  split
  · rfl
  · split <;> rfl

theorem toDesignated_ports : (b.toDesignated i).ports = (b.setPort i fun p =>
    { p with role := .DESIGNATED, state := .DISCARDING, nextUpgrade := b.simTime + b.forwardDelay }).ports := rfl

@[simp] theorem flushOtherPorts_role : (b.flushOtherPorts.ports i).role = (b.ports i).role := rfl
@[simp] theorem flushOtherPorts_vector :
    (b.flushOtherPorts.ports i).toPriorityVector = (b.ports i).toPriorityVector := rfl

/-- Whatever is done to a port's role and state, it is set so that frames pass only in the right roles. -/
theorem stateOk_setPort (h : ∀ j, (b.ports j).StateOk) (hf : (f (b.ports i)).StateOk) (j : Fin n) :
    ((b.setPort i f).ports j).StateOk := by
  rw [setPort_ports]
  by_cases hj : j = i
  · subst hj
    rwa [if_pos rfl]
  · rw [if_neg hj]
    exact h j

theorem getRootIndex_congr {c : RSTP n} (h : ∀ i, (c.ports i).role = (b.ports i).role) :
    c.getRootIndex = b.getRootIndex := by
  unfold getRootIndex
  simp only [h]

/-- Every port starts again, without root and alternate port. -/
theorem initPorts_ports (b : RSTP n) (i : Fin n) :
    (b.initPorts.ports i).StateOk ∧ (b.initPorts.ports i).role ≠ .ROOT ∧ (b.initPorts.ports i).role ≠ .ALTERNATE := by
  obtain ⟨c, hc, -, -, hports⟩ := b.initPorts_eq
  rw [hc, scheduleNextUpgrde_ports, hports, initPort]
  unfold PortInfo.StateOk
  split <;> simp

/-- What the loop of a better root leaves of a port. -/
theorem resetForRoot_ports (b : RSTP n) (i j : Fin n) :
    ((b.resetForRoot i).ports j).role = (if j = i ∨ (b.ports j).edge then (b.ports j).role else .NOTASSIGNED) ∧
    ((b.resetForRoot i).ports j).state = (if j = i ∨ (b.ports j).edge then (b.ports j).state else .DISCARDING) ∧
    (j = i ∨ (b.ports j).edge → ((b.resetForRoot i).ports j).toPriorityVector = (b.ports j).toPriorityVector) := by
  have rule := foldl_rule (l := List.finRange n) (s := b)
    (f := fun b j => if ¬ (b.ports j).edge then
      let b := if (b.ports i).state ≠ .FORWARDING then
          b.setPort j fun p => { p with TCWhile := b.simTime + b.tcWhileTime } else b
      if j ≠ i then
        let b := b.setPort j fun p =>
          { p with role := .NOTASSIGNED, state := .DISCARDING, nextUpgrade := b.simTime + b.migrateTime }
        b.scheduleNextUpgrde.initInterfacedata j
      else b
    else b)
    (I := fun l c => l.Nodup ∧ ∀ j, (c.ports j).edge = (b.ports j).edge ∧
      if j ∈ l ∨ j = i ∨ (b.ports j).edge then
        (c.ports j).role = (b.ports j).role ∧ (c.ports j).state = (b.ports j).state ∧
          (c.ports j).toPriorityVector = (b.ports j).toPriorityVector
      else (c.ports j).role = .NOTASSIGNED ∧ (c.ports j).state = .DISCARDING) ?_ ?_
  · have hj := (rule.2 j).2
    unfold RSTP.resetForRoot
    by_cases h : j = i ∨ (b.ports j).edge
    · rw [if_pos (Or.inr h)] at hj
      rw [if_pos h, if_pos h]
      exact ⟨hj.1, hj.2.1, fun _ => hj.2.2⟩
    · rw [if_neg (by simpa using h)] at hj
      rw [if_neg h, if_neg h]
      exact ⟨hj.1, hj.2, fun h' => absurd h' h⟩
  · intro c k l ⟨hnodup, h⟩
    have hk := List.nodup_cons.mp hnodup
    refine ⟨hk.2, fun j => ?_⟩
    have hj := h j
    by_cases hjk : j = k
    · split_ifs <;> simp_all [RSTP.initInterfacedata]
    · split_ifs <;> simp_all [RSTP.initInterfacedata]
  · exact ⟨List.nodup_finRange n, fun j => by simp⟩

/-- Port `i` has a new vector; `r` is the root port. -/
structure Arrived (b : RSTP n) (r i : Fin n) : Prop where
  states : ∀ j, (b.ports j).StateOk
  root : (b.ports r).role = .ROOT
  one : ∀ j, (b.ports j).role = .ROOT → j = r

/-- The new vector is the best one. -/
structure Wins (b : RSTP n) (r i : Fin n) : Prop extends Arrived b r i where
  better : (b.ports i).key ≤ (b.ports r).key
  alternates : ∀ j, j ≠ i → (b.ports j).role = .ALTERNATE → (b.ports i).key ≤ (b.ports j).key

/-- The root port has a better one. -/
structure Loses (b : RSTP n) (r i : Fin n) : Prop extends Arrived b r i where
  other : r ≠ i
  worse : (b.ports r).key ≤ (b.ports i).key
  alternates : ∀ j, j ≠ i → (b.ports j).role = .ALTERNATE → (b.ports r).key ≤ (b.ports j).key

theorem Wins.flushOtherPorts (h : b.Wins r i) : b.flushOtherPorts.Wins r i where
  states := h.states
  root := h.root
  one := h.one
  better := h.better
  alternates := h.alternates

theorem Wins.flushIf {c : Prop} [Decidable c] (h : b.Wins r i) : (if c then b.flushOtherPorts else b).Wins r i := by
  split
  · exact h.flushOtherPorts
  · exact h

/-- The old root port stays out of the way. -/
theorem Wins.becomeRoot (h : b.Wins r i) (hf : (f (b.ports r)).StateOk) (hrole : (f (b.ports r)).role ≠ .ROOT)
    (hvec : (f (b.ports r)).toPriorityVector = (b.ports r).toPriorityVector) :
    RolesOk ((b.setPort r f).becomeRoot i).ports := by
  have hstates := stateOk_setPort h.states hf
  refine .of_root i (stateOk_setPort hstates (by simp [PortInfo.StateOk])) (fun j hj => ?_) (fun j hj => ?_)
  · by_contra hji
    simp only [RSTP.becomeRoot, setPort_ports, hji, if_false] at hj
    by_cases hjr : j = r
    · subst hjr
      exact hrole (by simpa using hj)
    · exact hjr (h.one j (by simpa [hjr] using hj))
  · have hji : j ≠ i := by
      rintro rfl
      simp [RSTP.becomeRoot] at hj
    simp only [RSTP.becomeRoot, setPort_ports, hji, if_false, if_true] at hj ⊢
    by_cases hir : i = r
    · subst hir
      simp only [hji, if_false, if_true] at hj ⊢
      rw [hvec]
      exact h.alternates j hji hj
    · by_cases hjr : j = r
      · subst hjr
        simp only [hir, if_false, if_true] at hj ⊢
        rw [hvec]
        exact h.better
      · simp only [hir, hjr, if_false] at hj ⊢
        exact h.alternates j hji hj

/-- The arrival port gets a role in which it does not compete. -/
theorem Loses.setPort (h : b.Loses r i) (hf : (f (b.ports i)).StateOk) (hrole : (f (b.ports i)).role ≠ .ROOT)
    (hvec : (f (b.ports i)).toPriorityVector = (b.ports i).toPriorityVector) : RolesOk (b.setPort i f).ports := by
  refine .of_root r (stateOk_setPort h.states hf) (fun j hj => ?_) (fun j hj => ?_)
  · by_cases hji : j = i
    · subst hji
      exact absurd (by simpa using hj) hrole
    · exact h.one j (by simpa [hji] using hj)
  · rw [setPort_ports, setPort_ports, if_neg h.other]
    by_cases hji : j = i
    · subst hji
      rw [if_pos rfl, hvec]
      exact h.worse
    · rw [if_neg hji]
      exact h.alternates j hji (by simpa [hji] using hj)

theorem Wins.similarToRoot (h : b.Wins r i) (hsame : (b.ports r).toPriorityVector = (b.ports i).toPriorityVector) :
    RolesOk (b.similarToRoot r i).ports := by
  unfold RSTP.similarToRoot
  split
  · next hlocal =>
    have hri : r ≠ i := by
      rintro rfl
      simp at hlocal
    have hl : b.Loses r i :=
      { h.toArrived with
        other := hri
        worse := le_of_eq (by rw [hsame])
        alternates := fun j hji hj => hsame ▸ h.alternates j hji hj }
    exact hl.setPort (by simp [PortInfo.StateOk]) (by simp) rfl
  · exact h.flushIf.becomeRoot (by simp [PortInfo.StateOk]) (by simp) rfl

theorem Wins.resetForRoot (h : b.Wins r i) (hedges : ∀ j, j ≠ i → (b.ports j).edge → (b.ports j).role ≠ .ROOT) :
    RolesOk ((b.resetForRoot i).becomeRoot i).ports := by
  have hstates : ∀ j, ((b.resetForRoot i).ports j).StateOk := by
    intro j
    obtain ⟨hrole, hstate, -⟩ := resetForRoot_ports b i j
    unfold PortInfo.StateOk
    rw [hrole, hstate]
    split
    · exact h.states j
    · simp
  refine .of_root i (stateOk_setPort hstates (by simp [PortInfo.StateOk])) (fun j hj => ?_) (fun j hj => ?_)
  · by_contra hji
    simp only [RSTP.becomeRoot, setPort_ports, hji, if_false, (resetForRoot_ports b i j).1, false_or] at hj
    split at hj
    · next hedge => exact hedges j hji hedge hj
    · cases hj
  · have hji : j ≠ i := by
      rintro rfl
      simp [RSTP.becomeRoot] at hj
    simp only [RSTP.becomeRoot, setPort_ports, hji, if_false, if_true] at hj ⊢
    rw [(resetForRoot_ports b i i).2.2 (Or.inl rfl)]
    rw [(resetForRoot_ports b i j).1] at hj
    split at hj
    · next hedge =>
      rw [(resetForRoot_ports b i j).2.2 hedge]
      exact h.alternates j hji hj
    · cases hj

theorem setPort_comm {g : PortInfo → PortInfo} (hij : i ≠ j) : (b.setPort i f).setPort j g = (b.setPort j g).setPort i f := by
  unfold RSTP.setPort
  congr 1
  funext k
  by_cases hi : k = i
  · subst hi
    simp [hij]
  · simp [hi]

theorem Wins.betterRoute (h : b.Wins r i) (hri : r ≠ i) :
    Ensures (b.betterRoute r i) fun c => RolesOk c.ports := by
  refine .bind_any fun case3 => .ite (fun _ => .pure ?_) fun _ => .pure ?_
  · rw [setPort_setPort, RSTP.becomeRoot, setPort_comm hri.symm]
    exact h.flushIf.becomeRoot (by simp [PortInfo.StateOk]) (by simp) rfl
  · rw [toDesignated_ports, setPort_setPort, RSTP.becomeRoot, setPort_comm hri.symm]
    exact h.flushIf.becomeRoot (by simp [PortInfo.StateOk]) (by simp) rfl

theorem Loses.sendBPDU (h : b.Loses r i) : RolesOk (b.sendBPDU i).ports := by
  rw [sendBPDU_ports]
  refine .of_root r h.states h.one fun j hj => ?_
  by_cases hji : j = i
  · subst hji
    exact h.worse
  · exact h.alternates j hji hj

theorem Loses.worseRoute (h : b.Loses r i) : Ensures (b.worseRoute frame i) fun c => RolesOk c.ports := by
  refine .bind_any fun case3 => .ite (fun _ => .pure ?_) fun _ => .pure ?_
  · rw [sendBPDU_ports, toDesignated_ports]
    exact h.setPort (by simp [PortInfo.StateOk]) (by simp) rfl
  · exact h.setPort (by simp [PortInfo.StateOk]) (by simp) rfl

@[simp] theorem updateInterfacedata_role : ((b.updateInterfacedata frame i).ports j).role = (b.ports j).role := by
  unfold RSTP.updateInterfacedata
  rw [setPort_ports]
  split <;> rfl

@[simp] theorem updateInterfacedata_state : ((b.updateInterfacedata frame i).ports j).state = (b.ports j).state := by
  unfold RSTP.updateInterfacedata
  rw [setPort_ports]
  split <;> rfl

@[simp] theorem updateInterfacedata_edge : ((b.updateInterfacedata frame i).ports j).edge = (b.ports j).edge := by
  unfold RSTP.updateInterfacedata
  rw [setPort_ports]
  split <;> rfl

@[simp] theorem updateInterfacedata_linkCost :
    ((b.updateInterfacedata frame i).ports j).linkCost = (b.ports j).linkCost := by
  unfold RSTP.updateInterfacedata
  rw [setPort_ports]
  split <;> rfl

@[simp] theorem updateInterfacedata_vector :
    ((b.updateInterfacedata frame i).ports i).toPriorityVector = frame.over (b.ports i).linkCost := by
  simp [RSTP.updateInterfacedata]

theorem updateInterfacedata_vector_ne (hij : j ≠ i) :
    ((b.updateInterfacedata frame i).ports j).toPriorityVector = (b.ports j).toPriorityVector := by
  simp [RSTP.updateInterfacedata, hij]

@[simp] theorem updateInterfacedata_getRootIndex : (b.updateInterfacedata frame i).getRootIndex = b.getRootIndex :=
  getRootIndex_congr fun _ => updateInterfacedata_role

theorem updateInterfacedata_states (h : ∀ j, (b.ports j).StateOk) (j : Fin n) :
    ((b.updateInterfacedata frame i).ports j).StateOk := by
  simpa [PortInfo.StateOk] using h j

/-- With its new vector the arrival port is compared with the root port. -/
theorem arrived_of (h : RolesOk b.ports) (hr : (b.ports r).role = .ROOT) : (b.updateInterfacedata frame i).Arrived r i where
  states := updateInterfacedata_states h.states
  root := by simpa using hr
  one j hj := h.oneRoot j r (by simpa using hj) hr

theorem wins_of (h : RolesOk b.ports) (hr : (b.ports r).role = .ROOT)
    (hbetter : (frame.over (b.ports i).linkCost).key < (b.ports i).key)
    (hle : (frame.over (b.ports i).linkCost).key ≤ ((b.updateInterfacedata frame i).ports r).key) :
    (b.updateInterfacedata frame i).Wins r i where
  toArrived := arrived_of h hr
  better := by rwa [updateInterfacedata_vector]
  alternates j hji hj := by
    rw [updateInterfacedata_vector, updateInterfacedata_vector_ne hji]
    have hrj := h.rootBest r j hr (by simpa using hj)
    by_cases hri : r = i
    · subst hri
      exact hbetter.le.trans hrj
    · rw [updateInterfacedata_vector_ne hri] at hle
      exact hle.trans hrj

theorem loses_of (h : RolesOk b.ports) (hr : (b.ports r).role = .ROOT)
    (hlt : ((b.updateInterfacedata frame i).ports r).key < (frame.over (b.ports i).linkCost).key) :
    (b.updateInterfacedata frame i).Loses r i := by
  have hri : r ≠ i := by
    rintro rfl
    rw [updateInterfacedata_vector] at hlt
    exact lt_irrefl _ hlt
  exact
    { toArrived := arrived_of h hr
      other := hri
      worse := by
        rw [updateInterfacedata_vector]
        exact hlt.le
      alternates := fun j hji hj => by
        rw [updateInterfacedata_vector_ne hri, updateInterfacedata_vector_ne hji]
        exact h.rootBest r j hr (by simpa using hj) }

variable {cost : UInt}

theorem compareInterfacedata_neg :
    (b.compareInterfacedata i frame cost).toInt < 0 ↔ (b.ports i).key < (frame.over cost).key := compare_neg

theorem compareInterfacedata_pos :
    0 < (b.compareInterfacedata i frame cost).toInt ↔ (frame.over cost).key < (b.ports i).key := compare_pos

theorem updateInterfacedata_compare (hij : j ≠ i) :
    (b.updateInterfacedata frame i).compareInterfacedata j frame cost = b.compareInterfacedata j frame cost := by
  unfold RSTP.compareInterfacedata
  rw [updateInterfacedata_vector_ne hij]

section

variable (h : RolesOk b.ports)
include h

theorem RolesOk.processBetterSource
    (hbetter : 0 < (b.compareInterfacedata i frame (b.ports i).linkCost).toInt) (hkept : b.RootKept frame i) :
    Ensures (b.processBetterSource frame i) fun result => RolesOk result.1.ports := by
  replace hbetter := compareInterfacedata_pos.mp hbetter
  unfold RSTP.processBetterSource
  dsimp only
  split
  · next hnone =>
    rw [updateInterfacedata_getRootIndex] at hnone
    refine .ok (.of_root i (fun j => ?_) (fun j hj => ?_) (fun j hj => ?_))
    · exact stateOk_setPort (updateInterfacedata_states h.states) (by simp [PortInfo.StateOk]) j
    · by_contra hji
      refine getRootIndex_none.mp hnone j ?_
      simpa [RSTP.becomeRoot, hji] using hj
    · have hji : j ≠ i := by
        rintro rfl
        simp [RSTP.becomeRoot] at hj
      have hj' : (b.ports j).role = .ALTERNATE := by simpa [RSTP.becomeRoot, hji] using hj
      have hle := not_lt.mpr (hkept.alternates hnone j hji hj')
      rw [compareInterfacedata_neg, not_lt] at hle
      simpa [RSTP.becomeRoot, hji, updateInterfacedata_vector_ne hji] using hle
  · next r hsome =>
    rw [updateInterfacedata_getRootIndex] at hsome
    have hr := getRootIndex_some hsome
    rw [updateInterfacedata_linkCost]
    -- the sign of the second challenge says who wins
    have hwins (x : CompareResult) (hx : 0 < x.toInt)
        (hcmp : (b.updateInterfacedata frame i).compareInterfacedata r frame (b.ports i).linkCost = x) :
        r ≠ i ∧ (b.updateInterfacedata frame i).Wins r i := by
      rw [← hcmp, compareInterfacedata_pos] at hx
      refine ⟨?_, wins_of h hr hbetter hx.le⟩
      rintro rfl
      rw [updateInterfacedata_vector] at hx
      exact lt_irrefl _ hx
    have hloses (x : CompareResult) (hx : x.toInt < 0)
        (hcmp : (b.updateInterfacedata frame i).compareInterfacedata r frame (b.ports i).linkCost = x) :
        (b.updateInterfacedata frame i).Loses r i := by
      rw [← hcmp, compareInterfacedata_neg] at hx
      exact loses_of h hr hx
    split
    · next hcmp =>
      have hsame := compare_similar.mp hcmp
      refine .ok ((wins_of h hr hbetter (le_of_eq (by rw [hsame]))).similarToRoot ?_)
      rw [hsame, updateInterfacedata_vector]
    · next hcmp =>
      obtain ⟨hri, hw⟩ := hwins _ (by decide) hcmp
      rw [updateInterfacedata_compare hri] at hcmp
      refine .ok (hw.resetForRoot fun j hji hedge => ?_)
      rw [updateInterfacedata_edge] at hedge
      rw [updateInterfacedata_role]
      exact hkept.edges r hsome hcmp j hji hedge
    iterate 3
      next hcmp =>
        obtain ⟨hri, hw⟩ := hwins _ (by decide) hcmp
        exact .map (hw.betterRoute hri)
    · next hcmp => exact .ok (hloses _ (by decide) hcmp).sendBPDU
    iterate 3
      next hcmp => exact .map (hloses _ (by decide) hcmp).worseRoute

theorem RolesOk.setPort (hf : (f (b.ports i)).StateOk) (hroot : (f (b.ports i)).role ≠ .ROOT)
    (halt : (f (b.ports i)).role ≠ .ALTERNATE) : RolesOk (b.setPort i f).ports := by
  refine h.of_fewer (stateOk_setPort h.states hf) (fun j hj => ?_) (fun j hj => ?_)
  all_goals
    rw [setPort_ports] at hj ⊢
    by_cases hji : j = i
    · simp_all
    · rw [if_neg hji] at hj ⊢
      exact ⟨hj, le_rfl⟩

/-- A worse vector for a port that is not the root port. -/
theorem RolesOk.updateInterfacedata (hi : (b.ports i).role ≠ .ROOT)
    (hle : (b.ports i).role = .ALTERNATE → (b.ports i).key ≤ (frame.over (b.ports i).linkCost).key) :
    RolesOk (b.updateInterfacedata frame i).ports := by
  refine h.of_fewer (updateInterfacedata_states h.states) (fun j hj => ?_) (fun j hj => ?_)
  all_goals
    rw [updateInterfacedata_role] at hj
    refine ⟨hj, ?_⟩
    by_cases hji : j = i
    · subst hji
      first
        | exact absurd hj hi
        | rw [updateInterfacedata_vector]
          exact hle hj
    · rw [updateInterfacedata_vector_ne hji]

/-- The best alternate port takes the place of the root port. -/
theorem RolesOk.takeOver {c : RSTP n} (hi : (b.ports i).role = .ROOT)
    (hk : b.getBestAlternate = some k) (hstates : ∀ j, (c.ports j).StateOk)
    (hroles : ∀ j, j ≠ i → j ≠ k → (c.ports j).role = (b.ports j).role)
    (hvectors : ∀ j, j ≠ i → (c.ports j).toPriorityVector = (b.ports j).toPriorityVector)
    (hnew : (c.ports k).role = .ROOT) (hold : (c.ports i).role ≠ .ROOT)
    (halt : (c.ports i).role = .ALTERNATE → (b.ports k).key ≤ (c.ports i).key) : RolesOk c.ports := by
  obtain ⟨hkrole, hbest⟩ := getBestAlternate_some hk
  have hki : k ≠ i := by
    rintro rfl
    rw [hi] at hkrole
    cases hkrole
  refine .of_root k hstates (fun j hj => ?_) (fun j hj => ?_)
  · by_contra hjk
    have hji : j ≠ i := by
      rintro rfl
      exact hold hj
    rw [hroles j hji hjk] at hj
    exact hji (h.oneRoot j i hj hi)
  · rw [hvectors k hki]
    by_cases hji : j = i
    · subst hji
      exact halt hj
    · have hjk : j ≠ k := by
        rintro rfl
        rw [hnew] at hj
        cases hj
      rw [hroles j hji hjk] at hj
      rw [hvectors j hji]
      exact hbest j hj

end

theorem initPorts_rolesOk (b : RSTP n) : RolesOk b.initPorts.ports where
  states j := (initPorts_ports b j).1
  oneRoot j _ hj _ := absurd hj (initPorts_ports b j).2.1
  rootBest j _ hj _ := absurd hj (initPorts_ports b j).2.1

section

variable (h : RolesOk b.ports)
include h

theorem RolesOk.worseRootOnRoot (hi : (b.ports i).role = .ROOT) :
    RolesOk (b.worseRootOnRoot frame i).1.ports := by
  unfold RSTP.worseRootOnRoot
  split
  · next k hk =>
    have hki : k ≠ i := by
      rintro rfl
      rw [(getBestAlternate_some hk).1] at hi
      cases hi
    rw [sendBPDU_ports]
    have hstates := stateOk_setPort (i := i) (f := fun p =>
      { p with role := .DESIGNATED, state := .DISCARDING, nextUpgrade := b.simTime + b.forwardDelay }) h.states
      (by simp [PortInfo.StateOk])
    refine h.takeOver hi hk (updateInterfacedata_states (stateOk_setPort hstates ?_)) (fun j hji hjk => ?_)
      (fun j hji => ?_) ?_ ?_ ?_
    · simp [PortInfo.StateOk]
    · simp [hji, hjk, toDesignated_ports]
    · rw [updateInterfacedata_vector_ne hji, setPort_ports]
      split <;> simp [hji, toDesignated_ports]
    · simp
    · simp [hki.symm, toDesignated_ports]
    · simp [hki.symm, toDesignated_ports]
  · dsimp only
    split
    · refine .of_root i ?_ (fun j hj => ?_) (fun j hj => ?_)
      · dsimp only
        refine stateOk_setPort (updateInterfacedata_states (initPorts_rolesOk b).states) ?_
        simp [PortInfo.StateOk]
      · by_contra hji
        refine (initPorts_ports b j).2.1 ?_
        simpa [hji] using hj
      · by_cases hji : j = i
        · simp [hji] at hj
        · refine absurd ?_ (initPorts_ports b j).2.2
          simpa [hji] using hj
    · exact initPorts_rolesOk b

theorem RolesOk.lostBPDU : RolesOk (b.setPort i fun p => { p with lostBPDU := 0 }).ports := by
  refine h.congr (fun j => ?_) (fun j => ?_) (fun j => ?_)
  all_goals
    rw [setPort_ports]
    split <;> rfl

/-- The alternate port takes over and the arrival port gets the vector of the frame. -/
theorem RolesOk.changeRoot (hi : (b.ports i).role = .ROOT) (hk : b.getBestAlternate = some k)
    (hle : (b.ports k).key ≤ (frame.over (b.ports i).linkCost).key) :
    Ensures (b.changeRoot frame i k) fun c => RolesOk (c.updateInterfacedata frame i).ports := by
  have hki : k ≠ i := by
    rintro rfl
    rw [(getBestAlternate_some hk).1] at hi
    cases hi
  have hstates := stateOk_setPort (i := k) (f := fun p => { p with role := .ROOT, state := .FORWARDING }) h.states
    (by simp [PortInfo.StateOk])
  refine .bind_any fun case3 => .ite (fun _ => .pure ?_) fun _ => .pure ?_
  · refine h.takeOver hi hk (updateInterfacedata_states ?_) (fun j hji hjk => ?_) (fun j hji => ?_) ?_ ?_ ?_
    · intro j
      change PortInfo.StateOk { (RSTP.toDesignated _ i).ports j with TCWhile := _ }
      rw [toDesignated_ports, setPort_setPort]
      exact stateOk_setPort hstates (by simp [PortInfo.StateOk]) j
    · simp [hji, hjk, toDesignated_ports]
    · rw [updateInterfacedata_vector_ne hji, flushOtherPorts_vector, toDesignated_ports]
      simp only [setPort_ports, hji, if_false]
      split <;> rfl
    · simp [hki, toDesignated_ports]
    · simp [toDesignated_ports]
    · simp [toDesignated_ports]
  · refine h.takeOver hi hk (updateInterfacedata_states ?_) (fun j hji hjk => ?_) (fun j hji => ?_) ?_ ?_ ?_
    · intro j
      rw [setPort_setPort]
      exact stateOk_setPort hstates (by simp [PortInfo.StateOk]) j
    · simp [hji, hjk]
    · rw [updateInterfacedata_vector_ne hji, flushOtherPorts_vector]
      simp only [setPort_ports, hji, if_false]
      split <;> rfl
    · simp [hki]
    · simp
    · intro _
      simpa [RSTP.flushOtherPorts, hki.symm] using hle

theorem RolesOk.worseRouteOnRoot (hi : (b.ports i).role = .ROOT) :
    Ensures (b.worseRouteOnRoot frame i) fun c => RolesOk (c.updateInterfacedata frame i).ports := by
  have hl : RolesOk (b.setPort i fun p => { p with lostBPDU := 0 }).ports := h.lostBPDU
  have hir : ((b.setPort i fun p => { p with lostBPDU := 0 }).ports i).role = .ROOT := by simpa using hi
  unfold RSTP.worseRouteOnRoot
  dsimp only
  generalize (b.setPort i fun p => { p with lostBPDU := 0 }) = c at hl hir ⊢
  -- the root port keeps its role with a vector that no alternate port beats
  have hkeep (halt : ∀ j, (c.ports j).role = .ALTERNATE → (frame.over (c.ports i).linkCost).key ≤ (c.ports j).key) :
      RolesOk (c.updateInterfacedata frame i).ports := by
    refine .of_root i (updateInterfacedata_states hl.states) (fun j hj => ?_) (fun j hj => ?_)
    · exact hl.oneRoot j i (by simpa using hj) hir
    · rw [updateInterfacedata_role] at hj
      have hji : j ≠ i := by
        rintro rfl
        rw [hir] at hj
        cases hj
      rw [updateInterfacedata_vector, updateInterfacedata_vector_ne hji]
      exact halt j hj
  split
  · next k hk =>
    refine .ite (fun hlt => ?_) fun hge => .ok ?_
    · exact hl.changeRoot hir hk (compareInterfacedata_neg.mp hlt).le
    · rw [compareInterfacedata_neg, not_lt] at hge
      exact hkeep fun j hj => hge.trans ((getBestAlternate_some hk).2 j hj)
  · next hnone => exact .ok (hkeep fun j hj => absurd hj (getBestAlternate_none hnone j))

theorem RolesOk.worseRouteOnAlternate (hi : (b.ports i).role = .ALTERNATE)
    (hle : (b.ports i).key ≤ (frame.over (b.ports i).linkCost).key) :
    Ensures (b.worseRouteOnAlternate frame i) fun c => RolesOk (c.updateInterfacedata frame i).ports := by
  refine .bind_any fun case2 => .ite (fun _ => .pure ?_) fun _ => .pure ?_
  · have hd : RolesOk ((b.toDesignated i).sendBPDU i).ports := by
      rw [sendBPDU_ports, toDesignated_ports]
      exact h.setPort (by simp [PortInfo.StateOk]) (by simp) (by simp)
    refine hd.updateInterfacedata ?_ ?_ <;> simp [toDesignated_ports]
  · refine h.lostBPDU.updateInterfacedata ?_ ?_
    · simp [hi]
    · intro _
      simpa using hle

theorem RolesOk.processSameSource
    (hworse : ¬ 0 < (b.compareInterfacedata i frame (b.ports i).linkCost).toInt) :
    Ensures (b.processSameSource frame i) fun result => RolesOk result.1.ports := by
  have hle := hworse
  rw [compareInterfacedata_pos, not_lt] at hle
  unfold RSTP.processSameSource
  split
  · exact .ok h.lostBPDU
  · refine .ite (fun hi => .ok (h.worseRootOnRoot hi)) fun hi => .ite (fun _ => .ok ?_) fun _ => .ok h
    rw [sendBPDU_ports]
    have hd : RolesOk (b.toDesignated i).ports := by
      rw [toDesignated_ports]
      exact h.setPort (by simp [PortInfo.StateOk]) (by simp) (by simp)
    refine hd.updateInterfacedata ?_ ?_ <;> simp [toDesignated_ports]
  iterate 3
    refine .ite (fun hi => .map ?_) fun hi => .ite (fun halt => .map ?_) fun halt => .ok ?_
    · exact (h.worseRouteOnRoot hi).mono fun c hc => hc
    · exact (h.worseRouteOnAlternate halt hle).mono fun c hc => hc
    · exact h.updateInterfacedata hi fun _ => hle
  all_goals exact .ok h

theorem RolesOk.processBPDU (hkept : frame.rootAddress ≠ b.bridgeAddress →
    0 < (b.compareInterfacedata i frame (b.ports i).linkCost).toInt → b.RootKept frame i) :
    Ensures (b.processBPDU frame i) fun c => RolesOk c.ports := by
  have hchallenge : Ensures (b.challenge frame i) fun result => RolesOk result.1.ports := by
    refine .ite (fun hb => h.processBetterSource hb.1 (hkept hb.2 hb.1)) fun hb => .ite (fun hs => ?_) fun _ => .ok h
    exact h.processSameSource fun hpos => hb ⟨hpos, hs.2⟩
  refine .map (hchallenge.mono fun result hresult => ?_)
  dsimp only
  split
  · rw [sendTCNtoRoot_ports, sendBPDUs_ports]
    exact hresult
  · exact hresult

theorem RolesOk.handleBackup : Ensures (b.handleBackup frame i) fun c => RolesOk c.ports := by
  refine .ite (fun _ => .ok ?_) fun _ => .ite (fun _ => ?_) fun _ => ?_
  · exact h.setPort (by simp [PortInfo.StateOk]) (by simp) (by simp)
  all_goals
    refine .bind_any fun port2 => .pure (h.setPort ?_ ?_ ?_)
    · simp [PortInfo.StateOk]
    · simp
    · simp

end

theorem checkTC_port (b : RSTP n) (frame : BPDU) (i j : Fin n) :
    ∃ t, (b.checkTC frame i).ports j = { b.ports j with TCWhile := t } := by
  unfold RSTP.checkTC
  split
  · dsimp only
    split
    · exact ⟨_, rfl⟩
    · exact ⟨(b.ports j).TCWhile, rfl⟩
  · exact ⟨(b.ports j).TCWhile, rfl⟩

theorem checkTC_role : ((b.checkTC frame i).ports j).role = (b.ports j).role := by
  obtain ⟨t, ht⟩ := checkTC_port b frame i j
  rw [ht]

theorem checkTC_compare :
    (b.checkTC frame i).compareInterfacedata j frame cost = b.compareInterfacedata j frame cost := by
  obtain ⟨t, ht⟩ := checkTC_port b frame i j
  unfold RSTP.compareInterfacedata
  rw [ht]

theorem checkTC_linkCost : ((b.checkTC frame i).ports j).linkCost = (b.ports j).linkCost := by
  obtain ⟨t, ht⟩ := checkTC_port b frame i j
  rw [ht]

theorem checkTC_bridgeAddress : (b.checkTC frame i).bridgeAddress = b.bridgeAddress := by
  unfold RSTP.checkTC
  split <;> rfl

theorem RootKept.checkTC (h : b.RootKept frame i) : (b.checkTC frame i).RootKept frame i := by
  have hindex : (b.checkTC frame i).getRootIndex = b.getRootIndex := getRootIndex_congr fun _ => checkTC_role
  constructor
  · intro r hr hcmp j hji hedge
    rw [hindex] at hr
    rw [checkTC_compare, checkTC_linkCost] at hcmp
    rw [checkTC_role]
    obtain ⟨t, ht⟩ := checkTC_port b frame i j
    rw [ht] at hedge
    exact h.edges r hr hcmp j hji hedge
  · intro hnone j hji hj
    rw [hindex] at hnone
    rw [checkTC_role] at hj
    rw [checkTC_compare, checkTC_linkCost]
    exact h.alternates hnone j hji hj

section

variable (h : RolesOk b.ports)
include h

theorem RolesOk.handleIncomingFrame {src : MACAddress} (hs : b.Sound (.bpdu frame src i)) :
    Ensures (b.handleIncomingFrame frame src i) fun c => RolesOk c.ports := by
  have htc : RolesOk (b.checkTC frame i).ports := by
    refine h.congr (fun j => checkTC_role) (fun j => ?_) (fun j => ?_)
    all_goals
      obtain ⟨t, ht⟩ := checkTC_port b frame i j
      rw [ht]
  refine .ite (fun hage => .ite (fun _ => htc.handleBackup) fun hsrc => ?_) fun _ => .ok h
  refine htc.processBPDU fun hroot hbetter => ?_
  rw [checkTC_bridgeAddress] at hroot hsrc
  rw [checkTC_compare, checkTC_linkCost] at hbetter
  exact (hs hage hsrc hroot hbetter).checkTC

theorem RolesOk.helloPort : RolesOk (b.helloPort i).ports := by
  unfold RSTP.helloPort
  split
  · next hrole =>
    have hl : RolesOk (b.setPort i fun p => { p with lostBPDU := p.lostBPDU + 1 }).ports := by
      refine h.congr (fun j => ?_) (fun j => ?_) (fun j => ?_)
      all_goals
        rw [setPort_ports]
        split <;> rfl
    dsimp only
    generalize (b.setPort i fun p => { p with lostBPDU := p.lostBPDU + 1 }) = c at hl ⊢
    have hd : RolesOk ((c.toDesignated i).initInterfacedata i).ports := by
      rw [RSTP.initInterfacedata, RSTP.toDesignated]
      have hc : RolesOk (c.toDesignated i).ports := by
        rw [toDesignated_ports]
        exact hl.setPort (by simp [PortInfo.StateOk]) (by simp) (by simp)
      refine RolesOk.setPort hc ?_ ?_ ?_ <;> simp [PortInfo.StateOk]
    split
    · refine RolesOk.lostBPDU ?_
      split
      · next hroot =>
        split
        · next k hk =>
          have hki : k ≠ i := by
            rintro rfl
            rw [(getBestAlternate_some hk).1] at hroot
            cases hroot
          refine hl.takeOver hroot hk (fun j => ?_) (fun j hji hjk => ?_) (fun j hji => ?_) ?_ ?_ ?_
          · exact stateOk_setPort hd.states (by simp [PortInfo.StateOk]) j
          · simp [RSTP.initInterfacedata, toDesignated_ports, hji, hjk]
          · rw [flushOtherPorts_vector, setPort_ports]
            split <;> simp [RSTP.initInterfacedata, toDesignated_ports, hji]
          · simp
          · simp [RSTP.initInterfacedata, toDesignated_ports, hki.symm]
          · simp [RSTP.initInterfacedata, toDesignated_ports, hki.symm]
        · exact initPorts_rolesOk c
      · exact hd
    · exact hl
  · exact h

theorem RolesOk.handleHelloTime : RolesOk b.handleHelloTime.ports := by
  have hloop : RolesOk ((List.finRange n).foldl RSTP.helloPort b).ports :=
    foldl_keeps (p := fun c : RSTP n => RolesOk c.ports) (fun _ _ hc => hc.helloPort) _ h
  unfold RSTP.handleHelloTime
  rw [sendTCNtoRoot_ports, sendBPDUs_ports]
  exact hloop

theorem RolesOk.handleUpgrade : RolesOk b.handleUpgrade.ports := by
  unfold RSTP.handleUpgrade
  refine foldl_keeps (p := fun c : RSTP n => RolesOk c.ports) (fun c i hc => ?_) _ h
  split
  · split
    · exact hc.setPort (by simp [PortInfo.StateOk]) (by simp) (by simp)
    · split
      · next hrole =>
        split
        · exact hc.setPort (by simp [PortInfo.StateOk, hrole]) (by simp [hrole]) (by simp [hrole])
        · split
          · have hs : RolesOk (c.setPort i fun p => { p with state := .FORWARDING }).ports :=
              hc.setPort (by simp [PortInfo.StateOk, hrole]) (by simp [hrole]) (by simp [hrole])
            exact hs.congr (fun _ => rfl) (fun _ => rfl) fun _ => rfl
          · exact hc
      · exact hc
  · exact hc

theorem RolesOk.receiveChangeNotification : RolesOk (b.receiveChangeNotification i).ports := by
  unfold RSTP.receiveChangeNotification
  split
  · rw [scheduleNextUpgrde_ports]
    refine h.congr (fun j => ?_) (fun j => ?_) (fun j => ?_)
    all_goals
      split
      · rw [setPort_ports]
        split <;> rfl
      · split
        · rw [setPort_ports]
          split <;> rfl
        · rfl
  · exact h

theorem RolesOk.handleMessage {event : Event n} (hs : b.Sound event) :
    Ensures (b.handleMessage event) fun c => RolesOk c.ports := by
  cases event with
  | bpdu frame src arrivalPortNum => exact h.handleIncomingFrame hs
  | helloTimer => exact .ite (fun _ => .ok (RolesOk.handleHelloTime h)) fun _ => .error
  | upgradeTimer => exact .ite (fun _ => .ok (RolesOk.handleUpgrade h)) fun _ => .error
  | interfaceStateChanged i hasCarrier => exact .ok (RolesOk.receiveChangeNotification h)
  | elapse simTime => exact .ite (fun _ => .ok h) fun _ => .error

end

/-- Whatever a bridge receives, its roles and its timer stay in order. -/
theorem rstp_roles (b : RSTP n) (events : List (Event n))
    (h : Runs.EveryStep handleMessage Sound b.initialized events) :
    Runs.EveryState handleMessage RoleInvariant b.initialized events := by
  have hall := h.everyState (s := b.initialized) (p := fun c : RSTP n => RolesOk c.ports ∧ c.Covered)
    (fun c event c' hc hs hstep => ⟨hc.1.handleMessage hs c' hstep, hc.2.handleMessage event c' hstep⟩)
    ⟨initPorts_rolesOk b, initialized_covered b⟩
  intro is₁ c hpre hrun
  obtain ⟨hroles, hcovered⟩ := hall is₁ c hpre hrun
  exact roleInvariant_of hroles hcovered

/-- A bridge with two ports, the first of which is an edge port. -/
def edgeBridge : RSTP 2 where
  bridgePriority := 32768
  bridgeAddress := 10
  maxAge := 20
  helloTime := 2
  forwardDelay := 6
  migrateTime := 3
  tcWhileTime := 6
  ports i :=
    { rootPriority := 0, rootAddress := 0, rootPathCost := 0, bridgePriority := 0, bridgeAddress := 0, portPriority := 0,
      portNum := 0, priority := 128, linkCost := 1, edge := i = 0, state := .FORWARDING, role := .NOTASSIGNED, age := 0,
      maxAge := 20, fdWhile := 0, fwdDelay := 6, helloTime := 2, TCWhile := 0, lostBPDU := 0, nextUpgrade := 0 }
  hasCarrier _ := true
  simTime := 0
  helloTimer := none
  upgradeTimer := none
  relayOut := []

/-- What the bridge with this address sends when it thinks that it is the root. -/
def rootBPDU (address : MACAddress) : BPDU where
  rootPriority := 32768
  rootAddress := address
  rootPathCost := 0
  bridgePriority := 32768
  bridgeAddress := address
  portPriority := 0
  portNum := 0
  bpduType := 0
  tcaFlag := false
  tcFlag := false
  messageAge := 0
  maxAge := 20
  helloTime := 2
  forwardDelay := 6

/-- A BPDU on the edge port, then a better one on the other port. -/
theorem edge_two_roots : ¬ ∀ (n : Nat) (b : RSTP n) (events : List (Event n)),
    Runs.EveryState handleMessage RoleInvariant b.initialized events := by
  intro h
  have hrun : ∃ c : RSTP 2, Runs.run handleMessage edgeBridge.initialized
      [.bpdu (rootBPDU 5) 5 0, .bpdu (rootBPDU 3) 3 1] = .ok c ∧ (c.ports 0).role = .ROOT ∧ (c.ports 1).role = .ROOT :=
    ⟨_, rfl, by decide, by decide⟩
  obtain ⟨c, hc, h0, h1⟩ := hrun
  have hone := (h 2 edgeBridge _ _ c (List.prefix_refl _) hc).oneRoot 0 1 h0 h1
  exact absurd hone (by decide)

/-- A BPDU on the port between bridges, and time until the first hello. -/
theorem rstp_roles_edgeBridge : Runs.EveryState handleMessage RoleInvariant edgeBridge.initialized
    [.bpdu (rootBPDU 5) 5 1, .helloTimer, .elapse 2] := by
  refine rstp_roles edgeBridge _ (Runs.everyStep_cons.mpr ⟨fun _ _ _ _ => ⟨fun r hr => ?_, fun _ j hji hj => ?_⟩, ?_⟩)
  · have hnone : edgeBridge.initialized.getRootIndex = none := by decide
    cases hr
  · revert j
    decide
  · intro c _
    refine Runs.everyStep_cons.mpr ⟨trivial, fun c' _ => ?_⟩
    exact Runs.everyStep_cons.mpr ⟨trivial, fun c'' _ => Runs.everyStep_nil⟩

end RSTP

end Inet.Ieee8021d
