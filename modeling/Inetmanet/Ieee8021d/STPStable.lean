import Inetmanet.Ieee8021d.STPRoles

/-!
# What leaves an STP bridge unchanged

A BPDU that changes nothing is no better than what the port knows. A tick that changes
nothing has not made a port forget what it knows, unless the port is designated.
-/
namespace Inet.Ieee8021d.STP

variable {n : Nat} {b c : STP n} {i j p : Fin n} {frame : BPDU}

/-- The same roles and vectors, and the same choice of a root. -/
structure SameCore (b c : STP n) : Prop where
  role : ∀ i, (b.ports i).role = (c.ports i).role
  vector : ∀ i, (b.ports i).toPriorityVector = (c.ports i).toPriorityVector
  isRoot : b.isRoot = c.isRoot
  rootPort : b.rootPort = c.rootPort
  desPorts : b.desPorts = c.desPorts
  rootPriority : b.rootPriority = c.rootPriority
  rootAddress : b.rootAddress = c.rootAddress
  rootPathCost : b.rootPathCost = c.rootPathCost

instance : Decidable (SameCore b c) :=
  decidable_of_iff ((∀ i, (b.ports i).role = (c.ports i).role) ∧
      (∀ i, (b.ports i).toPriorityVector = (c.ports i).toPriorityVector) ∧ b.isRoot = c.isRoot ∧ b.rootPort = c.rootPort ∧
      b.desPorts = c.desPorts ∧ b.rootPriority = c.rootPriority ∧ b.rootAddress = c.rootAddress ∧
      b.rootPathCost = c.rootPathCost)
    ⟨fun ⟨h₁, h₂, h₃, h₄, h₅, h₆, h₇, h₈⟩ => ⟨h₁, h₂, h₃, h₄, h₅, h₆, h₇, h₈⟩,
      fun h => ⟨h.role, h.vector, h.isRoot, h.rootPort, h.desPorts, h.rootPriority, h.rootAddress, h.rootPathCost⟩⟩

theorem handleBPDU_renewed (b : STP n) (frame : BPDU) (p : Fin n) (i : Fin n) :
    ((b.handleBPDU frame p).ports i).toPriorityVector = ((b.heard frame p).ports i).toPriorityVector ∧
      ((b.handleBPDU frame p).ports i).age = ((b.heard frame p).ports i).age := by
  obtain ⟨l, hl⟩ := b.handleBPDU_eq frame p
  rw [hl]
  exact ⟨(tryRoot_info _).vector i, (tryRoot_info _).age i⟩

/-- A BPDU that changes nothing tells nothing better. -/
theorem le_of_unchanged (h : SameCore (b.handleBPDU frame p) b) (hage : frame.messageAge < frame.maxAge) :
    (b.ports p).rank ≤ (frame.over (b.ports p).linkCost).rank := by
  by_cases hs : b.Stores p frame
  · have hvector := ((b.handleBPDU_renewed frame p p).1.symm.trans (h.vector p)).symm.trans
      ((b.heard_renewed frame p).stored hs).1
    rw [hvector]
  · exact (not_not.mp fun hinferior => hs ⟨hinferior, hage⟩).le

/-- The port with old information. -/
def outdate (b : STP n) (p : Fin n) : STP n := b.setPort p fun port => { port with age := 1 }

/-- The BPDU renews the information of the port. -/
def Renews (b : STP n) (frame : BPDU) (p : Fin n) : Prop := (((b.outdate p).handleBPDU frame p).ports p).age = 0
deriving Decidable

theorem renews_iff : b.Renews frame p ↔ b.Stores p frame := by
  have hself : (b.outdate p).ports p = { b.ports p with age := 1 } := if_pos rfl
  have hstores : (b.outdate p).Stores p frame ↔ b.Stores p frame := by
    unfold Stores
    rw [hself]
  unfold Renews
  rw [((b.outdate p).handleBPDU_renewed frame p p).2, ← hstores]
  constructor
  · intro hage
    by_contra hs
    have hkept := (((b.outdate p).heard_renewed frame p).other p fun h => hs h.2).2.1
    rw [hself] at hkept
    rw [hage] at hkept
    cases hkept
  · intro hs
    exact (((b.outdate p).heard_renewed frame p).stored hs).2.1

/-- A BPDU that renews the port and changes nothing is what the port knows. -/
theorem eq_of_renews (h : SameCore (b.handleBPDU frame p) b) (hrenews : b.Renews frame p) :
    (b.ports p).toPriorityVector = frame.over (b.ports p).linkCost := by
  have hs := renews_iff.mp hrenews
  rw [← ((b.heard_renewed frame p).stored hs).1, ← (b.handleBPDU_renewed frame p p).1]
  exact (h.vector p).symm

theorem lostRoot_vector : (b.lostRoot.ports p).toPriorityVector = (b.ports p).toPriorityVector :=
  (tryRoot_info _).vector p

theorem lostRoot_ownVector : b.lostRoot.ownVector = b.ownVector := by
  have hinfo := tryRoot_info { b with topologyChangeNotification := true }
  simp only [STPBase.ownVector, lostRoot, hinfo.bridgePriority, hinfo.bridgeAddress]

/-- A port whose information is too old gets the vector of the bridge. -/
theorem checkAge_expired (h : b.currentMaxAge ≤ (b.ports i).age) : ((b.checkAge i).ports i).toPriorityVector = b.ownVector := by
  unfold checkAge
  split_ifs
  · rw [lostRoot_vector]
    exact initInterfacedata_self.1
  · exact initInterfacedata_self.1

theorem checkAge_ownVector : (b.checkAge i).ownVector = b.ownVector := by
  unfold checkAge
  split_ifs
  · exact lostRoot_ownVector
  · rfl
  · rfl

/-- No round of the age check brings a vector back. -/
theorem checkAge_own (h : (b.ports p).toPriorityVector = b.ownVector) :
    ((b.checkAge i).ports p).toPriorityVector = b.ownVector := by
  by_cases hold : b.currentMaxAge ≤ (b.ports i).age
  · by_cases hpi : p = i
    · rw [hpi]
      exact checkAge_expired hold
    · have hport : ((b.initInterfacedata i).ports p).toPriorityVector = b.ownVector := by
        rw [initInterfacedata_port, if_neg hpi, h]
      unfold checkAge
      split_ifs
      · rw [lostRoot_vector]
        exact hport
      · exact hport
  · rw [checkAge, if_neg hold]
    exact h

theorem contest_root (h : b.contest j = .ROOT) : (b.ports j).role = .ROOT := by
  unfold contest at h
  dsimp only at h
  split_ifs at h with hkeep
  · exact h
  · exact h

/-- Information that is too old is forgotten, of this port or of a root port before it. -/
theorem checkAges_forget {P : Fin n → Prop} (hroot : ∀ j, (b.ports j).role = .ROOT → P j) (hp : P p)
    (hold : b.currentMaxAge ≤ (b.ports p).age) :
    ∃ j, P j ∧ (((List.finRange n).foldl checkAge b).ports j).toPriorityVector = b.ownVector := by
  have rule := IndexLoops.foldl_rule (f := checkAge) (l := List.finRange n) (s := b)
    (I := fun l s => s.ownVector = b.ownVector ∧ ((∃ j, P j ∧ (s.ports j).toPriorityVector = b.ownVector) ∨
      p ∈ l ∧ s.currentMaxAge ≤ (s.ports p).age ∧ ∀ j, (s.ports j).role = .ROOT → P j)) ?_ ?_
  · cases rule.2 with
    | inl h => exact h
    | inr h => exact absurd h.1 List.not_mem_nil
  · intro s a l ⟨hown, h⟩
    refine ⟨checkAge_ownVector.trans hown, ?_⟩
    rw [← hown] at h ⊢
    cases h with
    | inl h =>
      obtain ⟨j, hj, hvector⟩ := h
      exact .inl ⟨j, hj, checkAge_own hvector⟩
    | inr h =>
      obtain ⟨hmem, hage, hrole⟩ := h
      by_cases hexpired : s.currentMaxAge ≤ (s.ports a).age
      · by_cases ha : P a
        · exact .inl ⟨a, ha, checkAge_expired hexpired⟩
        · -- only what a root port loses changes the maximum age
          right
          have hne : p ≠ a := by
            rintro rfl
            exact ha hp
          have hnot : (s.ports a).role ≠ .ROOT := fun h => ha (hrole a h)
          have hstep : s.checkAge a = (s.initInterfacedata a).lostAlternate := by
            rw [checkAge, if_pos hexpired, if_neg hnot]
          have hport : ((s.initInterfacedata a).lostAlternate.ports p).age = (s.ports p).age := by
            change ((s.initInterfacedata a).ports p).age = _
            rw [initInterfacedata_port, if_neg hne]
          rw [hstep, hport]
          refine ⟨(List.mem_cons.mp hmem).resolve_left hne, hage, fun j hj => ?_⟩
          have hj' := contest_root hj
          rw [initInterfacedata_port] at hj'
          split_ifs at hj'
          exact hrole j hj'
      · right
        have hne : p ≠ a := by
          rintro rfl
          exact hexpired hage
        rw [checkAge, if_neg hexpired]
        exact ⟨(List.mem_cons.mp hmem).resolve_left hne, hage, hrole⟩
  · exact ⟨rfl, Or.inr ⟨List.mem_finRange p, hold, hroot⟩⟩

/-- What a port has heard, how long ago, and how long it counts. -/
def info (port : PortInfo) : PriorityVector × Time × Time := (port.toPriorityVector, port.age, port.maxAge)

theorem checkFdWhile_info {port : PortInfo} : info (b.checkFdWhile port) = info port := by
  unfold checkFdWhile
  split_ifs
  · split <;> rfl
  · rfl
  · rfl

theorem checkParametersChange_info : info (b.checkParametersChange.ports p) = info (b.ports p) := by
  have hall : ∀ c : STP n, info (c.setAllDesignated.ports p) = info (c.ports p) := by
    intro c
    unfold setAllDesignated
    dsimp only
    split_ifs <;> rfl
  unfold checkParametersChange
  dsimp only
  split_ifs
  · exact hall _
  · rfl
  · exact hall _
  · rfl

theorem handleTick_info :
    info (b.handleTick.ports p) = info (((List.finRange n).foldl checkAge b.countTick.checkHello).ports p) := by
  obtain ⟨l, x, hx⟩ := b.countTick.checkTimers.checkParametersChange.generateTCN_eq
  unfold handleTick
  rw [hx]
  exact checkParametersChange_info.trans checkFdWhile_info

theorem checkHello_eq (b : STP n) : ∃ helloTime l, b.checkHello = { b with toSTPBase.helloTime := helloTime, relayOut := l } := by
  have hhello : b.generateHelloBDPUs = _ := sends_eq _ STP_MULTICAST_ADDRESS false false
  unfold checkHello
  split_ifs
  · rw [hhello]
    exact ⟨0, _, rfl⟩
  · exact ⟨0, b.relayOut, rfl⟩
  · exact ⟨b.helloTime, b.relayOut, rfl⟩

/-- A tick that changes nothing finds no old information but on designated ports. -/
theorem fresh_of_unchanged (h : b.Chosen) (hsame : SameCore b.handleTick b) (hrole : (b.ports p).role ≠ .DESIGNATED) :
    (b.ports p).age + second < b.currentMaxAge := by
  by_contra hold
  obtain ⟨helloTime, l, hhello⟩ := b.countTick.checkHello_eq
  have hport : ∀ j, b.countTick.checkHello.ports j = tickPort (b.ports j) := by
    intro j
    rw [hhello]
    rfl
  have hage : (tickPort (b.ports p)).age = (b.ports p).age + second := by
    rw [tickPort, if_neg (h.enabled p)]
    exact if_pos hrole
  have htickRole : ∀ j, (tickPort (b.ports j)).role = (b.ports j).role := by
    intro j
    rw [tickPort, if_neg (h.enabled j)]
  have hroot : ∀ j, (b.countTick.checkHello.ports j).role = .ROOT → (b.ports j).role ≠ .DESIGNATED := by
    intro j hroot hd
    rw [hport j, htickRole j, hd] at hroot
    cases hroot
  have hexpired : b.countTick.checkHello.currentMaxAge ≤ (b.countTick.checkHello.ports p).age := by
    rw [hport p, hage, hhello]
    exact not_lt.mp hold
  obtain ⟨j, hj, hvector⟩ := checkAges_forget (P := fun j => (b.ports j).role ≠ .DESIGNATED) hroot hrole hexpired
  have hkept : (b.handleTick.ports j).toPriorityVector = _ := (congrArg Prod.fst handleTick_info).trans hvector
  rw [hsame.vector j] at hkept
  have hbetter := better_iff.mp (h.better hj).2
  rw [hkept, hhello] at hbetter
  exact lt_irrefl _ hbetter

end Inet.Ieee8021d.STP
