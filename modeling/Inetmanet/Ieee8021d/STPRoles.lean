import Inetmanet.Ieee8021d.STP
import Inetmanet.Lib.IndexLoops

/-!
# The roles of the ports of an STP bridge

The comparisons are a lexicographic order of unsigned numbers in which the superior
vector is the smaller one. After every BPDU and every tick the roles are the ones that
`tryRoot` chooses.
-/
namespace Inet.Ieee8021d

open List BitVec

/-- The superior bridge has the smaller number. -/
def bridgeRank (priority : UInt) (address : MACAddress) : Nat ×ₗ Nat := toLex (priority.toNat, address.toNat)

/-- The superior vector has the smaller rank. -/
def PriorityVector.rank (v : PriorityVector) : (Nat ×ₗ Nat) ×ₗ Nat ×ₗ (Nat ×ₗ Nat) ×ₗ (Nat ×ₗ Nat) :=
  toLex (bridgeRank v.rootPriority v.rootAddress, toLex (v.rootPathCost.toNat,
    toLex (bridgeRank v.bridgePriority v.bridgeAddress, toLex (v.portPriority.toNat, v.portNum.toNat))))

variable {a a' : MACAddress}

theorem bridgeRank_lt {p p' : UInt} :
    bridgeRank p a < bridgeRank p' a' ↔ p.toNat < p'.toNat ∨ p = p' ∧ a.toNat < a'.toNat := by
  simp only [bridgeRank, Prod.Lex.toLex_lt_toLex, ← toNat_eq]

theorem bridgeRank_inj {p p' : UInt} : bridgeRank p a = bridgeRank p' a' ↔ p = p' ∧ a = a' := by
  simp only [bridgeRank, toLex_inj, Prod.mk.injEq, ← toNat_eq]

/-- What a comparison of two ranks may say: 1, 0 or -1. -/
def Says {α : Type} [LT α] (result : Int) (x y : α) : Prop :=
  result = 1 ∧ x < y ∨ result = 0 ∧ x = y ∨ result = -1 ∧ y < x

theorem says_compareBridgeIDs (p : UInt) (a : MACAddress) (p' : UInt) (a' : MACAddress) :
    Says (compareBridgeIDs p a p' a') (bridgeRank p a) (bridgeRank p' a') := by
  simp only [Says, compareBridgeIDs, bridgeRank_lt, bridgeRank_inj, lt_def, toNat_eq]
  split_ifs <;> omega

theorem says_comparePortIDs (p a p' a' : UInt) :
    Says (comparePortIDs p a p' a') (toLex (p.toNat, a.toNat)) (toLex (p'.toNat, a'.toNat)) := by
  simp only [Says, comparePortIDs, Prod.Lex.toLex_lt_toLex, toLex_inj, Prod.mk.injEq, lt_def]
  split_ifs <;> omega

variable {v w : PriorityVector}

/-- What the first components say decides, and the second ones when these are equal. -/
theorem Says.lex {α β : Type} [Preorder α] [LT β] {x x' : α} {y y' : β} {first second : Int} (hfirst : Says first x x')
    (hsecond : Says second y y') : Says (if first ≠ 0 then first else second) (toLex (x, y)) (toLex (x', y')) := by
  simp only [Says, Prod.Lex.toLex_lt_toLex, toLex_inj, Prod.mk.injEq] at *
  rcases hfirst with ⟨h, hx⟩ | ⟨h, hx⟩ | ⟨h, hx⟩
  · simp [h, hx]
  · simp only [h, hx]
    simpa using hsecond
  · simp [h, hx]

theorem says_comparePorts (v w : PriorityVector) : Says (comparePorts v w) v.rank w.rank := by
  have hcost : Says (if v.rootPathCost < w.rootPathCost then 1 else if w.rootPathCost < v.rootPathCost then -1 else 0 : Int)
      v.rootPathCost.toNat w.rootPathCost.toNat := by
    simp only [Says, lt_def]
    split_ifs <;> omega
  have hlex := (says_compareBridgeIDs v.rootPriority v.rootAddress w.rootPriority w.rootAddress).lex
    (hcost.lex ((says_compareBridgeIDs v.bridgePriority v.bridgeAddress w.bridgePriority w.bridgeAddress).lex
      (says_comparePortIDs v.portPriority v.portNum w.portPriority w.portNum)))
  unfold PriorityVector.rank comparePorts
  convert hlex using 1
  split_ifs <;> simp_all

theorem comparePorts_pos : 0 < comparePorts v w ↔ v.rank < w.rank := by
  rcases says_comparePorts v w with ⟨h, hlt⟩ | ⟨h, heq⟩ | ⟨h, hlt⟩
  · simp [h, hlt]
  · simp [h, heq]
  · simp [h, hlt.not_gt]

theorem comparePorts_neg : comparePorts v w < 0 ↔ w.rank < v.rank := by
  rcases says_comparePorts v w with ⟨h, hlt⟩ | ⟨h, heq⟩ | ⟨h, hlt⟩
  · simp [h, hlt.not_gt]
  · simp [h, heq]
  · simp [h, hlt]

theorem compareBridgeIDs_pos {p p' : UInt} :
    0 < compareBridgeIDs p a p' a' ↔ bridgeRank p a < bridgeRank p' a' := by
  rcases says_compareBridgeIDs p a p' a' with ⟨h, hlt⟩ | ⟨h, heq⟩ | ⟨h, hlt⟩
  · simp [h, hlt]
  · simp [h, heq]
  · simp [h, hlt.not_gt]

/-- The better vector names no worse root. -/
theorem PriorityVector.root_le (h : v.rank ≤ w.rank) :
    bridgeRank v.rootPriority v.rootAddress ≤ bridgeRank w.rootPriority w.rootAddress := by
  rw [PriorityVector.rank, PriorityVector.rank, Prod.Lex.toLex_le_toLex] at h
  cases h with
  | inl h => exact h.le
  | inr h => exact h.1.le

namespace STP

variable {n : Nat} {b c : STP n} {i j p : Fin n}

def bridgeId (b : STP n) : Nat ×ₗ Nat := bridgeRank b.bridgePriority b.bridgeAddress
def rootId (b : STP n) : Nat ×ₗ Nat := bridgeRank b.rootPriority b.rootAddress

theorem better_iff : b.Better i ↔ bridgeRank (b.ports i).rootPriority (b.ports i).rootAddress < b.bridgeId :=
  compareBridgeIDs_pos

theorem bestPort_le (b : STP n) (j : Fin n) : (b.ports b.bestPort).rank ≤ (b.ports j).rank := by
  have rule := IndexLoops.foldl_rule (l := finRange n) (s := (⟨0, b.rootPort.pos⟩ : Fin n))
    (I := fun l best => ∀ j, j ∉ l → (b.ports best).rank ≤ (b.ports j).rank)
    (f := fun best i =>
      let result := comparePorts (b.ports i).toPriorityVector (b.ports best).toPriorityVector
      if 0 < result then i
      else if result < 0 then best
      else if (b.ports i).priority < (b.ports best).priority then i
      else best) ?_ ?_
  · exact rule j not_mem_nil
  · intro best i l h j hj
    dsimp only
    by_cases hji : j = i
    · subst hji
      split_ifs with hlt hgt hprio
      · exact le_rfl
      · exact (comparePorts_neg.mp hgt).le
      · exact le_rfl
      · exact not_lt.mp fun h => hlt (comparePorts_pos.mpr h)
    · have hbest := h j (by simp [hji, hj])
      split_ifs with hlt hgt hprio
      · exact (comparePorts_pos.mp hlt).le.trans hbest
      · exact hbest
      · exact (not_lt.mp fun h => hgt (comparePorts_neg.mpr h)).trans hbest
      · exact hbest
  · intro j hj
    exact absurd (mem_finRange j) hj

/-- What holds of the ports in every state. -/
structure Sound (b : STP n) : Prop where
  enabled : ∀ i, (b.ports i).role ≠ .DISABLED
  age : ∀ i, (b.ports i).age = 0 ∨ b.Better i
  lasting : ∀ i, b.Better i → 0 < (b.ports i).maxAge
  positive : 0 < b.maxAge
  unchanged : b.currentBridgePriority = b.bridgePriority

/-- What the choice of a bridge without a better port looks like. -/
structure AsRoot (b : STP n) : Prop where
  noBetter : ∀ i, ¬ b.Better i
  designated : ∀ i, (b.ports i).role = .DESIGNATED
  rootPriority : b.rootPriority = b.bridgePriority
  rootAddress : b.rootAddress = b.bridgeAddress
  rootPathCost : b.rootPathCost = 0
  currentMaxAge : b.currentMaxAge = b.maxAge

/-- What the choice of a bridge with a better port looks like. -/
structure AsOther (b : STP n) : Prop where
  better : b.Better b.rootPort
  best : ∀ i, (b.ports b.rootPort).rank ≤ (b.ports i).rank
  rootRole : ∀ i, (b.ports i).role = .ROOT ↔ i = b.rootPort
  designated : ∀ i, (b.ports i).role = .DESIGNATED ↔ i ≠ b.rootPort ∧ (b.bridgeGlobal i).rank < (b.ports i).rank
  mem_desPorts : ∀ i, i ∈ b.desPorts ↔ (b.ports i).role = .DESIGNATED
  rootPriority : b.rootPriority = (b.ports b.rootPort).rootPriority
  rootAddress : b.rootAddress = (b.ports b.rootPort).rootAddress
  rootPathCost : b.rootPathCost = (b.ports b.rootPort).rootPathCost
  currentMaxAge : b.currentMaxAge = (b.ports b.rootPort).maxAge

/-- The roles are the ones that `tryRoot` chooses. -/
structure Chosen (b : STP n) : Prop extends Sound b where
  asRoot : b.isRoot = true → b.AsRoot
  asOther : b.isRoot = false → b.AsOther

/-- Nothing has changed but roles, states and what was chosen. -/
structure SameInfo (c b : STP n) : Prop where
  vector : ∀ i, (c.ports i).toPriorityVector = (b.ports i).toPriorityVector
  age : ∀ i, (c.ports i).age = (b.ports i).age
  portMaxAge : ∀ i, (c.ports i).maxAge = (b.ports i).maxAge
  bridgePriority : c.bridgePriority = b.bridgePriority
  bridgeAddress : c.bridgeAddress = b.bridgeAddress
  maxAge : c.maxAge = b.maxAge
  currentBridgePriority : c.currentBridgePriority = b.currentBridgePriority

theorem SameInfo.better (h : SameInfo c b) : c.Better i ↔ b.Better i := by
  unfold Better
  rw [h.vector i, h.bridgePriority, h.bridgeAddress]

theorem Sound.of_info (hb : b.Sound) (h : SameInfo c b) (henabled : ∀ i, (c.ports i).role ≠ .DISABLED) : c.Sound where
  enabled := henabled
  age i := by
    rw [h.age i, h.better]
    exact hb.age i
  lasting i hi := by
    rw [h.portMaxAge i]
    exact hb.lasting i (h.better.mp hi)
  positive := h.maxAge ▸ hb.positive
  unchanged := by
    rw [h.currentBridgePriority, h.bridgePriority]
    exact hb.unchanged

theorem not_eligible (h : b.checkRootEligibility = false) : b.Better b.bestPort := by
  have hsome : ∃ i, b.Better i := by simpa [checkRootEligibility] using h
  obtain ⟨i, hi⟩ := hsome
  rw [better_iff] at hi ⊢
  exact lt_of_le_of_lt (PriorityVector.root_le (b.bestPort_le i)) hi

/-- The bridge after `selectRootPort`, seen by `selectDesignatedPorts`. -/
def elected (b : STP n) : STP n := { b with isRoot := false }.selectRootPort

theorem tryRoot_root (h : b.checkRootEligibility = true) (henabled : ∀ i, (b.ports i).role ≠ .DISABLED) :
    b.tryRoot.isRoot = true ∧ b.tryRoot.AsRoot ∧ ∀ i, b.tryRoot.ports i = { b.ports i with role := .DESIGNATED } := by
  have hport : ∀ i, b.tryRoot.ports i = { b.ports i with role := .DESIGNATED } := by
    intro i
    simp [tryRoot, h, setAllDesignated, henabled i]
  have hself : b.tryRoot.isRoot = true ∧ b.tryRoot.bridgePriority = b.bridgePriority ∧
      b.tryRoot.bridgeAddress = b.bridgeAddress := by simp [tryRoot, h, setAllDesignated]
  refine ⟨hself.1, ?_, hport⟩
  constructor
  · intro i
    have hno : ∀ i, ¬ b.Better i := by simpa [checkRootEligibility] using h
    unfold Better
    rw [hport i, hself.2.1, hself.2.2]
    exact hno i
  · intro i
    rw [hport i]
  all_goals simp [tryRoot, h, setAllDesignated]

theorem elected_role : (b.elected.ports i).role = if i = b.bestPort then .ROOT else .NOTASSIGNED := rfl

theorem elected_contest : b.elected.contest i =
    if i = b.bestPort then .ROOT
    else if (b.elected.bridgeGlobal i).rank < (b.ports i).rank then .DESIGNATED
    else if (b.ports i).rank < (b.elected.bridgeGlobal i).rank then .ALTERNATE
    else .NOTASSIGNED := by
  have hvector : (b.elected.ports i).toPriorityVector = (b.ports i).toPriorityVector := rfl
  simp only [contest, elected_role, comparePorts_pos, comparePorts_neg, hvector]
  by_cases hi : i = b.bestPort <;> simp [hi]

theorem tryRoot_other (h : b.checkRootEligibility = false) :
    b.tryRoot.isRoot = false ∧ b.tryRoot.AsOther ∧
      ∀ i, b.tryRoot.ports i = { b.ports i with role := b.elected.contest i } := by
  have heq : b.tryRoot = b.elected.selectDesignatedPorts := by simp [tryRoot, h, elected]
  rw [heq]
  refine ⟨rfl, ?_, fun i => rfl⟩
  have hrole : ∀ i, (b.elected.selectDesignatedPorts.ports i).role = b.elected.contest i := fun i => rfl
  constructor
  · exact not_eligible h
  · exact b.bestPort_le
  · intro i
    rw [hrole, elected_contest]
    change _ ↔ i = b.bestPort
    split_ifs with hi <;> simp [hi]
  · intro i
    rw [hrole, elected_contest]
    change _ ↔ i ≠ b.bestPort ∧ (b.elected.bridgeGlobal i).rank < (b.ports i).rank
    split_ifs with hi hlt hgt <;> simp [*]
  · intro i
    rw [hrole, elected_contest]
    change i ∈ (finRange n).filter _ ↔ _
    have hvector : (b.elected.ports i).toPriorityVector = (b.ports i).toPriorityVector := rfl
    simp only [mem_filter, mem_finRange, elected_role, comparePorts_pos, hvector]
    split_ifs with hi hlt hgt <;> simp [*]
  all_goals rfl

theorem tryRoot_info (b : STP n) : SameInfo b.tryRoot b := by
  cases he : b.checkRootEligibility with
  | true =>
    constructor
    all_goals simp only [tryRoot, he, if_true, setAllDesignated]
    all_goals
      intro i
      split_ifs <;> rfl
  | false =>
    constructor
    all_goals simp only [tryRoot, he]
    all_goals first | rfl | exact fun i => rfl

/-- Whatever the roles were, `tryRoot` chooses them. -/
theorem Sound.tryRoot (h : b.Sound) : b.tryRoot.Chosen := by
  cases he : b.checkRootEligibility with
  | true =>
    obtain ⟨hroot, hchoice, hport⟩ := tryRoot_root he h.enabled
    have henabled : ∀ i, (b.tryRoot.ports i).role ≠ .DISABLED := by
      intro i
      simp [hport i]
    exact ⟨h.of_info b.tryRoot_info henabled, fun _ => hchoice, fun hother => absurd (hroot.symm.trans hother) (by decide)⟩
  | false =>
    obtain ⟨hother, hchoice, hport⟩ := tryRoot_other he
    have henabled : ∀ i, (b.tryRoot.ports i).role ≠ .DISABLED := by
      intro i
      rw [hport i]
      simp only [elected_contest]
      split_ifs <;> decide
    exact ⟨h.of_info b.tryRoot_info henabled, fun hroot => absurd (hother.symm.trans hroot) (by decide), fun _ => hchoice⟩

variable {frame : BPDU}

/-- Frames that wait in `relayOut` have no say. -/
theorem Sound.relay (h : b.Sound) {l : List (BPDU × MACAddress × Fin n)} {x y : Bool} :
    Sound { b with relayOut := l, topologyChangeNotification := x, topologyChangeRecvd := y } := { h with }

theorem Chosen.relay (h : b.Chosen) {l : List (BPDU × MACAddress × Fin n)} {x y : Bool} :
    Chosen { b with relayOut := l, topologyChangeNotification := x, topologyChangeRecvd := y } where
  toSound := h.toSound.relay
  asRoot hr := { h.asRoot hr with }
  asOther hr := { h.asOther hr with }

/-- The port keeps the vector of the frame. -/
def Stores (b : STP n) (p : Fin n) (frame : BPDU) : Prop :=
  ¬ (b.ports p).rank < (frame.over (b.ports p).linkCost).rank ∧ frame.messageAge < frame.maxAge
deriving Decidable

/-- What a frame makes of the ports; `stores` says whether its vector is kept. -/
structure Renewed (c b : STP n) (p : Fin n) (frame : BPDU) (stores : Prop) : Prop where
  other : ∀ i, ¬ (i = p ∧ stores) → (c.ports i).toPriorityVector = (b.ports i).toPriorityVector ∧
    (c.ports i).age = (b.ports i).age ∧ (c.ports i).maxAge = (b.ports i).maxAge
  stored : stores → (c.ports p).toPriorityVector = frame.over (b.ports p).linkCost ∧
    (c.ports p).age = 0 ∧ (c.ports p).maxAge = frame.maxAge
  role : ∀ i, (c.ports i).role = (b.ports i).role
  bridgePriority : c.bridgePriority = b.bridgePriority
  bridgeAddress : c.bridgeAddress = b.bridgeAddress
  maxAge : c.maxAge = b.maxAge
  currentBridgePriority : c.currentBridgePriority = b.currentBridgePriority

theorem renewed_refl : Renewed b b p frame False where
  other _ _ := ⟨rfl, rfl, rfl⟩
  stored h := h.elim
  role _ := rfl
  bridgePriority := rfl
  bridgeAddress := rfl
  maxAge := rfl
  currentBridgePriority := rfl

theorem setSuperiorBPDU_renewed :
    Renewed (b.setSuperiorBPDU p frame) b p frame (frame.messageAge < frame.maxAge) := by
  by_cases hage : frame.maxAge ≤ frame.messageAge
  · have hb : b.setSuperiorBPDU p frame = b := if_pos hage
    rw [hb, eq_false (not_lt.mpr hage)]
    exact renewed_refl
  · have hb : ∀ i, (b.setSuperiorBPDU p frame).ports i = if i = p then _ else b.ports i := fun i => by
      rw [setSuperiorBPDU, if_neg hage]
      rfl
    rw [eq_true (not_le.mp hage)]
    constructor
    · intro i hi
      rw [hb i, if_neg fun h => hi ⟨h, trivial⟩]
      exact ⟨rfl, rfl, rfl⟩
    · intro _
      rw [hb p, if_pos rfl]
      exact ⟨rfl, rfl, rfl⟩
    · intro i
      rw [hb i]
      split_ifs <;> rfl
    all_goals
      rw [setSuperiorBPDU, if_neg hage]
      rfl

/-- A new state and a new `fdWhile` change nothing of this. -/
theorem Renewed.of_setPort {fdWhile : Time} {state : PortState} {stores : Prop}
    (h : Renewed c (b.setPort p fun port => { port with fdWhile := fdWhile, state := state }) p frame stores) :
    Renewed c b p frame stores := by
  have hport : ∀ i, ∃ x y, (b.setPort p fun port => { port with fdWhile := fdWhile, state := state }).ports i =
      { b.ports i with fdWhile := x, state := y } := by
    intro i
    by_cases hi : i = p
    · exact ⟨fdWhile, state, if_pos hi⟩
    · exact ⟨(b.ports i).fdWhile, (b.ports i).state, if_neg hi⟩
  constructor
  · intro i hi
    obtain ⟨x, y, hxy⟩ := hport i
    have hother := h.other i hi
    rwa [hxy] at hother
  · intro hs
    obtain ⟨x, y, hxy⟩ := hport p
    have hstored := h.stored hs
    rwa [hxy] at hstored
  · intro i
    obtain ⟨x, y, hxy⟩ := hport i
    have hrole := h.role i
    rwa [hxy] at hrole
  · exact h.bridgePriority
  · exact h.bridgeAddress
  · exact h.maxAge
  · exact h.currentBridgePriority

theorem isSuperiorBPDU_renewed (b : STP n) (p : Fin n) (frame : BPDU) :
    Renewed (b.isSuperiorBPDU p frame).1 b p frame (b.Stores p frame) := by
  unfold Stores
  rw [← comparePorts_pos]
  by_cases hinferior : 0 < comparePorts (b.ports p).toPriorityVector (frame.over (b.ports p).linkCost)
  · simp only [isSuperiorBPDU, hinferior, if_true, not_true, false_and]
    exact renewed_refl
  · simp only [isSuperiorBPDU, hinferior, if_false, not_false_iff, true_and]
    split_ifs with hsuperior
    · exact setSuperiorBPDU_renewed.of_setPort
    · exact setSuperiorBPDU_renewed

theorem Renewed.sound {stores : Prop} (h : Renewed c b p frame stores) (hs : stores → frame.messageAge < frame.maxAge)
    (hb : b.Sound) : c.Sound := by
  have hbetter : ∀ i, ¬ (i = p ∧ stores) → (c.Better i ↔ b.Better i) := by
    intro i hi
    unfold Better
    rw [(h.other i hi).1, h.bridgePriority, h.bridgeAddress]
  constructor
  · intro i
    rw [h.role i]
    exact hb.enabled i
  · intro i
    by_cases hi : i = p ∧ stores
    · exact .inl (hi.1 ▸ (h.stored hi.2).2.1)
    · rw [(h.other i hi).2.1, hbetter i hi]
      exact hb.age i
  · intro i hi'
    by_cases hi : i = p ∧ stores
    · rw [hi.1, (h.stored hi.2).2.2]
      exact Nat.zero_lt_of_lt (hs hi.2)
    · rw [(h.other i hi).2.2]
      exact hb.lasting i ((hbetter i hi).mp hi')
  · rw [h.maxAge]
    exact hb.positive
  · rw [h.currentBridgePriority, h.bridgePriority]
    exact hb.unchanged

/-- The bridge that `handleBPDU` gives to `tryRoot`, but for what it sends. -/
def heard (b : STP n) (frame : BPDU) (p : Fin n) : STP n :=
  ((if frame.tcaFlag then { b with topologyChangeRecvd := true, topologyChangeNotification := false } else b).isSuperiorBPDU
    p frame).1

theorem heard_renewed (b : STP n) (frame : BPDU) (p : Fin n) : Renewed (b.heard frame p) b p frame (b.Stores p frame) := by
  unfold heard
  split_ifs
  · have h := isSuperiorBPDU_renewed { b with topologyChangeRecvd := true, topologyChangeNotification := false } p frame
    exact { h with }
  · exact isSuperiorBPDU_renewed b p frame

theorem heard_same (b : STP n) (frame : BPDU) (p : Fin n) :
    (b.heard frame p).helloTime = b.helloTime ∧ (b.heard frame p).currentMaxAge = b.currentMaxAge := by
  unfold heard isSuperiorBPDU setSuperiorBPDU
  dsimp only
  split_ifs <;> exact ⟨rfl, rfl⟩

theorem sends_eq (l : List (Fin n)) (address : MACAddress) (tcFlag tcaFlag : Bool) :
    l.foldl (fun b i => b.generateBPDU i address tcFlag tcaFlag) b =
      { b with relayOut := b.relayOut ++ l.map fun i => (b.bpdu i tcFlag tcaFlag, address, i) } := by
  induction l generalizing b with
  | nil => simp
  | cons i l ih =>
    rw [foldl_cons, ih]
    simp [generateBPDU, bpdu]

theorem handleBPDU_eq (b : STP n) (frame : BPDU) (p : Fin n) :
    ∃ l, b.handleBPDU frame p = STP.tryRoot { b.heard frame p with relayOut := l } := by
  unfold handleBPDU heard
  dsimp only
  generalize (if frame.tcaFlag then { b with topologyChangeRecvd := true, topologyChangeNotification := false }
    else b : STP n).isSuperiorBPDU p frame = x
  have hrelay : ∃ l, x.1.relayBPDU frame.tcFlag = { x.1 with relayOut := l } := ⟨_, sends_eq _ _ _ _⟩
  obtain ⟨out, hout⟩ := hrelay
  suffices hsent : ∃ l, (if ¬ x.2 = true then
        if (x.1.ports p).role = .DESIGNATED then x.1.generateBPDU p STP_MULTICAST_ADDRESS false false else x.1
      else if (x.1.ports p).role = .ROOT then x.1.relayBPDU frame.tcFlag else x.1) = { x.1 with relayOut := l } by
    obtain ⟨l, hl⟩ := hsent
    exact ⟨l, congrArg STP.tryRoot hl⟩
  split_ifs
  · exact ⟨out, hout⟩
  · exact ⟨x.1.relayOut, rfl⟩
  · exact ⟨_, rfl⟩
  · exact ⟨x.1.relayOut, rfl⟩

theorem handleBPDU_chosen (h : b.Sound) : (b.handleBPDU frame p).Chosen := by
  obtain ⟨l, hl⟩ := b.handleBPDU_eq frame p
  rw [hl]
  exact ((b.heard_renewed frame p).sound And.right h).relay.tryRoot

section

variable (h : b.Chosen)
include h

theorem handleTCN_chosen {tcn : BPDU} {src dest : MACAddress} : (b.handleTCN tcn src dest p).Chosen := by
  unfold handleTCN
  dsimp only
  split_ifs
  · exact h.relay
  · exact h.relay

/-- A port that is not designated has heard of a better root. -/
theorem Chosen.better (hrole : (b.ports i).role ≠ .DESIGNATED) : b.isRoot = false ∧ b.Better i := by
  cases hroot : b.isRoot with
  | true => exact absurd ((h.asRoot hroot).designated i) hrole
  | false =>
    have hother := h.asOther hroot
    refine ⟨rfl, ?_⟩
    have hle : bridgeRank (b.ports i).rootPriority (b.ports i).rootAddress ≤ b.rootId := by
      have heq : b.rootId = bridgeRank (b.ports b.rootPort).rootPriority (b.ports b.rootPort).rootAddress := by
        rw [rootId, hother.rootPriority, hother.rootAddress]
      by_cases hi : i = b.rootPort
      · rw [hi, heq]
      · have hnot := fun hlt => hrole ((hother.designated i).mpr ⟨hi, hlt⟩)
        exact PriorityVector.root_le (not_lt.mp hnot)
    have hbetter := better_iff.mp hother.better
    rw [better_iff]
    refine lt_of_le_of_lt hle ?_
    rwa [rootId, hother.rootPriority, hother.rootAddress]

/-- Timers of the ports have no say in the choice. -/
theorem Chosen.timers {f : Fin n → PortInfo}
    (hport : ∀ i, ∃ age fdWhile state, f i = { b.ports i with age := age, fdWhile := fdWhile, state := state })
    (hage : ∀ i, (f i).age = 0 ∨ b.Better i) {helloTime : Time} {l : List (BPDU × MACAddress × Fin n)} :
    Chosen { b with ports := f, helloTime := helloTime, relayOut := l } := by
  set c : STP n := { b with ports := f, helloTime := helloTime, relayOut := l } with hc
  have hvector : ∀ i, (c.ports i).toPriorityVector = (b.ports i).toPriorityVector := by
    intro i
    obtain ⟨age, fdWhile, state, hx⟩ := hport i
    change (f i).toPriorityVector = _
    rw [hx]
  have hrole : ∀ i, (c.ports i).role = (b.ports i).role := by
    intro i
    obtain ⟨age, fdWhile, state, hx⟩ := hport i
    change (f i).role = _
    rw [hx]
  have hmaxAge : ∀ i, (c.ports i).maxAge = (b.ports i).maxAge := by
    intro i
    obtain ⟨age, fdWhile, state, hx⟩ := hport i
    change (f i).maxAge = _
    rw [hx]
  have hglobal : ∀ i, c.bridgeGlobal i = b.bridgeGlobal i := by
    intro i
    obtain ⟨age, fdWhile, state, hx⟩ := hport i
    unfold bridgeGlobal
    rw [hc]
    dsimp only
    rw [hx]
  have hbetter : ∀ i, c.Better i ↔ b.Better i := by
    intro i
    unfold Better
    rw [hvector i]
  constructor
  · constructor
    · intro i
      rw [hrole i]
      exact h.enabled i
    · intro i
      rw [hbetter i]
      exact hage i
    · intro i hi
      rw [hmaxAge i]
      exact h.lasting i ((hbetter i).mp hi)
    · exact h.positive
    · exact h.unchanged
  · intro hroot
    have hself := h.asRoot hroot
    refine { hself with noBetter := fun i hi => hself.noBetter i ((hbetter i).mp hi), designated := fun i => ?_ }
    rw [hrole i]
    exact hself.designated i
  · intro hother
    have hself := h.asOther hother
    have hroot := hvector b.rootPort
    constructor
    · exact (hbetter _).mpr hself.better
    · intro i
      rw [hvector i, hroot]
      exact hself.best i
    · intro i
      rw [hrole i]
      exact hself.rootRole i
    · intro i
      rw [hrole i, hglobal i, hvector i]
      exact hself.designated i
    · intro i
      rw [hrole i]
      exact hself.mem_desPorts i
    · exact hself.rootPriority.trans (congrArg PriorityVector.rootPriority hroot.symm)
    · exact hself.rootAddress.trans (congrArg PriorityVector.rootAddress hroot.symm)
    · exact hself.rootPathCost.trans (congrArg PriorityVector.rootPathCost hroot.symm)
    · exact hself.currentMaxAge.trans (hmaxAge b.rootPort).symm

/-- A tick makes information older that is of a better root. -/
theorem Chosen.countTick : b.countTick.Chosen := by
  have hport : ∀ i, ∃ age fdWhile state, tickPort (b.ports i) =
      { b.ports i with age := age, fdWhile := fdWhile, state := state } := by
    intro i
    rw [tickPort, if_neg (h.enabled i)]
    exact ⟨_, _, _, rfl⟩
  refine h.timers hport fun i => ?_
  rw [tickPort, if_neg (h.enabled i)]
  by_cases hrole : (b.ports i).role = .DESIGNATED
  · simpa [hrole] using h.age i
  · exact .inr (h.better hrole).2

theorem Chosen.checkHello : b.checkHello.Chosen := by
  have hsame : ∀ i, ∃ age fdWhile state, b.ports i = { b.ports i with age := age, fdWhile := fdWhile, state := state } :=
    fun i => ⟨_, _, _, rfl⟩
  unfold STP.checkHello
  have hhello : b.generateHelloBDPUs = _ := sends_eq _ STP_MULTICAST_ADDRESS false false
  split_ifs
  · rw [hhello]
    exact h.timers hsame h.age
  · exact h.timers hsame h.age
  · exact h

end

theorem initInterfacedata_port : (b.initInterfacedata i).ports j =
    if j = i then
      { b.ports j with role := .NOTASSIGNED, state := .DISCARDING, toPriorityVector := b.ownVector, age := 0, lostBPDU := 0 }
    else b.ports j := rfl

theorem initInterfacedata_self : ((b.initInterfacedata i).ports i).toPriorityVector = b.ownVector ∧
    ((b.initInterfacedata i).ports i).role = .NOTASSIGNED ∧ ((b.initInterfacedata i).ports i).age = 0 := by
  rw [initInterfacedata_port, if_pos rfl]
  exact ⟨rfl, rfl, rfl⟩

theorem initInterfacedata_better : (b.initInterfacedata i).Better j ↔ j ≠ i ∧ b.Better j := by
  by_cases hj : j = i
  · subst hj
    rw [better_iff, initInterfacedata_self.1]
    simp [bridgeId, STPBase.ownVector, initInterfacedata, setPort]
  · unfold Better
    simp [hj, initInterfacedata, setPort]

theorem Sound.initInterfacedata (h : b.Sound) (i : Fin n) : (b.initInterfacedata i).Sound := by
  constructor
  · intro j
    rw [initInterfacedata_port]
    split_ifs
    · simp
    · exact h.enabled j
  · intro j
    rw [initInterfacedata_better, initInterfacedata_port]
    split_ifs with hj
    · exact .inl rfl
    · simpa [hj] using h.age j
  · intro j hj
    rw [initInterfacedata_better] at hj
    rw [initInterfacedata_port, if_neg hj.1]
    exact h.lasting j hj.2
  · exact h.positive
  · exact h.unchanged

/-- The contest of `selectDesignatedPorts`, when no port but the root port has the role of a root. -/
theorem contest_spec (henabled : ∀ j, (b.ports j).role ≠ .DISABLED) (hroot : ∀ j, (b.ports j).role = .ROOT ↔ j = b.rootPort)
    (hdesignated : ∀ j, (b.ports j).role = .DESIGNATED → (b.bridgeGlobal j).rank < (b.ports j).rank) (j : Fin n) :
    (b.contest j = .ROOT ↔ j = b.rootPort) ∧
      (b.contest j = .DESIGNATED ↔ j ≠ b.rootPort ∧ (b.bridgeGlobal j).rank < (b.ports j).rank) ∧
      (j ∈ b.selectDesignatedPorts.desPorts ↔ b.contest j = .DESIGNATED) ∧ b.contest j ≠ .DISABLED := by
  change _ ∧ _ ∧ (j ∈ (finRange n).filter _ ↔ _) ∧ _
  simp only [mem_filter, mem_finRange, contest, comparePorts_pos, comparePorts_neg]
  have hroot := hroot j
  have hdesignated := hdesignated j
  by_cases hj : j = b.rootPort
  · have hrole := hroot.mpr hj
    simp [hj ▸ hrole, hj]
  · have hrole : (b.ports j).role ≠ .ROOT := fun h => hj (hroot.mp h)
    split_ifs with h₁ h₂ h₃
    · simp [hrole, henabled] at h₁
    · simp [h₁, h₂, hj]
    · simp [h₁, h₂, hj]
    · have hnot : (b.ports j).role ≠ .DESIGNATED := fun h => h₂ (hdesignated h)
      simp [h₂, hj, hnot, hrole, henabled]

/-- A port that is not the root port may forget what it has heard. -/
theorem Chosen.lostAlternate (h : b.Chosen) (hother : b.isRoot = false) (hi : i ≠ b.rootPort) :
    (b.initInterfacedata i).lostAlternate.Chosen := by
  have hself := h.asOther hother
  set d := b.initInterfacedata i with hd
  have hsound : d.Sound := h.toSound.initInterfacedata i
  have hport : ∀ j, j ≠ i → d.ports j = b.ports j := fun j hj => by rw [hd, initInterfacedata_port, if_neg hj]
  have hrootPort : d.ports d.rootPort = b.ports b.rootPort := hport b.rootPort hi.symm
  have hglobal : ∀ j, j ≠ i → d.bridgeGlobal j = b.bridgeGlobal j := by
    intro j hj
    unfold bridgeGlobal
    rw [hport j hj]
    rfl
  have hroot : ∀ j, (d.ports j).role = .ROOT ↔ j = d.rootPort := by
    intro j
    by_cases hj : j = i
    · subst hj
      rw [hd, initInterfacedata_self.2.1]
      exact iff_of_false (by decide) hi
    · rw [hport j hj]
      exact hself.rootRole j
  have hdesignated : ∀ j, (d.ports j).role = .DESIGNATED → (d.bridgeGlobal j).rank < (d.ports j).rank := by
    intro j hrole
    by_cases hj : j = i
    · subst hj
      rw [hd, initInterfacedata_self.2.1] at hrole
      cases hrole
    · rw [hport j hj] at hrole ⊢
      rw [hglobal j hj]
      exact ((hself.designated j).mp hrole).2
  have hspec := contest_spec hsound.enabled hroot hdesignated
  have hbest : ∀ j, (d.ports d.rootPort).rank ≤ (d.ports j).rank := by
    intro j
    rw [hrootPort]
    by_cases hj : j = i
    · subst hj
      rw [hd, initInterfacedata_self.1, PriorityVector.rank, PriorityVector.rank, Prod.Lex.toLex_le_toLex]
      exact .inl (better_iff.mp hself.better)
    · rw [hport j hj]
      exact hself.best j
  refine ⟨hsound.of_info ⟨fun _ => rfl, fun _ => rfl, fun _ => rfl, rfl, rfl, rfl, rfl⟩ fun j => (hspec j).2.2.2,
    fun hroot => ?_, fun _ => ?_⟩
  · exact absurd (hother.symm.trans hroot) (by decide)
  · constructor
    · exact initInterfacedata_better.mpr ⟨hi.symm, hself.better⟩
    · exact hbest
    · exact fun j => (hspec j).1
    · exact fun j => (hspec j).2.1
    · exact fun j => (hspec j).2.2.1
    · exact hself.rootPriority.trans (congrArg (·.rootPriority) hrootPort.symm)
    · exact hself.rootAddress.trans (congrArg (·.rootAddress) hrootPort.symm)
    · exact hself.rootPathCost.trans (congrArg (·.rootPathCost) hrootPort.symm)
    · exact hself.currentMaxAge.trans (congrArg (·.maxAge) hrootPort.symm)

/-- Information that is too old is of a better root, or the bridge is no root. -/
theorem Chosen.checkAge (h : b.Chosen) (i : Fin n) : (b.checkAge i).Chosen := by
  unfold STP.checkAge
  split_ifs with hold hrole
  · exact (h.toSound.initInterfacedata i).relay.tryRoot
  · cases hroot : b.isRoot with
    | true =>
      have hself := h.asRoot hroot
      have hage : (b.ports i).age = 0 := Or.resolve_right (h.age i) (hself.noBetter i)
      rw [hage, hself.currentMaxAge] at hold
      exact absurd h.positive (not_lt.mpr hold)
    | false =>
      have hself := h.asOther hroot
      have hi : i ≠ b.rootPort := fun hi => hrole ((hself.rootRole i).mpr hi)
      exact h.lostAlternate hroot hi
  · exact h

theorem Chosen.checkTimers (h : b.Chosen) : b.checkTimers.Chosen := by
  have hloop : Chosen ((finRange n).foldl STP.checkAge b.checkHello) :=
    IndexLoops.foldl_keeps (fun b i hb => hb.checkAge i) _ h.checkHello
  have hage : ∀ (b : STP n) port, (b.checkFdWhile port).age = port.age := by
    intro b port
    unfold checkFdWhile
    split_ifs
    · split <;> rfl
    · rfl
    · rfl
  refine hloop.timers (fun i => ?_) (fun i => ?_)
  · unfold checkFdWhile
    split_ifs
    · split <;> exact ⟨_, _, _, rfl⟩
    · exact ⟨_, _, _, rfl⟩
    · exact ⟨_, _, _, rfl⟩
  · rw [hage]
    exact hloop.age i

theorem Chosen.checkParametersChange (h : b.Chosen) : b.checkParametersChange.Chosen := by
  have hparams : Chosen (if b.isRoot then
      { b with currentHelloTime := b.helloTime, currentMaxAge := b.maxAge, currentFwdDelay := b.forwardDelay } else b) := by
    split_ifs with hroot
    · refine ⟨{ h.toSound with }, fun _ => { h.asRoot hroot with currentMaxAge := rfl }, fun hother => ?_⟩
      exact absurd (hroot.symm.trans hother) (by decide)
    · exact h
  unfold STP.checkParametersChange
  rw [if_neg]
  · exact hparams
  · have := hparams.unchanged
    simpa using this

theorem generateTCN_eq (b : STP n) : ∃ l x, b.generateTCN = { b with relayOut := l, topologyChangeNotification := x } := by
  unfold generateTCN
  split_ifs
  · exact ⟨_, _, rfl⟩
  · exact ⟨b.relayOut, b.topologyChangeNotification, rfl⟩

theorem Chosen.handleTick (h : b.Chosen) : b.handleTick.Chosen := by
  obtain ⟨l, x, hx⟩ := b.countTick.checkTimers.checkParametersChange.generateTCN_eq
  unfold STP.handleTick
  rw [hx]
  exact h.countTick.checkTimers.checkParametersChange.relay

/-- What every message keeps. -/
structure Kept (b : STP n) : Prop extends Chosen b where
  hello : b.isRoot = true → b.currentHelloTime = b.helloTime

theorem tryRoot_hello (b : STP n) (h : b.tryRoot.isRoot = true) : b.tryRoot.currentHelloTime = b.tryRoot.helloTime := by
  cases he : b.checkRootEligibility with
  | true => simp [tryRoot, he, setAllDesignated]
  | false =>
    rw [(tryRoot_other he).1] at h
    cases h

theorem handleBPDU_kept (h : b.Sound) : (b.handleBPDU frame p).Kept where
  toChosen := handleBPDU_chosen h
  hello := by
    obtain ⟨l, hl⟩ := b.handleBPDU_eq frame p
    rw [hl]
    exact tryRoot_hello _

theorem checkParametersChange_hello (hroot : b.checkParametersChange.isRoot = true) :
    b.checkParametersChange.currentHelloTime = b.checkParametersChange.helloTime := by
  unfold checkParametersChange at *
  dsimp only at *
  split_ifs at * with hself hchange hchange
  all_goals first | rfl | exact absurd hroot hself

theorem Chosen.handleTick_kept (h : b.Chosen) : b.handleTick.Kept where
  toChosen := h.handleTick
  hello := by
    obtain ⟨l, x, hx⟩ := b.countTick.checkTimers.checkParametersChange.generateTCN_eq
    unfold STP.handleTick
    rw [hx]
    exact checkParametersChange_hello

theorem Kept.handleMessage (h : b.Kept) (event : Event n) : (b.handleMessage event).Kept := by
  cases event with
  | bpdu frame src dest arrivalGate =>
    unfold STP.handleMessage
    dsimp only
    split_ifs
    · exact handleBPDU_kept h.toSound
    · refine ⟨handleTCN_chosen h.toChosen, ?_⟩
      unfold handleTCN
      dsimp only
      split_ifs <;> exact h.hello
    · exact h
  | tick => exact h.handleTick_kept

theorem initialized_kept (b : STP n) (h : 0 < b.maxAge) : b.initialized.Kept := by
  have hport : ∀ i, b.initialized.ports i = { (b.initInterfacedata i).ports i with role := .DESIGNATED } := by
    intro i
    simp [initialized, setAllDesignated, initInterfacedata_self.2.1]
  have hbetter : ∀ i, ¬ b.initialized.Better i := by
    intro i
    unfold Better
    rw [hport i]
    rw [initInterfacedata_self.1, compareBridgeIDs_pos]
    exact lt_irrefl _
  refine ⟨⟨⟨?_, ?_, ?_, h, rfl⟩, fun _ => ⟨hbetter, ?_, rfl, rfl, rfl, rfl⟩, fun hother => ?_⟩, fun _ => rfl⟩
  · intro i
    simp [hport i]
  · intro i
    rw [hport i]
    exact .inl initInterfacedata_self.2.2
  · intro i hi
    exact absurd hi (hbetter i)
  · intro i
    rw [hport i]
  · cases hother

/-- A run of messages from `initialize` on, in a bridge that keeps information for some time, leads here. -/
def Reached (b : STP n) : Prop :=
  ∃ (start : STP n) (events : List (Event n)), 0 < start.maxAge ∧ events.foldl handleMessage start.initialized = b

theorem Reached.kept (h : b.Reached) : b.Kept := by
  obtain ⟨start, events, hmaxAge, rfl⟩ := h
  exact IndexLoops.foldl_keeps (fun b event hb => hb.handleMessage event) events (start.initialized_kept hmaxAge)

end STP

end Inet.Ieee8021d
