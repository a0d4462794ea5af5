import Inetmanet.Ieee8021d.RSTPShortestTree
import Inetmanet.Ieee8021d.RSTPLawful

/-!
# The spanning tree of RSTP

A stable network of bridges whose roles agree with their contests is a tree of
shortest paths. Roles need not agree: an alternate port is not contested again when the
bridge finds a better way to the root over another port, and it stays silent.
-/
namespace Inet.Ieee8021d.RSTPNetwork

open RSTP

theorem free_of_costs {V : Type} {g : RSTPNetwork V}
    (h : ∀ v p, (g.peer v p).isSome → ((g.bridge v).ports p).linkCost ≠ 0) (v : V) : ¬ Relation.TransGen g.FreeParent v v := by
  intro hcycle
  obtain ⟨w, -, p, q, -, hpeer, hzero⟩ := Relation.TransGen.tail'_iff.mp hcycle
  exact h v p (by rw [hpeer]; rfl) hzero

/-- Stable networks whose roles are right have found the shortest paths to the least bridge. -/
theorem stable_shortestTree {V : Type} [Finite V] [Nonempty V] (g : RSTPNetwork V) (hconn : g.Connected)
    (hreached : ∀ v, (g.bridge v).Reached) (hstable : g.Stable)
    (hright : g.RolesRight) (hlimits : g.WithinLimits) :
    g.ShortestTree :=
  Good.shortestTree ⟨fun v => (hreached v).kept, hstable, hright, hlimits⟩ hconn

instance {n : Nat} (b : RSTP n) : (event : Event n) → Decidable (b.FromOthers event)
  | .bpdu _ _ _ => inferInstanceAs (Decidable (_ ∧ _))
  | .helloTimer => isTrue trivial
  | .upgradeTimer => isTrue trivial
  | .interfaceStateChanged _ _ => isTrue trivial
  | .elapse _ => isTrue trivial

section Checks

variable {V : Type} (g : RSTPNetwork V)

/-- The BPDU sent at the other end of the link arrives. -/
def arrive {v : V} (b : RSTP (g.numPorts v)) (p : Fin (g.numPorts v)) (other : Σ w, Fin (g.numPorts w)) :
    Except Error (RSTP (g.numPorts v)) :=
  b.handleIncomingFrame ((g.bridge other.1).hello other.2) (g.bridge other.1).bridgeAddress p

def deliveryOk (v : V) (p : Fin (g.numPorts v)) : Bool :=
  match g.peer v p with
  | none => true
  | some other =>
    if (g.bridge other.1).Sends other.2 then
      match g.arrive (g.bridge v) p other with
      | .ok c => decide (SameCore c (g.bridge v))
      | .error _ => false
    else true

def hears (v : V) (p : Fin (g.numPorts v)) : Bool :=
  match g.peer v p with
  | none => false
  | some other =>
    decide ((g.bridge other.1).Sends other.2) && match g.arrive ((g.bridge v).patience p) p other with
      | .ok c => decide ((c.ports p).lostBPDU = 0)
      | .error _ => false

variable {g}

theorem stable_of_checks (hdelivery : ∀ v p, g.deliveryOk v p)
    (hhello : ∀ v p, g.hears v p ∨ SameCore (((g.bridge v).patience p).helloPort p) ((g.bridge v).patience p))
    (hupgrade : ∀ v p, (g.bridge v).hasCarrier p →
      SameCore (RSTP.handleUpgrade { g.bridge v with simTime := ((g.bridge v).ports p).nextUpgrade }) (g.bridge v)) :
    g.Stable where
  delivery v p w q hpeer hsends := by
    have hok := hdelivery v p
    unfold deliveryOk at hok
    rw [hpeer] at hok
    dsimp only at hok
    rw [if_pos hsends] at hok
    cases harrive : g.arrive (g.bridge v) p ⟨w, q⟩ with
    | ok c =>
      rw [harrive] at hok
      exact ⟨c, harrive, by simpa using hok⟩
    | error e =>
      rw [harrive] at hok
      cases hok
  hello v p hno := by
    refine (hhello v p).resolve_left fun hhears => hno ?_
    unfold hears at hhears
    cases hpeer : g.peer v p with
    | none =>
      rw [hpeer] at hhears
      cases hhears
    | some other =>
      rw [hpeer] at hhears
      rw [Bool.and_eq_true, decide_eq_true_eq] at hhears
      cases harrive : g.arrive ((g.bridge v).patience p) p other with
      | ok c =>
        have hzero := hhears.2
        rw [harrive] at hzero
        exact ⟨other.1, other.2, c, hpeer, hhears.1, harrive, by simpa using hzero⟩
      | error e =>
        have hzero := hhears.2
        rw [harrive] at hzero
        cases hzero
  upgrade := hupgrade

end Checks

/-- A port before the first BPDU. -/
def newPort (linkCost : UInt) : PortInfo where
  rootPriority := 0
  rootAddress := 0
  rootPathCost := 0
  bridgePriority := 0
  bridgeAddress := 0
  portPriority := 0
  portNum := 0
  priority := 128
  linkCost := linkCost
  edge := false
  state := .FORWARDING
  role := .NOTASSIGNED
  age := 0
  maxAge := 0
  fdWhile := 0
  fwdDelay := 0
  helloTime := 0
  TCWhile := 0
  lostBPDU := 0
  nextUpgrade := 0

/-- A bridge before it starts, with the costs of its links. -/
def newBridge {n : Nat} (address : MACAddress) (linkCost : Fin n → Option UInt) : RSTP n where
  bridgePriority := 32768
  bridgeAddress := address
  maxAge := 20 * second
  helloTime := 10 * second
  forwardDelay := 4 * second
  migrateTime := 3 * second
  tcWhileTime := 6 * second
  ports i := newPort ((linkCost i).getD 0)
  hasCarrier i := (linkCost i).isSome
  simTime := 0
  helloTimer := none
  upgradeTimer := none
  relayOut := []

/-- The bridge when all this has happened. -/
def after {n : Nat} (b : RSTP n) (events : List (Event n)) : RSTP n :=
  match Runs.run handleMessage b.initialized events with
  | .ok c => c
  | .error _ => b

theorem run_after {n : Nat} {b : RSTP n} {events : List (Event n)} (h : (Runs.run handleMessage b.initialized events).isOk) :
    Runs.run handleMessage b.initialized events = .ok (after b events) := by
  unfold after
  cases hrun : Runs.run handleMessage b.initialized events with
  | ok c => rfl
  | error e =>
    rw [hrun] at h
    cases h

/-- What a bridge at this cost from bridge 1 sends through its port. -/
def rootedBPDU (address : MACAddress) (cost : UInt) (age : Time) (port : UInt) : BPDU where
  rootPriority := 32768
  rootAddress := 1
  rootPathCost := cost
  bridgePriority := 32768
  bridgeAddress := address
  portPriority := 0
  portNum := port
  bpduType := 0
  tcaFlag := false
  tcFlag := false
  messageAge := age
  maxAge := 20 * second
  helloTime := 10 * second
  forwardDelay := 4 * second

/-- Bridge 1 is the root. It is linked to 2, 3 and 4, and 2 is linked to 3 and 4. -/
def costs : Fin 4 → Fin 3 → Option UInt
  | 0, 0 => some 1
  | 0, 1 => some 100
  | 0, 2 => some 100
  | 1, _ => some 1
  | 2, 0 => some 100
  | 2, 1 => some 1
  | 3, 0 => some 100
  | 3, 1 => some 1
  | _, _ => none

def upgrades {n : Nat} : List (Event n) :=
  [.helloTimer, .elapse (3 * second), .upgradeTimer, .elapse (7 * second), .upgradeTimer, .elapse (10 * second), .helloTimer,
    .elapse (11 * second), .upgradeTimer]

/-- Bridge 2 hears of the root from 3 and 4 before it hears the root itself. -/
def history : Fin 4 → List (Event 3)
  | 0 => upgrades
  | 1 => [.bpdu (rootedBPDU 3 100 second 1) 3 1, .bpdu (rootedBPDU 4 100 second 1) 4 2, .bpdu (rootedBPDU 1 0 0 0) 1 0,
      .helloTimer, .elapse (4 * second), .upgradeTimer, .elapse (8 * second), .upgradeTimer]
  | 2 => [.bpdu (rootedBPDU 1 0 0 1) 1 0, .bpdu (rootedBPDU 2 1 second 1) 2 1, .helloTimer]
  | 3 => .bpdu (rootedBPDU 1 0 0 2) 1 0 :: upgrades

def lateStart (v : Fin 4) : RSTP 3 := newBridge (BitVec.ofNat 48 (v + 1)) (costs v)

def lateBridge (v : Fin 4) : RSTP 3 := after (lateStart v) (history v)

def latePeer : Fin 4 → Fin 3 → Option (Σ _ : Fin 4, Fin 3)
  | 0, 0 => some ⟨1, 0⟩
  | 0, 1 => some ⟨2, 0⟩
  | 0, 2 => some ⟨3, 0⟩
  | 1, 0 => some ⟨0, 0⟩
  | 1, 1 => some ⟨2, 1⟩
  | 1, 2 => some ⟨3, 1⟩
  | 2, 0 => some ⟨0, 1⟩
  | 2, 1 => some ⟨1, 1⟩
  | 3, 0 => some ⟨0, 2⟩
  | 3, 1 => some ⟨1, 2⟩
  | _, _ => none

theorem latePeer_symm : ∀ v w p q, latePeer v p = some ⟨w, q⟩ → latePeer w q = some ⟨v, p⟩ := by decide

theorem latePeer_ne : ∀ v w p q, latePeer v p = some ⟨w, q⟩ → v ≠ w := by decide

theorem lateBridge_ports : ∀ v p, ((lateBridge v).ports p).edge = false ∧
    ((latePeer v p).isSome → (lateBridge v).hasCarrier p) := by decide

theorem lateBridge_address : ∀ v w, (lateBridge v).bridgeAddress = (lateBridge w).bridgeAddress → v = w := by decide

def lateNetwork : RSTPNetwork (Fin 4) where
  numPorts _ := 3
  bridge := lateBridge
  peer := latePeer
  peer_symm h := latePeer_symm _ _ _ _ h
  peer_ne h := latePeer_ne _ _ _ _ h
  not_edge _ := (lateBridge_ports _ _).1
  carrier h := (lateBridge_ports _ _).2 (by rw [h]; rfl)
  addresses h := lateBridge_address _ _ h

theorem lateNetwork_stable : lateNetwork.Stable := stable_of_checks (by decide) (by decide) (by decide)

theorem lateNetwork_reached (v : Fin 4) : (lateNetwork.bridge v).Reached := by
  refine ⟨lateStart v, history v, Runs.everyStep_of_check ?_, ?_⟩
  · revert v
    decide
  · have hok : ∀ v, (Runs.run handleMessage (lateStart v).initialized (history v)).isOk := by decide
    exact run_after (hok v)

theorem lateNetwork_connected : lateNetwork.Connected := by
  have htwo : ∀ v w : Fin 4, v = w ∨ (∃ p q, latePeer v p = some ⟨w, q⟩) ∨
      ∃ u, (∃ p q, latePeer v p = some ⟨u, q⟩) ∧ ∃ p q, latePeer u p = some ⟨w, q⟩ := by decide
  exact SpanningTree.reaches_of_two htwo

theorem lateNetwork_limits : lateNetwork.WithinLimits where
  age := by
    unfold Disputed
    decide
  claimed := by
    unfold Disputed
    decide
  heard := by decide
  free := free_of_costs (by decide)

/-- Bridge 4 keeps to its own link of cost 100, although 2 reaches the root at cost 1. -/
theorem late_not_shortest : ¬ ∀ (V : Type) [Finite V] [Nonempty V] (g : RSTPNetwork V), g.Connected →
    (∀ v, (g.bridge v).Reached) → g.Stable → g.WithinLimits → g.ShortestTree := by
  intro h
  obtain ⟨r, hleast, hway⟩ := (h (Fin 4) lateNetwork lateNetwork_connected lateNetwork_reached lateNetwork_stable
    lateNetwork_limits).root
  have hr : r = 0 := by
    have hone : ∀ r, (∀ v, (lateNetwork.bridge r).bridgeId ≤ (lateNetwork.bridge v).bridgeId) → r = 0 := by decide
    exact hone r hleast
  subst hr
  have hshort : lateNetwork.choice.Way 0 3 (1 + (1 + 0)) :=
    .step ⟨(1 : Fin 3), (2 : Fin 3), rfl, by decide⟩ (.step ⟨(0 : Fin 3), (0 : Fin 3), rfl, by decide⟩ .here)
  have hcost := (hway 3).2.2 _ hshort
  exact absurd hcost (by decide)

/-- Three bridges of which each has a link to the others. -/
def triangleHistory : Fin 3 → List (Event 2)
  | 0 => upgrades
  | 1 => .bpdu (rootedBPDU 1 0 0 0) 1 0 :: upgrades
  | 2 => [.bpdu (rootedBPDU 1 0 0 1) 1 0, .bpdu (rootedBPDU 2 1 second 1) 2 1, .helloTimer]

def triangleStart (v : Fin 3) : RSTP 2 := newBridge (BitVec.ofNat 48 (v + 1)) fun _ => some 1

def triangleBridge (v : Fin 3) : RSTP 2 := after (triangleStart v) (triangleHistory v)

def trianglePeer : Fin 3 → Fin 2 → Option (Σ _ : Fin 3, Fin 2)
  | 0, 0 => some ⟨1, 0⟩
  | 0, 1 => some ⟨2, 0⟩
  | 1, 0 => some ⟨0, 0⟩
  | 1, 1 => some ⟨2, 1⟩
  | 2, 0 => some ⟨0, 1⟩
  | 2, 1 => some ⟨1, 1⟩

theorem trianglePeer_symm : ∀ v w p q, trianglePeer v p = some ⟨w, q⟩ → trianglePeer w q = some ⟨v, p⟩ := by decide

theorem trianglePeer_ne : ∀ v w p q, trianglePeer v p = some ⟨w, q⟩ → v ≠ w := by decide

theorem triangleBridge_ports : ∀ v p, ((triangleBridge v).ports p).edge = false ∧ (triangleBridge v).hasCarrier p := by
  decide

theorem triangleBridge_address : ∀ v w, (triangleBridge v).bridgeAddress = (triangleBridge w).bridgeAddress → v = w := by
  decide

def triangleNetwork : RSTPNetwork (Fin 3) where
  numPorts _ := 2
  bridge := triangleBridge
  peer := trianglePeer
  peer_symm h := trianglePeer_symm _ _ _ _ h
  peer_ne h := trianglePeer_ne _ _ _ _ h
  not_edge _ := (triangleBridge_ports _ _).1
  carrier _ := (triangleBridge_ports _ _).2
  addresses h := triangleBridge_address _ _ h

theorem triangleNetwork_reached (v : Fin 3) : (triangleNetwork.bridge v).Reached := by
  refine ⟨triangleStart v, triangleHistory v, Runs.everyStep_of_check ?_, ?_⟩
  · revert v
    decide
  · have hok : ∀ v, (Runs.run handleMessage (triangleStart v).initialized (triangleHistory v)).isOk := by decide
    exact run_after (hok v)

theorem triangleNetwork_stable : triangleNetwork.Stable := stable_of_checks (by decide) (by decide) (by decide)

theorem triangle_undisputed : ∀ v p w q, ¬ triangleNetwork.Disputed v w p q := by
  unfold Disputed
  decide

/-- The third bridge blocks its link to the second one. -/
theorem triangle_alternate : ∀ v p, ((triangleBridge v).ports p).role = .ALTERNATE →
    (triangleBridge v).contestPort p = .ok .BETTER_SRC := by decide

theorem triangle_shortestTree : triangleNetwork.ShortestTree := by
  refine stable_shortestTree triangleNetwork ?_ triangleNetwork_reached triangleNetwork_stable ?_ ?_
  · have hlink : ∀ v w : Fin 3, v = w ∨ ∃ p q, trianglePeer v p = some ⟨w, q⟩ := by decide
    exact SpanningTree.reaches_of_two fun v w => (hlink v w).imp_right Or.inl
  · constructor
    · exact fun v p w q _ halternate => ⟨_, triangle_alternate v p halternate, by decide⟩
    · exact fun v p w q h => absurd h (triangle_undisputed v p w q)
    · exact fun v p w q h => absurd h (triangle_undisputed v p w q)
  · constructor
    · exact fun v p w q h => absurd h (triangle_undisputed v p w q)
    · exact fun v p w q h => absurd h (triangle_undisputed v p w q)
    · decide
    · exact free_of_costs (by decide)

end Inet.Ieee8021d.RSTPNetwork
