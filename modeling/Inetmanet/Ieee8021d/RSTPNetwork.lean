import Inetmanet.Ieee8021d.RSTPStable
import Inetmanet.Lib.SpanningTree

/-!
# Stable networks of RSTP bridges

Bridges on point-to-point links, in a state that no hello round, no delivery of a BPDU
and no upgrade changes. When every role is the one that the contests of the source
give, the bridges have found the shortest paths to the least bridge.
-/
namespace Inet.Ieee8021d

open RSTP

/-- Bridges with different addresses; no edge port is on a link, and no link is down. -/
structure RSTPNetwork (V : Type) where
  numPorts : V → Nat
  bridge : (v : V) → RSTP (numPorts v)
  peer : (v : V) → Fin (numPorts v) → Option (Σ w, Fin (numPorts w))
  peer_symm : ∀ {v w p q}, peer v p = some ⟨w, q⟩ → peer w q = some ⟨v, p⟩
  peer_ne : ∀ {v w p q}, peer v p = some ⟨w, q⟩ → v ≠ w
  not_edge : ∀ {v w p q}, peer v p = some ⟨w, q⟩ → ((bridge v).ports p).edge = false
  carrier : ∀ {v w p q}, peer v p = some ⟨w, q⟩ → (bridge v).hasCarrier p
  addresses : ∀ {v w}, (bridge v).bridgeAddress = (bridge w).bridgeAddress → v = w

namespace RSTP

variable {n : Nat} (b : RSTP n)

/-- The BPDU that `sendBPDU` sends through the port. -/
def hello (q : Fin n) : BPDU := b.bpdu (b.getRootIndex.map b.ports) q (decide (b.simTime < (b.ports q).TCWhile))

/-- `sendBPDUs` sends through this port. -/
def Sends (q : Fin n) : Prop :=
  (b.ports q).role ≠ .ROOT ∧ (b.ports q).role ≠ .ALTERNATE ∧ (b.ports q).role ≠ .DISABLED ∧ ¬ (b.ports q).edge
deriving Decidable

/-- The port has missed all BPDUs that it may miss. -/
def patience (p : Fin n) : RSTP n := b.setPort p fun port => { port with lostBPDU := 3 }

/-- What the bridge advertises. -/
def rootPriority : UInt := ((b.getRootIndex.map b.ports).map (·.rootPriority)).getD b.bridgePriority
def rootAddress : MACAddress := ((b.getRootIndex.map b.ports).map (·.rootAddress)).getD b.bridgeAddress
def rootPathCost : UInt := ((b.getRootIndex.map b.ports).map (·.rootPathCost)).getD 0

/-- The bridges are ordered by priority and address. -/
def bridgeId : Int ×ₗ Nat := toLex (b.bridgePriority.toInt, b.bridgeAddress.toNat)
def rootId : Int ×ₗ Nat := toLex (b.rootPriority.toInt, b.rootAddress.toNat)

/-- What a run keeps of the roles of the ports. -/
structure Kept : Prop where
  oneRoot : ∀ i j, (b.ports i).role = .ROOT → (b.ports j).role = .ROOT → i = j
  rootBest : ∀ i j, (b.ports i).role = .ROOT → (b.ports j).role = .ALTERNATE → (b.ports i).key ≤ (b.ports j).key
  rootForwards : ∀ i, (b.ports i).role = .ROOT → (b.ports i).state = .FORWARDING
  alternateDiscards : ∀ i, (b.ports i).role = .ALTERNATE → (b.ports i).state = .DISCARDING
  noBackup : ∀ i, (b.ports i).role ≠ .BACKUP ∧ (b.ports i).role ≠ .DISABLED
  edges : ∀ i, (b.ports i).edge → (b.ports i).role = .DESIGNATED
  rootBetter : ∀ i, (b.ports i).role = .ROOT → (b.ports i).key < b.ownVector.key

end RSTP

namespace RSTPNetwork

variable {V : Type} (g : RSTPNetwork V)

/-- The port hears a BPDU that resets its counter of lost BPDUs. -/
def Heard (v : V) (p : Fin (g.numPorts v)) : Prop :=
  ∃ w q c, g.peer v p = some ⟨w, q⟩ ∧ (g.bridge w).Sends q ∧
    ((g.bridge v).patience p).handleIncomingFrame ((g.bridge w).hello q) (g.bridge w).bridgeAddress p = .ok c ∧
    (c.ports p).lostBPDU = 0

/-- Nothing changes any more but what repeats. -/
structure Stable : Prop where
  delivery : ∀ v p w q, g.peer v p = some ⟨w, q⟩ → (g.bridge w).Sends q →
    ∃ c, (g.bridge v).handleIncomingFrame ((g.bridge w).hello q) (g.bridge w).bridgeAddress p = .ok c ∧ SameCore c (g.bridge v)
  hello : ∀ v p, ¬ g.Heard v p → SameCore (((g.bridge v).patience p).helloPort p) ((g.bridge v).patience p)
  upgrade : ∀ v p, (g.bridge v).hasCarrier p →
    SameCore (RSTP.handleUpgrade { g.bridge v with simTime := ((g.bridge v).ports p).nextUpgrade }) (g.bridge v)

def Connected : Prop := ∀ v w, Relation.ReflTransGen (fun v w => ∃ p q, g.peer v p = some ⟨w, q⟩) v w

/-- The root port leads over a link that costs nothing. -/
def FreeParent (w v : V) : Prop :=
  ∃ p q, ((g.bridge v).ports p).role = .ROOT ∧ g.peer v p = some ⟨w, q⟩ ∧ ((g.bridge v).ports p).linkCost = 0

/-- Both ends of the link are designated. -/
def Disputed (v w : V) (p : Fin (g.numPorts v)) (q : Fin (g.numPorts w)) : Prop :=
  g.peer v p = some ⟨w, q⟩ ∧ ((g.bridge v).ports p).role = .DESIGNATED ∧ ((g.bridge w).ports q).role = .DESIGNATED

/-- The contests of the source give the alternate ports their roles, and the designated ports of disputed links. -/
structure RolesRight : Prop where
  alternate : ∀ v p w q, g.peer v p = some ⟨w, q⟩ → ((g.bridge v).ports p).role = .ALTERNATE →
    ∃ x, (g.bridge v).contestPort p = .ok x ∧ 0 ≤ x.toInt
  designated : ∀ v p w q, g.Disputed v w p q → ∀ r, (g.bridge v).getRootIndex = some r →
    ∃ x, (g.bridge v).contestPort p = .ok x ∧ x.toInt < 0
  alone : ∀ v p w q, g.Disputed v w p q → (g.bridge v).getRootIndex = none → (g.bridge v).bridgeId ≤
    toLex (((g.bridge v).ports p).rootPriority.toInt, ((g.bridge v).ports p).rootAddress.toNat)

/-- On disputed links BPDUs are not too old when they arrive; the costs with which these are claimed, and those that the
other ports hear of, stay below 2^31; and free root ports do not lead in a circle. -/
structure WithinLimits : Prop where
  age : ∀ v p w q, g.Disputed v w p q → ((g.bridge w).hello q).messageAge < (g.bridge v).maxAge
  claimed : ∀ v p w q, g.Disputed v w p q →
    (g.bridge v).rootPathCost.toNat + ((g.bridge v).ports p).linkCost.toNat < 2 ^ 31
  heard : ∀ v p w q, g.peer v p = some ⟨w, q⟩ → ((g.bridge v).ports p).role ≠ .DESIGNATED →
    (g.bridge w).rootPathCost.toNat + ((g.bridge v).ports p).linkCost.toNat < 2 ^ 31
  free : ∀ v, ¬ Relation.TransGen g.FreeParent v v

/-- The way over the link costs what the port of its first bridge says. -/
def hop (v w : V) (c : Nat) : Prop := ∃ p q, g.peer v p = some ⟨w, q⟩ ∧ ((g.bridge v).ports p).linkCost.toNat = c

/-- The bridge behind the root port. -/
def parent (v : V) : Option V := ((g.bridge v).getRootIndex.bind (g.peer v)).map (·.1)

def choice : SpanningTree.Choice V (Int ×ₗ Nat) where
  id v := (g.bridge v).bridgeId
  hop := g.hop
  root v := (g.bridge v).rootId
  cost v := (g.bridge v).rootPathCost.toNat
  parent := g.parent

/-- The link joins two ports that are in `FORWARDING` state. -/
def Active (v w : V) (p : Fin (g.numPorts v)) (q : Fin (g.numPorts w)) : Prop :=
  g.peer v p = some ⟨w, q⟩ ∧ ((g.bridge v).ports p).state = .FORWARDING ∧ ((g.bridge w).ports q).state = .FORWARDING

/-- The bridges that exchange frames directly. -/
def forwarding : SimpleGraph V where
  Adj v w := ∃ p q, g.Active v w p q
  symm := ⟨fun _ _ ⟨p, q, hpeer, hp, hq⟩ => ⟨q, p, g.peer_symm hpeer, hq, hp⟩⟩
  loopless := ⟨fun _ ⟨_, _, hpeer, _⟩ => g.peer_ne hpeer rfl⟩

/-- What a spanning tree protocol is for. -/
structure ShortestTree : Prop where
  root : ∃ r, (∀ v, (g.bridge r).bridgeId ≤ (g.bridge v).bridgeId) ∧ ∀ v, (g.bridge v).rootId = (g.bridge r).bridgeId ∧
    g.choice.Way r v (g.bridge v).rootPathCost.toNat ∧ ∀ d, g.choice.Way r v d → (g.bridge v).rootPathCost.toNat ≤ d
  oneDesignated : ∀ v p w q, g.peer v p = some ⟨w, q⟩ →
    (((g.bridge v).ports p).role = .DESIGNATED ↔ ((g.bridge w).ports q).role ≠ .DESIGNATED)
  tree : g.forwarding.IsTree
  single : ∀ v w p q p' q', g.Active v w p q → g.Active v w p' q' → p = p'

end RSTPNetwork

end Inet.Ieee8021d
