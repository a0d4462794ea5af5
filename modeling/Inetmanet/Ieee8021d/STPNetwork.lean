import Inetmanet.Ieee8021d.STPStable
import Inetmanet.Lib.SpanningTree

/-!
# Stable networks of STP bridges

Bridges on point-to-point links in a state that no BPDU which is sent again and again
and no tick changes.
-/
namespace Inet.Ieee8021d

open STP

/-- Bridges with different addresses. -/
structure STPNetwork (V : Type) where
  numPorts : V → Nat
  bridge : (v : V) → STP (numPorts v)
  peer : (v : V) → Fin (numPorts v) → Option (Σ w, Fin (numPorts w))
  peer_symm : ∀ {v w p q}, peer v p = some ⟨w, q⟩ → peer w q = some ⟨v, p⟩
  peer_ne : ∀ {v w p q}, peer v p = some ⟨w, q⟩ → v ≠ w
  addresses : ∀ {v w}, (bridge v).bridgeAddress = (bridge w).bridgeAddress → v = w

namespace STP

variable {n : Nat} (b : STP n)

/-- The BPDU that `generateBPDU` sends through the port. -/
def hello (q : Fin n) : BPDU := b.bpdu q false false

/-- A configuration BPDU waits to leave through the port. -/
def Emits (p : Fin n) : Prop := ∃ x ∈ b.relayOut, x.1.bpduType = 0 ∧ x.2.2 = p
deriving Decidable

/-- Nothing waits to leave. -/
def idle : STP n := { b with relayOut := [] }

/-- The bridge after this many ticks in which some ports were renewed and the roles stayed. -/
def later (age : Fin n → Time) : STP n := { b with ports := fun p => { b.ports p with age := age p } }

end STP

namespace STPNetwork

variable {V : Type} (g : STPNetwork V)

/-- The ports through which BPDUs are sent again and again: at ticks or as answers to others of them. -/
structure Repeating (T : (v : V) → Fin (g.numPorts v) → Prop) : Prop where
  tick : ∀ v p, (g.bridge v).idle.handleTick.Emits p → T v p
  answer : ∀ v p w q r, g.peer v p = some ⟨w, q⟩ → T w q →
    ((g.bridge v).idle.handleBPDU ((g.bridge w).hello q) p).Emits r → T v r
  only : ∀ v r, T v r → (g.bridge v).idle.handleTick.Emits r ∨ ∃ p w q, g.peer v p = some ⟨w, q⟩ ∧ T w q ∧
    ((g.bridge v).idle.handleBPDU ((g.bridge w).hello q) p).Emits r

/-- A repeated BPDU renews what the port knows. -/
def Heard (T : (v : V) → Fin (g.numPorts v) → Prop) (v : V) (p : Fin (g.numPorts v)) : Prop :=
  ∃ w q, g.peer v p = some ⟨w, q⟩ ∧ T w q ∧ (g.bridge v).Renews ((g.bridge w).hello q) p

/-- Nothing changes any more but timers and what repeats. -/
structure StableUnder (T : (v : V) → Fin (g.numPorts v) → Prop) : Prop where
  repeating : g.Repeating T
  delivery : ∀ v p w q, g.peer v p = some ⟨w, q⟩ → T w q →
    SameCore ((g.bridge v).handleBPDU ((g.bridge w).hello q) p) (g.bridge v)
  /-- however many ticks have gone by since the ports that hear nothing have heard the last BPDU -/
  tick : ∀ v (ticks : Nat) (age : Fin (g.numPorts v) → Time), (∀ p, g.Heard T v p → age p = 0) →
    (∀ p, ¬ g.Heard T v p → ((g.bridge v).ports p).role = .DESIGNATED → age p = ((g.bridge v).ports p).age) →
    (∀ p, ¬ g.Heard T v p → ((g.bridge v).ports p).role ≠ .DESIGNATED →
      age p = ((g.bridge v).ports p).age + ticks * second) →
    SameCore ((g.bridge v).later age).handleTick (g.bridge v)

def Stable : Prop := ∃ T, g.StableUnder T

def Connected : Prop := ∀ v w, Relation.ReflTransGen (fun v w => ∃ p q, g.peer v p = some ⟨w, q⟩) v w

/-- The root port leads over a link that costs nothing. -/
def FreeParent (w v : V) : Prop :=
  ∃ p q, ((g.bridge v).ports p).role = .ROOT ∧ g.peer v p = some ⟨w, q⟩ ∧ ((g.bridge v).ports p).linkCost = 0

/-- The costs with which two designated ports claim a link, and those that the other ports hear of, stay below 2^32;
and free root ports do not lead in a circle. -/
structure WithinLimits : Prop where
  claimed : ∀ v p w q, g.peer v p = some ⟨w, q⟩ → ((g.bridge v).ports p).role = .DESIGNATED →
    ((g.bridge w).ports q).role = .DESIGNATED → (g.bridge v).rootPathCost.toNat + ((g.bridge v).ports p).linkCost.toNat < 2 ^ 32
  heard : ∀ v p w q, g.peer v p = some ⟨w, q⟩ → ((g.bridge v).ports p).role ≠ .DESIGNATED →
    (g.bridge w).rootPathCost.toNat + ((g.bridge v).ports p).linkCost.toNat < 2 ^ 32
  free : ∀ v, ¬ Relation.TransGen g.FreeParent v v

/-- The way over the link costs what the port of its first bridge says. -/
def hop (v w : V) (c : Nat) : Prop := ∃ p q, g.peer v p = some ⟨w, q⟩ ∧ ((g.bridge v).ports p).linkCost.toNat = c

/-- The bridge behind the root port. -/
def parent (v : V) : Option V := if (g.bridge v).isRoot then none else (g.peer v (g.bridge v).rootPort).map (·.1)

def choice : SpanningTree.Choice V (Nat ×ₗ Nat) where
  id v := (g.bridge v).bridgeId
  hop := g.hop
  root v := (g.bridge v).rootId
  cost v := (g.bridge v).rootPathCost.toNat
  parent := g.parent

/-- The link joins two ports in `ROOT` or `DESIGNATED` role. -/
def Active (v w : V) (p : Fin (g.numPorts v)) (q : Fin (g.numPorts w)) : Prop :=
  g.peer v p = some ⟨w, q⟩ ∧
    (((g.bridge v).ports p).role = .ROOT ∨ ((g.bridge v).ports p).role = .DESIGNATED) ∧
    (((g.bridge w).ports q).role = .ROOT ∨ ((g.bridge w).ports q).role = .DESIGNATED)

/-- The bridges that such links join. -/
def active : SimpleGraph V where
  Adj v w := ∃ p q, g.Active v w p q
  symm := ⟨fun _ _ ⟨p, q, hpeer, hp, hq⟩ => ⟨q, p, g.peer_symm hpeer, hq, hp⟩⟩
  loopless := ⟨fun _ ⟨_, _, hpeer, _⟩ => g.peer_ne hpeer rfl⟩

/-- What a spanning tree protocol is for. -/
structure SpanningTree : Prop where
  root : ∃ r, (∀ v, (g.bridge r).bridgeId ≤ (g.bridge v).bridgeId) ∧
    (∀ v, (g.bridge v).rootId = (g.bridge r).bridgeId ∧ g.choice.Way r v (g.bridge v).rootPathCost.toNat ∧
      ∀ d, g.choice.Way r v d → (g.bridge v).rootPathCost.toNat ≤ d) ∧
    ∀ v, v ≠ r → ∃! p, ((g.bridge v).ports p).role = .ROOT
  oneDesignated : ∀ v p w q, g.peer v p = some ⟨w, q⟩ →
    (((g.bridge v).ports p).role = .DESIGNATED ↔ ((g.bridge w).ports q).role ≠ .DESIGNATED)
  tree : g.active.IsTree
  single : ∀ v w p q p' q', g.Active v w p q → g.Active v w p' q' → p = p'

end STPNetwork

end Inet.Ieee8021d
