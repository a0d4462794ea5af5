import Inetmanet.Ieee8021d.RSTPNetwork

/-!
# Stable networks of RSTP bridges are shortest trees

On every link one end is designated and the other one knows what it sends. So neighbours
agree on the root, no neighbour offers a cheaper way, and the root ports are the
parents of a spanning tree.
-/
namespace Inet.Ieee8021d

open RSTP BitVec

theorem PriorityVector.key_le {v w : PriorityVector} : v.key ≤ w.key ↔
    v.rootPriority.toInt < w.rootPriority.toInt ∨ v.rootPriority.toInt = w.rootPriority.toInt ∧
    (v.rootAddress.toNat < w.rootAddress.toNat ∨ v.rootAddress.toNat = w.rootAddress.toNat ∧
    (v.rootPathCost.toInt < w.rootPathCost.toInt ∨ v.rootPathCost.toInt = w.rootPathCost.toInt ∧
    (v.bridgePriority.toInt < w.bridgePriority.toInt ∨ v.bridgePriority.toInt = w.bridgePriority.toInt ∧
    (v.bridgeAddress.toNat < w.bridgeAddress.toNat ∨ v.bridgeAddress.toNat = w.bridgeAddress.toNat ∧
    (v.portPriority.toInt < w.portPriority.toInt ∨ v.portPriority.toInt = w.portPriority.toInt ∧
      v.portNum.toInt ≤ w.portNum.toInt))))) := by
  simp only [key, Prod.Lex.toLex_le_toLex]

open PriorityVector (key_le)

/-- The sum of a cost and a link cost, when it does not overflow. -/
theorem toInt_add {x y : UInt} (h : x.toNat + y.toNat < 2 ^ 31) : (x + y).toInt = x.toNat + y.toNat := by
  rw [toInt_eq_toNat_cond, toNat_add, Nat.mod_eq_of_lt (by omega), if_pos (by omega)]
  simp

/-- A sum that overflows is less than the link cost. -/
theorem toInt_add_le (x : UInt) {y : UInt} (h : y.toNat < 2 ^ 31) :
    (x + y).toInt = x.toNat + y.toNat ∨ (x + y).toInt < y.toNat := by
  rw [toInt_eq_toNat_cond, toNat_add]
  omega

namespace RSTP

variable {n : Nat} {b : RSTP n} {p q r : Fin n}

/-- What a bridge says of itself and of the root. -/
def offer (b : RSTP n) (cost : UInt) (port : UInt) (portPriority : UInt) : PriorityVector where
  rootPriority := b.rootPriority
  rootAddress := b.rootAddress
  rootPathCost := b.rootPathCost + cost
  bridgePriority := b.bridgePriority
  bridgeAddress := b.bridgeAddress
  portPriority := portPriority
  portNum := port

theorem hello_over {cost : UInt} : (b.hello q).over cost = b.offer cost (BitVec.ofNat 32 q) 0 := rfl

theorem advertised_some (h : b.getRootIndex = some r) : b.rootPriority = (b.ports r).rootPriority ∧
    b.rootAddress = (b.ports r).rootAddress ∧ b.rootPathCost = (b.ports r).rootPathCost := by
  unfold RSTP.rootPriority RSTP.rootAddress RSTP.rootPathCost
  rw [h]
  exact ⟨rfl, rfl, rfl⟩

theorem advertised_none (h : b.getRootIndex = none) : b.rootPriority = b.bridgePriority ∧
    b.rootAddress = b.bridgeAddress ∧ b.rootPathCost = 0 := by
  unfold RSTP.rootPriority RSTP.rootAddress RSTP.rootPathCost
  rw [h]
  exact ⟨rfl, rfl, rfl⟩

theorem contestPort_some (h : b.getRootIndex = some r) :
    b.contestPort p = .ok (compareRSTPData (b.offer (b.ports p).linkCost (BitVec.ofNat 32 p) (b.ports p).portPriority)
      (b.ports p).toPriorityVector) := by
  obtain ⟨hp, ha, hc⟩ := advertised_some h
  unfold contestPort RSTP.rootPort offer
  rw [h, hp, ha, hc]
  rfl

theorem getRootIndex_of_role (hone : ∀ i j, (b.ports i).role = .ROOT → (b.ports j).role = .ROOT → i = j)
    (h : (b.ports r).role = .ROOT) : b.getRootIndex = some r := by
  cases hr : b.getRootIndex with
  | none => exact absurd h (getRootIndex_none.mp hr r)
  | some i => rw [hone i r (getRootIndex_some hr) h]

theorem patience_port : (b.patience p).ports p = { b.ports p with lostBPDU := 3 } := by
  simp [patience]

theorem quiet_patience {frame : BPDU} : (b.patience p).Quiet frame p ↔ b.Quiet frame p := by
  unfold Quiet RSTP.compareInterfacedata
  rw [patience_port]
  rfl

/-- No bridge advertises a root worse than itself. -/
theorem rootId_le (h : b.Kept) : b.rootId ≤ b.bridgeId := by
  unfold rootId bridgeId
  cases hr : b.getRootIndex with
  | none =>
    obtain ⟨hp, ha, -⟩ := advertised_none hr
    rw [hp, ha]
  | some r =>
    obtain ⟨hp, ha, -⟩ := advertised_some hr
    have hlt := key_le.mp (h.rootBetter r (getRootIndex_some hr)).le
    rw [hp, ha, Prod.Lex.toLex_le_toLex]
    simp only [STPBase.ownVector] at hlt ⊢
    omega

end RSTP

namespace RSTPNetwork

variable {V : Type} {g : RSTPNetwork V} {v w : V} {p : Fin (g.numPorts v)} {q : Fin (g.numPorts w)}

/-- What is known of a network: its bridges have been running, nothing changes, and the roles are right. -/
structure Good (g : RSTPNetwork V) : Prop where
  kept : ∀ v, (g.bridge v).Kept
  stable : g.Stable
  right : g.RolesRight
  limits : g.WithinLimits

section

variable (h : g.Good)
include h

section

variable (hpeer : g.peer v p = some ⟨w, q⟩)
include hpeer

/-- No port of a link waits for an upgrade. -/
theorem Good.settled : ¬ ((g.bridge v).ports p).Upgrading :=
  settled_of_handleUpgrade (b := { g.bridge v with simTime := ((g.bridge v).ports p).nextUpgrade }) (g.carrier hpeer) rfl
    (h.stable.upgrade v p (g.carrier hpeer))

theorem Good.role :
    ((g.bridge v).ports p).role = .ROOT ∨ ((g.bridge v).ports p).role = .ALTERNATE ∨
      ((g.bridge v).ports p).role = .DESIGNATED := by
  have hset := h.settled hpeer
  have hno := (h.kept v).noBackup p
  unfold PortInfo.Upgrading at hset
  cases hrole : ((g.bridge v).ports p).role <;> simp_all

/-- A BPDU on a link leaves the port alone. -/
theorem Good.quiet (hsends : (g.bridge w).Sends q) (hage : ((g.bridge w).hello q).messageAge < (g.bridge v).maxAge) :
    (g.bridge v).Quiet ((g.bridge w).hello q) p := by
  obtain ⟨c, hc, hcore⟩ := h.stable.delivery v p w q hpeer hsends
  refine quiet_of_sameCore hage (fun hsrc => ?_) hc hcore
  exact g.peer_ne hpeer (g.addresses hsrc).symm

/-- A port that is not designated knows what its designated peer sends. -/
theorem Good.hears
    (hrole : ((g.bridge v).ports p).role ≠ .DESIGNATED) : ((g.bridge w).ports q).role = .DESIGNATED ∧
      ((g.bridge v).ports p).toPriorityVector = ((g.bridge w).hello q).over ((g.bridge v).ports p).linkCost := by
  have hheard : g.Heard v p := by
    by_contra hno
    have hroles := role_of_helloPort (by rw [patience_port]; exact g.not_edge hpeer) (by rw [patience_port])
      (h.stable.hello v p hno)
    rw [patience_port] at hroles
    cases h.role hpeer with
    | inl hr => exact hroles.1 hr
    | inr hr =>
      cases hr with
      | inl hr => exact hroles.2.1 hr
      | inr hr => exact hrole hr
  obtain ⟨w', q', c, hpeer', hsends, hc, hzero⟩ := hheard
  cases hpeer.symm.trans hpeer'
  constructor
  · cases h.role (g.peer_symm hpeer) with
    | inl hr => exact absurd hr hsends.1
    | inr hr =>
      cases hr with
      | inl hr => exact absurd hr hsends.2.1
      | inr hr => exact hr
  · have hlost : (((g.bridge v).patience p).ports p).lostBPDU ≠ 0 := by
      rw [patience_port]
      exact (by decide : (3 : UInt) ≠ 0)
    have hyoung : ((g.bridge w).hello q).messageAge < ((g.bridge v).patience p).maxAge := young_of_lostBPDU hlost hc hzero
    have hquiet := h.quiet hpeer hsends hyoung
    have hrep := repeats_of_quiet (quiet_patience.mpr hquiet) (fun hsrc => g.peer_ne hpeer (g.addresses hsrc).symm) hlost
      hc hzero
    rw [patience_port] at hrep
    exact hrep

end

theorem Good.root_linked (hrole : ((g.bridge v).ports p).role = .ROOT) : ∃ w q, g.peer v p = some ⟨w, q⟩ := by
  have hedge : ((g.bridge v).ports p).edge = false := by
    by_contra he
    rw [Bool.not_eq_false] at he
    rw [(h.kept v).edges p he] at hrole
    cases hrole
  by_contra hno
  have hheard : ¬ g.Heard v p := fun ⟨w, q, _, hpeer, _⟩ => hno ⟨w, q, hpeer⟩
  have hroles := role_of_helloPort (by rwa [patience_port]) (by rw [patience_port]) (h.stable.hello v p hheard)
  rw [patience_port] at hroles
  exact hroles.1 hrole

/-- Behind a root port is the bridge that the way to the root leads over. -/
theorem Good.up (hrole : ((g.bridge v).ports p).role = .ROOT) (hpeer : g.peer v p = some ⟨w, q⟩) :
    (g.bridge v).rootId = (g.bridge w).rootId ∧
      (g.bridge v).rootPathCost.toNat = (g.bridge w).rootPathCost.toNat + ((g.bridge v).ports p).linkCost.toNat := by
  obtain ⟨-, hvec⟩ := h.hears hpeer (by rw [hrole]; decide)
  obtain ⟨hp, ha, hc⟩ := advertised_some (getRootIndex_of_role (h.kept v).oneRoot hrole)
  rw [hvec] at hp ha hc
  constructor
  · unfold rootId
    rw [hp, ha]
    rfl
  · have hcost : (g.bridge v).rootPathCost = (g.bridge w).rootPathCost + ((g.bridge v).ports p).linkCost := hc
    have hlimit := h.limits.heard v p w q hpeer (by rw [hrole]; decide)
    rw [hcost, toNat_add, Nat.mod_eq_of_lt (by omega)]

/-- The root path cost of a bridge with a root port is that of a neighbour and its link. -/
theorem Good.cost_lt {r : Fin (g.numPorts v)} (hr : (g.bridge v).getRootIndex = some r) :
    (g.bridge v).rootPathCost.toNat < 2 ^ 31 ∧ (g.bridge v).rootPathCost.toInt = (g.bridge v).rootPathCost.toNat := by
  have hrole := getRootIndex_some hr
  obtain ⟨w, q, hpeer⟩ := h.root_linked hrole
  have hlimit := h.limits.heard v r w q hpeer (by rw [hrole]; decide)
  have hup := (h.up hrole hpeer).2
  refine ⟨by omega, ?_⟩
  rw [toInt_eq_toNat_cond, if_pos (by omega)]

theorem Good.parent_iff :
    g.parent v = some w ↔ ∃ p q, ((g.bridge v).ports p).role = .ROOT ∧ g.peer v p = some ⟨w, q⟩ := by
  unfold parent
  constructor
  · intro hp
    rw [Option.map_eq_some_iff] at hp
    obtain ⟨⟨w', q⟩, hbind, rfl⟩ := hp
    rw [Option.bind_eq_some_iff] at hbind
    obtain ⟨p, hr, hpeer⟩ := hbind
    exact ⟨p, q, getRootIndex_some hr, hpeer⟩
  · rintro ⟨p, q, hrole, hpeer⟩
    rw [getRootIndex_of_role (h.kept v).oneRoot hrole, Option.bind_some, hpeer]
    rfl

theorem Good.parent_none (hp : g.parent v = none) : (g.bridge v).getRootIndex = none := by
  cases hr : (g.bridge v).getRootIndex with
  | none => rfl
  | some p =>
    obtain ⟨w, q, hpeer⟩ := h.root_linked (getRootIndex_some hr)
    rw [h.parent_iff.mpr ⟨p, q, getRootIndex_some hr, hpeer⟩] at hp
    cases hp

theorem Good.grounded [Finite V] : WellFounded fun w v => g.parent v = some w := by
  refine SpanningTree.Choice.grounded_of_free (C := g.choice) h.limits.free fun v w hp => ?_
  obtain ⟨p, q, hrole, hpeer⟩ := h.parent_iff.mp hp
  have hup : g.choice.cost v = g.choice.cost w + ((g.bridge v).ports p).linkCost.toNat := (h.up hrole hpeer).2
  refine ⟨by omega, fun heq => ⟨p, q, hrole, hpeer, eq_of_toNat_eq ?_⟩⟩
  change _ = 0
  omega

/-- Every advertised root is a bridge. -/
theorem Good.root_real [Finite V] (v : V) : ∃ u, (g.bridge v).rootId = (g.bridge u).bridgeId := by
  induction v using h.grounded.induction with
  | _ v ih =>
    cases hp : g.parent v with
    | none =>
      obtain ⟨hpr, ha, -⟩ := advertised_none (h.parent_none hp)
      refine ⟨v, ?_⟩
      unfold rootId bridgeId
      rw [hpr, ha]
    | some w =>
      obtain ⟨p, q, hrole, hpeer⟩ := h.parent_iff.mp hp
      obtain ⟨u, hu⟩ := ih w hp
      exact ⟨u, (h.up hrole hpeer).1.trans hu⟩

end

theorem sends_of_designated (hpeer : g.peer v p = some ⟨w, q⟩) (hrole : ((g.bridge w).ports q).role = .DESIGNATED) :
    (g.bridge w).Sends q := by
  have hedge := g.not_edge (g.peer_symm hpeer)
  simp [RSTP.Sends, hrole, hedge]

section

variable (h : g.Good)
include h

/-- A root that has the address of a bridge is this bridge. -/
theorem Good.root_of_address [Finite V] {u : V} (ha : (g.bridge w).rootAddress = (g.bridge u).bridgeAddress) :
    (g.bridge w).rootId = (g.bridge u).bridgeId := by
  obtain ⟨u', hu'⟩ := h.root_real w
  have haddr : (g.bridge w).rootAddress = (g.bridge u').bridgeAddress := by
    have := congrArg (fun id : Int ×ₗ Nat => (ofLex id).2) hu'
    exact eq_of_toNat_eq this
  rw [hu', g.addresses (haddr.symm.trans ha)]

/-- A bridge on a link that names itself as root has no way to go. -/
theorem Good.cost_zero
    (hroot : (g.bridge v).rootId = (g.bridge v).bridgeId) : (g.bridge v).rootPathCost.toNat = 0 := by
  cases hr : (g.bridge v).getRootIndex with
  | none =>
    rw [(advertised_none hr).2.2]
    rfl
  | some r =>
    obtain ⟨hp, ha, hc⟩ := advertised_some hr
    have hlt := key_le.mp ((h.kept v).rootBetter r (getRootIndex_some hr)).le
    have hint := (h.cost_lt hr).2
    unfold rootId bridgeId at hroot
    rw [hp, ha, toLex_inj, Prod.mk.injEq] at hroot
    rw [hc] at hint
    simp only [STPBase.ownVector] at hlt
    have hzero : (0 : UInt).toInt = 0 := rfl
    rw [hc]
    omega

section

variable (hpeer : g.peer v p = some ⟨w, q⟩)
include hpeer

omit h hpeer in
/-- Offers over a link are compared like the offers of the bridges. -/
theorem offer_le {cost port port' prio prio' : UInt} (hlimit : (g.bridge v).rootPathCost.toNat + cost.toNat < 2 ^ 31)
    (hle : ((g.bridge v).offer cost port prio).key ≤ ((g.bridge w).offer cost port' prio').key) :
    SpanningTree.offer (g.bridge v).rootId (g.bridge v).rootPathCost.toNat (g.bridge v).bridgeId ≤
      SpanningTree.offer (g.bridge w).rootId (g.bridge w).rootPathCost.toNat (g.bridge w).bridgeId := by
  have hfirst := key_le.mp hle
  have hother := toInt_add_le (g.bridge w).rootPathCost (y := cost) (by omega)
  simp only [offer, toInt_add hlimit] at hfirst
  simp only [SpanningTree.offer_le, rootId, bridgeId, Prod.Lex.toLex_lt_toLex, Prod.Lex.toLex_le_toLex, toLex_inj,
    Prod.mk.injEq]
  omega

/-- A designated port with a designated peer claims the link. -/
theorem Good.claims [Finite V]
    (hp : ((g.bridge v).ports p).role = .DESIGNATED) (hq : ((g.bridge w).ports q).role = .DESIGNATED) :
    SpanningTree.Claims (g.bridge v).rootId (g.bridge v).rootPathCost.toNat (g.bridge v).bridgeId
      (g.bridge w).rootId (g.bridge w).rootPathCost.toNat (g.bridge w).bridgeId := by
  have hdisputed : g.Disputed v w p q := ⟨hpeer, hp, hq⟩
  cases h.quiet hpeer (sends_of_designated hpeer hq) (h.limits.age v p w q hdisputed) with
  | inl hown => exact .inl (h.root_of_address hown)
  | inr hquiet =>
    have hle : ((g.bridge v).ports p).key ≤ (((g.bridge w).hello q).over ((g.bridge v).ports p).linkCost).key :=
      compare_le.mp hquiet.1
    rw [hello_over] at hle
    right
    cases hr : (g.bridge v).getRootIndex with
    | none =>
      left
      have halone := h.right.alone v p w q hdisputed hr
      obtain ⟨hpr, ha, -⟩ := advertised_none hr
      have hown : (g.bridge v).rootId = (g.bridge v).bridgeId := by
        unfold rootId bridgeId
        rw [hpr, ha]
      refine ⟨hown, ?_⟩
      rw [hown]
      refine le_trans halone ?_
      have hfirst := key_le.mp hle
      simp only [offer] at hfirst
      unfold rootId
      rw [Prod.Lex.toLex_le_toLex]
      omega
    | some r =>
      right
      obtain ⟨x, hx, hneg⟩ := h.right.designated v p w q hdisputed r hr
      rw [contestPort_some hr] at hx
      cases hx
      exact offer_le (h.limits.claimed v p w q hdisputed) ((compare_neg.mp hneg).le.trans hle)

/-- Exactly one end of a link is designated. -/
theorem Good.oneDesignated [Finite V] :
    ((g.bridge v).ports p).role = .DESIGNATED ↔ ((g.bridge w).ports q).role ≠ .DESIGNATED := by
  constructor
  · intro hp hq
    refine SpanningTree.Claims.not_both (fun hid => ?_) (rootId_le (h.kept v)) (rootId_le (h.kept w)) h.cost_zero
      h.cost_zero (h.claims hpeer hp hq) (h.claims (g.peer_symm hpeer) hq hp)
    rw [bridgeId, bridgeId, toLex_inj, Prod.mk.injEq] at hid
    exact g.peer_ne hpeer (g.addresses (eq_of_toNat_eq hid.2))
  · intro hq
    exact (h.hears (g.peer_symm hpeer) hq).1

/-- An alternate port leads to a bridge with the same root, which is nearer to it. -/
theorem Good.alternate
    (hrole : ((g.bridge v).ports p).role = .ALTERNATE) : (g.bridge v).rootId = (g.bridge w).rootId ∧
      (g.bridge w).rootPathCost.toNat ≤ (g.bridge v).rootPathCost.toNat ∧
      (g.bridge v).rootPathCost.toNat ≤ (g.bridge w).rootPathCost.toNat + ((g.bridge v).ports p).linkCost.toNat := by
  obtain ⟨-, hvec⟩ := h.hears hpeer (by rw [hrole]; decide)
  obtain ⟨x, hx, hpos⟩ := h.right.alternate v p w q hpeer hrole
  have hlimit := h.limits.heard v p w q hpeer (by rw [hrole]; decide)
  cases hr : (g.bridge v).getRootIndex with
  | none =>
    unfold contestPort RSTP.rootPort at hx
    rw [hr] at hx
    cases hx
  | some r =>
    rw [contestPort_some hr] at hx
    cases hx
    -- the port's vector is no worse than the bridge's offer and no better than the root port's vector
    have hcontest := not_lt.mp (fun hlt => absurd (compare_neg.mpr hlt) (not_lt.mpr hpos))
    have hbest := (h.kept v).rootBest r p (getRootIndex_some hr) hrole
    obtain ⟨hpr, ha, hc⟩ := advertised_some hr
    rw [hvec, hello_over] at hcontest hbest
    have hfirst := key_le.mp hcontest
    have hsecond := key_le.mp hbest
    rw [← hpr, ← ha, ← hc] at hsecond
    obtain ⟨hlt, hint⟩ := h.cost_lt hr
    have hown := toInt_add_le (g.bridge v).rootPathCost (y := ((g.bridge v).ports p).linkCost) (by omega)
    simp only [offer, toInt_add hlimit, hint] at hfirst hsecond
    simp only [rootId, toLex_inj, Prod.mk.injEq]
    omega

theorem Good.link [Finite V] : (g.bridge v).rootId = (g.bridge w).rootId ∧
    (g.bridge v).rootPathCost.toNat ≤ (g.bridge w).rootPathCost.toNat + ((g.bridge v).ports p).linkCost.toNat := by
  cases h.role hpeer with
  | inl hp =>
    have hup := h.up hp hpeer
    exact ⟨hup.1, Nat.le_of_eq hup.2⟩
  | inr hp =>
    cases hp with
    | inl hp =>
      obtain ⟨hroot, -, hcost⟩ := h.alternate hpeer hp
      exact ⟨hroot, hcost⟩
    | inr hp =>
      have hq := (h.oneDesignated hpeer).mp hp
      have hpeer' := g.peer_symm hpeer
      cases h.role hpeer' with
      | inl hq' =>
        have hup := h.up hq' hpeer'
        exact ⟨hup.1.symm, by omega⟩
      | inr hq' =>
        cases hq' with
        | inl hq' =>
          obtain ⟨hroot, hcost, -⟩ := h.alternate hpeer' hq'
          exact ⟨hroot.symm, by omega⟩
        | inr hq' => exact absurd hq' hq

end

theorem Good.choice_settled [Finite V] : g.choice.Settled where
  agree v w c := fun ⟨_, _, hpeer, _⟩ => (h.link hpeer).1
  cost_le v w c := by
    rintro ⟨p, q, hpeer, rfl⟩
    exact (h.link hpeer).2
  root_le v := rootId_le (h.kept v)
  top v hv := by
    obtain ⟨hp, ha, hc⟩ := advertised_none (h.parent_none hv)
    constructor
    · change (g.bridge v).rootId = (g.bridge v).bridgeId
      unfold rootId bridgeId
      rw [hp, ha]
    · change (g.bridge v).rootPathCost.toNat = 0
      rw [hc]
      rfl
  up v w hv := by
    obtain ⟨p, q, hrole, hpeer⟩ := h.parent_iff.mp hv
    exact ⟨_, ⟨p, q, hpeer, rfl⟩, (h.up hrole hpeer).2⟩
  grounded := h.grounded

/-- A link that forwards is the link of a root port. -/
theorem Good.wired [Finite V] : g.choice.Wired g.peer (fun v p => ((g.bridge v).ports p).role = .ROOT) g.Active where
  symm := g.peer_symm
  parent_iff := h.parent_iff
  one := (h.kept _).oneRoot _ _
  active := by
    rintro v w p q ⟨hpeer, hp, hq⟩
    have hforward {v w : V} {p : Fin (g.numPorts v)} {q : Fin (g.numPorts w)} (hpeer : g.peer v p = some ⟨w, q⟩)
        (hp : ((g.bridge v).ports p).state = .FORWARDING) (hd : ((g.bridge v).ports p).role ≠ .DESIGNATED) :
        ((g.bridge v).ports p).role = .ROOT := by
      cases h.role hpeer with
      | inl hr => exact hr
      | inr hr =>
        cases hr with
        | inl hr =>
          rw [(h.kept v).alternateDiscards p hr] at hp
          cases hp
        | inr hr => exact absurd hr hd
    by_cases hd : ((g.bridge v).ports p).role = .DESIGNATED
    · exact ⟨hpeer, Or.inr (hforward (g.peer_symm hpeer) hq ((h.oneDesignated hpeer).mp hd))⟩
    · exact ⟨hpeer, Or.inl (hforward hpeer hp hd)⟩
  of_root {v w p q} hrole hpeer := by
    refine ⟨hpeer, (h.kept v).rootForwards p hrole, ?_⟩
    have hd := (h.hears hpeer (by rw [hrole]; decide)).1
    have hset := h.settled (g.peer_symm hpeer)
    unfold PortInfo.Upgrading at hset
    cases hstate : ((g.bridge w).ports q).state <;> simp_all

theorem Good.shortestTree [Finite V] [Nonempty V] (hconn : g.Connected) : g.ShortestTree := by
  have hhops (v w : V) : Relation.ReflTransGen (fun v w => ∃ c, g.choice.hop v w c) v w :=
    Relation.ReflTransGen.mono (fun _ _ ⟨p, q, hpeer⟩ => ⟨_, p, q, hpeer, rfl⟩) v w (hconn v w)
  have hid : Function.Injective g.choice.id := by
    intro v w hid
    change (g.bridge v).bridgeId = (g.bridge w).bridgeId at hid
    rw [bridgeId, bridgeId, toLex_inj, Prod.mk.injEq] at hid
    exact g.addresses (eq_of_toNat_eq hid.2)
  obtain ⟨r, hroot, hleast, honly, hway⟩ := h.choice_settled.least hhops hid
  refine ⟨⟨r, hleast, fun v => ⟨hroot v, hway v⟩⟩, fun v p w q hpeer => h.oneDesignated hpeer, ?_,
    fun v w p q p' q' => h.wired.single h.choice_settled⟩
  rw [h.wired.eq_tree (G := g.forwarding) fun _ _ => Iff.rfl]
  exact h.choice_settled.isTree honly

end

end RSTPNetwork

end Inet.Ieee8021d
