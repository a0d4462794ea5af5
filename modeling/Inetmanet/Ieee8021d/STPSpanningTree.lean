import Inetmanet.Ieee8021d.STPNetwork

/-!
# The spanning tree of STP

In a stable network every port that is not designated is renewed by the bridge behind
it, and every designated port sends. The bridges then agree on the root, and the ways
they have chosen are the shortest ones.
-/
namespace Inet.Ieee8021d

open List PriorityVector

namespace STP

variable {n : Nat} {b c : STP n} {i j p q r : Fin n} {frame : BPDU}

variable {tcFlag tcaFlag : Bool}

theorem sends_relayOut {l : List (Fin n)} {address : MACAddress} :
    (l.foldl (fun b i => b.generateBPDU i address tcFlag tcaFlag) b).relayOut =
      b.relayOut ++ l.map fun i => (b.bpdu i tcFlag tcaFlag, address, i) := by
  induction l generalizing b with
  | nil => simp
  | cons i l ih =>
    rw [foldl_cons, ih, map_cons]
    exact append_assoc ..

theorem tryRoot_relayOut (b : STP n) : b.tryRoot.relayOut = b.relayOut := by
  unfold tryRoot
  split_ifs <;> rfl

theorem checkAge_relayOut (b : STP n) (i : Fin n) : (b.checkAge i).relayOut = b.relayOut := by
  unfold checkAge
  split_ifs
  · exact tryRoot_relayOut _
  · rfl
  · rfl

theorem checkTimers_relayOut : b.checkTimers.relayOut = b.checkHello.relayOut :=
  IndexLoops.foldl_keeps (p := fun s => s.relayOut = b.checkHello.relayOut)
    (fun s i hs => (checkAge_relayOut s i).trans hs) (finRange n) rfl

theorem checkParametersChange_relayOut : b.checkParametersChange.relayOut = b.relayOut := by
  unfold checkParametersChange
  dsimp only
  split_ifs <;> rfl

/-- The frames of a tick are hellos and a notification. -/
theorem handleTick_relayOut : b.handleTick.relayOut = b.countTick.checkHello.relayOut ∨
    ∃ x, x.1.bpduType = 1 ∧ b.handleTick.relayOut = b.countTick.checkHello.relayOut ++ [x] := by
  have hout : b.countTick.checkTimers.checkParametersChange.relayOut = b.countTick.checkHello.relayOut :=
    checkParametersChange_relayOut.trans checkTimers_relayOut
  rw [← hout]
  unfold handleTick generateTCN
  split_ifs
  · exact .inr ⟨_, rfl, rfl⟩
  · exact .inl rfl

theorem checkHello_relayOut (h : b.Kept) :
    b.idle.countTick.checkHello.relayOut =
      if b.isRoot then (finRange n).map fun i => (b.idle.countTick.bpdu i false false, STP_MULTICAST_ADDRESS, i) else [] := by
  unfold checkHello
  cases hroot : b.isRoot with
  | true =>
    have hdue : b.idle.countTick.currentHelloTime ≤ b.idle.countTick.helloTime := by
      change b.currentHelloTime ≤ if b.isRoot then b.helloTime + second else 0
      rw [h.hello hroot, hroot]
      exact Nat.le_add_right _ _
    have hroot' : b.idle.countTick.isRoot = true := hroot
    rw [if_pos hdue]
    rw [if_pos hroot']
    exact sends_relayOut
  | false =>
    have hroot' : ¬ b.idle.countTick.isRoot = true := by
      change ¬ b.isRoot = true
      rw [hroot]
      decide
    change _ = []
    split_ifs
    · rfl
    · rfl

/-- At ticks the root sends through every port, and no other bridge sends anything but notifications. -/
theorem tick_emits (h : b.Kept) : b.idle.handleTick.Emits p ↔ b.isRoot = true := by
  have hmem : b.idle.handleTick.Emits p ↔ ∃ x ∈ b.idle.countTick.checkHello.relayOut, x.1.bpduType = 0 ∧ x.2.2 = p := by
    unfold Emits
    rcases handleTick_relayOut (b := b.idle) with hout | ⟨x, hx, hout⟩
    · rw [hout]
    · rw [hout]
      constructor
      · rintro ⟨y, hy, htype, hport⟩
        cases mem_append.mp hy with
        | inl hy => exact ⟨y, hy, htype, hport⟩
        | inr hy =>
          rw [mem_singleton.mp hy, hx] at htype
          exact absurd htype (by decide)
      · rintro ⟨y, hy, hrest⟩
        exact ⟨y, mem_append_left _ hy, hrest⟩
  rw [hmem, checkHello_relayOut h]
  cases b.isRoot with
  | true => simp [bpdu]
  | false => simp

theorem heard_desPorts : (b.heard frame p).desPorts = b.desPorts := by
  unfold heard isSuperiorBPDU setSuperiorBPDU
  dsimp only
  split_ifs <;> rfl

theorem heard_relayOut : (b.heard frame p).relayOut = b.relayOut := by
  unfold heard isSuperiorBPDU setSuperiorBPDU
  dsimp only
  split_ifs <;> rfl

theorem generateBPDU_emits (h : b.relayOut = []) {address : MACAddress} :
    (b.generateBPDU p address tcFlag tcaFlag).Emits r ↔ r = p := by
  unfold Emits generateBPDU
  rw [h]
  simp only [nil_append, mem_singleton, exists_eq_left]
  constructor
  · intro hr
    exact hr.2.symm
  · intro hr
    exact ⟨rfl, hr.symm⟩

theorem relayBPDU_emits (h : b.relayOut = []) : (b.relayBPDU tcFlag).Emits r ↔ r ∈ b.desPorts := by
  unfold Emits relayBPDU
  rw [sends_relayOut, h]
  simp [bpdu]

theorem tryRoot_emits : b.tryRoot.Emits r ↔ b.Emits r := by
  unfold Emits
  rw [tryRoot_relayOut]

theorem not_emits (h : b.relayOut = []) : ¬ b.Emits r := by
  simp [Emits, h]

theorem isSuperiorBPDU_true : (b.isSuperiorBPDU p frame).2 = true ↔
    ¬ (b.ports p).rank < (frame.over (b.ports p).linkCost).rank := by
  unfold isSuperiorBPDU
  rw [← comparePorts_pos]
  dsimp only
  split_ifs with hinferior <;> simp [hinferior]

/-- What a bridge sends when it gets a BPDU. -/
theorem answer_emits : (b.idle.handleBPDU frame p).Emits r ↔
    ¬ (b.ports p).rank < (frame.over (b.ports p).linkCost).rank ∧ (b.ports p).role = .ROOT ∧ r ∈ b.desPorts ∨
      (b.ports p).rank < (frame.over (b.ports p).linkCost).rank ∧ (b.ports p).role = .DESIGNATED ∧ r = p := by
  set d : STP n := if frame.tcaFlag then { b.idle with topologyChangeRecvd := true, topologyChangeNotification := false }
    else b.idle with hd
  have hport : d.ports = b.ports := by
    rw [hd]
    split_ifs <;> rfl
  have hsuperior : (d.isSuperiorBPDU p frame).2 = true ↔ ¬ (b.ports p).rank < (frame.over (b.ports p).linkCost).rank := by
    rw [isSuperiorBPDU_true, hport]
  have hheard : (d.isSuperiorBPDU p frame).1 = b.idle.heard frame p := rfl
  have hrole : ((b.idle.heard frame p).ports p).role = (b.ports p).role := (b.idle.heard_renewed frame p).role p
  have hout : (b.idle.heard frame p).relayOut = [] := heard_relayOut
  have hdes : (b.idle.heard frame p).desPorts = b.desPorts := heard_desPorts
  unfold handleBPDU
  dsimp only
  rw [← hd, hheard, tryRoot_emits, hrole]
  by_cases hinferior : (b.ports p).rank < (frame.over (b.ports p).linkCost).rank
  · rw [if_pos fun h => hsuperior.mp h hinferior]
    by_cases hd : (b.ports p).role = .DESIGNATED
    · rw [if_pos hd, generateBPDU_emits hout]
      simp [hinferior, hd]
    · simp [hinferior, hd, not_emits hout]
  · rw [if_neg (not_not_intro (hsuperior.mpr hinferior))]
    by_cases hr : (b.ports p).role = .ROOT
    · rw [if_pos hr, relayBPDU_emits hout, hdes]
      simp [hinferior, hr]
    · simp [hinferior, hr, not_emits hout]

/-- What a bridge offers over a link, seen from its other end. -/
def claim (b : STP n) (linkCost portPriority portNum : UInt) : PriorityVector where
  rootPriority := b.rootPriority
  rootAddress := b.rootAddress
  rootPathCost := b.rootPathCost + linkCost
  bridgePriority := b.bridgePriority
  bridgeAddress := b.bridgeAddress
  portPriority := portPriority
  portNum := portNum

theorem bridgeGlobal_eq : b.bridgeGlobal p = b.claim (b.ports p).linkCost (b.ports p).priority (BitVec.ofNat 32 p) := rfl

theorem toNat_add {x y : UInt} (h : x.toNat + y.toNat < 2 ^ 32) : (x + y).toNat = x.toNat + y.toNat := by
  exact Nat.mod_eq_of_lt h

/-- Offers over the same link are compared like the offers of the bridges. One that has lost a carry is less than the cost of the link. -/
theorem offer_le {m : Nat} {d : STP m} {cost prio num prio' num' : UInt} (hb : b.rootPathCost.toNat + cost.toNat < 2 ^ 32)
    (h : (b.claim cost prio num).rank ≤ (d.claim cost prio' num').rank) :
    SpanningTree.offer b.rootId b.rootPathCost.toNat b.bridgeId ≤
      SpanningTree.offer d.rootId d.rootPathCost.toNat d.bridgeId := by
  rw [SpanningTree.offer_le]
  rw [rank, rank, Prod.Lex.toLex_le_toLex, Prod.Lex.toLex_le_toLex, Prod.Lex.toLex_le_toLex] at h
  simp only [claim, toNat_add hb] at h
  have hd : (d.rootPathCost + cost).toNat = d.rootPathCost.toNat + cost.toNat ∨
      (d.rootPathCost + cost).toNat < cost.toNat := by
    rw [BitVec.toNat_add]
    omega
  rcases h with h | ⟨h, hcost | ⟨hcost, hid | hid⟩⟩
  · exact .inl h
  · exact .inr ⟨h, Or.inl (by omega)⟩
  · exact .inr ⟨h, Or.inr ⟨by omega, hid.le⟩⟩
  · exact .inr ⟨h, Or.inr ⟨by omega, hid.1.le⟩⟩

theorem rootId_le (h : b.Chosen) : b.rootId ≤ b.bridgeId := by
  cases hroot : b.isRoot with
  | true =>
    have hself := h.asRoot hroot
    rw [rootId, bridgeId, hself.rootPriority, hself.rootAddress]
  | false =>
    have hself := h.asOther hroot
    have hbetter := better_iff.mp hself.better
    rw [rootId, hself.rootPriority, hself.rootAddress]
    exact hbetter.le

/-- Only the root names itself. -/
theorem isRoot_iff (h : b.Chosen) : b.isRoot = true ↔ b.rootId = b.bridgeId := by
  constructor
  · intro hroot
    have hself := h.asRoot hroot
    rw [rootId, bridgeId, hself.rootPriority, hself.rootAddress]
  · intro heq
    by_contra hother
    have hself := h.asOther (Bool.eq_false_iff.mpr hother)
    have hbetter := better_iff.mp hself.better
    rw [rootId, hself.rootPriority, hself.rootAddress] at heq
    exact absurd heq hbetter.ne

theorem currentMaxAge_pos (h : b.Chosen) : 0 < b.currentMaxAge := by
  cases hroot : b.isRoot with
  | true =>
    rw [(h.asRoot hroot).currentMaxAge]
    exact h.positive
  | false =>
    rw [(h.asOther hroot).currentMaxAge]
    exact h.lasting _ (h.asOther hroot).better

end STP

namespace STPNetwork

open STP

variable {V : Type} {g : STPNetwork V} {T : (v : V) → Fin (g.numPorts v) → Prop} {v w : V} {p : Fin (g.numPorts v)}
  {q : Fin (g.numPorts w)}

/-- A stable network within its limits, and what its bridges keep. -/
structure Good (g : STPNetwork V) (T : (v : V) → Fin (g.numPorts v) → Prop) : Prop where
  kept : ∀ v, (g.bridge v).Kept
  stable : g.StableUnder T
  limits : g.WithinLimits

section

variable (h : g.Good T)
include h

theorem Good.age (w : V) (q : Fin (g.numPorts w)) :
    ((g.bridge w).hello q).messageAge < ((g.bridge w).hello q).maxAge := currentMaxAge_pos (h.kept w).toChosen

/-- Only designated ports send. -/
theorem Good.designated (hT : T v p) : ((g.bridge v).ports p).role = .DESIGNATED := by
  cases h.stable.repeating.only v p hT with
  | inl htick => exact ((h.kept v).asRoot ((tick_emits (h.kept v)).mp htick)).designated p
  | inr hanswer =>
    obtain ⟨p', w, q, -, -, hemits⟩ := hanswer
    rcases answer_emits.mp hemits with ⟨-, -, hmem⟩ | ⟨-, hrole, heq⟩
    · cases hroot : (g.bridge v).isRoot with
      | true => exact ((h.kept v).asRoot hroot).designated p
      | false => exact (((h.kept v).asOther hroot).mem_desPorts p).mp hmem
    · rw [heq]
      exact hrole

theorem Good.le (hpeer : g.peer v p = some ⟨w, q⟩) (hT : T w q) :
    ((g.bridge v).ports p).rank ≤ (((g.bridge w).hello q).over ((g.bridge v).ports p).linkCost).rank :=
  le_of_unchanged (h.stable.delivery v p w q hpeer hT) (h.age w q)

/-- A port that is not designated is heard from. -/
theorem Good.heard (hrole : ((g.bridge v).ports p).role ≠ .DESIGNATED) : g.Heard T v p := by
  classical
  by_contra hno
  have hchosen := (h.kept v).toChosen
  set b := g.bridge v with hb
  set age : Fin (g.numPorts v) → Time := fun i =>
    if g.Heard T v i then 0
    else if (b.ports i).role = .DESIGNATED then (b.ports i).age else (b.ports i).age + b.currentMaxAge * second with hage
  have hsame := h.stable.tick v b.currentMaxAge age (fun i hi => if_pos hi)
    (fun i hi hd => (if_neg hi).trans (if_pos hd)) (fun i hi hd => (if_neg hi).trans (if_neg hd))
  have hlater : (b.later age).Chosen := by
    refine hchosen.timers (fun i => ⟨_, _, _, rfl⟩) fun i => ?_
    by_cases hi : g.Heard T v i
    · exact .inl (if_pos hi)
    · by_cases hd : (b.ports i).role = .DESIGNATED
      · rw [hage]
        dsimp only
        rw [if_neg hi, if_pos hd]
        exact hchosen.age i
      · exact .inr (hchosen.better hd).2
  have hfresh : age p + second < b.currentMaxAge := fresh_of_unchanged (b := b.later age) (p := p) hlater
    ⟨hsame.role, hsame.vector, hsame.isRoot, hsame.rootPort, hsame.desPorts, hsame.rootPriority, hsame.rootAddress,
      hsame.rootPathCost⟩ hrole
  have hold : age p = (b.ports p).age + b.currentMaxAge * second := (if_neg hno).trans (if_neg hrole)
  have hmul : b.currentMaxAge ≤ b.currentMaxAge * second := Nat.le_mul_of_pos_right _ (by decide)
  rw [hold] at hfresh
  exact absurd hfresh (not_lt.mpr (hmul.trans ((Nat.le_add_left _ _).trans (Nat.le_add_right _ _))))

/-- A port that is not designated knows what the designated port behind it sends. -/
theorem Good.hears (hrole : ((g.bridge v).ports p).role ≠ .DESIGNATED) :
    ∃ w q, g.peer v p = some ⟨w, q⟩ ∧ T w q ∧
      ((g.bridge v).ports p).toPriorityVector = ((g.bridge w).hello q).over ((g.bridge v).ports p).linkCost := by
  obtain ⟨w, q, hpeer, hT, hrenews⟩ := h.heard hrole
  exact ⟨w, q, hpeer, hT, eq_of_renews (h.stable.delivery v p w q hpeer hT) hrenews⟩

theorem Good.hears_peer (hpeer : g.peer v p = some ⟨w, q⟩)
    (hrole : ((g.bridge v).ports p).role ≠ .DESIGNATED) : T w q ∧
      ((g.bridge v).ports p).toPriorityVector = ((g.bridge w).hello q).over ((g.bridge v).ports p).linkCost := by
  obtain ⟨w', q', hpeer', hT, hvector⟩ := h.hears hrole
  cases hpeer.symm.trans hpeer'
  exact ⟨hT, hvector⟩

/-- Every designated port sends. -/
theorem Good.sends (hrole : ((g.bridge v).ports p).role = .DESIGNATED) : T v p := by
  cases hroot : (g.bridge v).isRoot with
  | true => exact h.stable.repeating.tick v p ((tick_emits (h.kept v)).mpr hroot)
  | false =>
    have hself := (h.kept v).asOther hroot
    have hrootRole := (hself.rootRole (g.bridge v).rootPort).mpr rfl
    obtain ⟨w, q, hpeer, hT, hvector⟩ := h.hears (p := (g.bridge v).rootPort) (by rw [hrootRole]; decide)
    refine h.stable.repeating.answer v _ w q p hpeer hT (answer_emits.mpr (Or.inl ⟨?_, hrootRole, ?_⟩))
    · rw [hvector]
      exact lt_irrefl _
    · exact (hself.mem_desPorts p).mpr hrole

/-- A root port leads to a bridge with the same root, and the way over it is the bridge's own. -/
theorem Good.up (hrole : ((g.bridge v).ports p).role = .ROOT) (hpeer : g.peer v p = some ⟨w, q⟩) :
    (g.bridge v).rootId = (g.bridge w).rootId ∧
      (g.bridge v).rootPathCost.toNat = (g.bridge w).rootPathCost.toNat + ((g.bridge v).ports p).linkCost.toNat := by
  have hnot : ((g.bridge v).ports p).role ≠ .DESIGNATED := by
    rw [hrole]
    decide
  obtain ⟨-, hvector⟩ := h.hears_peer hpeer hnot
  have hself := (h.kept v).asOther ((h.kept v).better hnot).1
  rw [(hself.rootRole p).mp hrole] at hvector ⊢
  constructor
  · rw [rootId, hself.rootPriority, hself.rootAddress, hvector]
    rfl
  · rw [hself.rootPathCost, hvector]
    refine toNat_add ?_
    rw [← (hself.rootRole p).mp hrole]
    exact h.limits.heard v p w q hpeer hnot

/-- A port that is not designated leads to a bridge with the same root, which is no farther from it. -/
theorem Good.lower (hpeer : g.peer v p = some ⟨w, q⟩) (hrole : ((g.bridge v).ports p).role ≠ .DESIGNATED) :
    (g.bridge v).rootId = (g.bridge w).rootId ∧
      (g.bridge w).rootPathCost.toNat ≤ (g.bridge v).rootPathCost.toNat ∧
      (g.bridge v).rootPathCost.toNat ≤ (g.bridge w).rootPathCost.toNat + ((g.bridge v).ports p).linkCost.toNat := by
  have hself := (h.kept v).asOther ((h.kept v).better hrole).1
  by_cases hp : p = (g.bridge v).rootPort
  · obtain ⟨hroot, hcost⟩ := h.up ((hself.rootRole p).mpr hp) hpeer
    exact ⟨hroot, by omega⟩
  · obtain ⟨-, hvector⟩ := h.hears_peer hpeer hrole
    have hcost := h.limits.heard v p w q hpeer hrole
    -- the port knows nothing better than the root port, and the bridge has nothing better to offer
    have hbest := hself.best p
    rw [hvector, rank, rank, ← hself.rootPriority, ← hself.rootAddress, ← hself.rootPathCost,
      Prod.Lex.toLex_le_toLex, Prod.Lex.toLex_le_toLex] at hbest
    change (g.bridge v).rootId < (g.bridge w).rootId ∨ (g.bridge v).rootId = (g.bridge w).rootId ∧
      ((g.bridge v).rootPathCost.toNat < ((g.bridge w).rootPathCost + ((g.bridge v).ports p).linkCost).toNat ∨
        (g.bridge v).rootPathCost.toNat = ((g.bridge w).rootPathCost + ((g.bridge v).ports p).linkCost).toNat ∧ _) at hbest
    rw [toNat_add hcost] at hbest
    have hcontest : ¬ ((g.bridge v).bridgeGlobal p).rank < ((g.bridge v).ports p).rank :=
      fun hlt => hrole ((hself.designated p).mpr ⟨hp, hlt⟩)
    rw [hvector, bridgeGlobal_eq] at hcontest
    have hoffer := SpanningTree.offer_le.mp (offer_le hcost (not_lt.mp hcontest))
    have hle : (g.bridge w).rootId ≤ (g.bridge v).rootId := by
      cases hoffer with
      | inl hlt => exact hlt.le
      | inr heq => exact heq.1.le
    cases hbest with
    | inl hlt => exact absurd hlt (not_lt.mpr hle)
    | inr hbest =>
      refine ⟨hbest.1, ?_, by omega⟩
      cases hoffer with
      | inl hlt => exact absurd hlt (not_lt.mpr hbest.1.le)
      | inr hoffer => omega

/-- A designated port claims its link. -/
theorem Good.claims (hpeer : g.peer v p = some ⟨w, q⟩) (hp : ((g.bridge v).ports p).role = .DESIGNATED)
    (hq : ((g.bridge w).ports q).role = .DESIGNATED) :
    SpanningTree.Claims (g.bridge v).rootId (g.bridge v).rootPathCost.toNat (g.bridge v).bridgeId (g.bridge w).rootId
      (g.bridge w).rootPathCost.toNat (g.bridge w).bridgeId := by
  have hle := h.le hpeer (h.sends hq)
  right
  cases hroot : (g.bridge v).isRoot with
  | true =>
    left
    have hself := (h.kept v).asRoot hroot
    have hown := (isRoot_iff (h.kept v).toChosen).mp hroot
    refine ⟨hown, ?_⟩
    have hno := hself.noBetter p
    rw [better_iff, not_lt] at hno
    rw [hown]
    exact hno.trans (root_le hle)
  | false =>
    right
    have hself := (h.kept v).asOther hroot
    have hcost := h.limits.claimed v p w q hpeer hp hq
    have hlt := ((hself.designated p).mp hp).2
    exact offer_le hcost (hlt.le.trans hle)

theorem Good.cost_zero (v : V) (hroot : (g.bridge v).rootId = (g.bridge v).bridgeId) :
    (g.bridge v).rootPathCost.toNat = 0 := by
  have hself := (h.kept v).asRoot ((isRoot_iff (h.kept v).toChosen).mpr hroot)
  rw [hself.rootPathCost]
  rfl

end

theorem bridgeId_inj (hid : (g.bridge v).bridgeId = (g.bridge w).bridgeId) : v = w :=
  g.addresses (bridgeRank_inj.mp hid).2

/-- Exactly one end of a link is designated. -/
theorem Good.oneDesignated (h : g.Good T) (hpeer : g.peer v p = some ⟨w, q⟩) :
    ((g.bridge v).ports p).role = .DESIGNATED ↔ ((g.bridge w).ports q).role ≠ .DESIGNATED := by
  constructor
  · intro hp hq
    exact SpanningTree.Claims.not_both (fun hid => g.peer_ne hpeer (bridgeId_inj hid)) (rootId_le (h.kept v).toChosen)
      (rootId_le (h.kept w).toChosen) (h.cost_zero v) (h.cost_zero w) (h.claims hpeer hp hq)
      (h.claims (g.peer_symm hpeer) hq hp)
  · intro hq
    exact h.designated (h.hears_peer (g.peer_symm hpeer) hq).1

theorem Good.link (h : g.Good T) (hpeer : g.peer v p = some ⟨w, q⟩) : (g.bridge v).rootId = (g.bridge w).rootId ∧
    (g.bridge v).rootPathCost.toNat ≤ (g.bridge w).rootPathCost.toNat + ((g.bridge v).ports p).linkCost.toNat := by
  by_cases hp : ((g.bridge v).ports p).role = .DESIGNATED
  · obtain ⟨hroot, hcost, -⟩ := h.lower (g.peer_symm hpeer) ((h.oneDesignated hpeer).mp hp)
    exact ⟨hroot.symm, hcost.trans (Nat.le_add_right _ _)⟩
  · obtain ⟨hroot, -, hcost⟩ := h.lower hpeer hp
    exact ⟨hroot, hcost⟩

section

variable (h : g.Good T)
include h

theorem Good.parent_iff :
    g.parent v = some w ↔ ∃ p q, ((g.bridge v).ports p).role = .ROOT ∧ g.peer v p = some ⟨w, q⟩ := by
  unfold parent
  cases hroot : (g.bridge v).isRoot with
  | true =>
    have hself := (h.kept v).asRoot hroot
    simp only [if_true, reduceCtorEq, false_iff]
    rintro ⟨p, q, hrole, -⟩
    rw [hself.designated p] at hrole
    cases hrole
  | false =>
    have hself := (h.kept v).asOther hroot
    simp only [Bool.false_eq_true, if_false, Option.map_eq_some_iff]
    constructor
    · rintro ⟨⟨w', q⟩, hpeer, rfl⟩
      exact ⟨_, q, (hself.rootRole _).mpr rfl, hpeer⟩
    · rintro ⟨p, q, hrole, hpeer⟩
      rw [(hself.rootRole p).mp hrole] at hpeer
      exact ⟨_, hpeer, rfl⟩

theorem Good.parent_none (hp : g.parent v = none) : (g.bridge v).isRoot = true := by
  by_contra hroot
  have hself := (h.kept v).asOther (Bool.eq_false_iff.mpr hroot)
  have hrole := (hself.rootRole (g.bridge v).rootPort).mpr rfl
  obtain ⟨w, q, hpeer, -⟩ := h.hears (p := (g.bridge v).rootPort) (by rw [hrole]; decide)
  have hsome := h.parent_iff.mpr ⟨_, q, hrole, hpeer⟩
  rw [hp] at hsome
  cases hsome

theorem Good.grounded [Finite V] : WellFounded fun w v => g.parent v = some w := by
  refine SpanningTree.Choice.grounded_of_free (C := g.choice) h.limits.free fun v w hp => ?_
  obtain ⟨p, q, hrole, hpeer⟩ := h.parent_iff.mp hp
  have hup : g.choice.cost v = g.choice.cost w + ((g.bridge v).ports p).linkCost.toNat := (h.up hrole hpeer).2
  refine ⟨by omega, fun heq => ⟨p, q, hrole, hpeer, BitVec.eq_of_toNat_eq ?_⟩⟩
  change _ = 0
  omega

theorem Good.choice_settled [Finite V] : g.choice.Settled where
  agree v w c := fun ⟨_, _, hpeer, _⟩ => (h.link hpeer).1
  cost_le v w c := by
    rintro ⟨p, q, hpeer, rfl⟩
    exact (h.link hpeer).2
  root_le v := rootId_le (h.kept v).toChosen
  top v hv := by
    have hroot := (isRoot_iff (h.kept v).toChosen).mp (h.parent_none hv)
    exact ⟨hroot, h.cost_zero v hroot⟩
  up v w hv := by
    obtain ⟨p, q, hrole, hpeer⟩ := h.parent_iff.mp hv
    exact ⟨_, ⟨p, q, hpeer, rfl⟩, (h.up hrole hpeer).2⟩
  grounded := h.grounded

theorem Good.rootPort_unique {p' : Fin (g.numPorts v)} (hp : ((g.bridge v).ports p).role = .ROOT)
    (hp' : ((g.bridge v).ports p').role = .ROOT) : p = p' := by
  have hnot : ((g.bridge v).ports p).role ≠ .DESIGNATED := by
    rw [hp]
    decide
  have hself := (h.kept v).asOther ((h.kept v).better hnot).1
  exact ((hself.rootRole p).mp hp).trans ((hself.rootRole p').mp hp').symm

/-- An active link is the link of a root port. -/
theorem Good.wired : g.choice.Wired g.peer (fun v p => ((g.bridge v).ports p).role = .ROOT) g.Active where
  symm := g.peer_symm
  parent_iff := h.parent_iff
  one := h.rootPort_unique
  active := by
    rintro v w p q ⟨hpeer, hp, hq⟩
    by_cases hd : ((g.bridge v).ports p).role = .DESIGNATED
    · exact ⟨hpeer, Or.inr (hq.resolve_right ((h.oneDesignated hpeer).mp hd))⟩
    · exact ⟨hpeer, Or.inl (hp.resolve_right hd)⟩
  of_root {v w p q} hrole hpeer := by
    have hnot : ((g.bridge v).ports p).role ≠ .DESIGNATED := by
      rw [hrole]
      decide
    exact ⟨hpeer, Or.inl hrole, Or.inr (h.designated (h.hears_peer hpeer hnot).1)⟩

theorem Good.spanningTree [Finite V] [Nonempty V] (hconn : g.Connected) : g.SpanningTree := by
  have hhops (v w : V) : Relation.ReflTransGen (fun v w => ∃ c, g.choice.hop v w c) v w :=
    Relation.ReflTransGen.mono (fun _ _ ⟨p, q, hpeer⟩ => ⟨_, p, q, hpeer, rfl⟩) v w (hconn v w)
  obtain ⟨r, hroot, hleast, honly, hway⟩ := h.choice_settled.least hhops fun v w => bridgeId_inj
  refine ⟨⟨r, hleast, fun v => ⟨hroot v, hway v⟩, fun v hv => ?_⟩, fun v p w q hpeer => h.oneDesignated hpeer, ?_,
    fun v w p q p' q' => h.wired.single h.choice_settled⟩
  · cases hp : g.parent v with
    | none => exact absurd ((honly v).mp hp) hv
    | some u =>
      obtain ⟨p, q, hrole, -⟩ := h.parent_iff.mp hp
      exact ⟨p, hrole, fun p' hp' => h.rootPort_unique hp' hrole⟩
  · rw [h.wired.eq_tree (G := g.active) fun _ _ => Iff.rfl]
    exact h.choice_settled.isTree honly

end

/-- Stable networks have found the shortest paths to the least bridge. -/
theorem stable_spanningTree {V : Type} [Finite V] [Nonempty V] (g : STPNetwork V) (hconn : g.Connected)
    (hreached : ∀ v, (g.bridge v).Reached) (hstable : g.Stable) (hlimits : g.WithinLimits) : g.SpanningTree := by
  obtain ⟨T, hT⟩ := hstable
  exact Good.spanningTree ⟨fun v => (hreached v).kept, hT, hlimits⟩ hconn

theorem free_of_costs (h : ∀ v p, (g.peer v p).isSome → ((g.bridge v).ports p).linkCost ≠ 0) (v : V) :
    ¬ Relation.TransGen g.FreeParent v v := by
  intro hcycle
  obtain ⟨w, -, p, q, -, hpeer, hzero⟩ := Relation.TransGen.tail'_iff.mp hcycle
  exact h v p (by rw [hpeer]; rfl) hzero

/-- When no port has grown old and all ports that may are heard from, a tick need be looked at once only. -/
theorem stable_of_fresh (hrepeating : g.Repeating T) (hdelivery : ∀ v p w q, g.peer v p = some ⟨w, q⟩ → T w q →
    SameCore ((g.bridge v).handleBPDU ((g.bridge w).hello q) p) (g.bridge v))
    (hheard : ∀ v p, ((g.bridge v).ports p).role ≠ .DESIGNATED → ∃ w q, g.peer v p = some ⟨w, q⟩ ∧ T w q ∧
      (g.bridge v).Renews ((g.bridge w).hello q) p)
    (hfresh : ∀ v p, ((g.bridge v).ports p).age = 0)
    (htick : ∀ v, SameCore ((g.bridge v).later fun _ => 0).handleTick (g.bridge v)) : g.StableUnder T where
  repeating := hrepeating
  delivery := hdelivery
  tick v ticks age hzero hown hold := by
    have hage : age = fun _ => 0 := by
      funext p
      by_cases hp : g.Heard T v p
      · exact hzero p hp
      · by_cases hrole : ((g.bridge v).ports p).role = .DESIGNATED
        · exact (hown p hp hrole).trans (hfresh v p)
        · exact absurd (hheard v p hrole) hp
    rw [hage]
    exact htick v

/-- A bridge before `initialize`, with the costs of its links. -/
def newBridge (address : MACAddress) (linkCost : Fin 2 → UInt) : STP 2 where
  bridgePriority := 32768
  bridgeAddress := address
  maxAge := 20 * second
  helloTime := 0
  forwardDelay := 15 * second
  ports p :=
    { rootPriority := 0, rootAddress := 0, rootPathCost := 0, bridgePriority := 0, bridgeAddress := 0, portPriority := 0,
      portNum := 0, priority := 128, linkCost := linkCost p, edge := false, state := .DISCARDING, role := .NOTASSIGNED,
      age := 0, maxAge := 0, fdWhile := 0, fwdDelay := 0, helloTime := 0, TCWhile := 0, lostBPDU := 0, nextUpgrade := 0 }
  isRoot := false
  rootPort := 0
  desPorts := []
  rootPathCost := 0
  rootPriority := 0
  rootAddress := 0
  currentMaxAge := 0
  currentFwdDelay := 0
  currentHelloTime := 0
  currentBridgePriority := 0
  topologyChangeNotification := false
  topologyChangeRecvd := false
  relayOut := []

/-- Port 0 leads to the bridge before, port 1 to the bridge after. -/
def ringCost : Fin 4 → Fin 2 → UInt
  | 0, 0 => 100
  | 0, 1 => 0x7FFFFFFF
  | 1, _ => 0x7FFFFFFF
  | 2, 0 => 0x7FFFFFFF
  | 2, 1 => 2
  | 3, 0 => 2
  | 3, 1 => 100

def ringStart (v : Fin 4) : STP 2 := newBridge (BitVec.ofNat 48 (v + 1)) (ringCost v)

/-- Each bridge hears from the one before it, and the last one also from the first one. -/
def ringFirst : STP 2 := (ringStart 0).initialized
def ringSecond : STP 2 := (ringStart 1).initialized.handleMessage (.bpdu (ringFirst.hello 1) 1 STP_MULTICAST_ADDRESS 0)
def ringThird : STP 2 := (ringStart 2).initialized.handleMessage (.bpdu (ringSecond.hello 1) 2 STP_MULTICAST_ADDRESS 0)

def ringHistory : Fin 4 → List (Event 2)
  | 0 => []
  | 1 => [.bpdu (ringFirst.hello 1) 1 STP_MULTICAST_ADDRESS 0]
  | 2 => [.bpdu (ringSecond.hello 1) 2 STP_MULTICAST_ADDRESS 0]
  | 3 => [.bpdu (ringThird.hello 1) 3 STP_MULTICAST_ADDRESS 0, .bpdu (ringFirst.hello 0) 1 STP_MULTICAST_ADDRESS 1]

def ringBridge (v : Fin 4) : STP 2 := (ringHistory v).foldl handleMessage (ringStart v).initialized

def ringPeer (v : Fin 4) (p : Fin 2) : Option (Σ _ : Fin 4, Fin 2) := if p = 0 then some ⟨v - 1, 1⟩ else some ⟨v + 1, 0⟩

theorem ringPeer_symm : ∀ v w p q, ringPeer v p = some ⟨w, q⟩ → ringPeer w q = some ⟨v, p⟩ := by decide

theorem ringPeer_ne : ∀ v w p q, ringPeer v p = some ⟨w, q⟩ → v ≠ w := by decide

theorem ringBridge_address : ∀ v w, (ringBridge v).bridgeAddress = (ringBridge w).bridgeAddress → v = w := by decide

def ringNetwork : STPNetwork (Fin 4) where
  numPorts _ := 2
  bridge := ringBridge
  peer := ringPeer
  peer_symm h := ringPeer_symm _ _ _ _ h
  peer_ne h := ringPeer_ne _ _ _ _ h
  addresses h := ringBridge_address _ _ h

/-- The ports of the ring that send. -/
def ringSends (v : Fin 4) (p : Fin 2) : Prop := v = 0 ∨ p = 1 ∧ v ≠ 3
deriving Decidable

theorem ring_tick : ∀ v p, (ringBridge v).idle.handleTick.Emits p → ringSends v p := by decide

theorem ring_answer : ∀ v p w q r, ringPeer v p = some ⟨w, q⟩ → ringSends w q →
    ((ringBridge v).idle.handleBPDU ((ringBridge w).hello q) p).Emits r → ringSends v r := by decide

theorem ring_only : ∀ v r, ringSends v r → (ringBridge v).idle.handleTick.Emits r ∨ ∃ p w q, ringPeer v p = some ⟨w, q⟩ ∧
    ringSends w q ∧ ((ringBridge v).idle.handleBPDU ((ringBridge w).hello q) p).Emits r := by decide

theorem ring_delivery : ∀ v p w q, ringPeer v p = some ⟨w, q⟩ → ringSends w q →
    SameCore ((ringBridge v).handleBPDU ((ringBridge w).hello q) p) (ringBridge v) := by decide

theorem ring_heard : ∀ v p, ((ringBridge v).ports p).role ≠ .DESIGNATED → ∃ w q, ringPeer v p = some ⟨w, q⟩ ∧
    ringSends w q ∧ (ringBridge v).Renews ((ringBridge w).hello q) p := by decide

theorem ring_fresh : (∀ v p, ((ringBridge v).ports p).age = 0) ∧
    ∀ v, SameCore ((ringBridge v).later fun _ => 0).handleTick (ringBridge v) := by decide

theorem ringNetwork_stable : ringNetwork.Stable :=
  ⟨ringSends, stable_of_fresh ⟨ring_tick, ring_answer, ring_only⟩ ring_delivery ring_heard ring_fresh.1 ring_fresh.2⟩

theorem ringNetwork_reached (v : Fin 4) : (ringNetwork.bridge v).Reached :=
  ⟨ringStart v, ringHistory v, (by decide : ∀ v, 0 < (ringStart v).maxAge) v, rfl⟩

theorem ringNetwork_connected : ringNetwork.Connected := by
  have htwo : ∀ v w : Fin 4, v = w ∨ (∃ p q, ringPeer v p = some ⟨w, q⟩) ∨
      ∃ u, (∃ p q, ringPeer v p = some ⟨u, q⟩) ∧ ∃ p q, ringPeer u p = some ⟨w, q⟩ := by decide
  exact SpanningTree.reaches_of_two htwo

/-- Bridge 4 believes that the way over bridge 3 to the root costs nothing. -/
theorem ring_not_shortest : ¬ ∀ (V : Type) [Finite V] [Nonempty V] (g : STPNetwork V), g.Connected →
    (∀ v, (g.bridge v).Reached) → g.Stable → (∀ v, ¬ Relation.TransGen g.FreeParent v v) → g.SpanningTree := by
  intro h
  have hcosts : ∀ v p, (ringPeer v p).isSome → ((ringBridge v).ports p).linkCost ≠ 0 := by decide
  obtain ⟨r, hleast, hway, -⟩ := (h (Fin 4) ringNetwork ringNetwork_connected ringNetwork_reached ringNetwork_stable
    (free_of_costs hcosts)).root
  have hr : r = 0 := (by decide : ∀ r, (∀ v, (ringBridge r).bridgeId ≤ (ringBridge v).bridgeId) → r = 0) r hleast
  subst hr
  have hcost : ringNetwork.choice.Way 0 3 0 := (hway 3).2.1
  generalize hd : (0 : Nat) = d at hcost
  cases hcost with
  | step hhop _ =>
    obtain ⟨p, q, hpeer, hlink⟩ := hhop
    refine hcosts 3 p (by rw [show ringPeer 3 p = some _ from hpeer]; rfl) (BitVec.eq_of_toNat_eq ?_)
    exact hlink.trans (Nat.eq_zero_of_add_eq_zero_right hd.symm)

def pairStart (v : Fin 2) : STP 2 := newBridge (BitVec.ofNat 48 (v + 1)) fun _ => 19

def pairHistory : Fin 2 → List (Event 2)
  | 0 => [.tick]
  | 1 => [.bpdu ((pairStart 0).initialized.hello 0) 1 STP_MULTICAST_ADDRESS 0]

def pairBridge (v : Fin 2) : STP 2 := (pairHistory v).foldl handleMessage (pairStart v).initialized

/-- The ports 0 are linked. -/
def pairPeer (v : Fin 2) (p : Fin 2) : Option (Σ _ : Fin 2, Fin 2) := if p = 0 then some ⟨1 - v, 0⟩ else none

theorem pairPeer_symm : ∀ v w p q, pairPeer v p = some ⟨w, q⟩ → pairPeer w q = some ⟨v, p⟩ := by decide

theorem pairPeer_ne : ∀ v w p q, pairPeer v p = some ⟨w, q⟩ → v ≠ w := by decide

theorem pairBridge_address : ∀ v w, (pairBridge v).bridgeAddress = (pairBridge w).bridgeAddress → v = w := by decide

def pairNetwork : STPNetwork (Fin 2) where
  numPorts _ := 2
  bridge := pairBridge
  peer := pairPeer
  peer_symm h := pairPeer_symm _ _ _ _ h
  peer_ne h := pairPeer_ne _ _ _ _ h
  addresses h := pairBridge_address _ _ h

def pairSends (v : Fin 2) (p : Fin 2) : Prop := v = 0 ∨ p = 1
deriving Decidable

theorem pair_repeating : (∀ v p, (pairBridge v).idle.handleTick.Emits p → pairSends v p) ∧
    (∀ v p w q r, pairPeer v p = some ⟨w, q⟩ → pairSends w q →
      ((pairBridge v).idle.handleBPDU ((pairBridge w).hello q) p).Emits r → pairSends v r) ∧
    ∀ v r, pairSends v r → (pairBridge v).idle.handleTick.Emits r ∨ ∃ p w q, pairPeer v p = some ⟨w, q⟩ ∧
      pairSends w q ∧ ((pairBridge v).idle.handleBPDU ((pairBridge w).hello q) p).Emits r := by decide

theorem pair_delivery : ∀ v p w q, pairPeer v p = some ⟨w, q⟩ → pairSends w q →
    SameCore ((pairBridge v).handleBPDU ((pairBridge w).hello q) p) (pairBridge v) := by decide

theorem pair_heard : ∀ v p, ((pairBridge v).ports p).role ≠ .DESIGNATED → ∃ w q, pairPeer v p = some ⟨w, q⟩ ∧
    pairSends w q ∧ (pairBridge v).Renews ((pairBridge w).hello q) p := by decide

theorem pair_fresh : (∀ v p, ((pairBridge v).ports p).age = 0) ∧
    ∀ v, SameCore ((pairBridge v).later fun _ => 0).handleTick (pairBridge v) := by decide

theorem pair_costs : (∀ v p, (pairPeer v p).isSome → ((pairBridge v).ports p).linkCost ≠ 0) ∧
    (∀ v p w q, pairPeer v p = some ⟨w, q⟩ → ((pairBridge v).ports p).role = .DESIGNATED →
      ((pairBridge w).ports q).role = .DESIGNATED → (pairBridge v).rootPathCost.toNat + ((pairBridge v).ports p).linkCost.toNat < 2 ^ 32) ∧
    ∀ v p w q, pairPeer v p = some ⟨w, q⟩ → ((pairBridge v).ports p).role ≠ .DESIGNATED →
      (pairBridge w).rootPathCost.toNat + ((pairBridge v).ports p).linkCost.toNat < 2 ^ 32 := by decide

theorem pair_spanningTree : pairNetwork.SpanningTree := by
  refine stable_spanningTree pairNetwork ?_ ?_ ?_ ?_
  · have hlink : ∀ v w : Fin 2, v = w ∨ ∃ p q, pairPeer v p = some ⟨w, q⟩ := by decide
    exact SpanningTree.reaches_of_two fun v w => (hlink v w).imp_right Or.inl
  · intro v
    exact ⟨pairStart v, pairHistory v, (by decide : ∀ v, 0 < (pairStart v).maxAge) v, rfl⟩
  · exact ⟨pairSends, stable_of_fresh ⟨pair_repeating.1, pair_repeating.2.1, pair_repeating.2.2⟩ pair_delivery pair_heard
      pair_fresh.1 pair_fresh.2⟩
  · exact ⟨pair_costs.2.1, pair_costs.2.2, free_of_costs pair_costs.1⟩

end STPNetwork

end Inet.Ieee8021d
