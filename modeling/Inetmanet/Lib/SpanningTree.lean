import Mathlib

/-!
# Spanning trees of agreeing parents

Vertices name a root, what it costs to get there and their parent on the way. When
neighbours agree on the root, no neighbour offers a cheaper way and the parents do not go
round in a circle, all vertices have named the least one, their costs are the least ones
and the parents form a tree.
-/
namespace SpanningTree

variable {V α : Type} [LinearOrder α]

structure Choice (V α : Type) where
  id : V → α
  /-- a link of this cost leads from the first vertex to the second -/
  hop : V → V → Nat → Prop
  root : V → α
  cost : V → Nat
  parent : V → Option V

/-- What a vertex says of the root, of the way to it and of itself; the least offer is the best. -/
def offer (root : α) (cost : Nat) (id : α) : α ×ₗ Nat ×ₗ α := toLex (root, toLex (cost, id))

theorem offer_le {r r' i i' : α} {c c' : Nat} :
    offer r c i ≤ offer r' c' i' ↔ r < r' ∨ r = r' ∧ (c < c' ∨ c = c' ∧ i ≤ i') := by
  simp only [offer, Prod.Lex.toLex_le_toLex]

/-- A vertex claims a link: it is the root the other one names, or it names itself and no worse root than the other
one, or its offer is as good. -/
def Claims (r : α) (c : Nat) (i : α) (r' : α) (c' : Nat) (i' : α) : Prop :=
  r' = i ∨ r = i ∧ r ≤ r' ∨ offer r c i ≤ offer r' c' i'

/-- Two vertices do not claim the same link. -/
theorem Claims.not_both {r r' i i' : α} {c c' : Nat} (hi : i ≠ i') (hr : r ≤ i) (hr' : r' ≤ i') (hc : r = i → c = 0)
    (hc' : r' = i' → c' = 0) (h : Claims r c i r' c' i') (h' : Claims r' c' i' r c i) : False := by
  have hroot : ∀ {r r' i i' : α} {c c' : Nat}, i ≠ i' → r ≤ i → r' ≤ i' → (r = i → c = 0) →
      (r' = i ∨ r = i ∧ r ≤ r') → offer r' c' i' ≤ offer r c i → False := by
    intro r r' i i' c c' hi hr hr' hc h h'
    have hle : r ≤ r' := by
      cases h with
      | inl h => exact h ▸ hr
      | inr h => exact h.2
    cases offer_le.mp h' with
    | inl hlt => exact absurd hle (not_le.mpr hlt)
    | inr heq =>
      have hown : r = i := by
        cases h with
        | inl h => exact heq.1.symm.trans h
        | inr h => exact h.1
      cases heq.2 with
      | inl hlt =>
        rw [hc hown] at hlt
        exact absurd hlt (Nat.not_lt_zero _)
      | inr hii => exact hi (le_antisymm (hown ▸ heq.1 ▸ hr') hii.2)
  cases h with
  | inl h =>
    cases h' with
    | inl h' => exact hi (le_antisymm (h ▸ hr') (h' ▸ hr))
    | inr h' =>
      cases h' with
      | inl h' => exact hi (h.symm.trans h'.1)
      | inr h' => exact hroot hi hr hr' hc (Or.inl h) h'
  | inr h =>
    cases h' with
    | inl h' =>
      cases h with
      | inl h => exact hi (h.1.symm.trans h')
      | inr h => exact hroot hi.symm hr' hr hc' (Or.inl h') h
    | inr h' =>
      cases h with
      | inl h =>
        cases h' with
        | inl h' => exact hi (h.1.symm.trans ((le_antisymm h.2 h'.2).trans h'.1))
        | inr h' => exact hroot hi hr hr' hc (Or.inr h) h'
      | inr h =>
        cases h' with
        | inl h' => exact hroot hi.symm hr' hr hc' (Or.inr h') h
        | inr h' =>
          have heq := le_antisymm h h'
          simp only [offer, toLex_inj, Prod.mk.injEq] at heq
          exact hi heq.2.2

namespace Choice

/-- The costs of the ways to a vertex. -/
inductive Way (C : Choice V α) (r : V) : V → Nat → Prop
  | here : Way C r r 0
  | step {u v : V} {c d : Nat} (h : C.hop u v c) (way : Way C r v d) : Way C r u (c + d)

structure Settled (C : Choice V α) : Prop where
  agree : ∀ u v c, C.hop u v c → C.root u = C.root v
  cost_le : ∀ u v c, C.hop u v c → C.cost u ≤ C.cost v + c
  root_le : ∀ v, C.root v ≤ C.id v
  top : ∀ v, C.parent v = none → C.root v = C.id v ∧ C.cost v = 0
  up : ∀ v u, C.parent v = some u → ∃ c, C.hop v u c ∧ C.cost v = C.cost u + c
  grounded : WellFounded fun u v => C.parent v = some u

/-- The links from a vertex to its parent. -/
def tree (C : Choice V α) : SimpleGraph V where
  Adj u v := u ≠ v ∧ (C.parent u = some v ∨ C.parent v = some u)
  symm := ⟨fun _ _ h => ⟨h.1.symm, h.2.symm⟩⟩
  loopless := ⟨fun _ h => h.1 rfl⟩

variable {C : Choice V α} {r u v : V} {d : Nat}

omit [LinearOrder α] in
/-- Costs do not grow towards the root, and stay the same over free links only, which lead in no circle. -/
theorem grounded_of_free [Finite V] {Free : V → V → Prop} (hfree : ∀ v, ¬ Relation.TransGen Free v v)
    (hup : ∀ v u, C.parent v = some u → C.cost u ≤ C.cost v ∧ (C.cost u = C.cost v → Free u v)) :
    WellFounded fun u v => C.parent v = some u := by
  have hpath {u v : V} (h : Relation.TransGen (fun u v => C.parent v = some u) u v) :
      C.cost u ≤ C.cost v ∧ (C.cost u = C.cost v → Relation.TransGen Free u v) := by
    induction h with
    | single hp => exact ⟨(hup _ _ hp).1, fun heq => .single ((hup _ _ hp).2 heq)⟩
    | tail _ hp ih =>
      obtain ⟨hle, hstep⟩ := hup _ _ hp
      exact ⟨ih.1.trans hle, fun heq => .tail (ih.2 (by omega)) (hstep (by omega))⟩
  have hirrefl : Std.Irrefl (Relation.TransGen fun u v => C.parent v = some u) := ⟨fun v hv => hfree v ((hpath hv).2 rfl)⟩
  have hwf : WellFounded (Relation.TransGen fun u v => C.parent v = some u) := Finite.wellFounded_of_trans_of_irrefl _
  exact hwf.mono fun u v hp => Relation.TransGen.single hp

/-- Whoever follows the parents comes to a vertex without parent. -/
theorem Settled.ends (h : C.Settled) (v : V) : ∃ r, C.parent r = none ∧ C.Way r v (C.cost v) ∧ C.root v = C.id r := by
  induction v using h.grounded.induction with
  | _ v ih =>
    cases hp : C.parent v with
    | none =>
      obtain ⟨hroot, hcost⟩ := h.top v hp
      rw [hcost]
      exact ⟨v, hp, Way.here, hroot⟩
    | some u =>
      obtain ⟨r, hr, hway, hroot⟩ := ih u hp
      obtain ⟨c, hhop, hcost⟩ := h.up v u hp
      rw [hcost, Nat.add_comm]
      exact ⟨r, hr, Way.step hhop hway, (h.agree v u c hhop).trans hroot⟩

theorem Settled.way_le (h : C.Settled) (hr : C.parent r = none) (hway : C.Way r v d) : C.cost v ≤ d := by
  induction hway with
  | here => exact le_of_eq (h.top r hr).2
  | step hhop _ ih =>
    have hle := h.cost_le _ _ _ hhop
    omega

variable (hconn : ∀ u v, Relation.ReflTransGen (fun u v => ∃ c, C.hop u v c) u v) (hid : Function.Injective C.id)

include hconn

theorem Settled.root_eq (h : C.Settled) (u v : V) : C.root u = C.root v := by
  induction hconn u v with
  | refl => rfl
  | tail _ hstep ih =>
    obtain ⟨c, hc⟩ := hstep
    exact ih.trans (h.agree _ _ c hc)

include hid

/-- All vertices name the vertex with the least id, the only one without a parent. -/
theorem Settled.least [Nonempty V] (h : C.Settled) : ∃ r, (∀ v, C.root v = C.id r) ∧ (∀ v, C.id r ≤ C.id v) ∧
    (∀ v, C.parent v = none ↔ v = r) ∧ ∀ v, C.Way r v (C.cost v) ∧ ∀ d, C.Way r v d → C.cost v ≤ d := by
  obtain ⟨v₀⟩ := ‹Nonempty V›
  obtain ⟨r, hr, -, hroot⟩ := h.ends v₀
  have hall : ∀ v, C.root v = C.id r := fun v => (h.root_eq hconn v v₀).trans hroot
  have honly : ∀ v, C.parent v = none → v = r := fun v hv => hid ((h.top v hv).1.symm.trans (hall v))
  refine ⟨r, hall, fun v => hall v ▸ h.root_le v, fun v => ⟨honly v, fun hv => hv ▸ hr⟩, fun v => ⟨?_, fun d hd => ?_⟩⟩
  · obtain ⟨r', hr', hway, -⟩ := h.ends v
    rwa [honly r' hr'] at hway
  · exact h.way_le hr hd

omit hconn hid

theorem Settled.parent_ne (h : C.Settled) (hp : C.parent v = some u) : u ≠ v := by
  rintro rfl
  exact h.grounded.irrefl.irrefl _ hp

theorem Settled.not_mutual (h : C.Settled) (hp : C.parent v = some u) : C.parent u ≠ some v :=
  fun hu => h.grounded.asymmetric _ _ hp hu

theorem Settled.reachable (h : C.Settled) (hr : ∀ v, C.parent v = none → v = r) (v : V) : C.tree.Reachable v r := by
  induction v using h.grounded.induction with
  | _ v ih =>
    cases hp : C.parent v with
    | none => rw [hr v hp]
    | some u =>
      have hadj : C.tree.Adj v u := ⟨(h.parent_ne hp).symm, Or.inl hp⟩
      exact hadj.reachable.trans (ih u hp)

/-- A vertex that is not the root has one link of the tree that leads up. -/
theorem Settled.isTree [Finite V] (h : C.Settled) (hr : ∀ v, C.parent v = none ↔ v = r) : C.tree.IsTree := by
  have hconnected : C.tree.Connected :=
    { preconnected := fun u v => (h.reachable (fun v => (hr v).mp) u).trans (h.reachable (fun v => (hr v).mp) v).symm
      nonempty := ⟨r⟩ }
  refine SimpleGraph.isTree_iff_connected_and_card.mpr ⟨hconnected, ?_⟩
  have hparent : ∀ v : {v // v ≠ r}, ∃ u, C.parent v = some u := by
    intro v
    cases hp : C.parent v with
    | none => exact absurd ((hr v).mp hp) v.2
    | some u => exact ⟨u, rfl⟩
  choose up hup using hparent
  let edge : {v // v ≠ r} → C.tree.edgeSet :=
    fun v => ⟨s(v.1, up v), ⟨(h.parent_ne (hup v)).symm, Or.inl (hup v)⟩⟩
  have hbij : Function.Bijective edge := by
    constructor
    · intro v w hvw
      have hs : s(v.1, up v) = s(w.1, up w) := congrArg Subtype.val hvw
      rw [Sym2.eq_iff] at hs
      cases hs with
      | inl hs => exact Subtype.ext hs.1
      | inr hs =>
        have hw : C.parent w = some v.1 := by rw [hup w, hs.1]
        have hv : C.parent v = some w.1 := by rw [hup v, hs.2]
        exact absurd hw (h.not_mutual hv)
    · intro ⟨e, he⟩
      induction e using Sym2.inductionOn with
      | _ u v =>
        obtain ⟨-, hp⟩ := he
        cases hp with
        | inl hp =>
          have hu : u ≠ r := fun hur => by simp [(hr u).mpr hur] at hp
          refine ⟨⟨u, hu⟩, Subtype.ext ?_⟩
          have := (hup ⟨u, hu⟩).symm.trans hp
          simp [edge, Option.some.inj this]
        | inr hp =>
          have hv : v ≠ r := fun hvr => by simp [(hr v).mpr hvr] at hp
          refine ⟨⟨v, hv⟩, Subtype.ext ?_⟩
          have := (hup ⟨v, hv⟩).symm.trans hp
          simp [edge, Option.some.inj this, Sym2.eq_swap]
  rw [← Nat.card_congr (Equiv.ofBijective edge hbij)]
  have := Fintype.ofFinite V
  classical
  have hpos : 0 < Fintype.card V := Fintype.card_pos_iff.mpr ⟨r⟩
  simp
  omega

section

variable {P : V → Type} {peer : (v : V) → P v → Option (Σ w, P w)} {IsRoot : (v : V) → P v → Prop}
  {Active : (v w : V) → P v → P w → Prop}

/-- The parents are behind the root ports, of which a vertex has one at most, and the active links are theirs. -/
structure Wired (C : Choice V α) (peer : (v : V) → P v → Option (Σ w, P w)) (IsRoot : (v : V) → P v → Prop)
    (Active : (v w : V) → P v → P w → Prop) : Prop where
  symm : ∀ {v w p q}, peer v p = some ⟨w, q⟩ → peer w q = some ⟨v, p⟩
  parent_iff : ∀ {v w}, C.parent v = some w ↔ ∃ p q, IsRoot v p ∧ peer v p = some ⟨w, q⟩
  one : ∀ {v p p'}, IsRoot v p → IsRoot v p' → p = p'
  active : ∀ {v w p q}, Active v w p q → peer v p = some ⟨w, q⟩ ∧ (IsRoot v p ∨ IsRoot w q)
  of_root : ∀ {v w p q}, IsRoot v p → peer v p = some ⟨w, q⟩ → Active v w p q

variable (hw : C.Wired peer IsRoot Active)
include hw

omit [LinearOrder α] in
/-- The graph whose edges are the active links. -/
theorem Wired.eq_tree {G : SimpleGraph V} (hG : ∀ v w, G.Adj v w ↔ ∃ p q, Active v w p q) : G = C.tree := by
  have hparent {v w : V} (hp : C.parent v = some w) : G.Adj v w := by
    obtain ⟨p, q, hr, hpeer⟩ := hw.parent_iff.mp hp
    exact (hG v w).mpr ⟨p, q, hw.of_root hr hpeer⟩
  ext v w
  constructor
  · intro h
    obtain ⟨p, q, ha⟩ := (hG v w).mp h
    obtain ⟨hpeer, hr⟩ := hw.active ha
    exact ⟨h.ne, hr.imp (fun hr => hw.parent_iff.mpr ⟨p, q, hr, hpeer⟩)
      fun hr => hw.parent_iff.mpr ⟨q, p, hr, hw.symm hpeer⟩⟩
  · rintro ⟨-, hp | hp⟩
    · exact hparent hp
    · exact (hparent hp).symm

/-- No two active links join the same vertices. -/
theorem Wired.single (h : C.Settled) {p p' : P v} {q q' : P u} (ha : Active v u p q) (ha' : Active v u p' q') : p = p' := by
  have hmutual {v u : V} {p p' : P v} {q q' : P u} (hpeer : peer v p = some ⟨u, q⟩) (hpeer' : peer v p' = some ⟨u, q'⟩)
      (hr : IsRoot v p) : ¬ IsRoot u q' := fun hr' =>
    h.not_mutual (hw.parent_iff.mpr ⟨p, q, hr, hpeer⟩) (hw.parent_iff.mpr ⟨q', p', hr', hw.symm hpeer'⟩)
  obtain ⟨hpeer, hr⟩ := hw.active ha
  obtain ⟨hpeer', hr'⟩ := hw.active ha'
  cases hr with
  | inl hr => exact hw.one hr (hr'.resolve_right (hmutual hpeer hpeer' hr))
  | inr hr =>
    obtain rfl := hw.one hr (hr'.resolve_left (hmutual (hw.symm hpeer) (hw.symm hpeer') hr))
    cases (hw.symm hpeer).symm.trans (hw.symm hpeer')
    rfl

end

end Choice

/-- Where two steps lead from anywhere to anywhere else. -/
theorem reaches_of_two {R : V → V → Prop} (h : ∀ v w, v = w ∨ R v w ∨ ∃ u, R v u ∧ R u w) (v w : V) :
    Relation.ReflTransGen R v w := by
  rcases h v w with rfl | hvw | ⟨u, hvu, huw⟩
  · exact .refl
  · exact .single hvw
  · exact .tail (.single hvu) huw

end SpanningTree
