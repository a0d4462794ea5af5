import Mathlib

/-!
# Shortest paths

A graph whose links cost something, or else lead up in rank. The vertices are entered
into a tree by distance, and at one distance by rank: whatever comes before the
closest candidate in this order is on the tree already.
-/
namespace ShortestPaths

open List

variable {V : Type}

structure Graph (V : Type) where
  edge : V → V → Nat → Prop
  rank : V → Nat
  climbs : ∀ {u v : V} {c : Nat}, edge u v c → 0 < c ∨ rank u < rank v

namespace Graph

variable (G : Graph V) (s : V)

/-- The costs of the paths from the root. -/
inductive Path : V → Nat → Prop
  | root : Path s 0
  | snoc {u v : V} {d c : Nat} (h : Path u d) (he : G.edge u v c) : Path v (d + c)

/-- The cost of a cheapest path. -/
def Dist (v : V) (d : Nat) : Prop := G.Path s v d ∧ ∀ d', G.Path s v d' → d ≤ d'

/-- The order in which vertices enter the tree. -/
def Before (d : Nat) (u : V) (d' : Nat) (v : V) : Prop := d < d' ∨ d = d' ∧ G.rank u < G.rank v

/-- The link is the last one of a shortest path. -/
def Tight (u v : V) : Prop := ∃ c d, G.edge u v c ∧ G.Dist s u d ∧ G.Dist s v (d + c)

/-- The vertices of a shortest path, without the root. -/
inductive ShortestPath : V → List V → Prop
  | first {v : V} (h : G.Tight s s v) : ShortestPath v [v]
  | snoc {u v : V} {p : List V} (hp : ShortestPath u p) (h : G.Tight s u v) : ShortestPath v (p ++ [v])

variable {G s} {u v w x : V} {d d' c : Nat} {tree cand : List V} {dist : V → Nat}

theorem Dist.unique (h : G.Dist s v d) (h' : G.Dist s v d') : d = d' :=
  Nat.le_antisymm (h.2 _ h'.1) (h'.2 _ h.1)

theorem dist_root : G.Dist s s 0 := ⟨Path.root, fun _ _ => Nat.zero_le _⟩

theorem before_of_edge (h : G.edge u v c) : G.Before d u (d + c) v := by
  rcases G.climbs h with hc | hr
  · exact .inl (by omega)
  · rcases Nat.eq_zero_or_pos c with rfl | hc
    · exact .inr ⟨rfl, hr⟩
    · exact .inl (by omega)

theorem Before.trans {d'' : Nat} (h : G.Before d u d' v) (h' : G.Before d' v d'' w) : G.Before d u d'' w := by
  unfold Before at *
  omega

theorem Before.irrefl (h : G.Before d v d v) : False := by
  unfold Before at h
  omega

theorem Path.before (h : G.Path s v d) : d = 0 ∧ v = s ∨ G.Before 0 s d v := by
  induction h with
  | root => exact .inl ⟨rfl, rfl⟩
  | snoc hp he ih =>
    right
    rcases ih with ⟨hd, hu⟩ | ih
    · rw [← hu, hd]
      exact before_of_edge he
    · exact ih.trans (before_of_edge he)

/-- A path that comes back to the root is longer than the shortest one. -/
theorem not_tight_root : ¬ G.Tight s u s := by
  rintro ⟨c, d, he, hu, hs⟩
  have hzero : d + c = 0 := hs.unique dist_root
  have hstep := before_of_edge (d := d) he
  rw [hzero] at hstep
  rcases hu.1.before with ⟨rfl, rfl⟩ | hb
  · exact hstep.irrefl
  · exact (hb.trans hstep).irrefl

theorem ShortestPath.ne_nil {p : List V} (h : G.ShortestPath s v p) : p ≠ [] := by
  cases h with
  | first h => exact cons_ne_nil _ _
  | snoc hp h => simp

theorem ShortestPath.getLast?_eq {p : List V} (h : G.ShortestPath s v p) : p.getLast? = some v := by
  cases h with
  | first h => rfl
  | snoc hp h => simp

theorem ShortestPath.ne_root {p : List V} (h : G.ShortestPath s v p) : v ≠ s := by
  rintro rfl
  cases h with
  | first h => exact not_tight_root h
  | snoc hp h => exact not_tight_root h

theorem Tight.before (h : G.Tight s u v) {du dv : Nat} (hu : G.Dist s u du) (hv : G.Dist s v dv) : G.Before du u dv v := by
  obtain ⟨c, d, he, hud, hvd⟩ := h
  rw [hu.unique hud, hv.unique hvd]
  exact before_of_edge he

/-- A path to a vertex outside of a set that has the root leaves this set by a link, and does not get nearer to the root
behind it. -/
theorem Path.leaves (inside : V → Prop) (hs : inside s) (h : G.Path s w d) (hw : ¬ inside w) :
    ∃ u v e c, inside u ∧ ¬ inside v ∧ G.Path s u e ∧ G.edge u v c ∧
      (e + c = d ∧ v = w ∨ G.Before (e + c) v d w) := by
  induction h with
  | root => exact absurd hs hw
  | snoc hp he ih =>
    rename_i u v d c
    by_cases hu : inside u
    · exact ⟨u, v, d, c, hu, hw, hp, he, Or.inl ⟨rfl, rfl⟩⟩
    · obtain ⟨u', v', e, c', hu', hv', hp', he', hb⟩ := ih hu
      refine ⟨u', v', e, c', hu', hv', hp', he', Or.inr ?_⟩
      rcases hb with ⟨hd, rfl⟩ | hb
      · rw [hd]
        exact before_of_edge he
      · exact hb.trans (before_of_edge he)

/-- No candidate comes before the vertex, and it comes before all that stand in front of it. -/
def Foremost (G : Graph V) (dist : V → Nat) (cand : List V) (y : V) : Prop :=
  ∃ l₁ l₂, cand = l₁ ++ y :: l₂ ∧ (∀ z ∈ l₁, G.Before (dist y) y (dist z) z) ∧
    ∀ z ∈ l₂, ¬ G.Before (dist z) z (dist y) y

theorem Foremost.mem {y : V} (h : G.Foremost dist cand y) : y ∈ cand := by
  obtain ⟨l₁, l₂, rfl, -, -⟩ := h
  simp

theorem Foremost.least {y : V} (h : G.Foremost dist cand y) : ∀ z ∈ cand, ¬ G.Before (dist z) z (dist y) y := by
  obtain ⟨l₁, l₂, rfl, hbefore, hafter⟩ := h
  intro z hz hb
  rcases mem_append.mp hz with hz | hz
  · exact (hb.trans (hbefore z hz)).irrefl
  · rcases mem_cons.mp hz with rfl | hz
    · exact hb.irrefl
    · exact hafter z hz hb

section Entering

variable [DecidableEq V]

/-- The vertex that enters the tree behind those of `order`: of the vertices that their links lead to none comes before
it, and of those that are level with it, it was reached first. -/
structure Next (G : Graph V) (s : V) (targets : V → List V) (order : List V) (v : V) : Prop where
  reached : v ∈ order.flatMap targets
  fresh : v ∉ order
  first : ∃ d, G.Dist s v d ∧ ∀ w ∈ order.flatMap targets, w ∉ order → ∀ e, G.Dist s w e → ¬ G.Before e w d v ∧
    (G.Before d v e w ∨ idxOf v (order.flatMap targets) ≤ idxOf w (order.flatMap targets))

/-- The vertices that have entered the tree, in their order. -/
inductive Enters (G : Graph V) (s : V) (targets : V → List V) : List V → Prop
  | root : Enters G s targets [s]
  | next {order : List V} {v : V} (h : Enters G s targets order) (hv : G.Next s targets order v) :
      Enters G s targets (order ++ [v])

variable {targets : V → List V} {order order' : List V}

theorem Next.unique (hv : G.Next s targets order v) (hw : G.Next s targets order w) : v = w := by
  obtain ⟨d, hd, hfirst⟩ := hv.first
  obtain ⟨e, he, hfirst'⟩ := hw.first
  obtain ⟨hnot, hvw⟩ := hfirst w hw.reached hw.fresh e he
  obtain ⟨hnot', hwv⟩ := hfirst' v hv.reached hv.fresh d hd
  rw [or_iff_right hnot'] at hvw
  rw [or_iff_right hnot] at hwv
  exact (idxOf_inj hv.reached).mp (Nat.le_antisymm hvw hwv)

section

variable (h : G.Enters s targets order)
include h

theorem Enters.head : ∃ l, order = s :: l := by
  induction h with
  | root => exact ⟨[], rfl⟩
  | next h hv ih =>
    obtain ⟨l, rfl⟩ := ih
    exact ⟨l ++ [_], rfl⟩

theorem Enters.ne_nil : order ≠ [] := by
  obtain ⟨l, rfl⟩ := h.head
  exact cons_ne_nil _ _

theorem Enters.path : ∀ v ∈ order, ∃ d, G.Path s v d := by
  induction h with
  | root => exact fun v hv => ⟨0, mem_singleton.mp hv ▸ .root⟩
  | next h hv ih =>
    intro v hmem
    rcases mem_append.mp hmem with hmem | hmem
    · exact ih v hmem
    · rw [mem_singleton.mp hmem]
      obtain ⟨d, hd, -⟩ := hv.first
      exact ⟨d, hd.1⟩

end

/-- Behind the vertices of an order stands the next one. -/
theorem Enters.next_of {rest : List V} (h : G.Enters s targets (order ++ w :: rest)) (hne : order ≠ []) :
    G.Next s targets order w := by
  generalize hl : order ++ w :: rest = l at h
  induction h generalizing rest with
  | root =>
    have hlength := congrArg length hl
    simp only [length_append, length_cons, length_nil] at hlength
    have hpos := length_pos_iff.mpr hne
    omega
  | next h hv ih =>
    rcases eq_nil_or_concat rest with rfl | ⟨rest, w', rfl⟩
    · obtain ⟨rfl, he⟩ := append_inj' hl rfl
      rw [singleton_inj.mp he]
      exact hv
    · rw [concat_eq_append, ← cons_append, ← append_assoc] at hl
      exact ih (append_inj' hl rfl).1

/-- There is only one order. -/
theorem Enters.isPrefix (h : G.Enters s targets order) (h' : G.Enters s targets order')
    (hle : order.length ≤ order'.length) : order <+: order' := by
  induction h' generalizing order with
  | root =>
    cases h with
    | root => exact prefix_rfl
    | next h hv =>
      have hpos := length_pos_iff.mpr h.ne_nil
      rw [length_append, length_singleton, length_singleton] at hle
      omega
  | next h' hv' ih =>
    rename_i before w
    by_cases hlast : order.length ≤ before.length
    · exact (ih h hlast).trans (prefix_append _ _)
    · cases h with
      | root => exact absurd (length_pos_iff.mpr h'.ne_nil) hlast
      | next h hv =>
        simp only [length_append, length_singleton] at hle hlast
        have heq := (ih h (by omega)).eq_of_length (by omega)
        subst heq
        rw [hv.unique hv']

end Entering

end Graph

open ShortestPaths.Graph

section InOrder

variable [DecidableEq V] {tree reached cand : List V} {v : V}

/-- The candidates stand in the order in which they were reached. -/
structure InOrder (tree reached cand : List V) : Prop where
  mem : ∀ v ∈ cand, v ∈ reached
  cover : ∀ v ∈ reached, v ∈ tree ∨ v ∈ cand
  sorted : cand.Pairwise fun v w => idxOf v reached ≤ idxOf w reached

section

variable (h : InOrder tree reached cand)
include h

theorem InOrder.follow (hv : v ∈ tree ∨ v ∈ cand) :
    InOrder tree (reached ++ [v]) cand where
  mem w hw := mem_append_left _ (h.mem w hw)
  cover w hw := by
    rcases mem_append.mp hw with hw | hw
    · exact h.cover w hw
    · exact mem_singleton.mp hw ▸ hv
  sorted := h.sorted.imp_of_mem fun hv hw hle => by
    rw [idxOf_append_of_mem (h.mem _ hv), idxOf_append_of_mem (h.mem _ hw)]
    exact hle

theorem InOrder.snoc (ht : v ∉ tree) (hc : v ∉ cand) :
    InOrder tree (reached ++ [v]) (cand ++ [v]) where
  mem w hw := by
    rcases mem_append.mp hw with hw | hw
    · exact mem_append_left _ (h.mem w hw)
    · exact mem_append_right _ hw
  cover w hw := by
    rcases mem_append.mp hw with hw | hw
    · exact (h.cover w hw).imp_right (mem_append_left _)
    · exact .inr (mem_append_right _ hw)
  sorted := by
    have hv : v ∉ reached := fun hv => (h.cover v hv).elim ht hc
    refine pairwise_append.mpr ⟨h.sorted.imp_of_mem ?_, pairwise_singleton _ _, ?_⟩
    · intro w w' hw hw' hle
      rwa [idxOf_append_of_mem (h.mem w hw), idxOf_append_of_mem (h.mem w' hw')]
    · intro w hw v' hv'
      rw [mem_singleton.mp hv', idxOf_append_of_mem (h.mem w hw), idxOf_append_of_notMem hv]
      exact Nat.le_add_right_of_le idxOf_le_length

theorem InOrder.enter (v : V) : InOrder (tree ++ [v]) reached (cand.erase v) where
  mem w hw := h.mem w (mem_of_mem_erase hw)
  cover w hw := by
    rcases h.cover w hw with hw | hw
    · exact .inl (mem_append_left _ hw)
    · by_cases hwv : w = v
      · exact .inl (mem_append_right _ (mem_singleton.mpr hwv))
      · exact .inr ((mem_erase_of_ne hwv).mpr hw)
  sorted := h.sorted.sublist erase_sublist

end

end InOrder

/-- The tree and the candidates, when the links of `x` that are `pending` have not been followed yet. -/
structure Exploring (G : Graph V) (s : V) (tree cand : List V) (dist : V → Nat) (x : V) (pending : V → Nat → Prop) :
    Prop where
  root : s ∈ tree
  tree_dist : ∀ v ∈ tree, G.Dist s v (dist v)
  /-- What comes before a vertex of the tree has been entered, and its links have been followed. -/
  tree_closed : ∀ v ∈ tree, ∀ w d, G.Path s w d → G.Before d w (dist v) v → w ∈ tree ∧ w ≠ x
  cand_link : ∀ v ∈ cand, ∃ u ∈ tree, ∃ c, G.edge u v c ∧ dist u + c = dist v
  cand_least : ∀ u ∈ tree, ∀ v c, G.edge u v c → (u = x → ¬ pending v c) →
    v ∈ tree ∨ v ∈ cand ∧ dist v ≤ dist u + c
  disjoint : ∀ v ∈ cand, v ∉ tree
  tree_nodup : tree.Nodup
  cand_nodup : cand.Nodup

namespace Exploring

variable {G : Graph V} {s x v : V} {tree cand : List V} {dist : V → Nat} {pending : V → Nat → Prop} {c : Nat}

theorem initial (dist : V → Nat) (h : dist s = 0) : Exploring G s [s] [] dist s (fun _ _ => True) where
  root := mem_singleton_self s
  tree_dist v hv := by
    rw [mem_singleton] at hv
    rw [hv, h]
    exact dist_root
  tree_closed v hv w d hp hb := by
    rw [mem_singleton] at hv
    subst hv
    have hw : w ∉ [v] := by
      intro hw
      rw [mem_singleton] at hw
      rw [hw, h] at hb
      unfold Before at hb
      omega
    obtain ⟨u, v', e, c, hu, hv', hpu, he, hd⟩ := hp.leaves (fun y => y ∈ [v]) (mem_singleton_self v) hw
    rw [mem_singleton] at hu
    subst hu
    have hstep := before_of_edge (d := e) he
    have hfirst : G.Before e u (dist u) u := by
      rcases hd with ⟨hd, rfl⟩ | hd
      · exact (hd ▸ hstep).trans hb
      · exact (hstep.trans hd).trans hb
    unfold Before at hfirst
    omega
  cand_link v hv := by cases hv
  cand_least u hu v c he hp := by
    rw [mem_singleton] at hu
    subst hu
    exact absurd trivial (hp rfl)
  disjoint v hv := by cases hv
  tree_nodup := nodup_singleton s
  cand_nodup := nodup_nil

/-- All links of `x` have been followed. -/
theorem finish (h : Exploring G s tree cand dist x pending) (hall : ∀ v c, G.edge x v c → ¬ pending v c) :
    Exploring G s tree cand dist x fun _ _ => False :=
  { h with cand_least := fun u hu v c he _ => h.cand_least u hu v c he fun hux => hall v c (hux ▸ he) }

/-- The distance of a candidate is the cost of a path. -/
theorem cand_path (h : Exploring G s tree cand dist x pending) (hv : v ∈ cand) : G.Path s v (dist v) := by
  obtain ⟨u, hu, c, he, hd⟩ := h.cand_link v hv
  rw [← hd]
  exact (h.tree_dist u hu).1.snoc he

/-- Behind a candidate that is at least as near. -/
theorem leaves (h : Exploring G s tree cand dist x fun _ _ => False) {w : V} {d : Nat} (hp : G.Path s w d) (hw : w ∉ tree) :
    ∃ y ∈ cand, dist y ≤ d ∧ (dist y = d ∧ y = w ∨ G.Before (dist y) y d w) := by
  obtain ⟨u, y, e, c, hu, hy, hpu, he, hd⟩ := hp.leaves (fun y => y ∈ tree) h.root hw
  rcases h.cand_least u hu y c he (fun _ => id) with hmem | ⟨hcand, hle⟩
  · exact absurd hmem hy
  · have hue : dist u ≤ e := (h.tree_dist u hu).2 e hpu
    refine ⟨y, hcand, ?_, ?_⟩
    · rcases hd with ⟨hd, -⟩ | hd
      · omega
      · unfold Before at hd
        omega
    · rcases hd with ⟨hd, rfl⟩ | hd
      · by_cases heq : dist y = d
        · exact .inl ⟨heq, rfl⟩
        · exact .inr (Or.inl (by omega))
      · right
        unfold Before at hd ⊢
        omega

/-- The closest candidate has its distance, and what comes before it is on the tree. -/
theorem closest (h : Exploring G s tree cand dist x fun _ _ => False) {y : V} (hy : y ∈ cand)
    (hmin : ∀ z ∈ cand, ¬ G.Before (dist z) z (dist y) y) :
    G.Dist s y (dist y) ∧ ∀ w d, G.Path s w d → G.Before d w (dist y) y → w ∈ tree := by
  constructor
  · refine ⟨h.cand_path hy, fun d hp => ?_⟩
    obtain ⟨z, hz, hle, -⟩ := h.leaves hp (h.disjoint y hy)
    have hnot := hmin z hz
    unfold Before at hnot
    omega
  · intro w d hp hb
    by_contra hw
    obtain ⟨z, hz, -, hzw⟩ := h.leaves hp hw
    rcases hzw with ⟨hd, rfl⟩ | hzw
    · exact hmin z hz (hd ▸ hb)
    · exact hmin z hz (hzw.trans hb)

/-- Without a candidate all that can be reached is on the tree. -/
theorem complete (h : Exploring G s tree [] dist x fun _ _ => False) {d : Nat} (hp : G.Path s v d) : v ∈ tree := by
  by_contra hv
  obtain ⟨y, hy, -⟩ := h.leaves hp hv
  cases hy

/-- The closest candidate enters the tree; its links are pending then. -/
theorem enter [DecidableEq V] (h : Exploring G s tree cand dist x fun _ _ => False) {y : V} (hy : y ∈ cand)
    (hmin : ∀ z ∈ cand, ¬ G.Before (dist z) z (dist y) y) :
    Exploring G s (tree ++ [y]) (cand.erase y) dist y (fun _ _ => True) where
  root := mem_append_left _ h.root
  tree_dist v hv := by
    rcases mem_append.mp hv with hv | hv
    · exact h.tree_dist v hv
    · rw [mem_singleton] at hv
      rw [hv]
      exact (h.closest hy hmin).1
  tree_closed v hv w d hp hb := by
    rcases mem_append.mp hv with hv | hv
    · have hw := (h.tree_closed v hv w d hp hb).1
      exact ⟨mem_append_left _ hw, fun hwy => h.disjoint y hy (hwy ▸ hw)⟩
    · rw [mem_singleton] at hv
      subst hv
      have hw := (h.closest hy hmin).2 w d hp hb
      exact ⟨mem_append_left _ hw, fun hwy => h.disjoint v hy (hwy ▸ hw)⟩
  cand_link v hv := by
    obtain ⟨u, hu, hrest⟩ := h.cand_link v (mem_of_mem_erase hv)
    exact ⟨u, mem_append_left _ hu, hrest⟩
  cand_least u hu v c he hp := by
    rcases mem_append.mp hu with hu | hu
    · rcases h.cand_least u hu v c he (fun _ => id) with hv | ⟨hv, hle⟩
      · exact .inl (mem_append_left _ hv)
      · by_cases hvy : v = y
        · exact .inl (mem_append_right _ (mem_singleton.mpr hvy))
        · exact .inr ⟨(mem_erase_of_ne hvy).mpr hv, hle⟩
    · rw [mem_singleton] at hu
      subst hu
      exact absurd trivial (hp rfl)
  disjoint v hv := by
    rw [mem_append, mem_singleton]
    rintro (hmem | rfl)
    · exact h.disjoint v (mem_of_mem_erase hv) hmem
    · exact h.cand_nodup.not_mem_erase hv
  tree_nodup := by
    exact nodup_middle.mpr (nodup_cons.mpr ⟨by simpa using h.disjoint y hy, by simpa using h.tree_nodup⟩)
  cand_nodup := h.cand_nodup.erase y

/-- The foremost candidate is the next vertex to enter. -/
theorem next [DecidableEq V] (h : Exploring G s tree cand dist x fun _ _ => False) {targets : V → List V} {y : V}
    (horder : InOrder tree (tree.flatMap targets) cand) (hy : G.Foremost dist cand y) : G.Next s targets tree y := by
  obtain ⟨hdist, hclosed⟩ := h.closest hy.mem hy.least
  refine ⟨horder.mem y hy.mem, h.disjoint y hy.mem, _, hdist, ?_⟩
  intro w hw hnot e hwe
  have hbehind : ¬ G.Before e w (dist y) y := fun hb => hnot (hclosed w e hwe.1 hb)
  refine ⟨hbehind, ?_⟩
  by_contra hneither
  obtain ⟨hlevel, hindex⟩ := not_or.mp hneither
  have hcand : w ∈ cand := (horder.cover w hw).resolve_left hnot
  -- a candidate that is level with `y` has its distance already
  have hknown : dist w = e := by
    obtain ⟨z, hz, -, ⟨hzw, rfl⟩ | hzw⟩ := h.leaves hwe.1 hnot
    · exact hzw
    · have hleast := hy.least z hz
      unfold Before at *
      omega
  obtain ⟨l₁, l₂, rfl, hbefore, -⟩ := hy
  rcases mem_append.mp hcand with hw₁ | hw₂
  · rw [← hknown] at hlevel
    exact hlevel (hbefore w hw₁)
  · apply hindex
    rcases mem_cons.mp hw₂ with rfl | hw₂
    · exact Nat.le_refl _
    · exact rel_of_pairwise_cons (pairwise_append.mp horder.sorted).2.1 hw₂

/-- A link of `x` to a vertex of the tree is followed. -/
theorem follow_tree (h : Exploring G s tree cand dist x pending) (hv : v ∈ tree) {pending' : V → Nat → Prop}
    (hpending : ∀ w e, pending w e → pending' w e ∨ w = v ∧ e = c) : Exploring G s tree cand dist x pending' :=
  { h with
    cand_least := fun u hu w e he hp => by
      by_cases hwe : u = x ∧ w = v ∧ e = c
      · exact .inl (hwe.2.1 ▸ hv)
      · refine h.cand_least u hu w e he fun hux hpw => ?_
        rcases hpending w e hpw with hp' | hwe'
        · exact hp hux hp'
        · exact hwe ⟨hux, hwe'⟩ }

/-- A link of `x` is followed to a vertex outside of the tree, which gets the lower one of two distances. -/
theorem follow_cand (h : Exploring G s tree cand dist x pending) (hx : x ∈ tree) (he : G.edge x v c) (hv : v ∉ tree)
    {dist' : V → Nat} {cand' : List V} {pending' : V → Nat → Prop} (hcand : ∀ w, w ∈ cand' ↔ w ∈ cand ∨ w = v)
    (hnodup : cand'.Nodup) (hother : ∀ w, w ≠ v → dist' w = dist w)
    (hdist : v ∈ cand ∧ dist v ≤ dist x + c ∧ dist' v = dist v ∨ dist' v = dist x + c ∧ (v ∈ cand → dist x + c ≤ dist v))
    (hpending : ∀ w e, pending w e → pending' w e ∨ w = v ∧ e = c) : Exploring G s tree cand' dist' x pending' := by
  have htree : ∀ u ∈ tree, dist' u = dist u := by
    intro u hu
    apply hother
    rintro rfl
    exact hv hu
  constructor
  · exact h.root
  · intro u hu
    rw [htree u hu]
    exact h.tree_dist u hu
  · intro u hu
    rw [htree u hu]
    exact h.tree_closed u hu
  · intro w hw
    by_cases hwv : w = v
    · subst hwv
      rcases hdist with ⟨hold, -, hd'⟩ | ⟨hd', -⟩
      · obtain ⟨u, hu, e, hue, hd⟩ := h.cand_link w hold
        exact ⟨u, hu, e, hue, by rw [htree u hu, hd, hd']⟩
      · exact ⟨x, hx, c, he, by rw [htree x hx, hd']⟩
    · rw [hother w hwv]
      rcases (hcand w).mp hw with hw | hw
      · obtain ⟨u, hu, e, hue, hd⟩ := h.cand_link w hw
        exact ⟨u, hu, e, hue, by rw [htree u hu]; exact hd⟩
      · exact absurd hw hwv
  · intro u hu w e hue hp
    rw [htree u hu]
    by_cases hnew : u = x ∧ w = v ∧ e = c
    · obtain ⟨rfl, rfl, rfl⟩ := hnew
      right
      refine ⟨(hcand w).mpr (Or.inr rfl), ?_⟩
      rcases hdist with ⟨-, hle, hd'⟩ | ⟨hd', -⟩
      · omega
      · omega
    · have hold := h.cand_least u hu w e hue fun hux hpw => by
        rcases hpending w e hpw with hp' | hwe
        · exact hp hux hp'
        · exact hnew ⟨hux, hwe⟩
      rcases hold with hw | ⟨hw, hle⟩
      · exact .inl hw
      · right
        refine ⟨(hcand w).mpr (Or.inl hw), ?_⟩
        by_cases hwv : w = v
        · subst hwv
          rcases hdist with ⟨-, -, hd'⟩ | ⟨hd', hlower⟩
          · omega
          · have := hlower hw
            omega
        · rw [hother w hwv]
          exact hle
  · intro w hw
    rcases (hcand w).mp hw with hw | rfl
    · exact h.disjoint w hw
    · exact hv
  · exact h.tree_nodup
  · exact hnodup

end Exploring

end ShortestPaths
