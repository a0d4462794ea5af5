import Inetmanet.Ospf.TreeSpecification

/-!
# The tree is the one that was asked for

Every link that is followed keeps what is known of the tree and the candidates, and the
closest candidate is one that no other comes before.
-/
namespace Inet.Ospf

open Ipv4 ShortestPaths List

namespace LinkStateDatabase

variable {area : LinkStateDatabase} {info : Vertex → RoutingInfo}

/-- The closest of the vertices that have been looked at, where one of them is nearer than `LS_INFINITY`. -/
def Closest (area : LinkStateDatabase) (info : Vertex → RoutingInfo) (seen : List Vertex) (closest : Vertex × Nat) : Prop :=
  closest.2 = LS_INFINITY ∧ (∀ y ∈ seen, LS_INFINITY ≤ (info y).distance) ∨
  closest.2 = (info closest.1).distance ∧ closest.2 < LS_INFINITY ∧
    area.graph.Foremost (fun v => (info v).distance) seen closest.1

theorem rank_le (v : Vertex) : v.rank ≤ 1 := by
  cases v with
  | router lsa => exact Nat.le_refl 1
  | network lsa => exact Nat.zero_le 1

/-- A further vertex takes the place of the closest one, or is not before it. -/
theorem closer_cases (info : Vertex → RoutingInfo) (closest : Vertex × Nat) (v : Vertex) :
    closer info closest v = (v, (info v).distance) ∧ (info v).distance < closest.2 ∨
    closer info closest v = (v, closest.2) ∧ (info v).distance = closest.2 ∧ v.rank < closest.1.rank ∨
    closer info closest v = closest ∧ closest.2 ≤ (info v).distance ∧
      ((info v).distance = closest.2 → closest.1.rank ≤ v.rank) := by
  obtain ⟨c, d⟩ := closest
  unfold closer
  dsimp only
  split
  · next hlt => exact .inl ⟨rfl, hlt⟩
  · next hnot =>
    right
    have hle : d ≤ (info v).distance := Nat.le_of_not_lt hnot
    cases c with
    | router r =>
      cases v with
      | router r' => exact .inr ⟨rfl, hle, fun _ => Nat.le_refl 1⟩
      | network n =>
        dsimp only
        split
        · next heq => exact .inl ⟨rfl, heq, Nat.zero_lt_one⟩
        · next hne => exact .inr ⟨rfl, hle, fun heq => absurd heq hne⟩
    | network n => exact .inr ⟨rfl, hle, fun _ => Nat.zero_le _⟩

theorem Closest.closer {seen : List Vertex} {closest : Vertex × Nat} (h : Closest area info seen closest) (v : Vertex) :
    Closest area info (seen ++ [v]) (closer info closest v) := by
  have hbefore : ∀ {d u d' w}, area.graph.Before d u d' w ↔ d < d' ∨ d = d' ∧ u.rank < w.rank := Iff.rfl
  unfold Closest at *
  rcases closer_cases info closest v with ⟨hc, hlt⟩ | ⟨hc, heq, hrank⟩ | ⟨hc, hle, hrank⟩
  · rw [hc]
    have hfin : (info v).distance < LS_INFINITY := by omega
    refine .inr ⟨rfl, hfin, seen, [], rfl, ?_, by simp⟩
    intro y hy
    rw [hbefore]
    dsimp only
    rcases h with ⟨hd, hall⟩ | ⟨hd, -, hforemost⟩
    · have := hall y hy
      omega
    · have := mt hbefore.mpr (hforemost.least y hy)
      omega
  · rw [hc]
    rcases h with ⟨hd, hall⟩ | ⟨hd, hfin, hforemost⟩
    · refine .inl ⟨hd, fun y hy => ?_⟩
      rcases mem_append.mp hy with hy | hy
      · exact hall y hy
      · rw [mem_singleton.mp hy]
        omega
    · refine .inr ⟨heq.symm, hfin, seen, [], rfl, ?_, by simp⟩
      intro y hy
      have := mt hbefore.mpr (hforemost.least y hy)
      rw [hbefore]
      dsimp only at *
      omega
  · rw [hc]
    rcases h with ⟨hd, hall⟩ | ⟨hd, hfin, l₁, l₂, rfl, hfront, hback⟩
    · refine .inl ⟨hd, fun y hy => ?_⟩
      rcases mem_append.mp hy with hy | hy
      · exact hall y hy
      · rw [mem_singleton.mp hy]
        omega
    · refine .inr ⟨hd, hfin, l₁, l₂ ++ [v], by simp, hfront, fun y hy => ?_⟩
      rcases mem_append.mp hy with hy | hy
      · exact hback y hy
      · rw [mem_singleton.mp hy, hbefore]
        dsimp only
        omega

variable {y u : Vertex}

/-- The foremost candidate is chosen. -/
theorem closestVertex_spec (area : LinkStateDatabase) {cand : List Vertex} (hy : y ∈ cand)
    (hfin : (info y).distance < LS_INFINITY) :
    ∃ x, closestVertex info cand = some x ∧ area.graph.Foremost (fun v => (info v).distance) cand x := by
  have hfold : ∀ (l seen : List Vertex) (closest : Vertex × Nat), Closest area info seen closest →
      Closest area info (seen ++ l) (l.foldl (closer info) closest) := by
    intro l
    induction l with
    | nil =>
      intro seen closest h
      simpa using h
    | cons v l ih =>
      intro seen closest h
      have := ih (seen ++ [v]) (closer info closest v) (h.closer v)
      rwa [append_assoc, singleton_append] at this
  cases cand with
  | nil => cases hy
  | cons v vs =>
    refine ⟨_, rfl, ?_⟩
    have h := hfold (v :: vs) [] (v, LS_INFINITY) (Or.inl ⟨rfl, fun y hy => nomatch hy⟩)
    rcases h with ⟨-, hall⟩ | ⟨-, -, hforemost⟩
    · have := hall y hy
      omega
    · exact hforemost

theorem calculateNextHops_congr {info' : Vertex → RoutingInfo} (h : info' u = info u) (v : Vertex) :
    area.calculateNextHops info' v u = area.calculateNextHops info v u := by
  unfold calculateNextHops
  cases u with
  | router r => simp only [h]
  | network n => simp only [h]

theorem root_mem_vertices : area.root ∈ area.vertices :=
  mem_append_left _ (mem_map_of_mem area.root_mem)

/-- What has been reached when the links of the vertices in `order` have been followed, and those in `done`. -/
def reached (area : LinkStateDatabase) (order : List Vertex) (done : List (Vertex × Nat)) : List Vertex :=
  order.flatMap area.targets ++ done.map Prod.fst

/-- What is known while the links of `x` are followed, up to those in `done`. -/
structure Known (area : LinkStateDatabase) (order : List Vertex) (x : Vertex) (done : List (Vertex × Nat)) (t : Tree) :
    Prop where
  tree : t.treeVertices = order ++ [x]
  enters : area.Enters t.treeVertices
  inOrder : InOrder t.treeVertices (area.reached order done) t.candidateVertices
  exploring : Exploring area.graph area.root t.treeVertices t.candidateVertices (fun v => (t.info v).distance) x
    (fun v c => (v, c) ∉ done)
  known : ∀ v ∈ t.treeVertices, v ∈ area.vertices
  parent : ∀ v, v ∈ t.treeVertices ∨ v ∈ t.candidateVertices → v ≠ area.root →
    ∃ u, area.firstLink t.treeVertices v = some u ∧ (t.info v).parent = some u
  nextHops : ∀ v, v ∈ t.treeVertices ∨ v ∈ t.candidateVertices → v ≠ area.root → ∀ h, h ∈ (t.info v).nextHops ↔
    ∃ u ∈ t.treeVertices, ∃ c, area.graph.edge u v c ∧ (u = x → (v, c) ∈ done) ∧
      (t.info u).distance + c = (t.info v).distance ∧ h ∈ area.calculateNextHops t.info v u
  cleared : ∀ v, v ∉ t.treeVertices → v ∉ t.candidateVertices → (t.info v).nextHops = []

theorem reached_snoc (order : List Vertex) (done : List (Vertex × Nat)) (y : Vertex × Nat) :
    area.reached order (done ++ [y]) = area.reached order done ++ [y.1] := by
  simp [reached]

variable {t : Tree} {order : List Vertex} {x v : Vertex} {c : Nat} {done : List (Vertex × Nat)}

section

variable (h : Known area order x done t)
include h

theorem Known.current : x ∈ t.treeVertices := by
  rw [h.tree]
  exact mem_append_right _ (mem_singleton_self x)

/-- No link of `x` makes a shortest path to a vertex that has been entered. -/
theorem Known.entered (hv : v ∈ t.treeVertices) (he : area.graph.edge x v c) :
    (t.info x).distance + c ≠ (t.info v).distance := by
  intro hd
  have hbefore : area.graph.Before (t.info x).distance x (t.info v).distance v := by
    rw [← hd]
    exact Graph.before_of_edge he
  exact (h.exploring.tree_closed v hv x _ (h.exploring.tree_dist x h.current).1 hbefore).2 rfl

/-- A vertex that has not been reached yet is not reached by what has been done. -/
theorem Known.not_reached (hv : v ∉ t.treeVertices) (hc : v ∉ t.candidateVertices)
    (hu : u ∈ t.treeVertices) (he : area.graph.edge u v c) : u = x ∧ (v, c) ∉ done := by
  by_contra hnot
  rcases h.exploring.cand_least u hu v c he (fun hux hp => hnot ⟨hux, hp⟩) with hmem | ⟨hmem, -⟩
  · exact hv hmem
  · exact hc hmem

/-- Where nothing changes but that a link has been followed which makes no shortest path. -/
theorem Known.skip (hv : v ∈ t.treeVertices ∨ v ∈ t.candidateVertices)
    (hexploring : Exploring area.graph area.root t.treeVertices t.candidateVertices (fun v => (t.info v).distance) x
      (fun w e => (w, e) ∉ done ++ [(v, c)]))
    (hnot : area.graph.edge x v c → (t.info x).distance + c ≠ (t.info v).distance) :
    Known area order x (done ++ [(v, c)]) t :=
  { h with
    inOrder := by
      rw [reached_snoc]
      exact h.inOrder.follow hv
    exploring := hexploring
    nextHops := fun w hw hne hop => by
      rw [h.nextHops w hw hne hop]
      constructor
      · rintro ⟨u, hu, e, he, hdone, hrest⟩
        exact ⟨u, hu, e, he, fun hux => mem_append_left _ (hdone hux), hrest⟩
      · rintro ⟨u, hu, e, he, hdone, hd, hhop⟩
        refine ⟨u, hu, e, he, fun hux => ?_, hd, hhop⟩
        rcases mem_append.mp (hdone hux) with hmem | hmem
        · exact hmem
        · rw [mem_singleton] at hmem
          cases hmem
          rw [hux] at he hd
          exact absurd hd (hnot he) }

end

theorem pending_snoc (v : Vertex) (c : Nat) :
    ∀ w e, (w, e) ∉ done → (w, e) ∉ done ++ [(v, c)] ∨ w = v ∧ e = c := by
  intro w e hp
  by_cases hwe : w = v ∧ e = c
  · exact .inr hwe
  · left
    rw [mem_append, mem_singleton]
    rintro (hmem | hmem)
    · exact hp hmem
    · cases hmem
      exact hwe ⟨rfl, rfl⟩

section

variable (h : Known area order x done t)
include h

section

variable (he : area.graph.edge x v c)
include he

/-- Where a link has been followed to a vertex outside of the tree, whose entry is `i` now. -/
theorem Known.update (hv : v ∉ t.treeVertices) {i : RoutingInfo}
    {cand : List Vertex} (hinOrder : InOrder t.treeVertices (area.reached order done ++ [v]) cand) (hcand : ∀ w, w ∈ cand ↔ w ∈ t.candidateVertices ∨ w = v) (hnodup : cand.Nodup)
    (hdist : v ∈ t.candidateVertices ∧ (t.info v).distance ≤ (t.info x).distance + c ∧ i.distance = (t.info v).distance ∨
      i.distance = (t.info x).distance + c ∧
        (v ∈ t.candidateVertices → (t.info x).distance + c ≤ (t.info v).distance))
    (hparent : ∃ u, area.firstLink t.treeVertices v = some u ∧ i.parent = some u)
    (hhops : ∀ hop, hop ∈ i.nextHops ↔ ∃ u ∈ t.treeVertices, ∃ e, area.graph.edge u v e ∧
      (u = x → (v, e) ∈ done ++ [(v, c)]) ∧ (t.info u).distance + e = i.distance ∧
      hop ∈ area.calculateNextHops t.info v u) :
    Known area order x (done ++ [(v, c)]) { t.setInfo v i with candidateVertices := cand } := by
  have hself : (t.setInfo v i).info v = i := if_pos rfl
  have hother : ∀ w, w ≠ v → (t.setInfo v i).info w = t.info w := fun w hw => if_neg hw
  have htree : ∀ u ∈ t.treeVertices, (t.setInfo v i).info u = t.info u := by
    intro u hu
    apply hother
    rintro rfl
    exact hv hu
  have hold : ∀ w, w ∈ t.treeVertices ∨ w ∈ cand → w ≠ v → w ∈ t.treeVertices ∨ w ∈ t.candidateVertices := by
    rintro w (hw | hw) hne
    · exact .inl hw
    · exact .inr (((hcand w).mp hw).resolve_right hne)
  constructor
  · exact h.tree
  · exact h.enters
  · rw [reached_snoc]
    exact hinOrder
  · refine h.exploring.follow_cand h.current he hv hcand hnodup (fun w hw => ?_) ?_ (pending_snoc v c)
    · rw [hother w hw]
    · rw [hself]
      exact hdist
  · exact h.known
  · intro w hw hne
    by_cases hwv : w = v
    · rw [hwv, hself]
      exact hparent
    · rw [hother w hwv]
      exact h.parent w (hold w hw hwv) hne
  · intro w hw hne hop
    by_cases hwv : w = v
    · subst hwv
      rw [hself, hhops]
      constructor
      · rintro ⟨u, hu, e, hue, hdone, hd, hhop⟩
        refine ⟨u, hu, e, hue, hdone, by rw [htree u hu]; exact hd, ?_⟩
        rw [calculateNextHops_congr (htree u hu)]
        exact hhop
      · rintro ⟨u, hu, e, hue, hdone, hd, hhop⟩
        rw [htree u hu] at hd
        rw [calculateNextHops_congr (htree u hu)] at hhop
        exact ⟨u, hu, e, hue, hdone, hd, hhop⟩
    · rw [hother w hwv, h.nextHops w (hold w hw hwv) hne]
      constructor
      · rintro ⟨u, hu, e, hue, hdone, hd, hhop⟩
        refine ⟨u, hu, e, hue, fun hux => mem_append_left _ (hdone hux), by rw [htree u hu]; exact hd, ?_⟩
        rw [calculateNextHops_congr (htree u hu)]
        exact hhop
      · rintro ⟨u, hu, e, hue, hdone, hd, hhop⟩
        rw [htree u hu] at hd
        rw [calculateNextHops_congr (htree u hu)] at hhop
        refine ⟨u, hu, e, hue, fun hux => ?_, hd, hhop⟩
        rcases mem_append.mp (hdone hux) with hmem | hmem
        · exact hmem
        · rw [mem_singleton] at hmem
          cases hmem
          exact absurd rfl hwv
  · intro w hw hwc
    have hwv : w ≠ v := by
      rintro rfl
      exact hwc ((hcand w).mpr (Or.inr rfl))
    rw [hother w hwv]
    exact h.cleared w hw fun hmem => hwc ((hcand w).mpr (Or.inl hmem))

/-- The first link to a vertex that has not been reached is the one that is followed. -/
theorem Known.first_link (hv : v ∉ t.treeVertices) (hc : v ∉ t.candidateVertices) :
    area.firstLink t.treeVertices v = some x := by
  have hnone : order.find? (fun u => v ∈ area.targets u) = none := by
    rw [find?_eq_none]
    intro u hu hlink
    have hreached : v ∈ area.reached order done :=
      mem_append_left _ (mem_flatMap.mpr ⟨u, hu, of_decide_eq_true hlink⟩)
    exact (h.inOrder.cover v hreached).elim hv hc
  have hlink : v ∈ area.targets x := mem_map.mpr ⟨(v, c), area.edge_iff.mp he.2, rfl⟩
  rw [firstLink, h.tree, find?_append, hnone]
  simp [hlink]

/-- Step (2) (c) and (d). -/
theorem Known.join :
    Known area order x (done ++ [(v, c)]) (t.join area x (v, c)) := by
  unfold Tree.join
  dsimp only
  split
  · next hv => exact h.skip (Or.inl hv) (h.exploring.follow_tree hv (pending_snoc v c)) fun he => h.entered hv he
  · next hv =>
    have hroot : v ≠ area.root := by
      rintro rfl
      exact hv h.exploring.root
    split
    · next hc =>
      have hcand : ∀ w, w ∈ t.candidateVertices ↔ w ∈ t.candidateVertices ∨ w = v := by
        intro w
        constructor
        · exact .inl
        · rintro (hw | rfl)
          · exact hw
          · exact hc
      split
      · next hlt =>
        refine h.skip (Or.inr hc) (h.exploring.follow_cand h.current he hv hcand h.exploring.cand_nodup (fun _ _ => rfl)
          (Or.inl ⟨hc, by omega, rfl⟩) (pending_snoc v c)) fun _ => ?_
        omega
      · next hnot =>
        split
        · next hlt =>
          refine h.update he hv (i := { t.info v with
            distance := (t.info x).distance + c, nextHops := area.calculateNextHops t.info v x }) (h.inOrder.follow (Or.inr hc)) hcand
            h.exploring.cand_nodup (Or.inr ⟨rfl, fun _ => Nat.le_of_lt hlt⟩) (h.parent v (Or.inr hc) hroot)
            fun hop => ?_
          constructor
          · intro hhop
            exact ⟨x, h.current, c, he, fun _ => mem_append_right _ (mem_singleton_self _), rfl, hhop⟩
          · rintro ⟨u, hu, e, hue, hdone, hd, hhop⟩
            -- the distance has not been that low before
            by_cases hnew : u = x ∧ e = c
            · rw [hnew.1] at hhop
              exact hhop
            · exfalso
              have hpend : u = x → ¬ (v, e) ∉ done := by
                intro hux hp
                rcases mem_append.mp (hdone hux) with hm | hm
                · exact hp hm
                · rw [mem_singleton] at hm
                  cases hm
                  exact hnew ⟨hux, rfl⟩
              rcases h.exploring.cand_least u hu v e hue hpend with hm | ⟨-, hle⟩
              · exact hv hm
              · have hd' : (t.info u).distance + e = (t.info x).distance + c := hd
                omega
        · next hge =>
          have heq : (t.info x).distance + c = (t.info v).distance := by omega
          refine h.update he hv (i := { t.info v with
            nextHops := (t.info v).nextHops ++ area.calculateNextHops t.info v x }) (h.inOrder.follow (Or.inr hc)) hcand
            h.exploring.cand_nodup (Or.inl ⟨hc, Nat.le_of_eq heq.symm, rfl⟩) (h.parent v (Or.inr hc) hroot) fun hop => ?_
          rw [mem_append, h.nextHops v (Or.inr hc) hroot]
          constructor
          · rintro (⟨u, hu, e, hue, hdone, hd, hhop⟩ | hhop)
            · exact ⟨u, hu, e, hue, fun hux => mem_append_left _ (hdone hux), hd, hhop⟩
            · exact ⟨x, h.current, c, he, fun _ => mem_append_right _ (mem_singleton_self _), heq, hhop⟩
          · rintro ⟨u, hu, e, hue, hdone, hd, hhop⟩
            by_cases hux : u = x
            · right
              rw [hux] at hhop
              exact hhop
            · exact .inl ⟨u, hu, e, hue, fun hx => absurd hx hux, hd, hhop⟩
    · next hc =>
      have hnodup : (t.candidateVertices ++ [v]).Nodup :=
        nodup_middle.mpr (nodup_cons.mpr ⟨by simpa using hc, by simpa using h.exploring.cand_nodup⟩)
      refine h.update he hv (i := {
        distance := (t.info x).distance + c
        nextHops := (t.info v).nextHops ++ area.calculateNextHops t.info v x
        parent := some x }) (h.inOrder.snoc hv hc) (by simp) hnodup (Or.inr ⟨rfl, fun hm => absurd hm hc⟩)
        ⟨x, h.first_link he hv hc, rfl⟩ fun hop => ?_
      rw [h.cleared v hv hc, nil_append]
      constructor
      · intro hhop
        exact ⟨x, h.current, c, he, fun _ => mem_append_right _ (mem_singleton_self _), rfl, hhop⟩
      · rintro ⟨u, hu, e, hue, -, -, hhop⟩
        rw [(h.not_reached hv hc hu hue).1] at hhop
        exact hhop

end

end

/-- What is known between two rounds, when all links of the tree have been followed. -/
structure Settled (area : LinkStateDatabase) (order : List Vertex) (x : Vertex) (t : Tree) : Prop where
  known : Known area order x (area.usableLinks x) t
  exploring : Exploring area.graph area.root t.treeVertices t.candidateVertices (fun v => (t.info v).distance) x
    (fun _ _ => False)

theorem Known.joinAll (h : Known area order x [] t) : Settled area order x (t.joinAll area x) := by
  have hfold : ∀ (links done : List (Vertex × Nat)) (t : Tree), (∀ y ∈ links, y ∈ area.usableLinks x) →
      Known area order x done t → Known area order x (done ++ links) (links.foldl (fun t y => t.join area x y) t) := by
    intro links
    induction links with
    | nil =>
      intro done t _ h
      simpa using h
    | cons y links ih =>
      intro done t hlinks h
      obtain ⟨v, c⟩ := y
      have he : area.graph.edge x v c := ⟨h.known x h.current, area.edge_iff.mpr (hlinks (v, c) (by simp))⟩
      have := ih (done ++ [(v, c)]) _ (fun y hy => hlinks y (by simp [hy])) (h.join he)
      rwa [append_assoc, singleton_append] at this
  have hknown := hfold (area.usableLinks x) [] t (fun _ hy => hy) h
  exact ⟨hknown, hknown.exploring.finish fun v c he hp => hp (area.edge_iff.mp he.2)⟩

/-- The next round starts with the vertex that has been chosen. -/
theorem Settled.next (h : Settled area order x t)
    (hforemost : area.graph.Foremost (fun v => (t.info v).distance) t.candidateVertices y) :
    Known area t.treeVertices y [] { t with
      treeVertices := t.treeVertices ++ [y], candidateVertices := t.candidateVertices.erase y } := by
  have hy := hforemost.mem
  have hreached : area.reached order (area.usableLinks x) = t.treeVertices.flatMap area.targets := by
    rw [h.known.tree]
    simp [reached, targets]
  have hinOrder := h.known.inOrder
  rw [hreached] at hinOrder
  have hmem : ∀ v, v ∈ t.treeVertices ++ [y] ∨ v ∈ t.candidateVertices.erase y →
      v ∈ t.treeVertices ∨ v ∈ t.candidateVertices := by
    rintro v (hv | hv)
    · rcases mem_append.mp hv with hv | hv
      · exact .inl hv
      · rw [mem_singleton] at hv
        exact .inr (hv ▸ hy)
    · exact .inr (mem_of_mem_erase hv)
  have hyt : y ∉ t.treeVertices := h.exploring.disjoint y hy
  constructor
  · rfl
  · exact .next h.known.enters (h.exploring.next hinOrder hforemost)
  · simpa [reached] using hinOrder.enter y
  · have henter := h.exploring.enter hy hforemost.least
    exact { henter with
      cand_least := fun u hu v c he hp => henter.cand_least u hu v c he fun hux => absurd (hp hux) (by simp) }
  · intro v hv
    rcases mem_append.mp hv with hv | hv
    · exact h.known.known v hv
    · rw [mem_singleton] at hv
      obtain ⟨u, hu, c, he, -⟩ := h.exploring.cand_link y hy
      rw [hv]
      exact area.edge_target he.2
  · intro v hv hne
    obtain ⟨u, hu, hparent⟩ := h.known.parent v (hmem v hv) hne
    refine ⟨u, ?_, hparent⟩
    rw [firstLink] at hu ⊢
    rw [find?_append, hu]
    rfl
  · intro v hv hne hop
    rw [h.known.nextHops v (hmem v hv) hne]
    constructor
    · rintro ⟨u, hu, c, he, hdone, hrest⟩
      exact ⟨u, mem_append_left _ hu, c, he, fun huy => absurd (huy ▸ hu) hyt, hrest⟩
    · rintro ⟨u, hu, c, he, hdone, hrest⟩
      rcases mem_append.mp hu with hu | hu
      · exact ⟨u, hu, c, he, fun hux => area.edge_iff.mp (hux ▸ he.2), hrest⟩
      · rw [mem_singleton] at hu
        exact nomatch hdone hu
  · intro v hv hvc
    rw [mem_append, mem_singleton] at hv
    apply h.known.cleared v fun hm => hv (Or.inl hm)
    intro hm
    exact hvc ((mem_erase_of_ne fun hvy => hv (Or.inr hvy)).mpr hm)

/-- Some candidate is nearer than `LS_INFINITY`. -/
theorem Settled.finite (h : Settled area order x t) (hnear : ∀ v d, area.Dist v d → d < LS_INFINITY) (hy : y ∈ t.candidateVertices) :
    ∃ z ∈ t.candidateVertices, (t.info z).distance < LS_INFINITY := by
  -- the candidate of least distance has its true distance
  obtain ⟨z, hz, hmin⟩ := t.candidateVertices.toFinset.exists_min_image (fun w => 2 * (t.info w).distance + w.rank)
    ⟨y, mem_toFinset.mpr hy⟩
  rw [mem_toFinset] at hz
  refine ⟨z, hz, hnear z _ (h.exploring.closest hz fun w hw hb => ?_).1⟩
  have hle := hmin w (mem_toFinset.mpr hw)
  have hwr := rank_le w
  rcases hb with hlt | ⟨heq, hlt⟩
  · omega
  · have hlt' : w.rank < z.rank := hlt
    omega

theorem join_treeVertices (t : Tree) (x : Vertex) (y : Vertex × Nat) :
    (t.join area x y).treeVertices = t.treeVertices := by
  unfold Tree.join
  dsimp only
  split
  · rfl
  · split
    · split
      · rfl
      · split <;> rfl
    · rfl

theorem joinAll_treeVertices (t : Tree) (x : Vertex) : (t.joinAll area x).treeVertices = t.treeVertices := by
  have hfold : ∀ (links : List (Vertex × Nat)) (t : Tree),
      (links.foldl (fun t y => t.join area x y) t).treeVertices = t.treeVertices := by
    intro links
    induction links with
    | nil =>
      intro t
      rfl
    | cons y links ih =>
      intro t
      rw [foldl_cons, ih, join_treeVertices]
  exact hfold _ t

/-- The loop ends, with all that can be reached on the tree. -/
theorem grow_spec (hnear : ∀ v d, area.Dist v d → d < LS_INFINITY) :
    ∀ (rounds : Nat) (order : List Vertex) (x : Vertex) (t : Tree), Known area order x [] t →
      area.vertices.length + 1 ≤ rounds + t.treeVertices.length →
      ∃ t' order' x', area.grow rounds x t = .ok t' ∧ t'.candidateVertices = [] ∧ Settled area order' x' t'
  | 0, order, x, t, h, hrounds => by
    have hle : t.treeVertices.length ≤ area.vertices.length :=
      (subperm_of_subset h.exploring.tree_nodup h.known).length_le
    omega
  | rounds + 1, order, x, t, h, hrounds => by
    have hs := h.joinAll
    have hlength : (t.joinAll area x).treeVertices = t.treeVertices := joinAll_treeVertices t x
    unfold grow
    dsimp only
    cases hc : (t.joinAll area x).candidateVertices with
    | nil => exact ⟨_, order, x, rfl, hc, hs⟩
    | cons y ys =>
      obtain ⟨z, hz, hfin⟩ := hs.finite hnear (y := y) (by rw [hc]; exact mem_cons_self)
      obtain ⟨v, hv, hforemost⟩ := closestVertex_spec area hz hfin
      rw [← hc, hv]
      apply grow_spec hnear rounds _ v _ (hs.next hforemost)
      rw [hlength, length_append, length_singleton]
      omega

end LinkStateDatabase

end Inet.Ospf
