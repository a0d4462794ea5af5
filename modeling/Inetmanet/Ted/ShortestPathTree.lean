import Inetmanet.Ted.TED

/-!
# The shortest paths of the database

The passes of `calculateShortestPaths` are rounds of relaxation over the links that are
up and have enough bandwidth left, so its labels are those of the shortest paths as long
as these cost less than `LS_INFINITY`.
-/
namespace Inet.Ted

open List
open Inet.Ipv4 (IPv4Address)
open BellmanFord (Edge Label Path Tree Shortest)

/-- The links that are up and have that much bandwidth left. -/
def upLinks (topology : List TELinkStateInfo) (req_bandwidth : Rat) (priority : Fin 8) : List (Edge IPv4Address) :=
  (topology.filter fun link => link.state ∧ req_bandwidth ≤ link.UnResvBandwidth.get priority).map fun link =>
    ⟨link.advrouter, link.linkid, link.metric⟩

def NoLoops (topology : List TELinkStateInfo) : Prop := ∀ link ∈ topology, link.advrouter ≠ link.linkid

/-- No cheapest path costs as much as infinity. -/
def BelowInfinity (edges : List (Edge IPv4Address)) (routerId : IPv4Address) (v : IPv4Address) : Prop :=
  ∀ p d, Path edges routerId (v :: p) d → ∃ q e, Path edges routerId (v :: q) e ∧ e < LS_INFINITY

variable {topology : List TELinkStateInfo} {req_bandwidth : Rat} {priority : Fin 8} {routerId v u : IPv4Address}
  {edges : List (Edge IPv4Address)} {V : ShortestPaths}

theorem mem_assignIndex {vertices : List IPv4Address} {nodeAddr : IPv4Address} :
    v ∈ assignIndex vertices nodeAddr ↔ v ∈ vertices ∨ v = nodeAddr := by
  unfold assignIndex
  by_cases h : nodeAddr ∈ vertices
  · rw [if_pos h]
    constructor
    · exact .inl
    · intro hv
      cases hv with
      | inl hv => exact hv
      | inr hv => exact hv ▸ h
  · rw [if_neg h, mem_append, mem_singleton]

theorem collect_edges (g : Topology) :
    (topology.foldl (Topology.addLink req_bandwidth priority) g).edges = g.edges ++ upLinks topology req_bandwidth priority := by
  induction topology generalizing g with
  | nil => exact (append_nil g.edges).symm
  | cons link topology ih =>
    rw [foldl_cons, ih, Topology.addLink, upLinks, upLinks]
    by_cases hstate : link.state = true
    · rw [if_neg (not_not.mpr hstate)]
      change Topology.edges (if link.UnResvBandwidth.get priority < req_bandwidth then _ else _) ++ _ = _
      by_cases hbandwidth : link.UnResvBandwidth.get priority < req_bandwidth
      · rw [if_pos hbandwidth, filter_cons_of_neg (by simpa [hstate] using Rat.not_le.mpr hbandwidth)]
      · rw [if_neg hbandwidth, filter_cons_of_pos (by simpa [hstate] using Rat.not_lt.mp hbandwidth), map_cons, append_assoc]
        rfl
    · rw [if_pos hstate, filter_cons_of_neg (by simp [hstate])]

theorem collect_vertices (g : Topology) (hg : ∀ e ∈ g.edges, e.dest ∈ g.vertices) :
    ∀ e ∈ (topology.foldl (Topology.addLink req_bandwidth priority) g).edges,
      e.dest ∈ (topology.foldl (Topology.addLink req_bandwidth priority) g).vertices := by
  induction topology generalizing g with
  | nil => exact hg
  | cons link topology ih =>
    apply ih
    unfold Topology.addLink
    split
    · exact hg
    · split
      · exact hg
      · intro e he
        rw [mem_assignIndex, mem_assignIndex]
        cases mem_append.mp he with
        | inl he => exact .inl (.inl (hg e he))
        | inr he =>
          rw [mem_singleton.mp he]
          exact .inr rfl

/-- Without loops the passes are rounds. -/
theorem relaxEdges_eq (hloops : ∀ e ∈ edges, e.src ≠ e.dest) (r : (IPv4Address → Label IPv4Address) × Bool) :
    relaxEdges edges r = .ok (BellmanFord.relaxAll edges r) := by
  induction edges generalizing r with
  | nil => rfl
  | cons edge edges ih =>
    rw [relaxEdges, ensure_pos (hloops edge mem_cons_self)]
    exact ih (fun e he => hloops e (mem_cons_of_mem _ he)) _

theorem relaxPasses_eq (hloops : ∀ e ∈ edges, e.src ≠ e.dest) (n : Nat) (labels : IPv4Address → Label IPv4Address) :
    relaxPasses edges n labels = .ok (BellmanFord.rounds edges n labels) := by
  induction n generalizing labels with
  | zero => rfl
  | succ n ih =>
    rw [relaxPasses, relaxEdges_eq hloops, BellmanFord.rounds]
    by_cases hmod : (BellmanFord.relaxAll edges (labels, false)).2 = true
    · rw [if_pos hmod]
      refine Eq.trans (if_pos hmod) ?_
      exact ih (BellmanFord.relaxAll edges (labels, false)).1
    · rw [if_neg hmod]
      exact if_neg hmod

theorem mem_upLinks {e : Edge IPv4Address} : e ∈ upLinks topology req_bandwidth priority ↔
    ∃ link ∈ topology, link.state = true ∧ req_bandwidth ≤ link.UnResvBandwidth.get priority ∧
      e = ⟨link.advrouter, link.linkid, link.metric⟩ := by
  unfold upLinks
  rw [mem_map]
  constructor
  · rintro ⟨link, hlink, rfl⟩
    rw [mem_filter, decide_eq_true_eq] at hlink
    exact ⟨link, hlink.1, hlink.2.1, hlink.2.2, rfl⟩
  · rintro ⟨link, hmem, hstate, hbandwidth, rfl⟩
    exact ⟨link, mem_filter.mpr ⟨hmem, decide_eq_true ⟨hstate, hbandwidth⟩⟩, rfl⟩

theorem NoLoops.upLinks (h : NoLoops topology) : ∀ e ∈ upLinks topology req_bandwidth priority, e.src ≠ e.dest := by
  intro e he
  obtain ⟨link, hlink, -, -, rfl⟩ := mem_upLinks.mp he
  exact h link hlink

/-- What `calculateShortestPaths` gives. -/
structure Calculated (edges : List (Edge IPv4Address)) (routerId : IPv4Address) (V : ShortestPaths) : Prop where
  shortest : Shortest edges routerId LS_INFINITY V.labels
  source : routerId ∈ V.vertices
  ends : ∀ e ∈ edges, e.dest ∈ V.vertices

theorem calculateShortestPaths_ok (routerId : IPv4Address) (hloops : NoLoops topology) (req_bandwidth : Rat) (priority : Fin 8) :
    ∃ V, calculateShortestPaths routerId topology req_bandwidth priority = .ok V ∧
      Calculated (upLinks topology req_bandwidth priority) routerId V := by
  have hedges : (collect topology req_bandwidth priority).edges = upLinks topology req_bandwidth priority :=
    (collect_edges {}).trans (nil_append _)
  have hsource : routerId ∈ assignIndex (collect topology req_bandwidth priority).vertices routerId :=
    mem_assignIndex.mpr (.inr rfl)
  have hends : ∀ e ∈ upLinks topology req_bandwidth priority,
      e.dest ∈ assignIndex (collect topology req_bandwidth priority).vertices routerId := by
    intro e he
    rw [← hedges] at he
    exact mem_assignIndex.mpr (.inl (collect_vertices {} (fun e he => absurd he not_mem_nil) e he))
  unfold calculateShortestPaths
  simp only [hedges, relaxPasses_eq hloops.upLinks]
  exact ⟨_, rfl, BellmanFord.rounds_shortest hsource hends, hsource, hends⟩

namespace Calculated

variable {p : List IPv4Address} {d : Nat}

section

variable (h : Calculated edges routerId V)
include h

theorem path_vertex (hp : Path edges routerId (v :: p) d) : v ∈ V.vertices :=
  hp.vertices h.source h.ends mem_cons_self

/-- The way up to the router is not longer than there are vertices. -/
theorem tree_length (ht : Tree V.labels routerId (v :: p)) : p.length < V.vertices.length := by
  have hnodup := ht.nodup h.shortest.source_parent
  have hsub := (h.shortest.tree_path ht).vertices h.source h.ends
  exact (hnodup.subperm hsub).length_le

/-- A vertex but the router has a parent if and only if its distance is known. -/
theorem parent_iff (hv : v ≠ routerId) :
    (V.labels v).parent ≠ none ↔ (V.labels v).dist < LS_INFINITY := by
  constructor
  · intro hparent
    refine Nat.lt_of_le_of_ne (h.shortest.bounded v) ?_
    intro htop
    exact hparent (h.shortest.unknown v htop hv)
  · intro hdist
    obtain ⟨p, hp⟩ := h.shortest.tree v hdist
    cases hp with
    | source => exact absurd rfl hv
    | step hparent hp =>
      rw [hparent]
      exact Option.some_ne_none _

end

end Calculated

/-- A shortest path to a destination, or none where there is no path. -/
structure RightPath (edges : List (Edge IPv4Address)) (routerId : IPv4Address) (dest path : List IPv4Address) : Prop where
  empty_iff : path = [] ↔ ∀ v ∈ dest, ∀ p d, ¬ Path edges routerId (v :: p) d
  shortest : path ≠ [] → ∃ v ∈ dest, ∃ p d, path = (v :: p).reverse ∧ Path edges routerId (v :: p) d ∧
    ∀ w ∈ dest, ∀ q e, Path edges routerId (w :: q) e → d ≤ e

/-- The vertex found is one of those that are known and have the least distance. -/
def Closest (labels : IPv4Address → Label IPv4Address) (dest vertices : List IPv4Address) (minDist : Nat) (res : Option IPv4Address) :
    Prop :=
  match res with
  | none => ∀ w ∈ dest, w ∈ vertices → minDist ≤ (labels w).dist
  | some v => v ∈ dest ∧ (labels v).dist < minDist ∧ ∀ w ∈ dest, w ∈ vertices → (labels v).dist ≤ (labels w).dist

theorem closest_spec (labels : IPv4Address → Label IPv4Address) (dest vertices : List IPv4Address) (minDist : Nat)
    (minVertex : Option IPv4Address) :
    closest labels dest vertices minDist minVertex = minVertex ∧ Closest labels dest vertices minDist none ∨
      ∃ v, closest labels dest vertices minDist minVertex = some v ∧ Closest labels dest vertices minDist (some v) := by
  induction vertices generalizing minDist minVertex with
  | nil => exact .inl ⟨rfl, fun w _ hw => absurd hw not_mem_nil⟩
  | cons x vertices ih =>
    rw [closest]
    by_cases hskip : minDist ≤ (labels x).dist ∨ x ∉ dest
    · have hrest : (if minDist ≤ (labels x).dist then closest labels dest vertices minDist minVertex
          else if x ∉ dest then closest labels dest vertices minDist minVertex
          else closest labels dest vertices (labels x).dist (some x)) = closest labels dest vertices minDist minVertex := by
        split
        · rfl
        · rename_i hlt
          rw [if_pos (hskip.resolve_left hlt)]
      rw [hrest]
      have hx (hmem : x ∈ dest) : minDist ≤ (labels x).dist := hskip.resolve_right (not_not.mpr hmem)
      cases ih minDist minVertex with
      | inl h =>
        refine .inl ⟨h.1, ?_⟩
        intro w hw hmem
        cases mem_cons.mp hmem with
        | inl heq =>
          subst heq
          exact hx hw
        | inr hmem => exact h.2 w hw hmem
      | inr h =>
        obtain ⟨v, hv, hdest, hlt, hleast⟩ := h
        refine .inr ⟨v, hv, hdest, hlt, ?_⟩
        intro w hw hmem
        cases mem_cons.mp hmem with
        | inl heq =>
          subst heq
          exact Nat.le_trans (Nat.le_of_lt hlt) (hx hw)
        | inr hmem => exact hleast w hw hmem
    · rw [not_or, not_not] at hskip
      rw [if_neg hskip.1, if_neg (not_not.mpr hskip.2)]
      have hlt : (labels x).dist < minDist := Nat.lt_of_not_le hskip.1
      right
      cases ih (labels x).dist (some x) with
      | inl h =>
        refine ⟨x, h.1, hskip.2, hlt, ?_⟩
        intro w hw hmem
        cases mem_cons.mp hmem with
        | inl heq =>
          exact Nat.le_of_eq (by rw [heq])
        | inr hmem => exact h.2 w hw hmem
      | inr h =>
        obtain ⟨v, hv, hdest, hvx, hleast⟩ := h
        refine ⟨v, hv, hdest, Nat.lt_trans hvx hlt, ?_⟩
        intro w hw hmem
        cases mem_cons.mp hmem with
        | inl heq =>
          rw [heq]
          exact Nat.le_of_lt hvx
        | inr hmem => exact hleast w hw hmem

theorem insertParents_ok {labels : IPv4Address → Label IPv4Address} {p : List IPv4Address} (hs : (labels routerId).parent = none)
    (ht : Tree labels routerId (v :: p)) {n : Nat} (hn : p.length < n) (result : List IPv4Address) :
    insertParents labels n v result = .ok ((v :: p).reverse ++ result) := by
  generalize hvp : v :: p = vp at ht
  induction ht generalizing v p n result with
  | source =>
    cases hvp
    cases n with
    | zero => cases hn
    | succ n =>
      rw [insertParents, hs]
      rfl
  | step hparent ht ih =>
    rename_i a b p'
    cases hvp
    cases n with
    | zero => cases hn
    | succ n =>
      rw [insertParents, hparent]
      dsimp only
      rw [ih (Nat.lt_of_succ_lt_succ hn) (b :: result) rfl, reverse_cons (a := b), append_assoc]
      rfl

theorem calculateShortestPath_ok (routerId : IPv4Address) (hloops : NoLoops topology) (dest : List IPv4Address) (req_bandwidth : Rat)
    (priority : Fin 8) :
    ∃ path, calculateShortestPath routerId dest topology req_bandwidth priority = .ok path ∧
      (path = [] → ∀ v ∈ dest, ∀ p d, Path (upLinks topology req_bandwidth priority) routerId (v :: p) d → LS_INFINITY ≤ d) ∧
      (path ≠ [] → ∃ v ∈ dest, ∃ p d, path = (v :: p).reverse ∧ d < LS_INFINITY ∧
        Path (upLinks topology req_bandwidth priority) routerId (v :: p) d ∧
        ∀ w ∈ dest, ∀ q e, Path (upLinks topology req_bandwidth priority) routerId (w :: q) e → d ≤ e) := by
  obtain ⟨V, hV, hcalc⟩ := calculateShortestPaths_ok routerId hloops req_bandwidth priority
  unfold calculateShortestPath
  rw [hV]
  have hleast := hcalc.shortest.least
  cases closest_spec V.labels dest V.vertices LS_INFINITY none with
  | inl h =>
    refine ⟨[], ?_, ?_, fun hne => absurd rfl hne⟩
    · simp only [bind, Except.bind, h.1]
    · intro _ v hv p d hp
      exact Nat.le_trans (h.2 v hv (hcalc.path_vertex hp)) (hleast v p d hp)
  | inr h =>
    obtain ⟨v, hv, hdest, hlt, hmin⟩ := h
    obtain ⟨p, hp⟩ := hcalc.shortest.tree v hlt
    refine ⟨(v :: p).reverse, ?_, ?_, ?_⟩
    · simp only [bind, Except.bind, hv]
      rw [insertParents_ok hcalc.shortest.source_parent hp (hcalc.tree_length hp) [], append_nil]
    · intro hnil
      rw [reverse_eq_nil_iff] at hnil
      cases hnil
    · intro _
      refine ⟨v, hdest, p, _, rfl, hlt, hcalc.shortest.tree_path hp, ?_⟩
      intro w hw q e hq
      exact Nat.le_trans (hmin w hw (hcalc.path_vertex hq)) (hleast w q e hq)

/-- The paths are right if and only if none that is needed costs as much as infinity. -/
theorem rightPath_iff (routerId : IPv4Address) (hloops : NoLoops topology) (req_bandwidth : Rat) (priority : Fin 8) :
    (∀ dest, ∃ path, calculateShortestPath routerId dest topology req_bandwidth priority = .ok path ∧
        RightPath (upLinks topology req_bandwidth priority) routerId dest path) ↔
      ∀ v, BelowInfinity (upLinks topology req_bandwidth priority) routerId v := by
  constructor
  · intro h v p d hp
    obtain ⟨path, hpath, hright⟩ := h [v]
    obtain ⟨path', hpath', hempty, hsome⟩ := calculateShortestPath_ok routerId hloops [v] req_bandwidth priority
    cases hpath.symm.trans hpath'
    have hne : path ≠ [] := fun hnil => hright.empty_iff.mp hnil v (mem_singleton_self v) p d hp
    obtain ⟨w, hw, q, e, -, hlt, hq, -⟩ := hsome hne
    rw [mem_singleton] at hw
    subst hw
    exact ⟨q, e, hq, hlt⟩
  · intro hfinite dest
    obtain ⟨path, hpath, hempty, hsome⟩ := calculateShortestPath_ok routerId hloops dest req_bandwidth priority
    refine ⟨path, hpath, ⟨?_, ?_⟩, ?_⟩
    · intro hnil v hv p d hp
      obtain ⟨q, e, hq, hlt⟩ := hfinite v p d hp
      exact absurd (hempty hnil v hv q e hq) (Nat.not_le_of_lt hlt)
    · intro hnone
      by_contra hne
      obtain ⟨v, hv, p, d, -, -, hp, -⟩ := hsome hne
      exact hnone v hv p d hp
    · intro hne
      obtain ⟨v, hv, p, d, heq, -, hp, hmin⟩ := hsome hne
      exact ⟨v, hv, p, d, heq, hp, hmin⟩

end Inet.Ted
