import Inetmanet.Ospf.TreeCorrectness

/-!
# The next hops of the tree

The next hops of a vertex come from those of the vertices before it on its shortest
paths, and in the end from the interfaces of the root.
-/
namespace Inet.Ospf

open Ipv4 ShortestPaths List

namespace LinkStateDatabase

variable {area : LinkStateDatabase} {t : Tree} {u v : Vertex} {h : NextHop}

theorem mem_hopsToNetwork (n : NetworkLSA) : h ∈ area.hopsToNetwork n ↔ area.FirstHop [.network n] h := by
  unfold hopsToNetwork
  constructor
  · intro hmem
    obtain ⟨intf, hintf, rfl⟩ := mem_map.mp hmem
    rw [mem_filter, decide_eq_true_eq] at hintf
    exact .toNetwork hintf.1 hintf.2
  · intro hfirst
    cases hfirst with
    | toNetwork hintf hon =>
      refine mem_map.mpr ⟨_, ?_, rfl⟩
      rw [mem_filter, decide_eq_true_eq]
      exact ⟨hintf, hon⟩

theorem mem_hopsOver {n : NetworkLSA} {r : RouterLSA} (hback : hasLink (.router r) (.network n)) (p : List Vertex) :
    h ∈ area.hopsOver n r ↔ area.FirstHop (.network n :: .router r :: p) h := by
  unfold hopsOver
  constructor
  · intro hmem
    obtain ⟨link, -, hmem⟩ := mem_flatMap.mp hmem
    obtain ⟨intf, hintf, hhop⟩ := mem_filterMap.mp hmem
    exact .overNetwork hintf hhop
  · intro hfirst
    cases hfirst with
    | overNetwork hintf hhop =>
      obtain ⟨link, hlink, hattached⟩ := hback
      refine mem_flatMap.mpr ⟨link, ?_, mem_filterMap.mpr ⟨_, hintf, hhop⟩⟩
      rw [mem_filter, decide_eq_true_eq]
      exact ⟨hlink, hattached⟩

variable {p order : List Vertex}

/-- The first hops of a path that goes further than to a network do not change behind that. -/
theorem takenHop_append (hne : p ≠ []) (hnet : ∀ n, p ≠ [.network n]) (v : Vertex) :
    area.TakenHop (p ++ [v]) h ↔ area.TakenHop p h := by
  cases p with
  | nil => exact absurd rfl hne
  | cons y p =>
    cases y with
    | router r => exact Iff.rfl
    | network n =>
      cases p with
      | nil => exact absurd rfl (hnet n)
      | cons y p =>
        constructor
        · intro hf
          cases hf with
          | overNetwork hintf hhop => exact .overNetwork hintf hhop
        · intro hf
          cases hf with
          | overNetwork hintf hhop => exact .overNetwork hintf hhop

theorem DirectPath.shortest (hp : area.DirectPath v p) : area.graph.ShortestPath area.root v p := by
  induction hp with
  | first h => exact .first h
  | snoc hp h hdirect ih => exact .snoc ih h

theorem mem_targets_of_tight (htight : area.Tight u v) : v ∈ area.targets u := by
  obtain ⟨c, d, he, -⟩ := htight
  exact mem_map.mpr ⟨(v, c), area.edge_iff.mp he.2, rfl⟩

/-- The path to a vertex that the root has no link to, or to a router, goes further than to a network. -/
theorem DirectPath.goes_on (hp : area.DirectPath v p)
    (hv : ∀ n, v = .network n → v ∉ area.targets area.root) : ∀ n, p ≠ [.network n] := by
  rintro n rfl
  have hlast := Option.some.inj hp.shortest.getLast?_eq
  apply hv n hlast.symm
  generalize hq : [Vertex.network n] = q at hp
  cases hp with
  | first htight => exact mem_targets_of_tight htight
  | snoc hp htight hdirect =>
    have hlength := congrArg length hq
    rw [length_append, length_singleton, length_singleton] at hlength
    exact absurd (length_eq_zero_iff.mp (by omega)) hp.shortest.ne_nil

/-- What is known when all candidates have been entered. -/
structure Complete (area : LinkStateDatabase) (t : Tree) : Prop where
  enters : area.Enters t.treeVertices
  known : ∀ v ∈ t.treeVertices, v ∈ area.vertices
  reachable : ∀ v, v ∈ t.treeVertices ↔ ∃ d, area.graph.Path area.root v d
  distance : ∀ v ∈ t.treeVertices, area.Dist v (t.info v).distance
  parent : ∀ v ∈ t.treeVertices, v ≠ area.root →
    ∃ u, area.firstLink t.treeVertices v = some u ∧ (t.info v).parent = some u
  nextHops : ∀ v ∈ t.treeVertices, v ≠ area.root → ∀ h, h ∈ (t.info v).nextHops ↔
    ∃ u, area.Tight u v ∧ h ∈ area.calculateNextHops t.info v u

theorem Settled.complete {x : Vertex} (hs : Settled area order x t) (hcand : t.candidateVertices = []) :
    Complete area t := by
  have hexploring := hs.exploring
  rw [hcand] at hexploring
  have hreach : ∀ v, v ∈ t.treeVertices ↔ ∃ d, area.graph.Path area.root v d := by
    intro v
    constructor
    · intro hv
      exact ⟨_, (hexploring.tree_dist v hv).1⟩
    · rintro ⟨d, hp⟩
      exact hexploring.complete hp
  constructor
  · exact hs.known.enters
  · exact hs.known.known
  · exact hreach
  · exact hexploring.tree_dist
  · intro v hv hne
    exact hs.known.parent v (Or.inl hv) hne
  · intro v hv hne h
    rw [hs.known.nextHops v (Or.inl hv) hne]
    constructor
    · rintro ⟨u, hu, c, he, -, hd, hh⟩
      refine ⟨u, ⟨c, _, he, hexploring.tree_dist u hu, ?_⟩, hh⟩
      rw [hd]
      exact hexploring.tree_dist v hv
    · rintro ⟨u, ⟨c, d, he, hu, hvd⟩, hh⟩
      have hut : u ∈ t.treeVertices := (hreach u).mpr ⟨d, hu.1⟩
      refine ⟨u, hut, c, he, fun hux => area.edge_iff.mp (hux ▸ he.2), ?_, hh⟩
      rw [(hexploring.tree_dist u hut).unique hu]
      exact ((hexploring.tree_dist v hv).unique hvd).symm

section

variable (hc : Complete area t)
include hc

theorem Complete.mem_of_tight (htight : area.Tight u v) : u ∈ t.treeVertices ∧ v ∈ t.treeVertices ∧ v ≠ area.root := by
  have hroot : v ≠ area.root := by
    rintro rfl
    exact Graph.not_tight_root htight
  obtain ⟨c, d, he, hu, hv⟩ := htight
  exact ⟨(hc.reachable u).mpr ⟨d, hu.1⟩, (hc.reachable v).mpr ⟨_, hv.1⟩, hroot⟩

/-- The first link in an order of entering is the first one in the order of the tree. -/
theorem Complete.firstLink_eq (horder : area.Enters order) (hu : area.firstLink order v = some u) :
    area.firstLink t.treeVertices v = some u := by
  have hprefix : order <+: t.treeVertices := by
    by_cases hle : order.length ≤ t.treeVertices.length
    · exact horder.isPrefix hc.enters hle
    · -- nothing enters behind all that can be reached
      obtain ⟨rest, rfl⟩ := hc.enters.isPrefix horder (by omega)
      cases rest with
      | nil => simp
      | cons w rest =>
        have hnext := horder.next_of hc.enters.ne_nil
        obtain ⟨d, hd, -⟩ := hnext.first
        exact absurd ((hc.reachable w).mpr ⟨d, hd.1⟩) hnext.fresh
  obtain ⟨rest, hrest⟩ := hprefix
  rw [firstLink] at hu ⊢
  rw [← hrest, find?_append, hu]
  rfl

/-- A vertex has the root as its parent exactly where the root has a link to it. -/
theorem Complete.root_parent (hv : v ∈ t.treeVertices) (hne : v ≠ area.root) :
    (t.info v).parent = some area.root ↔ v ∈ area.targets area.root := by
  obtain ⟨u, hu, hparent⟩ := hc.parent v hv hne
  rw [hparent, ← hu]
  constructor
  · intro hfind
    exact (firstLink_some hfind).2
  · intro hlink
    obtain ⟨rest, hrest⟩ := hc.enters.head
    rw [firstLink, hrest]
    exact find?_cons_of_pos (decide_eq_true hlink)

theorem Complete.mem_of_shortestPath (hp : area.graph.ShortestPath area.root v p) : v ∈ t.treeVertices := by
  cases hp with
  | first h => exact (hc.mem_of_tight h).2.1
  | snoc hp h => exact (hc.mem_of_tight h).2.1

/-- A link of a vertex of the tree leads to a vertex of the tree. -/
theorem Complete.mem_of_firstLink (hu : area.firstLink t.treeVertices v = some u) : v ∈ t.treeVertices := by
  obtain ⟨hmem, hlink⟩ := firstLink_some hu
  obtain ⟨d, hp⟩ := (hc.reachable u).mp hmem
  obtain ⟨y, hy, rfl⟩ := mem_map.mp hlink
  exact (hc.reachable y.1).mpr ⟨_, hp.snoc ⟨hc.known u hmem, area.edge_iff.mpr hy⟩⟩

end

/-- A router hands its next hops on to the next vertex. -/
theorem nextHop_of_router {r : RouterLSA} (hne : Vertex.router r ≠ area.root) :
    area.calculateNextHops t.info v (.router r) = (t.info (.router r)).nextHops := by
  exact if_pos fun hr => hne (congrArg Vertex.router hr)

/-- A network that the root has no link to hands its next hops on, any other is gone over. -/
theorem Complete.nextHop_of_network (hc : Complete area t) {n : NetworkLSA} (htight : area.Tight (.network n) v) :
    (.network n ∈ area.targets area.root ∧ ∃ r, v = .router r ∧ area.calculateNextHops t.info v (.network n) =
      area.hopsOver n r ∧ hasLink (.router r) (.network n)) ∨
    (.network n ∉ area.targets area.root ∧
      area.calculateNextHops t.info v (.network n) = (t.info (.network n)).nextHops) := by
  have hroot := hc.root_parent (hc.mem_of_tight htight).1 fun he => nomatch he
  unfold calculateNextHops
  dsimp only
  by_cases hlink : Vertex.network n ∈ area.targets area.root
  · left
    rw [if_neg fun hn => hn (hroot.mpr hlink)]
    obtain ⟨c, d, he, -⟩ := htight
    cases he.2 with
    | attached hid hfind hage hback => exact ⟨hlink, _, rfl, rfl, hback⟩
  · exact .inr ⟨hlink, if_pos (mt hroot.mp hlink)⟩

theorem mem_hopsOfRoot : h ∈ area.calculateNextHops t.info v area.root ↔ area.TakenHop [v] h := by
  unfold calculateNextHops root
  dsimp only
  rw [if_neg fun hr => hr rfl]
  cases v with
  | router r => exact Iff.rfl
  | network n => exact mem_hopsToNetwork n

/-- What the root, or a vertex on a direct path, adds to the next hops. -/
theorem Complete.takenHop (hc : Complete area t) (hp : area.DirectPath v p) (hh : area.TakenHop p h) :
    h ∈ (t.info v).nextHops := by
  induction hp with
  | first htight =>
    obtain ⟨-, hv, hne⟩ := hc.mem_of_tight htight
    exact (hc.nextHops _ hv hne h).mpr ⟨area.root, htight, mem_hopsOfRoot.mpr hh⟩
  | snoc hp htight hdirect ih =>
    rename_i u v p
    obtain ⟨hu, hv, hne⟩ := hc.mem_of_tight htight
    refine (hc.nextHops v hv hne h).mpr ⟨u, htight, ?_⟩
    cases u with
    | router r =>
      rw [nextHop_of_router hp.shortest.ne_root]
      exact ih ((takenHop_append hp.shortest.ne_nil (hp.goes_on fun n he => nomatch he) v).mp hh)
    | network n =>
      obtain ⟨hlink, r, rfl, heq, hback⟩ | ⟨hlink, heq⟩ := hc.nextHop_of_network htight
      · rw [heq]
        rw [hdirect n rfl hlink] at hh
        exact (mem_hopsOver hback []).mpr hh
      · rw [heq]
        exact ih ((takenHop_append hp.shortest.ne_nil (hp.goes_on fun _ _ => hlink) v).mp hh)

/-- Where the first links belong to shortest paths, the next hops are those of the direct paths. -/
theorem Complete.nextHops_iff (hc : Complete area t)
    (hparent : ∀ order u v, area.Enters order → area.firstLink order v = some u → v ≠ area.root → area.Tight u v)
    (hv : v ∈ t.treeVertices) (hne : v ≠ area.root) :
    h ∈ (t.info v).nextHops ↔ ∃ p, area.DirectPath v p ∧ area.TakenHop p h := by
  constructor
  · intro hh
    generalize hm : 2 * (t.info v).distance + v.rank = m
    induction m using Nat.strong_induction_on generalizing v with
    | _ m ih =>
      obtain ⟨u, htight, hu⟩ := (hc.nextHops v hv hne h).mp hh
      obtain ⟨hut, -, -⟩ := hc.mem_of_tight htight
      have hless : 2 * (t.info u).distance + u.rank < m := by
        have hbefore := htight.before (hc.distance u hut) (hc.distance v hv)
        have hur := rank_le u
        rcases hbefore with hlt | ⟨heq, hlt⟩
        · omega
        · have hlt' : u.rank < v.rank := hlt
          omega
      cases u with
      | router r =>
        by_cases hroot : Vertex.router r = area.root
        · rw [hroot] at htight hu
          exact ⟨[v], .first htight, mem_hopsOfRoot.mp hu⟩
        · rw [nextHop_of_router hroot] at hu
          obtain ⟨p, hp, hf⟩ := ih _ hless hut hroot hu rfl
          exact ⟨p ++ [v], .snoc hp htight (fun n he => nomatch he),
            (takenHop_append hp.shortest.ne_nil (hp.goes_on fun n he => nomatch he) v).mpr hf⟩
      | network n =>
        have hnroot : Vertex.network n ≠ area.root := fun he => nomatch he
        obtain ⟨hlink, r, rfl, heq, hback⟩ | ⟨hlink, heq⟩ := hc.nextHop_of_network htight
        · -- the root's own link is the first one
          have hfirst : area.Tight area.root (.network n) := by
            obtain ⟨w, hw, hwparent⟩ := hc.parent _ hut hnroot
            rw [(hc.root_parent hut hnroot).mpr hlink, Option.some.injEq] at hwparent
            subst hwparent
            exact hparent _ _ _ hc.enters hw hnroot
          rw [heq] at hu
          have hhop : area.TakenHop ([.network n] ++ [.router r]) h := (mem_hopsOver hback []).mp hu
          exact ⟨_, .snoc (.first hfirst) htight fun _ _ _ => rfl, hhop⟩
        · rw [heq] at hu
          obtain ⟨p, hp, hf⟩ := ih _ hless hut hnroot hu rfl
          exact ⟨p ++ [v], .snoc hp htight fun _ _ hmem => absurd hmem hlink,
            (takenHop_append hp.shortest.ne_nil (hp.goes_on fun _ _ => hlink) v).mpr hf⟩
  · rintro ⟨p, hp, hh⟩
    exact hc.takenHop hp hh

theorem initial_known (area : LinkStateDatabase) (info : Vertex → RoutingInfo) :
    Known area [] area.root [] {
      info := fun v => if v = area.root then { info v with nextHops := [], distance := 0 } else { info v with nextHops := [] }
      treeVertices := [area.root]
      candidateVertices := [] } := by
  have hroot : ∀ v, v ∈ [area.root] ∨ v ∈ ([] : List Vertex) → v ≠ area.root → False := by
    rintro v (hv | hv) hne
    · exact hne (mem_singleton.mp hv)
    · cases hv
  constructor
  · rfl
  · exact .root
  · exact ⟨by simp, by simp [reached], Pairwise.nil⟩
  · have hinit := Exploring.initial (G := area.graph) (s := area.root)
      (fun v => (if v = area.root then { info v with nextHops := [], distance := 0 }
        else { info v with nextHops := [] } : RoutingInfo).distance) (by simp)
    exact { hinit with
      cand_least := fun u hu v c he hp => hinit.cand_least u hu v c he fun hux => absurd (hp hux) (by simp) }
  · intro v hv
    rw [mem_singleton.mp hv]
    exact root_mem_vertices
  · exact fun v hv hne => (hroot v hv hne).elim
  · exact fun v hv hne => (hroot v hv hne).elim
  · intro v hv _
    have hne : v ≠ area.root := fun he => hv (mem_singleton.mpr he)
    dsimp only
    rw [if_neg hne]

def routerOf (id : RouterID) (links : List Link) : RouterLSA where
  header := { linkStateID := id, advertisingRouter := id }
  contents := { links }

def networkOf (id : IPv4Address) (attachedRouters : List IPv4Address) : NetworkLSA where
  header := { lsType := .NETWORKLSA_TYPE, linkStateID := id }
  contents := { attachedRouters }

/-- Two routers, with a link of cost 5 each way. -/
def twoRouters : LinkStateDatabase where
  routerLSAs := [routerOf 1 [{ linkID := 2, linkCost := 5 }], routerOf 2 [{ linkID := 1, linkCost := 5 }]]
  networkLSAs := []
  associatedInterfaces := [{ type := .POINTTOPOINT, ifIndex := 100, neighboringRouters := [⟨2, 20⟩] }]
  spfTreeRoot := routerOf 1 [{ linkID := 2, linkCost := 5 }]
  root_mem := by decide
  routerLSAsByID := by decide
  networkLSAsByID := by decide
  linkCost_pos := by decide

/-- The router at the other end. -/
def farRouter : RouterLSA := routerOf 2 [{ linkID := 1, linkCost := 5 }]

theorem twoRouters_edge {u v : Vertex} {c : Nat} (h : twoRouters.graph.edge u v c) :
    u = twoRouters.root ∧ v = .router farRouter ∧ c = 5 ∨ v = twoRouters.root := by
  obtain ⟨hu, he⟩ := h
  have hlinks : ∀ u ∈ twoRouters.vertices, ∀ y ∈ twoRouters.usableLinks u, u = twoRouters.root ∧
      y.1 = .router farRouter ∧ y.2 = 5 ∨ y.1 = twoRouters.root := by decide
  exact hlinks u hu (v, c) (twoRouters.edge_iff.mp he)

theorem twoRouters_path {v : Vertex} {d : Nat} (hp : twoRouters.graph.Path twoRouters.root v d) :
    v = twoRouters.root ∨ v = .router farRouter ∧ 5 ≤ d := by
  cases hp with
  | root => exact .inl rfl
  | snoc hp he =>
    rcases twoRouters_edge he with ⟨-, rfl, rfl⟩ | rfl
    · exact .inr ⟨rfl, Nat.le_add_left _ _⟩
    · exact .inl rfl

theorem twoRouters_dist : twoRouters.Dist (.router farRouter) (0 + 5) := by
  refine ⟨.snoc .root ⟨by decide, twoRouters.edge_iff.mpr (by decide)⟩, fun d hp => ?_⟩
  rcases twoRouters_path hp with he | ⟨-, hd⟩
  · exact absurd he (by decide)
  · omega

theorem twoRouters_near {v : Vertex} {d : Nat} (hd : twoRouters.Dist v d) : d < LS_INFINITY := by
  rcases twoRouters_path hd.1 with rfl | ⟨rfl, -⟩
  · rw [hd.unique Graph.dist_root]
    decide
  · rw [hd.unique twoRouters_dist]
    decide

theorem twoRouters_tight : twoRouters.Tight twoRouters.root (.router farRouter) :=
  ⟨5, 0, ⟨by decide, twoRouters.edge_iff.mpr (by decide)⟩, Graph.dist_root, twoRouters_dist⟩

theorem twoRouters_shortestPath {v : Vertex}
    (hp : twoRouters.graph.ShortestPath twoRouters.root v p) :
    v = .router farRouter ∧ p = [v] := by
  have hne := hp.ne_root
  cases hp with
  | first htight =>
    obtain ⟨c, d, he, -⟩ := htight
    obtain ⟨-, hv, -⟩ := (twoRouters_edge he).resolve_right hne
    exact ⟨hv, rfl⟩
  | snoc hp htight =>
    obtain ⟨c, d, he, -⟩ := htight
    obtain ⟨hu, -, -⟩ := (twoRouters_edge he).resolve_right hne
    exact absurd hu hp.ne_root

theorem twoRouters_firstHop {h : NextHop} :
    twoRouters.TakenHop (.router farRouter :: p) h ↔
      twoRouters.FirstHop (.router farRouter :: p) h := by
  have hone : ∀ intf ∈ twoRouters.associatedInterfaces,
      twoRouters.BestInterface intf farRouter ∧
      intf.hopsTo twoRouters.spfTreeRoot.header.linkStateID farRouter =
        some (twoRouters.hopsToRouter farRouter) := by
    unfold BestInterface
    decide
  constructor
  · intro hh
    obtain ⟨hbest, hhops⟩ := hone _ mem_cons_self
    exact .toRouter mem_cons_self hbest hhops hh
  · intro hfirst
    cases hfirst with
    | toRouter hintf hbest hhops hh =>
      rw [(hone _ hintf).2, Option.some.injEq] at hhops
      subst hhops
      exact hh

theorem twoRouters_regular : twoRouters.Regular := by
  constructor
  · intro order u v horder hu hne
    obtain ⟨hmem, hlink⟩ := firstLink_some hu
    obtain ⟨d, hp⟩ := horder.path u hmem
    have hvertex : u ∈ twoRouters.vertices := by
      rcases twoRouters_path hp with rfl | ⟨rfl, -⟩
      · decide
      · decide
    obtain ⟨y, hy, rfl⟩ := mem_map.mp hlink
    rcases twoRouters_edge ⟨hvertex, twoRouters.edge_iff.mpr hy⟩ with ⟨rfl, hv, -⟩ | hv
    · rw [hv]
      exact twoRouters_tight
    · exact absurd hv hne
  · intro v h
    constructor
    · rintro ⟨p, hp, hh⟩
      obtain ⟨rfl, rfl⟩ := twoRouters_shortestPath hp.shortest
      exact ⟨_, hp.shortest, twoRouters_firstHop.mp hh⟩
    · rintro ⟨p, hp, hh⟩
      obtain ⟨rfl, rfl⟩ := twoRouters_shortestPath hp
      exact ⟨_, .first twoRouters_tight, twoRouters_firstHop.mpr hh⟩

/-- The root reaches the network 9 at cost 10, and at cost 2 over the router 2. The router 3 is behind it. -/
def detour : LinkStateDatabase where
  routerLSAs := [routerOf 1 [{ type := .TRANSIT_LINK, linkID := 9, linkCost := 10 }, { linkID := 2 }],
    routerOf 2 [{ linkID := 1 }, { type := .TRANSIT_LINK, linkID := 9 }],
    routerOf 3 [{ type := .TRANSIT_LINK, linkID := 9 }]]
  networkLSAs := [networkOf 9 [1, 2, 3]]
  associatedInterfaces := [{ type := .BROADCAST, ifIndex := 100, designatedRouter := 9, neighboringRouters := [⟨3, 30⟩] },
    { type := .POINTTOPOINT, ifIndex := 101, neighboringRouters := [⟨2, 20⟩] }]
  spfTreeRoot := routerOf 1 [{ type := .TRANSIT_LINK, linkID := 9, linkCost := 10 }, { linkID := 2 }]
  root_mem := by decide
  routerLSAsByID := by decide
  networkLSAsByID := by decide
  linkCost_pos := by decide

end LinkStateDatabase

end Inet.Ospf
