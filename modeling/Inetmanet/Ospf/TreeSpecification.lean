import Inetmanet.Lib.ShortestPaths
import Inetmanet.Ospf.ShortestPathTree

/-!
# What a shortest-path tree is

The links of an area, its shortest paths, and the first hops of a path. Parallel
interfaces to a router are told apart by their cost, which the calculation does not
look at.
-/
namespace Inet.Ospf

open Ipv4 ShortestPaths Option List

namespace LinkStateDatabase

variable (area : LinkStateDatabase)

/-- A link of a vertex to an LSA that is not at `MAX_AGE` and has a link back. -/
inductive Edge : Vertex → Vertex → Nat → Prop
  | toNetwork {r : RouterLSA} {n : NetworkLSA} {link : Link} (hlink : link ∈ r.contents.links)
      (htype : link.type = .TRANSIT_LINK) (hfind : area.findNetworkLSA link.linkID = some n)
      (hage : n.header.lsAge ≠ MAX_AGE) (hback : hasLink (.network n) (.router r)) :
      Edge (.router r) (.network n) link.linkCost
  | toRouter {r r' : RouterLSA} {link : Link} (hlink : link ∈ r.contents.links)
      (htype : link.type = .POINTTOPOINT_LINK ∨ link.type = .VIRTUAL_LINK)
      (hfind : area.findRouterLSA link.linkID = some r') (hage : r'.header.lsAge ≠ MAX_AGE)
      (hback : hasLink (.router r') (.router r)) : Edge (.router r) (.router r') link.linkCost
  | attached {n : NetworkLSA} {r : RouterLSA} {id : IPv4Address} (hid : id ∈ n.contents.attachedRouters)
      (hfind : area.findRouterLSA id = some r) (hage : r.header.lsAge ≠ MAX_AGE)
      (hback : hasLink (.router r) (.network n)) : Edge (.network n) (.router r) 0

theorem edge_iff {u v : Vertex} {c : Nat} : area.Edge u v c ↔ (v, c) ∈ area.usableLinks u := by
  unfold usableLinks
  rw [mem_filter, decide_eq_true_eq]
  constructor
  · intro h
    cases h with
    | toNetwork hlink htype hfind hage hback =>
      refine ⟨mem_filterMap.mpr ⟨_, hlink, ?_⟩, hage, hback⟩
      simp [joiningVertex, htype, hfind]
    | toRouter hlink htype hfind hage hback =>
      refine ⟨mem_filterMap.mpr ⟨_, hlink, ?_⟩, hage, hback⟩
      rcases htype with htype | htype
      · simp [joiningVertex, htype, hfind]
      · simp [joiningVertex, htype, hfind]
    | attached hid hfind hage hback =>
      refine ⟨mem_filterMap.mpr ⟨_, hid, ?_⟩, hage, hback⟩
      simp [hfind]
  · rintro ⟨hjoin, hage, hback⟩
    cases u with
    | router r =>
      obtain ⟨link, hlink, hv⟩ := mem_filterMap.mp hjoin
      obtain ⟨w, hw, hwv⟩ := map_eq_some_iff.mp hv
      cases hwv
      unfold joiningVertex at hw
      split at hw
      · cases hw
      · next htype =>
        obtain ⟨n, hfind, rfl⟩ := map_eq_some_iff.mp hw
        exact Edge.toNetwork hlink htype hfind hage hback
      · next hstub htransit =>
        obtain ⟨r', hfind, rfl⟩ := map_eq_some_iff.mp hw
        refine Edge.toRouter hlink ?_ hfind hage hback
        cases htype : link.type with
        | POINTTOPOINT_LINK => exact .inl rfl
        | VIRTUAL_LINK => exact .inr rfl
        | STUB_LINK => exact absurd htype hstub
        | TRANSIT_LINK => exact absurd htype htransit
    | network n =>
      obtain ⟨id, hid, hv⟩ := mem_filterMap.mp hjoin
      obtain ⟨r, hfind, hrv⟩ := map_eq_some_iff.mp hv
      cases hrv
      exact Edge.attached hid hfind hage hback

/-- The vertices of the area are the LSAs that are found by their id. -/
def vertices : List Vertex := area.routerLSAs.map .router ++ area.networkLSAs.map .network

theorem edge_target {u v : Vertex} {c : Nat} (h : area.Edge u v c) : v ∈ area.vertices := by
  unfold vertices
  cases h with
  | toNetwork hlink htype hfind hage hback =>
    exact mem_append_right _ (mem_map_of_mem (mem_of_find?_eq_some hfind))
  | toRouter hlink htype hfind hage hback =>
    exact mem_append_left _ (mem_map_of_mem (mem_of_find?_eq_some hfind))
  | attached hid hfind hage hback =>
    exact mem_append_left _ (mem_map_of_mem (mem_of_find?_eq_some hfind))

end LinkStateDatabase

/-- Networks come before routers that are as near. -/
def Vertex.rank : Vertex → Nat
  | .network _ => 0
  | .router _ => 1

namespace LinkStateDatabase

variable (area : LinkStateDatabase)

/-- The links between the vertices of the area. Only those of a network cost nothing. -/
def graph : Graph Vertex where
  edge u v c := u ∈ area.vertices ∧ area.Edge u v c
  rank := Vertex.rank
  climbs := by
    rintro u v c ⟨hu, h⟩
    have hrouter : ∀ {r : RouterLSA} {link : Link}, .router r ∈ area.vertices → link ∈ r.contents.links → 0 < link.linkCost := by
      intro r link hr hlink
      rcases mem_append.mp hr with hr | hr
      · obtain ⟨r', hr', he⟩ := mem_map.mp hr
        cases he
        exact area.linkCost_pos r hr' link hlink
      · obtain ⟨n, -, he⟩ := mem_map.mp hr
        cases he
    cases h with
    | toNetwork hlink htype hfind hage hback => exact .inl (hrouter hu hlink)
    | toRouter hlink htype hfind hage hback => exact .inl (hrouter hu hlink)
    | attached hid hfind hage hback => exact .inr Nat.zero_lt_one

/-- The cost of a cheapest path from the root. -/
abbrev Dist (v : Vertex) (d : Nat) : Prop := area.graph.Dist area.root v d

/-- The link is the last one of a shortest path. -/
abbrev Tight (u v : Vertex) : Prop := area.graph.Tight area.root u v

/-- The root's interface leads to the router, and none leads there that costs less. -/
def BestInterface (intf : AttachedInterface) (r : RouterLSA) : Prop :=
  (intf.hopsTo area.spfTreeRoot.header.linkStateID r).isSome = true ∧ ∀ intf' ∈ area.associatedInterfaces,
    (intf'.hopsTo area.spfTreeRoot.header.linkStateID r).isSome = true → intf.outputCost ≤ intf'.outputCost

/-- The first hops of a path, given by its vertices behind the root. -/
inductive FirstHop : List Vertex → NextHop → Prop
  | toRouter {r : RouterLSA} {p : List Vertex} {intf : AttachedInterface} {hops : List NextHop} {h : NextHop}
      (hintf : intf ∈ area.associatedInterfaces) (hbest : area.BestInterface intf r)
      (hhops : intf.hopsTo area.spfTreeRoot.header.linkStateID r = some hops) (hh : h ∈ hops) : FirstHop (.router r :: p) h
  | toNetwork {n : NetworkLSA} {intf : AttachedInterface} (hintf : intf ∈ area.associatedInterfaces)
      (hon : intf.onNetwork n.header.linkStateID) : FirstHop [.network n] ⟨intf.ifIndex, 0, n.header.advertisingRouter⟩
  | overNetwork {n : NetworkLSA} {r : RouterLSA} {p : List Vertex} {intf : AttachedInterface} {h : NextHop}
      (hintf : intf ∈ area.associatedInterfaces) (hhop : intf.hopOver n r = some h) :
      FirstHop (.network n :: .router r :: p) h

/-- What the calculation promises. -/
structure ShortestPathTree (t : Tree) : Prop where
  once : t.treeVertices.Nodup
  reachable : ∀ v, v ∈ t.treeVertices ↔ ∃ d, area.graph.Path area.root v d
  distance : ∀ v ∈ t.treeVertices, area.Dist v (t.info v).distance
  parent : ∀ v ∈ t.treeVertices, v ≠ area.root → ∃ u, (t.info v).parent = some u ∧ area.Tight u v
  nextHops : ∀ v ∈ t.treeVertices, v ≠ area.root → ∀ h, h ∈ (t.info v).nextHops ↔
    ∃ p, area.graph.ShortestPath area.root v p ∧ area.FirstHop p h

/-- Where the links of a vertex lead. -/
def targets (u : Vertex) : List Vertex := (area.usableLinks u).map Prod.fst

/-- The vertices in the order of their distances, at one distance networks first, and else as they are reached. -/
abbrev Enters (order : List Vertex) : Prop := area.graph.Enters area.root area.targets order

/-- The first of the vertices that has a link to `v`. -/
def firstLink (order : List Vertex) (v : Vertex) : Option Vertex := order.find? fun u => v ∈ area.targets u

variable {area} in
theorem firstLink_some {order : List Vertex} {u v : Vertex} (h : area.firstLink order v = some u) :
    u ∈ order ∧ v ∈ area.targets u := by
  have hlink := find?_some h
  exact ⟨mem_of_find?_eq_some h, of_decide_eq_true hlink⟩

/-- A shortest path that does not go on behind a network of the root which it came to on a detour. -/
inductive DirectPath : Vertex → List Vertex → Prop
  | first {v : Vertex} (h : area.Tight area.root v) : DirectPath v [v]
  | snoc {u v : Vertex} {p : List Vertex} (hp : DirectPath u p) (h : area.Tight u v)
      (hdirect : ∀ n, u = .network n → u ∈ area.targets area.root → p = [u]) : DirectPath v (p ++ [v])

/-- The first hops, where a router is reached by the first interface that leads there. -/
def TakenHop : List Vertex → NextHop → Prop
  | .router r :: _, h => h ∈ area.hopsToRouter r
  | p, h => area.FirstHop p h

/-- The areas in which the first link to a vertex belongs to a shortest path, and the direct paths and the first interfaces
give the first hops of all shortest paths. -/
structure Regular : Prop where
  parent : ∀ order u v, area.Enters order → area.firstLink order v = some u → v ≠ area.root → area.Tight u v
  nextHops : ∀ v h, (∃ p, area.DirectPath v p ∧ area.TakenHop p h) ↔
    ∃ p, area.graph.ShortestPath area.root v p ∧ area.FirstHop p h

end LinkStateDatabase

end Inet.Ospf
