import Inetmanet.Lib.Succeeds
import Inetmanet.Ted.ShortestPathTree

/-!
# Routes along shortest paths

When the routes that `rebuildRoutingTable` makes lead along shortest paths. A neighbour
gets a route over each link to it, whether or not the link is up or the shortest way,
and so does all that lies behind it.
-/
namespace Inet.Ted

open List
open Inet.Ipv4 (IPv4Address)
open BellmanFord (Edge Label Path Tree)

/-- The links that are up. -/
def upEdges (ted : List TELinkStateInfo) : List (Edge IPv4Address) :=
  (ted.filter (·.state)).map fun link => ⟨link.advrouter, link.linkid, link.metric⟩

/-- `h` is the first node behind the router on a shortest path to `v`. -/
def FirstHop (edges : List (Edge IPv4Address)) (routerId v h : IPv4Address) : Prop :=
  ∃ front p d, front ++ [h, routerId] = v :: p ∧ Path edges routerId (v :: p) d ∧ ∀ q e, Path edges routerId (v :: q) e → d ≤ e

namespace Route

variable (r : Route)

/-- The node that gets the packets; without a gateway, the destination itself. -/
def hop : IPv4Address := if r.gateway = 0 then r.destination else r.gateway

end Route

namespace TED

variable (t : TED)

/-- What `initializeTED` and the reservations see to. -/
structure WellFormed : Prop where
  noLoops : NoLoops t.ted
  unicast : ∀ e ∈ t.ted, e.linkid ≠ 0 ∧ isMulticast e.linkid = false
  bandwidth : ∀ e ∈ t.ted, 0 ≤ e.UnResvBandwidth.get 7
  own : ∀ e ∈ t.ted, e.advrouter = t.routerId → e.localAddr ∈ t.interfaceAddrs
  unique : ∀ e ∈ t.ted, ∀ e' ∈ t.ted, e.advrouter = t.routerId → e'.advrouter = t.routerId → e.localAddr = e'.localAddr → e = e'

structure RightRoutes (routes : List Route) : Prop where
  reached : ∀ v p d, v ≠ t.routerId → Path (upEdges t.ted) t.routerId (v :: p) d → ∃ r ∈ routes, r.destination = v
  hop : ∀ r ∈ routes, isMulticast r.destination = false → FirstHop (upEdges t.ted) t.routerId r.destination r.hop
  unreachable : ∀ v, (∀ p d, ¬ Path (upEdges t.ted) t.routerId (v :: p) d) → isMulticast v = false → ∀ r ∈ routes, r.destination ≠ v
  up : ∀ r ∈ routes, isMulticast r.destination = false →
    ∀ e ∈ t.ted, e.advrouter = t.routerId → e.localAddr = r.interface → e.state = true

/-- The links of the router are up, and to each neighbour one of them is a shortest path. -/
structure DirectLinksShortest : Prop where
  linked : ∀ a ∈ t.interfaceAddrs, ∃ e ∈ t.ted, e.advrouter = t.routerId ∧ e.localAddr = a
  up : ∀ e ∈ t.ted, e.advrouter = t.routerId → e.state = true
  shortest : ∀ e ∈ t.ted, e.advrouter = t.routerId → ∃ e' ∈ t.ted, e'.advrouter = t.routerId ∧ e'.linkid = e.linkid ∧
    ∀ q d, Path (upEdges t.ted) t.routerId (e.linkid :: q) d → e'.metric ≤ d
  finite : ∀ v, v ≠ t.routerId → t.isLocalPeer v = false → BelowInfinity (upEdges t.ted) t.routerId v

variable {t} {V : ShortestPaths} {v h : IPv4Address} {p : List IPv4Address} {d n : Nat} {e : TELinkStateInfo} {a : IPv4Address}
  {r : Route} {routes routes' : List Route}

theorem findPeer_some (hfind : t.findPeer v = some e) : e ∈ t.ted ∧ e.linkid = v ∧ e.advrouter = t.routerId :=
  ⟨mem_of_find?_eq_some hfind, of_decide_eq_true (find?_some hfind :)⟩

theorem isLocalPeer_iff : t.isLocalPeer v = true ↔ ∃ e ∈ t.ted, e.linkid = v ∧ e.advrouter = t.routerId := by
  unfold isLocalPeer findPeer
  rw [find?_isSome]
  constructor
  · rintro ⟨e, he, hpeer⟩
    exact ⟨e, he, of_decide_eq_true hpeer⟩
  · rintro ⟨e, he, hpeer⟩
    exact ⟨e, he, decide_eq_true hpeer⟩

theorem mem_upEdges {edge : Edge IPv4Address} :
    edge ∈ upEdges t.ted ↔ ∃ e ∈ t.ted, e.state = true ∧ edge = ⟨e.advrouter, e.linkid, e.metric⟩ := by
  unfold upEdges
  rw [mem_map]
  constructor
  · rintro ⟨e, he, rfl⟩
    rw [mem_filter] at he
    exact ⟨e, he.1, he.2, rfl⟩
  · rintro ⟨e, he, hstate, rfl⟩
    exact ⟨e, mem_filter.mpr ⟨he, hstate⟩, rfl⟩

/-- No bandwidth is asked for. -/
theorem WellFormed.upLinks_eq (hwf : t.WellFormed) : upLinks t.ted 0 7 = upEdges t.ted := by
  unfold upLinks upEdges
  congr 1
  apply filter_congr
  intro e he
  have hbandwidth := hwf.bandwidth e he
  cases e.state with
  | true => exact decide_eq_true ⟨rfl, hbandwidth⟩
  | false => exact decide_eq_false (fun hup => Bool.false_ne_true hup.1)

theorem WellFormed.calculated (hwf : t.WellFormed) :
    ∃ V, calculateShortestPaths t.routerId t.ted 0 7 = .ok V ∧ Calculated (upEdges t.ted) t.routerId V := by
  obtain ⟨V, hV, hcalc⟩ := calculateShortestPaths_ok t.routerId hwf.noLoops 0 7
  rw [hwf.upLinks_eq] at hcalc
  exact ⟨V, hV, hcalc⟩

/-- The first node of a path is a neighbour. -/
theorem isLocalPeer_of_direct {c : Nat} (he : ⟨t.routerId, v, c⟩ ∈ upEdges t.ted) : t.isLocalPeer v = true := by
  obtain ⟨e, hmem, -, heq⟩ := mem_upEdges.mp he
  obtain ⟨hadv, hid, -⟩ := Edge.mk.inj heq
  exact isLocalPeer_iff.mpr ⟨e, hmem, hid.symm, hadv.symm⟩

theorem nextHop_ok (hcalc : Calculated (upEdges t.ted) t.routerId V) (ht : Tree V.labels t.routerId (v :: p)) (hv : v ≠ t.routerId)
    (hn : p.length < n) : ∃ front h back, v :: p = front ++ h :: back ∧ t.nextHop V.labels n v = .ok h ∧ t.isLocalPeer h = true ∧
      Tree V.labels t.routerId (h :: back) := by
  generalize hvp : v :: p = vp at ht
  induction ht generalizing v p n with
  | source =>
    cases hvp
    exact absurd rfl hv
  | step hparent ht ih =>
    rename_i u w p'
    cases hvp
    cases n with
    | zero => cases hn
    | succ n =>
      rw [nextHop]
      by_cases hlocal : t.isLocalPeer w = true
      · rw [if_pos hlocal]
        exact ⟨[], w, u :: p', rfl, rfl, hlocal, Tree.step hparent ht⟩
      · rw [if_neg hlocal, hparent]
        have hu : u ≠ t.routerId := by
          intro hu
          subst hu
          obtain ⟨c, he, -⟩ := hcalc.shortest.tight hparent
          exact hlocal (isLocalPeer_of_direct he)
        obtain ⟨front, h, back, hsplit, hrun, hpeer, htree⟩ := ih hu (Nat.lt_of_succ_lt_succ hn) rfl
        exact ⟨w :: front, h, back, congrArg (w :: ·) hsplit, hrun, hpeer, htree⟩

theorem localRoute_ok (ha : t.localRoute a = .ok r) : ∃ e ∈ t.ted, e.advrouter = t.routerId ∧ e.localAddr = a ∧
    r = { destination := e.linkid, gateway := 0, interface := a } := by
  obtain ⟨destination, hdest, hr⟩ := bind_ok.mp ha
  unfold getPeerByLocalAddress at hdest
  split at hdest
  · rename_i it hit
    cases hdest
    cases hr
    obtain ⟨hadv, haddr⟩ := of_decide_eq_true (find?_some hit :)
    exact ⟨it, mem_of_find?_eq_some hit, hadv, haddr, rfl⟩
  · cases hdest

theorem localRoute_succeeds (he : e ∈ t.ted) (hadv : e.advrouter = t.routerId) : ∃ r, t.localRoute e.localAddr = .ok r := by
  have hfind : (t.ted.find? fun it => it.advrouter = t.routerId ∧ it.localAddr = e.localAddr).isSome := by
    rw [find?_isSome]
    exact ⟨e, he, decide_eq_true ⟨hadv, rfl⟩⟩
  obtain ⟨it, hit⟩ := Option.isSome_iff_exists.mp hfind
  unfold localRoute getPeerByLocalAddress
  rw [hit]
  exact ⟨_, rfl⟩

/-- The table after it has been rebuilt. -/
theorem rebuildRoutingTable_ok (hrebuild : t.rebuildRoutingTable routes = .ok routes') (hV : calculateShortestPaths t.routerId t.ted 0 7 = .ok V) :
    ∃ remote peers, routes' = routes.filter (isMulticast ·.destination) ++ remote ++ peers ∧
      (t.remoteVertices V).mapM (t.remoteRoute V) = .ok remote ∧ t.interfaceAddrs.mapM t.localRoute = .ok peers := by
  obtain ⟨V', hV', hrebuild⟩ := bind_ok.mp hrebuild
  cases hV.symm.trans hV'
  obtain ⟨remote, hremote, hrebuild⟩ := bind_ok.mp hrebuild
  obtain ⟨peers, hpeers, hrebuild⟩ := bind_ok.mp hrebuild
  cases hrebuild
  exact ⟨remote, peers, rfl, hremote, hpeers⟩

section Right

variable (hwf : t.WellFormed) (hdirect : t.DirectLinksShortest) (hcalc : Calculated (upEdges t.ted) t.routerId V)

include hdirect in
/-- A neighbour is the first node on a shortest path to itself. -/
theorem DirectLinksShortest.direct (he : e ∈ t.ted) (hadv : e.advrouter = t.routerId) :
    ∃ c, Path (upEdges t.ted) t.routerId [e.linkid, t.routerId] c ∧ ∀ q d, Path (upEdges t.ted) t.routerId (e.linkid :: q) d → c ≤ d := by
  obtain ⟨e', he', hadv', hid, hleast⟩ := hdirect.shortest e he hadv
  have hedge : ⟨t.routerId, e.linkid, e'.metric⟩ ∈ upEdges t.ted :=
    mem_upEdges.mpr ⟨e', he', hdirect.up e' he' hadv', by rw [hadv', hid]⟩
  exact ⟨e'.metric, Path.direct hedge, hleast⟩

include hwf hdirect hcalc in
theorem DirectLinksShortest.remoteRoute (hv : v ∈ t.remoteVertices V) :
    ∃ r, t.remoteRoute V v = .ok r ∧ r.destination = v ∧ FirstHop (upEdges t.ted) t.routerId v r.hop ∧
      ∃ e ∈ t.ted, e.advrouter = t.routerId ∧ e.localAddr = r.interface := by
  obtain ⟨-, hkeep⟩ := mem_filter.mp hv
  obtain ⟨hne, hparent, hremote⟩ := of_decide_eq_true hkeep
  obtain ⟨p, hp⟩ := hcalc.shortest.tree v ((hcalc.parent_iff hne).mp hparent)
  obtain ⟨front, h, back, hsplit, hrun, hpeer, htree⟩ := nextHop_ok hcalc hp hne (hcalc.tree_length hp)
  have hvh : v ≠ h := by
    intro heq
    rw [heq, hpeer] at hremote
    cases hremote
  obtain ⟨e, hfind⟩ := Option.isSome_iff_exists.mp (show (t.findPeer h).isSome = true from hpeer)
  obtain ⟨he, hid, hadv⟩ := findPeer_some hfind
  have hzero : h ≠ 0 := hid ▸ (hwf.unicast e he).1
  refine ⟨{ destination := v, gateway := h, interface := e.localAddr }, ?_, rfl, ?_, e, he, hadv, rfl⟩
  · unfold TED.remoteRoute getInterfaceAddrByPeerAddress
    rw [hrun]
    simp only [bind, Except.bind, hfind, if_neg hvh]
  · rw [Route.hop, if_neg hzero]
    obtain ⟨c, hc, hleast⟩ := hdirect.direct he hadv
    rw [hid] at hc hleast
    have htreePath := hcalc.shortest.tree_path htree
    have hpath := hcalc.shortest.tree_path hp
    rw [hsplit] at hpath
    obtain ⟨d', hd', hle⟩ := hpath.exchange htreePath hc (hleast _ _ htreePath) fun q e hq => hcalc.shortest.least h q e hq
    cases front with
    | nil => exact absurd (cons.inj hsplit).1 hvh
    | cons x front =>
      obtain ⟨rfl, -⟩ := cons.inj hsplit
      exact ⟨v :: front, _, d', rfl, hd', fun q e hq => Nat.le_trans hle (hcalc.shortest.least v q e hq)⟩

include hdirect in
theorem DirectLinksShortest.localRoute (hr : t.localRoute a = .ok r) :
    FirstHop (upEdges t.ted) t.routerId r.destination r.hop ∧ ∃ e ∈ t.ted, e.advrouter = t.routerId ∧ e.localAddr = r.interface := by
  obtain ⟨e, he, hadv, haddr, rfl⟩ := localRoute_ok hr
  obtain ⟨c, hc, hleast⟩ := hdirect.direct he hadv
  exact ⟨⟨[], [t.routerId], c, rfl, hc, hleast⟩, e, he, hadv, haddr⟩

include hwf hdirect in
/-- If the direct links are shortest, all routes are right. -/
theorem DirectLinksShortest.rightRoutes (routes : List Route) :
    ∃ routes', t.rebuildRoutingTable routes = .ok routes' ∧ t.RightRoutes routes' := by
  obtain ⟨V, hV, hcalc⟩ := hwf.calculated
  have hremotes : Succeeds ((t.remoteVertices V).mapM (t.remoteRoute V)) fun _ => True := by
    refine Succeeds.mapM (r := fun _ => True) ?_
    intro v hv
    obtain ⟨r, hr, -⟩ := hdirect.remoteRoute hwf hcalc hv
    exact ⟨r, hr, trivial⟩
  have hlocals : Succeeds (t.interfaceAddrs.mapM t.localRoute) fun _ => True := by
    refine Succeeds.mapM (r := fun _ => True) ?_
    intro a ha
    obtain ⟨e, he, hadv, haddr⟩ := hdirect.linked a ha
    obtain ⟨r, hr⟩ := localRoute_succeeds he hadv
    exact ⟨r, haddr ▸ hr, trivial⟩
  obtain ⟨remote, hremote, -⟩ := hremotes
  obtain ⟨peers, hpeers, -⟩ := hlocals
  have hall {r : Route} (hr : r ∈ routes.filter (isMulticast ·.destination) ++ remote ++ peers) (huni : isMulticast r.destination = false) :
      FirstHop (upEdges t.ted) t.routerId r.destination r.hop ∧ ∃ e ∈ t.ted, e.advrouter = t.routerId ∧ e.localAddr = r.interface := by
    rw [mem_append, mem_append, mem_filter] at hr
    obtain (hkept | hr) | hr := hr
    · rw [huni] at hkept
      cases hkept.2
    · obtain ⟨v, hv, hok⟩ := (Succeeds.mapM_ok hremote).2 r hr
      obtain ⟨r', hok', hdest, hhop, hlink⟩ := hdirect.remoteRoute hwf hcalc hv
      cases hok.symm.trans hok'
      exact ⟨hdest ▸ hhop, hlink⟩
    · obtain ⟨a, -, hok⟩ := (Succeeds.mapM_ok hpeers).2 r hr
      exact hdirect.localRoute hok
  refine ⟨routes.filter (isMulticast ·.destination) ++ remote ++ peers, ?_, ⟨?_, ?_, ?_, ?_⟩⟩
  · unfold rebuildRoutingTable
    rw [hV]
    simp only [bind, Except.bind, hremote, hpeers]
  · intro v p d hv hp
    by_cases hpeer : t.isLocalPeer v = true
    · obtain ⟨e, he, hid, hadv⟩ := isLocalPeer_iff.mp hpeer
      obtain ⟨r, hr, hok⟩ := (Succeeds.mapM_ok hpeers).1 e.localAddr (hwf.own e he hadv)
      obtain ⟨e', he', hadv', haddr', rfl⟩ := localRoute_ok hok
      have hsame : e' = e := hwf.unique e' he' e he hadv' hadv haddr'
      exact ⟨_, mem_append_right _ hr, hsame ▸ hid⟩
    · rw [Bool.not_eq_true] at hpeer
      obtain ⟨q, c, hq, hlt⟩ := hdirect.finite v hv hpeer p d hp
      have hparent := (hcalc.parent_iff hv).mpr (Nat.lt_of_le_of_lt (hcalc.shortest.least v q c hq) hlt)
      have hmem : v ∈ t.remoteVertices V := mem_filter.mpr ⟨hcalc.path_vertex hp, decide_eq_true ⟨hv, hparent, hpeer⟩⟩
      obtain ⟨r, hr, hok⟩ := (Succeeds.mapM_ok hremote).1 v hmem
      obtain ⟨r', hok', hdest, -⟩ := hdirect.remoteRoute hwf hcalc hmem
      cases hok.symm.trans hok'
      exact ⟨r, mem_append_left _ (mem_append_right _ hr), hdest⟩
  · intro r hr huni
    exact (hall hr huni).1
  · intro v hnone huni r hr hdest
    obtain ⟨front, p, d, -, hp, -⟩ := (hall hr (hdest ▸ huni)).1
    exact hnone p d (hdest ▸ hp)
  · intro r hr huni e he hadv _
    exact hdirect.up e he hadv

end Right

section Necessary

variable (hwf : t.WellFormed) (hrebuild : t.rebuildRoutingTable routes = .ok routes') (hright : t.RightRoutes routes')

include hrebuild in
/-- Each interface has got its route. -/
theorem interface_route (ha : a ∈ t.interfaceAddrs) (hV : calculateShortestPaths t.routerId t.ted 0 7 = .ok V) :
    ∃ e ∈ t.ted, e.advrouter = t.routerId ∧ e.localAddr = a ∧
      { destination := e.linkid, gateway := 0, interface := a : Route } ∈ routes' := by
  obtain ⟨remote, peers, hroutes, -, hpeers⟩ := rebuildRoutingTable_ok hrebuild hV
  obtain ⟨r, hr, hok⟩ := (Succeeds.mapM_ok hpeers).1 a ha
  obtain ⟨e, he, hadv, haddr, rfl⟩ := localRoute_ok hok
  exact ⟨e, he, hadv, haddr, hroutes ▸ mem_append_right _ hr⟩

include hwf hrebuild hright in
/-- If all routes are right, the direct links are shortest. -/
theorem RightRoutes.directLinksShortest : t.DirectLinksShortest := by
  obtain ⟨V, hV, hcalc⟩ := hwf.calculated
  have hown {e : TELinkStateInfo} (he : e ∈ t.ted) (hadv : e.advrouter = t.routerId) :
      { destination := e.linkid, gateway := 0, interface := e.localAddr : Route } ∈ routes' := by
    obtain ⟨e', he', hadv', haddr', hr⟩ := interface_route hrebuild (hwf.own e he hadv) hV
    rwa [hwf.unique e' he' e he hadv' hadv haddr'] at hr
  constructor
  · intro a ha
    obtain ⟨e, he, hadv, haddr, -⟩ := interface_route hrebuild ha hV
    exact ⟨e, he, hadv, haddr⟩
  · intro e he hadv
    exact hright.up _ (hown he hadv) (hwf.unicast e he).2 e he hadv rfl
  · intro e he hadv
    obtain ⟨front, p, d, hsplit, hp, hleast⟩ := hright.hop _ (hown he hadv) (hwf.unicast e he).2
    -- the path ends with the link to the neighbour, which costs no more
    rw [← hsplit] at hp
    obtain ⟨c, hc, hle⟩ := hp.ends_with
    obtain ⟨e', he', -, heq⟩ := mem_upEdges.mp hc.direct_edge
    obtain ⟨hadv', hid', hmetric⟩ := Edge.mk.inj heq
    refine ⟨e', he', hadv'.symm, hid'.symm, ?_⟩
    intro q b hq
    rw [← hmetric]
    exact Nat.le_trans hle (hleast q b hq)
  · intro v hv hpeer p d hp
    obtain ⟨r, hr, hdest⟩ := hright.reached v p d hv hp
    obtain ⟨remote, peers, hroutes, hremote, hpeers⟩ := rebuildRoutingTable_ok hrebuild hV
    have huni : isMulticast v = false := by
      cases hp with
      | source => exact absurd rfl hv
      | snoc h he =>
        obtain ⟨e, hmem, -, heq⟩ := mem_upEdges.mp he
        rw [(Edge.mk.inj heq).2.1]
        exact (hwf.unicast e hmem).2
    rw [hroutes, mem_append, mem_append, mem_filter] at hr
    obtain (hkept | hr) | hr := hr
    · rw [hdest, huni] at hkept
      cases hkept.2
    · obtain ⟨w, hw, hok⟩ := (Succeeds.mapM_ok hremote).2 r hr
      have hwv : w = v := by
        obtain ⟨hNext, -, hok⟩ := bind_ok.mp hok
        obtain ⟨interface, -, hok⟩ := bind_ok.mp hok
        cases hok
        exact hdest
      subst hwv
      obtain ⟨-, hkeep⟩ := mem_filter.mp hw
      have hlt := (hcalc.parent_iff hv).mp (of_decide_eq_true hkeep).2.1
      obtain ⟨q, hq⟩ := hcalc.shortest.path w hlt
      exact ⟨q, _, hq, hlt⟩
    · obtain ⟨a, -, hok⟩ := (Succeeds.mapM_ok hpeers).2 r hr
      obtain ⟨e, he, hadv, -, rfl⟩ := localRoute_ok hok
      rw [isLocalPeer_iff.mpr ⟨e, he, hdest, hadv⟩] at hpeer
      cases hpeer

end Necessary

end TED

end Inet.Ted
