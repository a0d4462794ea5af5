import Inetmanet.Rip.RIPRoutes

/-!
# The RIP routes and the routing table

Every RIP route with a finite metric holds on to an IPv4 route of the host's table, no
two to the same one, and the IPv4 routes that the module has added are for the
destinations of their RIP routes.
-/
namespace Inet.Rip

open Ipv4 List Option IPv4Address RoutingTable

/-- Changing one element of a list whose elements are related. -/
theorem pairwise_modify {α : Type} {R : α → α → Prop} {l : List α} {f : α → α} {i : Nat} {a : α}
    (hsymm : ∀ x y, R x y → R y x) (h : l.Pairwise R) (ha : l[i]? = some a)
    (hf : ∀ x ∈ l, R a x → R (f a) x) : (l.modify i f).Pairwise R := by
  induction l generalizing i with
  | nil => cases ha
  | cons b l ih =>
    rw [pairwise_cons] at h
    cases i with
    | zero =>
      cases ha
      rw [modify_zero_cons, pairwise_cons]
      exact ⟨fun x hx => hf x (mem_cons_of_mem _ hx) (h.1 x hx), h.2⟩
    | succ i =>
      have ha' : l[i]? = some a := by simpa using ha
      rw [modify_succ_cons, pairwise_cons]
      refine ⟨fun x hx => ?_, ih h.2 ha' fun x hx => hf x (mem_cons_of_mem _ hx)⟩
      obtain ⟨j, hj⟩ := mem_iff_getElem?.mp hx
      by_cases hji : j = i
      · rw [hji, List.getElem?_modify_eq, ha'] at hj
        cases hj
        exact hsymm _ _ (hf b mem_cons_self (hsymm _ _ (h.1 a (mem_of_getElem? ha'))))
      · have hj' : l[j]? = some x := by simpa [Ne.symm hji] using hj
        exact h.1 x (mem_of_getElem? hj')

/-- Two routes do not go to one destination, and do not hold the same IPv4 route. -/
structure Apart (q q' : RIPRoute) : Prop where
  destination : ¬ (q.dest = q'.dest ∧ q.prefixLength = q'.prefixLength)
  route : ∀ e, q.route = some e → q'.route ≠ some e

theorem Apart.symm {q q' : RIPRoute} (h : Apart q q') : Apart q' q where
  destination := fun hsame => h.destination ⟨hsame.1.symm, hsame.2.symm⟩
  route e he he' := h.route e he' he

/-- A RIP route holds the IPv4 route `e`. -/
structure Link (rt : RoutingTable) (q : RIPRoute) (e : RouteRef) : Prop where
  mem : e ∈ rt.routes
  rte : q.type = .RIP_ROUTE_RTE → (rt.heap e).source = some RIPRouting.this
  dest : (rt.heap e).source = some RIPRouting.this → (rt.heap e).dest = q.dest
  netmask : (rt.heap e).source = some RIPRouting.this → 0 ≤ q.prefixLength ∧ q.prefixLength ≤ 32 ∧
    (rt.heap e).netmask = _makeNetmask q.prefixLength.toNat
  prefixOnly : (rt.heap e).source = some RIPRouting.this → (rt.heap e).PrefixOnly

/-- A RIP route that is not being changed. -/
structure Good (rt : RoutingTable) (q : RIPRoute) : Prop where
  pos : 1 ≤ q.metric
  le : q.metric ≤ RIP_INFINITE_METRIC
  finite : q.metric < RIP_INFINITE_METRIC ↔ q.route ≠ none
  learned : q.sender ≠ 0 → q.type = .RIP_ROUTE_RTE
  ie : ∀ e, q.route = some e → (rt.heap e).source = some RIPRouting.this → (rt.heap e).interfacePtr = q.ie

/-- The routes `rs` and the table, while routes are being changed. `next` is where the next
route object comes. -/
structure Weak (rs : List RIPRoute) (rt : RoutingTable) (next : RouteRef) : Prop where
  link : ∀ q ∈ rs, ∀ e, q.route = some e → Link rt q e
  apart : rs.Pairwise Apart
  nodup : rt.routes.Nodup
  fresh : ∀ e ∈ rt.routes, e < next

structure Sound (rs : List RIPRoute) (rt : RoutingTable) (next : RouteRef) : Prop extends Weak rs rt next where
  good : ∀ q ∈ rs, Good rt q

/-- What is the same of two objects for the same route: those of others may be for anything. -/
structure SameRoute (r r' : IPv4Route) : Prop where
  own : r'.source = some RIPRouting.this ↔ r.source = some RIPRouting.this
  dest : r.source = some RIPRouting.this → r'.dest = r.dest
  netmask : r.source = some RIPRouting.this → r'.netmask = r.netmask

theorem SameRoute.refl (r : IPv4Route) : SameRoute r r := ⟨Iff.rfl, fun _ => rfl, fun _ => rfl⟩

variable {rs : List RIPRoute} {rt rt' : RoutingTable} {next next' : RouteRef} {q q' : RIPRoute} {e : RouteRef}

theorem Link.congr (h : Link rt q e) (hmem : e ∈ rt'.routes) (hsame : SameRoute (rt.heap e) (rt'.heap e)) :
    Link rt' q e where
  mem := hmem
  rte htype := hsame.own.mpr (h.rte htype)
  dest hsource := by
    have hown := hsame.own.mp hsource
    rw [hsame.dest hown]
    exact h.dest hown
  netmask hsource := by
    have hown := hsame.own.mp hsource
    rw [hsame.netmask hown]
    exact h.netmask hown
  prefixOnly hsource := by
    have hown := hsame.own.mp hsource
    rw [IPv4Route.PrefixOnly, hsame.dest hown, hsame.netmask hown]
    exact h.prefixOnly hown

/-- Members of a list that are apart hold different routes, wherever they stand. -/
theorem Weak.route_ne (h : Weak rs rt next) {i j : Nat} (hi : rs[i]? = some q) (hj : rs[j]? = some q') (hij : i ≠ j) :
    Apart q q' := by
  obtain ⟨hi', rfl⟩ := List.getElem?_eq_some_iff.mp hi
  obtain ⟨hj', rfl⟩ := List.getElem?_eq_some_iff.mp hj
  rcases Nat.lt_or_gt_of_ne hij with hlt | hgt
  · exact pairwise_iff_getElem.mp h.apart i j hi' hj' hlt
  · exact (pairwise_iff_getElem.mp h.apart j i hj' hi' hgt).symm

variable {old : Option RouteRef} {q₀ : RIPRoute} {r : IPv4Route}

theorem Weak.sublist {rs' : List RIPRoute} (h : Weak rs rt next) (hl : rs'.Sublist rs) : Weak rs' rt next :=
  ⟨fun q hq => h.link q (hl.subset hq), h.apart.sublist hl, h.nodup, h.fresh⟩

theorem Sound.sublist {rs' : List RIPRoute} (h : Sound rs rt next) (hl : rs'.Sublist rs) : Sound rs' rt next :=
  { h.toWeak.sublist hl with good := fun q hq => h.good q (hl.subset hq) }

theorem Good.invalidated (h : q.sender ≠ 0 → q.type = .RIP_ROUTE_RTE) : Good rt (RIPRouting.invalidated q) where
  pos := show 1 ≤ RIP_INFINITE_METRIC by decide
  le := Nat.le_refl _
  finite := by simp [RIPRouting.invalidated]
  learned := h
  ie _ he := by cases he

open RIPRouting

/-- What becomes of a RIP route when the table drops `old`. -/
def droppedBy (rt : RoutingTable) : Option RouteRef → RIPRoute → RIPRoute
  | none, q => q
  | some old, q => dropped rt old q

theorem lost_droppedBy (rt : RoutingTable) (old : Option RouteRef) (q : RIPRoute) : Lost q (droppedBy rt old q) := by
  cases old with
  | none => exact Lost.refl q
  | some old => exact lost_dropped rt old q

theorem droppedBy_of_ne (h : ∀ x, old = some x → q.route ≠ some x) : droppedBy rt old q = q := by
  cases old with
  | none => rfl
  | some old => exact if_neg fun hcond => h old rfl hcond.1

/-- A route that is held afterwards was held before, and if it has been dropped it is one of the module's own. -/
theorem droppedBy_route (h : (droppedBy rt old q).route = some e) :
    droppedBy rt old q = q ∧ q.route = some e ∧ (old = some e → (rt.heap e).source = some this) := by
  cases old with
  | none => exact ⟨rfl, h, fun hnone => by cases hnone⟩
  | some old =>
    rw [droppedBy, dropped] at h ⊢
    by_cases hcond : q.route = some old ∧ (rt.heap old).source ≠ some this
    · rw [if_pos hcond] at h
      cases h
    · rw [if_neg hcond] at h ⊢
      refine ⟨rfl, h, fun heq => ?_⟩
      cases heq
      exact by_contra fun hsource => hcond ⟨h, hsource⟩

theorem Apart.droppedBy (h : Apart q q') : Apart (droppedBy rt old q) (droppedBy rt old q') where
  destination := by
    rcases lost_droppedBy rt old q with heq | heq <;> rcases lost_droppedBy rt old q' with heq' | heq'
    all_goals
      rw [heq, heq']
      exact h.destination
  route e he he' := h.route e (droppedBy_route he).2.1 (droppedBy_route he').2.1

/-- How the table is changed: `old` goes, others may come, and no route becomes another one. -/
structure Exchange (rt : RoutingTable) (old : Option RouteRef) (rt' : RoutingTable) (next' : RouteRef) : Prop where
  mem : ∀ x ∈ rt.routes, old ≠ some x → x ∈ rt'.routes
  same : ∀ x ∈ rt.routes, SameRoute (rt.heap x) (rt'.heap x)
  nodup : rt'.routes.Nodup
  fresh : ∀ x ∈ rt'.routes, x < next'

/-- None of the routes holds one of the module's own that goes. -/
def Foreign (rs : List RIPRoute) (rt : RoutingTable) (old : Option RouteRef) : Prop :=
  ∀ x, old = some x → ∀ q ∈ rs, q.route = some x → (rt.heap x).source ≠ some this

instance (rs : List RIPRoute) (rt : RoutingTable) (old : Option RouteRef) : Decidable (Foreign rs rt old) :=
  match old with
  | none => isTrue fun x hx => by cases hx
  | some x => decidable_of_iff (∀ q ∈ rs, q.route = some x → (rt.heap x).source ≠ some this)
      ⟨fun h x' hx' => by cases hx'; exact h, fun h => h x rfl⟩

/-- Those who held a route that has gone are told. -/
theorem Weak.exchange (h : Weak rs rt next) (hex : Exchange rt old rt' next')
    (hforeign : Foreign rs rt old) : Weak (rs.map (droppedBy rt old)) rt' next' where
  link q' hq' e he := by
    obtain ⟨q, hq, rfl⟩ := mem_map.mp hq'
    obtain ⟨hsame, hroute, hown⟩ := droppedBy_route he
    rw [hsame]
    have hlink := h.link q hq e hroute
    exact hlink.congr (hex.mem e hlink.mem fun hold => hforeign e hold q hq hroute (hown hold)) (hex.same e hlink.mem)
  apart := List.Pairwise.map _ (fun _ _ hab => hab.droppedBy) h.apart
  nodup := hex.nodup
  fresh := hex.fresh

theorem Good.exchange (h : Good rt q) (hown : ∀ e, q.route = some e →
    ((rt'.heap e).source = some this ↔ (rt.heap e).source = some this) ∧
      ((rt.heap e).source = some this → (rt'.heap e).interfacePtr = (rt.heap e).interfacePtr)) :
    Good rt' (droppedBy rt old q) := by
  rcases lost_droppedBy rt old q with heq | heq
  · rw [heq]
    refine ⟨h.pos, h.le, h.finite, h.learned, fun e he hsource => ?_⟩
    have hsource := (hown e he).1.mp hsource
    rw [(hown e he).2 hsource]
    exact h.ie e he hsource
  · rw [heq]
    exact Good.invalidated h.learned

theorem Sound.exchange (h : Sound rs rt next) (hex : Exchange rt old rt' next')
    (hforeign : Foreign rs rt old) (hie : ∀ x ∈ rt.routes, (rt.heap x).source = some this →
      (rt'.heap x).interfacePtr = (rt.heap x).interfacePtr) :
    Sound (rs.map (droppedBy rt old)) rt' next' :=
  { h.toWeak.exchange hex hforeign with
    good := fun q' hq' => by
      obtain ⟨q, hq, rfl⟩ := mem_map.mp hq'
      refine (h.good q hq).exchange fun e he => ?_
      have hmem := (h.link q hq e he).mem
      exact ⟨(hex.same e hmem).own, hie e hmem⟩ }

/-- All but the route at `i`, which is `q` now, are as they are to be. -/
structure Open (i : Nat) (q : RIPRoute) (m : RIPRouting) : Prop extends Weak m.ripRoutes m.rt m.nextRef where
  here : m.ripRoutes[i]? = some q
  good : ∀ (j : Nat) (q' : RIPRoute), j ≠ i → m.ripRoutes[j]? = some q' → Good m.rt q'

variable {m m' : RIPRouting} {i : Nat}

theorem Sound.opened (h : Sound m.ripRoutes m.rt m.nextRef) (hq : m.ripRoutes[i]? = some q) : Open i q m :=
  { h.toWeak with
    here := hq
    good := fun _ _ _ hq' => h.good _ (mem_of_getElem? hq') }

section

variable (h : Open i q m)
include h

theorem Open.close (hq : Good m.rt q) : Sound m.ripRoutes m.rt m.nextRef :=
  { h.toWeak with
    good := fun q' hq' => by
      obtain ⟨j, hj⟩ := mem_iff_getElem?.mp hq'
      by_cases hji : j = i
      · rw [hji, h.here] at hj
        cases hj
        exact hq
      · exact h.good j q' hji hj }

theorem Open.mem : q ∈ m.ripRoutes := mem_of_getElem? h.here

/-- Timers do not matter. -/
theorem Open.of_eq (hroutes : m'.ripRoutes = m.ripRoutes) (hrt : m'.rt = m.rt)
    (hnext : m'.nextRef = m.nextRef) : Open i q m' := by
  constructor
  · rw [hroutes, hrt, hnext]
    exact h.toWeak
  · rw [hroutes]
    exact h.here
  · rw [hroutes, hrt]
    exact h.good

theorem Open.triggerUpdate : Open i q m.triggerUpdate :=
  h.of_eq (triggerUpdate_ripRoutes m) (triggerUpdate_rt m) (triggerUpdate_nextRef m)

end

/-- The members of a list in which one element has been changed. -/
theorem mem_modify {α : Type} {l : List α} {f : α → α} {a x : α} (ha : l[i]? = some a) (hx : x ∈ l.modify i f) :
    x = f a ∨ x ∈ l := by
  obtain ⟨j, hj⟩ := mem_iff_getElem?.mp hx
  by_cases hji : i = j
  · left
    simpa [← hji, ha, eq_comm] using hj
  · right
    have hj' : l[j]? = some x := by simpa [hji] using hj
    exact mem_of_getElem? hj'

/-- The route at `i` is changed, and nobody else holds its new IPv4 route. -/
theorem Open.modify_link (h : Open i q m) (f : RIPRoute → RIPRoute) (hdest : (f q).dest = q.dest)
    (hlen : (f q).prefixLength = q.prefixLength) (hlink : ∀ e, (f q).route = some e → Link m.rt (f q) e)
    (hroute : ∀ e, (f q).route = some e → ∀ q' ∈ m.ripRoutes, Apart q q' → q'.route ≠ some e) :
    Open i (f q) (m.modifyRoute i f) where
  link q' hq' e he := by
    rcases mem_modify h.here hq' with rfl | hold
    · exact hlink e he
    · exact h.link q' hold e he
  apart := by
    refine pairwise_modify (fun _ _ => Apart.symm) h.apart h.here fun q' hq' hap => ⟨?_, ?_⟩
    · rw [hdest, hlen]
      exact hap.destination
    · exact fun e he => hroute e he q' hq' hap
  nodup := h.nodup
  fresh := h.fresh
  here := by rw [modifyRoute_get_self, h.here]; rfl
  good j q' hj hq' := by
    rw [modifyRoute_get_ne _ _ hj] at hq'
    exact h.good j q' hj hq'

/-- The route at `i` keeps its IPv4 route, or lets it go. -/
theorem Open.modify (h : Open i q m) (f : RIPRoute → RIPRoute) (hdest : (f q).dest = q.dest)
    (hlen : (f q).prefixLength = q.prefixLength)
    (hroute : (f q).route = none ∨ ((f q).route = q.route ∧ (f q).type = q.type)) :
    Open i (f q) (m.modifyRoute i f) := by
  refine h.modify_link f hdest hlen (fun e he => ?_) fun e he q' _ hap => ?_
  · rcases hroute with hnone | ⟨hsame, htype⟩
    · rw [hnone] at he
      cases he
    · rw [hsame] at he
      have hlink := h.link q h.mem e he
      refine ⟨hlink.mem, ?_, ?_, ?_, hlink.prefixOnly⟩
      · rw [htype]
        exact hlink.rte
      · rw [hdest]
        exact hlink.dest
      · rw [hlen]
        exact hlink.netmask
  · rcases hroute with hnone | ⟨hsame, -⟩
    · rw [hnone] at he
      cases he
    · rw [hsame] at he
      exact hap.route e he

/-- The table changes while the route at `i` is open; its own IPv4 route does not go. -/
theorem Open.exchange (h : Open i q m) (hroutes : m'.ripRoutes = m.ripRoutes.map (droppedBy m.rt old))
    (hex : Exchange m.rt old m'.rt m'.nextRef) (hforeign : Foreign m.ripRoutes m.rt old)
    (hstays : ∀ x, old = some x → q.route ≠ some x)
    (hie : ∀ x ∈ m.rt.routes, q.route ≠ some x → (m'.rt.heap x).interfacePtr = (m.rt.heap x).interfacePtr) :
    Open i q m' := by
  constructor
  · rw [hroutes]
    exact h.toWeak.exchange hex hforeign
  · rw [hroutes, List.getElem?_map, h.here, map_some, droppedBy_of_ne hstays]
  · intro j q' hj hq'
    rw [hroutes, List.getElem?_map, map_eq_some_iff] at hq'
    obtain ⟨q₁, hq₁, rfl⟩ := hq'
    refine (h.good j q₁ hj hq₁).exchange fun e he => ?_
    have hmem := (h.link q₁ (mem_of_getElem? hq₁) e he).mem
    exact ⟨(hex.same e hmem).own, fun _ => hie e hmem ((h.route_ne hq₁ h.here hj).route e he)⟩

theorem replaceDefaultRoute_ripRoutes (m : RIPRouting) (e : RouteRef) :
    (m.replaceDefaultRoute e).ripRoutes = m.ripRoutes.map (droppedBy m.rt (m.rt.replaced e)) := by
  rw [RIPRouting.replaceDefaultRoute, replaced]
  by_cases hmask : (m.rt.heap e).netmask = 0
  · rw [if_pos hmask, if_pos hmask]
    cases m.rt.getDefaultRoute with
    | none => exact (map_id _).symm
    | some old => exact routeDeleted_ripRoutes m old
  · rw [if_neg hmask, if_neg hmask]
    exact (map_id _).symm

theorem replaceDefaultRoute_nextRef (m : RIPRouting) (e : RouteRef) : (m.replaceDefaultRoute e).nextRef = m.nextRef := by
  rw [RIPRouting.replaceDefaultRoute]
  split
  · split
    · rfl
    · exact routeDeleted_nextRef m _
  · rfl

theorem deleteIPv4Route_ripRoutes (he : e ∈ m.rt.routes) :
    (m.deleteIPv4Route e).ripRoutes = m.ripRoutes.map (droppedBy m.rt (some e)) := by
  rw [deleteIPv4Route, if_pos he]
  exact routeDeleted_ripRoutes m e

theorem deleteIPv4Route_exchange (hnodup : m.rt.routes.Nodup) (hfresh : ∀ x ∈ m.rt.routes, x < m.nextRef)
    (he : e ∈ m.rt.routes) :
    Exchange m.rt (some e) (m.deleteIPv4Route e).rt (m.deleteIPv4Route e).nextRef ∧
      (m.deleteIPv4Route e).rt.heap = m.rt.heap := by
  rw [deleteIPv4Route, if_pos he]
  refine ⟨⟨fun x hx hne => ?_, fun x _ => ?_, ?_, fun x hx => ?_⟩, deleteRoute_heap _ _⟩
  · rw [deleteRoute_routes]
    exact (mem_erase_of_ne fun heq => hne (congrArg some heq.symm)).mpr hx
  · rw [deleteRoute_heap]
    exact SameRoute.refl _
  · rw [deleteRoute_routes]
    exact hnodup.erase e
  · rw [deleteRoute_routes] at hx
    rw [show ({ m.routeDeleted e with rt := m.rt.deleteRoute e } : RIPRouting).nextRef = m.nextRef from
      routeDeleted_nextRef m e]
    exact hfresh x (mem_of_mem_erase hx)

/-- A route that was added by others goes. -/
theorem Sound.deleteIPv4Route (h : Sound m.ripRoutes m.rt m.nextRef) (hforeign : Foreign m.ripRoutes m.rt (some e)) :
    Sound (m.deleteIPv4Route e).ripRoutes (m.deleteIPv4Route e).rt (m.deleteIPv4Route e).nextRef := by
  by_cases he : e ∈ m.rt.routes
  · obtain ⟨hex, hheap⟩ := deleteIPv4Route_exchange h.nodup h.fresh he
    rw [deleteIPv4Route_ripRoutes he]
    exact h.exchange hex hforeign fun x _ _ => by rw [hheap]
  · rw [RIPRouting.deleteIPv4Route, if_neg he]
    exact h

/-- A RIP route lets its IPv4 route go, which is deleted. -/
theorem Open.unlink (h : Open i q m) (he : q.route = some e) :
    Open i { q with route := none } ((m.modifyRoute i fun q => { q with route := none }).deleteIPv4Route e) := by
  have hopen : Open i { q with route := none } (m.modifyRoute i fun q => { q with route := none }) :=
    h.modify (fun q => { q with route := none }) rfl rfl (.inl rfl)
  have hmem : e ∈ (m.modifyRoute i fun q => { q with route := none }).rt.routes := (h.link q h.mem e he).mem
  obtain ⟨hex, hheap⟩ := deleteIPv4Route_exchange hopen.nodup hopen.fresh hmem
  have hnobody : ∀ q' ∈ (m.modifyRoute i fun q => { q with route := none }).ripRoutes, q'.route ≠ some e := by
    intro q' hq' he'
    obtain ⟨j, hj⟩ := mem_iff_getElem?.mp hq'
    by_cases hji : j = i
    · rw [hji, hopen.here] at hj
      cases hj
      cases he'
    · rw [modifyRoute_get_ne _ _ hji] at hj
      exact (h.route_ne hj h.here hji).route e he' he
  refine hopen.exchange (deleteIPv4Route_ripRoutes hmem) hex ?_ ?_ fun x _ _ => by rw [hheap]
  · intro x hx q' hq' he'
    cases hx
    exact absurd he' (hnobody q' hq')
  · intro x _ hnone
    cases hnone

theorem makeNetmask_eq_zero_fin : ∀ n : Fin 33, _makeNetmask n.val = 0 → n.val = 0 := by decide

/-- Routes with an empty netmask are for the default destination. -/
theorem default_of_netmask {length : Int} {dest netmask : IPv4Address} (hlo : 0 ≤ length) (hhi : length ≤ 32)
    (hmask : netmask = _makeNetmask length.toNat) (hzero : netmask = 0) (hmasked : dest &&& ~~~netmask = 0) :
    dest = 0 ∧ length = 0 := by
  constructor
  · rw [hzero] at hmasked
    have hall : dest &&& ~~~0#32 = 0#32 := hmasked
    rw [BitVec.not_zero, BitVec.and_allOnes] at hall
    exact hall
  · have hlen := makeNetmask_eq_zero_fin ⟨length.toNat, by omega⟩ (by rw [← hmask, hzero])
    simp only at hlen
    omega

/-- A default route of the module's own is held by the RIP route to the default destination. -/
theorem Link.default (h : Link rt q e) (hown : (rt.heap e).source = some this) (hmask : (rt.heap e).netmask = 0) :
    q.dest = 0 ∧ q.prefixLength = 0 := by
  obtain ⟨hlo, hhi, hlen⟩ := h.netmask hown
  have hdefault := default_of_netmask hlo hhi hlen hmask (h.prefixOnly hown)
  rw [h.dest hown] at hdefault
  exact hdefault

/-- A route is put into the table. -/
theorem Exchange.added (h : rt.Added e rt') (hnodup : rt.routes.Nodup) (he : e ∉ rt.routes)
    (hfresh : ∀ x ∈ rt.routes, x < next') (hnext : e < next') : Exchange rt (rt.replaced e) rt' next' where
  mem x hx hne := (h.mem_iff hnodup x).mpr (.inr ⟨hx, hne⟩)
  same x hx := by
    rw [h.other x (ne_of_mem_of_not_mem hx he)]
    exact SameRoute.refl _
  nodup := h.nodup hnodup he
  fresh x hx := by
    rcases (h.mem_iff hnodup x).mp hx with rfl | ⟨hold, -⟩
    · exact hnext
    · exact hfresh x hold

theorem Weak.nextRef_not_mem (h : Weak rs rt next) : next ∉ rt.routes := fun hmem => Nat.lt_irrefl _ (h.fresh _ hmem)

/-- An object is allocated, which nobody sees. -/
theorem Exchange.newIPv4Route (h : Weak m.ripRoutes m.rt m.nextRef) (entry : IPv4Route) :
    Exchange m.rt none (m.newIPv4Route entry).rt (m.newIPv4Route entry).nextRef ∧
      ∀ x ∈ m.rt.routes, (m.newIPv4Route entry).rt.heap x = m.rt.heap x := by
  have hother : ∀ x ∈ m.rt.routes, (m.newIPv4Route entry).rt.heap x = m.rt.heap x := fun x hx =>
    store_heap_of_ne m.rt entry (ne_of_mem_of_not_mem hx h.nextRef_not_mem)
  refine ⟨⟨fun x hx _ => hx, fun x hx => ?_, h.nodup, fun x hx => Nat.lt_succ_of_lt (h.fresh x hx)⟩, hother⟩
  rw [hother x hx]
  exact SameRoute.refl _

theorem map_droppedBy_none (rt : RoutingTable) (rs : List RIPRoute) : rs.map (droppedBy rt none) = rs := map_id rs

theorem Sound.newIPv4Route (h : Sound m.ripRoutes m.rt m.nextRef) (entry : IPv4Route) :
    Sound (m.newIPv4Route entry).ripRoutes (m.newIPv4Route entry).rt (m.newIPv4Route entry).nextRef := by
  obtain ⟨hex, hother⟩ := Exchange.newIPv4Route h.toWeak entry
  have hnew := h.exchange hex (fun x hx => by cases hx) fun x hx _ => by rw [hother x hx]
  rw [map_droppedBy_none] at hnew
  exact hnew

theorem Open.newIPv4Route (h : Open i q m) (entry : IPv4Route) : Open i q (m.newIPv4Route entry) := by
  obtain ⟨hex, hother⟩ := Exchange.newIPv4Route h.toWeak entry
  refine h.exchange (map_droppedBy_none m.rt m.ripRoutes).symm hex (fun x hx => by cases hx) (fun x hx => by cases hx) ?_
  intro x hx _
  rw [hother x hx]

/-- The allocated object comes into the table. -/
theorem Sound.replaceDefaultRoute (h : Sound m.ripRoutes m.rt m.nextRef) (hadd : m.rt.Added e rt') (he : e ∉ m.rt.routes)
    (hnext : e < m.nextRef) (hforeign : Foreign m.ripRoutes m.rt (m.rt.replaced e)) :
    Sound (m.replaceDefaultRoute e).ripRoutes rt' (m.replaceDefaultRoute e).nextRef := by
  rw [replaceDefaultRoute_ripRoutes, replaceDefaultRoute_nextRef]
  refine h.exchange (Exchange.added hadd h.nodup he h.fresh hnext) hforeign fun x hx _ => ?_
  rw [hadd.other x (ne_of_mem_of_not_mem hx he)]

theorem Open.replaceDefaultRoute (h : Open i q m) (hroute : q.route = none) (hadd : m.rt.Added e rt')
    (he : e ∉ m.rt.routes) (hnext : e < m.nextRef) (hforeign : Foreign m.ripRoutes m.rt (m.rt.replaced e)) :
    Open i q { m.replaceDefaultRoute e with rt := rt' } := by
  refine h.exchange (replaceDefaultRoute_ripRoutes m e) ?_ hforeign (fun x _ hx => ?_) fun x hx _ => ?_
  · have hex := Exchange.added hadd h.nodup he h.fresh hnext
    simp only [replaceDefaultRoute_nextRef]
    exact hex
  · rw [hroute] at hx
    cases hx
  · have hother := hadd.other x (ne_of_mem_of_not_mem hx he)
    simp only [hother]

/-- The steps of adding an IPv4 route: the object is allocated, and put into the table. An old
default route only gives way to a new one. -/
theorem addIPv4Route_steps {dest : IPv4Address} {length : Int} {ie : InterfaceRef} {nextHop : IPv4Address} {metric : Nat}
    (hok : m.addIPv4Route dest length ie nextHop metric = .ok (m', e)) :
    ∃ entry rt, e = m.nextRef ∧ m' = { (m.newIPv4Route entry).replaceDefaultRoute m.nextRef with rt := rt } ∧
      (m.newIPv4Route entry).rt.Added m.nextRef rt ∧
      ((m.newIPv4Route entry).rt.replaced m.nextRef ≠ none → dest = 0 ∧ length = 0) := by
  obtain ⟨netmask, hmask, hrest⟩ := bind_ok.mp hok
  obtain ⟨hlo, hhi, rfl⟩ := makeNetmask_ok hmask
  obtain ⟨rt, hrt, hend⟩ := bind_ok.mp hrest
  have hadded := addRoute_added hrt
  refine ⟨_, rt, (congrArg Prod.snd (Except.ok.inj hend)).symm, (congrArg Prod.fst (Except.ok.inj hend)).symm, hadded, ?_⟩
  intro hreplaced
  obtain ⟨old, hold⟩ := ne_none_iff_exists'.mp hreplaced
  have hzero := (mem_of_replaced hold).2.2
  have hmasked := hadded.prefixOnly
  rw [newIPv4Route_heap_self] at hzero hmasked
  exact default_of_netmask hlo hhi rfl hzero hmasked

/-- Where no RIP route holds an IPv4 route to the destination, no own one is replaced. -/
theorem Weak.foreign {dest : IPv4Address} {length : Int} (h : Weak rs rt next)
    (hdefault : rt.replaced e ≠ none → dest = 0 ∧ length = 0)
    (hnobody : ∀ q ∈ rs, q.dest = dest → q.prefixLength = length → q.route = none) :
    Foreign rs rt (rt.replaced e) := by
  intro x hx q hq he hsource
  obtain ⟨rfl, rfl⟩ := hdefault (by rw [hx]; simp)
  obtain ⟨-, hzero, -⟩ := mem_of_replaced hx
  obtain ⟨hdest, hlen⟩ := (h.link q hq x he).default hsource hzero
  rw [hnobody q hq hdest hlen] at he
  cases he

/-- The IPv4 route of a RIP route that holds none is added. -/
theorem Open.revive {ie : InterfaceRef} {nextHop : IPv4Address} {metric : Nat} (h : Open i q m)
    (hroute : q.route = none) (hdest : q₀.dest = q.dest)
    (hlen : q₀.prefixLength = q.prefixLength) (hok : m.revive i q₀ ie nextHop metric = .ok m') :
    ∃ e, Open i { q with route := some e } m' ∧ (m'.rt.heap e).interfacePtr = some ie := by
  obtain ⟨⟨m₁, e⟩, hadd, hok⟩ := bind_ok.mp hok
  cases hok
  have hroute' := addIPv4Route_ok hadd
  obtain ⟨entry, rt, rfl, rfl, hadded, hdefault⟩ := addIPv4Route_steps hadd
  have hnew := h.newIPv4Route entry
  have hfresh : m.nextRef ∉ m.rt.routes := h.nextRef_not_mem
  have hforeign : Foreign (m.newIPv4Route entry).ripRoutes (m.newIPv4Route entry).rt
      ((m.newIPv4Route entry).rt.replaced m.nextRef) := by
    refine hnew.toWeak.foreign hdefault fun q' hq' hd hl => ?_
    obtain ⟨j, hj⟩ := mem_iff_getElem?.mp hq'
    by_cases hji : j = i
    · rw [hji, hnew.here] at hj
      cases hj
      exact hroute
    · exact absurd ⟨hd.trans hdest, hl.trans hlen⟩ (hnew.route_ne hj hnew.here hji).destination
  have hopen := hnew.replaceDefaultRoute hroute hadded hfresh (Nat.lt_succ_self _) hforeign
  have hmem : m.nextRef ∈ rt.routes := (hadded.mem_iff hnew.nodup _).mpr (.inl rfl)
  refine ⟨m.nextRef, ?_, hroute'.interfacePtr⟩
  refine hopen.modify_link (fun q => { q with route := some m.nextRef }) rfl rfl (fun e he => ?_) fun e he q' hq' _ he' => ?_
  · cases he
    refine ⟨hmem, fun _ => hroute'.source, fun _ => ?_, fun _ => ?_, fun _ => hroute'.prefixOnly⟩
    · rw [← hdest]
      exact hroute'.dest
    · rw [← hlen]
      exact ⟨hroute'.range.1, hroute'.range.2, hroute'.netmask⟩
  · cases he
    simp only [replaceDefaultRoute_ripRoutes] at hq'
    obtain ⟨q₁, hq₁, rfl⟩ := mem_map.mp hq'
    exact hfresh (h.link q₁ hq₁ _ (droppedBy_route he').2.1).mem

/-- The object that the open route holds changes in a field that does not matter. -/
theorem Open.store (h : Open i q m) (he : q.route = some e) (hr : SameRoute (m.rt.heap e) r) :
    Open i q { m with rt := m.rt.store e r } := by
  refine h.exchange (map_droppedBy_none m.rt _).symm ⟨fun x hx _ => hx, fun x _ => ?_, h.nodup, h.fresh⟩
    (fun x hx => by cases hx) (fun x hx => by cases hx) fun x _ hne => ?_
  · by_cases hx : x = e
    · rw [hx]
      simp only [store_heap_self]
      exact hr
    · simp only [store_heap_of_ne _ _ hx]
      exact SameRoute.refl _
  · have hx : x ≠ e := by
      rintro rfl
      exact hne he
    simp only [store_heap_of_ne _ _ hx]

theorem Open.setInterface {ie : InterfaceRef} (h : Open i q m) (hroute : q₀.route = q.route)
    (hok : m.setInterface i q₀ ie = .ok m') : Open i { q with ie := some ie } m' := by
  have hmod : Open i { q with ie := some ie } (m.modifyRoute i fun q => { q with ie := some ie }) :=
    h.modify (fun q => { q with ie := some ie }) rfl rfl (.inr ⟨rfl, rfl⟩)
  rw [RIPRouting.setInterface] at hok
  split at hok
  case h_1 route hsome htype =>
    obtain ⟨rt, hrt, hok⟩ := bind_ok.mp hok
    cases hok
    rw [RoutingTable.setInterface] at hrt
    rcases change_cases hrt with ⟨-, rfl⟩ | ⟨-, -, rfl⟩ | ⟨-, -, hcode, -⟩
    · exact hmod
    · exact hmod.store (hroute ▸ hsome) ⟨Iff.rfl, fun _ => rfl, fun _ => rfl⟩
    · exact absurd hcode (by decide)
  case h_2 =>
    cases hok
    exact hmod

theorem droppedBy_congr
    (h : ∀ x, old = some x → (rt'.heap x).source = (rt.heap x).source) : droppedBy rt' old = droppedBy rt old := by
  funext q
  cases old with
  | none => rfl
  | some old => rw [droppedBy, droppedBy, dropped, dropped, h old rfl]

theorem mem_of_replaced_without {x : RouteRef} (hnodup : m.rt.routes.Nodup)
    (h : (m.without e r).rt.replaced e = some x) :
    x ∈ m.rt.routes ∧ x ≠ e ∧ (m.rt.heap x).netmask = 0 ∧ r.netmask = 0 := by
  obtain ⟨hmem, hold, hnew⟩ := mem_of_replaced h
  have hne := (hnodup.mem_erase_iff.mp hmem).1
  refine ⟨List.mem_of_mem_erase hmem, hne, ?_, ?_⟩
  · rw [without] at hold
    rw [← hold]
    simp only [store_heap_of_ne _ _ hne]
  · rw [without] at hnew
    rw [← hnew]
    simp only [store_heap_self]

/-- A route is taken out of the table and put in again with other fields. -/
theorem Exchange.without (h : Weak m.ripRoutes m.rt m.nextRef) (he : e ∈ m.rt.routes)
    (hr : SameRoute (m.rt.heap e) r) (hadd : (m.without e r).rt.Added e rt') :
    Exchange m.rt ((m.without e r).rt.replaced e) rt' m.nextRef ∧
      ∀ x, x ≠ e → rt'.heap x = m.rt.heap x := by
  have hnodup : (m.without e r).rt.routes.Nodup := h.nodup.erase e
  have hout : e ∉ (m.without e r).rt.routes := fun hmem => (h.nodup.mem_erase_iff.mp hmem).1 rfl
  have hother : ∀ x, x ≠ e → rt'.heap x = m.rt.heap x := fun x hx =>
    (hadd.other x hx).trans (store_heap_of_ne _ _ hx)
  refine ⟨⟨fun x hx hne => ?_, fun x _ => ?_, hadd.nodup hnodup hout, fun x hx => ?_⟩, hother⟩
  · rw [hadd.mem_iff hnodup]
    by_cases hxe : x = e
    · exact .inl hxe
    · exact .inr ⟨(mem_erase_of_ne hxe).mpr hx, hne⟩
  · by_cases hxe : x = e
    · rw [hxe, hadd.self]
      simp only [RIPRouting.without, store_heap_self]
      exact ⟨hr.own, hr.dest, hr.netmask⟩
    · rw [hother x hxe]
      exact SameRoute.refl _
  · rcases (hadd.mem_iff hnodup x).mp hx with rfl | ⟨hold, -⟩
    · exact h.fresh x he
    · exact h.fresh x (mem_of_mem_erase hold)

/-- The module's own IPv4 route of the open route is put into its new place. -/
theorem Open.without (h : Open i q m) (he : q.route = some e) (hown : (m.rt.heap e).source = some this)
    (hr : SameRoute (m.rt.heap e) r) (hadd : (m.without e r).rt.Added e rt') :
    Open i q { (m.without e r).replaceDefaultRoute e with rt := rt' } := by
  have hlink := h.link q h.mem e he
  obtain ⟨hex, hother⟩ := Exchange.without h.toWeak hlink.mem hr hadd
  have hroutes : ((m.without e r).replaceDefaultRoute e).ripRoutes =
      m.ripRoutes.map (droppedBy m.rt ((m.without e r).rt.replaced e)) := by
    rw [replaceDefaultRoute_ripRoutes]
    refine congrFun (congrArg List.map (droppedBy_congr fun x hx => ?_)) _
    exact congrArg IPv4Route.source (store_heap_of_ne _ _ (mem_of_replaced_without h.nodup hx).2.1)
  refine h.exchange hroutes ?_ ?_ ?_ ?_
  · simp only [replaceDefaultRoute_nextRef]
    exact hex
  · intro x hx q' hq' he' hsource
    obtain ⟨-, hne, hzero, hzero'⟩ := mem_of_replaced_without h.nodup hx
    -- both would be for the default destination
    obtain ⟨hdest, hlen⟩ := hlink.default hown ((hr.netmask hown).symm.trans hzero')
    obtain ⟨hdest', hlen'⟩ := (h.link q' hq' x he').default hsource hzero
    obtain ⟨j, hj⟩ := mem_iff_getElem?.mp hq'
    by_cases hji : j = i
    · rw [hji, h.here] at hj
      cases hj
      rw [he] at he'
      exact hne (some.inj he').symm
    · exact (h.route_ne hj h.here hji).destination ⟨hdest'.trans hdest.symm, hlen'.trans hlen.symm⟩
  · intro x hx hxe
    rw [he] at hxe
    exact (mem_of_replaced_without h.nodup hx).2.1 (some.inj hxe).symm
  · intro x _ hne
    have hxe : x ≠ e := by
      rintro rfl
      exact hne he
    simp only [hother x hxe]

theorem Open.setMetric {metric : Nat} (h : Open i q m) (hroute : q₀.route = q.route)
    (htype : q₀.type = q.type) (hok : m.setMetric i q₀ metric = .ok m') : Open i { q with metric := metric } m' := by
  have hmod : Open i { q with metric := metric } (m.modifyRoute i fun q => { q with metric := metric }) :=
    h.modify (fun q => { q with metric := metric }) rfl rfl (.inr ⟨rfl, rfl⟩)
  rw [RIPRouting.setMetric] at hok
  split at hok
  case h_1 e hsome hrte =>
    have hlink : Link m.rt q e := h.link q h.mem e (hroute ▸ hsome)
    have hown : (m.rt.heap e).source = some this := hlink.rte (htype ▸ hrte)
    split at hok
    case isTrue hcond =>
      obtain ⟨rt, hrt, hok⟩ := bind_ok.mp hok
      cases hok
      rw [RoutingTable.setMetric] at hrt
      rcases change_cases hrt with ⟨hsame, -⟩ | ⟨-, hout | hcode, -⟩ | ⟨-, -, -, -, hadd⟩
      · exact absurd (congrArg IPv4Route.metric hsame).symm hcond.1
      · have hin := hcond.2
        rw [show (m.modifyRoute i fun q => { q with metric := metric }).rt = m.rt from rfl] at hout hin
        rw [hout] at hin
        cases hin
      · exact absurd hcode (by decide)
      · have hopen : Open i { q with metric := metric } { ((m.modifyRoute i fun q => { q with metric := metric }).without e
            { m.rt.heap e with metric := metric }).replaceDefaultRoute e with rt := rt } :=
          hmod.without (hroute ▸ hsome) hown ⟨Iff.rfl, fun _ => rfl, fun _ => rfl⟩ hadd
        exact hopen
    case isFalse hcond =>
      obtain ⟨rt, hrt, hok⟩ := bind_ok.mp hok
      cases hok
      rw [RoutingTable.setMetric] at hrt
      rcases change_cases hrt with ⟨-, rfl⟩ | ⟨-, -, rfl⟩ | ⟨hne, hin, -, -, -⟩
      · exact hmod
      · exact hmod.store (hroute ▸ hsome) ⟨Iff.rfl, fun _ => rfl, fun _ => rfl⟩
      · refine absurd ⟨fun heq => hne ?_, hin⟩ hcond
        rw [← heq]
  case h_2 =>
    cases hok
    exact hmod

theorem Open.invalidateRoute (h : Open i q m) : Open i (invalidated q) (m.invalidateRoute i) := by
  have hrest {m' : RIPRouting} (hunlink : Open i { q with route := none } m') : Open i (invalidated q)
      (m'.modifyRoute i fun q => { q with metric := RIP_INFINITE_METRIC, changed := true }).triggerUpdate :=
    (hunlink.modify (fun q => { q with metric := RIP_INFINITE_METRIC, changed := true }) rfl rfl (.inl rfl)).triggerUpdate
  rw [RIPRouting.invalidateRoute, h.here]
  cases he : q.route with
  | none =>
    simp only [he]
    exact hrest (h.modify (fun q => { q with route := none }) rfl rfl (.inl rfl))
  | some route =>
    simp only [he]
    exact hrest (h.unlink he)

section

variable (h : Sound m.ripRoutes m.rt m.nextRef)
include h

theorem Sound.invalidateRoute (i : Nat) :
    Sound (m.invalidateRoute i).ripRoutes (m.invalidateRoute i).rt (m.invalidateRoute i).nextRef := by
  cases hq : m.ripRoutes[i]? with
  | none =>
    rw [RIPRouting.invalidateRoute, hq]
    exact h
  | some q => exact (h.opened hq).invalidateRoute.close (Good.invalidated (h.good q (mem_of_getElem? hq)).learned)

theorem Sound.purgeRoute (i : Nat) :
    Sound (m.purgeRoute i).ripRoutes (m.purgeRoute i).rt (m.purgeRoute i).nextRef := by
  rw [RIPRouting.purgeRoute]
  cases hq : m.ripRoutes[i]? with
  | none => exact h
  | some q =>
    have hrest {q' : RIPRoute} {m' : RIPRouting} (hopen : Open i q' m') : Sound (m'.ripRoutes.eraseIdx i) m'.rt m'.nextRef := by
      refine { hopen.toWeak.sublist (eraseIdx_sublist _ _) with good := fun q₁ hq₁ => ?_ }
      obtain ⟨j, hj, hget⟩ := mem_eraseIdx_iff_getElem?.mp hq₁
      exact hopen.good j q₁ hj hget
    cases he : q.route with
    | none =>
      simp only [he]
      exact hrest (h.opened hq)
    | some route =>
      simp only [he]
      exact hrest ((h.opened hq).unlink he)

theorem Sound.checkRouteIsExpired (i : Nat) (q : RIPRoute) :
    Sound (m.checkRouteIsExpired i q).1.ripRoutes (m.checkRouteIsExpired i q).1.rt (m.checkRouteIsExpired i q).1.nextRef := by
  rw [RIPRouting.checkRouteIsExpired]
  split
  · split
    · exact h.purgeRoute i
    · split
      · exact h.invalidateRoute i
      · exact h
  · exact h

end

variable {ie : InterfaceRef} {nextHop sender : IPv4Address} {metric routeTag : Nat}

/-- A learned route with the metric of the response. -/
structure Adopted (ie : InterfaceRef) (metric : Nat) (q : RIPRoute) : Prop where
  type : q.type = .RIP_ROUTE_RTE
  ie : q.ie = some ie
  metric : q.metric = metric

theorem Adopted.good (h : Adopted ie metric q) (hpos : 1 ≤ metric) (hle : metric ≤ RIP_INFINITE_METRIC)
    (hfinite : metric < RIP_INFINITE_METRIC ↔ q.route ≠ none)
    (hie : ∀ e, q.route = some e → (rt.heap e).interfacePtr = some ie) : Good rt q where
  pos := by
    rw [h.metric]
    exact hpos
  le := by
    rw [h.metric]
    exact hle
  finite := by
    rw [h.metric]
    exact hfinite
  learned _ := h.type
  ie e he _ := by
    rw [hie e he, h.ie]

theorem Open.revive_good (h : Open i q m) (hadopted : Adopted ie metric q) (hroute : q.route = none)
    (hdest : q₀.dest = q.dest) (hlen : q₀.prefixLength = q.prefixLength) (hpos : 1 ≤ metric)
    (hlt : metric < RIP_INFINITE_METRIC) (hok : m.revive i q₀ ie nextHop metric = .ok m') :
    ∃ q', Open i q' m' ∧ Good m'.rt q' := by
  obtain ⟨e, hopen, hie⟩ := h.revive hroute hdest hlen hok
  refine ⟨_, hopen, Adopted.good ⟨hadopted.type, hadopted.ie, hadopted.metric⟩ hpos hlt.le ?_ fun e' he' => ?_⟩
  · simp [hlt]
  · cases he'
    exact hie

/-- The IPv4 route of a learned or a lost route is put right. -/
theorem Open.replaceIPv4Route (h : Open i q m) (hfinite : q₀.metric < RIP_INFINITE_METRIC ↔ q₀.route ≠ none)
    (hdest : q₀.dest = q.dest) (hlen : q₀.prefixLength = q.prefixLength)
    (hroute : q₀.route = q.route) (hie : q.ie = some ie) (hmetric : q.metric = metric) (hpos : 1 ≤ metric)
    (hlearned : q.type = .RIP_ROUTE_RTE ∨ (q₀.metric = RIP_INFINITE_METRIC ∧ metric < RIP_INFINITE_METRIC))
    (hle : metric ≤ RIP_INFINITE_METRIC) (hok : m.replaceIPv4Route i q₀ ie nextHop metric = .ok m') :
    ∃ q', Open i q' m' ∧ Good m'.rt q' := by
  rw [RIPRouting.replaceIPv4Route] at hok
  by_cases hinf : q₀.metric = RIP_INFINITE_METRIC
  · have hnone : q.route = none := by
      rw [← hroute]
      by_contra hsome
      have hlt := hfinite.mpr hsome
      omega
    rw [if_pos hinf] at hok
    by_cases hlt : metric < RIP_INFINITE_METRIC
    · rw [if_pos hlt] at hok
      obtain ⟨-, hok⟩ := ensure_bind_ok.mp hok
      have hopen := h.modify (fun q => { q with type := .RIP_ROUTE_RTE, nextHop := nextHop }) rfl rfl (.inl hnone)
      exact hopen.revive_good ⟨rfl, hie, hmetric⟩ hnone hdest hlen hpos hlt hok
    · rw [if_neg hlt] at hok
      cases hok
      have htype : q.type = .RIP_ROUTE_RTE := hlearned.resolve_right fun hboth => hlt hboth.2
      refine ⟨q, h, Adopted.good ⟨htype, hie, hmetric⟩ hpos hle ?_ fun e he => ?_⟩
      · simp [hlt, hnone]
      · rw [hnone] at he
        cases he
  · have htype : q.type = .RIP_ROUTE_RTE := hlearned.resolve_right fun hboth => hinf hboth.1
    rw [if_neg hinf] at hok
    cases hsome : q₀.route with
    | none =>
      rw [hsome] at hok
      cases hok
    | some e =>
      rw [hsome] at hok
      simp only at hok
      have hopen := (h.unlink (hroute ▸ hsome)).modify (fun q => { q with nextHop := nextHop }) rfl rfl (.inl rfl)
      by_cases hlt : metric < RIP_INFINITE_METRIC
      · rw [if_pos hlt] at hok
        exact hopen.revive_good ⟨htype, hie, hmetric⟩ rfl hdest hlen hpos hlt hok
      · rw [if_neg hlt] at hok
        cases hok
        refine ⟨_, hopen, Adopted.good ⟨htype, hie, hmetric⟩ hpos hle ?_ fun e he => by cases he⟩
        simp [hlt]

/-- A learned or a lost route is updated. -/
theorem Sound.updateRoute (h : Open i q m) (hgood : Good m.rt q) (hdest : q₀.dest = q.dest)
    (hlen : q₀.prefixLength = q.prefixLength) (hroute : q₀.route = q.route) (htype : q₀.type = q.type)
    (hmetric : q₀.metric = q.metric) (hpos : 1 ≤ metric) (hle : metric ≤ RIP_INFINITE_METRIC)
    (hlearned : q.type = .RIP_ROUTE_RTE ∨ (q.metric = RIP_INFINITE_METRIC ∧ metric < RIP_INFINITE_METRIC))
    (hok : m.updateRoute i q₀ ie nextHop metric routeTag sender = .ok m') :
    Sound m'.ripRoutes m'.rt m'.nextRef := by
  obtain ⟨m₁, hie, hok⟩ := bind_ok.mp hok
  obtain ⟨m₂, hset, hok⟩ := bind_ok.mp hok
  obtain ⟨m₃, hreplace, hok⟩ := bind_ok.mp hok
  cases hok
  have h₁ := h.setInterface hroute hie
  have h₂ := h₁.setMetric hroute htype hset
  have h₃ := h₂.modify (fun q => { q with sender := sender, tag := routeTag }) rfl rfl (.inr ⟨rfl, rfl⟩)
  obtain ⟨q', h₄, hgood'⟩ := h₃.replaceIPv4Route (by rw [hmetric, hroute]; exact hgood.finite) hdest hlen hroute rfl rfl hpos (by rw [hmetric]; exact hlearned) hle hreplace
  have h₅ : Open i { q' with changed := true } (m₃.modifyRoute i fun q => { q with changed := true }).triggerUpdate :=
    (h₄.modify (fun q => { q with changed := true }) rfl rfl (.inr ⟨rfl, rfl⟩)).triggerUpdate
  have hsame : ∀ {q'' : RIPRoute}, q''.metric = q'.metric → q''.route = q'.route → q''.sender = q'.sender →
      q''.type = q'.type → q''.ie = q'.ie →
      Good (m₃.modifyRoute i fun q => { q with changed := true }).triggerUpdate.rt q'' := by
    intro q'' hm hr hs ht hi
    rw [triggerUpdate_rt]
    refine ⟨?_, ?_, ?_, ?_, ?_⟩
    · rw [hm]
      exact hgood'.pos
    · rw [hm]
      exact hgood'.le
    · rw [hm, hr]
      exact hgood'.finite
    · rw [hs, ht]
      exact hgood'.learned
    · rw [hr, hi]
      exact hgood'.ie
  split
  · exact (h₅.close (hsame rfl rfl rfl rfl rfl)).invalidateRoute i
  · generalize (m₃.modifyRoute i fun q => { q with changed := true }).triggerUpdate.simTime = time
    exact (h₅.modify (fun q => { q with lastUpdateTime := time }) rfl rfl (.inr ⟨rfl, rfl⟩)).close
      (hsame rfl rfl rfl rfl rfl)

end Inet.Rip
