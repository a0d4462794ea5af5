import Inetmanet.Ipv4.Routes
import Inetmanet.Rip.RIPRouting

/-!
# What the operations leave of the RIP routes

An operation works on one route; the others stay as they are, or are invalidated
when the routing table has dropped the IPv4 route they stand for.
-/
namespace Inet.Rip

open Ipv4 List RoutingTable IPv4Address

/-- What no operation on routes changes. -/
structure Settings where
  ift : List InterfaceEntry
  ripInterfaces : List RIPInterfaceEntry
  startupTimer : Option Nat
  mode : Mode
  ripUdpPort : Nat
  updateInterval : Nat
  routeExpiryTime : Nat
  routePurgeTime : Nat
  simTime : Nat

namespace RIPRouting

def settings (m : RIPRouting) : Settings :=
  ⟨m.ift, m.ripInterfaces, m.startupTimer, m.mode, m.ripUdpPort, m.updateInterval, m.routeExpiryTime,
    m.routePurgeTime, m.simTime⟩

/-- A route is left alone, or has lost its IPv4 route. -/
def Lost (q q' : RIPRoute) : Prop := q' = q ∨ q' = invalidated q

theorem Lost.refl (q : RIPRoute) : Lost q q := .inl rfl

variable {q' : RIPRoute} {length prefixLength : Int} {dest address : IPv4Address} {route : RouteRef}
    {incomingIe ripInterface : RIPInterfaceEntry} {sent : List Sent}

theorem Lost.trans {q q'' : RIPRoute} (h : Lost q q') (h' : Lost q' q'') : Lost q q'' := by
  rcases h with rfl | rfl
  · exact h'
  · rcases h' with rfl | rfl
    · exact .inr rfl
    · exact .inr rfl

/-- Nothing happens but that routes are lost. -/
structure Losing (m m' : RIPRouting) : Prop where
  settings : m'.settings = m.settings
  length : m'.ripRoutes.length = m.ripRoutes.length
  lost : ∀ (j : Nat) (q' : RIPRoute), m'.ripRoutes[j]? = some q' → ∃ q, m.ripRoutes[j]? = some q ∧ Lost q q'

/-- The route at `i` has the property `P` afterwards, and nothing happens to the others but
that they are lost. -/
structure Touched (i : Nat) (P : RIPRoute → Prop) (m m' : RIPRouting) : Prop where
  settings : m'.settings = m.settings
  length : m'.ripRoutes.length = m.ripRoutes.length
  other : ∀ (j : Nat) (q' : RIPRoute), j ≠ i → m'.ripRoutes[j]? = some q' →
    ∃ q, m.ripRoutes[j]? = some q ∧ Lost q q'
  self : ∀ q', m'.ripRoutes[i]? = some q' → P q'

variable {m m' m'' : RIPRouting} {i : Nat} {P P' : RIPRoute → Prop} {q : RIPRoute}

theorem Losing.refl (m : RIPRouting) : Losing m m := ⟨rfl, rfl, fun _ q' h => ⟨q', h, Lost.refl q'⟩⟩

/-- Only the settings and the routes are looked at. -/
theorem Losing.of_eq (hsettings : m'.settings = m.settings) (hroutes : m'.ripRoutes = m.ripRoutes) : Losing m m' :=
  ⟨hsettings, by rw [hroutes], fun _ q' h => ⟨q', hroutes ▸ h, Lost.refl q'⟩⟩

theorem Losing.trans (h : Losing m m') (h' : Losing m' m'') : Losing m m'' where
  settings := h'.settings.trans h.settings
  length := h'.length.trans h.length
  lost j q'' hq'' := by
    obtain ⟨q', hq', hlost'⟩ := h'.lost j q'' hq''
    obtain ⟨q, hq, hlost⟩ := h.lost j q' hq'
    exact ⟨q, hq, hlost.trans hlost'⟩

theorem Losing.mem (h : Losing m m') (hq' : q' ∈ m'.ripRoutes) : ∃ q ∈ m.ripRoutes, Lost q q' := by
  obtain ⟨j, hj⟩ := mem_iff_getElem?.mp hq'
  obtain ⟨q, hq, hlost⟩ := h.lost j q' hj
  exact ⟨q, mem_of_getElem? hq, hlost⟩

theorem Touched.start (hq : m.ripRoutes[i]? = some q) (hP : P q) : Touched i P m m where
  settings := rfl
  length := rfl
  other _ q' _ h := ⟨q', h, Lost.refl q'⟩
  self q' h := by
    rw [hq] at h
    cases h
    exact hP

theorem Touched.imp (h : Touched i P m m') (hP : ∀ q, P q → P' q) : Touched i P' m m' :=
  ⟨h.settings, h.length, h.other, fun q' hq' => hP q' (h.self q' hq')⟩

theorem Touched.losing (h : Touched i P m m') (h' : Losing m' m'') (hP : ∀ q, P q → P (invalidated q)) :
    Touched i P m m'' where
  settings := h'.settings.trans h.settings
  length := h'.length.trans h.length
  other j q'' hj hq'' := by
    obtain ⟨q', hq', hlost'⟩ := h'.lost j q'' hq''
    obtain ⟨q, hq, hlost⟩ := h.other j q' hj hq'
    exact ⟨q, hq, hlost.trans hlost'⟩
  self q'' hq'' := by
    obtain ⟨q', hq', rfl | rfl⟩ := h'.lost i q'' hq''
    · exact h.self _ hq'
    · exact hP q' (h.self q' hq')

theorem modifyRoute_get_self (m : RIPRouting) (i : Nat) (f : RIPRoute → RIPRoute) :
    (m.modifyRoute i f).ripRoutes[i]? = (m.ripRoutes[i]?).map f := by simp [modifyRoute]

theorem modifyRoute_get_ne (m : RIPRouting) (f : RIPRoute → RIPRoute) {j : Nat} (h : j ≠ i) :
    (m.modifyRoute i f).ripRoutes[j]? = m.ripRoutes[j]? := by
  simp [modifyRoute, Ne.symm h]

theorem Touched.modify (h : Touched i P m m') (f : RIPRoute → RIPRoute) (hP : ∀ q, P q → P' (f q)) :
    Touched i P' m (m'.modifyRoute i f) where
  settings := h.settings
  length := by
    rw [← h.length]
    simp [modifyRoute]
  other j q' hj hq' := by
    rw [modifyRoute_get_ne _ _ hj] at hq'
    exact h.other j q' hj hq'
  self q' hq' := by
    rw [modifyRoute_get_self, Option.map_eq_some_iff] at hq'
    obtain ⟨q, hq, rfl⟩ := hq'
    exact hP q (h.self q hq)

theorem Touched.of_modify {f : RIPRoute → RIPRoute} (hq : m.ripRoutes[i]? = some q)
    (hsettings : m'.settings = m.settings) (hroutes : m'.ripRoutes = m.ripRoutes.modify i f) (hP : P (f q)) :
    Touched i P m m' := by
  have hmod : Touched i P m (m.modifyRoute i f) := by
    refine (Touched.start (P := (· = q)) hq rfl).modify f fun q' hq' => ?_
    rw [hq']
    exact hP
  refine ⟨hsettings, ?_, ?_, ?_⟩
  all_goals rw [hroutes]
  · exact hmod.length
  · exact hmod.other
  · exact hmod.self

/-- A route that comes from one with the property `R` has it too. -/
theorem Touched.mem (h : Touched i P m m') (hq' : q' ∈ m'.ripRoutes) :
    P q' ∨ ∃ q ∈ m.ripRoutes, Lost q q' := by
  obtain ⟨j, hj⟩ := mem_iff_getElem?.mp hq'
  by_cases hji : j = i
  · exact .inl (h.self q' (hji ▸ hj))
  · obtain ⟨q, hq, hlost⟩ := h.other j q' hji hj
    exact .inr ⟨q, mem_of_getElem? hq, hlost⟩

section

variable (m)

theorem triggerUpdate_cases :
    m.triggerUpdate = { m with draws := m.triggerUpdate.draws, triggeredUpdateTimer := m.triggerUpdate.triggeredUpdateTimer } := by
  rw [triggerUpdate]
  split <;> rfl

theorem triggerUpdate_settings : m.triggerUpdate.settings = m.settings := by
  rw [triggerUpdate_cases]
  rfl

theorem triggerUpdate_ripRoutes : m.triggerUpdate.ripRoutes = m.ripRoutes := by
  rw [triggerUpdate_cases]

theorem triggerUpdate_rt : m.triggerUpdate.rt = m.rt := by rw [triggerUpdate_cases]

theorem triggerUpdate_nextRef : m.triggerUpdate.nextRef = m.nextRef := by rw [triggerUpdate_cases]

end

/-- Several requests for an update are no more than one as far as the routes are concerned. -/
theorem triggerUpdates (n : Nat) (m : RIPRouting) :
    (triggerUpdate^[n] m).settings = m.settings ∧ (triggerUpdate^[n] m).ripRoutes = m.ripRoutes ∧
      (triggerUpdate^[n] m).rt = m.rt ∧ (triggerUpdate^[n] m).nextRef = m.nextRef := by
  induction n generalizing m with
  | zero => exact ⟨rfl, rfl, rfl, rfl⟩
  | succ n ih =>
    obtain ⟨hsettings, hroutes, hrt, hnext⟩ := ih m.triggerUpdate
    exact ⟨hsettings.trans (triggerUpdate_settings m), hroutes.trans (triggerUpdate_ripRoutes m),
      hrt.trans (triggerUpdate_rt m), hnext.trans (triggerUpdate_nextRef m)⟩

/-- A route that was made by others is dropped. -/
def dropped (rt : RoutingTable) (route : RouteRef) (q : RIPRoute) : RIPRoute :=
  if q.route = some route ∧ (rt.heap route).source ≠ some this then invalidated q else q

theorem routeDeleted_ripRoutes (m : RIPRouting) (route : RouteRef) :
    (m.routeDeleted route).ripRoutes = m.ripRoutes.map (dropped m.rt route) := by
  rw [routeDeleted]
  by_cases hown : (m.rt.heap route).source = some this
  · rw [if_pos hown]
    have hid : dropped m.rt route = id := by
      funext q
      rw [dropped, if_neg fun h => h.2 hown]
      rfl
    rw [hid, map_id]
  · rw [if_neg hown, (triggerUpdates _ _).2.1]
    apply map_congr_left
    intro q _
    simp [dropped, hown]

theorem routeDeleted_settings (m : RIPRouting) (route : RouteRef) : (m.routeDeleted route).settings = m.settings := by
  rw [routeDeleted]
  split
  · rfl
  · exact (triggerUpdates _ _).1

theorem routeDeleted_nextRef (m : RIPRouting) (route : RouteRef) : (m.routeDeleted route).nextRef = m.nextRef := by
  rw [routeDeleted]
  split
  · rfl
  · exact (triggerUpdates _ _).2.2.2

theorem lost_dropped (rt : RoutingTable) (route : RouteRef) (q : RIPRoute) : Lost q (dropped rt route q) := by
  rw [dropped]
  split
  · exact .inr rfl
  · exact .inl rfl

theorem routeDeleted_losing (m : RIPRouting) (route : RouteRef) : Losing m (m.routeDeleted route) where
  settings := routeDeleted_settings m route
  length := by rw [routeDeleted_ripRoutes, length_map]
  lost j q' hq' := by
    rw [routeDeleted_ripRoutes, getElem?_map, Option.map_eq_some_iff] at hq'
    obtain ⟨q, hq, rfl⟩ := hq'
    exact ⟨q, hq, lost_dropped m.rt route q⟩

/-- The table may be another one, if the clock is the same. -/
theorem Losing.with_rt (h : Losing m m') {rt : RoutingTable} (htime : rt.simTime = m.simTime) :
    Losing m { m' with rt := rt } where
  settings := by
    have hold := h.settings
    simp only [RIPRouting.settings, simTime, Settings.mk.injEq] at hold htime ⊢
    exact ⟨hold.1, hold.2.1, hold.2.2.1, hold.2.2.2.1, hold.2.2.2.2.1, hold.2.2.2.2.2.1, hold.2.2.2.2.2.2.1,
      hold.2.2.2.2.2.2.2.1, htime⟩
  length := h.length
  lost := h.lost

theorem deleteIPv4Route_losing (m : RIPRouting) (route : RouteRef) : Losing m (m.deleteIPv4Route route) := by
  rw [deleteIPv4Route]
  split
  · exact (routeDeleted_losing m route).with_rt (deleteRoute_simTime m.rt route)
  · exact Losing.refl m

theorem replaceDefaultRoute_losing (m : RIPRouting) (route : RouteRef) : Losing m (m.replaceDefaultRoute route) := by
  rw [replaceDefaultRoute]
  split
  · split
    · exact Losing.refl m
    · exact routeDeleted_losing m _
  · exact Losing.refl m

theorem makeNetmask_ok {netmask : IPv4Address} (h : makeNetmask length = .ok netmask) :
    0 ≤ length ∧ length ≤ 32 ∧ netmask = _makeNetmask length.toNat := by
  rw [makeNetmask] at h
  split at h
  · cases h
  · cases h
    exact ⟨by omega, by omega, rfl⟩

theorem newIPv4Route_losing (m : RIPRouting) (entry : IPv4Route) : Losing m (m.newIPv4Route entry) :=
  Losing.of_eq rfl rfl

theorem newIPv4Route_heap_self (m : RIPRouting) (entry : IPv4Route) :
    (m.newIPv4Route entry).rt.heap m.nextRef = entry := store_heap_self _ _ _

/-- What a route that the module adds looks like in the table. -/
structure AddedIPv4Route (m m' : RIPRouting) (route : RouteRef) (dest : IPv4Address) (prefixLength : Int)
    (ie : InterfaceRef) (nextHop : IPv4Address) : Prop where
  losing : Losing m m'
  ref : route = m.nextRef
  dest : (m'.rt.heap route).dest = dest
  range : 0 ≤ prefixLength ∧ prefixLength ≤ 32
  netmask : (m'.rt.heap route).netmask = _makeNetmask prefixLength.toNat
  gateway : (m'.rt.heap route).gateway = nextHop
  interfacePtr : (m'.rt.heap route).interfacePtr = some ie
  source : (m'.rt.heap route).source = some this
  prefixOnly : (m'.rt.heap route).PrefixOnly

theorem addIPv4Route_ok {ie : InterfaceRef} {nextHop : IPv4Address}
    {metric : Nat} (h : m.addIPv4Route dest prefixLength ie nextHop metric = .ok (m', route)) :
    AddedIPv4Route m m' route dest prefixLength ie nextHop := by
  obtain ⟨netmask, hmask, h⟩ := bind_ok.mp h
  obtain ⟨hlo, hhi, rfl⟩ := makeNetmask_ok hmask
  obtain ⟨rt, hadd, h⟩ := bind_ok.mp h
  cases h
  have hadded := addRoute_added hadd
  have hself := hadded.self
  rw [newIPv4Route_heap_self] at hself
  have hmasked := hadded.prefixOnly
  rw [newIPv4Route_heap_self] at hmasked
  refine ⟨?_, rfl, ?_, ⟨hlo, hhi⟩, ?_, ?_, ?_, ?_, ?_⟩
  · exact (newIPv4Route_losing m _).trans ((replaceDefaultRoute_losing _ _).with_rt hadded.simTime)
  all_goals simp only [hself]
  exact hmasked

theorem without_losing (m : RIPRouting) (route : RouteRef) (entry : IPv4Route) : Losing m (m.without route entry) :=
  Losing.of_eq rfl rfl

theorem setInterface_touched {ie : InterfaceRef} (h : Touched i P m m')
    (hP : ∀ q, P q → P' { q with ie := some ie }) (hok : m'.setInterface i q ie = .ok m'') : Touched i P' m m'' := by
  have hmod := h.modify (fun q => { q with ie := some ie }) hP
  rw [setInterface] at hok
  split at hok
  · obtain ⟨rt, hrt, hok⟩ := bind_ok.mp hok
    cases hok
    have hl := (Losing.refl (m'.modifyRoute i fun q => { q with ie := some ie })).with_rt (setInterface_simTime hrt)
    exact ⟨hl.settings.trans hmod.settings, hmod.length, hmod.other, hmod.self⟩
  · cases hok
    exact hmod

theorem setMetric_touched {metric : Nat} (h : Touched i P m m')
    (hP : ∀ q, P q → P' { q with metric := metric }) (hlost : ∀ q, P' q → P' (invalidated q))
    (hok : m'.setMetric i q metric = .ok m'') : Touched i P' m m'' := by
  have hmod := h.modify (fun q => { q with metric := metric }) hP
  refine hmod.losing ?_ hlost
  rw [setMetric] at hok
  split at hok
  · split at hok
    · obtain ⟨rt, hrt, hok⟩ := bind_ok.mp hok
      cases hok
      exact ((without_losing _ _ _).trans (replaceDefaultRoute_losing _ _)).with_rt (setMetric_simTime hrt)
    · obtain ⟨rt, hrt, hok⟩ := bind_ok.mp hok
      cases hok
      exact (Losing.refl _).with_rt (setMetric_simTime hrt)
  · cases hok
    exact Losing.refl _

/-- Where the touched route comes from one that was there, it is lost like the others. -/
theorem Touched.toLosing (h : Touched i P m m')
    (hP : ∀ q', P q' → ∃ q, m.ripRoutes[i]? = some q ∧ Lost q q') : Losing m m' where
  settings := h.settings
  length := h.length
  lost j q' hq' := by
    by_cases hj : j = i
    · rw [hj] at hq' ⊢
      exact hP q' (h.self q' hq')
    · exact h.other j q' hj hq'

theorem triggerUpdate_losing (m : RIPRouting) : Losing m m.triggerUpdate :=
  Losing.of_eq (triggerUpdate_settings m) (triggerUpdate_ripRoutes m)

theorem invalidateRoute_touched (hq : m.ripRoutes[i]? = some q) :
    Touched i (· = invalidated q) m (m.invalidateRoute i) := by
  have hstart : Touched i (· = q) m m := Touched.start hq rfl
  have hnone : Touched i (fun q' => q' = { q with route := none } ∨ q' = invalidated q) m
      (m.modifyRoute i fun q => { q with route := none }) :=
    hstart.modify _ fun _ h => .inl (h ▸ rfl)
  have hrest {m' : RIPRouting} (hdel : Touched i (fun q' => q' = { q with route := none } ∨ q' = invalidated q) m m') :
      Touched i (· = invalidated q) m
        (m'.modifyRoute i fun q => { q with metric := RIP_INFINITE_METRIC, changed := true }).triggerUpdate := by
    refine Touched.losing (hdel.modify _ ?_) (triggerUpdate_losing _) fun _ h => by rw [h]; rfl
    rintro _ (rfl | rfl)
    · rfl
    · rfl
  rw [invalidateRoute, hq]
  cases he : q.route with
  | none =>
    simp only [he]
    exact hrest hnone
  | some route =>
    simp only [he]
    refine hrest (hnone.losing (deleteIPv4Route_losing _ route) ?_)
    rintro _ (rfl | rfl)
    · exact .inr rfl
    · exact .inr rfl

theorem invalidateRoute_losing (m : RIPRouting) (i : Nat) : Losing m (m.invalidateRoute i) := by
  cases hq : m.ripRoutes[i]? with
  | none =>
    rw [invalidateRoute, hq]
    exact Losing.refl m
  | some q =>
    refine (invalidateRoute_touched hq).toLosing fun q' hq' => ⟨q, hq, ?_⟩
    rw [hq']
    exact .inr rfl

/-- A route on its way to what a response tells. -/
structure Adopting (q : RIPRoute) (ie : InterfaceRef) (metric : Nat) (q' : RIPRoute) : Prop where
  dest : q'.dest = q.dest
  prefixLength : q'.prefixLength = q.prefixLength
  ie : q'.ie = some ie
  metric : q'.metric = RIP_INFINITE_METRIC ∨ q'.metric = metric

/-- A route after it has been updated. -/
structure Updated (q : RIPRoute) (ie : InterfaceRef) (nextHop : IPv4Address) (metric : Nat) (sender : IPv4Address)
    (q' : RIPRoute) : Prop where
  dest : q'.dest = q.dest
  prefixLength : q'.prefixLength = q.prefixLength
  sender : q'.sender = sender
  nextHop : q'.nextHop = nextHop
  ie : q'.ie = some ie
  metric : q'.metric = RIP_INFINITE_METRIC ∨ q'.metric = metric

variable {q : RIPRoute} {ie : InterfaceRef} {nextHop sender : IPv4Address} {metric : Nat} {routeTag : Nat}
  {changedOnly : Bool}

theorem Adopting.invalidated (h : Adopting q ie metric q') : Adopting q ie metric (invalidated q') :=
  ⟨h.dest, h.prefixLength, h.ie, .inl rfl⟩

theorem Updated.invalidated (h : Updated q ie nextHop metric sender q') :
    Updated q ie nextHop metric sender (RIPRouting.invalidated q') :=
  ⟨h.dest, h.prefixLength, h.sender, h.nextHop, h.ie, .inl rfl⟩

theorem Adopting.updated (h : Adopting q ie metric q') (hsender : q'.sender = sender)
    (hnext : q'.nextHop = nextHop) : Updated q ie nextHop metric sender q' :=
  ⟨h.dest, h.prefixLength, hsender, hnext, h.ie, h.metric⟩

theorem revive_touched (h : Touched i (Updated q ie nextHop metric sender) m m')
    (hok : m'.revive i q ie nextHop metric = .ok m'') : Touched i (Updated q ie nextHop metric sender) m m'' := by
  obtain ⟨⟨m₁, route⟩, hadd, hok⟩ := bind_ok.mp hok
  cases hok
  refine (h.losing (addIPv4Route_ok hadd).losing fun _ hq => hq.invalidated).modify _ fun q' hq' => ?_
  exact ⟨hq'.dest, hq'.prefixLength, hq'.sender, hq'.nextHop, hq'.ie, hq'.metric⟩

/-- Where neither the old nor the new metric is infinite, the next hop is set. -/
theorem replaceIPv4Route_touched (h : Touched i (fun q' => Adopting q ie metric q' ∧ q'.sender = sender) m m')
    (hfinite : q.metric ≠ RIP_INFINITE_METRIC ∨ metric < RIP_INFINITE_METRIC)
    (hok : m'.replaceIPv4Route i q ie nextHop metric = .ok m'') :
    Touched i (Updated q ie nextHop metric sender) m m'' := by
  have hnext : ∀ q', Adopting q ie metric q' ∧ q'.sender = sender →
      Updated q ie nextHop metric sender { q' with nextHop := nextHop } := fun q' hq' =>
    Adopting.updated ⟨hq'.1.dest, hq'.1.prefixLength, hq'.1.ie, hq'.1.metric⟩ hq'.2 rfl
  rw [replaceIPv4Route] at hok
  by_cases hinf : q.metric = RIP_INFINITE_METRIC
  · have hlt : metric < RIP_INFINITE_METRIC := hfinite.resolve_left (not_not.mpr hinf)
    rw [if_pos hinf, if_pos hlt] at hok
    obtain ⟨-, hok⟩ := ensure_bind_ok.mp hok
    refine revive_touched (h.modify _ fun q' hq' => ?_) hok
    have hset := hnext q' hq'
    exact ⟨hset.dest, hset.prefixLength, hset.sender, hset.nextHop, hset.ie, hset.metric⟩
  · rw [if_neg hinf] at hok
    cases hroute : q.route with
    | none =>
      rw [hroute] at hok
      cases hok
    | some route =>
      rw [hroute] at hok
      have hdel : Touched i (fun q' => Adopting q ie metric q' ∧ q'.sender = sender) m
          ((m'.modifyRoute i fun q => { q with route := none }).deleteIPv4Route route) := by
        refine Touched.losing (h.modify _ fun q' hq' => ?_) (deleteIPv4Route_losing _ route)
          fun q' hq' => ⟨hq'.1.invalidated, hq'.2⟩
        exact ⟨⟨hq'.1.dest, hq'.1.prefixLength, hq'.1.ie, hq'.1.metric⟩, hq'.2⟩
      have hset := hdel.modify (fun q => { q with nextHop := nextHop }) hnext
      simp only at hok
      split at hok
      · exact revive_touched hset hok
      · cases hok
        exact hset

theorem updateRoute_touched (h : Touched i (fun q' => q'.dest = q.dest ∧ q'.prefixLength = q.prefixLength) m m')
    (hfinite : q.metric ≠ RIP_INFINITE_METRIC ∨ metric < RIP_INFINITE_METRIC)
    (hok : m'.updateRoute i q ie nextHop metric routeTag sender = .ok m'') :
    Touched i (Updated q ie nextHop metric sender) m m'' := by
  obtain ⟨m₁, hie, hok⟩ := bind_ok.mp hok
  have h₁ : Touched i (fun q' => q'.dest = q.dest ∧ q'.prefixLength = q.prefixLength ∧ q'.ie = some ie) m m₁ :=
    setInterface_touched h (fun q' hq' => ⟨hq'.1, hq'.2, rfl⟩) hie
  obtain ⟨m₂, hmetric, hok⟩ := bind_ok.mp hok
  have h₂ : Touched i (Adopting q ie metric) m m₂ :=
    setMetric_touched h₁ (fun q' hq' => ⟨hq'.1, hq'.2.1, hq'.2.2, .inr rfl⟩) (fun _ hq' => hq'.invalidated) hmetric
  have h₃ : Touched i (fun q' => Adopting q ie metric q' ∧ q'.sender = sender) m
      (m₂.modifyRoute i fun q => { q with sender := sender, tag := routeTag }) :=
    h₂.modify _ fun q' hq' => ⟨⟨hq'.dest, hq'.prefixLength, hq'.ie, hq'.metric⟩, rfl⟩
  obtain ⟨m₄, hreplace, hok⟩ := bind_ok.mp hok
  have h₄ : Touched i (Updated q ie nextHop metric sender) m (m₄.modifyRoute i fun q => { q with changed := true }) :=
    (replaceIPv4Route_touched h₃ hfinite hreplace).modify _ fun q' hq' =>
      ⟨hq'.dest, hq'.prefixLength, hq'.sender, hq'.nextHop, hq'.ie, hq'.metric⟩
  have h₅ := h₄.losing (triggerUpdate_losing _) fun _ hq' => hq'.invalidated
  cases hok
  split
  · exact h₅.losing (invalidateRoute_losing _ i) fun _ hq' => hq'.invalidated
  · exact h₅.modify _ fun q' hq' => ⟨hq'.dest, hq'.prefixLength, hq'.sender, hq'.nextHop, hq'.ie, hq'.metric⟩

/-- An entry sets at most the time of a route. -/
structure Kept (q q' : RIPRoute) : Prop where
  dest : q'.dest = q.dest
  prefixLength : q'.prefixLength = q.prefixLength
  metric : q'.metric = q.metric
  sender : q'.sender = q.sender
  nextHop : q'.nextHop = q.nextHop
  ie : q'.ie = q.ie

/-- An entry leaves the route it is about, or updates it. -/
theorem receiveEntry_touched (hq : m.ripRoutes[i]? = some q) (hle : metric ≤ RIP_INFINITE_METRIC)
    (hok : m.receiveEntry i q ie nextHop metric routeTag sender = .ok m') :
    Touched i (fun q' => Kept q q' ∨ Updated q ie nextHop metric sender q') m m' := by
  have hsame : Touched i (Kept q) m m := Touched.start hq ⟨rfl, rfl, rfl, rfl, rfl, rfl⟩
  have htime : Touched i (Kept q) m
      (if q.sender = sender then m.modifyRoute i fun q => { q with lastUpdateTime := m.simTime } else m) := by
    split
    · exact hsame.modify _ fun q' hq' => ⟨hq'.dest, hq'.prefixLength, hq'.metric, hq'.sender, hq'.nextHop, hq'.ie⟩
    · exact hsame
  rw [receiveEntry] at hok
  split at hok
  · cases hok
    exact hsame.imp fun q' hq' => .inl hq'
  · simp only at hok
    split at hok
    case isTrue hadopts =>
      have hfinite : q.metric ≠ RIP_INFINITE_METRIC ∨ metric < RIP_INFINITE_METRIC := by omega
      have hup := updateRoute_touched (htime.imp fun q' hq' => ⟨hq'.dest, hq'.prefixLength⟩) hfinite hok
      exact hup.imp fun q' hq' => .inr hq'
    case isFalse =>
      cases hok
      exact htime.imp fun q' hq' => .inl hq'

theorem getNetmaskLength_makeNetmask_fin : ∀ n : Fin 33,
    getNetmaskLength (_makeNetmask n.val) = n.val := by decide

theorem getNetmaskLength_makeNetmask (hlo : 0 ≤ length) (hhi : length ≤ 32) :
    (getNetmaskLength (_makeNetmask length.toNat) : Int) = length := by
  have hfin := getNetmaskLength_makeNetmask_fin ⟨length.toNat, by omega⟩
  simp only at hfin
  omega

/-- A route that has been learned from a response. -/
structure Learned (dest : IPv4Address) (prefixLength : Int) (ie : InterfaceRef) (nextHop : IPv4Address) (metric : Nat)
    (sender : IPv4Address) (time : Nat) (q : RIPRoute) : Prop where
  dest : q.dest = dest
  prefixLength : q.prefixLength = prefixLength
  type : q.type = .RIP_ROUTE_RTE
  metric : q.metric = metric
  sender : q.sender = sender
  nextHop : q.nextHop = nextHop
  ie : q.ie = some ie
  lastUpdateTime : q.lastUpdateTime = time

/-- A route is added at the end. -/
theorem addRoute_ok (hok : m.addRoute dest prefixLength ie nextHop metric routeTag sender = .ok m') :
    ∃ m₁ route, m.addIPv4Route dest prefixLength ie nextHop metric = .ok (m₁, route) ∧
      m'.settings = m.settings ∧ m'.rt = m₁.rt ∧ m'.nextRef = m₁.nextRef ∧
      ∃ q, Learned dest prefixLength ie nextHop metric sender m.simTime q ∧ q.route = some route ∧
        m'.ripRoutes = m₁.ripRoutes ++ [q] := by
  obtain ⟨⟨m₁, route⟩, hadd, hok⟩ := bind_ok.mp hok
  have hadded := addIPv4Route_ok hadd
  have htime : m₁.simTime = m.simTime := congrArg Settings.simTime hadded.losing.settings
  cases hok
  refine ⟨m₁, route, hadd, ?_, triggerUpdate_rt _, triggerUpdate_nextRef _,
    { RIPRoute.new route (m₁.rt.heap route) .RIP_ROUTE_RTE metric routeTag with
      sender := sender, lastUpdateTime := m₁.simTime, changed := true }, ?_, rfl, triggerUpdate_ripRoutes _⟩
  · exact (triggerUpdate_settings _).trans hadded.losing.settings
  · refine ⟨hadded.dest, ?_, rfl, rfl, rfl, hadded.gateway, hadded.interfacePtr, htime⟩
    simp only [RIPRoute.new, hadded.netmask]
    exact getNetmaskLength_makeNetmask hadded.range.1 hadded.range.2

theorem findRoute_some (h : m.findRoute dest prefixLength = some i) :
    ∃ q, m.ripRoutes[i]? = some q ∧ q.dest = dest ∧ q.prefixLength = prefixLength := by
  obtain ⟨hlt, hcond, -⟩ := findIdx?_eq_some_iff_getElem.mp h
  refine ⟨m.ripRoutes[i], getElem?_eq_getElem hlt, ?_⟩
  simpa using hcond

theorem findRoute_none (h : m.findRoute dest prefixLength = none) :
    ∀ q ∈ m.ripRoutes, ¬ (q.dest = dest ∧ q.prefixLength = prefixLength) := by
  intro q hq hsame
  have hno := findIdx?_eq_none_iff.mp h q hq
  simp [hsame.1, hsame.2] at hno

variable {entry : RIPEntry}

/-- An entry updates the route to its destination, or adds one. -/
theorem processEntry_cases
    (hok : m.processEntry incomingIe sender entry = .ok m') :
    (m' = m ∧ min (entry.metric + incomingIe.metric) RIP_INFINITE_METRIC = RIP_INFINITE_METRIC) ∨
    (∃ i q, m.ripRoutes[i]? = some q ∧ q.dest = entry.address ∧ q.prefixLength = entry.prefixLength ∧
      m.receiveEntry i q incomingIe.ie (if entry.nextHop = 0 then sender else entry.nextHop)
        (min (entry.metric + incomingIe.metric) RIP_INFINITE_METRIC) entry.routeTag sender = .ok m') ∨
    ((∀ q ∈ m.ripRoutes, ¬ (q.dest = entry.address ∧ q.prefixLength = entry.prefixLength)) ∧
      min (entry.metric + incomingIe.metric) RIP_INFINITE_METRIC ≠ RIP_INFINITE_METRIC ∧
      m.addRoute entry.address entry.prefixLength incomingIe.ie (if entry.nextHop = 0 then sender else entry.nextHop)
        (min (entry.metric + incomingIe.metric) RIP_INFINITE_METRIC) entry.routeTag sender = .ok m') := by
  rw [processEntry] at hok
  cases hfind : m.findRoute entry.address entry.prefixLength with
  | some i =>
    obtain ⟨q, hq, hdest, hlen⟩ := findRoute_some hfind
    simp only [hfind, hq] at hok
    exact .inr (.inl ⟨i, q, hq, hdest, hlen, hok⟩)
  | none =>
    simp only [hfind] at hok
    split at hok
    case isTrue hfinite => exact .inr (.inr ⟨findRoute_none hfind, hfinite, hok⟩)
    case isFalse hinf =>
      cases hok
      exact .inl ⟨rfl, not_not.mp hinf⟩

theorem processEntry_settings
    (hok : m.processEntry incomingIe sender entry = .ok m') : m'.settings = m.settings := by
  rcases processEntry_cases hok with ⟨rfl, -⟩ | ⟨i, q, hq, -, -, hreceive⟩ | ⟨-, -, hadd⟩
  · rfl
  · exact (receiveEntry_touched hq (Nat.min_le_right _ _) hreceive).settings
  · obtain ⟨m₁, route, -, hsettings, -⟩ := addRoute_ok hadd
    exact hsettings

theorem processEntries_settings {entries : List RIPEntry}
    (hok : m.processEntries incomingIe sender entries = .ok m') : m'.settings = m.settings := by
  induction entries generalizing m with
  | nil =>
    cases hok
    rfl
  | cons entry entries ih =>
    obtain ⟨m₁, hentry, hrest⟩ := bind_ok.mp hok
    exact (ih hrest).trans (processEntry_settings hentry)

theorem processResponse_settings {packet : RIPPacket} {ctrlInfo : UDPDataIndication}
    (hok : m.processResponse packet ctrlInfo = .ok m') : m'.settings = m.settings := by
  rw [processResponse] at hok
  split at hok
  · cases hok
    rfl
  · split at hok
    · cases hok
      rfl
    · exact processEntries_settings hok

theorem invalidateRoutes_losing (m : RIPRouting) (ie : InterfaceRef) (positions : List Nat) :
    Losing m (m.invalidateRoutes ie positions) := by
  induction positions generalizing m with
  | nil => exact Losing.refl m
  | cons i positions ih =>
    rw [invalidateRoutes]
    split
    · exact (invalidateRoute_losing m i).trans (ih _)
    · exact ih m

theorem deleteInterfaceRoutes_losing (m : RIPRouting) (routes : List RouteRef) :
    Losing m (m.deleteInterfaceRoutes routes) := by
  induction routes generalizing m with
  | nil => exact Losing.refl m
  | cons route routes ih => exact (deleteIPv4Route_losing m route).trans (ih _)

/-- A RIP route for the route of an interface. -/
def imported (m : RIPRouting) (route : RouteRef) (ie : InterfaceRef) : RIPRoute :=
  { RIPRoute.new route (m.rt.heap route) .RIP_ROUTE_INTERFACE (m.getInterfaceMetric ie) 0 with ie := some ie }

/-- The RIP route of an interface whose route is there again. -/
def readded (m : RIPRouting) (route : RouteRef) (ie : InterfaceRef) (q : RIPRoute) : RIPRoute :=
  { q with route := some route, metric := m.getInterfaceMetric ie, changed := true }

theorem localInterface_some {entry : IPv4Route} (h : m.localInterface entry = some ie) :
    entry.source = some (.interface ie) := by
  rw [localInterface] at h
  split at h
  case h_1 ie' hsource =>
    split at h
    · cases h
    · cases h
      exact hsource
  case h_2 => cases h

theorem importRoute_interface (hsource : (m.rt.heap route).source = some (.interface ie))
    (hok : m.importRoute route .RIP_ROUTE_INTERFACE (m.getInterfaceMetric ie) = .ok m') :
    m' = { m with ripRoutes := m.ripRoutes ++ [m.imported route ie] } := by
  obtain ⟨-, hok⟩ := ensure_bind_ok.mp hok
  simp only [hsource, if_true, pure, Except.pure, bind, Except.bind] at hok
  cases hok
  rfl

/-- An added interface route is imported, or brings the RIP route of its interface back. -/
theorem routeAdded_cases (hok : m.routeAdded route = .ok m') :
    m' = m ∨ m.started = true ∧ ∃ ie, m.localInterface (m.rt.heap route) = some ie ∧
      ((∃ i q, m.findRouteByInterface ie .RIP_ROUTE_INTERFACE = some i ∧ m.ripRoutes[i]? = some q ∧
          q.type = .RIP_ROUTE_INTERFACE ∧ q.ie = some ie ∧
          m' = (m.modifyRoute i (m.readded route ie)).triggerUpdate) ∨
        (m.findRouteByInterface ie .RIP_ROUTE_INTERFACE = none ∧
          m' = { m with ripRoutes := m.ripRoutes ++ [m.imported route ie] })) := by
  rw [routeAdded] at hok
  split at hok
  · cases hok
    exact .inl rfl
  case isFalse hcond =>
    have hstarted : m.started = true := by
      by_contra hnot
      exact hcond (.inl (by simpa using hnot))
    cases hie : m.localInterface (m.rt.heap route) with
    | none =>
      simp only [hie] at hok
      cases hok
      exact .inl rfl
    | some ie =>
      simp only [hie] at hok
      refine .inr ⟨hstarted, ie, rfl, ?_⟩
      cases hfind : m.findRouteByInterface ie .RIP_ROUTE_INTERFACE with
      | some i =>
        simp only [hfind] at hok
        cases hok
        obtain ⟨hlt, hcond, -⟩ := findIdx?_eq_some_iff_getElem.mp hfind
        have htype : (m.ripRoutes[i]).type = .RIP_ROUTE_INTERFACE ∧ (m.ripRoutes[i]).ie = some ie := by
          simpa using hcond
        exact .inl ⟨i, m.ripRoutes[i], rfl, getElem?_eq_getElem hlt, htype.1, htype.2, rfl⟩
      | none =>
        simp only [hfind] at hok
        exact .inr ⟨rfl, importRoute_interface (localInterface_some hie) hok⟩

/-- What a RIP route becomes when its IPv4 route has changed. -/
structure Follows (entry : IPv4Route) (q q' : RIPRoute) : Prop where
  dest : q'.dest = entry.dest
  prefixLength : q'.prefixLength = getNetmaskLength entry.netmask
  type : q'.type = q.type
  route : q'.route = q.route
  sender : q'.sender = q.sender
  metric : q'.metric = q.metric
  ie : q'.ie = entry.interfacePtr

theorem routeChanged_cases (hok : m.routeChanged route = .ok m') :
    m' = m ∨ ((m.rt.heap route).source ≠ some this ∧ m'.settings = m.settings ∧ m'.rt = m.rt ∧ m'.nextRef = m.nextRef ∧
      ∃ i q f, m.ripRoutes[i]? = some q ∧ q.route = some route ∧ Follows (m.rt.heap route) q (f q) ∧
        m'.ripRoutes = m.ripRoutes.modify i f) := by
  rw [routeChanged] at hok
  split at hok
  · cases hok
    exact .inl rfl
  case isFalse hsource =>
    cases hfind : m.findRouteByRef route with
    | none =>
      simp only [hfind] at hok
      cases hok
      exact .inl rfl
    | some i =>
      obtain ⟨hlt, hcond, -⟩ := findIdx?_eq_some_iff_getElem.mp hfind
      have hq := getElem?_eq_getElem hlt
      have hroute : (m.ripRoutes[i]).route = some route := by simpa using hcond
      simp only [hfind, hq] at hok
      obtain ⟨netmask, -, hok⟩ := bind_ok.mp hok
      split at hok
      · cases hok
        refine .inr ⟨hsource, triggerUpdate_settings _, triggerUpdate_rt _, triggerUpdate_nextRef _, i, _,
          fun q => { q with
            dest := (m.rt.heap route).dest
            prefixLength := getNetmaskLength (m.rt.heap route).netmask
            nextHop := (m.rt.heap route).gateway
            ie := (m.rt.heap route).interfacePtr
            changed := true }, hq, hroute, ⟨rfl, rfl, rfl, rfl, rfl, rfl, rfl⟩, ?_⟩
        rw [triggerUpdate_ripRoutes, modifyRoute, modifyRoute, modify_modify_eq]
        rfl
      · cases hok
        exact .inr ⟨hsource, rfl, rfl, rfl, i, _, _, hq, hroute, ⟨rfl, rfl, rfl, rfl, rfl, rfl, rfl⟩, rfl⟩

/-- Routes are lost or gone. -/
structure Remaining (m m' : RIPRouting) : Prop where
  settings : m'.settings = m.settings
  mem : ∀ q' ∈ m'.ripRoutes, ∃ q ∈ m.ripRoutes, Lost q q'

theorem Losing.remaining (h : Losing m m') : Remaining m m' := ⟨h.settings, fun _ hq' => h.mem hq'⟩

theorem Remaining.refl (m : RIPRouting) : Remaining m m := (Losing.refl m).remaining

theorem Remaining.trans (h : Remaining m m') (h' : Remaining m' m'') : Remaining m m'' where
  settings := h'.settings.trans h.settings
  mem q'' hq'' := by
    obtain ⟨q', hq', hlost'⟩ := h'.mem q'' hq''
    obtain ⟨q, hq, hlost⟩ := h.mem q' hq'
    exact ⟨q, hq, hlost.trans hlost'⟩

theorem Remaining.simTime (h : Remaining m m') : m'.simTime = m.simTime := congrArg Settings.simTime h.settings

theorem expired_congr (hsettings : m'.settings = m.settings) (hlost : Lost q q') (now : Nat) :
    m'.expired q' now ↔ m.expired q now := by
  have htime : m'.routeExpiryTime = m.routeExpiryTime := congrArg Settings.routeExpiryTime hsettings
  rcases hlost with rfl | rfl
  · rw [expired, expired, htime]
  · rw [expired, expired, htime]
    rfl

theorem purgeRoute_remaining (m : RIPRouting) (i : Nat) : Remaining m (m.purgeRoute i) := by
  rw [purgeRoute]
  cases hq : m.ripRoutes[i]? with
  | none => exact Remaining.refl m
  | some q =>
    have hstart : Touched i (fun _ => True) m m := Touched.start hq trivial
    have hrest {m' : RIPRouting} (hdel : Touched i (fun _ => True) m m') :
        Remaining m { m' with ripRoutes := m'.ripRoutes.eraseIdx i } := by
      refine ⟨hdel.settings, fun q' hq' => ?_⟩
      obtain ⟨j, hj, hget⟩ := mem_eraseIdx_iff_getElem?.mp hq'
      obtain ⟨q, hq, hlost⟩ := hdel.other j q' hj hget
      exact ⟨q, mem_of_getElem? hq, hlost⟩
    cases he : q.route with
    | none =>
      simp only [he]
      exact hrest hstart
    | some route =>
      simp only [he]
      have hnone : Touched i (fun _ => True) m (m.modifyRoute i fun q => { q with route := none }) :=
        hstart.modify _ fun _ h => h
      exact hrest (hnone.losing (deleteIPv4Route_losing _ route) fun _ h => h)

theorem checkRouteIsExpired_remaining (m : RIPRouting) (i : Nat) (q : RIPRoute) :
    Remaining m (m.checkRouteIsExpired i q).1 := by
  rw [checkRouteIsExpired]
  split
  · split
    · exact purgeRoute_remaining m i
    · split
      · exact (invalidateRoute_losing m i).remaining
      · exact Remaining.refl m
  · exact Remaining.refl m

/-- A route that is sent has not expired. -/
theorem checkRouteIsExpired_valid (h : (m.checkRouteIsExpired i q).2 = true) :
    ¬ m.expired q m.simTime := by
  rw [checkRouteIsExpired] at h
  rintro ⟨htype, hlate⟩
  rw [if_pos htype] at h
  split at h
  · cases h
  · cases h

/-- An entry that a route has been written into. -/
def FilledFrom (ripInterface : RIPInterfaceEntry) (m : RIPRouting) (entry : RIPEntry) : Prop :=
  ∃ q ∈ m.ripRoutes, ¬ m.expired q m.simTime ∧ ∃ q', Lost q q' ∧ ∃ metric,
    splitHorizon ripInterface q' = some metric ∧ entry = fillEntry q' metric

theorem FilledFrom.of_remaining (h : Remaining m m')
    (hfilled : FilledFrom ripInterface m' entry) : FilledFrom ripInterface m entry := by
  obtain ⟨q', hq', hvalid, q'', hlost', metric, hmetric, rfl⟩ := hfilled
  obtain ⟨q, hq, hlost⟩ := h.mem q' hq'
  refine ⟨q, hq, ?_, q'', hlost.trans hlost', metric, hmetric, rfl⟩
  rw [← expired_congr h.settings hlost, ← h.simTime]
  exact hvalid

/-- The entries of a packet are old ones, or routes have been written into them. -/
def Filled (ripInterface : RIPInterfaceEntry) (m : RIPRouting) (packet entries : List RIPEntry) : Prop :=
  ∀ entry ∈ entries, entry ∈ packet ∨ FilledFrom ripInterface m entry

/-- The packets are old ones, or responses whose entries come from routes. -/
def FilledPackets (ripInterface : RIPInterfaceEntry) (m : RIPRouting) (packet : List RIPEntry)
    (sent packets : List RIPPacket) : Prop :=
  ∀ p ∈ packets, p ∈ sent ∨ (p.command = RIP_RESPONSE ∧ Filled ripInterface m packet p.entry)

theorem sendRoute_filled {maxEntries : Nat}
    {packet packet' : List RIPEntry} {sent sent' : List RIPPacket} (hq : m.ripRoutes[i]? = some q)
    (hok : sendRoute ripInterface changedOnly maxEntries i q m packet sent = .ok (m', packet', sent')) :
    Remaining m m' ∧ Filled ripInterface m packet packet' ∧ FilledPackets ripInterface m packet sent sent' := by
  have hrem := checkRouteIsExpired_remaining m i q
  have hold : Filled ripInterface m packet packet := fun entry h => .inl h
  have holds : FilledPackets ripInterface m packet sent sent := fun p h => .inl h
  rw [sendRoute] at hok
  simp only at hok
  split at hok
  case isTrue =>
    cases hok
    exact ⟨hrem, hold, holds⟩
  case isFalse hvalid =>
    split at hok
    · cases hok
      exact ⟨hrem, hold, holds⟩
    · split at hok
      · cases hok
        exact ⟨hrem, hold, holds⟩
      case h_2 metric hmetric =>
        split at hok
        · cases hok
        · have hnew : FilledFrom ripInterface m (fillEntry q metric) :=
            ⟨q, mem_of_getElem? hq, checkRouteIsExpired_valid (not_not.mp hvalid), q, Lost.refl q, metric,
              hmetric, rfl⟩
          have hadd : Filled ripInterface m packet (packet ++ [fillEntry q metric]) := by
            intro entry hentry
            rcases mem_append.mp hentry with h | h
            · exact .inl h
            · rw [mem_singleton.mp h]
              exact .inr hnew
          split at hok
          · cases hok
            refine ⟨hrem, fun _ h => (by cases h), fun p hp => ?_⟩
            rcases mem_append.mp hp with h | h
            · exact .inl h
            · rw [mem_singleton.mp h]
              exact .inr ⟨rfl, hadd⟩
          · cases hok
            exact ⟨hrem, hadd, holds⟩

/-- What is in the packets is what was there before and what the routes fill in. -/
theorem sendLoop_filled {maxEntries n : Nat}
    {packet : List RIPEntry} {sent packets : List RIPPacket}
    (hok : sendLoop ripInterface changedOnly maxEntries n i m packet sent = .ok (m', packets)) :
    Remaining m m' ∧ FilledPackets ripInterface m packet sent packets := by
  have hend : ∀ (m : RIPRouting) (packet : List RIPEntry) (sent : List RIPPacket),
      Remaining m m ∧ FilledPackets ripInterface m packet sent (lastPacket packet sent) := by
    intro m packet sent
    refine ⟨Remaining.refl m, fun p hp => ?_⟩
    rw [lastPacket] at hp
    split at hp
    · exact .inl hp
    · rcases mem_append.mp hp with h | h
      · exact .inl h
      · rw [mem_singleton.mp h]
        exact .inr ⟨rfl, fun entry hentry => .inl hentry⟩
  induction n generalizing i m packet sent with
  | zero =>
    rw [sendLoop] at hok
    split at hok
    · cases hok
      exact hend _ packet sent
    · cases hok
  | succ n ih =>
    rw [sendLoop] at hok
    split at hok
    · cases hok
      exact hend _ packet sent
    · cases hq : m.ripRoutes[i]? with
      | none =>
        rw [hq] at hok
        cases hok
      | some q =>
        rw [hq] at hok
        obtain ⟨⟨m₁, packet₁, sent₁⟩, hroute, hok⟩ := bind_ok.mp hok
        obtain ⟨hrem, hpacket, hsent⟩ := sendRoute_filled hq hroute
        obtain ⟨hrest, hpackets⟩ := ih hok
        refine ⟨hrem.trans hrest, fun p hp => ?_⟩
        rcases hpackets p hp with hp | ⟨hcommand, hentries⟩
        · exact hsent p hp
        · refine .inr ⟨hcommand, fun entry hentry => ?_⟩
          rcases hentries entry hentry with h | h
          · exact hpacket entry h
          · exact .inr (h.of_remaining hrem)

/-- The packets of the loop are sent, where their size makes sense. -/
theorem sendRoutes_ok {port : Nat}
    : m.sendRoutes address port ripInterface changedOnly = .ok (m', sent) ↔
    0 ≤ m.maxEntries ripInterface.ie ∧ ∃ packets,
      sendLoop ripInterface changedOnly (m.maxEntries ripInterface.ie).toNat m.ripRoutes.length 0 m [] [] = .ok (m', packets) ∧
      sent = packets.map fun packet => sendPacket packet address port ripInterface.ie := by
  rw [sendRoutes]
  by_cases hneg : m.maxEntries ripInterface.ie < 0
  · rw [if_pos hneg]
    constructor
    · intro h
      cases h
    · rintro ⟨hpos, -⟩
      omega
  · rw [if_neg hneg]
    constructor
    · intro h
      obtain ⟨⟨m₁, packets⟩, hloop, h⟩ := bind_ok.mp h
      cases h
      exact ⟨by omega, packets, hloop, rfl⟩
    · rintro ⟨-, packets, hloop, rfl⟩
      exact bind_ok.mpr ⟨(m', packets), hloop, rfl⟩

/-- The responses that `sendRoutes` sends are made from the routes that have not expired. -/
theorem sendRoutes_filled {port : Nat}
    (hok : m.sendRoutes address port ripInterface changedOnly = .ok (m', sent)) :
    Remaining m m' ∧ ∀ s ∈ sent, s.packet.command = RIP_RESPONSE ∧
      s = sendPacket s.packet address port ripInterface.ie ∧
      ∀ entry ∈ s.packet.entry, FilledFrom ripInterface m entry := by
  obtain ⟨-, packets, hloop, rfl⟩ := sendRoutes_ok.mp hok
  obtain ⟨hrem, hpackets⟩ := sendLoop_filled hloop
  refine ⟨hrem, fun s hs => ?_⟩
  obtain ⟨p, hp, rfl⟩ := mem_map.mp hs
  rcases hpackets p hp with h | ⟨hcommand, hentries⟩
  · cases h
  · refine ⟨hcommand, rfl, fun entry hentry => ?_⟩
    rcases hentries entry hentry with h | h
    · cases h
    · exact h

theorem sendOnInterfaces_filled {triggered : Bool} {ripInterfaces : List RIPInterfaceEntry}
    (hok : sendOnInterfaces triggered ripInterfaces m = .ok (m', sent)) :
    Remaining m m' ∧ ∀ s ∈ sent, s.packet.command = RIP_RESPONSE ∧ ∃ i ∈ ripInterfaces, i.mode ≠ .NO_RIP ∧
      s = sendPacket s.packet ALL_RIP_ROUTERS_MCAST m.ripUdpPort i.ie ∧
      ∀ entry ∈ s.packet.entry, FilledFrom i m entry := by
  induction ripInterfaces generalizing m sent with
  | nil =>
    cases hok
    exact ⟨Remaining.refl _, fun s hs => by cases hs⟩
  | cons i ripInterfaces ih =>
    rw [sendOnInterfaces] at hok
    split at hok
    · obtain ⟨hrem, hsent⟩ := ih hok
      refine ⟨hrem, fun s hs => ?_⟩
      obtain ⟨hcommand, i', hi', hrest⟩ := hsent s hs
      exact ⟨hcommand, i', mem_cons_of_mem _ hi', hrest⟩
    case isFalse hmode =>
      obtain ⟨⟨m₁, sent₁⟩, hfirst, hok⟩ := bind_ok.mp hok
      obtain ⟨⟨m₂, sent₂⟩, hothers, hok⟩ := bind_ok.mp hok
      cases hok
      obtain ⟨hrem, hsent⟩ := sendRoutes_filled hfirst
      obtain ⟨hrem', hsent'⟩ := ih hothers
      refine ⟨hrem.trans hrem', fun s hs => ?_⟩
      rcases mem_append.mp hs with h | h
      · obtain ⟨hcommand, hpacket, hentries⟩ := hsent s h
        exact ⟨hcommand, i, mem_cons_self, hmode, hpacket, hentries⟩
      · obtain ⟨hcommand, i', hi', hmode', hpacket, hentries⟩ := hsent' s h
        have hport : m₁.ripUdpPort = m.ripUdpPort := congrArg Settings.ripUdpPort hrem.settings
        rw [hport] at hpacket
        exact ⟨hcommand, i', mem_cons_of_mem _ hi', hmode', hpacket, fun entry hentry =>
          (hentries entry hentry).of_remaining hrem⟩

theorem processRequest_remaining {packet : RIPPacket} {ctrlInfo : UDPDataIndication}
    (hok : m.processRequest packet ctrlInfo = .ok (m', sent)) : Remaining m m' := by
  rw [RIPRouting.processRequest] at hok
  split at hok
  · cases hok
    exact Remaining.refl m
  · split at hok
    · split at hok
      · exact (sendRoutes_filled hok).1
      · cases hok
        exact Remaining.refl m
    · obtain ⟨filled, -, hok⟩ := bind_ok.mp hok
      cases hok
      exact Remaining.refl m

/-- What a step does that does not fail. -/
inductive Did (m : RIPRouting) : Event → RIPRouting → List Sent → Prop
  | nothing {event : Event} : Did m event m []
  | advanced {time : Nat} : Did m (.advance time) { m with rt := { m.rt with simTime := m.nextTime time } } []
  | started {config : InterfaceRef → Option InterfaceConfig} {m' : RIPRouting} {sent : List Sent}
      (htimer : m.startupTimer = some m.simTime) (hok : m.startRIPRouting config = .ok (m', sent)) :
      Did m (.startup config) m' sent
  | updated {m' : RIPRouting} {sent : List Sent} {timer : Option Nat}
      (hok : { m with updateTimer := none }.processUpdate false = .ok (m', sent)) :
      Did m .updateTimer { m' with updateTimer := timer } sent
  | triggered {m' : RIPRouting} {sent : List Sent}
      (hok : { m with triggeredUpdateTimer := none }.processUpdate true = .ok (m', sent)) :
      Did m .triggeredUpdateTimer m' sent
  | requested {packet : RIPPacket} {ctrlInfo : UDPDataIndication} {m' : RIPRouting} {sent : List Sent}
      (hrequest : packet.command = RIP_REQUEST) (hok : m.processRequest packet ctrlInfo = .ok (m', sent)) :
      Did m (.packet packet ctrlInfo) m' sent
  | responded {packet : RIPPacket} {ctrlInfo : UDPDataIndication} {m' : RIPRouting} (hstarted : m.startupTimer = none)
      (hresponse : packet.command = RIP_RESPONSE) (hok : m.processResponse packet ctrlInfo = .ok m') :
      Did m (.packet packet ctrlInfo) m' []
  | interfaceCreated {entry : InterfaceEntry} {config : Option InterfaceConfig} {ift : List InterfaceEntry}
      {ripInterfaces : List RIPInterfaceEntry} :
      Did m (.interfaceCreated entry config) { m with ift := ift, ripInterfaces := ripInterfaces } []
  | interfaceDeleted {ie : InterfaceRef} {m' : RIPRouting} (hok : m.step (.interfaceDeleted ie) = .ok (m', [])) :
      Did m (.interfaceDeleted ie) m' []
  | interfaceDown {ie : InterfaceRef} {isUp : Bool} :
      Did m (.interfaceStateChanged ie isUp) (m.invalidateRoutes ie (List.range m.ripRoutes.length)) []
  | interfaceUp {ie : InterfaceRef} {isUp : Bool} {ripInterface : RIPInterfaceEntry} :
      Did m (.interfaceStateChanged ie isUp) m [m.sendRIPRequest ripInterface]
  | routeAdded {event : Event} {route : IPv4Route} {m₁ m' : RIPRouting}
      (hevent : event = .addRoute route ∨ event = .addNetmaskRoute route) (hlosing : Losing m m₁)
      (hself : m₁.rt.heap m.nextRef = { route with inTable := true }) (hok : m₁.routeAdded m.nextRef = .ok m') :
      Did m event m' []
  | routeDeleted {route : RouteRef} : Did m (.deleteRoute route) (m.deleteIPv4Route route) []
  | routeChanged {route : RouteRef} {entry : IPv4Route} {fieldCode : RoutingTable.FieldCode} {m' : RIPRouting}
      (hok : m.changeIPv4Route route entry fieldCode = .ok m') : Did m (.changeRoute route entry fieldCode) m' []

theorem step_did {event : Event} (hok : m.step event = .ok (m', sent)) : m.Did event m' sent := by
  cases event with
  | advance time =>
    cases hok
    exact .advanced
  | startup config =>
    rw [RIPRouting.step] at hok
    split at hok
    case isTrue htimer => exact .started htimer hok
    case isFalse =>
      cases hok
      exact .nothing
  | updateTimer =>
    rw [RIPRouting.step] at hok
    split at hok
    · obtain ⟨⟨m₁, sent₁⟩, hupdate, hend⟩ := bind_ok.mp hok
      cases hend
      exact .updated hupdate
    · cases hok
      exact .nothing
  | triggeredUpdateTimer =>
    rw [RIPRouting.step] at hok
    split at hok
    · exact .triggered hok
    · cases hok
      exact .nothing
  | packet packet ctrlInfo =>
    rw [RIPRouting.step] at hok
    split at hok
    · cases hok
      exact .nothing
    case isFalse hstarted =>
      split at hok
      case isTrue hrequest => exact .requested hrequest hok
      · split at hok
        case isTrue hresponse =>
          obtain ⟨m₁, hprocess, hend⟩ := bind_ok.mp hok
          cases hend
          exact .responded (Option.isNone_iff_eq_none.mp (not_not.mp hstarted)) hresponse hprocess
        case isFalse => cases hok
  | interfaceCreated entry config =>
    rw [RIPRouting.step] at hok
    split at hok
    · obtain ⟨m₁, hadd, hend⟩ := bind_ok.mp hok
      obtain ⟨ripInterface, -, hnew⟩ := bind_ok.mp hadd
      cases hend
      cases hnew
      exact .interfaceCreated
    · cases hok
      exact .interfaceCreated
  | interfaceDeleted ie =>
    cases hok
    exact .interfaceDeleted rfl
  | interfaceStateChanged ie isUp =>
    rw [RIPRouting.step] at hok
    split at hok
    · cases hok
      exact .nothing
    · split at hok
      · cases hok
        exact .interfaceDown
      · split at hok
        · split at hok
          · cases hok
            exact .interfaceUp
          · cases hok
            exact .nothing
        · cases hok
          exact .nothing
  | addRoute route =>
    obtain ⟨rt, hadd, hrest⟩ := bind_ok.mp hok
    obtain ⟨m₁, hadded, hend⟩ := bind_ok.mp hrest
    cases hend
    have hrt := addRoute_added hadd
    refine .routeAdded (.inl rfl) ((newIPv4Route_losing m route).trans ((replaceDefaultRoute_losing _ _).with_rt hrt.simTime))
      ?_ hadded
    simp only [hrt.self, newIPv4Route_heap_self]
  | addNetmaskRoute route =>
    obtain ⟨m₁, hadded, hend⟩ := bind_ok.mp hok
    cases hend
    refine .routeAdded (.inr rfl) ?_ ?_ hadded
    · exact Losing.of_eq rfl rfl
    · exact newIPv4Route_heap_self m { route with inTable := true }
  | deleteRoute route =>
    cases hok
    exact .routeDeleted
  | changeRoute route entry fieldCode =>
    obtain ⟨m₁, hchange, hend⟩ := bind_ok.mp hok
    cases hend
    exact .routeChanged hchange

end RIPRouting

end Inet.Rip
