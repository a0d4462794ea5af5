import Inetmanet.Rip.TableResponses

/-!
# The invariant of the RIP table

What holds of the RIP routes after any run in which every event keeps to the rules of
`Regular`; each rule is about one place of the module that does not look after the table.
-/
namespace Inet.Rip

open Ipv4 List Option RoutingTable IPv4Address

namespace RIPRouting

/-- What is to hold of the RIP routes of a module at any time. -/
structure TableInvariant (m : RIPRouting) : Prop where
  unique : m.ripRoutes.Pairwise fun q q' => ¬ (q.dest = q'.dest ∧ q.prefixLength = q'.prefixLength)
  metric : ∀ q ∈ m.ripRoutes, 1 ≤ q.metric ∧ q.metric ≤ RIP_INFINITE_METRIC
  twin : ∀ q ∈ m.ripRoutes, (∃ e, q.route = some e ∧ e ∈ m.rt.routes) ↔ q.metric < RIP_INFINITE_METRIC
  learned : ∀ q ∈ m.ripRoutes, q.sender ≠ 0 → q.type = .RIP_ROUTE_RTE

theorem IsSound.tableInvariant {m : RIPRouting} (h : m.IsSound) : m.TableInvariant where
  unique := h.apart.imp fun hap => hap.destination
  metric q hq := ⟨(h.good q hq).pos, (h.good q hq).le⟩
  twin q hq := by
    rw [(h.good q hq).finite, ne_none_iff_exists']
    constructor
    · rintro ⟨e, he, -⟩
      exact ⟨e, he⟩
    · rintro ⟨e, he⟩
      exact ⟨e, he, (h.link q hq e he).mem⟩
  learned q hq := (h.good q hq).learned

variable {m m' : RIPRouting} {i : Nat}

variable {q : RIPRoute} {e e' : RouteRef} {rt : RoutingTable} {sent : List Sent}
    {entry route : IPv4Route}

/-- A route with a prefix of its own comes to the end of the list. -/
theorem IsSound.append (h : m.IsSound) (hlink : ∀ e, q.route = some e → Link m.rt q e)
    (hgood : Good m.rt q) (hapart : ∀ q' ∈ m.ripRoutes, Apart q' q) :
    IsSound { m with ripRoutes := m.ripRoutes ++ [q] } where
  link q' hq' := by
    rcases mem_append.mp hq' with hold | hnew
    · exact h.link q' hold
    · rw [mem_singleton.mp hnew]
      exact hlink
  apart := by
    rw [pairwise_append]
    refine ⟨h.apart, pairwise_singleton _ _, fun q₁ hq₁ q₂ hq₂ => ?_⟩
    rw [mem_singleton.mp hq₂]
    exact hapart q₁ hq₁
  nodup := h.nodup
  fresh := h.fresh
  good q' hq' := by
    rcases mem_append.mp hq' with hold | hnew
    · exact h.good q' hold
    · rw [mem_singleton.mp hnew]
      exact hgood

/-- A RIP route that stands for an IPv4 route of others. -/
structure ImportedRoute (rt : RoutingTable) (e : RouteRef) (q : RIPRoute) : Prop where
  route : q.route = some e
  dest : q.dest = (rt.heap e).dest
  prefixLength : q.prefixLength = getNetmaskLength (rt.heap e).netmask
  type : q.type ≠ .RIP_ROUTE_RTE
  sender : q.sender = 0
  metric : 1 ≤ q.metric ∧ q.metric < RIP_INFINITE_METRIC

theorem ImportedRoute.good (h : ImportedRoute rt e q)
    (hforeign : (rt.heap e).source ≠ some this) : Good rt q where
  pos := h.metric.1
  le := h.metric.2.le
  finite := by simp [h.route, h.metric.2]
  learned hsender := absurd h.sender hsender
  ie e' he' hown := by
    rw [h.route] at he'
    cases he'
    exact absurd hown hforeign

theorem ImportedRoute.link (h : ImportedRoute rt e q)
    (hmem : e ∈ rt.routes) (hforeign : (rt.heap e).source ≠ some this) (he' : q.route = some e') :
    Link rt q e' := by
  rw [h.route] at he'
  cases he'
  exact ⟨hmem, fun htype => absurd htype h.type, fun hown => absurd hown hforeign, fun hown => absurd hown hforeign,
    fun hown => absurd hown hforeign⟩

/-- An imported route that has its prefix and its IPv4 route for itself. -/
theorem IsSound.imported (h : m.IsSound) (himported : ImportedRoute m.rt e q)
    (hmem : e ∈ m.rt.routes) (hforeign : (m.rt.heap e).source ≠ some this)
    (hnew : ∀ q' ∈ m.ripRoutes, q'.route ≠ some e ∧ ¬ (q'.dest = (m.rt.heap e).dest ∧
      q'.prefixLength = getNetmaskLength (m.rt.heap e).netmask)) :
    IsSound { m with ripRoutes := m.ripRoutes ++ [q] } := by
  refine h.append (fun e' he' => himported.link hmem hforeign he') (himported.good hforeign) fun q' hq' => ⟨?_, ?_⟩
  · rw [himported.dest, himported.prefixLength]
    exact (hnew q' hq').2
  · intro e' he' he
    rw [himported.route] at he
    cases he
    exact (hnew q' hq').1 he'

theorem getInterfaceMetric_range (m : RIPRouting) (ie : InterfaceRef) :
    1 ≤ m.getInterfaceMetric ie ∧ m.getInterfaceMetric ie < RIP_INFINITE_METRIC := by
  rw [getInterfaceMetric]
  cases m.findInterfaceById ie with
  | none => decide
  | some ripIe => exact ripIe.inRange

theorem importRoute_ok {type : RouteType} {metric : Nat} (hpos : 1 ≤ metric)
    (htype : type ≠ .RIP_ROUTE_RTE) (hok : m.importRoute e type metric = .ok m') :
    ∃ q, ImportedRoute m.rt e q ∧ m' = { m with ripRoutes := m.ripRoutes ++ [q] } := by
  obtain ⟨hlt, hok⟩ := ensure_bind_ok.mp hok
  simp only [pure, Except.pure, bind, Except.bind] at hok
  split at hok
  · split at hok
    · cases hok
      exact ⟨_, ⟨rfl, rfl, rfl, htype, rfl, hpos, hlt⟩, rfl⟩
    · cases hok
  · cases hok
    exact ⟨_, ⟨rfl, rfl, rfl, htype, rfl, hpos, hlt⟩, rfl⟩

/-- Is a route of the table imported at startup? -/
def Importable (m : RIPRouting) (entry : IPv4Route) : Prop :=
  m.isLoopbackInterfaceRoute entry = false ∧
    (m.localInterface entry ≠ none ∨ entry.netmask = 0 ∨ isMulticast entry.dest = false)
deriving Decidable

theorem configureInitialRoute_cases (hok : m.configureInitialRoute e = .ok m') :
    m' = m ∨ (m.Importable (m.rt.heap e) ∧ ∃ q, ImportedRoute m.rt e q ∧ m' = { m with ripRoutes := m.ripRoutes ++ [q] }) := by
  rw [configureInitialRoute] at hok
  split at hok
  · cases hok
    exact .inl rfl
  case isFalse hloopback =>
    have hloopback : m.isLoopbackInterfaceRoute (m.rt.heap e) = false := by simpa using hloopback
    split at hok
    case h_1 ie hie =>
      refine .inr ⟨⟨hloopback, .inl ?_⟩, importRoute_ok (m.getInterfaceMetric_range ie).1 (by decide) hok⟩
      rw [hie]
      simp
    case h_2 =>
      split at hok
      case isTrue hmask => exact .inr ⟨⟨hloopback, .inr (.inl hmask)⟩, importRoute_ok (Nat.le_refl 1) (by decide) hok⟩
      case isFalse =>
        split at hok
        · cases hok
          exact .inl rfl
        case isFalse hmulticast =>
          exact .inr ⟨⟨hloopback, .inr (.inr (by simpa using hmulticast))⟩, importRoute_ok (Nat.le_refl 1) (by decide) hok⟩

/-- Two IPv4 routes with the same prefix. -/
def SamePrefix (entry entry' : IPv4Route) : Prop :=
  entry.dest = entry'.dest ∧ getNetmaskLength entry.netmask = getNetmaskLength entry'.netmask
deriving Decidable

/-- A RIP route is in the way of an IPv4 route that is to be imported. -/
def Clashes (q : RIPRoute) (e : RouteRef) (entry : IPv4Route) : Prop :=
  q.route = some e ∨ (q.dest = entry.dest ∧ q.prefixLength = getNetmaskLength entry.netmask)

theorem ImportedRoute.not_clashes (h : ImportedRoute rt e q)
    (hne : e ≠ e') (hprefixes : ¬ SamePrefix (rt.heap e) (rt.heap e')) : ¬ Clashes q e' (rt.heap e') := by
  rintro (hroute | ⟨hdest, hlen⟩)
  · rw [h.route] at hroute
    exact hne (some.inj hroute)
  · rw [h.dest] at hdest
    rw [h.prefixLength] at hlen
    exact hprefixes ⟨hdest, Int.ofNat.inj hlen⟩

/-- The routes of the table are imported one after the other. -/
theorem IsSound.configureInitialRoutes {routes : List RouteRef} (h : m.IsSound) (hmem : ∀ e ∈ routes, e ∈ m.rt.routes)
    (hnodup : routes.Nodup) (hforeign : ∀ e ∈ routes, (m.rt.heap e).source ≠ some this)
    (hdistinct : routes.Pairwise fun e e' => m.Importable (m.rt.heap e) → m.Importable (m.rt.heap e') →
      ¬ SamePrefix (m.rt.heap e) (m.rt.heap e'))
    (hnew : ∀ q ∈ m.ripRoutes, ∀ e ∈ routes, m.Importable (m.rt.heap e) → ¬ Clashes q e (m.rt.heap e))
    (hok : m.configureInitialRoutes routes = .ok m') : m'.IsSound := by
  induction routes generalizing m with
  | nil =>
    cases hok
    exact h
  | cons e routes ih =>
    obtain ⟨m₁, hfirst, hrest⟩ := bind_ok.mp hok
    have hmem' : ∀ e ∈ routes, e ∈ m.rt.routes := fun e' he' => hmem e' (mem_cons_of_mem _ he')
    have hforeign' : ∀ e ∈ routes, (m.rt.heap e).source ≠ some this := fun e' he' =>
      hforeign e' (mem_cons_of_mem _ he')
    have hout := nodup_cons.mp hnodup
    have hapart := pairwise_cons.mp hdistinct
    rcases configureInitialRoute_cases hfirst with rfl | ⟨himportable, q, himported, rfl⟩
    · exact ih h hmem' hout.2 hforeign' hapart.2 (fun q hq e' he' => hnew q hq e' (mem_cons_of_mem _ he')) hrest
    · have h₁ : IsSound { m with ripRoutes := m.ripRoutes ++ [q] } := by
        refine h.imported himported (hmem e mem_cons_self) (hforeign e mem_cons_self) fun q' hq' => ?_
        exact not_or.mp (hnew q' hq' e mem_cons_self himportable)
      refine ih h₁ hmem' hout.2 hforeign' hapart.2 (fun q' hq' e' he' himportable' => ?_) hrest
      rcases mem_append.mp hq' with hold | hlast
      · exact hnew q' hold e' (mem_cons_of_mem _ he') himportable'
      · rw [mem_singleton.mp hlast]
        exact himported.not_clashes (fun heq => hout.1 (heq ▸ he')) (hapart.1 e' he' himportable himportable')

variable {config : InterfaceRef → Option InterfaceConfig}

theorem configureInterfaces_eq {ift : List InterfaceEntry}
    (hok : m.configureInterfaces config ift = .ok m') : ∃ ripInterfaces, m' = { m with ripInterfaces := ripInterfaces } := by
  induction ift generalizing m with
  | nil =>
    cases hok
    exact ⟨_, rfl⟩
  | cons ie ift ih =>
    rw [configureInterfaces] at hok
    split at hok
    · obtain ⟨m₁, hadd, hrest⟩ := bind_ok.mp hok
      obtain ⟨ripInterface, -, hnew⟩ := bind_ok.mp hadd
      cases hnew
      obtain ⟨ripInterfaces, rfl⟩ := ih hrest
      exact ⟨ripInterfaces, rfl⟩
    · exact ih hok

/-- The routes that are in the table at the startup were made by others, and those that are imported
have different prefixes. -/
def StartupRegular (m : RIPRouting) : Prop :=
  (∀ e ∈ m.rt.routes, (m.rt.heap e).source ≠ some this) ∧
  m.rt.routes.Pairwise fun e e' => m.Importable (m.rt.heap e) → m.Importable (m.rt.heap e') →
    ¬ SamePrefix (m.rt.heap e) (m.rt.heap e')
deriving Decidable

theorem IsSound.startRIPRouting (h : m.IsSound)
    (hempty : m.ripRoutes = []) (hregular : m.StartupRegular) (hok : m.startRIPRouting config = .ok (m', sent)) :
    m'.IsSound := by
  obtain ⟨m₁, hinterfaces, hrest⟩ := bind_ok.mp hok
  obtain ⟨m₂, hroutes, hend⟩ := bind_ok.mp hrest
  obtain ⟨ripInterfaces, rfl⟩ := configureInterfaces_eq hinterfaces
  cases hend
  have h₁ : IsSound { m with ripInterfaces := ripInterfaces } := h.of_eq rfl rfl rfl
  refine (h₁.configureInitialRoutes (fun e he => he) h.nodup hregular.1 hregular.2 (fun q hq => ?_) hroutes).of_eq rfl rfl rfl
  rw [hempty] at hq
  cases hq

/-- A route that is imported when it is added has a prefix that no RIP route has. -/
def ImportRegular (m : RIPRouting) (entry : IPv4Route) : Prop :=
  m.started = true → ∀ ie ∈ m.localInterface entry, m.findRouteByInterface ie .RIP_ROUTE_INTERFACE = none →
    ∀ q ∈ m.ripRoutes, ¬ (q.dest = entry.dest ∧ q.prefixLength = getNetmaskLength entry.netmask)
deriving Decidable

theorem IsSound.routeAdded (h : m.IsSound) (hmem : e ∈ m.rt.routes)
    (hforeign : (m.rt.heap e).source ≠ some this) (hnobody : ∀ q ∈ m.ripRoutes, q.route ≠ some e)
    (hregular : m.ImportRegular (m.rt.heap e)) (hok : m.routeAdded e = .ok m') : m'.IsSound := by
  rcases routeAdded_cases hok with rfl | ⟨hstarted, ie, hie, ⟨i, q, -, hq, htype, -, rfl⟩ | ⟨hfind, rfl⟩⟩
  · exact h
  · have hrange := m.getInterfaceMetric_range ie
    have hopen : Open i (m.readded e ie q) (m.modifyRoute i (m.readded e ie)) := by
      refine (h.opened hq).modify_link (m.readded e ie) rfl rfl (fun e' he' => ?_) fun e' he' q' hq' _ => ?_
      · cases he'
        refine ⟨hmem, fun hrte => ?_, fun hown => absurd hown hforeign, fun hown => absurd hown hforeign,
          fun hown => absurd hown hforeign⟩
        rw [show (m.readded e ie q).type = q.type from rfl, htype] at hrte
        cases hrte
      · cases he'
        exact hnobody q' hq'
    have hgood : Good m.rt (m.readded e ie q) := by
      refine ⟨hrange.1, hrange.2.le, ?_, (h.good q (mem_of_getElem? hq)).learned, fun e' he' hown => ?_⟩
      · simp [readded, hrange.2]
      · cases he'
        exact absurd hown hforeign
    exact IsSound.of_eq (hopen.close hgood) (triggerUpdate_ripRoutes _) (triggerUpdate_rt _) (triggerUpdate_nextRef _)
  · have himported : ImportedRoute m.rt e (RIPRouting.imported m e ie) :=
      ⟨rfl, rfl, rfl, by simp [RIPRouting.imported, RIPRoute.new], rfl, m.getInterfaceMetric_range ie⟩
    exact h.imported himported hmem hforeign fun q hq => ⟨hnobody q hq, hregular hstarted ie hie hfind q hq⟩

/-- Losing routes puts nothing in the way. -/
theorem ImportRegular.losing (h : m.ImportRegular entry) (hlosing : Losing m m') :
    m'.ImportRegular entry := by
  have hift : m'.ift = m.ift := congrArg Settings.ift hlosing.settings
  have htimer : m'.startupTimer = m.startupTimer := congrArg Settings.startupTimer hlosing.settings
  intro hstarted ie hie hnone q' hq'
  rw [started, htimer] at hstarted
  have hie : m.localInterface entry = some ie := by
    simp only [localInterface, isLoopback, hift] at hie ⊢
    exact hie
  have hfind : m.findRouteByInterface ie .RIP_ROUTE_INTERFACE = none := by
    rw [findRouteByInterface, findIdx?_eq_none_iff] at hnone ⊢
    intro q hq
    obtain ⟨j, hj⟩ := mem_iff_getElem?.mp hq
    have hlt : j < m'.ripRoutes.length := hlosing.length ▸ (List.getElem?_eq_some_iff.mp hj).1
    obtain ⟨q₁, hq₁, hlost⟩ := hlosing.lost j _ (List.getElem?_eq_getElem hlt)
    rw [hj] at hq₁
    cases hq₁
    have hno := hnone _ (getElem_mem hlt)
    rcases hlost with heq | heq
    · rw [heq] at hno
      exact hno
    · rw [heq] at hno
      exact hno
  obtain ⟨q, hq, rfl | rfl⟩ := hlosing.mem hq'
  · exact h hstarted ie hie hfind _ hq
  · exact h hstarted ie hie hfind q hq

/-- A route that others add is not marked as one of this module's, does not replace one that a RIP route
holds, and is not imported for a prefix that is there. -/
def AddRegular (m : RIPRouting) (route : IPv4Route) : Prop :=
  route.source ≠ some this ∧
  Foreign m.ripRoutes (m.newIPv4Route route).rt ((m.newIPv4Route route).rt.replaced m.nextRef) ∧
  m.ImportRegular route
deriving Decidable

theorem IsSound.addedByOthers (h : m.IsSound) (hregular : m.AddRegular route)
    (hadd : (m.newIPv4Route route).rt.addRoute m.nextRef = .ok rt)
    (hok : { (m.newIPv4Route route).replaceDefaultRoute m.nextRef with rt := rt }.routeAdded m.nextRef = .ok m') :
    m'.IsSound := by
  have hadded := addRoute_added hadd
  have hnew : (m.newIPv4Route route).IsSound := h.newIPv4Route route
  have hself : rt.heap m.nextRef = { route with inTable := true } := by
    rw [hadded.self, newIPv4Route_heap_self]
  have h₁ : IsSound { (m.newIPv4Route route).replaceDefaultRoute m.nextRef with rt := rt } :=
    Sound.replaceDefaultRoute hnew hadded h.nextRef_not_mem (Nat.lt_succ_self _) hregular.2.1
  have hlosing : Losing m { (m.newIPv4Route route).replaceDefaultRoute m.nextRef with rt := rt } :=
    (newIPv4Route_losing m route).trans ((replaceDefaultRoute_losing _ _).with_rt hadded.simTime)
  have himport : m.ImportRegular { route with inTable := true } := hregular.2.2
  refine h₁.routeAdded ((hadded.mem_iff hnew.nodup _).mpr (.inl rfl)) ?_ ?_ ?_ hok
  · simp only [hself]
    exact hregular.1
  · intro q hq hroute
    simp only [replaceDefaultRoute_ripRoutes] at hq
    obtain ⟨q₁, hq₁, rfl⟩ := mem_map.mp hq
    exact h.nextRef_not_mem (h.link q₁ hq₁ _ (droppedBy_route hroute).2.1).mem
  · simp only [hself]
    exact himport.losing hlosing

/-- A netmask route is not marked as one of this module's, and is not imported for a prefix that is there. -/
def NetmaskRegular (m : RIPRouting) (route : IPv4Route) : Prop := route.source ≠ some this ∧ m.ImportRegular route
deriving Decidable

theorem IsSound.addedNetmaskRoute (h : m.IsSound) (hregular : m.NetmaskRegular route)
    (hok : { m.newIPv4Route { route with inTable := true } with
      rt := ((m.newIPv4Route { route with inTable := true }).rt.insertRoute m.nextRef).invalidateCache }.routeAdded
        m.nextRef = .ok m') : m'.IsSound := by
  have hnew : (m.newIPv4Route { route with inTable := true }).IsSound := h.newIPv4Route _
  have hperm := UpperBound.insert_perm (m.newIPv4Route { route with inTable := true }).rt.less
    (m.newIPv4Route { route with inTable := true }).rt.routes m.nextRef
  have hself : (m.newIPv4Route { route with inTable := true }).rt.heap m.nextRef = { route with inTable := true } :=
    newIPv4Route_heap_self m _
  have hex : Exchange (m.newIPv4Route { route with inTable := true }).rt none
      ((m.newIPv4Route { route with inTable := true }).rt.insertRoute m.nextRef).invalidateCache (m.nextRef + 1) := by
    refine ⟨fun x hx _ => hperm.mem_iff.mpr (mem_cons_of_mem _ hx), fun x _ => SameRoute.refl _, ?_, fun x hx => ?_⟩
    · exact hperm.nodup_iff.mpr (nodup_cons.mpr ⟨h.nextRef_not_mem, hnew.nodup⟩)
    · rcases mem_cons.mp (hperm.mem_iff.mp hx) with rfl | hold
      · exact Nat.lt_succ_self _
      · exact hnew.fresh x hold
  have h₁ := Sound.exchange hnew hex (fun x hx => by cases hx) fun x _ _ => rfl
  rw [map_droppedBy_none] at h₁
  have h₂ : IsSound { m.newIPv4Route { route with inTable := true } with
      rt := ((m.newIPv4Route { route with inTable := true }).rt.insertRoute m.nextRef).invalidateCache } := h₁
  have hmem : m.nextRef ∈ ((m.newIPv4Route { route with inTable := true }).rt.insertRoute m.nextRef).invalidateCache.routes :=
    hperm.mem_iff.mpr mem_cons_self
  refine h₂.routeAdded hmem ?_ ?_ ?_ hok
  · rw [show ∀ t : RoutingTable, (t.insertRoute m.nextRef).invalidateCache.heap = t.heap from fun _ => rfl, hself]
    exact hregular.1
  · intro q hq hroute
    exact h.nextRef_not_mem (h.link q hq _ hroute).mem
  · rw [show ∀ t : RoutingTable, (t.insertRoute m.nextRef).invalidateCache.heap = t.heap from fun _ => rfl, hself]
    exact hregular.2

/-- The new prefix of a changed route is not that of another RIP route. -/
def PrefixFree (m : RIPRouting) (route : RouteRef) (entry : IPv4Route) : Prop :=
  ∀ q ∈ m.ripRoutes, q.route = some route → ∀ q' ∈ m.ripRoutes, q'.route ≠ some route →
    ¬ (q'.dest = entry.dest ∧ q'.prefixLength = getNetmaskLength entry.netmask)
deriving Decidable

theorem IsSound.routeChanged (h : m.IsSound) (hfree : m.PrefixFree e (m.rt.heap e))
    (hok : m.routeChanged e = .ok m') : m'.IsSound := by
  rcases routeChanged_cases hok with rfl | ⟨hforeign, -, hrt, hnext, i, q, f, hq, hroute, hfollows, hroutes⟩
  · exact h
  have hmem := mem_of_getElem? hq
  have hlink := h.link q hmem e hroute
  have hgood := h.good q hmem
  have hroute' : (f q).route = some e := hfollows.route.trans hroute
  have hsource : ∀ {x}, (f q).route = some x → (m.rt.heap x).source ≠ some this := by
    intro x hx
    rw [hroute'] at hx
    cases hx
    exact hforeign
  rw [IsSound, hroutes, hrt, hnext]
  constructor
  · refine ⟨fun q' hq' x hx => ?_, ?_, h.nodup, h.fresh⟩
    · rcases mem_modify hq hq' with rfl | hold
      · have hx' := hx
        rw [hroute'] at hx'
        cases hx'
        refine ⟨hlink.mem, fun htype => hlink.rte (hfollows.type ▸ htype), fun hown => ?_, fun hown => ?_, fun hown => ?_⟩
        all_goals exact absurd hown hforeign
      · exact h.link q' hold x hx
    · refine pairwise_modify (fun _ _ => Apart.symm) h.apart hq fun q' hq' hap => ⟨fun hsame => ?_, fun x hx => ?_⟩
      · refine hfree q hmem hroute q' hq' (hap.route e hroute) ⟨?_, ?_⟩
        · rw [← hfollows.dest, hsame.1]
        · rw [← hfollows.prefixLength, hsame.2]
      · rw [hfollows.route] at hx
        exact hap.route x hx
  · intro q' hq'
    rcases mem_modify hq hq' with rfl | hold
    · refine ⟨?_, ?_, ?_, ?_, fun x hx hown => absurd hown (hsource hx)⟩
      · rw [hfollows.metric]
        exact hgood.pos
      · rw [hfollows.metric]
        exact hgood.le
      · rw [hfollows.metric, hfollows.route]
        exact hgood.finite
      · rw [hfollows.sender, hfollows.type]
        exact hgood.learned
    · exact h.good q' hold

/-- A setter takes the route out of the table and puts it in again. -/
def Moves (m : RIPRouting) (route : RouteRef) (fieldCode : RoutingTable.FieldCode) : Prop :=
  (m.rt.heap route).inTable = true ∧ (fieldCode = .F_DESTINATION ∨ fieldCode = .F_NETMASK ∨ fieldCode = .F_METRIC)

/-- Others change only routes that are not this module's, not for the prefix of another RIP route, and
they do not replace a default route that a RIP route holds. -/
def ChangeRegular (m : RIPRouting) (route : RouteRef) (entry : IPv4Route) (fieldCode : RoutingTable.FieldCode) : Prop :=
  entry ≠ m.rt.heap route → (m.rt.heap route).source ≠ some this ∧ entry.source ≠ some this ∧
    m.PrefixFree route entry ∧
    (m.Moves route fieldCode → Foreign m.ripRoutes m.rt ((m.without route entry).rt.replaced route))

instance (m : RIPRouting) (route : RouteRef) (entry : IPv4Route) (fieldCode : RoutingTable.FieldCode) :
    Decidable (m.ChangeRegular route entry fieldCode) := by
  unfold ChangeRegular Moves
  infer_instance

/-- A route of others is changed where it stands. -/
theorem IsSound.store (h : m.IsSound) (hold : (m.rt.heap e).source ≠ some this)
    (hnew : entry.source ≠ some this) : IsSound { m with rt := m.rt.store e entry } := by
  have hself : (m.rt.store e entry).heap e = entry := store_heap_self _ _ _
  have hother : ∀ {x}, x ≠ e → (m.rt.store e entry).heap x = m.rt.heap x := fun hx =>
    store_heap_of_ne _ _ hx
  have hex : Exchange m.rt none (m.rt.store e entry) m.nextRef := by
    refine ⟨fun x hx _ => hx, fun x _ => ?_, h.nodup, h.fresh⟩
    by_cases hx : x = e
    · rw [hx, hself]
      exact ⟨⟨fun hown => absurd hown hnew, fun hown => absurd hown hold⟩, fun hown => absurd hown hold,
        fun hown => absurd hown hold⟩
    · rw [hother hx]
      exact SameRoute.refl _
  have h₁ := Sound.exchange h hex (fun x hx => by cases hx) fun x _ hown => ?_
  · rw [map_droppedBy_none] at h₁
    exact h₁
  · by_cases hx : x = e
    · rw [hx] at hown
      exact absurd hown hold
    · rw [hother hx]

/-- A route of others comes to another place of the table. -/
theorem IsSound.moved (h : m.IsSound) (he : e ∈ m.rt.routes)
    (hold : (m.rt.heap e).source ≠ some this) (hnew : entry.source ≠ some this) (hfree : m.PrefixFree e entry)
    (hforeign : Foreign m.ripRoutes m.rt ((m.without e entry).rt.replaced e)) (hadd : (m.without e entry).rt.Added e rt) :
    IsSound { (m.without e entry).replaceDefaultRoute e with rt := rt } ∧
      PrefixFree { (m.without e entry).replaceDefaultRoute e with rt := rt } e entry := by
  have hsame : SameRoute (m.rt.heap e) entry :=
    ⟨⟨fun hown => absurd hown hnew, fun hown => absurd hown hold⟩, fun hown => absurd hown hold,
      fun hown => absurd hown hold⟩
  obtain ⟨hex, hother⟩ := Exchange.without h.toWeak he hsame hadd
  have hroutes : ((m.without e entry).replaceDefaultRoute e).ripRoutes =
      m.ripRoutes.map (droppedBy m.rt ((m.without e entry).rt.replaced e)) := by
    rw [replaceDefaultRoute_ripRoutes]
    refine congrFun (congrArg List.map (droppedBy_congr fun x hx => ?_)) _
    exact congrArg IPv4Route.source (store_heap_of_ne _ _ (mem_of_replaced_without h.nodup hx).2.1)
  have h₁ := Sound.exchange h hex hforeign fun x _ hown => ?_
  · constructor
    · rw [IsSound]
      simp only [hroutes, replaceDefaultRoute_nextRef]
      exact h₁
    · intro q hq hroute q' hq' hroute'
      simp only [hroutes] at hq hq'
      obtain ⟨q₁, hq₁, rfl⟩ := mem_map.mp hq
      obtain ⟨q₂, hq₂, rfl⟩ := mem_map.mp hq'
      have hne : q₂.route ≠ some e := by
        intro heq
        rw [droppedBy_of_ne fun x hx hx' => ?_] at hroute'
        · exact hroute' heq
        · rw [heq] at hx'
          exact (mem_of_replaced_without h.nodup hx).2.1 (some.inj hx').symm
      have hdistinct := hfree q₁ hq₁ (droppedBy_route hroute).2.1 q₂ hq₂ hne
      rcases lost_droppedBy m.rt ((m.without e entry).rt.replaced e) q₂ with heq | heq
      all_goals
        rw [heq]
        exact hdistinct
  · by_cases hx : x = e
    · rw [hx] at hown
      exact absurd hown hold
    · rw [hother x hx]

theorem IsSound.changeIPv4Route {fieldCode : FieldCode} (h : m.IsSound)
    (hregular : m.ChangeRegular e entry fieldCode) (hok : m.changeIPv4Route e entry fieldCode = .ok m') : m'.IsSound := by
  obtain ⟨rt, hchange, hrest⟩ := bind_ok.mp hok
  by_cases hkept : entry = m.rt.heap e ∨ ¬ (m.rt.heap e).inTable
  · rw [if_pos hkept] at hrest
    cases hrest
    rcases change_cases hchange with ⟨-, rfl⟩ | ⟨hne, -, rfl⟩ | ⟨hne, hin, -⟩
    · exact h
    · exact h.store (hregular hne).1 (hregular hne).2.1
    · rcases hkept with heq | hout
      · exact absurd heq hne
      · exact absurd hin hout
  · rw [if_neg hkept] at hrest
    have hne : entry ≠ m.rt.heap e := fun heq => hkept (.inl heq)
    have hin : (m.rt.heap e).inTable = true := by
      by_contra hout
      exact hkept (.inr hout)
    obtain ⟨hold, hnew, hfree, hforeign⟩ := hregular hne
    by_cases hcode : fieldCode = .F_DESTINATION ∨ fieldCode = .F_NETMASK ∨ fieldCode = .F_METRIC
    · rw [if_pos hcode] at hrest
      rcases change_cases hchange with ⟨heq, -⟩ | ⟨-, hout | hno, -⟩ | ⟨-, -, -, hmem, hadd⟩
      · exact absurd heq hne
      · rw [hin] at hout
        cases hout
      · exact absurd hcode hno
      · obtain ⟨h₁, hfree₁⟩ := h.moved hmem hold hnew hfree (hforeign ⟨hin, hcode⟩) hadd
        refine h₁.routeChanged ?_ hrest
        have hself : rt.heap e = { entry with inTable := true } := by
          rw [hadd.self, store_heap_self]
        simp only [hself]
        exact hfree₁
    · rw [if_neg hcode] at hrest
      rcases change_cases hchange with ⟨heq, -⟩ | ⟨-, -, rfl⟩ | ⟨-, -, hyes, -⟩
      · exact absurd heq hne
      · refine (h.store hold hnew).routeChanged ?_ hrest
        rw [store_heap_self]
        exact hfree
      · exact absurd hyes hcode

theorem IsSound.invalidateRoutes {ie : InterfaceRef} {positions : List Nat} (h : m.IsSound) :
    (m.invalidateRoutes ie positions).IsSound := by
  induction positions generalizing m with
  | nil => exact h
  | cons i positions ih =>
    rw [RIPRouting.invalidateRoutes]
    split
    · exact ih (Sound.invalidateRoute h i)
    · exact ih h

/-- While the routes of an interface are deleted, those that do not belong to it are as they are to be. -/
theorem deleteInterfaceRoutes_sound {ie : InterfaceRef} {routes : List RouteRef}
    (h : Sound (m.ripRoutes.filter fun q => q.ie ≠ some ie) m.rt m.nextRef)
    (hroutes : ∀ e ∈ routes, (m.rt.heap e).interfacePtr = some ie) :
    Sound ((m.deleteInterfaceRoutes routes).ripRoutes.filter fun q => q.ie ≠ some ie)
      (m.deleteInterfaceRoutes routes).rt (m.deleteInterfaceRoutes routes).nextRef := by
  induction routes generalizing m with
  | nil => exact h
  | cons e routes ih =>
    have hroutes' : ∀ x ∈ routes, (m.rt.heap x).interfacePtr = some ie := fun x hx =>
      hroutes x (mem_cons_of_mem _ hx)
    rw [RIPRouting.deleteInterfaceRoutes]
    by_cases he : e ∈ m.rt.routes
    · have hex : Exchange m.rt (some e) (m.deleteIPv4Route e).rt (m.deleteIPv4Route e).nextRef ∧
          (m.deleteIPv4Route e).rt.heap = m.rt.heap := deleteIPv4Route_exchange h.nodup h.fresh he
      have hforeign : Foreign (m.ripRoutes.filter fun q => q.ie ≠ some ie) m.rt (some e) := by
        intro x hx q hq hroute hown
        cases hx
        have hie := (h.good q hq).ie e hroute hown
        rw [hroutes e mem_cons_self] at hie
        have hne := (mem_filter.mp hq).2
        simp [← hie] at hne
      have hcomm : (m.deleteIPv4Route e).ripRoutes.filter (fun q => q.ie ≠ some ie) =
          (m.ripRoutes.filter fun q => q.ie ≠ some ie).map (droppedBy m.rt (some e)) := by
        rw [deleteIPv4Route_ripRoutes he, List.filter_map]
        refine congrArg (List.map _) (filter_congr fun q _ => ?_)
        rcases lost_droppedBy m.rt (some e) q with heq | heq
        · rw [Function.comp_apply, heq]
        · rw [Function.comp_apply, heq]
          rfl
      refine ih ?_ fun x hx => ?_
      · rw [hcomm]
        exact h.exchange hex.1 hforeign fun x _ _ => by rw [hex.2]
      · rw [hex.2]
        exact hroutes' x hx
    · rw [RIPRouting.deleteIPv4Route, if_neg he]
      exact ih h hroutes'

/-- There are no RIP routes before the startup. -/
def Waits (m : RIPRouting) : Prop := m.startupTimer ≠ none → m.ripRoutes = []

theorem Waits.remaining (h : m.Waits) (hrem : Remaining m m') : m'.Waits := by
  intro htimer
  rw [show m'.startupTimer = m.startupTimer from congrArg Settings.startupTimer hrem.settings] at htimer
  apply eq_nil_iff_forall_not_mem.mpr
  intro q' hq'
  obtain ⟨q, hq, -⟩ := hrem.mem q' hq'
  rw [h htimer] at hq
  cases hq

theorem Waits.of_started (h : m.started = true) : m.Waits := by
  intro htimer
  rw [started, isNone_iff_eq_none] at h
  exact absurd h htimer

theorem Waits.processUpdate {triggered : Bool} (h : m.Waits)
    (hok : m.processUpdate triggered = .ok (m', sent)) : m'.Waits := by
  obtain ⟨⟨m₁, sent₁⟩, hsend, hend⟩ := bind_ok.mp hok
  cases hend
  have h₁ := h.remaining (sendOnInterfaces_filled hsend).1
  intro htimer
  rw [h₁ htimer, map_nil]

theorem Waits.routeAdded (h : m.Waits) (hok : m.routeAdded e = .ok m') : m'.Waits := by
  rcases routeAdded_cases hok with rfl | ⟨hstarted, ie, -, ⟨i, q, -, -, -, -, rfl⟩ | ⟨-, rfl⟩⟩
  · exact h
  · refine Waits.of_started ?_
    rw [started, show ∀ m : RIPRouting, m.triggerUpdate.startupTimer = m.startupTimer from fun m =>
      congrArg Settings.startupTimer (triggerUpdate_settings m)]
    exact hstarted
  · exact Waits.of_started hstarted

theorem Waits.changeIPv4Route {fieldCode : FieldCode} (h : m.Waits)
    (hok : m.changeIPv4Route e entry fieldCode = .ok m') : m'.Waits := by
  obtain ⟨rt, hchange, hrest⟩ := bind_ok.mp hok
  have htime := change_simTime hchange
  split at hrest
  · cases hrest
    exact h.remaining ((Losing.refl m).with_rt htime).remaining
  · have hlosing : Losing m { (if fieldCode = .F_DESTINATION ∨ fieldCode = .F_NETMASK ∨ fieldCode = .F_METRIC then
        (m.without e entry).replaceDefaultRoute e else m) with rt := rt } := by
      split
      · exact ((without_losing m e entry).trans (replaceDefaultRoute_losing _ e)).with_rt htime
      · exact (Losing.refl m).with_rt htime
    have h₁ := h.remaining hlosing.remaining
    rcases routeChanged_cases hrest with rfl | ⟨-, hsettings, -, -, i, q, f, hq, -⟩
    · exact h₁
    · intro htimer
      rw [show m'.startupTimer = _ from congrArg Settings.startupTimer hsettings] at htimer
      rw [h₁ htimer] at hq
      cases hq

theorem Waits.step {event : Event} (h : m.Waits) (hok : m.step event = .ok (m', sent)) : m'.Waits := by
  cases step_did hok with
  | nothing => exact h
  | advanced => exact h
  | started _ hstart =>
    obtain ⟨m₁, -, hrest⟩ := bind_ok.mp hstart
    obtain ⟨m₂, -, hend⟩ := bind_ok.mp hrest
    cases hend
    exact Waits.of_started rfl
  | @updated m₁ _ _ hupdate =>
    have h₁ : m₁.Waits := Waits.processUpdate (m := { m with updateTimer := none }) h hupdate
    exact h₁
  | triggered hupdate => exact Waits.processUpdate (m := { m with triggeredUpdateTimer := none }) h hupdate
  | requested _ hrequest => exact h.remaining (processRequest_remaining hrequest)
  | responded hstarted _ hresponse =>
    refine Waits.of_started ?_
    rw [started, show m'.startupTimer = m.startupTimer from
      congrArg Settings.startupTimer (processResponse_settings hresponse), hstarted]
    rfl
  | interfaceCreated => exact h
  | @interfaceDeleted ie _ hdeleted =>
    cases hdeleted
    have h₁ := h.remaining (deleteInterfaceRoutes_losing m
      (m.rt.routes.filter fun route => (m.rt.heap route).interfacePtr = some ie)).remaining
    intro htimer
    refine filter_eq_nil_iff.mpr fun q hq => ?_
    rw [h₁ htimer] at hq
    cases hq
  | interfaceDown => exact h.remaining (invalidateRoutes_losing m _ _).remaining
  | interfaceUp => exact h
  | routeAdded _ hlosing _ hadded => exact (h.remaining hlosing.remaining).routeAdded hadded
  | routeDeleted => exact h.remaining (deleteIPv4Route_losing m _).remaining
  | routeChanged hchange => exact h.changeIPv4Route hchange

/-- The places of the module that do not look after the table are not reached. -/
def Regular (m : RIPRouting) : Event → Prop
  | .startup _ => m.StartupRegular
  | .packet packet ctrlInfo => m.ResponseRegular packet ctrlInfo
  | .addRoute route => m.AddRegular route
  | .addNetmaskRoute route => m.NetmaskRegular route
  | .deleteRoute route => Foreign m.ripRoutes m.rt (some route)
  | .changeRoute route entry fieldCode => m.ChangeRegular route entry fieldCode
  | _ => True

instance (m : RIPRouting) : ∀ event, Decidable (m.Regular event)
  | .advance _ | .startup _ | .updateTimer | .triggeredUpdateTimer | .packet .. | .interfaceCreated .. | .interfaceDeleted _
  | .interfaceStateChanged .. | .addRoute _ | .addNetmaskRoute _ | .deleteRoute _ | .changeRoute .. => by
    dsimp only [Regular]
    infer_instance

def RunRegular (m : RIPRouting) : List Event → Prop
  | [] => True
  | event :: events => m.Regular event ∧ ∀ r, m.step event = .ok r → r.1.RunRegular events

instance decidableRunRegular : ∀ (events : List Event) (m : RIPRouting), Decidable (m.RunRegular events)
  | [], _ => isTrue trivial
  | event :: events, m =>
    have := fun r : RIPRouting × List Sent => decidableRunRegular events r.1
    inferInstanceAs (Decidable (m.Regular event ∧ ∀ r, m.step event = .ok r → r.1.RunRegular events))

theorem IsSound.step {event : Event} (h : m.IsSound) (hwaits : m.Waits) (hregular : m.Regular event)
    (hok : m.step event = .ok (m', sent)) : m'.IsSound := by
  cases step_did hok with
  | nothing => exact h
  | advanced =>
    exact ⟨⟨fun q hq e he => (h.link q hq e he).congr (h.link q hq e he).mem (SameRoute.refl _), h.apart, h.nodup, h.fresh⟩,
      fun q hq => ⟨(h.good q hq).pos, (h.good q hq).le, (h.good q hq).finite, (h.good q hq).learned, (h.good q hq).ie⟩⟩
  | started htimer hstart => exact h.startRIPRouting (hwaits (by simp [htimer])) hregular hstart
  | @updated m₁ _ _ hupdate =>
    have h₁ : m₁.IsSound := IsSound.processUpdate (m := { m with updateTimer := none }) h hupdate
    exact h₁
  | triggered hupdate => exact IsSound.processUpdate (m := { m with triggeredUpdateTimer := none }) h hupdate
  | requested _ hrequest => exact h.processRequest hrequest
  | responded _ _ hresponse => exact h.processResponse hregular hresponse
  | interfaceCreated => exact h
  | interfaceDeleted hdeleted =>
    cases hdeleted
    refine deleteInterfaceRoutes_sound (Sound.sublist h filter_sublist) fun e he => ?_
    simpa using (mem_filter.mp he).2
  | interfaceDown => exact h.invalidateRoutes
  | interfaceUp => exact h
  | routeAdded hevent _ _ _ =>
    -- what is known of the route depends on who has added it
    rcases hevent with rfl | rfl
    · obtain ⟨rt, hadd, hrest⟩ := bind_ok.mp hok
      obtain ⟨m₁, hadded, hend⟩ := bind_ok.mp hrest
      cases hend
      exact h.addedByOthers hregular hadd hadded
    · obtain ⟨m₁, hadded, hend⟩ := bind_ok.mp hok
      cases hend
      exact h.addedNetmaskRoute hregular hadded
  | routeDeleted => exact Sound.deleteIPv4Route h hregular
  | routeChanged hchange => exact h.changeIPv4Route hregular hchange

theorem IsSound.run {events : List Event} (h : m.IsSound) (hwaits : m.Waits)
    (hregular : m.RunRegular events) (hok : m.run events = .ok (m', sent)) : m'.IsSound := by
  induction events generalizing m sent with
  | nil =>
    cases hok
    exact h
  | cons event events ih =>
    obtain ⟨⟨m₁, sent₁⟩, hstep, hrest⟩ := bind_ok.mp hok
    obtain ⟨⟨m₂, sent₂⟩, hrun, hend⟩ := bind_ok.mp hrest
    cases hend
    exact ih (h.step hwaits hregular.1 hstep) (hwaits.step hstep) (hregular.2 _ hstep) hrun

/-- A module without routes is sound. -/
theorem IsSound.of_empty (hempty : m.ripRoutes = []) (hnodup : m.rt.routes.Nodup)
    (hfresh : ∀ e ∈ m.rt.routes, e < m.nextRef) : m.IsSound := by
  rw [IsSound, hempty]
  exact ⟨⟨fun q hq => (by cases hq), List.Pairwise.nil, hnodup, hfresh⟩, fun q hq => by cases hq⟩

/-- From a module without routes, every run whose steps are regular keeps the invariant. -/
theorem run_tableInvariant (m m' : RIPRouting) (events : List Event) (sent : List Sent) (hempty : m.ripRoutes = [])
    (hnodup : m.rt.routes.Nodup) (hfresh : ∀ e ∈ m.rt.routes, e < m.nextRef) (hregular : m.RunRegular events)
    (hok : m.run events = .ok (m', sent)) : m'.TableInvariant :=
  ((IsSound.of_empty hempty hnodup hfresh).run (fun _ => hempty) hregular hok).tableInvariant

/-- A router with the interfaces 10.0.1.1/24 and 10.0.2.1/24, before its startup. -/
def twoInterfaces : RIPRouting where
  ift := [{ ie := 1, ipv4Data := some (0x0A000101, 0xFFFFFF00) }, { ie := 2, ipv4Data := some (0x0A000201, 0xFFFFFF00) }]
  rt := {
    simTime := 0
    heap := fun e => {
      inTable := true
      dest := if e = 0 then 0x0A000100 else 0x0A000200
      netmask := 0xFFFFFF00
      interfacePtr := some (e + 1)
      sourceType := .IFACENETMASK
      adminDist := dDirectlyConnected
      source := some (.interface (e + 1)) }
    routes := [0, 1]
    routingCache := fun _ => none }
  nextRef := 2
  triggeredUpdateDelay := fun _ => 1
  startupTimer := some 0

/-- The first interface costs 10, the second one 1. -/
def costs (ie : InterfaceRef) : Option InterfaceConfig := some ⟨some (if ie = 1 then 10 else 1), none⟩

/-- A neighbour on the second network tells about a network with metric 1. -/
def advertised (dest : IPv4Address) : List Event :=
  [.startup costs, .packet ⟨RIP_RESPONSE, [{ address := dest, prefixLength := 24, metric := 1 }]⟩ ⟨0x0A000202, 520, 2, 255⟩]

theorem run_tableInvariant_advertised : ∃ r, twoInterfaces.run (advertised 0x0A000300) = .ok r ∧ r.1.TableInvariant :=
  exists_ok (by decide) fun r hr => run_tableInvariant twoInterfaces r.1 (advertised 0x0A000300) r.2 rfl
    (by decide) (by decide) (by decide) hr

/-- The network of the first interface is learned from the neighbour, but its route keeps its type. -/
theorem learned_keeps_type : ∃ r, twoInterfaces.run (advertised 0x0A000100) = .ok r ∧
    (∃ q ∈ r.1.ripRoutes, q.sender = 0x0A000202 ∧ q.type = .RIP_ROUTE_INTERFACE) ∧ ¬ r.1.TableInvariant := by
  have h : ∃ r, twoInterfaces.run (advertised 0x0A000100) = .ok r ∧
      ∃ q ∈ r.1.ripRoutes, q.sender = 0x0A000202 ∧ q.type = .RIP_ROUTE_INTERFACE :=
    exists_ok (by decide) (by decide)
  obtain ⟨r, hr, q, hq, hsender, htype⟩ := h
  refine ⟨r, hr, ⟨q, hq, hsender, htype⟩, fun hinv => ?_⟩
  have hrte := hinv.learned q hq (by rw [hsender]; decide)
  rw [htype] at hrte
  cases hrte

end RIPRouting

end Inet.Rip
