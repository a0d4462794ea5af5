import Inetmanet.Rip.RIPRoutes

/-!
# Lost routes are not announced

`checkRouteIsExpired` gives no route back when it has invalidated one, so that
`sendRoutes` skips a learned route from its expiry on, until it is purged.
-/
namespace Inet.Rip

open Ipv4 RoutingTable IPv4Address List

namespace RIPRouting

variable {m m' : RIPRouting} {dest : IPv4Address} {prefixLength : Int} {t : Nat} {sent : List Sent}

/-- The routes to the destination are learned ones, and none of them has been refreshed since `t`. -/
def Unrefreshed (m : RIPRouting) (dest : IPv4Address) (prefixLength : Int) (t : Nat) : Prop :=
  ∀ q ∈ m.ripRoutes, q.dest = dest → q.prefixLength = prefixLength → q.type = .RIP_ROUTE_RTE ∧ q.lastUpdateTime ≤ t

instance (m : RIPRouting) (dest : IPv4Address) (prefixLength : Int) (t : Nat) :
    Decidable (m.Unrefreshed dest prefixLength t) := inferInstanceAs (Decidable (∀ q ∈ m.ripRoutes, _))

/-- Nothing is heard of the destination, from a neighbour or from the routing table. -/
def Quiet (dest : IPv4Address) (prefixLength : Int) : Event → Prop
  | .packet packet _ => ∀ entry ∈ packet.entry, ¬ (entry.address = dest ∧ entry.prefixLength = prefixLength)
  | .addRoute route => ¬ (route.dest = dest ∧ (getNetmaskLength route.netmask : Int) = prefixLength)
  | .addNetmaskRoute route => ¬ (route.dest = dest ∧ (getNetmaskLength route.netmask : Int) = prefixLength)
  | .changeRoute _ route _ => ¬ (route.dest = dest ∧ (getNetmaskLength route.netmask : Int) = prefixLength)
  | _ => True

instance (dest : IPv4Address) (prefixLength : Int) : ∀ event, Decidable (Quiet dest prefixLength event)
  | .advance _ | .startup _ | .updateTimer | .triggeredUpdateTimer | .packet .. | .interfaceCreated .. | .interfaceDeleted _
  | .interfaceStateChanged .. | .addRoute _ | .addNetmaskRoute _ | .deleteRoute _ | .changeRoute .. => by
    dsimp only [Quiet]
    infer_instance

variable {route : RouteRef}

section

variable (h : m.Unrefreshed dest prefixLength t)
include h

theorem Unrefreshed.remaining (hrem : Remaining m m') : m'.Unrefreshed dest prefixLength t := by
  intro q' hq' hdest hlen
  obtain ⟨q, hq, rfl | rfl⟩ := hrem.mem q' hq'
  · exact h _ hq hdest hlen
  · exact h q hq hdest hlen

/-- The route that an operation works on is another one. -/
theorem Unrefreshed.touched {i : Nat} {P : RIPRoute → Prop}
    (htouched : Touched i P m m') (hP : ∀ q, P q → ¬ (q.dest = dest ∧ q.prefixLength = prefixLength)) :
    m'.Unrefreshed dest prefixLength t := by
  intro q' hq' hdest hlen
  rcases htouched.mem hq' with hself | ⟨q, hq, rfl | rfl⟩
  · exact absurd ⟨hdest, hlen⟩ (hP q' hself)
  · exact h _ hq hdest hlen
  · exact h q hq hdest hlen

/-- A route to another destination is added. -/
theorem Unrefreshed.append {q : RIPRoute}
    (hroutes : m'.ripRoutes = m.ripRoutes ++ [q]) (hq : ¬ (q.dest = dest ∧ q.prefixLength = prefixLength)) :
    m'.Unrefreshed dest prefixLength t := by
  intro q' hq' hdest hlen
  rw [hroutes] at hq'
  rcases mem_append.mp hq' with hold | hnew
  · exact h q' hold hdest hlen
  · rw [mem_singleton.mp hnew] at hdest hlen
    exact absurd ⟨hdest, hlen⟩ hq

theorem Unrefreshed.processEntry {incomingIe : RIPInterfaceEntry} {srcAddr : IPv4Address} {entry : RIPEntry}
    (hquiet : ¬ (entry.address = dest ∧ entry.prefixLength = prefixLength))
    (hok : m.processEntry incomingIe srcAddr entry = .ok m') :
    m'.Unrefreshed dest prefixLength t ∧ m'.settings = m.settings := by
  rcases processEntry_cases hok with ⟨rfl, -⟩ | ⟨i, q, hq, hdest, hlen, hreceive⟩ | ⟨-, -, hadd⟩
  · exact ⟨h, rfl⟩
  · have htouched := receiveEntry_touched hq (Nat.min_le_right _ _) hreceive
    refine ⟨h.touched htouched fun q' hq' hsame => hquiet ?_, htouched.settings⟩
    have hplace : q'.dest = q.dest ∧ q'.prefixLength = q.prefixLength := by
      rcases hq' with hkept | hupdated
      · exact ⟨hkept.dest, hkept.prefixLength⟩
      · exact ⟨hupdated.dest, hupdated.prefixLength⟩
    rw [← hdest, ← hlen, ← hplace.1, ← hplace.2]
    exact hsame
  · obtain ⟨m₁, route, hadded, hsettings, -, -, q, hq, -, hroutes⟩ := addRoute_ok hadd
    refine ⟨(h.remaining (addIPv4Route_ok hadded).losing.remaining).append hroutes fun hsame => hquiet ?_, hsettings⟩
    rw [← hq.dest, ← hq.prefixLength]
    exact hsame

theorem Unrefreshed.processEntries {incomingIe : RIPInterfaceEntry} {srcAddr : IPv4Address} {entries : List RIPEntry}
    (hquiet : ∀ entry ∈ entries, ¬ (entry.address = dest ∧ entry.prefixLength = prefixLength))
    (hok : m.processEntries incomingIe srcAddr entries = .ok m') :
    m'.Unrefreshed dest prefixLength t ∧ m'.settings = m.settings := by
  induction entries generalizing m with
  | nil =>
    cases hok
    exact ⟨h, rfl⟩
  | cons entry entries ih =>
    obtain ⟨m₁, hentry, hok⟩ := bind_ok.mp hok
    obtain ⟨h₁, hsettings⟩ := h.processEntry (hquiet entry mem_cons_self) hentry
    obtain ⟨h', hsettings'⟩ := ih h₁ (fun entry hmem => hquiet entry (mem_cons_of_mem _ hmem)) hok
    exact ⟨h', hsettings'.trans hsettings⟩

theorem Unrefreshed.processResponse {packet : RIPPacket} {ctrlInfo : UDPDataIndication}
    (hquiet : ∀ entry ∈ packet.entry, ¬ (entry.address = dest ∧ entry.prefixLength = prefixLength))
    (hok : m.processResponse packet ctrlInfo = .ok m') :
    m'.Unrefreshed dest prefixLength t ∧ m'.settings = m.settings := by
  rw [RIPRouting.processResponse] at hok
  split at hok
  · cases hok
    exact ⟨h, rfl⟩
  · split at hok
    · cases hok
      exact ⟨h, rfl⟩
    · exact h.processEntries hquiet hok

theorem Unrefreshed.processUpdate {triggered : Bool}
    (hok : m.processUpdate triggered = .ok (m', sent)) :
    m'.Unrefreshed dest prefixLength t ∧ m'.settings = m.settings := by
  obtain ⟨⟨m₁, sent₁⟩, hsend, hok⟩ := bind_ok.mp hok
  cases hok
  have hrem := (sendOnInterfaces_filled hsend).1
  refine ⟨fun q' hq' hdest hlen => ?_, hrem.settings⟩
  obtain ⟨q, hq, rfl⟩ := mem_map.mp hq'
  exact h.remaining hrem q hq hdest hlen

theorem Unrefreshed.routeAdded (hquiet : ¬ ((m.rt.heap route).dest = dest ∧
      (getNetmaskLength (m.rt.heap route).netmask : Int) = prefixLength))
    (hok : m.routeAdded route = .ok m') :
    m'.Unrefreshed dest prefixLength t ∧ m'.settings = m.settings := by
  rcases routeAdded_cases hok with rfl | ⟨-, ie, -, ⟨i, q, -, hq, htype, -, rfl⟩ | ⟨-, rfl⟩⟩
  · exact ⟨h, rfl⟩
  · refine ⟨?_, triggerUpdate_settings _⟩
    have hne : ¬ (q.dest = dest ∧ q.prefixLength = prefixLength) := by
      rintro ⟨hdest, hlen⟩
      have hlearned := (h q (mem_of_getElem? hq) hdest hlen).1
      rw [htype] at hlearned
      cases hlearned
    have hreadded : Touched i (fun q' => ¬ (q'.dest = dest ∧ q'.prefixLength = prefixLength)) m
        (m.modifyRoute i (m.readded route ie)) := (Touched.start hq hne).modify _ fun q' hq' => hq'
    exact (h.touched hreadded fun q' hq' => hq').remaining (triggerUpdate_losing _).remaining
  · exact ⟨h.append rfl hquiet, rfl⟩

end

/-- What a setter makes of the object. -/
theorem change_heap {rt rt' : RoutingTable} {entry : IPv4Route} {fieldCode : FieldCode}
    (h : rt.change route entry fieldCode = .ok rt') :
    (rt'.heap route).dest = entry.dest ∧ (rt'.heap route).netmask = entry.netmask := by
  rcases change_cases h with ⟨rfl, rfl⟩ | ⟨-, -, rfl⟩ | ⟨-, -, -, -, hadd⟩
  · exact ⟨rfl, rfl⟩
  · rw [store_heap_self]
    exact ⟨rfl, rfl⟩
  · have hself := hadd.self
    simp only [store_heap_self] at hself
    rw [hself]
    exact ⟨rfl, rfl⟩

section

variable (h : m.Unrefreshed dest prefixLength t)
include h

theorem Unrefreshed.changeIPv4Route {entry : IPv4Route} {fieldCode : FieldCode}
    (hquiet : ¬ (entry.dest = dest ∧ (getNetmaskLength entry.netmask : Int) = prefixLength))
    (hok : m.changeIPv4Route route entry fieldCode = .ok m') :
    m'.Unrefreshed dest prefixLength t ∧ m'.settings = m.settings := by
  obtain ⟨rt, hchange, hok⟩ := bind_ok.mp hok
  have htime := change_simTime hchange
  obtain ⟨hdest, hmask⟩ := change_heap hchange
  split at hok
  · cases hok
    have hl := (Losing.refl m).with_rt htime
    exact ⟨h.remaining hl.remaining, hl.settings⟩
  · have hl : Losing m { (if fieldCode = .F_DESTINATION ∨ fieldCode = .F_NETMASK ∨ fieldCode = .F_METRIC then
        (m.without route entry).replaceDefaultRoute route else m) with rt := rt } := by
      refine Losing.with_rt ?_ htime
      split
      · exact (without_losing m route entry).trans (replaceDefaultRoute_losing _ route)
      · exact Losing.refl m
    have h₁ := h.remaining hl.remaining
    rcases routeChanged_cases hok with rfl | ⟨-, hsettings, -, -, i, q, f, hq, -, hfollows, hroutes⟩
    · exact ⟨h₁, hl.settings⟩
    · have htouched := Touched.of_modify (P := Follows _ q) hq hsettings hroutes hfollows
      refine ⟨h₁.touched htouched fun q' hq' hsame => hquiet ?_, htouched.settings.trans hl.settings⟩
      rw [hq'.dest, hq'.prefixLength] at hsame
      simp only [hdest, hmask] at hsame
      exact hsame

theorem Unrefreshed.step {event : Event}
    (hstarted : m.startupTimer = none) (hquiet : Quiet dest prefixLength event)
    (hok : m.step event = .ok (m', sent)) :
    m'.Unrefreshed dest prefixLength t ∧ m'.startupTimer = none := by
  have hkeep : ∀ {m₁ : RIPRouting}, m₁.Unrefreshed dest prefixLength t ∧ m₁.settings = m.settings →
      m₁.Unrefreshed dest prefixLength t ∧ m₁.startupTimer = none := fun {m₁} h₁ =>
    ⟨h₁.1, (congrArg Settings.startupTimer h₁.2).trans hstarted⟩
  have hlost {m₁ : RIPRouting} (hl : Losing m m₁) : m₁.Unrefreshed dest prefixLength t ∧ m₁.startupTimer = none :=
    hkeep ⟨h.remaining hl.remaining, hl.settings⟩
  cases step_did hok with
  | nothing => exact ⟨h, hstarted⟩
  | advanced => exact ⟨h, hstarted⟩
  | started htimer =>
    rw [hstarted] at htimer
    cases htimer
  | @updated m₁ _ _ hupdate =>
    have h₀ : { m with updateTimer := none }.Unrefreshed dest prefixLength t := h
    obtain ⟨h₁, hsettings⟩ := h₀.processUpdate hupdate
    exact ⟨h₁, (congrArg Settings.startupTimer hsettings).trans hstarted⟩
  | triggered hupdate =>
    have h₀ : { m with triggeredUpdateTimer := none }.Unrefreshed dest prefixLength t := h
    exact hkeep (h₀.processUpdate hupdate)
  | requested _ hrequest =>
    have hrem := processRequest_remaining hrequest
    exact hkeep ⟨h.remaining hrem, hrem.settings⟩
  | responded _ _ hresponse => exact hkeep (h.processResponse hquiet hresponse)
  | interfaceCreated => exact ⟨h, hstarted⟩
  | @interfaceDeleted ie _ hdeleted =>
    cases hdeleted
    obtain ⟨h₁, hstarted₁⟩ := hlost (deleteInterfaceRoutes_losing m
      (m.rt.routes.filter fun route => (m.rt.heap route).interfacePtr = some ie))
    exact ⟨fun q hq hdest hlen => h₁ q (mem_of_mem_filter hq) hdest hlen, hstarted₁⟩
  | interfaceDown => exact hlost (invalidateRoutes_losing m _ _)
  | interfaceUp => exact ⟨h, hstarted⟩
  | routeAdded hevent hl hself hadded =>
    obtain ⟨h₁, hsettings⟩ := (h.remaining hl.remaining).routeAdded
      (by rcases hevent with rfl | rfl <;> simp only [hself] <;> exact hquiet) hadded
    exact hkeep ⟨h₁, hsettings.trans hl.settings⟩
  | routeDeleted => exact hlost (deleteIPv4Route_losing m _)
  | routeChanged hchange => exact hkeep (h.changeIPv4Route hquiet hchange)

theorem Unrefreshed.run {events : List Event}
    (hstarted : m.startupTimer = none) (hquiet : ∀ event ∈ events, Quiet dest prefixLength event)
    (hok : m.run events = .ok (m', sent)) : m'.Unrefreshed dest prefixLength t ∧ m'.startupTimer = none := by
  induction events generalizing m sent with
  | nil =>
    cases hok
    exact ⟨h, hstarted⟩
  | cons event events ih =>
    obtain ⟨⟨m₁, sent₁⟩, hstep, hok⟩ := bind_ok.mp hok
    obtain ⟨⟨m₂, sent₂⟩, hrun, hok⟩ := bind_ok.mp hok
    cases hok
    obtain ⟨h₁, hstarted₁⟩ := h.step hstarted (hquiet event mem_cons_self) hstep
    exact ih h₁ hstarted₁ (fun event hmem => hquiet event (mem_cons_of_mem _ hmem)) hrun

end

/-- A regular or a triggered update. -/
inductive Event.IsUpdate : Event → Prop where
  | regular : IsUpdate .updateTimer
  | triggered : IsUpdate .triggeredUpdateTimer

/-- What is sent in an update comes from the routes that have not expired. -/
theorem update_filled {event : Event} (hupdate : event.IsUpdate) (hok : m.step event = .ok (m', sent)) :
    ∀ s ∈ sent, ∀ entry ∈ s.packet.entry, ∃ i ∈ m.ripInterfaces, FilledFrom i m entry := by
  have hsend : ∀ {m₀ m₁ : RIPRouting} {triggered : Bool} {sent : List Sent}, m₀.processUpdate triggered = .ok (m₁, sent) →
      ∀ s ∈ sent, ∀ entry ∈ s.packet.entry, ∃ i ∈ m₀.ripInterfaces, FilledFrom i m₀ entry := by
    intro m₀ m₁ triggered sent hprocess s hs entry hentry
    obtain ⟨⟨m₂, sent₂⟩, hsend, hend⟩ := bind_ok.mp hprocess
    cases hend
    obtain ⟨-, i, hi, -, -, hentries⟩ := (sendOnInterfaces_filled hsend).2 s hs
    exact ⟨i, hi, hentries entry hentry⟩
  cases hupdate with
  | regular =>
    rw [step] at hok
    split at hok
    · obtain ⟨⟨m₁, sent₁⟩, hprocess, hend⟩ := bind_ok.mp hok
      cases hend
      have hfilled := hsend hprocess
      exact hfilled
    · cases hok
      intro s hs
      cases hs
  | triggered =>
    rw [step] at hok
    split at hok
    · have hfilled := hsend hok
      exact hfilled
    · cases hok
      intro s hs
      cases hs

/-- The interfaces on which a route is to be announced, with plain split horizon. -/
def toAnnounce (m : RIPRouting) (q : RIPRoute) : List RIPInterfaceEntry :=
  m.ripInterfaces.filter fun i => i.mode ≠ .NO_RIP ∧ ¬ (i.mode = .SPLIT_HORIZON ∧ q.ie = some i.ie)

/-- The neighbours on an interface are told that the destination is not to be reached. -/
def Announced (sent : List Sent) (q : RIPRoute) (i : RIPInterfaceEntry) : Prop :=
  ∃ s ∈ sent, s.outInterface = some i.ie ∧
    ∃ entry ∈ s.packet.entry, entry.address = q.dest ∧ entry.prefixLength = q.prefixLength ∧
      entry.metric = RIP_INFINITE_METRIC
deriving Decidable

/-- After a learned route to the destination has not been refreshed for `routeExpiryTime`, no update has
an entry for the destination: it is announced as lost only if there is no interface to announce it on. -/
theorem lost_route_announced_iff (m₀ m m' : RIPRouting) (events : List Event) (event : Event) (sent₀ sent : List Sent)
    (q : RIPRoute) (hstarted : m₀.startupTimer = none)
    (hlearned : m₀.Unrefreshed q.dest q.prefixLength q.lastUpdateTime)
    (hquiet : ∀ event ∈ events, Quiet q.dest q.prefixLength event) (hrun : m₀.run events = .ok (m, sent₀))
    (hlate : q.lastUpdateTime + m.routeExpiryTime ≤ m.simTime) (hupdate : event.IsUpdate)
    (hstep : m.step event = .ok (m', sent)) :
    ((∀ i ∈ m.toAnnounce q, Announced sent q i) ↔ m.toAnnounce q = []) ∧
    ∀ s ∈ sent, ∀ entry ∈ s.packet.entry, ¬ (entry.address = q.dest ∧ entry.prefixLength = q.prefixLength) := by
  have h := (hlearned.run hstarted hquiet hrun).1
  have hnone : ∀ s ∈ sent, ∀ entry ∈ s.packet.entry,
      ¬ (entry.address = q.dest ∧ entry.prefixLength = q.prefixLength) := by
    rintro s hs entry hentry ⟨hdest, hlen⟩
    obtain ⟨i, -, q', hq', hvalid, q'', hlost, metric, -, rfl⟩ := update_filled hupdate hstep s hs entry hentry
    have hsame : q'.dest = q.dest ∧ q'.prefixLength = q.prefixLength := by
      rcases hlost with rfl | rfl
      · exact ⟨hdest, hlen⟩
      · exact ⟨hdest, hlen⟩
    obtain ⟨htype, htime⟩ := h q' hq' hsame.1 hsame.2
    exact hvalid ⟨htype, by omega⟩
  refine ⟨⟨fun hall => ?_, fun hempty => by simp [hempty]⟩, hnone⟩
  apply eq_nil_iff_forall_not_mem.mpr
  intro i hi
  obtain ⟨s, hs, -, entry, hentry, hdest, hlen, -⟩ := hall i hi
  exact hnone s hs entry hentry ⟨hdest, hlen⟩

/-- A router with one interface, 10.0.0.1/24, before its startup. -/
def oneInterface : RIPRouting where
  ift := [{ ie := 1, ipv4Data := some (0x0A000001, 0xFFFFFF00) }]
  rt := {
    simTime := 0
    heap := fun _ => {
      inTable := true
      dest := 0x0A000000
      netmask := 0xFFFFFF00
      interfacePtr := some 1
      sourceType := .IFACENETMASK
      adminDist := dDirectlyConnected
      source := some (.interface 1) }
    routes := [0]
    routingCache := fun _ => none }
  nextRef := 1
  triggeredUpdateDelay := fun _ => 1
  startupTimer := some 0

/-- A neighbour tells about 10.1.0.0/16. -/
def learning : List Event :=
  [.startup fun _ => some ⟨none, some "NoSplitHorizon"⟩,
    .packet ⟨RIP_RESPONSE, [{ address := 0x0A010000, prefixLength := 16, metric := 1 }]⟩ ⟨0x0A000002, 520, 1, 255⟩]

/-- The route that has been learned. -/
def lostRoute : RIPRoute where
  type := .RIP_ROUTE_RTE
  route := some 1
  dest := 0x0A010000
  prefixLength := 16
  nextHop := 0x0A000002
  ie := some 1
  sender := 0x0A000002
  metric := 2
  tag := 0

/-- Nothing more is heard of it for 180 s. -/
def waiting : List Event :=
  [.advance 1, .triggeredUpdateTimer] ++ (replicate 5 [.advance 30, .updateTimer]).flatten ++ [.advance 30]

/-- The module when the route is due, and what it sends then. -/
def overdue : Sim (RIPRouting × RIPRouting × List Sent) := do
  let (m₀, _) ← oneInterface.run learning
  let (m, _) ← m₀.run waiting
  let (_, sent) ← m.step .updateTimer
  return (m₀, m, sent)

theorem overdue_ok {m₀ m : RIPRouting} (h : overdue = .ok (m₀, m, sent)) :
    (∃ sent₀, oneInterface.run learning = .ok (m₀, sent₀)) ∧ (∃ sent₁, m₀.run waiting = .ok (m, sent₁)) ∧
      ∃ m', m.step .updateTimer = .ok (m', sent) := by
  obtain ⟨⟨m₁, sent₁⟩, hlearning, h⟩ := bind_ok.mp h
  obtain ⟨⟨m₂, sent₂⟩, hwaiting, h⟩ := bind_ok.mp h
  obtain ⟨⟨m₃, sent₃⟩, hstep, h⟩ := bind_ok.mp h
  cases h
  exact ⟨⟨sent₁, hlearning⟩, ⟨sent₂, hwaiting⟩, m₃, hstep⟩

theorem lost_route_announced_iff_overdue : ∃ r, overdue = .ok r ∧
    ((∀ i ∈ r.2.1.toAnnounce lostRoute, Announced r.2.2 lostRoute i) ↔ r.2.1.toAnnounce lostRoute = []) := by
  refine exists_ok (by decide) fun r hr => ?_
  obtain ⟨m₀, m, sent⟩ := r
  obtain ⟨-, ⟨sent₁, hwaiting⟩, m', hstep⟩ := overdue_ok hr
  have hstart : ∀ r, overdue = .ok r → r.1.startupTimer = none ∧ r.1.Unrefreshed 0x0A010000 16 0 ∧
      0 + r.2.1.routeExpiryTime ≤ r.2.1.simTime := by decide
  obtain ⟨hstarted, hlearned, hlate⟩ := hstart _ hr
  exact (lost_route_announced_iff m₀ m m' waiting .updateTimer sent₁ sent lostRoute hstarted hlearned
    (by decide) hwaiting hlate .regular hstep).1

/-- The regular update at 180 s, when the route has expired and is not yet to be purged, leaves it out. -/
theorem lost_route_skipped : ∃ r, overdue = .ok r ∧
    (∃ q ∈ r.2.1.ripRoutes, q.dest = lostRoute.dest ∧ q.prefixLength = lostRoute.prefixLength ∧
      q.type = .RIP_ROUTE_RTE ∧ q.lastUpdateTime + r.2.1.routeExpiryTime ≤ r.2.1.simTime ∧
      r.2.1.simTime < q.lastUpdateTime + r.2.1.routeExpiryTime + r.2.1.routePurgeTime) ∧
    ∃ i ∈ r.2.1.toAnnounce lostRoute, ¬ Announced r.2.2 lostRoute i :=
  exists_ok (by decide) (by decide)

end RIPRouting

end Inet.Rip
