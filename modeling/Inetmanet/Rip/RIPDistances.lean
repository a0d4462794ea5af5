import Inetmanet.Rip.RIPNetwork

/-!
# The metrics in a network

No metric falls below the distance, in runs in which a route that is added again is not
taken for another one and responses come from the network they arrive on.
-/
namespace Inet.Rip

open Ipv4 List Option DistanceVector.Graph.Estimate Inet.Rip.Topology IPv4Address RoutingTable

theorem RIPInterfaceEntry.configure_ie {e e' : RIPInterfaceEntry} {config : InterfaceConfig}
    (h : e.configure config = .ok e') : e'.ie = e.ie := by
  rw [configure] at h
  simp only [bind, Except.bind, pure, Except.pure, throw, throwThe, MonadExceptOf.throw] at h
  split at h
  · split at h
    · cases h
    · cases h
      rfl
  · split at h
    · split at h
      · cases h
      · cases h
        rfl
    · cases h

theorem RIPInterfaceEntry.new_ie {ie : InterfaceRef} {config : Option InterfaceConfig} {e : RIPInterfaceEntry}
    (h : RIPInterfaceEntry.new ie config = .ok e) : e.ie = ie := by
  cases config with
  | none =>
    cases h
    rfl
  | some config => exact configure_ie h

namespace RIPRouting

variable {m m' : RIPRouting}

/-- The metric of an interface, going by the entries of a list. -/
def metricIn (ripInterfaces : List RIPInterfaceEntry) (ie : InterfaceRef) : Nat :=
  match ripInterfaces.find? fun i => i.ie = ie with
  | some ripIe => ripIe.metric
  | none => 1

theorem configureInterfaces_cost {config : InterfaceRef → Option InterfaceConfig} {ift : List InterfaceEntry}
    (hok : m.configureInterfaces config ift = .ok m') :
    ∃ added, m' = { m with ripInterfaces := m.ripInterfaces ++ added } ∧
      ∀ ie, metricIn added ie = interfaceCost config ift ie := by
  induction ift generalizing m with
  | nil =>
    cases hok
    exact ⟨[], by rw [append_nil], fun ie => rfl⟩
  | cons i ift ih =>
    rw [configureInterfaces] at hok
    split at hok
    case isTrue hused =>
      obtain ⟨m₁, hadd, hrest⟩ := bind_ok.mp hok
      obtain ⟨ripInterface, hnew, hend⟩ := bind_ok.mp hadd
      cases hend
      obtain ⟨added, rfl, hcost⟩ := ih hrest
      refine ⟨ripInterface :: added, by simp, fun ie => ?_⟩
      have hie := RIPInterfaceEntry.new_ie hnew
      by_cases hsame : i.ie = ie
      · rw [← hsame]
        simp [metricIn, interfaceCost, hie, hused.1, hused.2, hnew]
      · have hrest := hcost ie
        simp only [metricIn, interfaceCost] at hrest ⊢
        rw [find?_cons_of_neg (by simpa [hie] using hsame), find?_cons_of_neg (by simp [hsame]), hrest]
    case isFalse hunused =>
      obtain ⟨added, rfl, hcost⟩ := ih hok
      refine ⟨added, rfl, fun ie => ?_⟩
      rw [hcost ie]
      simp only [interfaceCost]
      rw [find?_cons_of_neg]
      rintro hcond
      simp only [decide_eq_true_eq] at hcond
      exact hunused hcond.2

end RIPRouting

variable {ctrlInfo : UDPDataIndication}

namespace Topology

variable {Router : Type}

/-- The metric is no underestimate, and a route that has been learned leads to the router that told it. -/
structure Justified (T : Topology Router) (r : Router) (q : RIPRoute) : Prop where
  estimate : T.graph.Estimate RIP_INFINITE_METRIC r (q.dest, q.prefixLength) q.metric
  learned : q.sender ≠ 0 → q.nextHop = q.sender ∧ ∃ ie, q.ie = some ie ∧ ∃ sender, T.Neighbour r ie sender q.sender

/-- What a router sends: a response tells metrics that are no underestimates for it. -/
structure SentBy (T : Topology Router) (r : Router) (p : RIPPacket) : Prop where
  nextHop : ∀ entry ∈ p.entry, entry.nextHop = 0
  estimate : p.command = RIP_RESPONSE → ∀ entry ∈ p.entry,
    T.graph.Estimate RIP_INFINITE_METRIC r (entry.address, entry.prefixLength) entry.metric

/-- The state of a router in the network. -/
structure Fits (T : Topology Router) (r : Router) (m : RIPRouting) : Prop where
  ift : m.ift = T.ift r
  waiting : m.startupTimer ≠ none → m.ripInterfaces = []
  costs : m.startupTimer = none → ∀ ie, m.getInterfaceMetric ie = T.cost r ie
  justified : ∀ q ∈ m.ripRoutes, T.Justified r q

variable {T : Topology Router} {r sender : Router} {m m' : RIPRouting} {q q' : RIPRoute} {ie : InterfaceRef}
  {srcAddr : IPv4Address}

/-- A route with an infinite metric promises nothing. -/
theorem Justified.invalidated (h : T.Justified r q) : T.Justified r (RIPRouting.invalidated q) :=
  ⟨cap_self, h.learned⟩

theorem Justified.lost (h : T.Justified r q) (hlost : RIPRouting.Lost q q') : T.Justified r q' := by
  rcases hlost with rfl | rfl
  · exact h
  · exact h.invalidated

theorem Fits.of_settings (h : T.Fits r m) (hsettings : m'.settings = m.settings)
    (hjustified : ∀ q ∈ m'.ripRoutes, T.Justified r q) : T.Fits r m' := by
  have hinterfaces : m'.ripInterfaces = m.ripInterfaces := congrArg Settings.ripInterfaces hsettings
  have htimer : m'.startupTimer = m.startupTimer := congrArg Settings.startupTimer hsettings
  constructor
  · exact (congrArg Settings.ift hsettings).trans h.ift
  · rw [htimer, hinterfaces]
    exact h.waiting
  · rw [htimer]
    intro hstarted ie
    rw [RIPRouting.getInterfaceMetric, RIPRouting.findInterfaceById, hinterfaces]
    exact h.costs hstarted ie
  · exact hjustified

theorem Fits.remaining (h : T.Fits r m) (hrem : RIPRouting.Remaining m m') : T.Fits r m' := by
  refine h.of_settings hrem.settings fun q' hq' => ?_
  obtain ⟨q, hq, hlost⟩ := hrem.mem q' hq'
  exact (h.justified q hq).lost hlost

/-- A router is one link away from its neighbours. -/
theorem Neighbour.link (h : T.Neighbour r ie sender srcAddr) : T.graph.link r sender (T.cost r ie) := by
  obtain ⟨hnetwork, i, -, hsame, -⟩ := h
  obtain ⟨n, hn⟩ := ne_none_iff_exists'.mp hnetwork
  exact ⟨ie, i.ie, n, hn, hsame.trans hn, rfl⟩

open RIPRouting

variable {incomingIe ripInterface : RIPInterfaceEntry} {sent : List Sent} {e : RouteRef}

section

variable (h : T.Fits r m)
include h

theorem Fits.incoming (hstarted : m.startupTimer = none)
    (hie : m.findInterfaceById ie = some incomingIe) : incomingIe.ie = ie ∧ incomingIe.metric = T.cost r ie := by
  have hfound : incomingIe.ie = ie := by simpa using find?_some hie
  have hcost := h.costs hstarted ie
  rw [getInterfaceMetric, hie] at hcost
  exact ⟨hfound, hcost⟩

theorem Fits.processEntry {entry : RIPEntry}
    (hcost : incomingIe.metric = T.cost r incomingIe.ie) (hneighbour : T.Neighbour r incomingIe.ie sender srcAddr)
    (hnext : entry.nextHop = 0)
    (hentry : T.graph.Estimate RIP_INFINITE_METRIC sender (entry.address, entry.prefixLength) entry.metric)
    (hok : m.processEntry incomingIe srcAddr entry = .ok m') : T.Fits r m' := by
  have hmetric : T.graph.Estimate RIP_INFINITE_METRIC r (entry.address, entry.prefixLength)
      (min (entry.metric + incomingIe.metric) RIP_INFINITE_METRIC) := by
    rw [hcost]
    exact (hentry.hop hneighbour.link).capped
  have hhop : (if entry.nextHop = 0 then srcAddr else entry.nextHop) = srcAddr := if_pos hnext
  refine h.of_settings (processEntry_settings hok) fun q' hq' => ?_
  rcases processEntry_cases hok with ⟨rfl, -⟩ | ⟨i, q, hq, hdest, hlen, hreceive⟩ | ⟨-, -, hadd⟩
  · exact h.justified q' hq'
  · rw [hhop] at hreceive
    rcases (receiveEntry_touched hq (Nat.min_le_right _ _) hreceive).mem hq' with
      (hkept | hupdated) | ⟨q₁, hq₁, hlost⟩
    · have hold := h.justified q (mem_of_getElem? hq)
      constructor
      · rw [hkept.dest, hkept.prefixLength, hkept.metric]
        exact hold.estimate
      · rw [hkept.sender, hkept.nextHop, hkept.ie]
        exact hold.learned
    · constructor
      · rw [hupdated.dest, hupdated.prefixLength, hdest, hlen]
        rcases hupdated.metric with hinf | hnew
        · rw [hinf]
          exact cap_self
        · rw [hnew]
          exact hmetric
      · intro _
        rw [hupdated.sender, hupdated.nextHop, hupdated.ie]
        exact ⟨rfl, incomingIe.ie, rfl, sender, hneighbour⟩
    · exact (h.justified q₁ hq₁).lost hlost
  · rw [hhop] at hadd
    obtain ⟨m₁, route, hadded, -, -, -, q, hq, -, hroutes⟩ := addRoute_ok hadd
    rw [hroutes] at hq'
    rcases mem_append.mp hq' with hold | hnew
    · obtain ⟨q₁, hq₁, hlost⟩ := (addIPv4Route_ok hadded).losing.mem hold
      exact (h.justified q₁ hq₁).lost hlost
    · rw [mem_singleton.mp hnew]
      constructor
      · rw [hq.dest, hq.prefixLength, hq.metric]
        exact hmetric
      · intro _
        rw [hq.sender, hq.nextHop, hq.ie]
        exact ⟨rfl, incomingIe.ie, rfl, sender, hneighbour⟩

theorem Fits.processEntries {entries : List RIPEntry}
    (hcost : incomingIe.metric = T.cost r incomingIe.ie) (hneighbour : T.Neighbour r incomingIe.ie sender srcAddr)
    (hnext : ∀ entry ∈ entries, entry.nextHop = 0)
    (hentries : ∀ entry ∈ entries,
      T.graph.Estimate RIP_INFINITE_METRIC sender (entry.address, entry.prefixLength) entry.metric)
    (hok : m.processEntries incomingIe srcAddr entries = .ok m') : T.Fits r m' := by
  induction entries generalizing m with
  | nil =>
    cases hok
    exact h
  | cons entry entries ih =>
    obtain ⟨m₁, hfirst, hrest⟩ := bind_ok.mp hok
    have h₁ := h.processEntry hcost hneighbour (hnext entry mem_cons_self) (hentries entry mem_cons_self) hfirst
    exact ih h₁ (fun entry' h' => hnext entry' (mem_cons_of_mem _ h'))
      (fun entry' h' => hentries entry' (mem_cons_of_mem _ h')) hrest

/-- A response from a neighbour. -/
theorem Fits.processResponse {packet : RIPPacket}
    (hstarted : m.startupTimer = none) (hcommand : packet.command = RIP_RESPONSE) (hsent : T.SentBy sender packet)
    (hneighbour : m.isValidResponse packet ctrlInfo = true →
      T.Neighbour r ctrlInfo.interfaceId sender ctrlInfo.srcAddr)
    (hok : m.processResponse packet ctrlInfo = .ok m') : T.Fits r m' := by
  rw [RIPRouting.processResponse] at hok
  split at hok
  · cases hok
    exact h
  case isFalse hvalid =>
    cases hie : m.findInterfaceById ctrlInfo.interfaceId with
    | none =>
      simp only [hie] at hok
      cases hok
      exact h
    | some incomingIe =>
      simp only [hie] at hok
      obtain ⟨hfound, hcost⟩ := h.incoming hstarted hie
      have hneighbour := hneighbour (not_not.mp hvalid)
      rw [← hfound] at hcost hneighbour
      exact h.processEntries hcost hneighbour hsent.nextHop (hsent.estimate hcommand) hok

end

theorem splitHorizon_some {metric : Nat} (h : splitHorizon ripInterface q = some metric) :
    metric = RIP_INFINITE_METRIC ∨ metric = q.metric := by
  rw [splitHorizon] at h
  split at h
  · split at h
    · cases h
    · cases h
      exact .inl rfl
    · cases h
      exact .inr rfl
  · cases h
    exact .inr rfl

section

variable (h : T.Fits r m)
include h

/-- An entry that is filled in from a route tells no underestimate. -/
theorem Fits.filled {entry : RIPEntry}
    (hfilled : FilledFrom ripInterface m entry) : entry.nextHop = 0 ∧
      T.graph.Estimate RIP_INFINITE_METRIC r (entry.address, entry.prefixLength) entry.metric := by
  obtain ⟨q, hq, -, q', hlost, metric, hmetric, rfl⟩ := hfilled
  refine ⟨rfl, ?_⟩
  have hestimate := ((h.justified q hq).lost hlost).estimate
  rcases splitHorizon_some hmetric with rfl | rfl
  · exact cap_self
  · exact hestimate

theorem Fits.sendRoutes {address : IPv4Address} {port : Nat} {changedOnly : Bool}
    (hok : m.sendRoutes address port ripInterface changedOnly = .ok (m', sent)) :
    T.Fits r m' ∧ ∀ s ∈ sent, T.SentBy r s.packet := by
  obtain ⟨hrem, hsent⟩ := sendRoutes_filled hok
  refine ⟨h.remaining hrem, fun s hs => ?_⟩
  obtain ⟨-, -, hentries⟩ := hsent s hs
  exact ⟨fun entry he => (h.filled (hentries entry he)).1, fun _ entry he => (h.filled (hentries entry he)).2⟩

theorem Fits.processUpdate {triggered : Bool}
    (hok : m.processUpdate triggered = .ok (m', sent)) : T.Fits r m' ∧ ∀ s ∈ sent, T.SentBy r s.packet := by
  obtain ⟨⟨m₁, sent₁⟩, hsend, hend⟩ := bind_ok.mp hok
  cases hend
  obtain ⟨hrem, hsent⟩ := sendOnInterfaces_filled hsend
  constructor
  · refine (h.remaining hrem).of_settings rfl fun q' hq' => ?_
    obtain ⟨q, hq, rfl⟩ := mem_map.mp hq'
    have hold := (h.remaining hrem).justified q hq
    exact ⟨hold.estimate, hold.learned⟩
  · intro s hs
    obtain ⟨-, i, -, -, -, hentries⟩ := hsent s hs
    exact ⟨fun entry he => (h.filled (hentries entry he)).1, fun _ entry he => (h.filled (hentries entry he)).2⟩

/-- The entries of a request are answered with the metrics of the routes. -/
theorem Fits.fillRequest {numEntries : Nat} {entries filled : List RIPEntry}
    (hnext : ∀ entry ∈ entries, entry.nextHop = 0) (hok : m.fillRequest numEntries entries = .ok filled) :
    ∀ entry ∈ filled, entry.nextHop = 0 ∧
      T.graph.Estimate RIP_INFINITE_METRIC r (entry.address, entry.prefixLength) entry.metric := by
  induction entries generalizing filled with
  | nil =>
    cases hok
    intro entry hentry
    cases hentry
  | cons entry entries ih =>
    rw [RIPRouting.fillRequest] at hok
    split at hok
    · cases hok
    · split at hok
      · obtain ⟨rest, hrest, hend⟩ := bind_ok.mp hok
        cases hend
        intro e he
        rcases mem_cons.mp he with rfl | hold
        · refine ⟨hnext entry mem_cons_self, ?_⟩
          cases hfind : m.findRoute entry.address entry.prefixLength with
          | none => exact cap_self
          | some i =>
            obtain ⟨q, hq, hdest, hlen⟩ := findRoute_some hfind
            have hestimate := (h.justified q (mem_of_getElem? hq)).estimate
            rw [hdest, hlen] at hestimate
            simp only [bind_some, hq]
            exact hestimate
        · exact ih (fun e' h' => hnext e' (mem_cons_of_mem _ h')) hrest e hold
      · cases hok

theorem Fits.processRequest {packet : RIPPacket}
    (hnext : ∀ entry ∈ packet.entry, entry.nextHop = 0) (hok : m.processRequest packet ctrlInfo = .ok (m', sent)) :
    T.Fits r m' ∧ ∀ s ∈ sent, T.SentBy r s.packet := by
  have hnone : ∀ s ∈ ([] : List Sent), T.SentBy r s.packet := fun s hs => by cases hs
  rw [RIPRouting.processRequest] at hok
  split at hok
  · cases hok
    exact ⟨h, hnone⟩
  · split at hok
    · split at hok
      · exact h.sendRoutes hok
      · cases hok
        exact ⟨h, hnone⟩
    · obtain ⟨filled, hfill, hend⟩ := bind_ok.mp hok
      cases hend
      have hentries := h.fillRequest hnext hfill
      refine ⟨h, fun s hs => ?_⟩
      rw [mem_singleton.mp hs]
      exact ⟨fun e he => (hentries e he).1, fun _ e he => (hentries e he).2⟩

end

theorem sentBy_sendRIPRequest (T : Topology Router) (r : Router) (m : RIPRouting) (ripInterface : RIPInterfaceEntry) :
    T.SentBy r (m.sendRIPRequest ripInterface).packet := by
  constructor
  · intro entry hentry
    rw [mem_singleton.mp hentry]
  · intro hcommand
    cases hcommand

/-- The IPv4 route of an interface is for the network that the interface is on. -/
def RouteFits (T : Topology Router) (r : Router) (m : RIPRouting) (entry : IPv4Route) : Prop :=
  ∀ ie ∈ m.localInterface entry, T.network r ie = some (entry.dest, (getNetmaskLength entry.netmask : Int))
deriving Decidable

/-- The metric of an interface is that of its network. -/
theorem estimate_interface (hcosts : ∀ ie, m.getInterfaceMetric ie = T.cost r ie) {n : Network}
    (hn : T.network r ie = some n) : T.graph.Estimate RIP_INFINITE_METRIC r n (m.getInterfaceMetric ie) := by
  rw [hcosts ie]
  exact .of_path (.direct ⟨ie, hn, rfl⟩)

theorem justified_imported (hcosts : ∀ ie, m.getInterfaceMetric ie = T.cost r ie)
    (hfits : T.RouteFits r m (m.rt.heap e)) (hie : m.localInterface (m.rt.heap e) = some ie) :
    T.Justified r (m.imported e ie) :=
  ⟨estimate_interface hcosts (hfits ie hie), fun hsender => absurd rfl hsender⟩

/-- An interface route is added; the RIP route that it is taken for is the one for its network. -/
theorem Fits.routeAdded (h : T.Fits r m) (hfits : T.RouteFits r m (m.rt.heap e))
    (hreadd : ∀ ie ∈ m.localInterface (m.rt.heap e), ∀ i ∈ m.findRouteByInterface ie .RIP_ROUTE_INTERFACE,
      ∀ q ∈ m.ripRoutes[i]?, q.dest = (m.rt.heap e).dest ∧
        q.prefixLength = getNetmaskLength (m.rt.heap e).netmask)
    (hok : m.routeAdded e = .ok m') : T.Fits r m' := by
  rcases routeAdded_cases hok with rfl | ⟨hstarted, ie, hie, ⟨i, q, hfind, hq, -, -, rfl⟩ | ⟨-, rfl⟩⟩
  · exact h
  · have hstarted : m.startupTimer = none := isNone_iff_eq_none.mp hstarted
    obtain ⟨hdest, hlen⟩ := hreadd ie hie i hfind q hq
    refine h.of_settings (triggerUpdate_settings _) fun q' hq' => ?_
    rw [triggerUpdate_ripRoutes] at hq'
    rcases mem_modify hq hq' with rfl | hold
    · refine ⟨?_, (h.justified q (mem_of_getElem? hq)).learned⟩
      have hnetwork := estimate_interface (h.costs hstarted) (hfits ie hie)
      rw [← hdest, ← hlen] at hnetwork
      exact hnetwork
    · exact h.justified q' hold
  · refine h.of_settings rfl fun q hq => ?_
    rcases mem_append.mp hq with hold | hnew
    · exact h.justified q hold
    · rw [mem_singleton.mp hnew]
      exact justified_imported (h.costs (isNone_iff_eq_none.mp hstarted)) hfits hie

/-- Of the routes that are there at the startup only interface routes are imported. -/
def OnlyInterfaceRoutes (T : Topology Router) (r : Router) (m : RIPRouting) (routes : List RouteRef) : Prop :=
  ∀ e ∈ routes, m.Importable (m.rt.heap e) → m.localInterface (m.rt.heap e) ≠ none ∧ T.RouteFits r m (m.rt.heap e)

instance (T : Topology Router) (r : Router) (m : RIPRouting) (routes : List RouteRef) :
    Decidable (T.OnlyInterfaceRoutes r m routes) := inferInstanceAs (Decidable (∀ e ∈ _, _ → _ ∧ _))

theorem configureInitialRoutes_justified {routes : List RouteRef}
    (hjustified : ∀ q ∈ m.ripRoutes, T.Justified r q) (hcosts : ∀ ie, m.getInterfaceMetric ie = T.cost r ie)
    (hroutes : T.OnlyInterfaceRoutes r m routes) (hok : m.configureInitialRoutes routes = .ok m') :
    m'.settings = m.settings ∧ ∀ q ∈ m'.ripRoutes, T.Justified r q := by
  induction routes generalizing m with
  | nil =>
    cases hok
    exact ⟨rfl, hjustified⟩
  | cons e routes ih =>
    obtain ⟨m₁, hfirst, hrest⟩ := bind_ok.mp hok
    have hroutes' : T.OnlyInterfaceRoutes r m routes := fun e' he' => hroutes e' (mem_cons_of_mem _ he')
    rcases configureInitialRoute_cases hfirst with rfl | ⟨himportable, -⟩
    · exact ih hjustified hcosts hroutes' hrest
    · obtain ⟨hlocal, hfits⟩ := hroutes e mem_cons_self himportable
      obtain ⟨ie, hie⟩ := ne_none_iff_exists'.mp hlocal
      rw [configureInitialRoute, if_neg (by simp [himportable.1]), hie] at hfirst
      cases importRoute_interface (localInterface_some hie) hfirst
      have hnew : ∀ q ∈ m.ripRoutes ++ [m.imported e ie], T.Justified r q := by
        intro q hq
        rcases mem_append.mp hq with hold | hlast
        · exact hjustified q hold
        · rw [mem_singleton.mp hlast]
          exact justified_imported hcosts hfits hie
      exact ih (m := { m with ripRoutes := m.ripRoutes ++ [m.imported e ie] }) hnew hcosts hroutes' hrest

theorem Fits.startRIPRouting (h : T.Fits r m) (htimer : m.startupTimer ≠ none)
    (hroutes : T.OnlyInterfaceRoutes r m m.rt.routes)
    (hok : m.startRIPRouting (T.config r) = .ok (m', sent)) : T.Fits r m' ∧ ∀ s ∈ sent, T.SentBy r s.packet := by
  obtain ⟨m₁, hinterfaces, hrest⟩ := bind_ok.mp hok
  obtain ⟨m₂, himport, hend⟩ := bind_ok.mp hrest
  obtain ⟨added, rfl, hcost⟩ := configureInterfaces_cost hinterfaces
  cases hend
  have hcosts : ∀ ie, metricIn (m.ripInterfaces ++ added) ie = T.cost r ie := by
    intro ie
    rw [h.waiting htimer, nil_append, hcost ie, h.ift]
    rfl
  obtain ⟨hsettings, hjustified⟩ := configureInitialRoutes_justified
    (m := { m with ripInterfaces := m.ripInterfaces ++ added }) h.justified hcosts hroutes himport
  have hift : m₂.ift = m.ift := congrArg Settings.ift hsettings
  have hinterfaces' : m₂.ripInterfaces = m.ripInterfaces ++ added := congrArg Settings.ripInterfaces hsettings
  refine ⟨⟨hift.trans h.ift, fun hnone => absurd rfl hnone, fun _ ie => ?_, hjustified⟩, fun s hs => ?_⟩
  · rw [getInterfaceMetric, findInterfaceById, hinterfaces']
    exact hcosts ie
  · obtain ⟨i, -, rfl⟩ := mem_map.mp hs
    exact sentBy_sendRIPRequest T r m₂ i

/-- The interface route that is found for a route that is added again is the one with its prefix. -/
def Readds (m : RIPRouting) (route : IPv4Route) : Prop :=
  ∀ ie ∈ m.localInterface route, ∀ i ∈ m.findRouteByInterface ie .RIP_ROUTE_INTERFACE, ∀ q ∈ m.ripRoutes[i]?,
    q.dest = route.dest ∧ q.prefixLength = getNetmaskLength route.netmask
deriving Decidable

/-- The events that belong to a fixed topology: interface routes are for the networks of their interfaces,
and stay as they are; requests name no next hops. -/
def Admissible (T : Topology Router) (r : Router) (m : RIPRouting) : Event → Prop
  | .startup _ => False
  | .packet packet _ => packet.command = RIP_REQUEST ∧ ∀ entry ∈ packet.entry, entry.nextHop = 0
  | .interfaceCreated _ _ => False
  | .interfaceDeleted _ => False
  | .addRoute route => T.RouteFits r m route
  | .addNetmaskRoute route => T.RouteFits r m route
  | .changeRoute route entry _ => ∀ q ∈ m.ripRoutes, q.route = some route → entry.source = some this
  | _ => True

instance (T : Topology Router) (r : Router) (m : RIPRouting) (event : Event) : Decidable (T.Admissible r m event) := by
  cases event <;> dsimp only [Admissible] <;> infer_instance

/-- Interface routes are added again for their own RIP routes. -/
def ReaddRegular (m : RIPRouting) : Event → Prop
  | .addRoute route => Readds m route
  | .addNetmaskRoute route => Readds m route
  | _ => True

instance (m : RIPRouting) (event : Event) : Decidable (ReaddRegular m event) := by
  cases event <;> dsimp only [ReaddRegular] <;> infer_instance

/-- Losing routes does not change which route an interface is found by. -/
theorem findRouteByInterface_losing (h : Losing m m') (ie : InterfaceRef) (type : RouteType) :
    m'.findRouteByInterface ie type = m.findRouteByInterface ie type := by
  have hkeys : m'.ripRoutes.map (fun q => (q.type, q.ie)) = m.ripRoutes.map fun q => (q.type, q.ie) := by
    apply ext_getElem?
    intro j
    rw [getElem?_map, getElem?_map]
    cases hq' : m'.ripRoutes[j]? with
    | none =>
      have hlen : m.ripRoutes.length ≤ j := by
        rw [← h.length]
        exact getElem?_eq_none_iff.mp hq'
      rw [getElem?_eq_none hlen]
    | some q' =>
      obtain ⟨q, hq, hlost⟩ := h.lost j q' hq'
      rw [hq]
      rcases hlost with rfl | rfl <;> rfl
  have hfind := congrArg (findIdx? fun k => decide (k.1 = type ∧ k.2 = some ie)) hkeys
  rw [findIdx?_map, findIdx?_map] at hfind
  exact hfind

theorem localInterface_congr (h : m'.ift = m.ift) (entry : IPv4Route) : m'.localInterface entry = m.localInterface entry := by
  have hloopback : m'.isLoopback = m.isLoopback := by
    funext ie
    rw [isLoopback, isLoopback, h]
  rw [localInterface, localInterface, hloopback]

/-- The table has been changed, and the added route is looked at. -/
theorem Fits.added {route : IPv4Route} {m₁ : RIPRouting} (h : T.Fits r m) (hlosing : Losing m m₁)
    (hheap : m₁.rt.heap e = { route with inTable := true }) (hfits : T.RouteFits r m route) (hreadd : Readds m route)
    (hok : m₁.routeAdded e = .ok m') : T.Fits r m' := by
  have hift : m₁.ift = m.ift := congrArg Settings.ift hlosing.settings
  have hlocal : m₁.localInterface (m₁.rt.heap e) = m.localInterface route := by
    rw [hheap, localInterface_congr hift]
    rfl
  refine (h.remaining hlosing.remaining).routeAdded ?_ ?_ hok
  · intro ie hie
    rw [hlocal] at hie
    rw [hheap]
    exact hfits ie hie
  · intro ie hie i hi q' hq'
    rw [hlocal] at hie
    rw [findRouteByInterface_losing hlosing] at hi
    obtain ⟨q, hq, hlost⟩ := hlosing.lost i q' hq'
    have hsame := hreadd ie hie i hi q hq
    rw [hheap]
    rcases hlost with rfl | rfl
    · exact hsame
    · exact hsame

theorem Fits.changeIPv4Route {entry : IPv4Route} {fieldCode : RoutingTable.FieldCode} (h : T.Fits r m)
    (hkeeps : ∀ q ∈ m.ripRoutes, q.route = some e → entry.source = some this)
    (hok : m.changeIPv4Route e entry fieldCode = .ok m') : T.Fits r m' := by
  obtain ⟨rt, hchange, hrest⟩ := bind_ok.mp hok
  have htime := change_simTime hchange
  split at hrest
  · cases hrest
    exact h.remaining ((Losing.refl m).with_rt htime).remaining
  case isFalse hkept =>
    have hheap : (rt.heap e).source = entry.source := by
      rcases change_cases hchange with ⟨heq, rfl⟩ | ⟨-, -, rfl⟩ | ⟨-, -, -, -, hadd⟩
      · exact absurd (.inl heq) hkept
      · rw [store_heap_self]
      · rw [hadd.self, store_heap_self]
    have hlosing : Losing m { (if fieldCode = .F_DESTINATION ∨ fieldCode = .F_NETMASK ∨ fieldCode = .F_METRIC then
        (m.without e entry).replaceDefaultRoute e else m) with rt := rt } := by
      split
      · exact ((without_losing m e entry).trans (replaceDefaultRoute_losing _ e)).with_rt htime
      · exact (Losing.refl m).with_rt htime
    rcases routeChanged_cases hrest with rfl | ⟨hforeign, -, -, -, i, q', f, hq', hroute, -, -⟩
    · exact h.remaining hlosing.remaining
    · obtain ⟨q, hq, rfl | rfl⟩ := hlosing.mem (mem_of_getElem? hq')
      · exact absurd (hheap.trans (hkeeps _ hq hroute)) hforeign
      · cases hroute

theorem Fits.step {event : Event} (h : T.Fits r m) (hadmissible : T.Admissible r m event)
    (hregular : ReaddRegular m event) (hok : m.step event = .ok (m', sent)) :
    T.Fits r m' ∧ ∀ s ∈ sent, T.SentBy r s.packet := by
  have hnone : ∀ s ∈ ([] : List Sent), T.SentBy r s.packet := fun s hs => by cases hs
  cases step_did hok with
  | nothing => exact ⟨h, hnone⟩
  | advanced => exact ⟨⟨h.ift, h.waiting, h.costs, h.justified⟩, hnone⟩
  | started => cases hadmissible
  | updated hupdate =>
    obtain ⟨h₁, hsent⟩ := Fits.processUpdate (m := { m with updateTimer := none }) (h.of_settings rfl h.justified) hupdate
    exact ⟨h₁.of_settings rfl h₁.justified, hsent⟩
  | triggered hupdate =>
    exact Fits.processUpdate (m := { m with triggeredUpdateTimer := none }) (h.of_settings rfl h.justified) hupdate
  | requested _ hrequest => exact h.processRequest hadmissible.2 hrequest
  | responded _ hresponse =>
    have hrequest := hresponse.symm.trans hadmissible.1
    cases hrequest
  | interfaceCreated => cases hadmissible
  | interfaceDeleted => cases hadmissible
  | interfaceDown => exact ⟨h.remaining (invalidateRoutes_losing m _ _).remaining, hnone⟩
  | interfaceUp =>
    refine ⟨h, fun s hs => ?_⟩
    rw [mem_singleton.mp hs]
    exact sentBy_sendRIPRequest T r _ _
  | routeAdded hevent hlosing hself hadded =>
    rcases hevent with rfl | rfl
    · exact ⟨h.added hlosing hself hadmissible hregular hadded, hnone⟩
    · exact ⟨h.added hlosing hself hadmissible hregular hadded, hnone⟩
  | routeDeleted => exact ⟨h.remaining (deleteIPv4Route_losing m _).remaining, hnone⟩
  | routeChanged hchange => exact ⟨h.changeIPv4Route hadmissible hchange, hnone⟩

end Topology

namespace Net

variable {Router : Type} {T : Topology Router} {net net' : Net Router} {r : Router}

open RIPRouting

/-- The runs with a fixed topology in which only interface routes are imported. -/
def Admissible (T : Topology Router) (net : Net Router) : NetEvent Router → Prop
  | .startup r => T.OnlyInterfaceRoutes r (net.modules r) (net.modules r).rt.routes
  | .own r event => T.Admissible r (net.modules r) event
  | .deliver _ _ _ _ => True

instance (T : Topology Router) (net : Net Router) (event : NetEvent Router) : Decidable (net.Admissible T event) := by
  cases event <;> dsimp only [Admissible] <;> infer_instance

/-- Interface routes are added again for their own RIP routes, and a response that is not multicast arrives
on the network that it has been sent on. -/
def Regular (T : Topology Router) (net : Net Router) : NetEvent Router → Prop
  | .startup _ => True
  | .own r event => Topology.ReaddRegular (net.modules r) event
  | .deliver sender s r ctrlInfo => isMulticast s.destAddr = false → s.packet.command = RIP_RESPONSE →
      T.Neighbour r ctrlInfo.interfaceId sender ctrlInfo.srcAddr

instance (T : Topology Router) (net : Net Router) (event : NetEvent Router) : Decidable (net.Regular T event) := by
  cases event <;> dsimp only [Regular] <;> infer_instance

/-- Metrics that are stored, and metrics on their way with the cost of the interface they arrive on, do not
fall below the distance; learned routes lead to the routers they were learned from. -/
structure NeverUnderestimates (T : Topology Router) (net : Net Router) : Prop where
  stored : ∀ r, ∀ q ∈ (net.modules r).ripRoutes,
    T.graph.Estimate RIP_INFINITE_METRIC r (q.dest, q.prefixLength) q.metric
  inFlight : ∀ sent ∈ net.flight, sent.2.packet.command = RIP_RESPONSE →
    ∀ r ie srcAddr, T.Neighbour r ie sent.1 srcAddr → ∀ entry ∈ sent.2.packet.entry,
      T.graph.Estimate RIP_INFINITE_METRIC r (entry.address, entry.prefixLength) (entry.metric + T.cost r ie)
  nextHop : ∀ r, ∀ q ∈ (net.modules r).ripRoutes, q.sender ≠ 0 → q.metric < RIP_INFINITE_METRIC →
    q.nextHop = q.sender ∧ ∃ ie, q.ie = some ie ∧ ∃ sender, T.Neighbour r ie sender q.sender

structure Safe (T : Topology Router) (net : Net Router) : Prop where
  fits : ∀ r, T.Fits r (net.modules r)
  flight : ∀ sent ∈ net.flight, T.SentBy sent.1 sent.2.packet

theorem Safe.neverUnderestimates (h : net.Safe T) : net.NeverUnderestimates T where
  stored r q hq := ((h.fits r).justified q hq).estimate
  inFlight sent hsent hcommand _ _ _ hneighbour entry hentry :=
    ((h.flight sent hsent).estimate hcommand entry hentry).hop hneighbour.link
  nextHop r q hq hsender _ := ((h.fits r).justified q hq).learned hsender

theorem Initial.safe (h : net.Initial T) : net.Safe T where
  fits r := by
    refine ⟨h.ift r, fun _ => h.ripInterfaces r, fun hnone => absurd hnone (h.startupTimer r), fun q hq => ?_⟩
    rw [h.ripRoutes r] at hq
    cases hq
  flight sent hsent := by
    rw [h.flight] at hsent
    cases hsent

/-- A multicast comes from a neighbour. -/
theorem neighbour_of_multicast {sender : Router} {s : Sent}
    (hmulticast : isMulticast s.destAddr = true) (h : T.Reaches sender s r ctrlInfo) :
    T.Neighbour r ctrlInfo.interfaceId sender ctrlInfo.srcAddr := by
  rw [Topology.Reaches, if_pos hmulticast] at h
  obtain ⟨ie, -, hnetwork, hsame, haddress⟩ := h
  obtain ⟨i, hfind, -⟩ := bind_eq_some_iff.mp haddress
  have hie : i.ie = ie := by simpa using find?_some hfind
  refine ⟨hnetwork, i, mem_of_find?_eq_some hfind, ?_, ?_⟩
  · rw [hie]
    exact hsame
  · rw [hie]
    exact haddress

variable [DecidableEq Router]

/-- One router has done a step, the others have not. -/
theorem Safe.act {event : Event} (h : net.Safe T) (hstep : ∀ m sent, (net.modules r).step event = .ok (m, sent) →
    T.Fits r m ∧ ∀ s ∈ sent, T.SentBy r s.packet) (hok : net.act r event = .ok net') : net'.Safe T := by
  obtain ⟨⟨m, sent⟩, hact, hend⟩ := bind_ok.mp hok
  cases hend
  obtain ⟨hfits, hsent⟩ := hstep m sent hact
  constructor
  · intro r'
    by_cases hr : r' = r
    · rw [hr]
      simp only [Function.update_self]
      exact hfits
    · simp only [Function.update_of_ne hr]
      exact h.fits r'
  · intro packet hpacket
    rcases mem_append.mp hpacket with hold | hnew
    · exact h.flight packet hold
    · obtain ⟨s, hs, rfl⟩ := mem_map.mp hnew
      exact hsent s hs

theorem Safe.step {event : NetEvent Router} (h : net.Safe T) (hadmissible : net.Admissible T event)
    (hregular : net.Regular T event) (hok : net.step T event = .ok net') : net'.Safe T := by
  cases event with
  | startup r =>
    refine h.act (fun m sent hstep => ?_) hok
    cases step_did hstep with
    | nothing => exact ⟨h.fits r, fun s hs => by cases hs⟩
    | started htimer hstart => exact (h.fits r).startRIPRouting (by simp [htimer]) hadmissible hstart
    | routeAdded hevent => exact absurd hevent (by simp)
  | own r event => exact h.act (fun m sent hstep => (h.fits r).step hadmissible hregular hstep) hok
  | deliver sender s r ctrlInfo =>
    rw [Net.step] at hok
    split at hok
    case isTrue harrives =>
      have hsent := h.flight _ harrives.1
      refine h.act (fun m sent hstep => ?_) hok
      cases step_did hstep with
      | nothing => exact ⟨h.fits r, fun s hs => by cases hs⟩
      | requested hrequest =>
        have hpacket : T.Admissible r (net.modules r) (.packet s.packet ctrlInfo) := ⟨hrequest, hsent.nextHop⟩
        exact (h.fits r).step hpacket trivial hstep
      | responded hstarted hresponse hprocess =>
        refine ⟨(h.fits r).processResponse hstarted hresponse hsent (fun _ => ?_) hprocess, fun s hs => by cases hs⟩
        cases hmulticast : isMulticast s.destAddr with
        | true => exact neighbour_of_multicast hmulticast harrives.2
        | false => exact hregular hmulticast hresponse
      | routeAdded hevent => exact absurd hevent (by simp)
    case isFalse =>
      cases hok
      exact h

theorem Safe.run {events : List (NetEvent Router)} (h : net.Safe T) (hadmissible : net.Always T (Admissible T) events)
    (hregular : net.Always T (Regular T) events) (hok : net.run T events = .ok net') : net'.Safe T := by
  induction events generalizing net with
  | nil =>
    cases hok
    exact h
  | cons event events ih =>
    obtain ⟨net₁, hstep, hrest⟩ := bind_ok.mp hok
    exact ih (h.step hadmissible.1 hregular.1 hstep) (hadmissible.2 net₁ hstep) (hregular.2 net₁ hstep) hrest

/-- In networks of any size, for any order of the events, losses, delays and repetitions. -/
theorem never_underestimates (T : Topology Router) (net net' : Net Router) (events : List (NetEvent Router))
    (hinitial : net.Initial T) (hadmissible : net.Always T (Admissible T) events)
    (hregular : net.Always T (Regular T) events) (hok : net.run T events = .ok net') : net'.NeverUnderestimates T :=
  (hinitial.safe.run hadmissible hregular hok).neverUnderestimates

/-- A second router on the networks of the router `twoInterfaces`. -/
def secondRouter : RIPRouting := { twoInterfaces with
  ift := [{ ie := 1, ipv4Data := some (0x0A000102, 0xFFFFFF00) }, { ie := 2, ipv4Data := some (0x0A000202, 0xFFFFFF00) }] }

/-- The first network costs the first router 10, the other interfaces cost 1. -/
def twoRouters : Topology (Fin 2) where
  ift r := if r = 0 then twoInterfaces.ift else secondRouter.ift
  config r := if r = 0 then costs else fun _ => some ⟨none, none⟩

def beforeStartup : Net (Fin 2) := ⟨fun r => if r = 0 then twoInterfaces else secondRouter, []⟩

/-- What the second router sends on the second network. -/
def response : Sent where
  packet := ⟨RIP_RESPONSE, [{ address := 0x0A000100, prefixLength := 24, metric := 1 },
    { address := 0x0A000200, prefixLength := 24, metric := RIP_INFINITE_METRIC }]⟩
  destAddr := ALL_RIP_ROUTERS_MCAST
  destPort := 520
  outInterface := some 2

/-- The first router learns a better way to the first network. -/
def learningBetter : List (NetEvent (Fin 2)) :=
  [.startup 0, .startup 1, .own 1 (.advance 30), .own 1 .updateTimer, .deliver 1 response 0 ⟨0x0A000202, 520, 2, 255⟩]

theorem beforeStartup_initial : beforeStartup.Initial twoRouters := by
  constructor <;> decide

theorem never_underestimates_learningBetter : ∃ net, beforeStartup.run twoRouters learningBetter = .ok net ∧
    net.NeverUnderestimates twoRouters :=
  exists_ok (by decide) fun net hrun => never_underestimates twoRouters beforeStartup net learningBetter
    beforeStartup_initial (by decide) (by decide) hrun

/-- The first router has one interface on the first network. -/
theorem twoRouters_cost {ie : InterfaceRef} (h : twoRouters.network 0 ie = some (0x0A000100, 24)) :
    twoRouters.cost 0 ie = 10 := by
  by_cases hfirst : 1 = ie
  · rw [← hfirst]
    decide
  · by_cases hsecond : 2 = ie
    · rw [← hsecond] at h
      exact absurd h (by decide)
    · simp [Topology.network, twoRouters, twoInterfaces, hfirst, hsecond] at h

/-- The way over the second router costs 2. -/
theorem twoRouters_distance {c : Nat} (h : twoRouters.graph.Path 0 (0x0A000100, 24) c) : 1 < c := by
  cases h with
  | direct hattached =>
    obtain ⟨ie, hnetwork, rfl⟩ := hattached
    rw [twoRouters_cost hnetwork]
    decide
  | hop hlink hrest =>
    obtain ⟨ie, -, -, -, -, rfl⟩ := hlink
    have hfirst := twoRouters.one_le_cost 0 ie
    have hpath := one_le_path hrest
    omega

/-- The netmask route of the second network is made again. -/
def readding : List (NetEvent (Fin 2)) :=
  learningBetter ++ [.own 0 (.deleteRoute 1), .own 0 (.addNetmaskRoute (twoInterfaces.rt.heap 1))]

/-- It is taken for that of the first network, which is now learned over the second interface. -/
theorem readding_underestimates : beforeStartup.Initial twoRouters ∧
    beforeStartup.Always twoRouters (Admissible twoRouters) readding ∧
    ∃ net, beforeStartup.run twoRouters readding = .ok net ∧ ¬ net.NeverUnderestimates twoRouters := by
  have hrun : ∃ net, beforeStartup.run twoRouters readding = .ok net ∧ ∃ q ∈ (net.modules 0).ripRoutes,
      q.dest = 0x0A000100 ∧ q.prefixLength = 24 ∧ q.metric = 1 := exists_ok (by decide) (by decide)
  refine ⟨beforeStartup_initial, by decide, ?_⟩
  obtain ⟨net, hnet, q, hq, hdest, hlen, hmetric⟩ := hrun
  refine ⟨net, hnet, fun h => ?_⟩
  have hestimate := h.stored 0 q hq
  rw [hdest, hlen, hmetric] at hestimate
  exact DistanceVector.Graph.Estimate.not_of_lt (by decide) (fun c hc => twoRouters_distance hc) hestimate

end Net

end Inet.Rip
