import Inetmanet.Rip.TableInvariant

/-!
# Full updates

The loop of `sendRoutes` over the vector of routes, while `checkRouteIsExpired` erases
routes from the same vector: behind a purged route the iterator passes over the next one,
and over the end where there is none.
-/
namespace Inet.Rip

open Ipv4 List Option

namespace RIPRouting

variable {m m' : RIPRouting} {i : Nat} {q : RIPRoute} {ripInterface : RIPInterfaceEntry}

/-- Is it time to remove a learned route? -/
def purgeDue (m : RIPRouting) (q : RIPRoute) : Prop :=
  q.type = .RIP_ROUTE_RTE ∧ q.lastUpdateTime + m.routeExpiryTime + m.routePurgeTime ≤ m.simTime
deriving Decidable

/-- The routes that stay. -/
def kept (m : RIPRouting) (routes : List RIPRoute) : List RIPRoute := routes.filter fun q => ¬ m.purgeDue q

/-- What a route that stays has to be announced as: an expired one is no longer valid. -/
def current (m : RIPRouting) (q : RIPRoute) : RIPRoute := if m.expired q m.simTime then invalidated q else q

/-- The entry for a route, unless split horizon suppresses it. -/
def announcement (m : RIPRouting) (ripInterface : RIPInterfaceEntry) (q : RIPRoute) : Option RIPEntry :=
  (splitHorizon ripInterface (m.current q)).map (fillEntry (m.current q))

def announcements (m : RIPRouting) (ripInterface : RIPInterfaceEntry) (routes : List RIPRoute) : List RIPEntry :=
  (m.kept routes).filterMap (m.announcement ripInterface)

/-- A route that stays loses its IPv4 route only when it has expired. -/
def Stays (m : RIPRouting) (q q' : RIPRoute) : Prop := q' = q ∨ m.expired q m.simTime ∧ q' = invalidated q

/-- A full update announces every route that stays, in as few packets as hold the entries, and removes the others. -/
structure FullUpdate (m : RIPRouting) (ripInterface : RIPInterfaceEntry) (m' : RIPRouting) (sent : List Sent) :
    Prop where
  entries : sent.flatMap (fun s => s.packet.entry) = m.announcements ripInterface m.ripRoutes
  sizes : ∀ s ∈ sent, 1 ≤ s.packet.entry.length ∧ (s.packet.entry.length : Int) ≤ m.maxEntries ripInterface.ie
  table : List.Forall₂ m.Stays (m.kept m.ripRoutes) m'.ripRoutes

/-- The entry that the loop fills in for a route that is not purged. -/
def filledEntry (m : RIPRouting) (ripInterface : RIPInterfaceEntry) (q : RIPRoute) : List RIPEntry :=
  if m.expired q m.simTime then [] else ((splitHorizon ripInterface q).map (fillEntry q)).toList

/-- The entries that the loop fills in, and the routes that it leaves. -/
def walked (m : RIPRouting) (ripInterface : RIPInterfaceEntry) : List RIPRoute → Option (List RIPEntry × List RIPRoute)
  | [] => some ([], [])
  | q :: routes =>
    if m.purgeDue q then
      match routes with
      | [] => none
      | skipped :: routes => (m.walked ripInterface routes).map fun r => (r.1, skipped :: r.2)
    else (m.walked ripInterface routes).map fun r => (m.filledEntry ripInterface q ++ r.1, m.current q :: r.2)

/-- No route is left out: one that has expired is not to be announced anyway, and neither
is the one that is passed over behind a purged route. -/
structure Passable (m : RIPRouting) (ripInterface : RIPInterfaceEntry) (routes : List RIPRoute) : Prop where
  stale : ∀ q ∈ routes, m.expired q m.simTime → ¬ m.purgeDue q → m.announcement ripInterface q = none
  purged : ∀ (j : Nat) (q : RIPRoute), routes[j]? = some q → m.purgeDue q →
    ∃ skipped ∈ routes[j + 1]?, ¬ m.purgeDue skipped ∧ m.announcement ripInterface skipped = none

theorem Passable.nil : m.Passable ripInterface [] where
  stale q hq := by cases hq
  purged j q hq := by cases hq

variable {routes rest before : List RIPRoute} {entries packet : List RIPEntry} {m₀ : RIPRouting}
    {maxEntries n : Nat} {sent packets : List RIPPacket}

theorem passable_cons : m.Passable ripInterface (q :: routes) ↔
    (m.expired q m.simTime → ¬ m.purgeDue q → m.announcement ripInterface q = none) ∧
    (m.purgeDue q → ∃ skipped ∈ routes[0]?, ¬ m.purgeDue skipped ∧ m.announcement ripInterface skipped = none) ∧
    m.Passable ripInterface routes := by
  constructor
  · intro h
    refine ⟨h.stale q mem_cons_self, fun hdue => h.purged 0 q rfl hdue, ?_⟩
    exact ⟨fun q' hq' => h.stale q' (mem_cons_of_mem _ hq'), fun j q' hq' => h.purged (j + 1) q' hq'⟩
  · rintro ⟨hstale, hpurged, h⟩
    constructor
    · intro q' hq'
      rcases mem_cons.mp hq' with rfl | hmem
      · exact hstale
      · exact h.stale q' hmem
    · intro j q' hq'
      cases j with
      | zero =>
        cases hq'
        exact hpurged
      | succ j => exact h.purged j q' hq'

instance decidablePassable (m : RIPRouting) (ripInterface : RIPInterfaceEntry) :
    ∀ routes : List RIPRoute, Decidable (m.Passable ripInterface routes)
  | [] => isTrue Passable.nil
  | _ :: routes =>
    have := decidablePassable m ripInterface routes
    decidable_of_iff _ passable_cons.symm

theorem purgeDue.expired (h : m.purgeDue q) : m.expired q m.simTime := ⟨h.1, by have := h.2; omega⟩

theorem kept_cons_due (h : m.purgeDue q) : m.kept (q :: routes) = m.kept routes := by
  simp [kept, h]

theorem kept_cons_stays (h : ¬ m.purgeDue q) : m.kept (q :: routes) = q :: m.kept routes := by
  simp [kept, h]

theorem announcements_cons_due (h : m.purgeDue q) :
    m.announcements ripInterface (q :: routes) = m.announcements ripInterface routes := by
  rw [announcements, kept_cons_due h, announcements]

theorem announcements_cons_stays (h : ¬ m.purgeDue q) : m.announcements ripInterface (q :: routes) =
      (m.announcement ripInterface q).toList ++ m.announcements ripInterface routes := by
  rw [announcements, kept_cons_stays h, announcements]
  cases hentry : m.announcement ripInterface q with
  | none => simp [hentry]
  | some entry => simp [hentry]

theorem filledEntry_expired (h : m.expired q m.simTime) : m.filledEntry ripInterface q = [] := if_pos h

theorem filledEntry_valid (h : ¬ m.expired q m.simTime) :
    m.filledEntry ripInterface q = (m.announcement ripInterface q).toList := by
  rw [filledEntry, if_neg h, announcement, current, if_neg h]

/-- Entries are at most missing. -/
theorem filledEntry_length (m : RIPRouting) (ripInterface : RIPInterfaceEntry) (q : RIPRoute) :
    (m.filledEntry ripInterface q).length ≤ (m.announcement ripInterface q).toList.length := by
  by_cases h : m.expired q m.simTime
  · rw [filledEntry_expired h]
    exact Nat.zero_le _
  · rw [filledEntry_valid h]

/-- The loop fills in too little and leaves too much, if anything. -/
theorem walked_length (h : m.walked ripInterface routes = some (entries, rest)) :
    entries.length ≤ (m.announcements ripInterface routes).length ∧ (m.kept routes).length ≤ rest.length := by
  fun_induction walked m ripInterface routes generalizing entries rest with
  | case1 =>
    cases h
    exact ⟨Nat.le_refl _, Nat.le_refl _⟩
  | case2 => cases h
  | case3 q hdue skipped routes ih =>
    simp only [map_eq_some_iff, Prod.exists, Prod.mk.injEq] at h
    obtain ⟨entries', rest', hrest, rfl, rfl⟩ := h
    obtain ⟨hentries, hkept⟩ := ih hrest
    rw [announcements_cons_due hdue, kept_cons_due hdue]
    by_cases hskipped : m.purgeDue skipped
    · rw [announcements_cons_due hskipped, kept_cons_due hskipped, length_cons]
      exact ⟨hentries, by omega⟩
    · rw [announcements_cons_stays hskipped, kept_cons_stays hskipped, length_append, length_cons,
        length_cons]
      exact ⟨by omega, by omega⟩
  | case4 q routes hdue ih =>
    simp only [map_eq_some_iff, Prod.exists, Prod.mk.injEq] at h
    obtain ⟨entries', rest', hrest, rfl, rfl⟩ := h
    obtain ⟨hentries, hkept⟩ := ih hrest
    have hfilled := m.filledEntry_length ripInterface q
    rw [announcements_cons_stays hdue, kept_cons_stays hdue, length_append, length_append,
      length_cons, length_cons]
    exact ⟨by omega, by omega⟩

theorem stays_current (m : RIPRouting) (q : RIPRoute) : m.Stays q (m.current q) := by
  rw [current]
  split
  · next hexpired => exact .inr ⟨hexpired, rfl⟩
  · exact .inl rfl

/-- The loop does what it is for just where no route is left out. -/
theorem walked_iff (m : RIPRouting) (ripInterface : RIPInterfaceEntry) (routes : List RIPRoute) :
    (∃ rest, m.walked ripInterface routes = some (m.announcements ripInterface routes, rest) ∧
      List.Forall₂ m.Stays (m.kept routes) rest) ↔ m.Passable ripInterface routes := by
  fun_induction walked m ripInterface routes with
  | case1 => exact ⟨fun _ => Passable.nil, fun _ => ⟨[], rfl, .nil⟩⟩
  | case2 q hdue =>
    constructor
    · rintro ⟨rest, hrest, -⟩
      cases hrest
    · intro h
      obtain ⟨skipped, hskipped, -⟩ := (passable_cons.mp h).2.1 hdue
      cases hskipped
  | case3 q hdue skipped routes ih =>
    rw [announcements_cons_due hdue, kept_cons_due hdue, passable_cons, passable_cons, ← ih]
    constructor
    · rintro ⟨rest, hrest, hkept⟩
      simp only [map_eq_some_iff, Prod.exists, Prod.mk.injEq] at hrest
      obtain ⟨entries', rest', hwalk, rfl, rfl⟩ := hrest
      obtain ⟨hentries, hlen⟩ := walked_length hwalk
      have hlength := hkept.length_eq
      rw [length_cons] at hlength
      have hstays : ¬ m.purgeDue skipped := by
        intro hskipped
        rw [kept_cons_due hskipped] at hlength
        omega
      rw [announcements_cons_stays hstays, length_append] at hentries
      have hnone : m.announcement ripInterface skipped = none := by
        cases hentry : m.announcement ripInterface skipped with
        | none => rfl
        | some entry =>
          rw [hentry, toList_some, length_singleton] at hentries
          omega
      rw [announcements_cons_stays hstays, hnone, toList_none, nil_append] at hwalk
      rw [kept_cons_stays hstays] at hkept
      cases hkept with
      | cons _ hkept =>
        refine ⟨fun _ h => absurd hdue h, fun _ => ⟨skipped, rfl, hstays, hnone⟩, fun _ _ => hnone,
          fun h => absurd h hstays, rest', hwalk, hkept⟩
    · rintro ⟨-, hpurged, -, -, rest, hwalk, hkept⟩
      obtain ⟨_, heq, hstays, hnone⟩ := hpurged hdue
      cases heq
      refine ⟨skipped :: rest, ?_, ?_⟩
      · rw [announcements_cons_stays hstays, hnone, hwalk]
        rfl
      · rw [kept_cons_stays hstays]
        exact .cons (.inl rfl) hkept
  | case4 q routes hdue ih =>
    rw [announcements_cons_stays hdue, kept_cons_stays hdue, passable_cons, ← ih]
    constructor
    · rintro ⟨rest, hrest, hkept⟩
      simp only [map_eq_some_iff, Prod.exists, Prod.mk.injEq] at hrest
      obtain ⟨entries', rest', hwalk, heq, rfl⟩ := hrest
      obtain ⟨hentries, -⟩ := walked_length hwalk
      have hstale : m.expired q m.simTime → m.announcement ripInterface q = none := by
        intro hexpired
        rw [filledEntry_expired hexpired, nil_append] at heq
        rw [heq, length_append] at hentries
        exact toList_eq_nil_iff.mp (length_eq_zero_iff.mp (by omega))
      have htail : entries' = m.announcements ripInterface routes := by
        by_cases hexpired : m.expired q m.simTime
        · rwa [filledEntry_expired hexpired, hstale hexpired] at heq
        · rw [filledEntry_valid hexpired] at heq
          exact append_cancel_left heq
      rw [htail] at hwalk
      cases hkept with
      | cons _ hkept => exact ⟨fun h _ => hstale h, fun h => absurd h hdue, rest', hwalk, hkept⟩
    · rintro ⟨hstale, -, rest, hwalk, hkept⟩
      refine ⟨m.current q :: rest, ?_, .cons (stays_current m q) hkept⟩
      rw [hwalk]
      have hfilled : m.filledEntry ripInterface q = (m.announcement ripInterface q).toList := by
        by_cases hexpired : m.expired q m.simTime
        · rw [filledEntry_expired hexpired, hstale hexpired hdue]
          rfl
        · exact filledEntry_valid hexpired
      rw [hfilled]
      rfl

/-- The IPv4 routes of the learned routes are the module's own: nobody is told when they are deleted. -/
def Owned (m : RIPRouting) : Prop :=
  ∀ q ∈ m.ripRoutes, q.type = .RIP_ROUTE_RTE → ∀ e, q.route = some e → (m.rt.heap e).source = some this

theorem IsSound.owned (h : m.IsSound) : m.Owned := fun q hq htype e he => (h.link q hq e he).rte htype

/-- The module `m₀`, with other routes. -/
structure Walking (m₀ m : RIPRouting) : Prop where
  settings : m.settings = m₀.settings
  owned : m.Owned

theorem Walking.purgeDue (h : Walking m₀ m) : m.purgeDue q ↔ m₀.purgeDue q := by
  have hexpiry : m.routeExpiryTime = m₀.routeExpiryTime := congrArg Settings.routeExpiryTime h.settings
  have hpurge : m.routePurgeTime = m₀.routePurgeTime := congrArg Settings.routePurgeTime h.settings
  have htime : m.simTime = m₀.simTime := congrArg Settings.simTime h.settings
  rw [RIPRouting.purgeDue, RIPRouting.purgeDue, hexpiry, hpurge, htime]

theorem Walking.expired (h : Walking m₀ m) : m.expired q m.simTime ↔ m₀.expired q m₀.simTime := by
  have htime : m.simTime = m₀.simTime := congrArg Settings.simTime h.settings
  rw [expired_congr h.settings (Lost.refl q), htime]

/-- The rest of the module stays when the module deletes a route of its own. -/
theorem deleteIPv4Route_owned {e : RouteRef} (h : (m.rt.heap e).source = some this) :
    (m.deleteIPv4Route e).ripRoutes = m.ripRoutes ∧ (m.deleteIPv4Route e).rt.heap = m.rt.heap := by
  rw [deleteIPv4Route]
  split
  · rw [routeDeleted, if_pos h]
    exact ⟨rfl, RoutingTable.deleteRoute_heap _ _⟩
  · exact ⟨rfl, rfl⟩

theorem purgeRoute_owned (h : m.Owned) (hq : m.ripRoutes[i]? = some q) (htype : q.type = .RIP_ROUTE_RTE) :
    (m.purgeRoute i).ripRoutes = m.ripRoutes.eraseIdx i ∧ (m.purgeRoute i).rt.heap = m.rt.heap := by
  simp only [purgeRoute, hq]
  cases he : q.route with
  | none => exact ⟨rfl, rfl⟩
  | some e =>
    have hown : ((m.modifyRoute i fun q => { q with route := none }).rt.heap e).source = some this :=
      h q (mem_of_getElem? hq) htype e he
    obtain ⟨hroutes, hheap⟩ := deleteIPv4Route_owned hown
    simp only [hroutes, hheap]
    exact ⟨eraseIdx_modify_of_eq _ i m.ripRoutes, rfl⟩

theorem invalidateRoute_owned (h : m.Owned) (hq : m.ripRoutes[i]? = some q) (htype : q.type = .RIP_ROUTE_RTE) :
    (m.invalidateRoute i).ripRoutes = m.ripRoutes.modify i invalidated ∧ (m.invalidateRoute i).rt.heap = m.rt.heap := by
  simp only [invalidateRoute, hq, triggerUpdate_ripRoutes, triggerUpdate_rt]
  cases he : q.route with
  | none =>
    simp only [modifyRoute, modify_modify_eq]
    exact ⟨rfl, trivial⟩
  | some e =>
    have hown : ((m.modifyRoute i fun q => { q with route := none }).rt.heap e).source = some this :=
      h q (mem_of_getElem? hq) htype e he
    obtain ⟨hroutes, hheap⟩ := deleteIPv4Route_owned hown
    rw [modifyRoute, hroutes, modifyRoute, modify_modify_eq]
    exact ⟨rfl, hheap⟩

theorem Owned.of_lost (h : m.Owned) (hheap : m'.rt.heap = m.rt.heap)
    (hmem : ∀ q' ∈ m'.ripRoutes, ∃ q ∈ m.ripRoutes, Lost q q') : m'.Owned := by
  intro q' hq' htype e he
  obtain ⟨q, hq, rfl | rfl⟩ := hmem q' hq'
  · rw [hheap]
    exact h q' hq htype e he
  · cases he

theorem modify_append_length {α : Type} (f : α → α) (before rest : List α) (a : α) :
    (before ++ a :: rest).modify before.length f = before ++ f a :: rest := by
  induction before with
  | nil => rfl
  | cons b before ih => rw [cons_append, length_cons, modify_succ_cons, ih, cons_append]

/-- What the check does with the routes, where the route is at the head of what is left of them. -/
theorem checkRouteIsExpired_walking {walkedOver : List RIPRoute} (h : Walking m₀ m)
    (hroutes : m.ripRoutes = walkedOver ++ q :: routes) :
    Walking m₀ (m.checkRouteIsExpired walkedOver.length q).1 ∧
    (m.checkRouteIsExpired walkedOver.length q).1.ripRoutes =
      (if m₀.purgeDue q then walkedOver ++ routes else walkedOver ++ m₀.current q :: routes) ∧
    ((m.checkRouteIsExpired walkedOver.length q).2 = true ↔ ¬ m₀.expired q m₀.simTime) := by
  have hq : m.ripRoutes[walkedOver.length]? = some q := by
    rw [hroutes]
    simp
  have hrem := checkRouteIsExpired_remaining m walkedOver.length q
  have hwalking : (m.checkRouteIsExpired walkedOver.length q).1.rt.heap = m.rt.heap →
      Walking m₀ (m.checkRouteIsExpired walkedOver.length q).1 := fun hheap =>
    ⟨hrem.settings.trans h.settings, h.owned.of_lost hheap hrem.mem⟩
  rw [← h.expired]
  simp only [← h.purgeDue]
  rw [current, if_congr h.expired.symm rfl rfl]
  by_cases htype : q.type = .RIP_ROUTE_RTE
  · by_cases hdue : m.purgeDue q
    · obtain ⟨herase, hheap⟩ := purgeRoute_owned h.owned hq htype
      have hcheck : m.checkRouteIsExpired walkedOver.length q = (m.purgeRoute walkedOver.length, false) := by
        rw [checkRouteIsExpired, if_pos htype, if_pos hdue.2]
      rw [hcheck] at hwalking ⊢
      refine ⟨hwalking hheap, ?_, by simp [hdue.expired]⟩
      rw [if_pos hdue, herase, hroutes, eraseIdx_append_of_length_le (Nat.le_refl _), Nat.sub_self]
      rfl
    · have hnot : ¬ m.simTime ≥ q.lastUpdateTime + m.routeExpiryTime + m.routePurgeTime := fun hle => hdue ⟨htype, hle⟩
      by_cases hexpired : m.expired q m.simTime
      · obtain ⟨hmodify, hheap⟩ := invalidateRoute_owned h.owned hq htype
        have hcheck : m.checkRouteIsExpired walkedOver.length q = (m.invalidateRoute walkedOver.length, false) := by
          rw [checkRouteIsExpired, if_pos htype, if_neg hnot, if_pos hexpired.2]
        rw [hcheck] at hwalking ⊢
        refine ⟨hwalking hheap, ?_, by simp [hexpired]⟩
        rw [if_neg hdue, if_pos hexpired, hmodify, hroutes, modify_append_length]
      · have hvalid : ¬ m.simTime ≥ q.lastUpdateTime + m.routeExpiryTime := fun hle => hexpired ⟨htype, hle⟩
        have hcheck : m.checkRouteIsExpired walkedOver.length q = (m, true) := by
          rw [checkRouteIsExpired, if_pos htype, if_neg hnot, if_neg hvalid]
        rw [hcheck, if_neg hdue, if_neg hexpired]
        exact ⟨h, hroutes, by simp [hexpired]⟩
  · have hexpired : ¬ m.expired q m.simTime := fun hexp => htype hexp.1
    have hcheck : m.checkRouteIsExpired walkedOver.length q = (m, true) := by rw [checkRouteIsExpired, if_neg htype]
    rw [hcheck, if_neg fun hdue => hexpired hdue.expired, if_neg hexpired]
    exact ⟨h, hroutes, by simp [hexpired]⟩

/-- What the loop has made so far: only full packets have been put aside. -/
structure Packed (maxEntries : Nat) (packet : List RIPEntry) (sent : List RIPPacket) : Prop where
  packet : packet = [] ∨ packet.length < maxEntries
  sent : ∀ p ∈ sent, 1 ≤ p.entry.length ∧ p.entry.length ≤ maxEntries

def allEntries (packet : List RIPEntry) (sent : List RIPPacket) : List RIPEntry := sent.flatMap RIPPacket.entry ++ packet

theorem Packed.lastPacket (h : Packed maxEntries packet sent) :
    (lastPacket packet sent).flatMap RIPPacket.entry = allEntries packet sent ∧
    ∀ p ∈ lastPacket packet sent, 1 ≤ p.entry.length ∧ p.entry.length ≤ maxEntries := by
  rw [RIPRouting.lastPacket, allEntries]
  by_cases hempty : packet = []
  · rw [if_pos hempty, hempty, append_nil]
    exact ⟨rfl, h.sent⟩
  · rw [if_neg hempty]
    refine ⟨by simp, fun p hp => ?_⟩
    rcases mem_append.mp hp with hp | hp
    · exact h.sent p hp
    · rw [mem_singleton.mp hp]
      have hlt := h.packet.resolve_left hempty
      exact ⟨length_pos_of_ne_nil hempty, Nat.le_of_lt hlt⟩

/-- One turn of the loop fills in the entry of the route. -/
theorem sendRoute_ok {packet' : List RIPEntry} {sent' : List RIPPacket}
    (hpacked : Packed maxEntries packet sent)
    (hok : sendRoute ripInterface false maxEntries i q m packet sent = .ok (m', packet', sent')) :
    m' = (m.checkRouteIsExpired i q).1 ∧ Packed maxEntries packet' sent' ∧
    allEntries packet' sent' = allEntries packet sent ++
      if (m.checkRouteIsExpired i q).2 then ((splitHorizon ripInterface q).map (fillEntry q)).toList else [] := by
  rw [sendRoute] at hok
  simp only [Bool.not_eq_true, Bool.false_eq_true, false_and, if_false] at hok
  by_cases hvalid : (m.checkRouteIsExpired i q).2 = true
  · rw [if_neg (by simp [hvalid])] at hok
    rw [if_pos hvalid]
    cases hmetric : splitHorizon ripInterface q with
    | none =>
      rw [hmetric] at hok
      cases hok
      exact ⟨rfl, hpacked, by simp⟩
    | some metric =>
      simp only [hmetric] at hok
      split at hok
      · cases hok
      · have hall : sent.flatMap RIPPacket.entry ++ (packet ++ [fillEntry q metric]) =
            allEntries packet sent ++ ((some metric).map (fillEntry q)).toList := by
          simp [allEntries]
        split at hok
        · cases hok
          refine ⟨rfl, ⟨.inl rfl, fun p hp => ?_⟩, ?_⟩
          · rcases mem_append.mp hp with hp | hp
            · exact hpacked.sent p hp
            · rw [mem_singleton.mp hp, length_append, length_singleton]
              omega
          · rw [← hall, allEntries, flatMap_append]
            simp
        · cases hok
          exact ⟨rfl, ⟨.inr (by omega), hpacked.sent⟩, hall⟩
  · rw [if_pos (by simpa using hvalid)] at hok
    rw [if_neg hvalid]
    cases hok
    exact ⟨rfl, hpacked, (append_nil _).symm⟩

theorem sendRoute_isOk (hpacked : Packed maxEntries packet sent)
    (hfits : maxEntries = 0 → (m.checkRouteIsExpired i q).2 = true → splitHorizon ripInterface q = none) :
    ∃ r, sendRoute ripInterface false maxEntries i q m packet sent = .ok r := by
  rw [sendRoute]
  simp only [Bool.not_eq_true, Bool.false_eq_true, false_and, if_false]
  split
  · exact ⟨_, rfl⟩
  case isFalse hvalid =>
    cases hmetric : splitHorizon ripInterface q with
    | none => exact ⟨_, rfl⟩
    | some metric =>
      have hpos : maxEntries ≠ 0 := by
        intro hzero
        have hnone := hfits hzero (by simpa using hvalid)
        rw [hmetric] at hnone
        cases hnone
      have hroom : ¬ packet.length ≥ maxEntries := by
        rcases hpacked.packet with rfl | hlt
        · rw [length_nil]
          omega
        · omega
      simp only [if_neg hroom]
      split
      · exact ⟨_, rfl⟩
      · exact ⟨_, rfl⟩

variable {changedOnly : Bool}

/-- The iterator has passed over the end. -/
theorem sendLoop_beyond (h : m.ripRoutes.length < i) :
    sendLoop ripInterface changedOnly maxEntries n i m packet sent = .error (.outOfBounds "ripRoutes") := by
  cases n with
  | zero => rw [sendLoop, if_neg (by omega)]
  | succ n => rw [sendLoop, if_neg (by omega), List.getElem?_eq_none (by omega)]

theorem sendLoop_end (h : i = m.ripRoutes.length) :
    sendLoop ripInterface changedOnly maxEntries n i m packet sent = .ok (m, lastPacket packet sent) := by
  cases n with
  | zero => rw [sendLoop, if_pos h]
  | succ n => rw [sendLoop, if_pos h]

theorem sendLoop_turn (h : m.ripRoutes = before ++ q :: routes) :
    sendLoop ripInterface changedOnly maxEntries (n + 1) before.length m packet sent = (do
      let (m, packet, sent) ← sendRoute ripInterface changedOnly maxEntries before.length q m packet sent
      sendLoop ripInterface changedOnly maxEntries n (before.length + 1) m packet sent) := by
  have hne : ¬ before.length = m.ripRoutes.length := by
    rw [h, length_append, length_cons]
    omega
  have hq : m.ripRoutes[before.length]? = some q := by
    rw [h]
    simp
  rw [sendLoop, if_neg hne, hq]

/-- A loop that ends has walked through the routes. -/
theorem sendLoop_walked (h : Walking m₀ m) (hroutes : m.ripRoutes = before ++ routes)
    (hpacked : Packed maxEntries packet sent) (hn : routes.length ≤ n)
    (hok : sendLoop ripInterface false maxEntries n before.length m packet sent = .ok (m', packets)) :
    ∃ entries rest, m₀.walked ripInterface routes = some (entries, rest) ∧ m'.ripRoutes = before ++ rest ∧
      packets.flatMap RIPPacket.entry = allEntries packet sent ++ entries ∧
      ∀ p ∈ packets, 1 ≤ p.entry.length ∧ p.entry.length ≤ maxEntries := by
  induction n generalizing before routes m packet sent with
  | zero =>
    have hnil : routes = [] := length_eq_zero_iff.mp (by omega)
    rw [hnil, append_nil] at hroutes
    rw [sendLoop_end (by rw [hroutes])] at hok
    cases hok
    obtain ⟨hentries, hsizes⟩ := hpacked.lastPacket
    exact ⟨[], [], by rw [hnil, walked], by rw [hroutes, append_nil], by rw [hentries, append_nil], hsizes⟩
  | succ n ih =>
    cases routes with
    | nil =>
      rw [append_nil] at hroutes
      rw [sendLoop_end (by rw [hroutes])] at hok
      cases hok
      obtain ⟨hentries, hsizes⟩ := hpacked.lastPacket
      exact ⟨[], [], by rw [walked], by rw [hroutes, append_nil], by rw [hentries, append_nil], hsizes⟩
    | cons q routes =>
      rw [sendLoop_turn hroutes] at hok
      obtain ⟨⟨m₁, packet₁, sent₁⟩, hroute, hok⟩ := bind_ok.mp hok
      obtain ⟨rfl, hpacked₁, hentries₁⟩ := sendRoute_ok hpacked hroute
      obtain ⟨hwalking, hroutes₁, hvalid⟩ := checkRouteIsExpired_walking h hroutes
      rw [length_cons] at hn
      simp only [hvalid] at hentries₁
      by_cases hdue : m₀.purgeDue q
      · rw [if_pos hdue] at hroutes₁
        rw [if_neg (not_not.mpr hdue.expired), append_nil] at hentries₁
        cases routes with
        | nil =>
          have hover : (m.checkRouteIsExpired before.length q).1.ripRoutes.length < before.length + 1 := by
            rw [hroutes₁, append_nil]
            omega
          simp only [sendLoop_beyond hover] at hok
          cases hok
        | cons skipped routes =>
          rw [append_cons] at hroutes₁
          rw [length_cons] at hn
          have hpos : before.length + 1 = (before ++ [skipped]).length := by simp
          simp only [hpos] at hok
          obtain ⟨entries, rest, hwalked, hrest, hentries, hsizes⟩ := ih hwalking hroutes₁ hpacked₁ (by omega) hok
          refine ⟨entries, skipped :: rest, ?_, by rw [hrest, ← append_cons], ?_, hsizes⟩
          · simp only [walked, if_pos hdue, hwalked]
            rfl
          · rw [hentries, hentries₁]
      · rw [if_neg hdue, append_cons] at hroutes₁
        have hpos : before.length + 1 = (before ++ [m₀.current q]).length := by simp
        simp only [hpos] at hok
        obtain ⟨entries, rest, hwalked, hrest, hentries, hsizes⟩ := ih hwalking hroutes₁ hpacked₁ (by omega) hok
        refine ⟨m₀.filledEntry ripInterface q ++ entries, m₀.current q :: rest, ?_,
          by rw [hrest, ← append_cons], ?_, hsizes⟩
        · rw [walked.eq_def]
          simp only [if_neg hdue, hwalked]
          rfl
        · rw [hentries, hentries₁, append_assoc, filledEntry]
          simp only [ite_not]

/-- The loop ends if the walk does, and there is room for an entry where one is needed. -/
theorem sendLoop_isOk (h : Walking m₀ m)
    (hroutes : m.ripRoutes = before ++ routes) (hpacked : Packed maxEntries packet sent) (hn : routes.length ≤ n)
    (hwalked : m₀.walked ripInterface routes = some (entries, rest)) (hroom : maxEntries = 0 → entries = []) :
    ∃ r, sendLoop ripInterface false maxEntries n before.length m packet sent = .ok r := by
  induction n generalizing before routes m packet sent entries rest with
  | zero =>
    have hnil : routes = [] := length_eq_zero_iff.mp (by omega)
    rw [hnil, append_nil] at hroutes
    exact ⟨_, sendLoop_end (by rw [hroutes])⟩
  | succ n ih =>
    cases routes with
    | nil =>
      rw [append_nil] at hroutes
      exact ⟨_, sendLoop_end (by rw [hroutes])⟩
    | cons q routes =>
      obtain ⟨hwalking, hroutes₁, hvalid⟩ := checkRouteIsExpired_walking h hroutes
      rw [length_cons] at hn
      rw [sendLoop_turn hroutes]
      rw [walked.eq_def] at hwalked
      by_cases hdue : m₀.purgeDue q
      · have hgone : (m.checkRouteIsExpired before.length q).2 = true → splitHorizon ripInterface q = none := fun hval =>
          absurd hdue.expired (hvalid.mp hval)
        have hturn : ∃ r, sendRoute ripInterface false maxEntries before.length q m packet sent = .ok r :=
          sendRoute_isOk hpacked fun _ => hgone
        obtain ⟨⟨m₁, packet₁, sent₁⟩, hroute⟩ := hturn
        obtain ⟨rfl, hpacked₁, -⟩ := sendRoute_ok hpacked hroute
        rw [hroute]
        rw [if_pos hdue] at hroutes₁
        cases routes with
        | nil =>
          simp only [if_pos hdue] at hwalked
          cases hwalked
        | cons skipped routes =>
          simp only [if_pos hdue, map_eq_some_iff, Prod.exists, Prod.mk.injEq] at hwalked
          obtain ⟨entries', rest', hwalked, rfl, rfl⟩ := hwalked
          rw [append_cons] at hroutes₁
          rw [length_cons] at hn
          obtain ⟨r, hr⟩ := ih hwalking hroutes₁ hpacked₁ (by omega) hwalked hroom
          rw [length_append, length_singleton] at hr
          exact ⟨r, hr⟩
      · simp only [if_neg hdue, map_eq_some_iff, Prod.exists, Prod.mk.injEq] at hwalked
        obtain ⟨entries', rest', hwalked, rfl, rfl⟩ := hwalked
        have hfits : maxEntries = 0 → (m.checkRouteIsExpired before.length q).2 = true →
            splitHorizon ripInterface q = none := by
          intro hzero hval
          have hnone := (append_eq_nil_iff.mp (hroom hzero)).1
          rw [filledEntry, if_neg (hvalid.mp hval)] at hnone
          exact map_eq_none_iff.mp (toList_eq_nil_iff.mp hnone)
        have hturn : ∃ r, sendRoute ripInterface false maxEntries before.length q m packet sent = .ok r :=
          sendRoute_isOk hpacked hfits
        obtain ⟨⟨m₁, packet₁, sent₁⟩, hroute⟩ := hturn
        obtain ⟨rfl, hpacked₁, -⟩ := sendRoute_ok hpacked hroute
        rw [hroute]
        rw [if_neg hdue, append_cons] at hroutes₁
        obtain ⟨r, hr⟩ := ih hwalking hroutes₁ hpacked₁ (by omega) hwalked fun hzero =>
          (append_eq_nil_iff.mp (hroom hzero)).2
        rw [length_append, length_singleton] at hr
        exact ⟨r, hr⟩

theorem length_eq_zero_of_sizes
    (h : ∀ p ∈ packets, 1 ≤ p.entry.length ∧ p.entry.length ≤ 0) : packets.flatMap RIPPacket.entry = [] := by
  cases packets with
  | nil => rfl
  | cons p packets =>
    have hp := h p mem_cons_self
    omega

/-- The routes that a module has learned are announced in full, in packets that are not too long, and
those that are to be removed are gone, just where no route is left out and there is room for an entry. -/
theorem sendRoutes_fullUpdate_iff (m : RIPRouting) (address : IPv4Address) (port : Nat)
    (ripInterface : RIPInterfaceEntry) (howned : m.Owned) :
    (∃ m' sent, m.sendRoutes address port ripInterface false = .ok (m', sent) ∧ m.FullUpdate ripInterface m' sent) ↔
    m.Passable ripInterface m.ripRoutes ∧ 0 ≤ m.maxEntries ripInterface.ie ∧
      (m.maxEntries ripInterface.ie = 0 → m.announcements ripInterface m.ripRoutes = []) := by
  have hwalking : Walking m m := ⟨rfl, howned⟩
  have hempty : Packed (m.maxEntries ripInterface.ie).toNat [] [] := ⟨.inl rfl, fun p hp => by cases hp⟩
  have hflat : ∀ packets : List RIPPacket,
      (packets.map fun packet => sendPacket packet address port ripInterface.ie).flatMap (fun s => s.packet.entry) =
        packets.flatMap RIPPacket.entry := fun packets => by
    rw [flatMap_map]
    rfl
  rw [← walked_iff]
  constructor
  · rintro ⟨m', sent, hok, hfull⟩
    obtain ⟨hpos, packets, hloop, rfl⟩ := sendRoutes_ok.mp hok
    obtain ⟨entries, rest, hwalked, hrest, hentries, hsizes⟩ :=
      sendLoop_walked hwalking (show m.ripRoutes = [] ++ m.ripRoutes from rfl) hempty (Nat.le_refl _) hloop
    have hall := hfull.entries
    rw [hflat, hentries, allEntries, flatMap_nil, nil_append, nil_append] at hall
    have htable := hfull.table
    rw [hrest, nil_append] at htable
    refine ⟨⟨rest, by rw [hwalked, hall], htable⟩, hpos, fun hzero => ?_⟩
    rw [hzero] at hsizes
    rw [← hall, ← length_eq_zero_of_sizes hsizes, hentries]
    rfl
  · rintro ⟨⟨rest, hwalked, htable⟩, hpos, hroom⟩
    have hzero : (m.maxEntries ripInterface.ie).toNat = 0 → m.announcements ripInterface m.ripRoutes = [] := fun h =>
      hroom (by omega)
    obtain ⟨⟨m', packets⟩, hloop⟩ :=
      sendLoop_isOk hwalking (show m.ripRoutes = [] ++ m.ripRoutes from rfl) hempty (Nat.le_refl _) hwalked hzero
    obtain ⟨entries, rest', hwalked', hrest, hentries, hsizes⟩ :=
      sendLoop_walked hwalking (show m.ripRoutes = [] ++ m.ripRoutes from rfl) hempty (Nat.le_refl _) hloop
    rw [hwalked] at hwalked'
    cases hwalked'
    refine ⟨m', _, sendRoutes_ok.mpr ⟨hpos, packets, hloop, rfl⟩, ?_, ?_, ?_⟩
    · rw [hflat, hentries]
      rfl
    · intro s hs
      obtain ⟨p, hp, rfl⟩ := mem_map.mp hs
      obtain ⟨hlo, hhi⟩ := hsizes p hp
      have hle : (p.entry.length : Int) ≤ m.maxEntries ripInterface.ie := by omega
      exact ⟨hlo, hle⟩
    · rw [hrest]
      exact htable

/-- A neighbour on the second network tells about a network with metric 1. -/
def advertisement (dest : IPv4Address) : Event :=
  .packet ⟨RIP_RESPONSE, [{ address := dest, prefixLength := 24, metric := 1 }]⟩ ⟨0x0A000202, 520, 2, 255⟩

/-- The first of two learned networks is never heard of again, until it is due at 300 s. -/
def ageing : List Event :=
  [.startup fun _ => some ⟨none, some "NoSplitHorizon"⟩, advertisement 0x0A000300] ++
  (replicate 6 [.advance 30, .triggeredUpdateTimer, .advance 30, .updateTimer]).flatten ++
  [advertisement 0x0A000400] ++
  (replicate 23 [.advance 5, .updateTimer, .triggeredUpdateTimer]).flatten ++ [.advance 5]

def ageingRouter : RIPRouting := { twoInterfaces with triggeredUpdateDelay := fun _ => 5 }

def aged : Sim (RIPRouting × List Sent) := ageingRouter.run ageing

theorem inRange_one : 1 ≤ 1 ∧ 1 < RIP_INFINITE_METRIC := by decide

/-- The interfaces on which updates are sent: both networks have been learned on the second one. -/
def firstInterface : RIPInterfaceEntry := { ie := 1, mode := .NO_SPLIT_HORIZON, inRange := inRange_one }
def secondInterface : RIPInterfaceEntry := { ie := 2, mode := .SPLIT_HORIZON, inRange := inRange_one }

theorem aged_owned {r : RIPRouting × List Sent} (h : aged = .ok r) : r.1.Owned := by
  have hsound : ageingRouter.IsSound := IsSound.of_empty rfl (by decide) (by decide)
  have hwaits : ageingRouter.Waits := fun _ => rfl
  exact (hsound.run hwaits (by decide +kernel : ageingRouter.RunRegular ageing) h).owned

/-- On the interface that suppresses the learned routes nothing is missing. -/
theorem sendRoutes_fullUpdate_iff_aged : ∃ r, aged = .ok r ∧
    ∃ m' sent, r.1.sendRoutes ALL_RIP_ROUTERS_MCAST 520 secondInterface false = .ok (m', sent) ∧
      r.1.FullUpdate secondInterface m' sent := by
  refine exists_ok (by decide +kernel) fun r hr => ?_
  refine (sendRoutes_fullUpdate_iff r.1 ALL_RIP_ROUTERS_MCAST 520 secondInterface (aged_owned hr)).mpr ?_
  have hroom : ∀ r, aged = .ok r → r.1.Passable secondInterface r.1.ripRoutes ∧
      0 ≤ r.1.maxEntries secondInterface.ie ∧ r.1.maxEntries secondInterface.ie ≠ 0 := by decide +kernel
  obtain ⟨hpassable, hpos, hne⟩ := hroom r hr
  exact ⟨hpassable, hpos, fun hzero => absurd hzero hne⟩

/-- The route to the second network stands behind the one that is purged, and is not announced. -/
theorem sendRoutes_skips : ∃ r, aged = .ok r ∧ firstInterface ∈ r.1.ripInterfaces ∧
    ¬ ∃ m' sent, r.1.sendRoutes ALL_RIP_ROUTERS_MCAST 520 firstInterface false = .ok (m', sent) ∧
      r.1.FullUpdate firstInterface m' sent := by
  refine exists_ok (by decide +kernel) fun r hr => ?_
  have hskips : ∀ r, aged = .ok r → firstInterface ∈ r.1.ripInterfaces ∧
      ∀ s, r.1.sendRoutes ALL_RIP_ROUTERS_MCAST 520 firstInterface false = .ok s →
        s.2.flatMap (fun s => s.packet.entry) ≠ r.1.announcements firstInterface r.1.ripRoutes := by decide +kernel
  obtain ⟨hmem, hentries⟩ := hskips r hr
  exact ⟨hmem, fun ⟨m', sent, hok, hfull⟩ => hentries (m', sent) hok hfull.entries⟩

end RIPRouting

end Inet.Rip
