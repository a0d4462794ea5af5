import Inetmanet.Ipv4.IPv4

/-!
# The routes of the AODV module

`AODVRouteData.h` and what the module uses of the routing table. All of its routes
are host routes, so the routing table holds them by destination in ascending order,
before the routes that others have put there; none of those is a host route.
-/
namespace Inet.Aodv

open Ipv4 BitVec List

/-- What decides whether a route is used and whether it is replaced. -/
structure RouteEntry where
  gateway : IPv4Address
  metric : BitVec 32
  active : Bool
  validDestNum : Bool
  destSeqNum : BitVec 32
  deriving DecidableEq, Repr

/-- A route of the module with its `AODVRouteData`, of which `repariable` and `beingRepaired` are never read. -/
structure AODVRoute extends RouteEntry where
  destination : IPv4Address
  precursorList : List IPv4Address := []
  /-- Expiration or deletion time of the route. -/
  lifeTime : Int
  deriving DecidableEq, Repr

def AODVRoute.addPrecursor (route : AODVRoute) (precursorAddr : IPv4Address) : AODVRoute :=
  { route with precursorList := route.precursorList.insert precursorAddr }

/-- A route that is not of this module. -/
structure OtherRoute where
  destination : IPv4Address
  netmask : IPv4Address
  gateway : IPv4Address
  deriving DecidableEq, Repr

structure AODVRoutes where
  routes : List AODVRoute
  ordered : (routes.map (·.destination)).Pairwise (· < ·)

namespace AODVRoutes

variable (t : AODVRoutes)

instance : EmptyCollection AODVRoutes := ⟨⟨[], .nil⟩⟩

/-- `findBestMatchingRoute`, where the route found is one of the module. -/
def find? (dest : IPv4Address) : Option AODVRoute := t.routes.find? fun r => r.destination = dest

/-- Where `internalAddRoute` puts a route to a destination that has none. -/
def insert (route : AODVRoute) : AODVRoutes where
  routes := t.routes.filter (fun r => r.destination < route.destination) ++
    route :: t.routes.filter (fun r => route.destination < r.destination)
  ordered := by
    simp only [map_append, List.map_cons, pairwise_append, List.pairwise_cons, mem_map, List.mem_cons,
      mem_filter, decide_eq_true_eq]
    have hsub (p : AODVRoute → Bool) : ((t.routes.filter p).map (·.destination)).Pairwise (· < ·) :=
      t.ordered.sublist (filter_sublist.map _)
    refine ⟨hsub _, ⟨?_, hsub _⟩, ?_⟩
    · rintro _ ⟨r, ⟨-, hr⟩, rfl⟩
      exact hr
    · rintro _ ⟨r, ⟨-, hr⟩, rfl⟩ _ (rfl | ⟨s, ⟨-, hs⟩, rfl⟩)
      · exact hr
      · exact BitVec.lt_trans hr hs

/-- `addRoute` of a host route. -/
def addRoute (route : AODVRoute) : Sim AODVRoutes :=
  if route.destination = 0 then
    throw (.runtime "addRoute(): all bits of destination address 0.0.0.0 is 0 inside non zero netmask 255.255.255.255")
  else pure (t.insert route)

/-- The route to `dest` is changed; its destination stays. -/
def modify (dest : IPv4Address) (f : AODVRoute → AODVRoute) : AODVRoutes where
  routes := t.routes.map fun r => if r.destination = dest then { f r with destination := r.destination } else r
  ordered := by
    have hsame : ((·.destination) ∘ fun r : AODVRoute =>
        if r.destination = dest then { f r with destination := r.destination } else r) = (·.destination) := by
      funext r
      by_cases h : r.destination = dest
      · simp [h]
      · simp [h]
    rw [map_map, hsame]
    exact t.ordered

variable {t}

theorem destination_of_find? {dest : IPv4Address} {r : AODVRoute} (h : t.find? dest = some r) :
    r.destination = dest := by
  simpa using find?_some h

theorem find?_of_mem {r : AODVRoute} (h : r ∈ t.routes) : t.find? r.destination = some r := by
  have hord := t.ordered
  revert h hord
  simp only [find?]
  induction t.routes with
  | nil => simp
  | cons a rs ih =>
    intro h hord
    rw [map_cons, pairwise_cons] at hord
    cases mem_cons.mp h with
    | inl he => simp [he]
    | inr hmem =>
      have hlt := hord.1 r.destination (mem_map_of_mem hmem)
      have hne : ¬ a.destination = r.destination := fun he => BitVec.lt_irrefl _ (he ▸ hlt)
      simpa [hne] using ih hmem hord.2

variable (t)

theorem find?_insert (route : AODVRoute) (dest : IPv4Address) :
    (t.insert route).find? dest = if dest = route.destination then some route else t.find? dest := by
  have hfilter (p : AODVRoute → Bool) (hp : ∀ r, r.destination = dest → p r = true) :
      (t.routes.filter p).find? (fun r => r.destination = dest) = t.find? dest := by
    rw [find?_filter, find?]
    congr 1
    funext r
    by_cases h : r.destination = dest
    · simp [h, hp r h]
    · simp [h]
  have hnone (p : AODVRoute → Bool) (hp : ∀ r, r.destination = dest → p r = false) :
      (t.routes.filter p).find? (fun r => r.destination = dest) = none := by
    rw [find?_filter, find?_eq_none]
    intro r _ h
    simp only [decide_eq_true_eq] at h
    simp [hp r h.2] at h
  simp only [insert, find?, find?_append, find?_cons]
  rcases Nat.lt_trichotomy dest.toNat route.destination.toNat with h | h | h
  · have hne : ¬ dest = route.destination := fun he => by simp [he] at h
    rw [hfilter _ (by rintro r rfl; simpa [lt_def] using h),
      hnone _ (by rintro r rfl; simpa [le_def] using h.le)]
    simp [find?, hne, Ne.symm hne]
  · have he : dest = route.destination := eq_of_toNat_eq h
    rw [hnone _ (by rintro r rfl; simp [he])]
    simp [he]
  · have hne : ¬ dest = route.destination := fun he => by simp [he] at h
    rw [hnone _ (by rintro r rfl; simpa [le_def] using h.le),
      hfilter _ (by rintro r rfl; simpa [lt_def] using h)]
    simp [find?, hne, Ne.symm hne]

theorem find?_modify (dest : IPv4Address) (f : AODVRoute → AODVRoute) (dest' : IPv4Address) :
    (t.modify dest f).find? dest' =
      if dest' = dest then (t.find? dest).map fun r => { f r with destination := dest } else t.find? dest' := by
  simp only [modify, find?]
  induction t.routes with
  | nil => simp
  | cons r rs ih =>
    by_cases hd : r.destination = dest
    · by_cases h : dest' = dest
      · simp [hd, h]
      · simpa [hd, h, Ne.symm h] using ih
    · by_cases h : r.destination = dest'
      · subst h
        simp [hd]
      · simpa [hd, h] using ih

/-- The loop of `expungeRoutes`: of a route whose lifetime is over, what is left; the
route after one that is deleted is passed over. -/
def expungeLoop (simTime deletePeriod netTraversalTime : Int) (ongoing : IPv4Address → Bool) :
    List AODVRoute → List AODVRoute
  | [] => []
  | r :: rs =>
    if r.lifeTime ≤ simTime then
      if r.active then
        { r with active := false, lifeTime := simTime + deletePeriod } ::
          expungeLoop simTime deletePeriod netTraversalTime ongoing rs
      else if ongoing r.destination then
        { r with lifeTime := simTime + 2 * netTraversalTime } ::
          expungeLoop simTime deletePeriod netTraversalTime ongoing rs
      else match rs with
        | [] => []
        | next :: rs => next :: expungeLoop simTime deletePeriod netTraversalTime ongoing rs
    else r :: expungeLoop simTime deletePeriod netTraversalTime ongoing rs

section

variable (simTime deletePeriod netTraversalTime : Int) (ongoing : IPv4Address → Bool)

theorem expungeLoop_destinations (rs : List AODVRoute) :
    ((expungeLoop simTime deletePeriod netTraversalTime ongoing rs).map (·.destination)).Sublist
      (rs.map (·.destination)) := by
  fun_induction expungeLoop simTime deletePeriod netTraversalTime ongoing rs with
  | case1 => exact .slnil
  | case2 r rs _ _ ih => exact ih.cons_cons _
  | case3 r rs _ _ _ ih => exact ih.cons_cons _
  | case4 r _ _ _ => exact .cons _ .slnil
  | case5 r _ _ _ next rs ih => exact .cons _ (ih.cons_cons _)
  | case6 r rs _ ih => exact ih.cons_cons _

theorem find?_expungeLoop {rs : List AODVRoute} (hrs : (rs.map (·.destination)).Pairwise (· < ·))
    (dest : IPv4Address) :
    (expungeLoop simTime deletePeriod netTraversalTime ongoing rs).find? (fun r => r.destination = dest) =
        rs.find? (fun r => r.destination = dest) ∨
      ∃ r, rs.find? (fun r => r.destination = dest) = some r ∧ r.lifeTime ≤ simTime ∧
        ∃ o, (expungeLoop simTime deletePeriod netTraversalTime ongoing rs).find? (fun r => r.destination = dest) = o ∧
          (r.active = true ∧ o = some { r with active := false, lifeTime := simTime + deletePeriod } ∨
            r.active = false ∧ (o = some { r with lifeTime := simTime + 2 * netTraversalTime } ∨
              ongoing dest = false ∧ o = none)) := by
  fun_induction expungeLoop simTime deletePeriod netTraversalTime ongoing rs with
  | case1 => exact .inl rfl
  | case2 r rs hlife hactive ih =>
    by_cases h : r.destination = dest
    · exact .inr ⟨r, by simp [h], hlife, _, rfl, .inl ⟨hactive, by simp [h]⟩⟩
    · simpa [h] using ih (pairwise_cons.mp hrs).2
  | case3 r rs hlife hactive hon ih =>
    by_cases h : r.destination = dest
    · exact .inr ⟨r, by simp [h], hlife, _, rfl, .inr ⟨by simpa using hactive, .inl (by simp [h])⟩⟩
    · simpa [h] using ih (pairwise_cons.mp hrs).2
  | case4 r hlife hactive hon =>
    by_cases h : r.destination = dest
    · exact .inr ⟨r, by simp [h], hlife, none, rfl, .inr ⟨by simpa using hactive, .inr ⟨by simpa [h] using hon, rfl⟩⟩⟩
    · simp [h]
  | case5 r hlife hactive hon next rs ih =>
    have hnext := (pairwise_cons.mp hrs).2
    by_cases h : r.destination = dest
    · have hgone : (next :: expungeLoop simTime deletePeriod netTraversalTime ongoing rs).find?
          (fun r => r.destination = dest) = none := by
        rw [find?_eq_none]
        intro r' hr' he
        have hmem : r'.destination ∈ (next :: expungeLoop simTime deletePeriod netTraversalTime ongoing rs).map
            (·.destination) := mem_map_of_mem hr'
        have hlt := (pairwise_cons.mp hrs).1 _ (((expungeLoop_destinations ..).cons_cons _).mem hmem)
        simp only [decide_eq_true_eq] at he
        exact absurd (h.trans he.symm ▸ hlt) (BitVec.lt_irrefl _)
      exact .inr ⟨r, by simp [h], hlife, none, hgone, .inr ⟨by simpa using hactive, .inr ⟨by simpa [h] using hon, rfl⟩⟩⟩
    · by_cases hn : next.destination = dest
      · simp [h, hn]
      · simpa [h, hn] using ih (pairwise_cons.mp hnext).2
  | case6 r rs hlife ih =>
    by_cases h : r.destination = dest
    · simp [h]
    · simpa [h] using ih (pairwise_cons.mp hrs).2

def expunge : AODVRoutes where
  routes := expungeLoop simTime deletePeriod netTraversalTime ongoing t.routes
  ordered := t.ordered.sublist (expungeLoop_destinations ..)

/-- What `expungeRoutes` leaves of a route: it deletes only inactive ones that no discovery waits for. -/
theorem find?_expunge (dest : IPv4Address) :
    (t.expunge simTime deletePeriod netTraversalTime ongoing).find? dest = t.find? dest ∨
      ∃ r, t.find? dest = some r ∧ r.lifeTime ≤ simTime ∧
        ∃ o, (t.expunge simTime deletePeriod netTraversalTime ongoing).find? dest = o ∧
          (r.active = true ∧ o = some { r with active := false, lifeTime := simTime + deletePeriod } ∨
            r.active = false ∧ (o = some { r with lifeTime := simTime + 2 * netTraversalTime } ∨
              ongoing dest = false ∧ o = none)) :=
  find?_expungeLoop simTime deletePeriod netTraversalTime ongoing t.ordered dest

end

end AODVRoutes

end Inet.Aodv
