import Inetmanet.Ipv6.DestCache

/-!
# The order of the IPv6 routes

`doLongestPrefixMatch` takes the first route that matches and has not expired. That is
the best one as long as the list is in order, which `addRoute` sees to and a change of a
route in its place does not; and the search ends unless it comes upon an expired route
that is not from a router advertisement.
-/
namespace Inet.Ipv6

open List Function

/-- Is there a destination that matches both? -/
def IPv6Route.SamePrefix (a b : IPv6Route) : Prop :=
  a.prefixLength = b.prefixLength ∧ ∃ dest, a.matchesAddr dest = true ∧ b.matchesAddr dest = true

/-- A longer prefix, or a smaller distance or metric. -/
structure IPv6Route.NotWorse (a b : IPv6Route) : Prop where
  prefixLength : b.prefixLength ≤ a.prefixLength
  adminDist : a.prefixLength = b.prefixLength → a.adminDist ≤ b.adminDist
  metric : a.prefixLength = b.prefixLength → a.adminDist = b.adminDist → a.metric ≤ b.metric

namespace RoutingTable6

/-- A route for `dest` that can be used. -/
def Live (t : RoutingTable6) (dest : IPv6Address) (e : RouteRef) : Prop :=
  (t.heap e).matchesAddr dest = true ∧ ¬ (t.heap e).isExpired t.simTime
deriving Decidable

/-- An expired router-advertisement route that matches. -/
def Stale (t : RoutingTable6) (dest : IPv6Address) (e : RouteRef) : Prop :=
  (t.heap e).matchesAddr dest = true ∧ (t.heap e).isExpired t.simTime ∧ (t.heap e).src = .FROM_RA

/-- What is found is the best of the live routes, and only stale routes are removed. -/
structure Answers (t : RoutingTable6) (dest : IPv6Address) (res : Option RouteRef) (t' : RoutingTable6) : Prop where
  best : ∀ e, res = some e → e ∈ t.routeList ∧ t.Live dest e ∧
    ∀ e' ∈ t.routeList, t.Live dest e' → (t.heap e).NotWorse (t.heap e')
  none_iff : res = none ↔ ∀ e ∈ t.routeList, ¬ t.Live dest e
  removed : ∃ stale, t.routeList.Perm (stale ++ t'.routeList) ∧ ∀ e ∈ stale, t.Stale dest e
  rest : t' = { t with routeList := t'.routeList }

/-- The search ends with the right answer. -/
def Exact (t : RoutingTable6) (dest : IPv6Address) : Prop :=
  ∃ res t', t.doLongestPrefixMatch dest = .ok (res, t') ∧ t.Answers dest res t'

/-- An expired route of another source matches, and no live one stands before it. -/
def Hangs (t : RoutingTable6) (dest : IPv6Address) : Prop :=
  ∃ before e after, t.routeList = before ++ e :: after ∧ (∀ a ∈ before, ¬ t.Live dest a) ∧
    (t.heap e).matchesAddr dest = true ∧ (t.heap e).isExpired t.simTime ∧ (t.heap e).src ≠ .FROM_RA

/-- The first route that can be used. -/
def firstLive (t : RoutingTable6) (dest : IPv6Address) : Option RouteRef :=
  t.routeList.find? fun e => decide (t.Live dest e)

/-- Behind the first live route there is a better one. -/
def Overtaken (t : RoutingTable6) (dest : IPv6Address) : Prop :=
  ∃ e, t.firstLive dest = some e ∧ ∃ e' ∈ t.routeList, t.Live dest e' ∧ ¬ (t.heap e).NotWorse (t.heap e')

/-- `a` stands before `b`. -/
def Before (t : RoutingTable6) (a b : RouteRef) : Prop := [a, b].Sublist t.routeList

/-- With these fields the route is no better than those to the same prefix before it, and no worse than those
after it. -/
def Fits (t : RoutingTable6) (e : RouteRef) (r : IPv6Route) : Prop :=
  (∀ a, t.Before a e → (t.heap a).SamePrefix r → (t.heap a).NotWorse r) ∧
    ∀ b, t.Before e b → r.SamePrefix (t.heap b) → r.NotWorse (t.heap b)

/-- A route that is changed in its place still fits there. -/
def InPlace (t : RoutingTable6) : Event → Prop
  | .setMetric e metric => t.Fits e { t.heap e with metric := metric }
  | .setAdminDist e adminDist => t.Fits e { t.heap e with adminDist := adminDist }
  | _ => True

def InPlaceRun (S : StdSort) : RoutingTable6 → List Event → Prop
  | _, [] => True
  | t, event :: events => t.InPlace event ∧ ∀ t', t.step S event = .ok t' → InPlaceRun S t' events

/-- A route that may stand before another one. -/
structure Precedes (a b : IPv6Route) : Prop where
  prefixLength : b.prefixLength ≤ a.prefixLength
  notWorse : a.SamePrefix b → a.NotWorse b

def Ordered (t : RoutingTable6) : Prop := t.routeList.Pairwise fun a b => Precedes (t.heap a) (t.heap b)

theorem notWorse_of_not_less {a b : IPv6Route} (h : routeLessThan b a = false) : a.NotWorse b := by
  unfold routeLessThan at h
  split at h
  · have hle := of_decide_eq_false h
    exact ⟨by omega, by omega, by omega⟩
  · split at h
    · have hle := of_decide_eq_false h
      exact ⟨by omega, by omega, by omega⟩
    · have hle := of_decide_eq_false h
      exact ⟨by omega, by omega, by omega⟩

theorem routeLessThan_asymm (a b : IPv6Route) (h : routeLessThan a b = true) : routeLessThan b a = false := by
  unfold routeLessThan at h ⊢
  grind

theorem routeLessThan_trans (a b c : IPv6Route) (hab : routeLessThan b a = false) (hbc : routeLessThan c b = false) :
    routeLessThan c a = false := by
  have h₁ := notWorse_of_not_less hab
  have h₂ := notWorse_of_not_less hbc
  obtain ⟨hp₁, hd₁, hm₁⟩ := h₁
  obtain ⟨hp₂, hd₂, hm₂⟩ := h₂
  unfold routeLessThan
  split
  · exact decide_eq_false (by omega)
  · split
    · exact decide_eq_false (by omega)
    · exact decide_eq_false (by omega)

variable {t t' : RoutingTable6} {dest : IPv6Address} {e : RouteRef} {l l' : List RouteRef}

theorem Ordered.sublist (h : t.Ordered) (hsub : l.Sublist t.routeList) : Ordered { t with routeList := l } :=
  Pairwise.sublist hsub h

/-- The order depends on these fields only. -/
theorem Ordered.heap (h : t.Ordered) (hlist : t'.routeList = t.routeList)
    (hkey : ∀ e, (t'.heap e).destPrefix = (t.heap e).destPrefix ∧ (t'.heap e).prefixLength = (t.heap e).prefixLength)
    (hcost : ∀ e, (t'.heap e).adminDist = (t.heap e).adminDist ∧ (t'.heap e).metric = (t.heap e).metric) :
    t'.Ordered := by
  unfold Ordered
  rw [hlist]
  refine h.imp fun {a b} hab => ?_
  obtain ⟨hpa, hla⟩ := hkey a
  obtain ⟨hpb, hlb⟩ := hkey b
  obtain ⟨hda, hma⟩ := hcost a
  obtain ⟨hdb, hmb⟩ := hcost b
  refine ⟨by rw [hla, hlb]; exact hab.prefixLength, fun hsame => ?_⟩
  have hsame' : (t.heap a).SamePrefix (t.heap b) := by
    simpa only [IPv6Route.SamePrefix, IPv6Route.matchesAddr, hpa, hla, hpb, hlb] using hsame
  obtain ⟨h₁, h₂, h₃⟩ := hab.notWorse hsame'
  exact ⟨by rw [hla, hlb]; exact h₁, by rw [hla, hlb, hda, hdb]; exact h₂,
    by rw [hla, hlb, hda, hdb, hma, hmb]; exact h₃⟩

theorem addRoute_ordered (S : StdSort) (t : RoutingTable6) (e : RouteRef) : (t.addRoute S e).Ordered := by
  unfold Ordered addRoute
  refine (S.sorted _ _ ?_ ?_).imp fun {a b} h => ?_
  · exact fun a b => routeLessThan_asymm _ _
  · exact fun a b c => routeLessThan_trans _ _ _
  · have hnot := notWorse_of_not_less h
    exact ⟨hnot.prefixLength, fun _ => hnot⟩

section

variable (h : t.Ordered)
include h

/-- A change of a route in its place. -/
theorem setField_ordered {r : IPv6Route} (code : ChangeCode)
    (hkey : r.destPrefix = (t.heap e).destPrefix ∧ r.prefixLength = (t.heap e).prefixLength) (hfits : t.Fits e r) :
    (t.setField e r code).Ordered := by
  have hstore : (t.store e r).Ordered := by
    unfold Ordered
    rw [pairwise_iff_forall_sublist]
    intro a b hsub
    have hab := pairwise_iff_forall_sublist.mp h hsub
    have hself : (t.store e r).heap e = r := by simp [store]
    have hother {x : RouteRef} (hx : x ≠ e) : (t.store e r).heap x = t.heap x := by simp [store, hx]
    by_cases ha : a = e
    · by_cases hb : b = e
      · rw [ha, hb]
        exact ⟨Nat.le_refl _, fun _ => ⟨Nat.le_refl _, fun _ => Nat.le_refl _, fun _ _ => Int.le_refl _⟩⟩
      · rw [ha, hself, hother hb]
        rw [ha] at hab hsub
        exact ⟨by rw [hkey.2]; exact hab.prefixLength, hfits.2 b hsub⟩
    · by_cases hb : b = e
      · rw [hb, hself, hother ha]
        rw [hb] at hab hsub
        exact ⟨by rw [hkey.2]; exact hab.prefixLength, hfits.1 a hsub⟩
      · rw [hother ha, hother hb]
        exact hab
  unfold setField routeChanged
  split
  · split
    · exact hstore
    · exact hstore
  · exact hstore

/-- A field that has no part in the order. -/
theorem setField_ordered_same {r : IPv6Route} (code : ChangeCode)
    (hkey : r.destPrefix = (t.heap e).destPrefix ∧ r.prefixLength = (t.heap e).prefixLength)
    (hcost : r.adminDist = (t.heap e).adminDist ∧ r.metric = (t.heap e).metric) : (t.setField e r code).Ordered := by
  have hheap : (t.setField e r code).heap = update t.heap e r := by
    unfold setField routeChanged
    split
    · split <;> rfl
    · rfl
  have hlist : (t.setField e r code).routeList = t.routeList := by
    unfold setField routeChanged
    split
    · split <;> rfl
    · rfl
  refine h.heap hlist (fun x => ?_) (fun x => ?_)
  · rw [hheap]
    by_cases hx : x = e
    · rw [hx, update_self]
      exact hkey
    · rw [update_of_ne hx]
      exact ⟨rfl, rfl⟩
  · rw [hheap]
    by_cases hx : x = e
    · rw [hx, update_self]
      exact hcost
    · rw [update_of_ne hx]
      exact ⟨rfl, rfl⟩

theorem setInterfaceId_ordered (e : RouteRef) (interfaceId : Int) :
    (t.setInterfaceId e interfaceId).Ordered := by
  unfold setInterfaceId
  split
  · exact setField_ordered_same h _ ⟨rfl, rfl⟩ ⟨rfl, rfl⟩
  · exact h

theorem setNextHop_ordered (e : RouteRef) (nextHop : IPv6Address) :
    (t.setNextHop e nextHop).Ordered := by
  unfold setNextHop
  split
  · exact setField_ordered_same h _ ⟨rfl, rfl⟩ ⟨rfl, rfl⟩
  · exact h

theorem setExpiryTime_ordered (e : RouteRef) (expiryTime : Nat) :
    (t.setExpiryTime e expiryTime).Ordered := by
  unfold setExpiryTime
  split
  · exact setField_ordered_same h _ ⟨rfl, rfl⟩ ⟨rfl, rfl⟩
  · exact h

theorem setMetric_ordered {metric : Int} (hfits : t.Fits e { t.heap e with metric := metric }) :
    (t.setMetric e metric).Ordered := by
  unfold setMetric
  split
  · exact setField_ordered h _ ⟨rfl, rfl⟩ hfits
  · exact h

theorem setAdminDist_ordered {adminDist : Nat}
    (hfits : t.Fits e { t.heap e with adminDist := adminDist }) : (t.setAdminDist e adminDist).Ordered := by
  unfold setAdminDist
  split
  · exact setField_ordered h _ ⟨rfl, rfl⟩ hfits
  · exact h

end

theorem addOrUpdatePrefix_ordered (S : StdSort) (h : t.Ordered) (src : RouteSrc) (e : RouteRef)
    (destPrefix : IPv6Address) (prefixLength : Nat) (interfaceId : Int) (expiryTime : Nat) :
    (addOrUpdatePrefix S src t e destPrefix prefixLength interfaceId expiryTime).Ordered := by
  unfold addOrUpdatePrefix
  split
  · exact addRoute_ordered S _ e
  · exact setExpiryTime_ordered (setInterfaceId_ordered h _ _) _ _

theorem matchOutputInterface_ordered (h : t.Ordered) {out : Determined}
    (hok : t.matchOutputInterface dest = .ok (out, t')) : t'.Ordered := by
  obtain ⟨res, l', hloop, hcase⟩ := matchOutputInterface_ok hok
  have hsub := longestPrefixMatchLoop_sublist hloop
  rcases hcase with ⟨-, -, ht'⟩ | ⟨e, -, -, ht'⟩
  · rw [ht']
    exact h.sublist hsub
  · rw [ht']
    exact h.sublist hsub

theorem determineOutputInterface_ordered (h : t.Ordered) {out : Determined}
    (hok : t.determineOutputInterface dest = .ok (out, t')) : t'.Ordered := by
  rcases determineOutputInterface_ok hok with ⟨entry, -, -, ht'⟩ | hmatch | hmatch
  · rw [ht']
    exact h
  · exact matchOutputInterface_ordered h hmatch
  · exact matchOutputInterface_ordered (t := { t with destCache := update t.destCache dest none }) h hmatch

theorem step_ordered {S : StdSort} (h : t.Ordered) {event : Event} (hplace : t.InPlace event)
    (hok : t.step S event = .ok t') : t'.Ordered := by
  cases event with
  | addOrUpdateOnLinkPrefix e destPrefix prefixLength interfaceId expiryTime =>
    cases hok
    exact addOrUpdatePrefix_ordered S h _ e _ _ _ _
  | addOrUpdateOwnAdvPrefix e destPrefix prefixLength interfaceId expiryTime =>
    cases hok
    exact addOrUpdatePrefix_ordered S h _ e _ _ _ _
  | addStaticRoute e destPrefix prefixLength interfaceId nextHop metric =>
    cases hok
    exact addRoute_ordered S _ e
  | addDefaultRoute e nextHop ifID routerLifetime =>
    cases hok
    exact addRoute_ordered S _ e
  | addRoutingProtocolRoute e route =>
    simp only [step, addRoutingProtocolRoute] at hok
    split at hok
    · cases hok
      exact addRoute_ordered S _ e
    · cases hok
  | removeRoute e =>
    simp only [step, removeRoute] at hok
    split at hok
    · cases hok
      exact h.sublist erase_sublist
    · cases hok
  | removeOnLinkPrefix destPrefix prefixLength =>
    cases hok
    exact h.sublist eraseP_sublist
  | removeDefaultRoutes interfaceID =>
    cases hok
    exact h.sublist filter_sublist
  | removeAllRoutes =>
    cases hok
    exact h.sublist (nil_sublist _)
  | removePrefixes interfaceID =>
    cases hok
    exact h.sublist filter_sublist
  | setInterfaceId e interfaceId =>
    cases hok
    exact setInterfaceId_ordered h e interfaceId
  | setNextHop e nextHop =>
    cases hok
    exact setNextHop_ordered h e nextHop
  | setExpiryTime e expiryTime =>
    cases hok
    exact setExpiryTime_ordered h e expiryTime
  | setMetric e metric =>
    cases hok
    exact setMetric_ordered h hplace
  | setAdminDist e adminDist =>
    cases hok
    exact setAdminDist_ordered h hplace
  | interfaceDeleted interfaceId =>
    cases hok
    exact h
  | interfaceStateChanged interfaceId isUp =>
    cases hok
    unfold receiveChangeNotification
    split
    · exact h
    · exact h
  | purgeDestCacheEntriesToNeighbour nextHopAddr interfaceId =>
    cases hok
    exact h
  | determineOutputInterface destAddress =>
    simp only [step] at hok
    cases hdet : t.determineOutputInterface destAddress with
    | error err =>
      rw [hdet] at hok
      cases hok
    | ok out =>
      rw [hdet] at hok
      cases hok
      exact determineOutputInterface_ordered h hdet
  | elapse time =>
    cases hok
    exact h

theorem run_ordered {S : StdSort} (h : t.Ordered) {events : List Event} (hplace : InPlaceRun S t events)
    (hok : run S t events = .ok t') : t'.Ordered := by
  induction events generalizing t with
  | nil =>
    cases hok
    exact h
  | cons event events ih =>
    obtain ⟨t₁, hstep, hrest⟩ := bind_ok.mp hok
    exact ih (step_ordered h hplace.1 hstep) (hplace.2 t₁ hstep) hrest

/-- An expired route of another source. -/
def Expired (t : RoutingTable6) (dest : IPv6Address) (e : RouteRef) : Prop :=
  (t.heap e).matchesAddr dest = true ∧ (t.heap e).isExpired t.simTime ∧ (t.heap e).src ≠ .FROM_RA

/-- What the loop makes of a route: it is taken, it is erased, the search gets stuck on it, or it is left alone. -/
theorem route_cases (t : RoutingTable6) (dest : IPv6Address) (e : RouteRef) :
    t.Live dest e ∨ t.Stale dest e ∨ t.Expired dest e ∨ (t.heap e).matchesAddr dest = false := by
  cases hmatch : (t.heap e).matchesAddr dest with
  | false => exact .inr (.inr (.inr rfl))
  | true =>
    by_cases hexp : (t.heap e).isExpired t.simTime
    · by_cases hsrc : (t.heap e).src = .FROM_RA
      · exact .inr (.inl ⟨hmatch, hexp, hsrc⟩)
      · exact .inr (.inr (.inl ⟨hmatch, hexp, hsrc⟩))
    · exact .inl ⟨hmatch, hexp⟩

theorem Stale.not_live (h : t.Stale dest e) : ¬ t.Live dest e := fun hlive => hlive.2 h.2.1

theorem not_live_of_no_match (h : (t.heap e).matchesAddr dest = false) : ¬ t.Live dest e := by
  intro hlive
  rw [hlive.1] at h
  cases h

/-- The loop over a part of the list. -/
def loop (t : RoutingTable6) (dest : IPv6Address) (l : List RouteRef) : Sim (Option RouteRef × List RouteRef) :=
  longestPrefixMatchLoop t.simTime t.heap dest l

theorem loop_live (h : t.Live dest e) (l : List RouteRef) : t.loop dest (e :: l) = .ok (some e, e :: l) := by
  rw [loop, longestPrefixMatchLoop, if_pos h.1, if_neg h.2]

theorem loop_stale (h : t.Stale dest e) (l : List RouteRef) : t.loop dest (e :: l) = t.loop dest l := by
  rw [loop, longestPrefixMatchLoop, if_pos h.1, if_pos h.2.1, if_pos h.2.2, loop]

theorem loop_expired (h : t.Expired dest e) (l : List RouteRef) : t.loop dest (e :: l) = .error .diverges := by
  rw [loop, longestPrefixMatchLoop, if_pos h.1, if_pos h.2.1, if_neg h.2.2]

theorem loop_no_match (h : (t.heap e).matchesAddr dest = false) (l : List RouteRef) :
    t.loop dest (e :: l) = (t.loop dest l).map fun res => (res.1, e :: res.2) := by
  rw [loop, longestPrefixMatchLoop, h, if_neg Bool.false_ne_true, loop]

theorem loop_hangs {before after : List RouteRef} (hbefore : ∀ a ∈ before, ¬ t.Live dest a) (he : t.Expired dest e) :
    t.loop dest (before ++ e :: after) = .error .diverges := by
  induction before with
  | nil => exact loop_expired he after
  | cons a before ih =>
    have hrest := ih fun x hx => hbefore x (mem_cons_of_mem a hx)
    rw [cons_append]
    rcases route_cases t dest a with hlive | hstale | hexpired | hno
    · exact absurd hlive (hbefore a mem_cons_self)
    · rw [loop_stale hstale, hrest]
    · exact loop_expired hexpired _
    · rw [loop_no_match hno, hrest]
      rfl

section

variable (t)

/-- Unless it gets stuck, the search leaves out stale routes and ends with the first live one. -/
theorem loop_first (dest : IPv6Address) (l : List RouteRef) :
    (∃ before e after, l = before ++ e :: after ∧ (∀ a ∈ before, ¬ t.Live dest a) ∧ t.Expired dest e) ∨
      ∃ l', t.loop dest l = .ok (l.find? fun e => decide (t.Live dest e), l') ∧
        ∃ stale, l.Perm (stale ++ l') ∧ ∀ a ∈ stale, t.Stale dest a := by
  induction l with
  | nil => exact .inr ⟨[], rfl, [], .refl _, by simp⟩
  | cons e l ih =>
    have hskip (he : ¬ t.Live dest e) : (e :: l).find? (fun e => decide (t.Live dest e)) =
        l.find? fun e => decide (t.Live dest e) := by
      rw [find?_cons, decide_eq_false he]
    have hstuck (he : ¬ t.Live dest e)
        (h : ∃ before x after, l = before ++ x :: after ∧ (∀ a ∈ before, ¬ t.Live dest a) ∧ t.Expired dest x) :
        ∃ before x after, e :: l = before ++ x :: after ∧ (∀ a ∈ before, ¬ t.Live dest a) ∧ t.Expired dest x := by
      obtain ⟨before, x, after, rfl, hbefore, hx⟩ := h
      exact ⟨e :: before, x, after, rfl, forall_mem_cons.mpr ⟨he, hbefore⟩, hx⟩
    rcases route_cases t dest e with hlive | hstale | hexpired | hno
    · have hfind : (e :: l).find? (fun e => decide (t.Live dest e)) = some e := by
        rw [find?_cons, decide_eq_true hlive]
      rw [hfind]
      exact .inr ⟨e :: l, loop_live hlive l, [], .refl _, by simp⟩
    · rcases ih with h | ⟨l', hloop, stale, hperm, hall⟩
      · exact .inl (hstuck hstale.not_live h)
      · rw [hskip hstale.not_live, loop_stale hstale]
        exact .inr ⟨l', hloop, e :: stale, hperm.cons e, forall_mem_cons.mpr ⟨hstale, hall⟩⟩
    · exact .inl ⟨[], e, l, rfl, by simp, hexpired⟩
    · rcases ih with h | ⟨l', hloop, stale, hperm, hall⟩
      · exact .inl (hstuck (not_live_of_no_match hno) h)
      · rw [hskip (not_live_of_no_match hno), loop_no_match hno, hloop]
        exact .inr ⟨e :: l', rfl, stale, (hperm.cons e).trans perm_middle.symm, hall⟩

theorem doLongestPrefixMatch_eq (dest : IPv6Address) :
    t.doLongestPrefixMatch dest = (t.loop dest t.routeList).map fun res => (res.1, { t with routeList := res.2 }) := rfl

/-- The search ends, or it hangs. -/
theorem doLongestPrefixMatch_cases (dest : IPv6Address) :
    t.Hangs dest ∧ t.doLongestPrefixMatch dest = .error .diverges ∨
      ∃ l', t.doLongestPrefixMatch dest = .ok (t.firstLive dest, { t with routeList := l' }) ∧
        ∃ stale, t.routeList.Perm (stale ++ l') ∧ ∀ a ∈ stale, t.Stale dest a := by
  rcases loop_first t dest t.routeList with ⟨before, e, after, hlist, hbefore, hexpired⟩ | ⟨l', hloop, hremoved⟩
  · refine .inl ⟨⟨before, e, after, hlist, hbefore, hexpired⟩, ?_⟩
    rw [doLongestPrefixMatch_eq, hlist, loop_hangs hbefore hexpired]
    rfl
  · refine .inr ⟨l', ?_, hremoved⟩
    rw [doLongestPrefixMatch_eq, hloop]
    rfl

/-- The answer is right in any table, unless the search hangs or a better route stands behind. -/
theorem exact_iff (dest : IPv6Address) : t.Exact dest ↔ ¬ t.Hangs dest ∧ ¬ t.Overtaken dest := by
  constructor
  · rintro ⟨res, t', hok, hanswers⟩
    constructor
    · rintro ⟨before, e, after, hlist, hbefore, hexpired⟩
      rw [doLongestPrefixMatch_eq, hlist, loop_hangs hbefore hexpired] at hok
      cases hok
    · rintro ⟨e, hfirst, e', he', hlive', hworse⟩
      rcases doLongestPrefixMatch_cases t dest with ⟨-, hdiverges⟩ | ⟨l', hfound, -⟩
      · rw [hdiverges] at hok
        cases hok
      · rw [hfound] at hok
        cases hok
        exact hworse ((hanswers.best e hfirst).2.2 e' he' hlive')
  · rintro ⟨hhangs, hovertaken⟩
    rcases doLongestPrefixMatch_cases t dest with ⟨hstuck, -⟩ | ⟨l', hfound, hremoved⟩
    · exact absurd hstuck hhangs
    · refine ⟨t.firstLive dest, { t with routeList := l' }, hfound, ?_, ?_, hremoved, rfl⟩
      · intro e hfirst
        refine ⟨mem_of_find?_eq_some hfirst, by simpa using find?_some hfirst, fun e' he' hlive' => ?_⟩
        exact Classical.not_not.mp fun hworse => hovertaken ⟨e, hfirst, e', he', hlive', hworse⟩
      · simp [firstLive]

end

/-- In a list that is in order the first live route is the best one. -/
theorem Ordered.not_overtaken (h : t.Ordered) : ¬ t.Overtaken dest := by
  rintro ⟨e, hfirst, e', he', hlive', hworse⟩
  have hlive : t.Live dest e := by simpa using find?_some hfirst
  obtain ⟨-, before, after, hlist, hbefore⟩ := find?_eq_some_iff_append.mp hfirst
  rw [hlist, mem_append] at he'
  apply hworse
  rcases he' with hmem | hmem
  · exact absurd hlive' (by simpa using hbefore e' hmem)
  · rcases mem_cons.mp hmem with rfl | hmem
    · exact ⟨Nat.le_refl _, fun _ => Nat.le_refl _, fun _ _ => Int.le_refl _⟩
    · rw [Ordered, hlist, pairwise_append] at h
      have hprecedes := (pairwise_cons.mp h.2.1).1 e' hmem
      by_cases hlength : (t.heap e).prefixLength = (t.heap e').prefixLength
      · exact hprecedes.notWorse ⟨hlength, dest, hlive.1, hlive'.1⟩
      · exact ⟨hprecedes.prefixLength, fun heq => absurd heq hlength, fun heq => absurd heq hlength⟩

/-- In every run in which the routes that are changed in their places still fit there, the best route is found,
unless an expired route of another source gets in the way. -/
theorem run_exact_iff {S : StdSort} {heap : RouteRef → IPv6Route} {events : List Event}
    (hok : run S (init heap) events = .ok t) (hplace : InPlaceRun S (init heap) events) (dest : IPv6Address) :
    t.Exact dest ↔ ¬ t.Hangs dest := by
  have hordered : t.Ordered := run_ordered (t := init heap) List.Pairwise.nil hplace hok
  rw [exact_iff]
  exact and_iff_left hordered.not_overtaken

section Example

/-- Two routes to 5, of metrics 10 and 20. -/
def twoStaticRoutes : List Event := [.addStaticRoute 0 5 128 1 0 10, .addStaticRoute 1 5 128 2 0 20]

/-- A metric that keeps the first route in front. -/
theorem run_exact_in_place :
    ∃ t, run insertionSort emptyTable (twoStaticRoutes ++ [.setMetric 0 15, .elapse 50]) = .ok t ∧ t.Exact 5 := by
  obtain ⟨t, hrun, hlive⟩ :
      ∃ t, run insertionSort emptyTable (twoStaticRoutes ++ [.setMetric 0 15, .elapse 50]) = .ok t ∧
      ∀ e ∈ t.routeList, ¬ (t.heap e).isExpired t.simTime := by
    refine exists_ok (by decide) ?_
    decide
  refine ⟨t, hrun, (run_exact_iff hrun ?_ 5).mpr ?_⟩
  · refine ⟨trivial, fun t₁ h₁ => ⟨trivial, fun t₂ h₂ => ⟨?_, fun t₃ h₃ => ⟨trivial, fun _ _ => trivial⟩⟩⟩⟩
    have hlist : ∀ t₂, run insertionSort emptyTable twoStaticRoutes = .ok t₂ → t₂.routeList = [0, 1] ∧
        (t₂.heap 0).prefixLength = (t₂.heap 1).prefixLength ∧ (t₂.heap 0).adminDist = (t₂.heap 1).adminDist ∧
          (t₂.heap 1).metric = 20 := by
      decide
    obtain ⟨hroutes, hlength, hdist, hmetric⟩ := hlist t₂ (bind_ok.mpr ⟨t₁, h₁, bind_ok.mpr ⟨t₂, h₂, rfl⟩⟩)
    constructor
    · intro a ha
      rw [Before, hroutes, sublist_cons_iff] at ha
      rcases ha with ha | ⟨r, hr, ha⟩
      · have := ha.length_le
        simp at this
      · obtain ⟨-, rfl⟩ := List.cons.inj hr
        simp at ha
    · intro b hb _
      rw [Before, hroutes] at hb
      have hb' : b = 1 := by simpa using hb
      rw [hb']
      have hle : (15 : Int) ≤ (t₂.heap 1).metric := by
        rw [hmetric]
        decide
      exact ⟨hlength.ge, fun _ => hdist.le, fun _ _ => hle⟩
  · rintro ⟨before, e, after, hroutes, -, -, hexp, -⟩
    exact hlive e (by rw [hroutes]; simp) hexp

/-- On an advertised prefix of its own that has expired the router searches forever, and a metric that is changed
leaves the route in front. -/
theorem search_not_exact :
    (∃ t, run insertionSort emptyTable [.addOrUpdateOwnAdvPrefix 0 5 128 1 5, .elapse 10] = .ok t ∧
      t.doLongestPrefixMatch 5 = .error .diverges ∧ ¬ t.Exact 5) ∧
    ∃ t, run insertionSort emptyTable (twoStaticRoutes ++ [.setMetric 0 30]) = .ok t ∧
      (t.doLongestPrefixMatch 5).map Prod.fst = .ok (some 0) ∧ ¬ t.Exact 5 := by
  constructor
  · obtain ⟨t, hrun, hfst⟩ :
        ∃ t, run insertionSort emptyTable [.addOrUpdateOwnAdvPrefix 0 5 128 1 5, .elapse 10] = .ok t ∧
        (t.doLongestPrefixMatch 5).map Prod.fst = .error .diverges := by
      refine exists_ok (by decide) ?_
      decide
    have hsearch : t.doLongestPrefixMatch 5 = .error .diverges := by
      cases hres : t.doLongestPrefixMatch 5 with
      | error err =>
        rw [hres] at hfst
        cases hfst
        rfl
      | ok out =>
        rw [hres] at hfst
        cases hfst
    refine ⟨t, hrun, hsearch, ?_⟩
    rintro ⟨res, t', hok, -⟩
    rw [hsearch] at hok
    cases hok
  · obtain ⟨t, hrun, hfst, hmem, hmatch, hlive, hlength, hdist, hmetric⟩ :
        ∃ t, run insertionSort emptyTable (twoStaticRoutes ++ [.setMetric 0 30]) = .ok t ∧
          (t.doLongestPrefixMatch 5).map Prod.fst = .ok (some 0) ∧ 1 ∈ t.routeList ∧
          (t.heap 1).matchesAddr 5 = true ∧ ¬ (t.heap 1).isExpired t.simTime ∧
          (t.heap 0).prefixLength = (t.heap 1).prefixLength ∧ (t.heap 0).adminDist = (t.heap 1).adminDist ∧
          (t.heap 1).metric < (t.heap 0).metric := by
      refine exists_ok (by decide) ?_
      decide
    refine ⟨t, hrun, hfst, ?_⟩
    rintro ⟨res, t', hok, hanswers⟩
    rw [hok] at hfst
    have hres : res = some 0 := Except.ok.inj hfst
    have hworse := (hanswers.best 0 hres).2.2 1 hmem ⟨hmatch, hlive⟩
    exact absurd (hworse.metric hlength hdist) (by omega)

end Example

end RoutingTable6

end Inet.Ipv6
