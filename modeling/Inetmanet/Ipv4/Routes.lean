import Inetmanet.Ipv4.LongestPrefixMatch

/-!
# The set of routes

Which routes are in the table after an operation, whatever their order.
-/
namespace Inet.Ipv4

open List

namespace RoutingTable

variable {t t' : RoutingTable} {e : RouteRef}

/-- The default route that gives way to `e`. -/
def replaced (t : RoutingTable) (e : RouteRef) : Option RouteRef :=
  if (t.heap e).netmask = 0 then t.getDefaultRoute else none

theorem mem_of_getDefaultRoute {old : RouteRef} (h : t.getDefaultRoute = some old) :
    old ∈ t.routes ∧ (t.heap old).netmask = 0 := by
  have hmem := mem_of_find?_eq_some h
  refine ⟨List.mem_reverse.mp (takeWhile_sublist _ |>.subset hmem), ?_⟩
  simpa using mem_takeWhile_imp hmem

theorem mem_of_replaced {old : RouteRef} (h : t.replaced e = some old) :
    old ∈ t.routes ∧ (t.heap old).netmask = 0 ∧ (t.heap e).netmask = 0 := by
  rw [replaced] at h
  split at h
  case isTrue hmask => exact ⟨(mem_of_getDefaultRoute h).1, (mem_of_getDefaultRoute h).2, hmask⟩
  case isFalse => cases h

section

variable (t)

theorem deleteRoute_heap (e : RouteRef) : (t.deleteRoute e).heap = t.heap := (deleteRoute_sub t e).2

theorem deleteRoute_simTime (e : RouteRef) : (t.deleteRoute e).simTime = t.simTime := by
  rw [deleteRoute, internalRemoveRoute]
  by_cases he : e ∈ t.routes
  · rw [if_pos he]
    rfl
  · rw [if_neg he]

theorem deleteRoute_routes (e : RouteRef) : (t.deleteRoute e).routes = t.routes.erase e := by
  rw [deleteRoute, internalRemoveRoute]
  by_cases he : e ∈ t.routes
  · rw [if_pos he]
    rfl
  · rw [if_neg he, erase_of_not_mem he]

theorem replaceDefaultRoute_eq (e : RouteRef) :
    t.replaceDefaultRoute e = match t.replaced e with
      | none => t
      | some old => t.deleteRoute old := by
  rw [replaceDefaultRoute, replaced]
  by_cases hmask : (t.heap e).netmask = 0
  · cases t.getDefaultRoute <;> simp only [if_pos hmask]
  · rw [if_neg hmask, if_neg hmask]

end

/-- What is known of a table into which a route has been put. -/
structure Added (t : RoutingTable) (e : RouteRef) (t' : RoutingTable) : Prop where
  simTime : t'.simTime = t.simTime
  self : t'.heap e = { t.heap e with inTable := true }
  other : ∀ x, x ≠ e → t'.heap x = t.heap x
  routes : t'.routes.Perm (e :: match t.replaced e with
    | none => t.routes
    | some old => t.routes.erase old)
  prefixOnly : (t.heap e).PrefixOnly
  validNetmask : IPv4Address.isValidNetmask (t.heap e).netmask

theorem internalAddRoute_added (h : t.internalAddRoute e = .ok t') : t.Added e t' := by
  simp only [internalAddRoute, bind, Except.bind, pure, Except.pure, throw, throwThe, MonadExceptOf.throw] at h
  by_cases hmask : ¬ IPv4Address.isValidNetmask (t.heap e).netmask
  · rw [if_pos hmask] at h
    cases h
  by_cases hzero : (t.heap e).netmask ≠ 0 ∧ (t.heap e).dest &&& (t.heap e).netmask = 0
  · rw [if_neg hmask, if_pos hzero] at h
    cases h
  by_cases hp : (t.heap e).dest &&& ~~~(t.heap e).netmask ≠ 0
  · rw [if_neg hmask, if_neg hzero, if_pos hp] at h
    cases h
  by_cases hie : (t.heap e).interfacePtr = none
  · rw [if_neg hmask, if_neg hzero, if_neg hp, if_pos hie] at h
    cases h
  rw [if_neg hmask, if_neg hzero, if_neg hp, if_neg hie] at h
  cases h
  have hheap : (t.replaceDefaultRoute e).heap = t.heap := (replaceDefaultRoute_sub t e).2
  constructor
  · simp only [store, insertRoute, replaceDefaultRoute_eq]
    cases t.replaced e with
    | none => rfl
    | some old => exact deleteRoute_simTime t old
  · rw [store_heap_self]
    simp only [insertRoute, hheap]
  · intro x hx
    rw [store_heap_of_ne _ _ hx]
    simp only [insertRoute, hheap]
  · refine (UpperBound.insert_perm _ _ _).trans ?_
    rw [replaceDefaultRoute_eq]
    cases t.replaced e with
    | none => rfl
    | some old => simp only [deleteRoute_routes, List.Perm.refl]
  · exact not_not.mp hp
  · exact not_not.mp hmask

theorem Added.invalidateCache (h : t.Added e t') : t.Added e t'.invalidateCache :=
  ⟨h.simTime, h.self, h.other, h.routes, h.prefixOnly, h.validNetmask⟩

theorem addRoute_added (h : t.addRoute e = .ok t') : t.Added e t' := by
  obtain ⟨t₁, hadd, hok⟩ := bind_ok.mp h
  cases hok
  exact (internalAddRoute_added hadd).invalidateCache

theorem Added.mem_iff (h : t.Added e t') (hnodup : t.routes.Nodup) (x : RouteRef) :
    x ∈ t'.routes ↔ x = e ∨ (x ∈ t.routes ∧ t.replaced e ≠ some x) := by
  rw [h.routes.mem_iff, mem_cons]
  cases t.replaced e with
  | none => simp
  | some old =>
    rw [hnodup.mem_erase_iff]
    simp only [ne_eq, Option.some.injEq]
    constructor
    · rintro (rfl | ⟨hne, hx⟩)
      · exact .inl rfl
      · exact .inr ⟨hx, fun heq => hne heq.symm⟩
    · rintro (rfl | ⟨hx, hne⟩)
      · exact .inl rfl
      · exact .inr ⟨fun heq => hne heq.symm, hx⟩

theorem Added.nodup (h : t.Added e t') (hnodup : t.routes.Nodup) (he : e ∉ t.routes) : t'.routes.Nodup := by
  rw [h.routes.nodup_iff, nodup_cons]
  cases t.replaced e with
  | none => exact ⟨he, hnodup⟩
  | some old => exact ⟨fun hmem => he (mem_of_mem_erase hmem), hnodup.erase old⟩

/-- Whether the object is in the table is no field of its route. -/
theorem change_cases {r : IPv4Route} {fieldCode : FieldCode} (h : t.change e r fieldCode = .ok t') :
    (r = t.heap e ∧ t' = t) ∨
    (r ≠ t.heap e ∧ ((t.heap e).inTable = false ∨
        ¬ (fieldCode = .F_DESTINATION ∨ fieldCode = .F_NETMASK ∨ fieldCode = .F_METRIC)) ∧ t' = t.store e r) ∨
    (r ≠ t.heap e ∧ (t.heap e).inTable = true ∧
      (fieldCode = .F_DESTINATION ∨ fieldCode = .F_NETMASK ∨ fieldCode = .F_METRIC) ∧ e ∈ t.routes ∧
      ({ t.store e r with routes := t.routes.erase e } : RoutingTable).Added e t') := by
  rw [change] at h
  by_cases hsame : r = t.heap e
  · rw [if_pos hsame] at h
    cases h
    exact .inl ⟨hsame, rfl⟩
  rw [if_neg hsame] at h
  by_cases hin : (t.heap e).inTable = true
  · rw [if_pos hin, routeChanged] at h
    by_cases hcode : fieldCode = .F_DESTINATION ∨ fieldCode = .F_NETMASK ∨ fieldCode = .F_METRIC
    · rw [if_pos hcode, internalRemoveRoute] at h
      by_cases hmem : e ∈ t.routes
      · rw [if_pos (show e ∈ (t.store e r).routes from hmem)] at h
        obtain ⟨t₁, hadd, hok⟩ := bind_ok.mp h
        cases hok
        exact .inr (.inr ⟨hsame, hin, hcode, hmem, (internalAddRoute_added hadd).invalidateCache⟩)
      · rw [if_neg (show e ∉ (t.store e r).routes from hmem)] at h
        cases h
    · rw [if_neg hcode] at h
      cases h
      exact .inr (.inl ⟨hsame, .inr hcode, rfl⟩)
  · rw [if_neg hin] at h
    cases h
    exact .inr (.inl ⟨hsame, .inl (by simpa using hin), rfl⟩)

theorem change_simTime {r : IPv4Route} {fieldCode : FieldCode} (h : t.change e r fieldCode = .ok t') :
    t'.simTime = t.simTime := by
  rcases change_cases h with ⟨-, rfl⟩ | ⟨-, -, rfl⟩ | ⟨-, -, -, -, hadd⟩
  · rfl
  · rfl
  · exact hadd.simTime

theorem setInterface_simTime {ie : Option InterfaceRef} (h : t.setInterface e ie = .ok t') : t'.simTime = t.simTime := by
  rw [setInterface] at h
  exact change_simTime h

theorem setMetric_simTime {metric : Int} (h : t.setMetric e metric = .ok t') : t'.simTime = t.simTime := by
  rw [setMetric] at h
  exact change_simTime h

end RoutingTable

end Inet.Ipv4
