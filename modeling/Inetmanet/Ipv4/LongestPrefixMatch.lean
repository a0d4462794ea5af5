import Inetmanet.Ipv4.RoutingTable

/-!
# The best matching route

The vector of routes is sorted by `routeLessThan`, so that the first match is the
best one, and the cache answers as the scan of the vector would.
-/
namespace Inet.Ipv4

open List BitVec IPv4Address

variable {r r' : IPv4Route}

namespace IPv4Route

/-- What routes are sorted by: longer netmasks first, the other fields in ascending order. -/
def key (r : IPv4Route) : Natᵒᵈ ×ₗ Nat ×ₗ Nat ×ₗ Int :=
  toLex (OrderDual.toDual r.netmask.toNat, toLex (r.dest.toNat, toLex (r.adminDist, r.metric)))

/-- The administrative distance first, then the metric. -/
def cost (r : IPv4Route) : Nat ×ₗ Int := toLex (r.adminDist, r.metric)

/-- Nothing of the destination is outside of the netmask. -/
def PrefixOnly (r : IPv4Route) : Prop := r.dest &&& ~~~r.netmask = 0

/-- Fields that decide where a route stands and what it matches. -/
structure SamePlace (r r' : IPv4Route) : Prop where
  dest : r'.dest = r.dest
  netmask : r'.netmask = r.netmask
  adminDist : r'.adminDist = r.adminDist
  metric : r'.metric = r.metric
  inTable : r'.inTable = r.inTable
  expiryTime : r'.expiryTime = r.expiryTime

theorem SamePlace.key (h : SamePlace r r') : r'.key = r.key := by
  simp only [IPv4Route.key, h.netmask, h.dest, h.adminDist, h.metric]

end IPv4Route

open IPv4Route

theorem routeLessThan_iff (a b : IPv4Route) : routeLessThan a b = true ↔ a.key < b.key := by
  rw [routeLessThan, IPv4Route.key, IPv4Route.key, Prod.Lex.toLex_lt_toLex, Prod.Lex.toLex_lt_toLex,
    Prod.Lex.toLex_lt_toLex, OrderDual.toDual_lt_toDual, OrderDual.toDual_inj]
  by_cases hmask : a.netmask = b.netmask
  · by_cases hdest : a.dest = b.dest
    · by_cases hdist : a.adminDist = b.adminDist
      · simp [hmask, hdest, hdist]
      · simp [hmask, hdest, hdist]
    · have hne : ¬ a.dest.toNat = b.dest.toNat := fun h => hdest (eq_of_toNat_eq h)
      simp [hmask, hdest, hne, lt_def]
  · have hne : ¬ a.netmask.toNat = b.netmask.toNat := fun h => hmask (eq_of_toNat_eq h)
    simp [hmask, hne, lt_def]

/-- Longer netmasks are the greater ones. -/
theorem _makeNetmask_lt : ∀ a b : Fin 33, a < b →
    _makeNetmask a.val < _makeNetmask b.val := by decide

theorem getNetmaskLength_le (addr : IPv4Address) : getNetmaskLength addr < 33 := by
  rw [getNetmaskLength]
  split <;> omega

theorem getNetmaskLength_mono {m m' : IPv4Address} (h : isValidNetmask m)
    (h' : isValidNetmask m') (hle : m' ≤ m) :
    getNetmaskLength m' ≤ getNetmaskLength m := by
  by_contra hlt
  have hmask := _makeNetmask_lt ⟨_, getNetmaskLength_le m⟩ ⟨_, getNetmaskLength_le m'⟩ (Nat.not_le.mp hlt)
  rw [← h, ← h'] at hmask
  rw [lt_def] at hmask
  rw [le_def] at hle
  omega

/-- Of routes that match one address with equal netmasks, the destinations are equal. -/
theorem eq_dest_of_matches {dest : IPv4Address} (h : r.matchesAddr dest)
    (h' : r'.matchesAddr dest) (hmask : r'.netmask = r.netmask) (hp : r.PrefixOnly) (hp' : r'.PrefixOnly) :
    r'.dest = r.dest := by
  rw [matchesAddr, maskedAddrAreEqual] at h h'
  rw [PrefixOnly] at hp hp'
  apply eq_of_getLsbD_eq
  intro i hi
  have hbit := congrArg (fun v : IPv4Address => v.getLsbD i) h
  have hbit' := congrArg (fun v : IPv4Address => v.getLsbD i) h'
  have hout := congrArg (fun v : IPv4Address => v.getLsbD i) hp
  have hout' := congrArg (fun v : IPv4Address => v.getLsbD i) hp'
  simp only [getLsbD_and, getLsbD_xor, getLsbD_not, hi, decide_true, Bool.true_and] at *
  cases hm : r.netmask.getLsbD i <;> simp_all

namespace RoutingTable

/-- What `findBestMatchingRoute` is to return. -/
def Best (t : RoutingTable) (dest : IPv4Address) : Option RouteRef → Prop
  | none => ∀ e ∈ t.routes, ¬ ((t.heap e).isValid t.simTime = true ∧ (t.heap e).matchesAddr dest)
  | some e => e ∈ t.routes ∧ (t.heap e).isValid t.simTime = true ∧ (t.heap e).matchesAddr dest ∧
      ∀ e' ∈ t.routes, (t.heap e').isValid t.simTime = true → (t.heap e').matchesAddr dest →
        (t.heap e').netmask ≤ (t.heap e).netmask ∧
        (IPv4Address.isValidNetmask (t.heap e).netmask → IPv4Address.isValidNetmask (t.heap e').netmask →
          IPv4Address.getNetmaskLength (t.heap e').netmask ≤ IPv4Address.getNetmaskLength (t.heap e).netmask) ∧
        ((t.heap e').netmask = (t.heap e).netmask → (t.heap e).cost ≤ (t.heap e').cost)

instance (t : RoutingTable) (dest : IPv4Address) : ∀ a, Decidable (t.Best dest a)
  | none => inferInstanceAs (Decidable (∀ e ∈ t.routes, _))
  | some e => inferInstanceAs (Decidable (e ∈ t.routes ∧ _))

def Sorted (t : RoutingTable) : Prop := t.routes.Pairwise fun a b => t.less b a = false
deriving Decidable

/-- The routes are in order. -/
structure Ordered (t : RoutingTable) : Prop where
  sorted : t.routes.Pairwise fun a b => (t.heap a).key ≤ (t.heap b).key
  nodup : t.routes.Nodup
  prefixes : ∀ e ∈ t.routes, (t.heap e).PrefixOnly
  flagged : ∀ e ∈ t.routes, (t.heap e).inTable = true

/-- A cached answer is that of a scan, or a route that has expired. -/
def Coherent (t : RoutingTable) : Prop :=
  ∀ dest a, t.routingCache dest = some a →
    a = t.scan dest ∨ ∃ e, a = some e ∧ (t.heap e).isValid t.simTime = false

structure Consistent (t : RoutingTable) : Prop extends Ordered t where
  coherent : t.Coherent

theorem less_iff (t : RoutingTable) (a b : RouteRef) : t.less a b = true ↔ (t.heap a).key < (t.heap b).key :=
  routeLessThan_iff _ _

theorem sorted_iff (t : RoutingTable) :
    t.Sorted ↔ t.routes.Pairwise fun a b => (t.heap a).key ≤ (t.heap b).key := by
  have hrel : (fun a b => t.less b a = false) = fun a b => (t.heap a).key ≤ (t.heap b).key := by
    funext a b
    rw [← Bool.not_eq_true, less_iff, not_lt]
  rw [Sorted, hrel]

variable {t t' : RoutingTable} {e : RouteRef}

/-- The first route that matches is the best one. -/
theorem Ordered.best (h : t.Ordered) (dest : IPv4Address) : t.Best dest (t.scan dest) := by
  cases hscan : t.scan dest with
  | none =>
    intro e he hcand
    have hnone := find?_eq_none.mp hscan e he
    simp [candidate, hcand.1, hcand.2] at hnone
  | some e =>
    obtain ⟨hcand, front, back, hsplit, hfront⟩ := find?_eq_some_iff_append.mp hscan
    simp only [candidate, Bool.and_eq_true, decide_eq_true_eq] at hcand
    have hmem : e ∈ t.routes := by simp [hsplit]
    refine ⟨hmem, hcand.1, hcand.2, fun e' he' hvalid' hmatch' => ?_⟩
    have hsorted := h.sorted
    rw [hsplit, pairwise_append, pairwise_cons] at hsorted
    have hkey : (t.heap e).key ≤ (t.heap e').key := by
      rw [hsplit, mem_append, mem_cons] at he'
      rcases he' with hbefore | rfl | hafter
      · have hnot := hfront e' hbefore
        simp [candidate, hvalid', hmatch'] at hnot
      · exact le_refl _
      · exact hsorted.2.1.1 e' hafter
    rw [IPv4Route.key, IPv4Route.key, Prod.Lex.toLex_le_toLex, Prod.Lex.toLex_le_toLex] at hkey
    simp only [OrderDual.toDual_lt_toDual, OrderDual.toDual_inj] at hkey
    have hmask : (t.heap e').netmask ≤ (t.heap e).netmask := by
      rw [le_def]
      omega
    refine ⟨hmask, fun hv hv' => getNetmaskLength_mono hv hv' hmask, fun heq => ?_⟩
    have hdest := eq_dest_of_matches hcand.2 hmatch' heq (h.prefixes e hmem) (h.prefixes e' he')
    simp only [heq, hdest, lt_irrefl, true_and, false_or] at hkey
    exact hkey

theorem Consistent.findBestMatchingRoute_eq (h : t.Consistent) (dest : IPv4Address) :
    (t.findBestMatchingRoute dest).1 = t.scan dest := by
  rw [findBestMatchingRoute]
  cases hcache : t.routingCache dest with
  | none => rfl
  | some a =>
    have hco := h.coherent dest a hcache
    cases a with
    | none =>
      rcases hco with heq | ⟨e, he, -⟩
      · exact heq
      · cases he
    | some e =>
      by_cases hvalid : (t.heap e).isValid t.simTime = true
      · simp only [hvalid, if_true]
        rcases hco with heq | ⟨e', he', hexpired⟩
        · exact heq
        · cases he'
          rw [hvalid] at hexpired
          cases hexpired
      · simp only [hvalid, if_false, Bool.false_eq_true]

theorem Ordered.invalidate (h : t.Ordered) : t.invalidateCache.Consistent :=
  { h with coherent := fun _ _ hnone => by cases hnone }

/-- Only the routes in the table matter. -/
theorem Ordered.congr (h : t.Ordered) (hroutes : t'.routes = t.routes)
    (hsame : ∀ e ∈ t.routes, SamePlace (t.heap e) (t'.heap e)) : t'.Ordered where
  sorted := by
    rw [hroutes]
    refine h.sorted.imp_of_mem fun ha hb hab => ?_
    rw [(hsame _ ha).key, (hsame _ hb).key]
    exact hab
  nodup := hroutes ▸ h.nodup
  prefixes e he := by
    rw [hroutes] at he
    rw [PrefixOnly, (hsame e he).dest, (hsame e he).netmask]
    exact h.prefixes e he
  flagged e he := by
    rw [hroutes] at he
    rw [(hsame e he).inTable]
    exact h.flagged e he

theorem Ordered.sublist (h : t.Ordered) {l : List RouteRef} (hl : l.Sublist t.routes) :
    ({ t with routes := l } : RoutingTable).Ordered where
  sorted := h.sorted.sublist hl
  nodup := h.nodup.sublist hl
  prefixes e he := h.prefixes e (hl.subset he)
  flagged e he := h.flagged e (hl.subset he)

theorem store_heap_self (t : RoutingTable) (e : RouteRef) (r : IPv4Route) : (t.store e r).heap e = r := by
  simp [store]

theorem store_heap_of_ne (t : RoutingTable) (r : IPv4Route) {e' : RouteRef} (h : e' ≠ e) :
    (t.store e r).heap e' = t.heap e' := by simp [store, h]

theorem Ordered.store_other (h : t.Ordered) (he : e ∉ t.routes) (r : IPv4Route) : (t.store e r).Ordered := by
  refine Ordered.congr h ?_ fun e' he' => ?_
  · rfl
  · rw [store_heap_of_ne t r (ne_of_mem_of_not_mem he' he)]
    exact ⟨rfl, rfl, rfl, rfl, rfl, rfl⟩

/-- A route finds its place. -/
theorem Ordered.insertRoute (h : t.Ordered) (he : e ∉ t.routes) (hp : (t.heap e).PrefixOnly)
    (hin : (t.heap e).inTable = true) : (t.insertRoute e).Ordered where
  sorted := UpperBound.insert_sorted t.less_iff e h.sorted
  nodup := ((UpperBound.insert_perm t.less t.routes e).nodup_iff).mpr (nodup_cons.mpr ⟨he, h.nodup⟩)
  prefixes e' he' := by
    rcases UpperBound.mem_insert.mp he' with rfl | hmem
    · exact hp
    · exact h.prefixes e' hmem
  flagged e' he' := by
    rcases UpperBound.mem_insert.mp he' with rfl | hmem
    · exact hin
    · exact h.flagged e' hmem

theorem internalRemoveRoute_eq_some (h : t.internalRemoveRoute e = some t') :
    e ∈ t.routes ∧ t' = { t with routes := t.routes.erase e } := by
  rw [internalRemoveRoute] at h
  split at h
  case isTrue hmem => exact ⟨hmem, (Option.some.inj h).symm⟩
  case isFalse => cases h

theorem Ordered.erase (h : t.Ordered) (e : RouteRef) :
    ({ t with routes := t.routes.erase e } : RoutingTable).Ordered := h.sublist erase_sublist

theorem Ordered.deleteRoute (h : t.Ordered) (e : RouteRef) : (t.deleteRoute e).Ordered := by
  rw [RoutingTable.deleteRoute]
  cases hrem : t.internalRemoveRoute e with
  | none => exact h
  | some t' =>
    obtain ⟨-, rfl⟩ := internalRemoveRoute_eq_some hrem
    exact (h.erase e).invalidate.toOrdered

/-- Deleting takes one route out, and touches no object. -/
theorem deleteRoute_sub (t : RoutingTable) (e : RouteRef) :
    (∀ e' ∈ (t.deleteRoute e).routes, e' ∈ t.routes) ∧ (t.deleteRoute e).heap = t.heap := by
  rw [RoutingTable.deleteRoute]
  cases hrem : t.internalRemoveRoute e with
  | none => exact ⟨fun _ h => h, rfl⟩
  | some t' =>
    obtain ⟨-, rfl⟩ := internalRemoveRoute_eq_some hrem
    exact ⟨fun _ h => mem_of_mem_erase h, rfl⟩

theorem replaceDefaultRoute_sub (t : RoutingTable) (e : RouteRef) :
    (∀ e' ∈ (t.replaceDefaultRoute e).routes, e' ∈ t.routes) ∧ (t.replaceDefaultRoute e).heap = t.heap := by
  rw [replaceDefaultRoute]
  split
  · split
    · exact ⟨fun _ h => h, rfl⟩
    · exact deleteRoute_sub t _
  · exact ⟨fun _ h => h, rfl⟩

theorem Ordered.replaceDefaultRoute (h : t.Ordered) (e : RouteRef) : (t.replaceDefaultRoute e).Ordered := by
  rw [RoutingTable.replaceDefaultRoute]
  split
  · split
    · exact h
    · exact h.deleteRoute _
  · exact h

/-- Whether a route is in the table does not decide its place. -/
theorem less_store_inTable (t : RoutingTable) (e : RouteRef) (b : Bool) :
    (t.store e { t.heap e with inTable := b }).less = t.less := by
  funext x y
  have hfield : ∀ z, ((t.store e { t.heap e with inTable := b }).heap z).key = (t.heap z).key := by
    intro z
    by_cases hz : z = e
    · rw [hz, store_heap_self]
      rfl
    · rw [store_heap_of_ne t _ hz]
  rw [Bool.eq_iff_iff, less_iff, less_iff, hfield, hfield]

theorem Ordered.internalAddRoute (h : t.Ordered) (he : e ∉ t.routes) (hok : t.internalAddRoute e = .ok t') :
    t'.Ordered := by
  simp only [RoutingTable.internalAddRoute, bind, Except.bind, pure, Except.pure, throw,
    throwThe, MonadExceptOf.throw] at hok
  by_cases hmask : ¬ isValidNetmask (t.heap e).netmask
  · rw [if_pos hmask] at hok
    cases hok
  by_cases hzero : (t.heap e).netmask ≠ 0 ∧ (t.heap e).dest &&& (t.heap e).netmask = 0
  · rw [if_neg hmask, if_pos hzero] at hok
    cases hok
  by_cases hp : (t.heap e).dest &&& ~~~(t.heap e).netmask ≠ 0
  · rw [if_neg hmask, if_neg hzero, if_pos hp] at hok
    cases hok
  by_cases hie : (t.heap e).interfacePtr = none
  · rw [if_neg hmask, if_neg hzero, if_neg hp, if_pos hie] at hok
    cases hok
  rw [if_neg hmask, if_neg hzero, if_neg hp, if_neg hie] at hok
  cases hok
  obtain ⟨hsub, hheap⟩ := replaceDefaultRoute_sub t e
  have he' : e ∉ (t.replaceDefaultRoute e).routes := fun hmem => he (hsub e hmem)
  have hord := (h.replaceDefaultRoute e).store_other he' { (t.replaceDefaultRoute e).heap e with inTable := true }
  have hins := hord.insertRoute (e := e) he' (by
    rw [store_heap_self, hheap]
    exact not_not.mp hp) (by rw [store_heap_self])
  apply hins.congr
  · simp only [RoutingTable.insertRoute, less_store_inTable]
    rfl
  · intro e' _
    exact ⟨rfl, rfl, rfl, rfl, rfl, rfl⟩

theorem Ordered.routeChanged (h : t.Ordered) (hmem : e ∈ t.routes)
    (hok : (match (t.store e r).internalRemoveRoute e with
      | none => (.error (.assertion "entry != NULL") : Sim RoutingTable)
      | some t => do return (← t.internalAddRoute e).invalidateCache) = .ok t') : t'.Consistent := by
  have hrem : (t.store e r).internalRemoveRoute e =
      some (({ t with routes := t.routes.erase e } : RoutingTable).store e r) := by
    rw [internalRemoveRoute, if_pos (show e ∈ (t.store e r).routes from hmem)]
    rfl
  rw [hrem] at hok
  have he : e ∉ t.routes.erase e := fun hin => (Nodup.mem_erase_iff h.nodup).mp hin |>.1 rfl
  obtain ⟨t₁, hadd, hok⟩ := bind_ok.mp hok
  cases hok
  exact (((h.erase e).store_other he r).internalAddRoute he hadd).invalidate

/-- A scan sees only the fields that decide what a route matches. -/
theorem scan_congr (hroutes : t'.routes = t.routes) (htime : t'.simTime = t.simTime)
    (hsame : ∀ e ∈ t.routes, (t'.heap e).dest = (t.heap e).dest ∧ (t'.heap e).netmask = (t.heap e).netmask ∧
      (t'.heap e).expiryTime = (t.heap e).expiryTime) (dest : IPv4Address) : t'.scan dest = t.scan dest := by
  have hcand : ∀ e ∈ t.routes, t'.candidate dest e = t.candidate dest e := by
    intro e he
    obtain ⟨hdest, hmask, hexp⟩ := hsame e he
    simp only [candidate, isValid, hexp, htime]
    congr 1
    rw [decide_eq_decide, matchesAddr, matchesAddr, hdest, hmask]
  rw [scan, scan, hroutes, ← head?_filter, ← head?_filter, filter_congr hcand]

theorem Coherent.congr (h : t.Coherent) (hroutes : t'.routes = t.routes) (htime : t'.simTime = t.simTime)
    (hcache : t'.routingCache = t.routingCache)
    (hsame : ∀ e ∈ t.routes, (t'.heap e).dest = (t.heap e).dest ∧ (t'.heap e).netmask = (t.heap e).netmask ∧
      (t'.heap e).expiryTime = (t.heap e).expiryTime)
    (hexp : ∀ e, (t'.heap e).expiryTime = (t.heap e).expiryTime) : t'.Coherent := by
  intro dest a ha
  rw [hcache] at ha
  rcases h dest a ha with heq | ⟨e, he, hexpired⟩
  · left
    rw [heq, scan_congr hroutes htime hsame]
  · refine .inr ⟨e, he, ?_⟩
    rw [isValid, hexp, htime]
    exact hexpired

section

variable (h : t.Consistent)
include h

/-- A change of a field that the table does not depend on. -/
theorem Consistent.store_same (hr : SamePlace (t.heap e) r) :
    (t.store e r).Consistent := by
  have hsame : ∀ e', SamePlace (t.heap e') ((t.store e r).heap e') := by
    intro e'
    by_cases heq : e' = e
    · rw [heq, store_heap_self]
      exact hr
    · rw [store_heap_of_ne t r heq]
      exact ⟨rfl, rfl, rfl, rfl, rfl, rfl⟩
  have hord : (t.store e r).Ordered := h.toOrdered.congr rfl fun e' _ => hsame e'
  exact { hord with
    coherent := h.coherent.congr rfl rfl rfl
      (fun e' _ => ⟨(hsame e').dest, (hsame e').netmask, (hsame e').expiryTime⟩) fun e' => (hsame e').expiryTime }

/-- A change of an object that is not in the table. -/
theorem Consistent.store_outside (he : e ∉ t.routes)
    (hexp : r.expiryTime = (t.heap e).expiryTime) : (t.store e r).Consistent := by
  have hord := h.toOrdered.store_other he r
  refine { hord with coherent := h.coherent.congr rfl rfl rfl (fun e' he' => ?_) fun e' => ?_ }
  · rw [store_heap_of_ne t r (ne_of_mem_of_not_mem he' he)]
    exact ⟨rfl, rfl, rfl⟩
  · by_cases heq : e' = e
    · rw [heq, store_heap_self, hexp]
    · rw [store_heap_of_ne t r heq]

/-- A setter of a field that the place of the route depends on. -/
theorem Consistent.change_key {fieldCode : FieldCode}
    (hexp : r.expiryTime = (t.heap e).expiryTime)
    (hcode : fieldCode = .F_DESTINATION ∨ fieldCode = .F_NETMASK ∨ fieldCode = .F_METRIC)
    (hok : t.change e r fieldCode = .ok t') : t'.Consistent := by
  rw [change] at hok
  by_cases hsame : r = t.heap e
  · rw [if_pos hsame] at hok
    cases hok
    exact h
  by_cases hin : (t.heap e).inTable = true
  · rw [if_neg hsame, if_pos hin, RoutingTable.routeChanged, if_pos hcode] at hok
    by_cases hmem : e ∈ t.routes
    · exact h.toOrdered.routeChanged hmem hok
    · -- the route was deleted
      rw [internalRemoveRoute, if_neg (show e ∉ (t.store e r).routes from hmem)] at hok
      cases hok
  · rw [if_neg hsame, if_neg hin] at hok
    cases hok
    exact h.store_outside (fun hmem => hin (h.flagged e hmem)) hexp

/-- A setter of a field that the table does not depend on. -/
theorem Consistent.change_other {fieldCode : FieldCode}
    (hcode : ¬ (fieldCode = .F_DESTINATION ∨ fieldCode = .F_NETMASK ∨ fieldCode = .F_METRIC))
    (hr : (t.store e r).Consistent) (hok : t.change e r fieldCode = .ok t') : t'.Consistent := by
  rw [change] at hok
  by_cases hsame : r = t.heap e
  · rw [if_pos hsame] at hok
    cases hok
    exact h
  by_cases hin : (t.heap e).inTable = true
  · rw [if_neg hsame, if_pos hin, RoutingTable.routeChanged, if_neg hcode] at hok
    cases hok
    exact hr
  · rw [if_neg hsame, if_neg hin] at hok
    cases hok
    exact hr

end

theorem Ordered.keepRoutes (h : t.Ordered) (keep : IPv4Route → Bool) : (t.keepRoutes keep).Ordered :=
  h.sublist filter_sublist

theorem Consistent.deleteInterfaceRoutes (h : t.Consistent) (ie : InterfaceRef) :
    (t.deleteInterfaceRoutes ie).Consistent := by
  rw [RoutingTable.deleteInterfaceRoutes]
  split
  · exact (h.toOrdered.keepRoutes _).invalidate
  · exact h

theorem Consistent.purge (h : t.Consistent) : t.purge.Consistent := by
  rw [RoutingTable.purge]
  split
  · exact (h.toOrdered.keepRoutes _).invalidate
  · exact h

theorem netmaskRoute_prefixOnly {i : InterfaceTableEntry} (h : netmaskRoute i = some r) :
    r.PrefixOnly ∧ r.inTable = true := by
  rw [netmaskRoute] at h
  split at h
  · cases h
  · split at h
    · cases h
    · cases h
      refine ⟨?_, rfl⟩
      simp [PrefixOnly, BitVec.and_assoc]

/-- References paired with new objects are a part of the references. -/
theorem map_fst_zip_sublist {α β : Type} (l : List α) (l' : List β) : ((l.zip l').map Prod.fst).Sublist l := by
  induction l generalizing l' with
  | nil => exact nil_sublist _
  | cons a l ih =>
    cases l' with
    | nil => exact nil_sublist _
    | cons b l' => exact (ih l').cons_cons a

theorem Ordered.insertNew (h : t.Ordered) (l : List (RouteRef × IPv4Route)) (hnodup : (l.map Prod.fst).Nodup)
    (hfresh : ∀ p ∈ l, p.1 ∉ t.routes) (hl : ∀ p ∈ l, p.2.PrefixOnly ∧ p.2.inTable = true) :
    (t.insertNew l).Ordered := by
  induction l generalizing t with
  | nil => exact h
  | cons p l ih =>
    obtain ⟨e, r⟩ := p
    have he : e ∉ t.routes := hfresh (e, r) mem_cons_self
    obtain ⟨hp, hin⟩ := hl (e, r) mem_cons_self
    rw [map_cons, nodup_cons] at hnodup
    have hins := (h.store_other he r).insertRoute (e := e) he
      (by rw [store_heap_self]; exact hp) (by rw [store_heap_self]; exact hin)
    refine ih hins hnodup.2 (fun p hmem hp => ?_) fun p hmem => hl p (mem_cons_of_mem _ hmem)
    rcases UpperBound.mem_insert.mp hp with heq | hold
    · exact hnodup.1 (mem_map.mpr ⟨p, hmem, heq⟩)
    · exact hfresh p (mem_cons_of_mem _ hmem) hold

theorem Ordered.updateNetmaskRoutes (h : t.Ordered) {refs : List RouteRef} (hnodup : refs.Nodup)
    (hfresh : ∀ e ∈ refs, e ∉ t.routes) (ift : List InterfaceTableEntry) :
    (t.updateNetmaskRoutes refs ift).Consistent := by
  have hkept := h.keepRoutes fun r => r.sourceType ≠ .IFACENETMASK
  refine (hkept.insertNew _ ?_ (fun p hp hmem => ?_) fun p hp => ?_).invalidate
  · exact hnodup.sublist (map_fst_zip_sublist _ _)
  · exact hfresh p.1 (of_mem_zip hp).1 (mem_of_mem_filter hmem)
  · obtain ⟨i, -, hi⟩ := mem_filterMap.mp (of_mem_zip hp).2
    exact netmaskRoute_prefixOnly hi

inductive Call where
  | addRoute (e : RouteRef)
  | removeRoute (e : RouteRef)
  | deleteRoute (e : RouteRef)
  | setDestination (e : RouteRef) (dest : IPv4Address)
  | setNetmask (e : RouteRef) (netmask : IPv4Address)
  | setGateway (e : RouteRef) (gateway : IPv4Address)
  | setInterface (e : RouteRef) (interfacePtr : Option InterfaceRef)
  | setSourceType (e : RouteRef) (sourceType : SourceType)
  | setSource (e : RouteRef) (source : Option Source)
  | setAdminDist (e : RouteRef) (adminDist : Nat)
  | setMetric (e : RouteRef) (metric : Int)
  /-- `refs` are where the objects of new netmask routes are allocated. -/
  | receiveChangeNotification (refs : List RouteRef) (ift : List InterfaceTableEntry) (category : Notification)
  | purge
  | findBestMatchingRoute (dest : IPv4Address)
  /-- Time passes. -/
  | advance (time : Nat)

def step (t : RoutingTable) : Call → Sim RoutingTable
  | .addRoute e => t.addRoute e
  | .removeRoute e => .ok (t.removeRoute e)
  | .deleteRoute e => .ok (t.deleteRoute e)
  | .setDestination e dest => t.setDestination e dest
  | .setNetmask e netmask => t.setNetmask e netmask
  | .setGateway e gateway => t.setGateway e gateway
  | .setInterface e interfacePtr => t.setInterface e interfacePtr
  | .setSourceType e sourceType => t.setSourceType e sourceType
  | .setSource e source => t.setSource e source
  | .setAdminDist e adminDist => t.setAdminDist e adminDist
  | .setMetric e metric => t.setMetric e metric
  | .receiveChangeNotification refs ift category => .ok (t.receiveChangeNotification refs ift category)
  | .purge => .ok t.purge
  | .findBestMatchingRoute dest => .ok (t.findBestMatchingRoute dest).2
  | .advance time => .ok { t with simTime := t.simTime + time }

def run (t : RoutingTable) : List Call → Sim RoutingTable
  | [] => .ok t
  | c :: calls => do (← t.step c).run calls

/-- No route is added while it is in the table, and no change of the administrative distance
takes an installed route out of its place. New objects do not overlap the ones in the table. -/
def InPlace (t : RoutingTable) : Call → Prop
  | .addRoute e => e ∉ t.routes
  | .setAdminDist e adminDist => e ∈ t.routes → (t.store e { t.heap e with adminDist := adminDist }).Sorted
  | .receiveChangeNotification refs _ _ => refs.Nodup ∧ ∀ e ∈ refs, e ∉ t.routes
  | _ => True

instance (t : RoutingTable) (c : Call) : Decidable (t.InPlace c) := by
  cases c <;> simp only [InPlace] <;> infer_instance

/-- Every step of the run that is reached is in place. -/
def RunInPlace (t : RoutingTable) : List Call → Prop
  | [] => True
  | c :: calls => t.InPlace c ∧ ∀ t', t.step c = .ok t' → t'.RunInPlace calls

instance instDecidableRunInPlace (t : RoutingTable) : ∀ calls, Decidable (t.RunInPlace calls)
  | [] => isTrue trivial
  | c :: calls =>
    have := fun t' : RoutingTable => instDecidableRunInPlace t' calls
    inferInstanceAs (Decidable (t.InPlace c ∧ ∀ t', t.step c = .ok t' → t'.RunInPlace calls))

section

variable (h : t.Consistent)
include h

theorem Consistent.removeRoute (e : RouteRef) : (t.removeRoute e).Consistent := by
  rw [RoutingTable.removeRoute]
  cases hrem : t.internalRemoveRoute e with
  | none => exact h
  | some t' =>
    obtain ⟨-, rfl⟩ := internalRemoveRoute_eq_some hrem
    have he : e ∉ t.routes.erase e := fun hin => ((Nodup.mem_erase_iff h.nodup).mp hin).1 rfl
    exact (h.toOrdered.erase e).invalidate.store_outside he rfl

theorem Consistent.deleteRoute (e : RouteRef) : (t.deleteRoute e).Consistent := by
  rw [RoutingTable.deleteRoute]
  cases hrem : t.internalRemoveRoute e with
  | none => exact h
  | some t' =>
    obtain ⟨-, rfl⟩ := internalRemoveRoute_eq_some hrem
    exact (h.toOrdered.erase e).invalidate

theorem Consistent.findBestMatchingRoute (dest : IPv4Address) :
    (t.findBestMatchingRoute dest).2.Consistent := by
  have hmiss : ({ t with routingCache := Function.update t.routingCache dest (some (t.scan dest)) } :
      RoutingTable).Consistent := by
    have hord : ({ t with routingCache := Function.update t.routingCache dest (some (t.scan dest)) } :
        RoutingTable).Ordered := ⟨h.sorted, h.nodup, h.prefixes, h.flagged⟩
    refine { hord with coherent := fun dest' a ha => ?_ }
    by_cases hd : dest' = dest
    · have ha' : some (t.scan dest) = some a := by simpa [hd] using ha
      left
      rw [hd]
      exact (Option.some.inj ha').symm
    · have ha' : t.routingCache dest' = some a := by simpa [hd] using ha
      exact h.coherent dest' a ha'
  rw [RoutingTable.findBestMatchingRoute]
  cases t.routingCache dest with
  | none => exact hmiss
  | some a =>
    cases a with
    | none => exact h
    | some e =>
      by_cases hvalid : (t.heap e).isValid t.simTime = true
      · simp only [hvalid, if_true]
        exact h
      · simp only [hvalid, if_false, Bool.false_eq_true]
        exact hmiss

/-- As routes only expire, an answer stays right until it is not valid any more. -/
theorem Consistent.advance (time : Nat) :
    ({ t with simTime := t.simTime + time } : RoutingTable).Consistent := by
  have hord : ({ t with simTime := t.simTime + time } : RoutingTable).Ordered :=
    ⟨h.sorted, h.nodup, h.prefixes, h.flagged⟩
  have hvalid : ∀ e, (t.heap e).isValid (t.simTime + time) = true → (t.heap e).isValid t.simTime = true :=
    fun e => isValid_of_le (Nat.le_add_right _ _)
  refine { hord with coherent := fun dest a ha => ?_ }
  rcases h.coherent dest a ha with heq | ⟨e, he, hexpired⟩
  · cases a with
    | none =>
      left
      symm
      apply find?_eq_none.mpr
      intro e he hcand
      have hnone := find?_eq_none.mp heq.symm e he
      simp only [candidate, Bool.and_eq_true] at hcand hnone
      exact hnone ⟨hvalid e hcand.1, hcand.2⟩
    | some e =>
      by_cases hnow : (t.heap e).isValid (t.simTime + time) = true
      · left
        symm
        obtain ⟨hcand, front, back, hsplit, hfront⟩ := find?_eq_some_iff_append.mp heq.symm
        apply find?_eq_some_iff_append.mpr
        simp only [candidate, Bool.and_eq_true] at hcand
        refine ⟨by simp only [candidate, hnow, hcand.2, Bool.and_self], front, back, hsplit, fun e' he' => ?_⟩
        have hnot := hfront e' he'
        simp only [candidate, Bool.not_eq_true', Bool.and_eq_false_iff] at hnot ⊢
        rcases hnot with hinvalid | hno
        · left
          by_contra hne
          rw [hvalid e' (by simpa using hne)] at hinvalid
          cases hinvalid
        · exact .inr hno
      · exact .inr ⟨e, rfl, by simpa using hnow⟩
  · refine .inr ⟨e, he, ?_⟩
    by_contra hne
    rw [hvalid e (by simpa using hne)] at hexpired
    cases hexpired

theorem Consistent.setAdminDist {adminDist : Nat}
    (hplace : e ∈ t.routes → (t.store e { t.heap e with adminDist := adminDist }).Sorted)
    (hok : t.setAdminDist e adminDist = .ok t') : t'.Consistent := by
  rw [RoutingTable.setAdminDist] at hok
  refine h.change_other (by decide) ?_ hok
  by_cases hmem : e ∈ t.routes
  · have hsorted := (sorted_iff _).mp (hplace hmem)
    have hfields : ∀ e', ((t.store e { t.heap e with adminDist := adminDist }).heap e').dest = (t.heap e').dest ∧
        ((t.store e { t.heap e with adminDist := adminDist }).heap e').netmask = (t.heap e').netmask ∧
        ((t.store e { t.heap e with adminDist := adminDist }).heap e').expiryTime = (t.heap e').expiryTime ∧
        ((t.store e { t.heap e with adminDist := adminDist }).heap e').inTable = (t.heap e').inTable := by
      intro e'
      by_cases heq : e' = e
      · rw [heq, store_heap_self]
        exact ⟨rfl, rfl, rfl, rfl⟩
      · rw [store_heap_of_ne t _ heq]
        exact ⟨rfl, rfl, rfl, rfl⟩
    exact {
      sorted := hsorted
      nodup := h.nodup
      prefixes := fun e' he' => by
        rw [PrefixOnly, (hfields e').1, (hfields e').2.1]
        exact h.prefixes e' he'
      flagged := fun e' he' => by
        rw [(hfields e').2.2.2]
        exact h.flagged e' he'
      coherent := h.coherent.congr rfl rfl rfl
        (fun e' _ => ⟨(hfields e').1, (hfields e').2.1, (hfields e').2.2.1⟩) fun e' => (hfields e').2.2.1 }
  · exact h.store_outside hmem rfl

theorem Consistent.step {c : Call} (hplace : t.InPlace c) (hok : t.step c = .ok t') :
    t'.Consistent := by
  cases c with
  | addRoute e =>
    obtain ⟨t₁, hadd, hok⟩ := bind_ok.mp hok
    cases hok
    exact (h.toOrdered.internalAddRoute hplace hadd).invalidate
  | removeRoute e =>
    cases hok
    exact h.removeRoute e
  | deleteRoute e =>
    cases hok
    exact h.deleteRoute e
  | setDestination e dest => exact h.change_key (by rfl) (.inl rfl) hok
  | setNetmask e netmask => exact h.change_key (by rfl) (.inr (.inl rfl)) hok
  | setGateway e gateway =>
    rw [RoutingTable.step, setGateway] at hok
    refine h.change_other ?_ (h.store_same ?_) hok
    · decide
    · exact ⟨rfl, rfl, rfl, rfl, rfl, rfl⟩
  | setInterface e interfacePtr =>
    rw [RoutingTable.step, setInterface] at hok
    refine h.change_other ?_ (h.store_same ?_) hok
    · decide
    · exact ⟨rfl, rfl, rfl, rfl, rfl, rfl⟩
  | setSourceType e sourceType =>
    rw [RoutingTable.step, setSourceType] at hok
    refine h.change_other ?_ (h.store_same ?_) hok
    · decide
    · exact ⟨rfl, rfl, rfl, rfl, rfl, rfl⟩
  | setSource e source =>
    rw [RoutingTable.step, setSource] at hok
    refine h.change_other ?_ (h.store_same ?_) hok
    · decide
    · exact ⟨rfl, rfl, rfl, rfl, rfl, rfl⟩
  | setAdminDist e adminDist => exact h.setAdminDist hplace hok
  | setMetric e metric => exact h.change_key (by rfl) (.inr (.inr rfl)) hok
  | receiveChangeNotification refs ift category =>
    cases hok
    cases category with
    | NF_INTERFACE_CREATED => exact h.toOrdered.updateNetmaskRoutes hplace.1 hplace.2 ift
    | NF_INTERFACE_DELETED entry => exact h.deleteInterfaceRoutes entry
    | NF_INTERFACE_STATE_CHANGED => exact h.toOrdered.invalidate
    | NF_INTERFACE_CONFIG_CHANGED => exact h.toOrdered.invalidate
    | NF_INTERFACE_IPv4CONFIG_CHANGED => exact h.toOrdered.updateNetmaskRoutes hplace.1 hplace.2 ift
  | purge =>
    cases hok
    exact h.purge
  | findBestMatchingRoute dest =>
    cases hok
    exact h.findBestMatchingRoute dest
  | advance time =>
    cases hok
    exact h.advance time

theorem Consistent.run {calls : List Call} (hplace : t.RunInPlace calls)
    (hok : t.run calls = .ok t') : t'.Consistent := by
  induction calls generalizing t with
  | nil =>
    cases hok
    exact h
  | cons c calls ih =>
    obtain ⟨t₁, hstep, hrest⟩ := bind_ok.mp hok
    exact ih (h.step hplace.1 hstep) (hplace.2 t₁ hstep) hrest

end

theorem consistent_init {heap : RouteRef → IPv4Route} : (init heap).Consistent where
  sorted := Pairwise.nil
  nodup := nodup_nil
  prefixes _ he := by cases he
  flagged _ he := by cases he
  coherent _ _ ha := by cases ha

/-- The table finds the best matching route, with and without its cache. -/
theorem best_match (heap : RouteRef → IPv4Route) (calls : List Call) (t : RoutingTable)
    (hplace : (init heap).RunInPlace calls) (hok : (init heap).run calls = .ok t) :
    t.Sorted ∧ ∀ dest, (t.findBestMatchingRoute dest).1 = t.scan dest ∧
      t.Best dest (t.findBestMatchingRoute dest).1 := by
  have h := consistent_init.run hplace hok
  refine ⟨(sorted_iff t).mpr h.sorted, fun dest => ⟨h.findBestMatchingRoute_eq dest, ?_⟩⟩
  rw [h.findBestMatchingRoute_eq dest]
  exact h.toOrdered.best dest

/-- Two routes to 10.0.0.0/8. -/
def twoRoutes : RouteRef → IPv4Route := fun _ =>
  { dest := 0x0A000000, netmask := 0xFF000000, interfacePtr := some 0 }

/-- The second route is made the better one by its metric, which moves it, then by its
administrative distance. -/
def upgrades : List Call :=
  [.addRoute 0, .addRoute 1, .findBestMatchingRoute 0x0A000001, .setMetric 0 5, .setAdminDist 1 1]

theorem best_match_upgrades : ∃ t, (init twoRoutes).run upgrades = .ok t ∧
    (t.findBestMatchingRoute 0x0A000001).1 = some 1 ∧ t.Best 0x0A000001 (some 1) := by
  have hend : ∀ t, (init twoRoutes).run upgrades = .ok t → (t.findBestMatchingRoute 0x0A000001).1 = some 1 := by
    decide
  refine exists_ok (by decide) fun t hrun => ⟨hend t hrun, ?_⟩
  have hbest := (best_match twoRoutes upgrades t (by decide) hrun).2 0x0A000001
  rw [hend t hrun] at hbest
  exact hbest.2

/-- `setAdminDist` notifies with a code that `routeChanged` ignores: the route that has become
the better one stays behind the other. -/
theorem setAdminDist_out_of_place :
    ∃ t, (init twoRoutes).run [.addRoute 0, .addRoute 1, .setAdminDist 1 1] = .ok t ∧ ¬ t.Sorted ∧
      (t.findBestMatchingRoute 0x0A000001).1 = some 0 ∧ ¬ t.Best 0x0A000001 (some 0) :=
  exists_ok (by decide) (by decide)

end RoutingTable

end Inet.Ipv4
