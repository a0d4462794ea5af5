import Inetmanet.Ted.ShortestPathRoutes

/-!
# Routes and the database

A message that neither adds a link nor changes the state of one leaves the routes alone.
They are still those of the database if it has not brought a new metric either.
-/
namespace Inet.Ted

open List Option
open Inet.Ipv4 (IPv4Address)
open BellmanFord (Edge Label Path)

/-- The link is added, or it is taken in and changes the state of its entry. -/
def Loop.Changes (l : Loop) (link : TELinkStateInfo) : Prop :=
  checkLinkValidity link 0 l.ted = .interesting ∨
    ∃ i e, checkLinkValidity link 0 l.ted = .newer i ∧ l.ted[i]? = some e ∧ e.state ≠ link.state

/-- The link is not taken in, or it brings no other metric for an entry that is up. -/
def Loop.KeepsMetric (l : Loop) (link : TELinkStateInfo) : Prop :=
  ∀ i e, checkLinkValidity link 0 l.ted = .newer i → l.ted[i]? = some e → e.state = true → link.state = true →
    e.metric = link.metric

/-- Each link of a message is looked at in the database that the links before it have left. -/
def EachLink (l : Loop) (p : Loop → TELinkStateInfo → Prop) (linkInfo : List TELinkStateInfo) : Prop :=
  ∀ before link after l', linkInfo = before ++ link :: after → before.foldlM processLink l = .ok l' → p l' link

/-- If no link of the message is added or changes a state, all of them keep the metrics. -/
def LeavesNoMetricBehind (ted linkInfo : List TELinkStateInfo) : Prop :=
  EachLink { ted } (fun l link => ¬ l.Changes link) linkInfo → EachLink { ted } Loop.KeepsMetric linkInfo

/-- The routes that are made from the database. -/
def TED.IsTableOf (t : TED) (routes : List Route) : Prop := ∃ old, t.rebuildRoutingTable old = .ok routes

/-- The routes do not depend on a difference between the two. -/
structure SameLink (e e' : TELinkStateInfo) : Prop where
  advrouter : e.advrouter = e'.advrouter
  linkid : e.linkid = e'.linkid
  localAddr : e.localAddr = e'.localAddr
  state : e.state = e'.state
  metric : e.state = true → e.metric = e'.metric
  bandwidth : 0 ≤ e.UnResvBandwidth[(7 : Fin 8)] ∧ 0 ≤ e'.UnResvBandwidth[(7 : Fin 8)]

variable {ted ted' linkInfo : List TELinkStateInfo} {t t' : TED} {e e' link : TELinkStateInfo} {l l' : Loop}

theorem SameLink.addLink (h : SameLink e e') (g : Topology) : g.addLink 0 7 e = g.addLink 0 7 e' := by
  unfold Topology.addLink
  cases hstate : e.state with
  | false =>
    rw [← h.state, hstate]
    rfl
  | true =>
    have hleft : ¬ e.UnResvBandwidth[(7 : Fin 8)] < 0 := Rat.not_lt.mpr h.bandwidth.1
    have hright : ¬ e'.UnResvBandwidth[(7 : Fin 8)] < 0 := Rat.not_lt.mpr h.bandwidth.2
    rw [← h.state, hstate, if_neg hleft, if_neg hright, h.advrouter, h.linkid, h.metric hstate]

theorem collect_same (h : Forall₂ SameLink ted ted') (g : Topology) :
    ted.foldl (Topology.addLink 0 7) g = ted'.foldl (Topology.addLink 0 7) g := by
  induction h generalizing g with
  | nil => rfl
  | cons hsame h ih =>
    rw [foldl_cons, foldl_cons, hsame.addLink]
    exact ih _

theorem find?_same {α β : Type} {R : α → α → Prop} {as bs : List α} (h : Forall₂ R as bs) {p : α → Bool} {f : α → β}
    (hp : ∀ a b, R a b → p a = p b) (hf : ∀ a b, R a b → f a = f b) : (as.find? p).map f = (bs.find? p).map f := by
  induction h with
  | nil => rfl
  | cons hab h ih =>
    rename_i a b as bs
    rw [find?_cons, find?_cons, ← hp a b hab]
    cases p a with
    | true => exact congrArg some (hf a b hab)
    | false => exact ih

namespace TED

/-- Two databases of one router. -/
structure Same (t t' : TED) : Prop where
  routerId : t.routerId = t'.routerId
  interfaceAddrs : t.interfaceAddrs = t'.interfaceAddrs
  links : List.Forall₂ SameLink t.ted t'.ted

section

variable (h : t.Same t')
include h

theorem Same.findPeer (v : IPv4Address) :
    (t.findPeer v).map (·.localAddr) = (t'.findPeer v).map (·.localAddr) := by
  unfold TED.findPeer
  rw [← h.routerId]
  refine find?_same h.links ?_ fun a b hab => hab.localAddr
  intro a b hab
  rw [hab.linkid, hab.advrouter]

theorem Same.isLocalPeer (v : IPv4Address) : t.isLocalPeer v = t'.isLocalPeer v := by
  have hpeer := congrArg isSome (h.findPeer v)
  rwa [isSome_map, isSome_map] at hpeer

theorem Same.getInterfaceAddrByPeerAddress (v : IPv4Address) :
    t.getInterfaceAddrByPeerAddress v = t'.getInterfaceAddrByPeerAddress v := by
  have hpeer := h.findPeer v
  unfold TED.getInterfaceAddrByPeerAddress
  cases ht : t.findPeer v with
  | none =>
    rw [ht] at hpeer
    rw [map_eq_none_iff.mp hpeer.symm]
  | some it =>
    rw [ht] at hpeer
    obtain ⟨it', ht', haddr⟩ := map_eq_some_iff.mp hpeer.symm
    rw [ht']
    exact congrArg Except.ok haddr.symm

theorem Same.localRoute (a : IPv4Address) : t.localRoute a = t'.localRoute a := by
  have hfind : (t.ted.find? fun it => it.advrouter = t.routerId ∧ it.localAddr = a).map (·.linkid) =
      (t'.ted.find? fun it => it.advrouter = t'.routerId ∧ it.localAddr = a).map (·.linkid) := by
    rw [← h.routerId]
    refine find?_same h.links ?_ fun a b hab => hab.linkid
    intro a b hab
    rw [hab.localAddr, hab.advrouter]
  unfold TED.localRoute TED.getPeerByLocalAddress
  cases ht : t.ted.find? fun it => it.advrouter = t.routerId ∧ it.localAddr = a with
  | none =>
    rw [ht] at hfind
    rw [map_eq_none_iff.mp hfind.symm]
  | some it =>
    rw [ht] at hfind
    obtain ⟨it', ht', hid⟩ := map_eq_some_iff.mp hfind.symm
    have hid' : it.linkid = it'.linkid := hid.symm
    rw [ht']
    dsimp only
    rw [hid']

theorem Same.nextHop (labels : IPv4Address → Label IPv4Address) (n : Nat) (v : IPv4Address) :
    t.nextHop labels n v = t'.nextHop labels n v := by
  induction n generalizing v with
  | zero => rfl
  | succ n ih =>
    rw [TED.nextHop, TED.nextHop, h.isLocalPeer]
    cases (labels v).parent with
    | none => rfl
    | some u =>
      dsimp only
      rw [ih u]

theorem Same.remoteRoute (V : ShortestPaths) (v : IPv4Address) : t.remoteRoute V v = t'.remoteRoute V v := by
  unfold TED.remoteRoute
  simp only [h.nextHop, h.getInterfaceAddrByPeerAddress]

theorem Same.rebuildRoutingTable (routes : List Route) : t.rebuildRoutingTable routes = t'.rebuildRoutingTable routes := by
  have hcollect : collect t.ted 0 7 = collect t'.ted 0 7 := collect_same h.links {}
  have hpaths : calculateShortestPaths t.routerId t.ted 0 7 = calculateShortestPaths t'.routerId t'.ted 0 7 := by
    unfold calculateShortestPaths
    rw [hcollect, h.routerId]
  have hremote : t.remoteRoute = t'.remoteRoute := by
    funext V v
    exact h.remoteRoute V v
  have hlocal : t.localRoute = t'.localRoute := by
    funext a
    exact h.localRoute a
  have hvertices : t.remoteVertices = t'.remoteVertices := by
    funext V
    unfold TED.remoteVertices
    simp only [h.isLocalPeer, h.routerId]
  unfold TED.rebuildRoutingTable
  rw [hpaths, hremote, hlocal, hvertices, h.interfaceAddrs]

end

end TED

/-- What has been changed stays so. -/
theorem processLink_change (h : processLink l link = .ok l') (hchange : l.change = true) : l'.change = true := by
  unfold processLink at h
  split at h
  · cases h
    exact hchange
  · obtain ⟨-, h⟩ := ensure_bind_ok.mp h
    cases h
    rfl
  · obtain ⟨-, h⟩ := ensure_bind_ok.mp h
    cases h
    exact Bool.or_eq_true_iff.mpr (.inl hchange)

theorem foldlM_change (h : linkInfo.foldlM processLink l = .ok l') (hchange : l.change = true) : l'.change = true := by
  induction linkInfo generalizing l with
  | nil =>
    cases h
    exact hchange
  | cons link linkInfo ih =>
    obtain ⟨l₁, hlink, h⟩ := bind_ok.mp h
    exact ih h (processLink_change hlink hchange)

/-- A link that changes something is noticed. -/
theorem Loop.Changes.change (hchanges : l.Changes link) (h : processLink l link = .ok l') : l'.change = true := by
  rcases hchanges with hnew | ⟨i, e, hnewer, he, hstate⟩
  · simp only [processLink, hnew] at h
    obtain ⟨-, h⟩ := ensure_bind_ok.mp h
    cases h
    rfl
  · simp only [processLink, hnewer, he] at h
    obtain ⟨-, h⟩ := ensure_bind_ok.mp h
    cases h
    simp [hstate]

theorem eachLink_of_change (h : linkInfo.foldlM processLink l = .ok l') (hchange : l'.change = false) :
    EachLink l (fun l link => ¬ l.Changes link) linkInfo := by
  rintro before link after l₁ rfl hbefore hchanges
  rw [foldlM_append, hbefore] at h
  obtain ⟨l₂, hlink, h⟩ := bind_ok.mp (show (processLink l₁ link >>= fun l => after.foldlM processLink l) = .ok l' from h)
  rw [foldlM_change h (hchanges.change hlink)] at hchange
  cases hchange

theorem checkLinkValidity_newer {i k : Nat} (h : checkLinkValidity link k ted = .newer i) :
    ∃ j e, i = k + j ∧ ted[j]? = some e := by
  induction ted generalizing k with
  | nil => cases h
  | cons it ted ih =>
    rw [checkLinkValidity] at h
    split at h
    · cases h
    · split at h
      · split at h
        · cases h
          exact ⟨0, it, rfl, rfl⟩
        · cases h
      · obtain ⟨j, e, hi, hj⟩ := ih h
        exact ⟨j + 1, e, by omega, hj⟩

theorem forall₂_modify {α : Type} {R : α → α → Prop} {as bs : List α} (h : Forall₂ R as bs) {i : Nat} {f : α → α}
    (hf : ∀ a b, a ∈ as → bs[i]? = some b → R a b → R a (f b)) : Forall₂ R as (bs.modify i f) := by
  induction h generalizing i with
  | nil =>
    rw [modify_nil]
    exact Forall₂.nil
  | cons hab h ih =>
    rename_i a b as bs
    cases i with
    | zero => exact Forall₂.cons (hf a b mem_cons_self rfl hab) h
    | succ i => exact Forall₂.cons hab (ih fun a b ha hb hab => hf a b (mem_cons_of_mem _ ha) hb hab)

/-- One link that changes no state. -/
theorem processLink_same (hkeep : l.KeepsMetric link) (hbandwidth : 0 ≤ link.UnResvBandwidth[(7 : Fin 8)])
    (h : processLink l link = .ok l') (hchange : l'.change = false) (hsame : Forall₂ SameLink ted l.ted) : Forall₂ SameLink ted l'.ted := by
  unfold processLink at h
  split at h
  · cases h
    exact hsame
  · obtain ⟨-, h⟩ := ensure_bind_ok.mp h
    cases h
    cases hchange
  · rename_i i hv
    obtain ⟨-, h⟩ := ensure_bind_ok.mp h
    cases h
    obtain ⟨-, hstate⟩ := Bool.or_eq_false_iff.mp hchange
    obtain ⟨j, e, hi, hj⟩ := checkLinkValidity_newer hv
    rw [Nat.zero_add] at hi
    subst hi
    rw [hj, map_some, any_some, bne_eq_false_iff_eq] at hstate
    refine forall₂_modify hsame ?_
    intro a b ha hb hab
    rw [hj] at hb
    cases hb
    constructor
    · exact hab.advrouter
    · exact hab.linkid
    · exact hab.localAddr
    · exact hab.state.trans hstate
    · intro hup
      have heup : e.state = true := hab.state ▸ hup
      exact (hab.metric hup).trans (hkeep _ e hv hj heup (hstate ▸ heup))
    · exact ⟨hab.bandwidth.1, hbandwidth⟩

theorem foldlM_same (hkeep : EachLink l Loop.KeepsMetric linkInfo)
    (hbandwidth : ∀ link ∈ linkInfo, 0 ≤ link.UnResvBandwidth[(7 : Fin 8)])
    (h : linkInfo.foldlM processLink l = .ok l') (hchange : l'.change = false) (hsame : Forall₂ SameLink ted l.ted) :
    Forall₂ SameLink ted l'.ted := by
  induction linkInfo generalizing l with
  | nil =>
    cases h
    exact hsame
  | cons link linkInfo ih =>
    obtain ⟨l₁, hlink, h⟩ := bind_ok.mp h
    have hchange₁ : l₁.change = false := by
      by_contra hne
      rw [foldlM_change h (Bool.of_not_eq_false hne)] at hchange
      cases hchange
    have hkeep₁ : EachLink l₁ Loop.KeepsMetric linkInfo := by
      rintro before link' after l₂ rfl hbefore
      exact hkeep (link :: before) link' after l₂ rfl (bind_ok.mpr ⟨l₁, hlink, hbefore⟩)
    refine ih hkeep₁ (fun f hf => hbandwidth f (mem_cons_of_mem _ hf)) h ?_
    exact processLink_same (hkeep [] link linkInfo l rfl rfl) (hbandwidth link mem_cons_self) hlink hchange₁ hsame

theorem sameLink_refl (h : 0 ≤ e.UnResvBandwidth[(7 : Fin 8)]) : SameLink e e := ⟨rfl, rfl, rfl, rfl, fun _ => rfl, ⟨h, h⟩⟩

theorem TED.processLINK_STATE_MESSAGE_isTableOf {routes routes' : List Route} (hted : ∀ e ∈ t.ted, 0 ≤ e.UnResvBandwidth[(7 : Fin 8)])
    (htable : t.IsTableOf routes) (hbandwidth : ∀ link ∈ linkInfo, 0 ≤ link.UnResvBandwidth[(7 : Fin 8)])
    (hnoMetric : LeavesNoMetricBehind t.ted linkInfo) (h : t.processLINK_STATE_MESSAGE routes linkInfo = .ok (t', routes')) :
    t'.IsTableOf routes' := by
  obtain ⟨l, hl, h⟩ := bind_ok.mp h
  cases hchange : l.change with
  | true =>
    simp only [hchange, if_true] at h
    cases hrebuild : TED.rebuildRoutingTable { t with ted := l.ted } routes with
    | error err =>
      rw [hrebuild] at h
      cases h
    | ok routes'' =>
      rw [hrebuild] at h
      cases h
      exact ⟨routes, hrebuild⟩
  | false =>
    simp only [hchange, Bool.false_eq_true, if_false] at h
    cases h
    obtain ⟨old, hold⟩ := htable
    have hsame : Forall₂ SameLink t.ted t.ted := forall₂_same.mpr fun e he => sameLink_refl (hted e he)
    have hkeep := hnoMetric (eachLink_of_change hl hchange)
    have hlinks : Forall₂ SameLink t.ted l.ted := foldlM_same hkeep hbandwidth hl hchange hsame
    have hdatabases : t.Same { t with ted := l.ted } := ⟨rfl, rfl, hlinks⟩
    exact ⟨old, hdatabases.rebuildRoutingTable old ▸ hold⟩

/-- An entry of a router for the link to a neighbour. -/
def exampleLink (advrouter linkid localAddr : IPv4Address) (metric : Nat) : TELinkStateInfo :=
  { advrouter, linkid, localAddr, remote := 0, metric, MaxBandwidth := 100, UnResvBandwidth := Vector.replicate 8 100, timestamp := 0,
    sourceId := advrouter.toNat, messageId := 1, state := true }

/-- Three routers, the second of which is closer over the third one. -/
def detour : TED where
  routerId := 1
  ted := [exampleLink 1 2 12 10, exampleLink 1 3 13 1, exampleLink 3 2 32 1]
  interfaceAddrs := [12, 13]

theorem detour_wellFormed : detour.WellFormed := by
  constructor
  · unfold NoLoops
    decide
  · decide
  · decide
  · decide
  · decide

end Inet.Ted
