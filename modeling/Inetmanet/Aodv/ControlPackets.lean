import Inetmanet.Aodv.Moves
import Inetmanet.Aodv.Discovery

/-!
# Control packets that bring a node down

Which control packets and link breaks end in a failed assertion, a failed cast, a
missing route or an error of the routing table: an acknowledgement nobody waits for, a
relayed Route Reply whose next hop has no route, a broken link that routes of others
use, too, and a packet that names the unspecified address, to which no route can be added.
-/
namespace Inet.Aodv

open Ipv4 Option Entries

namespace AODVRouting

open IPv4Address

def Survives {α : Type} (x : Sim α) : Prop := ∀ e, x = .error e → e = past

namespace Survives

variable {α β : Type}

theorem pure (a : α) : Survives (pure a : Sim α) := by
  intro e he
  cases he

theorem bind {x : Sim α} {f : α → Sim β} (hx : Survives x) (hf : ∀ a, x = .ok a → Survives (f a)) :
    Survives (x >>= f) := by
  intro e he
  rcases bind_error.mp he with hx' | ⟨a, ha, hfa⟩
  · exact hx e hx'
  · exact hf a ha e hfa

/-- What the first computation ensures, the second one may rest on. -/
theorem bind_of_ensures {x : Sim α} {f : α → Sim β} {p : α → Prop} (hx : Survives x) (hp : Ensures x p)
    (hf : ∀ a, p a → Survives (f a)) : Survives (x >>= f) := hx.bind fun a ha => hf a (hp a ha)

theorem ite {c : Prop} [Decidable c] {x y : Sim α} (hx : c → Survives x) (hy : ¬ c → Survives y) :
    Survives (if c then x else y) := by
  by_cases h : c
  · rw [if_pos h]
    exact hx h
  · rw [if_neg h]
    exact hy h

theorem foldlM {f : α → β → Sim α} (hf : ∀ a b, Survives (f a b)) (l : List β) (a : α) : Survives (l.foldlM f a) := by
  induction l generalizing a with
  | nil => exact pure a
  | cons b l ih =>
    exact (hf a b).bind fun a' _ => ih a'

end Survives

variable (m : AODVRouting)

theorem scheduleAt_survives (t : Int) : Survives (m.scheduleAt t) := by
  unfold scheduleAt
  by_cases h : t < m.simTime
  · rw [if_pos h]
    intro e he
    cases he
    rfl
  · rw [if_neg h]
    exact .pure t

theorem scheduleExpungeRoutes_survives : Survives m.scheduleExpungeRoutes :=
  .ite (fun _ => .pure _) fun _ => .ite (fun _ => .pure _) fun _ => (m.scheduleAt_survives _).bind fun _ _ => .pure _

/-- There is a route to `dest`, or one can be added. -/
def Routable (dest : IPv4Address) : Prop := dest ≠ 0 ∨ (m.entry dest).isSome

theorem createRoute_survives {destAddr : IPv4Address} (h : destAddr ≠ 0) (nextHop : IPv4Address)
    (hopCount : BitVec 32) (hasValidDestNum : Bool) (destSeqNum : BitVec 32) (isActive : Bool) (lifeTime : Int) :
    Survives (m.createRoute destAddr nextHop hopCount hasValidDestNum destSeqNum isActive lifeTime) := by
  rw [createRoute, AODVRoutes.addRoute, if_neg h]
  exact scheduleExpungeRoutes_survives _

theorem ne_zero_of_createRoute_ok {m m' : AODVRouting} {destAddr nextHop : IPv4Address} {hopCount : BitVec 32}
    {hasValidDestNum : Bool} {destSeqNum : BitVec 32} {isActive : Bool} {lifeTime : Int}
    (h : m.createRoute destAddr nextHop hopCount hasValidDestNum destSeqNum isActive lifeTime = .ok m') :
    destAddr ≠ 0 := by
  rintro rfl
  rw [createRoute, AODVRoutes.addRoute, if_pos rfl] at h
  cases h

theorem updateRoutingTable_survives (destAddr nextHop : IPv4Address) (hopCount : BitVec 32) (hasValidDestNum : Bool)
    (destSeqNum : BitVec 32) (isActive : Bool) (lifeTime : Int) :
    Survives (m.updateRoutingTable destAddr nextHop hopCount hasValidDestNum destSeqNum isActive lifeTime) :=
  scheduleExpungeRoutes_survives _

variable {dest unreachableAddr nextHop : IPv4Address} {m' : AODVRouting} {rreq : AODVRREQ}

variable {timeToLive : BitVec 32}

theorem sendAODVPacket_survives (packet : AODVControlPacket) (destAddr : IPv4Address)
    (jitter : Bool) (h : timeToLive ≠ 0) : Survives (m.sendAODVPacket packet destAddr timeToLive jitter) := by
  rw [sendAODVPacket, ensure_pos h]
  exact .pure _

variable {m} {rrep : AODVRREP} {sourceAddr : IPv4Address} {originatorSeqNum : BitVec 32}

theorem Routable.ne_zero (h : m.Routable dest) (hr : m.findRoute dest = none) : dest ≠ 0 :=
  h.resolve_right (by simp [entry, hr])

theorem routable_of_ne_zero (h : m.findRoute dest = none → dest ≠ 0) : m.Routable dest := by
  cases hr : m.findRoute dest with
  | none => exact .inl (h hr)
  | some r => exact .inr (by simp [entry, hr])

theorem updatePreviousHopRoute_survives (h : m.Routable sourceAddr) (originatorSeqNum : BitVec 32) :
    Survives (m.updatePreviousHopRoute sourceAddr originatorSeqNum) := by
  unfold updatePreviousHopRoute
  cases hr : m.findRoute sourceAddr with
  | none => exact createRoute_survives _ (h.ne_zero hr) _ _ _ _ _ _
  | some r => exact updateRoutingTable_survives _ _ _ _ _ _ _ _

theorem routable_of_updatePreviousHopRoute_ok (h : m.updatePreviousHopRoute sourceAddr originatorSeqNum = .ok m') :
    m.Routable sourceAddr := by
  refine routable_of_ne_zero fun hr => ?_
  rw [updatePreviousHopRoute, hr] at h
  exact ne_zero_of_createRoute_ok h

theorem handleHelloMessage_survives (h : m.Routable rrep.destAddr) : Survives (m.handleHelloMessage rrep) := by
  unfold handleHelloMessage
  cases hr : m.findRoute rrep.destAddr with
  | none => exact createRoute_survives _ (h.ne_zero hr) _ _ _ _ _ _
  | some r => exact updateRoutingTable_survives _ _ _ _ _ _ _ _

theorem routable_of_handleHelloMessage_ok (h : m.handleHelloMessage rrep = .ok m') : m.Routable rrep.destAddr := by
  refine routable_of_ne_zero fun hr => ?_
  rw [handleHelloMessage, hr] at h
  exact ne_zero_of_createRoute_ok h

theorem updateForwardRoute_survives (h : m.Routable rrep.destAddr) (sourceAddr : IPv4Address) :
    Survives (m.updateForwardRoute rrep sourceAddr) := by
  unfold updateForwardRoute
  cases hr : m.findRoute rrep.destAddr with
  | none => exact createRoute_survives _ (h.ne_zero hr) _ _ _ _ _ _
  | some r => exact .ite (fun _ => updateRoutingTable_survives _ _ _ _ _ _ _ _) fun _ => .pure m

theorem routable_of_updateForwardRoute_ok (h : m.updateForwardRoute rrep sourceAddr = .ok m') :
    m.Routable rrep.destAddr := by
  refine routable_of_ne_zero fun hr => ?_
  rw [updateForwardRoute, hr] at h
  exact ne_zero_of_createRoute_ok h

theorem updateReverseRoute_survives (h : m.Routable rreq.originatorAddr) (sourceAddr : IPv4Address) :
    Survives (m.updateReverseRoute rreq sourceAddr) := by
  unfold updateReverseRoute
  cases hr : m.findRoute rreq.originatorAddr with
  | none => exact createRoute_survives _ (h.ne_zero hr) _ _ _ _ _ _
  | some r => exact .ite (fun _ => updateRoutingTable_survives _ _ _ _ _ _ _ _) fun _ => .pure m

theorem routable_of_updateReverseRoute_ok (h : m.updateReverseRoute rreq sourceAddr = .ok m') :
    m.Routable rreq.originatorAddr := by
  refine routable_of_ne_zero fun hr => ?_
  rw [updateReverseRoute, hr] at h
  exact ne_zero_of_createRoute_ok h

/-- The route to the previous hop makes no other address routable. -/
theorem routable_iff_of_previousHop (h : m'.entry = m.entry.previousHop sourceAddr originatorSeqNum)
    (hsource : m.Routable sourceAddr) (dest : IPv4Address) : m'.Routable dest ↔ m.Routable dest := by
  by_cases hd : dest = sourceAddr
  · subst hd
    exact iff_of_true (.inr (by rw [h, previousHop_self]; rfl)) hsource
  · simp [Routable, h, previousHop_of_ne _ hd]

theorem findRoute_isSome_iff : (m.findRoute dest).isSome ↔ (m.entry dest).isSome := by
  simp [entry]

theorem findRoute_of_entry (h : m'.entry = m.entry) (hdest : (m.findRoute dest).isSome) :
    (m'.findRoute dest).isSome := by
  rw [findRoute_isSome_iff] at hdest ⊢
  rwa [h]

theorem createRREP_survives (rreq : AODVRREQ) {destRoute originatorRoute : Option AODVRoute} (lastHopAddr : IPv4Address)
    (hdest : rreq.destAddr = m.getSelfIPAddress ∨ destRoute.isSome) (horig : originatorRoute.isSome) :
    Survives (m.createRREP rreq destRoute originatorRoute lastHopAddr) := by
  unfold createRREP
  refine .ite (fun _ => .pure _) fun hself => ?_
  obtain ⟨dest, rfl⟩ := isSome_iff_exists.mp (hdest.resolve_left hself)
  obtain ⟨orig, rfl⟩ := isSome_iff_exists.mp horig
  exact .pure _

theorem requireAck_survives (destRoute : AODVRoute) (rrep : AODVRREP) : Survives (m.requireAck destRoute rrep) :=
  .ite (fun _ => (m.scheduleAt_survives _).bind fun _ _ => .pure _) fun _ => .pure _

theorem sendRREP_survives (rrep : AODVRREP) {destAddr : IPv4Address}
    (hdest : (m.findRoute destAddr).isSome) (httl : timeToLive ≠ 0) :
    Survives (m.sendRREP rrep destAddr timeToLive) := by
  obtain ⟨destRoute, hdest⟩ := isSome_iff_exists.mp hdest
  unfold sendRREP
  rw [hdest]
  exact (requireAck_survives destRoute rrep).bind fun _ _ => sendAODVPacket_survives _ _ _ _ httl

theorem replyToRREQ_survives {destRoute : Option AODVRoute} (sourceAddr : IPv4Address)
    (hdest : rreq.destAddr = m.getSelfIPAddress ∨ destRoute.isSome) (horig : (m.findRoute rreq.originatorAddr).isSome) :
    Survives (m.replyToRREQ rreq destRoute sourceAddr) := by
  have heffect := createRREP_effect m rreq destRoute (m.findRoute rreq.originatorAddr) sourceAddr
  refine (createRREP_survives rreq sourceAddr hdest horig).bind_of_ensures heffect ?_
  intro res hres
  exact sendRREP_survives _ (findRoute_of_entry hres.1.entry horig) (by decide)

theorem sendGratuitousRREP_survives (hdest : (m.findRoute rreq.destAddr).isSome)
    (horig : (m.findRoute rreq.originatorAddr).isSome) : Survives (m.sendGratuitousRREP rreq) := by
  obtain ⟨destRoute, hdest⟩ := isSome_iff_exists.mp hdest
  obtain ⟨originatorRoute, horig⟩ := isSome_iff_exists.mp horig
  unfold sendGratuitousRREP
  rw [horig]
  unfold sendGRREP
  rw [hdest]
  exact sendAODVPacket_survives _ _ _ _ (by decide)

theorem answerRREQ_survives {destRoute : AODVRoute} (sourceAddr : IPv4Address)
    (hdest : m.findRoute rreq.destAddr = some destRoute) (horig : (m.findRoute rreq.originatorAddr).isSome) :
    Survives (m.answerRREQ rreq destRoute sourceAddr) := by
  have hsome : (m.findRoute rreq.destAddr).isSome := by rw [hdest]; rfl
  refine .ite (fun _ => .pure m) fun _ => ?_
  have heffect := replyToRREQ_effect m rreq sourceAddr hdest.symm
  refine (replyToRREQ_survives sourceAddr (.inr rfl) horig).bind_of_ensures heffect ?_
  intro m₁ h₁
  refine .ite (fun _ => ?_) fun _ => .pure m₁
  exact sendGratuitousRREP_survives (findRoute_of_entry h₁.entry hsome) (findRoute_of_entry h₁.entry horig)

theorem relayRREQ_survives (rreq : AODVRREQ) (destRoute : Option AODVRoute) (timeToLive : BitVec 32) :
    Survives (m.relayRREQ rreq destRoute timeToLive) := by
  refine .ite (fun h => sendAODVPacket_survives _ _ _ _ ?_) fun _ => .pure m
  rintro rfl
  exact absurd h.1 (by decide)

theorem disseminateRREQ_survives (sourceAddr : IPv4Address) (timeToLive : BitVec 32)
    (horig : (m.findRoute rreq.originatorAddr).isSome) : Survives (m.disseminateRREQ rreq sourceAddr timeToLive) := by
  refine .ite (fun hself => replyToRREQ_survives sourceAddr (.inl hself) horig) fun _ => ?_
  cases hdest : m.findRoute rreq.destAddr with
  | none => exact relayRREQ_survives rreq none timeToLive
  | some destRoute =>
    exact .ite (fun _ => answerRREQ_survives sourceAddr hdest horig) fun _ => relayRREQ_survives rreq _ timeToLive

/-- There is a route to the originator when the reply is sent. -/
theorem reverse_isSome (E : Entries) (rreq : AODVRREQ) (sourceAddr : IPv4Address) :
    (E.reverse rreq sourceAddr rreq.originatorAddr).isSome := by
  unfold reverse
  cases hE : E rreq.originatorAddr with
  | none => simp
  | some e =>
    by_cases h : isReversedBy e rreq
    · simp [h]
    · simp [h, hE]

/-- What has to be routable for a RREQ that is not from a blacklisted neighbour. -/
def HearsRREQ (m : AODVRouting) (rreq : AODVRREQ) (sourceAddr : IPv4Address) : Prop :=
  ¬ (m.blacklist.lookup sourceAddr).isSome →
    m.Routable sourceAddr ∧ (m.hasSeen rreq = false → m.Routable rreq.originatorAddr)

theorem handleRREQ_survives (h : m.HearsRREQ rreq sourceAddr) (timeToLive : BitVec 32) :
    Survives (m.handleRREQ rreq sourceAddr timeToLive) := by
  refine .ite (fun _ => .pure m) fun hlisted => ?_
  obtain ⟨hsource, horig⟩ := h hlisted
  have hprevious := (updatePreviousHopRoute_effect m sourceAddr rreq.originatorSeqNum).and
    (updatePreviousHopRoute_routesOnly m sourceAddr rreq.originatorSeqNum)
  refine (updatePreviousHopRoute_survives hsource _).bind_of_ensures hprevious fun m₁ h₁ => ?_
  refine .ite (fun _ => .pure m₁) fun hseen => ?_
  have horig₁ : m₁.Routable rreq.originatorAddr :=
    (routable_iff_of_previousHop h₁.1.entry hsource _).mpr (horig (by simpa [h₁.2.hasSeen] using hseen))
  have hreverse : Survives (updateReverseRoute
      { m₁ with rreqsArrivalTime := m₁.rreqsArrivalTime.insert rreq.rreqId m₁.simTime }
      { rreq with hopCount := rreq.hopCount + 1 } sourceAddr) := by
    refine updateReverseRoute_survives ?_ sourceAddr
    exact horig₁
  refine hreverse.bind_of_ensures (updateReverseRoute_effect _ _ _) fun m₂ h₂ => ?_
  refine disseminateRREQ_survives sourceAddr timeToLive (findRoute_isSome_iff.mpr ?_)
  rw [h₂.entry]
  exact reverse_isSome _ _ _

theorem hearsRREQ_of_ok (h : m.handleRREQ rreq sourceAddr timeToLive = .ok m') :
    m.HearsRREQ rreq sourceAddr := by
  intro hlisted
  rw [handleRREQ, if_neg hlisted] at h
  obtain ⟨m₁, hm₁, h⟩ := bind_ok.mp h
  have hsource := routable_of_updatePreviousHopRoute_ok hm₁
  refine ⟨hsource, fun hseen => ?_⟩
  rw [(updatePreviousHopRoute_routesOnly m _ _ m₁ hm₁).hasSeen, hseen, if_neg Bool.false_ne_true] at h
  obtain ⟨m₂, hm₂, -⟩ := bind_ok.mp h
  have horig := routable_of_updateReverseRoute_ok hm₂
  exact (routable_iff_of_previousHop (updatePreviousHopRoute_effect m _ _ m₁ hm₁).entry hsource _).mp horig

theorem handleRERR_survives (rerr : AODVRERR) (sourceAddr : IPv4Address) : Survives (m.handleRERR rerr sourceAddr) := by
  have hnode (route : AODVRoute) (acc : AODVRouting × List UnreachableNode) (node : UnreachableNode) :
      Survives (handleUnreachableNode route acc node) :=
    .ite (fun _ => (scheduleExpungeRoutes_survives _).bind fun _ _ => .pure _) fun _ => .pure acc
  refine (Survives.foldlM (fun acc route => ?_) _ _).bind fun acc _ => ?_
  · exact .ite (fun _ => .foldlM (hnode route) _ _) fun _ => .pure acc
  · exact .ite (fun _ => .pure _) fun _ => .ite
      (fun _ => (sendAODVPacket_survives _ _ _ _ (by decide)).bind fun _ _ => .pure _) fun _ => .pure _

/-- No route of another origin uses the broken link. -/
def LinkOfItsOwn (m : AODVRouting) (unreachableAddr : IPv4Address) : Prop :=
  (m.entry unreachableAddr).isSome → ∀ route ∈ m.otherRoutes, route.gateway ≠ unreachableAddr

theorem breakRoute_otherRoutes (unreachableAddr : IPv4Address) (acc : AODVRouting × List UnreachableNode)
    (route : AODVRoute) : Ensures (breakRoute unreachableAddr acc route) fun acc' => acc'.1.otherRoutes = acc.1.otherRoutes := by
  refine .ite (fun _ => ?_) fun _ => .pure rfl
  refine .bind (scheduleExpungeRoutes_ok _) fun m' hm' => .pure ?_
  obtain ⟨t, rfl⟩ := hm'
  rfl

theorem handleLinkBreakSendRERR_survives (h : m.LinkOfItsOwn unreachableAddr) :
    Survives (m.handleLinkBreakSendRERR unreachableAddr) := by
  unfold handleLinkBreakSendRERR
  cases hr : m.findRoute unreachableAddr with
  | none => exact .pure m
  | some unreachableRoute =>
    have hbreak (acc : AODVRouting × List UnreachableNode) (route : AODVRoute) :
        Survives (breakRoute unreachableAddr acc route) :=
      .ite (fun _ => (scheduleExpungeRoutes_survives _).bind fun _ _ => .pure _) fun _ => .pure acc
    have hkeeps : Ensures (m.table.routes.foldlM (breakRoute unreachableAddr)
        (m, [⟨unreachableAddr, unreachableRoute.destSeqNum⟩])) fun acc => acc.1.otherRoutes = m.otherRoutes :=
      .foldlM_invariant (fun acc route hacc => (breakRoute_otherRoutes _ acc route).mono fun _ h => h.trans hacc) rfl
    refine (Survives.foldlM hbreak _ _).bind_of_ensures hkeeps fun acc hacc => ?_
    have hnone : ¬ (acc.1.otherRoutes.any fun route => route.gateway == unreachableAddr) = true := by
      intro hany
      obtain ⟨route, hmem, hgw⟩ := List.any_eq_true.mp hany
      exact h (by rw [entry_eq_some hr]; rfl) route (hacc ▸ hmem) (eq_of_beq hgw)
    refine .ite (fun hany => absurd hany hnone) fun _ => ?_
    exact .ite (fun _ => .pure _) fun _ => sendAODVPacket_survives _ _ _ _ (by decide)

/-- The cast fails behind all changes to the module's own routes. -/
theorem linkOfItsOwn_of_ok
    (h : m.handleLinkBreakSendRERR unreachableAddr = .ok m') : m.LinkOfItsOwn unreachableAddr := by
  intro hsome route hmem hgw
  obtain ⟨unreachableRoute, hr⟩ := isSome_iff_exists.mp (findRoute_isSome_iff.mpr hsome)
  simp only [handleLinkBreakSendRERR, hr] at h
  obtain ⟨acc, hacc, hrest⟩ := bind_ok.mp h
  have hkeeps : acc.1.otherRoutes = m.otherRoutes :=
    Ensures.foldlM_invariant (p := fun acc => acc.1.otherRoutes = m.otherRoutes)
      (fun acc route hacc => (breakRoute_otherRoutes _ acc route).mono fun _ h => h.trans hacc) rfl acc hacc
  have hany : (acc.1.otherRoutes.any fun route => route.gateway == unreachableAddr) = true :=
    List.any_eq_true.mpr ⟨route, hkeeps ▸ hmem, beq_iff_eq.mpr hgw⟩
  rw [if_pos hany] at hrest
  cases hrest

/-- Does a RREP go on to its originator? Its sender and its destination have routes by then. -/
def Relays (m : AODVRouting) (rrep : AODVRREP) (sourceAddr : IPv4Address) : Prop :=
  ¬ isUnspecified rrep.originatorAddr ∧ m.getSelfIPAddress ≠ rrep.originatorAddr ∧ m.rebooted ∧
    ((m.entry rrep.originatorAddr).isSome ∨ rrep.originatorAddr = sourceAddr ∨ rrep.originatorAddr = rrep.destAddr)

/-- The next hop of the route to the destination has a route itself, if the RREP, whose hop count has been
incremented, leaves the route as it is. -/
def NextHopKnown (m : AODVRouting) (rrep : AODVRREP) (sourceAddr : IPv4Address) : Prop :=
  ∀ destRoute, m.entry rrep.destAddr = some destRoute → rrep.destAddr ≠ sourceAddr →
    ¬ isUpdatedBy destRoute rrep →
      (m.entry destRoute.gateway).isSome ∨ destRoute.gateway = sourceAddr

theorem RoutesOnly.rebooted {m : AODVRouting} (h : RoutesOnly m m') : m'.rebooted = m.rebooted := by
  obtain ⟨table, t, rfl⟩ := h
  rfl

theorem updateForwardRoute_routesOnly (m : AODVRouting) (rrep : AODVRREP) (sourceAddr : IPv4Address) :
    Ensures (m.updateForwardRoute rrep sourceAddr) (RoutesOnly m) := by
  unfold updateForwardRoute
  cases m.findRoute rrep.destAddr with
  | none => exact createRoute_routesOnly _ _ _ _ _ _ _ _
  | some r =>
    refine .ite (fun _ => ?_) fun _ => .pure ⟨m.table, m.expungeTimer, rfl⟩
    exact (scheduleExpungeRoutes_ok _).mono fun m' ⟨t, h⟩ => ⟨_, t, h⟩

section

variable (m : AODVRouting) (rrep : AODVRREP) (sourceAddr : IPv4Address)

theorem forwarded_of_ne (hsource : dest ≠ sourceAddr) (hdest : dest ≠ rrep.destAddr) :
    m.forwarded rrep sourceAddr dest = m.entry dest := by
  unfold forwarded
  rw [forward_of_ne _ hdest, previousHop_of_ne _ hsource]

theorem forwarded_destAddr : (m.forwarded rrep sourceAddr rrep.destAddr).isSome :=
  forward_isSome _ rrep sourceAddr

theorem forwarded_sourceAddr : (m.forwarded rrep sourceAddr sourceAddr).isSome := by
  by_cases hsd : sourceAddr = rrep.destAddr
  · rw [hsd]
    exact forwarded_destAddr m rrep rrep.destAddr
  · unfold forwarded
    rw [forward_of_ne _ hsd,
      previousHop_self]
    rfl

theorem forwarded_isSome_iff (dest : IPv4Address) :
    (m.forwarded rrep sourceAddr dest).isSome ↔ (m.entry dest).isSome ∨ dest = sourceAddr ∨ dest = rrep.destAddr := by
  by_cases hsource : dest = sourceAddr
  · subst hsource
    exact iff_of_true (forwarded_sourceAddr m rrep dest) (.inr (.inl rfl))
  by_cases hdest : dest = rrep.destAddr
  · subst hdest
    exact iff_of_true (forwarded_destAddr m rrep sourceAddr) (.inr (.inr rfl))
  rw [forwarded_of_ne m rrep sourceAddr hsource hdest]
  simp [hsource, hdest]

theorem forwarded_of_kept {e : RouteEntry} (he : m.entry rrep.destAddr = some e) (hsource : rrep.destAddr ≠ sourceAddr)
    (hkept : ¬ isUpdatedBy e rrep) :
    m.forwarded rrep sourceAddr rrep.destAddr = some e := by
  have hprevious : m.entry.previousHop sourceAddr rrep.originatorSeqNum rrep.destAddr = some e :=
    (previousHop_of_ne m.entry hsource _).trans he
  unfold forwarded
  rw [forward_self_of_kept _ hprevious hkept, hprevious]

/-- Where the RREP replaces the route, its sender is the next hop. -/
theorem forwarded_of_replaced
    (h : ∀ e, m.entry rrep.destAddr = some e → rrep.destAddr ≠ sourceAddr → isUpdatedBy e rrep) :
    ∃ e, m.forwarded rrep sourceAddr rrep.destAddr = some e ∧ e.gateway = sourceAddr := by
  have hcomplete {E : Entries} (hE : m.forwarded rrep sourceAddr = E.complete rrep sourceAddr) :
      ∃ e, m.forwarded rrep sourceAddr rrep.destAddr = some e ∧ e.gateway = sourceAddr := by
    rw [hE, E.complete_self]
    exact ⟨_, rfl, rfl⟩
  cases hprevious : m.entry.previousHop sourceAddr rrep.originatorSeqNum rrep.destAddr with
  | none =>
    refine hcomplete (E := m.entry.previousHop sourceAddr rrep.originatorSeqNum) ?_
    simp only [forwarded, forward, hprevious]
  | some e =>
    refine hcomplete (forward_self_of_updated _ hprevious ?_ sourceAddr)
    by_cases hsource : rrep.destAddr = sourceAddr
    · rw [hsource, previousHop_self] at hprevious
      cases hprevious
      exact .inl (by simp)
    · rw [previousHop_of_ne m.entry hsource] at hprevious
      exact h e hprevious hsource

end

/-- The next hop is found exactly if it is known. -/
theorem nextHopKnown_iff (rrep : AODVRREP) (sourceAddr : IPv4Address) :
    m.NextHopKnown rrep sourceAddr ↔ ∀ destRoute, m.forwarded rrep sourceAddr rrep.destAddr = some destRoute →
      (m.forwarded rrep sourceAddr destRoute.gateway).isSome := by
  by_cases hkept : ∃ e, m.entry rrep.destAddr = some e ∧ rrep.destAddr ≠ sourceAddr ∧
      ¬ isUpdatedBy e rrep
  · obtain ⟨e, he, hsource, hnot⟩ := hkept
    have hroute := forwarded_of_kept m rrep sourceAddr he hsource hnot
    simp only [NextHopKnown, he, hroute, forwarded_isSome_iff, some.injEq, forall_eq']
    constructor
    · intro h
      exact (h hsource hnot).imp_right .inl
    · rintro (hknown | hsame | hself) _ _
      · exact .inl hknown
      · exact .inr hsame
      · refine .inl ?_
        rw [hself, he]
        rfl
  · obtain ⟨e, hroute, hgateway⟩ := forwarded_of_replaced m rrep sourceAddr fun e he hsource => by
      by_contra hnot
      exact hkept ⟨e, he, hsource, hnot⟩
    refine iff_of_true (fun e he hsource hnot => absurd ⟨e, he, hsource, hnot⟩ hkept) fun destRoute hdest => ?_
    cases some.inj (hroute.symm.trans hdest)
    rw [hgateway]
    exact forwarded_sourceAddr _ rrep sourceAddr

theorem addPrecursors_survives {destRoute : AODVRoute}
    (hdest : m.findRoute rrep.destAddr = some destRoute) (hgw : (m.entry destRoute.gateway).isSome) :
    Survives (m.addPrecursors rrep nextHop) := by
  have heffect := m.modifyRoute_effect rrep.destAddr (fun r => r.addPrecursor nextHop) fun _ => rfl
  have hfound := findRoute_of_entry heffect.entry (findRoute_isSome_iff.mpr hgw)
  obtain ⟨route, hroute⟩ := isSome_iff_exists.mp hfound
  simp only [addPrecursors, hdest, hroute]
  exact .pure _

/-- What relaying a RREP looks up once the routes have been updated. -/
theorem relayRREP_survives (sourceAddr : IPv4Address) (hdest : (m.entry rrep.destAddr).isSome)
    (h : (m.entry rrep.originatorAddr).isSome → m.rebooted → ∀ destRoute, m.entry rrep.destAddr = some destRoute →
      (m.entry destRoute.gateway).isSome) : Survives (m.relayRREP rrep sourceAddr) := by
  unfold relayRREP
  cases horig : m.findRoute rrep.originatorAddr with
  | none => exact .pure m
  | some originatorRoute =>
    have h₁ := m.modifyRoute_effect rrep.originatorAddr
      (fun r => { r with lifeTime := max (m.simTime + m.par.activeRouteTimeout) r.lifeTime }) fun _ => rfl
    refine .ite (fun hrebooted => ?_) fun _ => .pure _
    have hack : Survives ((m.modifyRoute rrep.originatorAddr fun r =>
        { r with lifeTime := max (m.simTime + m.par.activeRouteTimeout) r.lifeTime }).acknowledgeRREP rrep sourceAddr) :=
      .ite (fun _ => sendAODVPacket_survives _ _ _ _ (by decide)) fun _ => .pure _
    refine hack.bind_of_ensures (acknowledgeRREP_effect _ rrep sourceAddr) fun m₂ h₂ => ?_
    have hentry : m₂.entry = m.entry := h₂.entry.trans h₁.entry
    have hsome : (m₂.findRoute rrep.destAddr).isSome := findRoute_isSome_iff.mpr (hentry ▸ hdest)
    obtain ⟨destRoute, hroute⟩ := isSome_iff_exists.mp hsome
    have hgw := h (by rw [entry_eq_some horig]; rfl) hrebooted destRoute.toRouteEntry (hentry ▸ entry_eq_some hroute)
    refine (addPrecursors_survives hroute (hentry ▸ hgw)).bind fun m₃ _ => ?_
    exact sendAODVPacket_survives _ _ _ _ (by decide)

theorem gateway_of_addPrecursors_ok
    (h : m.addPrecursors rrep nextHop = .ok m') {destRoute : RouteEntry}
    (hdest : m.entry rrep.destAddr = some destRoute) : (m.entry destRoute.gateway).isSome := by
  obtain ⟨route, hroute, rfl⟩ := map_eq_some_iff.mp hdest
  have heffect := m.modifyRoute_effect rrep.destAddr (fun r => r.addPrecursor nextHop) fun _ => rfl
  rw [← heffect.entry, ← findRoute_isSome_iff]
  simp only [addPrecursors, hroute] at h
  split at h
  · cases h
  · rename_i found hfound
    rw [hfound]
    rfl

theorem gateway_of_relayRREP_ok
    (h : m.relayRREP rrep sourceAddr = .ok m') (horig : (m.entry rrep.originatorAddr).isSome) (hrebooted : m.rebooted)
    {destRoute : RouteEntry} (hdest : m.entry rrep.destAddr = some destRoute) : (m.entry destRoute.gateway).isSome := by
  obtain ⟨originatorRoute, hroute⟩ := isSome_iff_exists.mp (findRoute_isSome_iff.mpr horig)
  have h₁ := m.modifyRoute_effect rrep.originatorAddr
    (fun r => { r with lifeTime := max (m.simTime + m.par.activeRouteTimeout) r.lifeTime }) fun _ => rfl
  simp only [relayRREP, hroute] at h
  rw [if_pos (show (m.modifyRoute rrep.originatorAddr fun r =>
    { r with lifeTime := max (m.simTime + m.par.activeRouteTimeout) r.lifeTime }).rebooted = true from hrebooted)] at h
  obtain ⟨m₂, hack, hrest⟩ := bind_ok.mp h
  have hentry : m₂.entry = m.entry := (acknowledgeRREP_effect _ rrep sourceAddr m₂ hack).entry.trans h₁.entry
  obtain ⟨m₃, hadd, -⟩ := bind_ok.mp hrest
  rw [← hentry] at hdest ⊢
  exact gateway_of_addPrecursors_ok hadd hdest

/-- What has to be routable for a RREP or a Hello, and the next hop of the route that a relayed RREP leaves. -/
structure HearsRREP (m : AODVRouting) (rrep : AODVRREP) (sourceAddr : IPv4Address) : Prop where
  source : ¬ isUnspecified rrep.originatorAddr → m.Routable sourceAddr
  dest : m.Routable rrep.destAddr
  nextHop : m.Relays rrep sourceAddr → m.NextHopKnown { rrep with hopCount := rrep.hopCount + 1 } sourceAddr

theorem handleRREP_survives (h : m.HearsRREP rrep sourceAddr) : Survives (m.handleRREP rrep sourceAddr) := by
  refine .ite (fun _ => handleHelloMessage_survives h.dest) fun hhello => ?_
  have hsource := h.source hhello
  have hprevious := (updatePreviousHopRoute_effect m sourceAddr rrep.originatorSeqNum).and
    (updatePreviousHopRoute_routesOnly m sourceAddr rrep.originatorSeqNum)
  refine (updatePreviousHopRoute_survives hsource _).bind_of_ensures hprevious fun m₁ hm₁ => ?_
  have hdest₁ : m₁.Routable rrep.destAddr := (routable_iff_of_previousHop hm₁.1.entry hsource _).mpr h.dest
  have hforward := (updateForwardRoute_effect m₁ { rrep with hopCount := rrep.hopCount + 1 } sourceAddr).and
    (updateForwardRoute_routesOnly m₁ { rrep with hopCount := rrep.hopCount + 1 } sourceAddr)
  have hsurvives : Survives (m₁.updateForwardRoute { rrep with hopCount := rrep.hopCount + 1 } sourceAddr) := by
    refine updateForwardRoute_survives ?_ sourceAddr
    exact hdest₁
  refine hsurvives.bind_of_ensures hforward fun m₂ hm₂ => ?_
  have hentry : m₂.entry = m.forwarded { rrep with hopCount := rrep.hopCount + 1 } sourceAddr := by
    rw [hm₂.1.entry, hm₁.1.entry]
    rfl
  have hself : m₂.getSelfIPAddress = m.getSelfIPAddress := hm₂.1.routerId.trans hm₁.1.routerId
  refine .ite (fun hne => relayRREP_survives sourceAddr ?_ fun horig hrebooted => ?_) fun _ => ?_
  · rw [hentry]
    exact forwarded_destAddr _ { rrep with hopCount := rrep.hopCount + 1 } sourceAddr
  · have hrelays : m.Relays rrep sourceAddr := by
      refine ⟨hhello, hself ▸ hne, ?_, ?_⟩
      · rwa [hm₂.2.rebooted, hm₁.2.rebooted] at hrebooted
      · rw [hentry] at horig
        exact (forwarded_isSome_iff _ { rrep with hopCount := rrep.hopCount + 1 } sourceAddr _).mp horig
    rw [hentry]
    exact (nextHopKnown_iff { rrep with hopCount := rrep.hopCount + 1 } sourceAddr).mp (h.nextHop hrelays)
  · refine .ite (fun hongoing => ?_) fun _ => .pure _
    refine (updateRoutingTable_survives _ _ _ _ _ _ _ _).bind fun m₃ hm₃ => ?_
    have hdiscovery : m₃.discovery = m₂.discovery := by
      obtain ⟨t, rfl⟩ := scheduleExpungeRoutes_ok _ m₃ hm₃
      rfl
    have hstill : m₃.hasOngoingRouteDiscovery rrep.destAddr = true := by
      rw [hasOngoingRouteDiscovery, hdiscovery]
      exact hongoing
    rw [completeRouteDiscovery, ensure_pos hstill]
    exact .pure _

theorem nextHopKnown_of_ok
    (h : m.handleRREP rrep sourceAddr = .ok m') (hrelays : m.Relays rrep sourceAddr) :
    m.NextHopKnown { rrep with hopCount := rrep.hopCount + 1 } sourceAddr := by
  rw [handleRREP, if_neg hrelays.1] at h
  obtain ⟨m₁, hm₁, h⟩ := bind_ok.mp h
  obtain ⟨m₂, hm₂, h⟩ := bind_ok.mp h
  have heffect₁ := updatePreviousHopRoute_effect m _ _ m₁ hm₁
  have heffect₂ := updateForwardRoute_effect m₁ _ _ m₂ hm₂
  have hentry : m₂.entry = m.forwarded { rrep with hopCount := rrep.hopCount + 1 } sourceAddr := by
    rw [heffect₂.entry, heffect₁.entry]
    rfl
  have hself : m₂.getSelfIPAddress = m.getSelfIPAddress := heffect₂.routerId.trans heffect₁.routerId
  have hrebooted : m₂.rebooted = m.rebooted :=
    (updateForwardRoute_routesOnly m₁ _ _ m₂ hm₂).rebooted.trans (updatePreviousHopRoute_routesOnly m _ _ m₁ hm₁).rebooted
  rw [if_pos (hself ▸ hrelays.2.1)] at h
  rw [nextHopKnown_iff, ← hentry]
  intro destRoute hdest
  refine gateway_of_relayRREP_ok h ?_ (hrebooted ▸ hrelays.2.2.1) hdest
  rw [hentry]
  exact (forwarded_isSome_iff _ { rrep with hopCount := rrep.hopCount + 1 } sourceAddr _).mpr hrelays.2.2.2

theorem hearsRREP_of_ok (h : m.handleRREP rrep sourceAddr = .ok m') : m.HearsRREP rrep sourceAddr := by
  have hroutable : (¬ isUnspecified rrep.originatorAddr → m.Routable sourceAddr) ∧ m.Routable rrep.destAddr := by
    rw [handleRREP] at h
    by_cases hhello : isUnspecified rrep.originatorAddr = true
    · rw [if_pos hhello] at h
      exact ⟨fun hne => absurd hhello hne, routable_of_handleHelloMessage_ok h⟩
    · rw [if_neg hhello] at h
      obtain ⟨m₁, hm₁, h⟩ := bind_ok.mp h
      obtain ⟨m₂, hm₂, -⟩ := bind_ok.mp h
      have hsource := routable_of_updatePreviousHopRoute_ok hm₁
      have hprevious := (updatePreviousHopRoute_effect m _ _ m₁ hm₁).entry
      have hdest := routable_of_updateForwardRoute_ok hm₂
      exact ⟨fun _ => hsource, (routable_iff_of_previousHop hprevious hsource _).mp hdest⟩
  exact ⟨hroutable.1, hroutable.2, nextHopKnown_of_ok h⟩

/-- Control packets and link breaks. -/
def Event.IsControl : Event → Prop
  | .packet _ _ _ | .linkBreak _ => True
  | _ => False

/-- The condition under which an event does no harm. -/
def Bears (m : AODVRouting) : Event → Prop
  | .packet .RREPACK _ _ => m.rrepAckTimer.isSome
  | .packet (.RREQ rreq) sourceAddr _ => m.HearsRREQ rreq sourceAddr
  | .packet (.RREP rrep) sourceAddr _ => m.HearsRREP rrep sourceAddr
  | .linkBreak datagram => ∀ route, m.entry datagram.destAddress = some route → m.LinkOfItsOwn route.gateway
  | _ => True

theorem handleRREPACK_survives {neighborAddr : IPv4Address} (h : m.rrepAckTimer.isSome) :
    Survives (m.handleRREPACK neighborAddr) := by
  rw [handleRREPACK, ensure_pos h]
  cases m.findRoute neighborAddr with
  | none => exact .pure m
  | some _ => exact .pure _

theorem control_survives {e : Event} (he : e.IsControl) (h : m.Bears e) : Survives (m.handleMessage e) := by
  cases e with
  | packet packet sourceAddr timeToLive =>
    cases packet with
    | RREQ rreq => exact handleRREQ_survives h timeToLive
    | RREP rrep => exact handleRREP_survives h
    | RERR rerr => exact handleRERR_survives rerr sourceAddr
    | RREPACK => exact handleRREPACK_survives h
  | linkBreak datagram =>
    show Survives (m.receiveChangeNotification datagram)
    unfold receiveChangeNotification
    cases hr : m.findRoute datagram.destAddress with
    | none => exact .pure m
    | some route => exact handleLinkBreakSendRERR_survives (h _ (entry_eq_some hr))
  | _ => cases he

theorem bears_of_ok {e : Event} (h : m.handleMessage e = .ok m') : m.Bears e := by
  cases e with
  | packet packet sourceAddr timeToLive =>
    cases packet with
    | RREQ rreq => exact hearsRREQ_of_ok h
    | RREP rrep => exact hearsRREP_of_ok h
    | RERR rerr => trivial
    | RREPACK => exact (ensure_bind_ok.mp h).1
  | linkBreak datagram =>
    rintro route hroute
    obtain ⟨r, hr, rfl⟩ := map_eq_some_iff.mp hroute
    change m.receiveChangeNotification datagram = .ok m' at h
    rw [receiveChangeNotification, hr] at h
    exact linkOfItsOwn_of_ok h
  | _ => trivial

theorem bears_of_not_control {e : Event} (he : ¬ e.IsControl) : m.Bears e := by
  cases e with
  | packet packet sourceAddr timeToLive => exact absurd trivial he
  | linkBreak datagram => exact absurd trivial he
  | _ => trivial

/-- No control packet and no link break fails but for a timer in the past. -/
def StaysUp (m : AODVRouting) (events : List Event) : Prop :=
  Runs.EveryStep handleMessage (fun m e => e.IsControl → Survives (m.handleMessage e)) m events

def datagramToNeighbor : IPv4Datagram where
  byteLength := 120
  headerLength := 20
  srcAddress := 0x0A000001
  destAddress := 0x0A000002
  timeToLive := 32
  identification := 0
  moreFragments := false
  dontFragment := false
  fragmentOffset := 0
  totalPayloadLength := 100
  encapsulatedPacket := none

end AODVRouting

end Inet.Aodv
