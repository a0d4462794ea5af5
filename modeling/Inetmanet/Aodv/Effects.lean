import Inetmanet.Lib.Ensures
import Inetmanet.Aodv.AODVRouting

/-!
# What the operations of the AODV module do

One lemma for each operation: which entries the routes have afterwards, what the
packets it sends offer, and that nothing else a handler relies on has changed.
-/
namespace Inet.Aodv

open Ipv4 Function Option AODVControlPacket RouteEntry AODVRouting

/-- The routes of a node, by destination. -/
abbrev Entries := IPv4Address → Option RouteEntry

/-- What a packet says about a destination: its sequence number and how far away it is. -/
structure Offer where
  dest : IPv4Address
  seqNum : BitVec 32
  hopCount : BitVec 32
  deriving DecidableEq, Repr

/-- A RREQ offers a route to its originator, a RREP one to its destination. -/
def AODVControlPacket.offer : AODVControlPacket → Option Offer
  | RREQ rreq => some ⟨rreq.originatorAddr, rreq.originatorSeqNum, rreq.hopCount⟩
  | RREP rrep => some ⟨rrep.destAddr, rrep.destSeqNum, rrep.hopCount⟩
  | RERR _ => none
  | RREPACK => none

/-- A packet that was sent has the property `Q`. -/
def Output.Carries (Q : AODVControlPacket → Prop) : Output → Prop
  | sent packet _ _ _ => Q packet
  | reinjected _ => True

theorem Output.Carries.mono {Q Q' : AODVControlPacket → Prop} (h : ∀ p, Q p → Q' p) {o : Output} (ho : o.Carries Q) :
    o.Carries Q' := by
  cases o with
  | sent packet _ _ _ => exact h packet ho
  | reinjected _ => trivial

variable {dest : IPv4Address}

namespace AODVRouting

open IPv4Address

def entry (m : AODVRouting) : Entries := fun dest => (m.findRoute dest).map (·.toRouteEntry)

theorem entry_eq_none {m : AODVRouting} (h : m.findRoute dest = none) : m.entry dest = none := by
  simp [entry, h]

theorem entry_eq_some {m : AODVRouting} {r : AODVRoute} (h : m.findRoute dest = some r) :
    m.entry dest = some r.toRouteEntry := by
  simp [entry, h]

/-- The entries have become `E`, and all packets sent have the property `Q`. -/
structure Change (m m' : AODVRouting) (E : Entries) (Q : AODVControlPacket → Prop) : Prop where
  simTime : m'.simTime = m.simTime
  par : m'.par = m.par
  routerId : m'.routerId = m.routerId
  entry : m'.entry = E
  output : ∃ out, m'.output = m.output ++ out ∧ ∀ o ∈ out, o.Carries Q

/-- A change that route discovery has no part in. -/
structure Effect (m m' : AODVRouting) (E : Entries) (Q : AODVControlPacket → Prop) : Prop extends Change m m' E Q where
  discovery : m'.discovery = m.discovery

/-- No packet at all. -/
def NoPacket : AODVControlPacket → Prop := fun _ => False

section

variable {m m₁ m₂ : AODVRouting} {E E₁ E₂ : Entries} {Q Q' : AODVControlPacket → Prop}

namespace Change

theorem mono (h : Change m m₁ E Q) (hQ : ∀ p, Q p → Q' p) : Change m m₁ E Q' :=
  { h with
    output := h.output.imp fun _ ho => ⟨ho.1, fun o hmem => (ho.2 o hmem).mono hQ⟩ }

theorem trans (h₁ : Change m m₁ E₁ Q) (h₂ : Change m₁ m₂ E₂ Q) : Change m m₂ E₂ Q where
  simTime := h₂.simTime.trans h₁.simTime
  par := h₂.par.trans h₁.par
  routerId := h₂.routerId.trans h₁.routerId
  entry := h₂.entry
  output := by
    obtain ⟨out₁, ho₁, hc₁⟩ := h₁.output
    obtain ⟨out₂, ho₂, hc₂⟩ := h₂.output
    refine ⟨out₁ ++ out₂, by rw [ho₂, ho₁, List.append_assoc], fun o ho => ?_⟩
    exact (List.mem_append.mp ho).elim (hc₁ o) (hc₂ o)

/-- An operation that leaves the entries alone, after another one. -/
theorem keep (h₁ : Change m m₁ E Q) (h₂ : Change m₁ m₂ m₁.entry Q) : Change m m₂ E Q := h₁.entry ▸ h₁.trans h₂

end Change

namespace Effect

theorem refl : Effect m m m.entry Q := ⟨⟨rfl, rfl, rfl, rfl, [], by simp⟩, rfl⟩

theorem mono (h : Effect m m₁ E Q) (hQ : ∀ p, Q p → Q' p) : Effect m m₁ E Q' := ⟨h.toChange.mono hQ, h.discovery⟩

theorem quiet (h : Effect m m₁ E NoPacket) : Effect m m₁ E Q := h.mono fun _ hp => False.elim hp

theorem trans (h₁ : Effect m m₁ E₁ Q) (h₂ : Effect m₁ m₂ E₂ Q) : Effect m m₂ E₂ Q :=
  ⟨h₁.toChange.trans h₂.toChange, h₂.discovery.trans h₁.discovery⟩

theorem keep (h₁ : Effect m m₁ E Q) (h₂ : Effect m₁ m₂ m₁.entry Q) : Effect m m₂ E Q := h₁.entry ▸ h₁.trans h₂

end Effect

end

variable (m : AODVRouting)

theorem entry_modifyRoute (dest : IPv4Address) (f : AODVRoute → AODVRoute) :
    (m.modifyRoute dest f).entry =
      update m.entry dest ((m.findRoute dest).map fun r => (f r).toRouteEntry) := by
  funext d
  by_cases h : d = dest
  · subst h
    simp [entry, findRoute, modifyRoute, AODVRoutes.find?_modify, comp_def]
  · simp [entry, findRoute, modifyRoute, AODVRoutes.find?_modify, h]

/-- Precursors and lifetimes are no part of an entry. -/
theorem modifyRoute_effect (dest : IPv4Address) (f : AODVRoute → AODVRoute)
    (hf : ∀ r, (f r).toRouteEntry = r.toRouteEntry) : Effect m (m.modifyRoute dest f) m.entry NoPacket where
  discovery := rfl
  simTime := rfl
  par := rfl
  routerId := rfl
  entry := by
    rw [entry_modifyRoute]
    simp only [hf]
    exact update_eq_self dest m.entry
  output := ⟨[], by simp [modifyRoute], by simp⟩

/-- Only the routes have changed, and the time at which they are looked at. -/
def RoutesOnly (m m' : AODVRouting) : Prop := ∃ table t, m' = { m with table := table, expungeTimer := t }

theorem RoutesOnly.hasSeen {m m' : AODVRouting} (h : RoutesOnly m m') (rreq : AODVRREQ) :
    m'.hasSeen rreq = m.hasSeen rreq := by
  obtain ⟨table, t, rfl⟩ := h
  rfl

theorem scheduleExpungeRoutes_ok :
    Ensures m.scheduleExpungeRoutes fun m' => ∃ t, m' = { m with expungeTimer := t } := by
  refine .ite (fun _ => .pure ⟨_, rfl⟩) fun _ => .ite (fun _ => .pure ⟨m.expungeTimer, rfl⟩) fun _ => ?_
  exact .bind_any fun t => .pure ⟨_, rfl⟩

theorem scheduleExpungeRoutes_effect :
    Ensures m.scheduleExpungeRoutes fun m' => Effect m m' m.entry NoPacket := by
  refine m.scheduleExpungeRoutes_ok.mono ?_
  rintro m' ⟨t, rfl⟩
  exact ⟨⟨rfl, rfl, rfl, rfl, [], by simp⟩, rfl⟩

theorem insert_effect (route : AODVRoute) :
    Effect m { m with table := m.table.insert route }
      (update m.entry route.destination (some route.toRouteEntry)) NoPacket := by
  refine ⟨⟨rfl, rfl, rfl, ?_, [], by simp⟩, rfl⟩
  funext d
  by_cases hd : d = route.destination
  · subst hd
    simp [entry, findRoute, AODVRoutes.find?_insert]
  · simp [entry, findRoute, AODVRoutes.find?_insert, hd]

theorem addRoute_ok (t : AODVRoutes) (route : AODVRoute) : Ensures (t.addRoute route) (· = t.insert route) :=
  .ite (fun _ => .throw) fun _ => .pure rfl

theorem createRoute_effect (destAddr nextHop : IPv4Address) (hopCount : BitVec 32) (hasValidDestNum : Bool)
    (destSeqNum : BitVec 32) (isActive : Bool) (lifeTime : Int) :
    Ensures (m.createRoute destAddr nextHop hopCount hasValidDestNum destSeqNum isActive lifeTime) fun m' =>
      Effect m m' (update m.entry destAddr
        (some ⟨nextHop, hopCount, isActive, hasValidDestNum, destSeqNum⟩)) NoPacket := by
  refine .bind (addRoute_ok m.table _) fun table htable => ?_
  subst htable
  exact (scheduleExpungeRoutes_effect _).mono fun _ h => (m.insert_effect _).keep h

theorem createRoute_routesOnly (destAddr nextHop : IPv4Address) (hopCount : BitVec 32) (hasValidDestNum : Bool)
    (destSeqNum : BitVec 32) (isActive : Bool) (lifeTime : Int) :
    Ensures (m.createRoute destAddr nextHop hopCount hasValidDestNum destSeqNum isActive lifeTime) (RoutesOnly m) :=
  .bind_any fun table => (scheduleExpungeRoutes_ok _).mono fun _ h => ⟨table, h⟩

theorem modifyRoute_update {e : RouteEntry} (he : m.entry dest = some e)
    (f : AODVRoute → AODVRoute) {e' : RouteEntry} (hf : ∀ r, r.toRouteEntry = e → (f r).toRouteEntry = e') :
    Effect m (m.modifyRoute dest f) (update m.entry dest (some e')) NoPacket := by
  obtain ⟨r, hr, rfl⟩ := map_eq_some_iff.mp he
  exact ⟨⟨rfl, rfl, rfl, by rw [entry_modifyRoute, hr, ← hf r rfl]; rfl, [], by simp [modifyRoute]⟩, rfl⟩

theorem updateRoutingTable_effect {destAddr : IPv4Address} {route : AODVRoute} (hroute : m.findRoute destAddr = some route)
    (nextHop : IPv4Address) (hopCount : BitVec 32) (hasValidDestNum : Bool) (destSeqNum : BitVec 32) (isActive : Bool)
    (lifeTime : Int) :
    Ensures (m.updateRoutingTable destAddr nextHop hopCount hasValidDestNum destSeqNum isActive lifeTime) fun m' =>
      Effect m m' (update m.entry destAddr
        (some ⟨nextHop, hopCount, isActive, hasValidDestNum, destSeqNum⟩)) NoPacket := by
  refine (scheduleExpungeRoutes_effect _).mono fun _ h => Effect.keep ?_ h
  exact m.modifyRoute_update (entry_eq_some hroute) _ fun _ _ => rfl

theorem updateValidRouteLifeTime_effect (destAddr : IPv4Address) (lifetime : Int) :
    Effect m (m.updateValidRouteLifeTime destAddr lifetime) m.entry NoPacket := by
  refine m.modifyRoute_effect _ _ fun r => ?_
  by_cases h : r.active = true
  · simp [h]
  · simp [h]

theorem sendAODVPacket_effect (packet : AODVControlPacket) (destAddr : IPv4Address) (timeToLive : BitVec 32)
    (jitter : Bool) :
    Ensures (m.sendAODVPacket packet destAddr timeToLive jitter) fun m' => Effect m m' m.entry (· = packet) := by
  refine .bind_any fun _ => .pure ⟨⟨rfl, rfl, rfl, rfl, _, rfl, ?_⟩, rfl⟩
  simp [Output.Carries]

/-- What a node tells about itself. -/
def OffersSelf (o : Option Offer) : Prop := ∃ seqNum hopCount, o = some ⟨m.routerId, seqNum, hopCount⟩

theorem createRREQ_effect (destAddr : IPv4Address) :
    Effect m (m.createRREQ destAddr).2 m.entry NoPacket ∧ (m.createRREQ destAddr).1.destAddr = destAddr ∧
      m.OffersSelf (RREQ (m.createRREQ destAddr).1).offer := by
  refine ⟨⟨⟨rfl, rfl, rfl, rfl, [], by simp [createRREQ]⟩, rfl⟩, ?_⟩
  cases hr : m.findRoute destAddr with
  | none => simp [createRREQ, hr, OffersSelf, offer, getSelfIPAddress]
  | some r =>
    by_cases hv : r.validDestNum = true
    · simp [createRREQ, hr, hv, OffersSelf, offer, getSelfIPAddress]
    · simp [createRREQ, hr, hv, OffersSelf, offer, getSelfIPAddress]

/-- A RREP offers a route to the node itself, or one of its own routes. -/
theorem createRREP_effect (rreq : AODVRREQ) (destRoute originatorRoute : Option AODVRoute) (lastHopAddr : IPv4Address) :
    Ensures (m.createRREP rreq destRoute originatorRoute lastHopAddr) fun res =>
      Effect m res.2 m.entry NoPacket ∧
        (m.OffersSelf (RREP res.1).offer ∨
          ∃ r, destRoute = some r ∧ (RREP res.1).offer = some ⟨rreq.destAddr, r.destSeqNum, r.metric⟩) := by
  unfold createRREP
  refine .ite (fun hself => .pure ⟨⟨⟨rfl, rfl, rfl, rfl, [], by simp⟩, rfl⟩, .inl ?_⟩) fun _ => ?_
  · exact ⟨_, _, congrArg some (congrArg (Offer.mk · _ _) hself)⟩
  · cases destRoute with
    | none => exact .throw
    | some r =>
      cases originatorRoute with
      | none => exact .throw
      | some _ =>
        have h₁ := m.modifyRoute_effect rreq.destAddr (fun r => r.addPrecursor lastHopAddr) fun _ => rfl
        exact .pure ⟨h₁.keep (modifyRoute_effect _ _ _ fun _ => rfl), .inr ⟨r, rfl, rfl⟩⟩

theorem requireAck_effect (destRoute : AODVRoute) (rrep : AODVRREP) :
    Ensures (m.requireAck destRoute rrep) fun res =>
      Effect m res.2 m.entry NoPacket ∧ (RREP res.1).offer = (RREP rrep).offer := by
  unfold requireAck
  refine .ite (fun _ => .bind_any fun _ => .pure ⟨?_, rfl⟩) fun _ => .pure ⟨.refl, rfl⟩
  exact ⟨⟨rfl, rfl, rfl, rfl, [], by simp⟩, rfl⟩

theorem sendRREP_effect (rrep : AODVRREP) (destAddr : IPv4Address) (timeToLive : BitVec 32) :
    Ensures (m.sendRREP rrep destAddr timeToLive) fun m' =>
      Effect m m' m.entry fun p => p.offer = (RREP rrep).offer := by
  unfold sendRREP
  cases m.findRoute destAddr with
  | none => exact .throw
  | some destRoute =>
    have h₁ := m.modifyRoute_effect destAddr (fun r => r.addPrecursor destRoute.gateway) fun _ => rfl
    refine .bind (requireAck_effect _ destRoute rrep) fun res ⟨h₂, hoffer⟩ => ?_
    refine (sendAODVPacket_effect _ _ _ _ _).mono fun m' h₃ => ?_
    exact (h₁.keep h₂).quiet.keep (h₃.mono fun p hp => by rw [hp, hoffer])

theorem sendGRREP_effect (grrep : AODVRREP) (destAddr : IPv4Address) (timeToLive : BitVec 32) :
    Ensures (m.sendGRREP grrep destAddr timeToLive) fun m' => Effect m m' m.entry (· = .RREP grrep) := by
  unfold sendGRREP
  cases m.findRoute destAddr with
  | none => exact .throw
  | some destRoute => exact sendAODVPacket_effect _ _ _ _ _

end AODVRouting

namespace Entries

variable (E : Entries)

/-- The route to the node a packet comes from. -/
def previousHop (sourceAddr : IPv4Address) (originatorSeqNum : BitVec 32) : Entries :=
  update E sourceAddr (some ⟨sourceAddr, 1, true, false, originatorSeqNum⟩)

def hello (helloMessage : AODVRREP) : Entries :=
  update E helloMessage.destAddr (some ⟨helloMessage.destAddr, 1, true, true, helloMessage.destSeqNum⟩)

/-- The route to the destination of a RREP. -/
def complete (rrep : AODVRREP) (sourceAddr : IPv4Address) : Entries :=
  update E rrep.destAddr (some ⟨sourceAddr, rrep.hopCount, true, true, rrep.destSeqNum⟩)

def forward (rrep : AODVRREP) (sourceAddr : IPv4Address) : Entries :=
  match E rrep.destAddr with
  | some destRoute => if AODVRouting.isUpdatedBy destRoute rrep then E.complete rrep sourceAddr else E
  | none => E.complete rrep sourceAddr

theorem forward_isSome (rrep : AODVRREP) (sourceAddr : IPv4Address) :
    (E.forward rrep sourceAddr rrep.destAddr).isSome := by
  unfold forward
  cases hE : E rrep.destAddr with
  | none => simp [complete]
  | some e =>
    by_cases h : isUpdatedBy e rrep
    · simp [h, complete]
    · simp [h, hE]

/-- The route to the originator of a RREQ. -/
def reverse (rreq : AODVRREQ) (sourceAddr : IPv4Address) : Entries :=
  match E rreq.originatorAddr with
  | some reverseRoute =>
    if AODVRouting.isReversedBy reverseRoute rreq then
      update E rreq.originatorAddr (some ⟨sourceAddr, rreq.hopCount, true, true,
        AODVRouting.maxSeqNum reverseRoute.destSeqNum rreq.originatorSeqNum⟩)
    else E
  | none =>
    update E rreq.originatorAddr (some ⟨sourceAddr, rreq.hopCount, true, true, rreq.originatorSeqNum⟩)

theorem previousHop_self (sourceAddr : IPv4Address) (seqNum : BitVec 32) :
    E.previousHop sourceAddr seqNum sourceAddr = some ⟨sourceAddr, 1, true, false, seqNum⟩ :=
  update_self ..

theorem previousHop_of_ne {sourceAddr : IPv4Address} (h : dest ≠ sourceAddr) (seqNum : BitVec 32) :
    E.previousHop sourceAddr seqNum dest = E dest := update_of_ne h ..

theorem complete_self (rrep : AODVRREP) (sourceAddr : IPv4Address) :
    E.complete rrep sourceAddr rrep.destAddr = some ⟨sourceAddr, rrep.hopCount, true, true, rrep.destSeqNum⟩ :=
  update_self ..

variable {rrep : AODVRREP} {r : RouteEntry}

theorem complete_of_ne (h : dest ≠ rrep.destAddr) (sourceAddr : IPv4Address) :
    E.complete rrep sourceAddr dest = E dest := update_of_ne h ..

theorem forward_of_ne (h : dest ≠ rrep.destAddr) (sourceAddr : IPv4Address) :
    E.forward rrep sourceAddr dest = E dest := by
  cases hr : E rrep.destAddr with
  | none =>
    simp only [forward, hr]
    exact complete_of_ne E h sourceAddr
  | some r =>
    by_cases hu : isUpdatedBy r rrep
    · simp only [forward, hr, if_pos hu]
      exact complete_of_ne E h sourceAddr
    · simp only [forward, hr, if_neg hu]

theorem forward_self_of_updated (hr : E rrep.destAddr = some r)
    (h : isUpdatedBy r rrep) (sourceAddr : IPv4Address) :
    E.forward rrep sourceAddr = E.complete rrep sourceAddr := by
  unfold forward
  rw [hr]
  exact if_pos h

theorem forward_self_of_kept (hr : E rrep.destAddr = some r)
    (h : ¬ isUpdatedBy r rrep) (sourceAddr : IPv4Address) : E.forward rrep sourceAddr = E := by
  unfold forward
  rw [hr]
  exact if_neg h

theorem reverse_of_ne {rreq : AODVRREQ} (h : dest ≠ rreq.originatorAddr)
    (sourceAddr : IPv4Address) : E.reverse rreq sourceAddr dest = E dest := by
  cases hr : E rreq.originatorAddr with
  | none =>
    simp only [reverse, hr]
    exact update_of_ne h ..
  | some r =>
    by_cases hu : isReversedBy r rreq
    · simp only [reverse, hr, if_pos hu]
      exact update_of_ne h ..
    · simp only [reverse, hr, if_neg hu]

theorem reverse_self_of_reversed {rreq : AODVRREQ} (hr : E rreq.originatorAddr = some r)
    (h : isReversedBy r rreq) (sourceAddr : IPv4Address) :
    E.reverse rreq sourceAddr rreq.originatorAddr = some ⟨sourceAddr, rreq.hopCount, true, true,
      maxSeqNum r.destSeqNum rreq.originatorSeqNum⟩ := by
  unfold reverse
  rw [hr]
  simp only [if_pos h, update_self]

theorem reverse_self_of_kept {rreq : AODVRREQ} (hr : E rreq.originatorAddr = some r)
    (h : ¬ isReversedBy r rreq) (sourceAddr : IPv4Address) :
    E.reverse rreq sourceAddr rreq.originatorAddr = some r := by
  unfold reverse
  simp only [if_neg h, hr]

end Entries

namespace AODVRouting

variable (m : AODVRouting)

theorem updatePreviousHopRoute_effect (sourceAddr : IPv4Address) (originatorSeqNum : BitVec 32) :
    Ensures (m.updatePreviousHopRoute sourceAddr originatorSeqNum) fun m' =>
      Effect m m' (m.entry.previousHop sourceAddr originatorSeqNum) NoPacket := by
  unfold updatePreviousHopRoute
  cases hr : m.findRoute sourceAddr with
  | none => exact createRoute_effect _ _ _ _ _ _ _ _
  | some r => exact updateRoutingTable_effect _ hr _ _ _ _ _ _

theorem updatePreviousHopRoute_routesOnly (sourceAddr : IPv4Address) (originatorSeqNum : BitVec 32) :
    Ensures (m.updatePreviousHopRoute sourceAddr originatorSeqNum) (RoutesOnly m) := by
  unfold updatePreviousHopRoute
  cases m.findRoute sourceAddr with
  | none => exact createRoute_routesOnly _ _ _ _ _ _ _ _
  | some r =>
    exact (scheduleExpungeRoutes_ok _).mono fun m' ⟨t, h⟩ => ⟨_, t, h⟩

theorem handleHelloMessage_effect (helloMessage : AODVRREP) :
    Ensures (m.handleHelloMessage helloMessage) fun m' => Effect m m' (m.entry.hello helloMessage) NoPacket := by
  unfold handleHelloMessage
  cases hr : m.findRoute helloMessage.destAddr with
  | none => exact createRoute_effect _ _ _ _ _ _ _ _
  | some r => exact updateRoutingTable_effect _ hr _ _ _ _ _ _

theorem updateForwardRoute_effect (rrep : AODVRREP) (sourceAddr : IPv4Address) :
    Ensures (m.updateForwardRoute rrep sourceAddr) fun m' =>
      Effect m m' (m.entry.forward rrep sourceAddr) NoPacket := by
  unfold updateForwardRoute Entries.forward
  cases hr : m.findRoute rrep.destAddr with
  | none =>
    rw [entry_eq_none hr]
    exact createRoute_effect _ _ _ _ _ _ _ _
  | some r =>
    rw [entry_eq_some hr]
    by_cases h : isUpdatedBy r.toRouteEntry rrep
    · simp only [if_pos h]
      exact updateRoutingTable_effect _ hr _ _ _ _ _ _
    · simp only [if_neg h]
      exact .pure .refl

theorem updateReverseRoute_effect (rreq : AODVRREQ) (sourceAddr : IPv4Address) :
    Ensures (m.updateReverseRoute rreq sourceAddr) fun m' =>
      Effect m m' (m.entry.reverse rreq sourceAddr) NoPacket := by
  unfold updateReverseRoute Entries.reverse
  cases hr : m.findRoute rreq.originatorAddr with
  | none =>
    rw [entry_eq_none hr]
    exact createRoute_effect _ _ _ _ _ _ _ _
  | some r =>
    rw [entry_eq_some hr]
    by_cases h : isReversedBy r.toRouteEntry rreq
    · simp only [if_pos h]
      exact updateRoutingTable_effect _ hr _ _ _ _ _ _
    · simp only [if_neg h]
      exact .pure .refl

theorem acknowledgeRREP_effect (rrep : AODVRREP) (sourceAddr : IPv4Address) :
    Ensures (m.acknowledgeRREP rrep sourceAddr) fun m' => Effect m m' m.entry (·.offer = none) :=
  .ite (fun _ => (sendAODVPacket_effect _ _ _ _ _).mono fun _ h => h.mono fun p hp => by rw [hp]; rfl)
    fun _ => .pure .refl

theorem addPrecursors_effect (rrep : AODVRREP) (nextHop : IPv4Address) :
    Ensures (m.addPrecursors rrep nextHop) fun m' => Effect m m' m.entry NoPacket := by
  unfold addPrecursors
  cases m.findRoute rrep.destAddr with
  | none => exact .throw
  | some destRoute =>
    have h₁ := m.modifyRoute_effect rrep.destAddr (fun r => r.addPrecursor nextHop) fun _ => rfl
    cases hgw : (m.modifyRoute rrep.destAddr fun r => r.addPrecursor nextHop).findRoute destRoute.gateway with
    | none =>
      simp only [hgw]
      exact .throw
    | some _ =>
      simp only [hgw]
      exact .pure (h₁.keep (modifyRoute_effect _ _ _ fun _ => rfl))

/-- What a node sends when a RREP comes in: acknowledgements and the RREP itself. -/
theorem relayRREP_effect (rrep : AODVRREP) (sourceAddr : IPv4Address) :
    Ensures (m.relayRREP rrep sourceAddr) fun m' =>
      Effect m m' m.entry fun p => p.offer = none ∨ p.offer = (RREP rrep).offer := by
  unfold relayRREP
  cases m.findRoute rrep.originatorAddr with
  | none => exact .pure .refl
  | some originatorRoute =>
    have h₁ := m.modifyRoute_effect rrep.originatorAddr
      (fun r => { r with lifeTime := max (m.simTime + m.par.activeRouteTimeout) r.lifeTime }) fun _ => rfl
    refine .ite (fun _ => ?_) fun _ => .pure h₁.quiet
    refine .bind (acknowledgeRREP_effect _ rrep sourceAddr) fun m₂ h₂ => ?_
    refine .bind (addPrecursors_effect _ rrep originatorRoute.gateway) fun m₃ h₃ => ?_
    refine (sendAODVPacket_effect _ _ _ _ _).mono fun m₄ h₄ => ?_
    exact ((h₁.quiet.keep (h₂.mono fun _ hp => .inl hp)).keep h₃.quiet).keep (h₄.mono fun p hp => .inr (by rw [hp]; rfl))

/-- What a node offers when a RREQ comes in: a route to itself, its route to the
destination, the route of the RREQ, or, in a gratuitous RREP, its route to the originator. -/
def Answers (rreq : AODVRREQ) (o : Option Offer) : Prop :=
  m.OffersSelf o ∨ (∃ e, m.entry rreq.destAddr = some e ∧ o = some ⟨rreq.destAddr, e.destSeqNum, e.metric⟩) ∨
    o = some ⟨rreq.originatorAddr, rreq.originatorSeqNum, rreq.hopCount⟩ ∨
    ∃ e, m.entry rreq.originatorAddr = some e ∧ o = some ⟨rreq.originatorAddr, rreq.originatorSeqNum, e.metric⟩

section

variable (rreq : AODVRREQ)
include rreq

theorem replyToRREQ_effect (sourceAddr : IPv4Address) {destRoute : Option AODVRoute}
    (hroute : destRoute = m.findRoute rreq.destAddr) :
    Ensures (m.replyToRREQ rreq destRoute sourceAddr) fun m' => Effect m m' m.entry fun p => m.Answers rreq p.offer := by
  refine .bind (createRREP_effect m rreq destRoute _ sourceAddr) fun res ⟨h₁, hoffer⟩ => ?_
  refine (sendRREP_effect _ _ _ _).mono fun m' h₂ => h₁.quiet.keep (h₂.mono fun p hp => ?_)
  rw [hp]
  cases hoffer with
  | inl hself => exact .inl hself
  | inr hdest =>
    obtain ⟨r, hr, ho⟩ := hdest
    exact .inr (.inl ⟨r.toRouteEntry, entry_eq_some (hroute.symm.trans hr), ho⟩)

theorem sendGratuitousRREP_effect :
    Ensures (m.sendGratuitousRREP rreq) fun m' => Effect m m' m.entry fun p => m.Answers rreq p.offer := by
  unfold sendGratuitousRREP
  cases hr : m.findRoute rreq.originatorAddr with
  | none => exact .throw
  | some originatorRoute =>
    refine (sendGRREP_effect _ _ _ _).mono fun m' h => h.mono fun p hp => ?_
    exact .inr (.inr (.inr ⟨originatorRoute.toRouteEntry, entry_eq_some hr, by rw [hp]; rfl⟩))

theorem answerRREQ_effect (sourceAddr : IPv4Address) {destRoute : AODVRoute}
    (hroute : m.findRoute rreq.destAddr = some destRoute) :
    Ensures (m.answerRREQ rreq destRoute sourceAddr) fun m' =>
      Effect m m' m.entry fun p => m.Answers rreq p.offer := by
  refine .ite (fun _ => .pure .refl) fun _ => ?_
  refine .bind (replyToRREQ_effect m rreq sourceAddr hroute.symm) fun m₁ h₁ => ?_
  refine .ite (fun _ => ?_) fun _ => .pure h₁
  refine (sendGratuitousRREP_effect _ rreq).mono fun m₂ h₂ => h₁.keep (h₂.mono fun p hp => ?_)
  simpa only [Answers, OffersSelf, h₁.entry, h₁.routerId] using hp

theorem relayRREQ_effect (destRoute : Option AODVRoute) (timeToLive : BitVec 32) :
    Ensures (m.relayRREQ rreq destRoute timeToLive) fun m' =>
      Effect m m' m.entry fun p => m.Answers rreq p.offer :=
  .ite (fun _ => (sendAODVPacket_effect _ _ _ _ _).mono fun _ h =>
      h.mono fun _ hp => .inr (.inr (.inl (by rw [hp]; rfl))))
    fun _ => .pure .refl

theorem disseminateRREQ_effect (sourceAddr : IPv4Address) (timeToLive : BitVec 32) :
    Ensures (m.disseminateRREQ rreq sourceAddr timeToLive) fun m' =>
      Effect m m' m.entry fun p => m.Answers rreq p.offer := by
  refine .ite (fun _ => replyToRREQ_effect m rreq sourceAddr rfl) fun _ => ?_
  cases hr : m.findRoute rreq.destAddr with
  | none => exact relayRREQ_effect m rreq none timeToLive
  | some destRoute =>
    exact .ite (fun _ => answerRREQ_effect m rreq sourceAddr hr) fun _ => relayRREQ_effect m rreq _ timeToLive

/-- A RREQ from a node that is not blacklisted leads to a route back to that node and, if the RREQ
is new, to one back to its originator. -/
theorem handleRREQ_effect (sourceAddr : IPv4Address) (timeToLive : BitVec 32) :
    Ensures (m.handleRREQ rreq sourceAddr timeToLive) fun m' =>
      if (m.blacklist.lookup sourceAddr).isSome then Effect m m' m.entry NoPacket
      else if m.hasSeen rreq then Effect m m' (m.entry.previousHop sourceAddr rreq.originatorSeqNum) NoPacket
      else
        Effect m m' ((m.entry.previousHop sourceAddr rreq.originatorSeqNum).reverse
            { rreq with hopCount := rreq.hopCount + 1 } sourceAddr) fun p =>
          m'.Answers { rreq with hopCount := rreq.hopCount + 1 } p.offer := by
  unfold handleRREQ
  by_cases hb : (m.blacklist.lookup sourceAddr).isSome = true
  · simp only [if_pos hb]
    exact .pure .refl
  · simp only [if_neg hb]
    refine .bind ((updatePreviousHopRoute_effect m sourceAddr rreq.originatorSeqNum).and
      (updatePreviousHopRoute_routesOnly m sourceAddr rreq.originatorSeqNum)) fun m₁ ⟨h₁, hroutes⟩ => ?_
    rw [hroutes.hasSeen]
    by_cases hs : m.hasSeen rreq = true
    · simp only [if_pos hs]
      exact .pure h₁
    · simp only [if_neg hs]
      have hrecord : Effect m₁ { m₁ with rreqsArrivalTime := m₁.rreqsArrivalTime.insert rreq.rreqId m₁.simTime }
          m₁.entry NoPacket := ⟨⟨rfl, rfl, rfl, rfl, [], by simp⟩, rfl⟩
      refine .bind (updateReverseRoute_effect _ _ sourceAddr) fun m₂ h₂ => ?_
      refine (disseminateRREQ_effect m₂ _ sourceAddr timeToLive).mono fun m₃ h₃ => ?_
      have h₁₂ := (h₁.keep hrecord).trans h₂
      rw [hrecord.entry, h₁.entry] at h₁₂
      refine h₁₂.quiet.keep (h₃.mono fun p hp => ?_)
      simpa only [Answers, OffersSelf, h₃.entry, h₃.routerId] using hp

end

end AODVRouting

namespace RouteEntry

def invalidate (e : RouteEntry) (destSeqNum : BitVec 32) : RouteEntry :=
  { e with destSeqNum := destSeqNum, active := false }

def nextSeqNum (e : RouteEntry) : BitVec 32 := if e.validDestNum then e.destSeqNum + 1 else e.destSeqNum

/-- What a link break to `unreachableAddr` makes of a route. -/
def linkBroken (unreachableAddr : IPv4Address) (e : RouteEntry) : RouteEntry :=
  if e.gateway = unreachableAddr then e.invalidate e.nextSeqNum else e

/-- What a listed node makes of the route to `dest`. -/
def unreachable (dest : IPv4Address) (e : RouteEntry) (node : UnreachableNode) : RouteEntry :=
  if dest = node.addr then e.invalidate node.seqNum else e

/-- What a RERR makes of the route to `dest`. -/
def error (rerr : AODVRERR) (sourceAddr dest : IPv4Address) (e : RouteEntry) : RouteEntry :=
  if e.gateway = sourceAddr then rerr.unreachableNodes.foldl (unreachable dest) e else e

/-- What is left of a route that a datagram should have been forwarded along. -/
def noRoute (e : RouteEntry) : RouteEntry := if e.active then e else { e with destSeqNum := e.nextSeqNum }

end RouteEntry

namespace AODVRouting

variable (m : AODVRouting)

/-- A loop that deals with each route by itself. -/
theorem foldlM_routes_effect {β : Type} {f : AODVRouting × β → AODVRoute → Sim (AODVRouting × β)}
    (g : IPv4Address → RouteEntry → RouteEntry)
    (hf : ∀ acc r, acc.1.entry r.destination = some r.toRouteEntry → Ensures (f acc r) fun acc' =>
      Effect acc.1 acc'.1
        (update acc.1.entry r.destination (some (g r.destination r.toRouteEntry))) NoPacket) (b : β) :
    Ensures (m.table.routes.foldlM f (m, b)) fun acc =>
      Effect m acc.1 (fun dest => (m.entry dest).map (g dest)) NoPacket := by
  let I (rest : List AODVRoute) (acc : AODVRouting × β) : Prop :=
    rest <:+ m.table.routes ∧
      Effect m acc.1 (fun dest =>
        if dest ∈ rest.map (·.destination) then m.entry dest else (m.entry dest).map (g dest)) NoPacket
  have hstart : I m.table.routes (m, b) := by
    refine ⟨List.suffix_refl _, ⟨⟨rfl, rfl, rfl, ?_, [], by simp⟩, rfl⟩⟩
    funext dest
    by_cases h : dest ∈ m.table.routes.map (·.destination)
    · rw [if_pos h]
    · have hnone : m.entry dest = none := by
        refine entry_eq_none (List.find?_eq_none.mpr fun r hr he => h ?_)
        exact of_decide_eq_true he ▸ List.mem_map_of_mem hr
      rw [if_neg h, hnone]
      rfl
  refine (Ensures.foldlM (I := I) (fun acc r rest hI => ?_) hstart).mono fun acc hI => by simpa [I] using hI.2
  obtain ⟨hsuffix, heffect⟩ := hI
  have hr : m.entry r.destination = some r.toRouteEntry :=
    entry_eq_some (AODVRoutes.find?_of_mem (hsuffix.subset (by simp)))
  have hnew : r.destination ∉ rest.map (·.destination) := by
    have hord := m.table.ordered.sublist (hsuffix.sublist.map _)
    intro hmem
    exact BitVec.lt_irrefl _ ((List.pairwise_cons.mp hord).1 _ hmem)
  have hacc : acc.1.entry r.destination = some r.toRouteEntry := by rw [heffect.entry]; simp [hr]
  refine (hf acc r hacc).mono fun acc' h => ⟨(List.suffix_cons r rest).trans hsuffix, ?_⟩
  have htrans := heffect.trans h
  convert htrans using 1
  funext dest
  by_cases hd : dest = r.destination
  · subst hd
    simp [hnew, hr]
  · simp [hd, heffect.entry]

theorem handleUnreachableNode_effect (route : AODVRoute) (acc : AODVRouting × List UnreachableNode)
    (node : UnreachableNode) {e : RouteEntry} (he : acc.1.entry route.destination = some e) :
    Ensures (handleUnreachableNode route acc node) fun acc' =>
      Effect acc.1 acc'.1
        (update acc.1.entry route.destination (some (e.unreachable route.destination node))) NoPacket := by
  unfold handleUnreachableNode unreachable
  by_cases h : route.destination = node.addr
  · simp only [if_pos h]
    refine .bind (scheduleExpungeRoutes_effect _) fun m' hm' => .pure (Effect.keep ?_ hm')
    exact acc.1.modifyRoute_update he _ fun r hr => by simp [invalidate, ← hr]
  · simp only [if_neg h]
    refine .pure ?_
    rw [← he, update_eq_self]
    exact .refl

theorem handleRERRForRoute_effect (rerr : AODVRERR) (sourceAddr : IPv4Address)
    (acc : AODVRouting × List UnreachableNode) (route : AODVRoute)
    (he : acc.1.entry route.destination = some route.toRouteEntry) :
    Ensures (handleRERRForRoute rerr sourceAddr acc route) fun acc' =>
      Effect acc.1 acc'.1 (update acc.1.entry route.destination
        (some (route.toRouteEntry.error rerr sourceAddr route.destination))) NoPacket := by
  unfold handleRERRForRoute error
  by_cases h : route.gateway = sourceAddr
  · simp only [if_pos h]
    let I (nodes : List UnreachableNode) (acc' : AODVRouting × List UnreachableNode) : Prop :=
      ∃ e, nodes.foldl (unreachable route.destination) e =
          rerr.unreachableNodes.foldl (unreachable route.destination) route.toRouteEntry ∧
        Effect acc.1 acc'.1 (update acc.1.entry route.destination (some e)) NoPacket
    have hstart : I rerr.unreachableNodes acc := by
      refine ⟨route.toRouteEntry, rfl, ?_⟩
      rw [← he, update_eq_self]
      exact .refl
    refine (Ensures.foldlM (I := I) (fun acc' node nodes hI => ?_) hstart).mono fun acc' hI => ?_
    · obtain ⟨e, hfold, heffect⟩ := hI
      have he' : acc'.1.entry route.destination = some e := by rw [heffect.entry, update_self]
      refine (handleUnreachableNode_effect route acc' node he').mono fun acc'' h'' => ⟨_, hfold, ?_⟩
      simpa only [heffect.entry, update_idem] using heffect.trans h''
    · obtain ⟨e, hfold, heffect⟩ := hI
      rwa [← hfold]
  · simp only [if_neg h]
    refine .pure ?_
    rw [← he, update_eq_self]
    exact .refl

theorem handleRERR_effect (rerr : AODVRERR) (sourceAddr : IPv4Address) :
    Ensures (m.handleRERR rerr sourceAddr) fun m' =>
      Effect m m' (fun dest => (m.entry dest).map (·.error rerr sourceAddr dest)) (·.offer = none) := by
  refine .bind (foldlM_routes_effect m (fun dest e => e.error rerr sourceAddr dest)
    (fun acc r h => handleRERRForRoute_effect rerr sourceAddr acc r h) []) fun acc h => ?_
  refine .ite (fun _ => .pure h.quiet) fun _ => .ite (fun _ => ?_) fun _ => .pure h.quiet
  refine .bind (sendAODVPacket_effect _ _ _ _ _) fun m₂ h₂ => .pure ?_
  have h₁₂ := h.quiet.keep (h₂.mono fun p hp => show p.offer = none by rw [hp]; rfl)
  exact { h₁₂ with }

section

variable (unreachableAddr : IPv4Address)
include unreachableAddr

theorem breakRoute_effect (acc : AODVRouting × List UnreachableNode)
    (route : AODVRoute) (he : acc.1.entry route.destination = some route.toRouteEntry) :
    Ensures (breakRoute unreachableAddr acc route) fun acc' =>
      Effect acc.1 acc'.1 (update acc.1.entry route.destination
        (some (route.toRouteEntry.linkBroken unreachableAddr))) NoPacket := by
  unfold breakRoute linkBroken
  by_cases h : route.gateway = unreachableAddr
  · simp only [if_pos h]
    refine .bind (scheduleExpungeRoutes_effect _) fun m' hm' => .pure (Effect.keep ?_ hm')
    exact acc.1.modifyRoute_update he _ fun r hr => by simp [invalidate, nextSeqNum, ← hr]
  · simp only [if_neg h]
    refine .pure ?_
    rw [← he, update_eq_self]
    exact .refl

theorem handleLinkBreakSendRERR_effect :
    Ensures (m.handleLinkBreakSendRERR unreachableAddr) fun m' =>
      Effect m m' (if (m.entry unreachableAddr).isSome then
        fun dest => (m.entry dest).map (·.linkBroken unreachableAddr) else m.entry) (·.offer = none) := by
  unfold handleLinkBreakSendRERR
  cases hr : m.findRoute unreachableAddr with
  | none =>
    rw [entry_eq_none hr]
    exact .pure .refl
  | some unreachableRoute =>
    rw [entry_eq_some hr]
    refine .bind (foldlM_routes_effect m (fun _ e => e.linkBroken unreachableAddr)
      (fun acc r h => breakRoute_effect unreachableAddr acc r h) _) fun acc h => ?_
    refine .ite (fun _ => .throw) fun _ => .ite (fun _ => .pure h.quiet) fun _ => ?_
    refine (sendAODVPacket_effect _ _ _ _ _).mono fun m₂ h₂ => ?_
    have hcount : Effect acc.1 { acc.1 with rerrCount := acc.1.rerrCount + 1 } acc.1.entry NoPacket :=
      ⟨⟨rfl, rfl, rfl, rfl, [], by simp⟩, rfl⟩
    exact (h.keep hcount).quiet.keep (h₂.mono fun p hp => by rw [hp]; rfl)

theorem sendRERRWhenNoRouteToForward_effect :
    Ensures (m.sendRERRWhenNoRouteToForward unreachableAddr) fun m' => Effect m m' m.entry (·.offer = none) := by
  refine .ite (fun _ => .pure .refl) fun _ => (sendAODVPacket_effect _ _ _ _ _).mono fun m₂ h₂ => ?_
  have hcount : Effect m { m with rerrCount := m.rerrCount + 1 } m.entry NoPacket :=
    ⟨⟨rfl, rfl, rfl, rfl, [], by simp⟩, rfl⟩
  exact hcount.quiet.keep (h₂.mono fun p hp => by rw [hp]; rfl)

end

/-- The gateways of the link that broke: of the route to where the datagram went. -/
theorem receiveChangeNotification_effect (datagram : IPv4Datagram) :
    Ensures (m.receiveChangeNotification datagram) fun m' =>
      Effect m m' (match m.entry datagram.destAddress with
        | some e => if (m.entry e.gateway).isSome then fun dest => (m.entry dest).map (·.linkBroken e.gateway) else m.entry
        | none => m.entry) (·.offer = none) := by
  unfold receiveChangeNotification
  cases hr : m.findRoute datagram.destAddress with
  | none =>
    rw [entry_eq_none hr]
    exact .pure .refl
  | some route =>
    rw [entry_eq_some hr]
    exact handleLinkBreakSendRERR_effect m route.gateway

theorem updateNextHopLifeTime_effect (route : Option AODVRoute) :
    Effect m (m.updateNextHopLifeTime route) m.entry NoPacket := by
  cases route with
  | none => exact .refl
  | some route => exact updateValidRouteLifeTime_effect _ _ _

theorem updateLifeTimes_effect (datagram : IPv4Datagram) :
    Effect m (m.updateLifeTimes datagram) m.entry NoPacket := by
  have h₁ := updateValidRouteLifeTime_effect m datagram.srcAddress (m.simTime + m.par.activeRouteTimeout)
  exact ((h₁.keep (updateValidRouteLifeTime_effect _ _ _)).keep (updateNextHopLifeTime_effect _ _)).keep
    (updateNextHopLifeTime_effect _ _)

/-- The hook changes an entry only where there is an inactive route to the destination. -/
theorem datagramForwardHook_effect (datagram : IPv4Datagram) :
    Ensures (m.datagramForwardHook datagram) fun m' =>
      Effect m m' (if m.isNotRouted datagram.destAddress then m.entry else
        update m.entry datagram.destAddress ((m.entry datagram.destAddress).map (·.noRoute)))
        (·.offer = none) := by
  unfold datagramForwardHook
  by_cases hn : m.isNotRouted datagram.destAddress = true
  · simp only [if_pos hn]
    refine .pure ?_
    by_cases hl : m.isLocalAddress datagram.destAddress = true
    · rw [if_pos hl]
      exact (updateNextHopLifeTime_effect m _).quiet
    · rw [if_neg hl]
      exact .refl
  · simp only [if_neg hn]
    have h₁ := updateLifeTimes_effect m datagram
    cases hr : m.findRoute datagram.destAddress with
    | none =>
      rw [entry_eq_none hr, map_none, ← entry_eq_none hr, update_eq_self]
      exact (sendRERRWhenNoRouteToForward_effect _ _).mono fun _ h => h₁.quiet.keep h
    | some route =>
      rw [entry_eq_some hr]
      by_cases ha : route.active = true
      · simp only [if_pos ha, map_some, noRoute]
        rw [← entry_eq_some hr, update_eq_self]
        exact .pure h₁.quiet
      · simp only [if_neg ha, map_some, noRoute]
        have he : (m.updateLifeTimes datagram).entry datagram.destAddress = some route.toRouteEntry := by
          rw [h₁.entry, entry_eq_some hr]
        refine (sendRERRWhenNoRouteToForward_effect _ _).mono fun _ h => Effect.keep (Effect.quiet ?_) h
        exact h₁.entry ▸ h₁.trans (modifyRoute_update _ he _ fun r hr => by simp [nextSeqNum, ← hr])

/-- The neighbour that acknowledges is reached again. -/
theorem handleRREPACK_effect (neighborAddr : IPv4Address) :
    Ensures (m.handleRREPACK neighborAddr) fun m' =>
      Effect m m' (update m.entry neighborAddr
        ((m.entry neighborAddr).map fun e => { e with active := true })) NoPacket := by
  refine .bind_any fun _ => ?_
  cases hr : m.findRoute neighborAddr with
  | none =>
    rw [entry_eq_none hr, map_none, ← entry_eq_none hr, update_eq_self]
    exact .pure .refl
  | some r =>
    rw [entry_eq_some hr, map_some]
    have h := m.modifyRoute_update (entry_eq_some hr) (fun r => { r with active := true }) fun r' hr' => by rw [hr']
    exact .pure { h with }

theorem handleRREPACKTimer_effect :
    Ensures m.handleRREPACKTimer fun m' => Effect m m' m.entry NoPacket := by
  unfold handleRREPACKTimer
  cases m.blacklistTimer with
  | some _ => exact .pure ⟨⟨rfl, rfl, rfl, rfl, [], by simp⟩, rfl⟩
  | none =>
    exact .bind_any fun _ => .pure ⟨⟨rfl, rfl, rfl, rfl, [], by simp⟩, rfl⟩

theorem handleBlackListTimer_effect :
    Ensures m.handleBlackListTimer fun m' => Effect m m' m.entry NoPacket :=
  .ite (fun _ => .pure ⟨⟨rfl, rfl, rfl, rfl, [], by simp⟩, rfl⟩) fun _ =>
    .bind_any fun _ => .pure ⟨⟨rfl, rfl, rfl, rfl, [], by simp⟩, rfl⟩

theorem sendHelloMessage_effect :
    Ensures m.sendHelloMessage fun m' => Effect m m' m.entry fun p => m.OffersSelf p.offer :=
  .ite (fun _ => (sendAODVPacket_effect _ _ _ _ _).mono fun _ h => h.mono fun _ hp => ⟨_, _, congrArg _ hp⟩)
    fun _ => .pure .refl

theorem sendHelloMessagesIfNeeded_effect (periodicJitter : Int) :
    Ensures (m.sendHelloMessagesIfNeeded periodicJitter) fun m' => Effect m m' m.entry fun p => m.OffersSelf p.offer := by
  refine .bind_any fun _ => ?_
  refine .bind (sendHelloMessage_effect m) fun m₁ h₁ => ?_
  exact .bind_any fun _ => .pure { h₁ with }

/-- An expired route becomes inactive; an inactive one that no discovery waits for may be deleted. -/
theorem expungeRoutes_effect :
    Ensures m.expungeRoutes fun m' => Effect m m' m'.entry NoPacket ∧ ∀ dest, m'.entry dest = m.entry dest ∨
      ∃ r, m.findRoute dest = some r ∧ r.lifeTime ≤ m.simTime ∧
        (r.active = true ∧ m'.entry dest = some { r.toRouteEntry with active := false } ∨
          r.active = false ∧ m.hasOngoingRouteDiscovery dest = false ∧ m'.entry dest = none) := by
  refine (scheduleExpungeRoutes_effect _).mono fun m' h =>
    ⟨⟨⟨h.simTime, h.par, h.routerId, rfl, h.output⟩, h.discovery⟩, fun dest => ?_⟩
  have hentry : m'.entry dest = (AODVRoutes.find? (m.table.expunge m.simTime m.par.deletePeriod m.par.netTraversalTime
      m.hasOngoingRouteDiscovery) dest).map (·.toRouteEntry) := congrFun h.entry dest
  have hfind := m.table.find?_expunge m.simTime m.par.deletePeriod m.par.netTraversalTime m.hasOngoingRouteDiscovery dest
  rw [hentry]
  cases hfind with
  | inl hsame => exact .inl (by rw [hsame]; rfl)
  | inr hexpired =>
    obtain ⟨r, hr, hlife, o, ho, hcase⟩ := hexpired
    rw [ho]
    rcases hcase with ⟨hactive, rfl⟩ | ⟨hinactive, rfl | ⟨hon, rfl⟩⟩
    · exact .inr ⟨r, hr, hlife, .inl ⟨hactive, rfl⟩⟩
    · exact .inl (entry_eq_some hr).symm
    · exact .inr ⟨r, hr, hlife, .inr ⟨hinactive, hon, rfl⟩⟩

end AODVRouting

end Inet.Aodv
