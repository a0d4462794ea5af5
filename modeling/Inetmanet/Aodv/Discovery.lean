import Inetmanet.Lib.Runs
import Inetmanet.Aodv.Effects

/-!
# Route discovery

What the steps of a node do with its timers for Route Replies and with the
datagrams it has delayed, and in which runs no datagram stays behind.
-/
namespace Inet.Aodv

open Ipv4 List Option AList

variable {target : IPv4Address} {D : RouteDiscovery}

namespace AODVRouting

open IPv4Address

variable (m : AODVRouting)

theorem scheduleAt_ok (t : Int) : Ensures (m.scheduleAt t) fun t' => t' = t ∧ m.simTime ≤ t :=
  .ite (fun _ => .throw) fun h => .pure ⟨rfl, Int.not_lt.mp h⟩

/-- The TTL that follows in the expanding ring search. -/
def nextTTL (lastTTL : BitVec 32) : BitVec 32 :=
  if lastTTL + m.par.ttlIncrement < m.par.ttlThreshold then lastTTL + m.par.ttlIncrement else m.par.netDiameter

/-- The timer a RREQ leaves behind, if there was `rrepTimer` before. -/
def nextTimer : Option WaitForRREP → WaitForRREP
  | some rrepTimer =>
    { rrepTimer with
      lastTTL := m.nextTTL rrepTimer.lastTTL
      scheduled := some (m.simTime + m.ringTraversalTime (m.nextTTL rrepTimer.lastTTL)) }
  | none => ⟨m.par.ttlStart, false, some (m.simTime + m.ringTraversalTime m.par.ttlStart)⟩

/-- The timer does not go off in the past. -/
def OnTime (timer : WaitForRREP) : Prop := ∀ t, timer.scheduled = some t → m.simTime ≤ t

/-- The timers of `D` that are new do not go off in the past. -/
def Timely (D : RouteDiscovery) : Prop :=
  ∀ target timer, D.waitForRREPTimers.lookup target = some timer →
    m.discovery.waitForRREPTimers.lookup target = some timer ∨ m.OnTime timer

theorem timely_of_eq (h : D.waitForRREPTimers = m.discovery.waitForRREPTimers) : m.Timely D :=
  fun _ _ ht => .inl (h ▸ ht)

theorem timely_insert {timer : WaitForRREP}
    (h : D.waitForRREPTimers = m.discovery.waitForRREPTimers.insert target timer) (ht : m.OnTime timer) : m.Timely D := by
  intro target' timer' hl
  rw [h] at hl
  by_cases he : target' = target
  · subst he
    rw [lookup_insert] at hl
    exact .inr (some.inj hl ▸ ht)
  · rw [lookup_insert_ne he] at hl
    exact .inl hl

/-- Does the rate limit forbid another RREQ? -/
def limited : Prop := m.par.rreqRatelimit ≤ m.discovery.rreqCount
deriving Decidable

theorem sendRREQ_limited (h : m.limited) (rreq : AODVRREQ) (destAddr : IPv4Address) (timeToLive : BitVec 32) :
    m.sendRREQ rreq destAddr timeToLive = .ok m := if_pos h

variable {Q : AODVControlPacket → Prop} {timeToLive : BitVec 32}

theorem nextRing_ok (target : IPv4Address)
    (h : timeToLive = 0 ∨ m.discovery.waitForRREPTimers.lookup target = none) :
    Ensures (m.nextRing target timeToLive) fun res =>
      { res.1 with scheduled := some (m.simTime + m.ringTraversalTime res.2) } =
        m.nextTimer (m.discovery.waitForRREPTimers.lookup target) := by
  unfold nextRing
  cases ht : m.discovery.waitForRREPTimers.lookup target with
  | none => exact .pure rfl
  | some timer =>
    have hzero : timeToLive = 0 := h.resolve_right (by simp [ht])
    refine .ite (fun hne => absurd hzero hne) fun _ => ?_
    exact .bind_any fun _ => .pure rfl

theorem sendRREQ_change (hlimit : ¬ m.limited) (rreq : AODVRREQ) (destAddr : IPv4Address)
    (h : timeToLive = 0 ∨ m.discovery.waitForRREPTimers.lookup rreq.destAddr = none) :
    Ensures (m.sendRREQ rreq destAddr timeToLive) fun m' =>
      Change m m' m.entry (· = .RREQ rreq) ∧ m'.discovery = { m.discovery with
        waitForRREPTimers := m.discovery.waitForRREPTimers.insert rreq.destAddr
          (m.nextTimer (m.discovery.waitForRREPTimers.lookup rreq.destAddr))
        rreqCount := m.discovery.rreqCount + 1 } ∧
        m.OnTime (m.nextTimer (m.discovery.waitForRREPTimers.lookup rreq.destAddr)) := by
  refine .ite (fun hl => absurd hl hlimit) fun _ => ?_
  refine .bind (nextRing_ok m rreq.destAddr h) fun res htimer => ?_
  refine .bind (scheduleAt_ok _ _) ?_
  rintro _ ⟨rfl, hnow⟩
  refine .bind (sendAODVPacket_effect _ _ _ _ _) fun m₂ h₂ => .pure ?_
  have hset : Change m (m.setTimer rreq.destAddr
      { res.1 with scheduled := some (m.simTime + m.ringTraversalTime res.2) }) m.entry (· = .RREQ rreq) :=
    ⟨rfl, rfl, rfl, rfl, [], by simp [setTimer]⟩
  refine ⟨{ hset.keep h₂.toChange with }, ?_, ?_⟩
  · simp only [h₂.discovery, setTimer, htimer]
  · rw [← htimer]
    intro t ht
    exact some.inj ht ▸ hnow

/-- What is left of a RREQ for `target` that was asked for with these numbers of retries. -/
def requested (target : IPv4Address) (retries : StdMap IPv4Address (BitVec 32)) : RouteDiscovery :=
  if m.limited then { m.discovery with addressToRreqRetries := retries }
  else { m.discovery with
    addressToRreqRetries := retries
    waitForRREPTimers := m.discovery.waitForRREPTimers.insert target
      (m.nextTimer (m.discovery.waitForRREPTimers.lookup target))
    rreqCount := m.discovery.rreqCount + 1 }

/-- A node sends a RREQ of its own. -/
theorem sendRREQ_requested (target : IPv4Address) (retries : StdMap IPv4Address (BitVec 32))
    (h : timeToLive = 0 ∨ m.discovery.waitForRREPTimers.lookup target = none) :
    Ensures ({ (m.createRREQ target).2 with discovery.addressToRreqRetries := retries }.sendRREQ
        (m.createRREQ target).1 ALLONES_ADDRESS timeToLive) fun m' =>
      Change m m' m.entry (fun p => m.OffersSelf p.offer) ∧ m'.discovery = m.requested target retries ∧
        m.Timely m'.discovery := by
  obtain ⟨hcreate, hdest, hself⟩ := m.createRREQ_effect target
  generalize hm₁ : { (m.createRREQ target).2 with discovery.addressToRreqRetries := retries } = m₁
  have h₁ : Change m m₁ m.entry fun p => m.OffersSelf p.offer := hm₁ ▸ { hcreate.quiet.toChange with }
  have hd₁ : m₁.discovery = { m.discovery with addressToRreqRetries := retries } := by rw [← hm₁]; rfl
  have hlimited : m₁.limited ↔ m.limited := by rw [limited, limited, h₁.par, hd₁]
  have hnext (o : Option WaitForRREP) : m₁.nextTimer o = m.nextTimer o := by
    cases o with
    | none => simp only [nextTimer, ringTraversalTime, h₁.par, h₁.simTime]
    | some timer => simp only [nextTimer, nextTTL, ringTraversalTime, h₁.par, h₁.simTime]
  by_cases hl : m.limited
  · rw [sendRREQ_limited m₁ (hlimited.mpr hl)]
    exact .ok ⟨h₁, by rw [hd₁, requested, if_pos hl], m.timely_of_eq (by rw [hd₁])⟩
  · have hlookup : timeToLive = 0 ∨ m₁.discovery.waitForRREPTimers.lookup (m.createRREQ target).1.destAddr = none := by
      rwa [hd₁, hdest]
    refine (sendRREQ_change m₁ (mt hlimited.mp hl) _ ALLONES_ADDRESS hlookup).mono fun m' ⟨h₂, hd, ht⟩ => ?_
    rw [hd₁, hdest, hnext] at hd ht
    refine ⟨h₁.keep (h₂.mono fun p hp => hp ▸ hself), by rw [hd, requested, if_neg hl], ?_⟩
    refine m.timely_insert (by rw [hd]) ?_
    simpa only [OnTime, h₁.simTime] using ht

theorem startRouteDiscovery_change (target : IPv4Address) (timeToLive : BitVec 32) :
    Ensures (m.startRouteDiscovery target timeToLive) fun m' =>
      Change m m' m.entry (fun p => m.OffersSelf p.offer) ∧
        m'.discovery = m.requested target (m.discovery.addressToRreqRetries.insert target 0) ∧
        m.Timely m'.discovery := by
  intro m' hm'
  obtain ⟨hfree, hm'⟩ := ensure_bind_ok.mp hm'
  have hnone : m.discovery.waitForRREPTimers.lookup target = none := by simpa [hasOngoingRouteDiscovery] using hfree
  exact sendRREQ_requested m target _ (.inr hnone) m' hm'

/-- What the timer of a discovery leaves behind when it goes off. -/
def retried (destAddr : IPv4Address) (rrepTimer : WaitForRREP) (retries : BitVec 32) : RouteDiscovery :=
  if retries = m.par.rreqRetries then m.discovery
  else m.requested destAddr (if rrepTimer.lastTTL = m.par.netDiameter then
    m.discovery.addressToRreqRetries.insert destAddr (retries + 1) else m.discovery.addressToRreqRetries)

theorem retried_of_eq {destAddr : IPv4Address} {rrepTimer : WaitForRREP} {retries : BitVec 32}
    (h : retries = m.par.rreqRetries) : m.retried destAddr rrepTimer retries = m.discovery := if_pos h

theorem retried_of_ne {destAddr : IPv4Address} {rrepTimer : WaitForRREP} {retries : BitVec 32}
    (h : ¬ retries = m.par.rreqRetries) :
    m.retried destAddr rrepTimer retries = m.requested destAddr (if rrepTimer.lastTTL = m.par.netDiameter then
      m.discovery.addressToRreqRetries.insert destAddr (retries + 1) else m.discovery.addressToRreqRetries) := if_neg h

theorem handleWaitForRREP_change (destAddr : IPv4Address) (rrepTimer : WaitForRREP) :
    Ensures (m.handleWaitForRREP destAddr rrepTimer) fun m' =>
      Change m m' m.entry (fun p => m.OffersSelf p.offer) ∧
        ∃ retries, m.discovery.addressToRreqRetries.lookup destAddr = some retries ∧
          m'.discovery = m.retried destAddr rrepTimer retries ∧ m.Timely m'.discovery := by
  unfold handleWaitForRREP
  cases hr : m.discovery.addressToRreqRetries.lookup destAddr with
  | none => exact .throw
  | some retries =>
    by_cases hmax : retries = m.par.rreqRetries
    · simp only [if_pos hmax]
      exact .pure ⟨Effect.refl.toChange, retries, rfl, by rw [retried, if_pos hmax], m.timely_of_eq rfl⟩
    · simp only [if_neg hmax]
      by_cases httl : rrepTimer.lastTTL = (m.createRREQ destAddr).2.par.netDiameter
      · rw [if_pos httl]
        refine (sendRREQ_requested m destAddr _ (.inl rfl)).mono fun m' ⟨h, hd, ht⟩ =>
          ⟨h, retries, rfl, ?_, ht⟩
        rw [retried, if_neg hmax, if_pos (show _ = m.par.netDiameter from httl)]
        exact hd
      · rw [if_neg httl]
        refine (sendRREQ_requested m destAddr m.discovery.addressToRreqRetries (.inl rfl)).mono fun m' ⟨h, hd, ht⟩ =>
          ⟨h, retries, rfl, ?_, ht⟩
        rw [retried, if_neg hmax, if_neg (show ¬ _ = m.par.netDiameter from httl)]
        exact hd

/-- The discovery of `target` has come to its end. -/
def completed (target : IPv4Address) : RouteDiscovery :=
  { m.discovery with
    targetAddressToDelayedPackets :=
      m.discovery.targetAddressToDelayedPackets.filter fun d => d.destAddress ≠ target
    waitForRREPTimers := m.discovery.waitForRREPTimers.erase target }

theorem timely_completed (target : IPv4Address) : m.Timely (m.completed target) := by
  intro target' timer hl
  simp only [completed] at hl
  by_cases he : target' = target
  · subst he
    simp at hl
  · rw [lookup_erase_ne he] at hl
    exact .inl hl

theorem completeRouteDiscovery_change (target : IPv4Address) :
    Ensures (m.completeRouteDiscovery target) fun m' =>
      Change m m' m.entry NoPacket ∧ m'.discovery = m.completed target ∧
        m'.output = m.output ++ (m.delayedTo target).map .reinjected := by
  refine .bind_any fun _ => .pure ⟨⟨rfl, rfl, rfl, rfl, _, rfl, ?_⟩, rfl, rfl⟩
  intro o ho
  obtain ⟨d, -, rfl⟩ := mem_map.mp ho
  trivial

/-- All datagrams that waited for `target` have gone out. -/
def Reinjects (m m' : AODVRouting) (target : IPv4Address) : Prop :=
  ∃ out, m'.output = m.output ++ out ∧ ∀ d ∈ m.delayedTo target, .reinjected d ∈ out

theorem acceptRREP_change (rrep : AODVRREP) (sourceAddr : IPv4Address) (hroute : (m.entry rrep.destAddr).isSome) :
    Ensures (m.acceptRREP rrep sourceAddr) fun m' =>
      if m.hasOngoingRouteDiscovery rrep.destAddr then
        Change m m' (m.entry.complete rrep sourceAddr) NoPacket ∧ m'.discovery = m.completed rrep.destAddr ∧
          Reinjects m m' rrep.destAddr
      else m' = m := by
  unfold acceptRREP
  by_cases ho : m.hasOngoingRouteDiscovery rrep.destAddr = true
  · simp only [if_pos ho]
    obtain ⟨e, he⟩ := isSome_iff_exists.mp hroute
    obtain ⟨r, hr, -⟩ := map_eq_some_iff.mp he
    refine .bind (updateRoutingTable_effect m hr _ _ _ _ _ _) fun m₁ h₁ => ?_
    refine (completeRouteDiscovery_change m₁ rrep.destAddr).mono fun m₂ ⟨h₂, hd, hout⟩ => ?_
    refine ⟨h₁.toChange.keep h₂, by rw [hd, completed, completed, h₁.discovery], ?_⟩
    obtain ⟨out₁, hout₁, -⟩ := h₁.output
    refine ⟨out₁ ++ (m₁.delayedTo rrep.destAddr).map .reinjected, by rw [hout, hout₁, append_assoc], ?_⟩
    intro d hd
    rw [delayedTo, ← h₁.discovery] at hd
    exact mem_append_right _ (mem_map_of_mem hd)
  · simp only [if_neg ho]
    exact .pure rfl

/-- The routes after a RREP whose hop count has been incremented has come in. -/
def forwarded (rrep : AODVRREP) (sourceAddr : IPv4Address) : Entries :=
  (m.entry.previousHop sourceAddr rrep.originatorSeqNum).forward rrep sourceAddr

theorem handleRREP_change (rrep : AODVRREP) (sourceAddr : IPv4Address) :
    Ensures (m.handleRREP rrep sourceAddr) fun m' =>
      let newRREP := { rrep with hopCount := rrep.hopCount + 1 }
      if isUnspecified rrep.originatorAddr then Effect m m' (m.entry.hello rrep) NoPacket
      else if m.routerId ≠ rrep.originatorAddr then
        Effect m m' (m.forwarded newRREP sourceAddr) fun p =>
          p.offer = none ∨ p.offer = (AODVControlPacket.RREP newRREP).offer
      else if m.hasOngoingRouteDiscovery rrep.destAddr then
        Change m m' ((m.forwarded newRREP sourceAddr).complete newRREP sourceAddr) NoPacket ∧
          m'.discovery = m.completed rrep.destAddr ∧ Reinjects m m' rrep.destAddr
      else Effect m m' (m.forwarded newRREP sourceAddr) NoPacket := by
  unfold handleRREP
  by_cases hu : isUnspecified rrep.originatorAddr = true
  · simp only [if_pos hu]
    exact handleHelloMessage_effect m rrep
  · simp only [if_neg hu]
    refine .bind (updatePreviousHopRoute_effect m sourceAddr rrep.originatorSeqNum) fun m₁ h₁ => ?_
    refine .bind (updateForwardRoute_effect m₁ { rrep with hopCount := rrep.hopCount + 1 } sourceAddr) fun m₂ h₂ => ?_
    have h₁₂ := h₁.trans h₂
    rw [h₁.entry] at h₁₂
    rw [getSelfIPAddress, h₁₂.routerId]
    by_cases hself : m.routerId ≠ rrep.originatorAddr
    · simp only [if_pos hself]
      exact (relayRREP_effect m₂ _ sourceAddr).mono fun m₃ h₃ => h₁₂.quiet.keep h₃
    · simp only [if_neg hself]
      have hroute : (m₂.entry rrep.destAddr).isSome := by
        rw [h₁₂.entry]
        exact Entries.forward_isSome _ { rrep with hopCount := rrep.hopCount + 1 } sourceAddr
      refine (acceptRREP_change m₂ { rrep with hopCount := rrep.hopCount + 1 } sourceAddr hroute).mono fun m₃ h₃ => ?_
      have hongoing : m₂.hasOngoingRouteDiscovery rrep.destAddr = m.hasOngoingRouteDiscovery rrep.destAddr := by
        rw [hasOngoingRouteDiscovery, h₁₂.discovery, hasOngoingRouteDiscovery]
      rw [hongoing] at h₃
      by_cases ho : m.hasOngoingRouteDiscovery rrep.destAddr = true
      · simp only [if_pos ho] at h₃ ⊢
        obtain ⟨h₃, hd, out, hout, hall⟩ := h₃
        obtain ⟨out₂, hout₂, -⟩ := h₁₂.output
        have hchange := h₁₂.toChange.trans h₃
        rw [h₁₂.entry] at hchange
        refine ⟨hchange, by rw [hd, completed, completed, h₁₂.discovery],
          out₂ ++ out, by rw [hout, hout₂, append_assoc], fun d hd => ?_⟩
        rw [delayedTo, ← h₁₂.discovery] at hd
        exact mem_append_right _ (hall d hd)
      · simp only [if_neg ho] at h₃ ⊢
        exact h₃ ▸ h₁₂

/-- Does the hook hold the datagram back for want of a route? -/
def delays (datagram : IPv4Datagram) : Prop :=
  m.isNotRouted datagram.destAddress = false ∧
    (m.findRoute datagram.destAddress).filter (fun r => r.active && !isUnspecified r.gateway) = none ∧
    (isUnspecified datagram.srcAddress || m.isLocalAddress datagram.srcAddress) = true

theorem ensureRouteForDatagram_change (datagram : IPv4Datagram) :
    Ensures (m.ensureRouteForDatagram datagram) fun res =>
      (¬ m.delays datagram ∧ Effect m res.2 m.entry NoPacket) ∨
        m.delays datagram ∧ Change m res.2 m.entry (fun p => m.OffersSelf p.offer) ∧ m.Timely res.2.discovery ∧
          res.2.discovery = if m.hasOngoingRouteDiscovery datagram.destAddress then (m.delayDatagram datagram).discovery
            else (m.delayDatagram datagram).requested datagram.destAddress
              (m.discovery.addressToRreqRetries.insert datagram.destAddress 0) := by
  unfold ensureRouteForDatagram
  refine .ite (fun hn => .pure (.inl ⟨fun h => by simp [h.1] at hn, .refl⟩)) fun hn => ?_
  cases hr : (m.findRoute datagram.destAddress).filter fun r => r.active && !isUnspecified r.gateway with
  | some route =>
    refine .pure (.inl ⟨fun h => by simp [h.2.1] at hr, ?_⟩)
    exact (updateValidRouteLifeTime_effect m _ _).keep (updateValidRouteLifeTime_effect _ _ _)
  | none =>
    refine .ite (fun hl => ?_) fun hl => .pure (.inl ⟨fun h => hl h.2.2, .refl⟩)
    have hdelays : m.delays datagram := ⟨by simpa using hn, hr, hl⟩
    have hdelay : Change m (m.delayDatagram datagram) m.entry fun p => m.OffersSelf p.offer :=
      ⟨rfl, rfl, rfl, rfl, [], by simp [delayDatagram]⟩
    refine .ite (fun ho => .pure (.inr ⟨hdelays, hdelay, m.timely_of_eq rfl, (if_pos ho).symm⟩)) fun ho => ?_
    refine .bind (startRouteDiscovery_change _ datagram.destAddress _) fun m' ⟨h, hd, ht⟩ => .pure (.inr ⟨hdelays, ?_, ht, ?_⟩)
    · exact hdelay.keep h
    · rw [hd]
      exact (if_neg ho).symm

/-- What a step may do with the state of route discovery. -/
inductive DiscoveryStep (m m' : AODVRouting) : Event → Prop where
  | quiet {e : Event} (h : m'.discovery = m.discovery) (htime : m'.simTime = m.simTime) : DiscoveryStep m m' e
  | elapse {t : Int} (h : m'.discovery = m.discovery) (htime : m'.simTime = t) (hle : m.simTime ≤ t)
      (hpending : ∀ t' ∈ m.pending, t ≤ t') : DiscoveryStep m m' (.elapse t)
  | delay {datagram : IPv4Datagram} (h : m'.discovery = (m.delayDatagram datagram).discovery)
      (hongoing : m.hasOngoingRouteDiscovery datagram.destAddress = true) (htime : m'.simTime = m.simTime) :
      DiscoveryStep m m' (.datagramHook datagram)
  | start {datagram : IPv4Datagram} (hdelays : m.delays datagram)
      (hfree : m.hasOngoingRouteDiscovery datagram.destAddress = false)
      (h : m'.discovery = (m.delayDatagram datagram).requested datagram.destAddress
        (m.discovery.addressToRreqRetries.insert datagram.destAddress 0)) (htime : m'.simTime = m.simTime) :
      DiscoveryStep m m' (.datagramHook datagram)
  | retry {target : IPv4Address} {timer : WaitForRREP} {retries : BitVec 32}
      (htimer : m.discovery.waitForRREPTimers.lookup target = some timer) (hdue : timer.scheduled = some m.simTime)
      (hretries : m.discovery.addressToRreqRetries.lookup target = some retries)
      (h : m'.discovery = (m.setTimer target { timer with scheduled := none }).retried target timer retries)
      (htime : m'.simTime = m.simTime) : DiscoveryStep m m' (.waitForRREP target)
  | complete {e : Event} {target : IPv4Address} (h : m'.discovery = m.completed target)
      (hout : Reinjects m m' target) (htime : m'.simTime = m.simTime) : DiscoveryStep m m' e
  | count (h : m'.discovery = { m.discovery with rreqCount := 0 }) (htime : m'.simTime = m.simTime) :
      DiscoveryStep m m' .counterTimer

/-- A step as route discovery sees it. -/
structure Step (m m' : AODVRouting) (e : Event) : Prop where
  par : m'.par = m.par
  output : ∃ out, m'.output = m.output ++ out
  timely : m.Timely m'.discovery
  discovery : DiscoveryStep m m' e

theorem Effect.step {m m' : AODVRouting} {E : Entries} (h : Effect m m' E Q) (e : Event) :
    Step m m' e :=
  ⟨h.par, h.output.imp fun _ ho => ho.1, m.timely_of_eq (by rw [h.discovery]), .quiet h.discovery h.simTime⟩

theorem Change.step {m m' : AODVRouting} {E : Entries} (h : Change m m' E Q) {e : Event}
    (ht : m.Timely m'.discovery) (hd : DiscoveryStep m m' e) : Step m m' e :=
  ⟨h.par, h.output.imp fun _ ho => ho.1, ht, hd⟩

theorem handlePacket_step (sourceAddr : IPv4Address) (timeToLive : BitVec 32) (packet : AODVControlPacket) (e : Event) :
    Ensures (m.handlePacket sourceAddr timeToLive packet) fun m' => Step m m' e := by
  cases packet with
  | RREQ rreq =>
    refine (handleRREQ_effect m rreq sourceAddr timeToLive).mono fun m' h => ?_
    split at h
    · exact h.step e
    · split at h
      · exact h.step e
      · exact h.step e
  | RREP rrep =>
    refine (handleRREP_change m rrep sourceAddr).mono fun m' h => ?_
    split at h
    · exact h.step e
    · split at h
      · exact h.step e
      · split at h
        · exact h.1.step (h.2.1 ▸ m.timely_completed rrep.destAddr) (.complete h.2.1 h.2.2 h.1.simTime)
        · exact h.step e
  | RERR rerr => exact (handleRERR_effect m rerr sourceAddr).mono fun m' h => h.step e
  | RREPACK => exact (handleRREPACK_effect m sourceAddr).mono fun m' h => h.step e

theorem waitForRREPTimer_step (target : IPv4Address) :
    Ensures (m.waitForRREPTimer target) fun m' => Step m m' (.waitForRREP target) := by
  have hquiet : Step m m (.waitForRREP target) := (Effect.refl : Effect m m m.entry NoPacket).step _
  unfold waitForRREPTimer
  cases ht : m.discovery.waitForRREPTimers.lookup target with
  | none => exact .pure hquiet
  | some timer =>
    refine .ite (fun hdue => ?_) fun _ => .pure hquiet
    refine (handleWaitForRREP_change _ target timer).mono fun m' ⟨h, retries, hr, hd, htimely⟩ => ?_
    refine ⟨h.par, h.output.imp fun _ ho => ho.1, fun target' timer' ht' => ?_, .retry ht hdue hr hd h.simTime⟩
    have hset : m.Timely (m.setTimer target { timer with scheduled := none }).discovery :=
      m.timely_insert rfl fun t hnone => by cases hnone
    exact (htimely target' timer' ht').elim (hset target' timer') .inr

/-- A handler that leaves route discovery alone, run when its timer has gone off. -/
theorem Effect.step_of {m₁ m' : AODVRouting} {E : Entries} (h : Effect m₁ m' E Q)
    (h₁ : m₁.discovery = m.discovery ∧ m₁.simTime = m.simTime ∧ m₁.par = m.par ∧ m₁.output = m.output)
    (e : Event) : Step m m' e := by
  obtain ⟨hd, ht, hp, ho⟩ := h₁
  refine ⟨h.par.trans hp, ?_, m.timely_of_eq (by rw [h.discovery, hd]), .quiet (h.discovery.trans hd) (h.simTime.trans ht)⟩
  exact ho ▸ h.output.imp fun _ ho => ho.1

theorem handleMessage_step (e : Event) : Ensures (m.handleMessage e) fun m' => Step m m' e := by
  have hquiet : Step m m e := (Effect.refl : Effect m m m.entry NoPacket).step e
  cases e with
  | elapse t =>
    refine .ite (fun h => .pure ?_) fun _ => .pure hquiet
    exact ⟨rfl, ⟨[], by simp⟩, m.timely_of_eq rfl, .elapse rfl rfl h.1 h.2⟩
  | datagramHook datagram =>
    refine .map ((ensureRouteForDatagram_change m datagram).mono fun res h => ?_)
    rcases h with ⟨-, h⟩ | ⟨hdelays, h, ht, hd⟩
    · exact h.step _
    · by_cases ho : m.hasOngoingRouteDiscovery datagram.destAddress = true
      · rw [if_pos ho] at hd
        exact h.step ht (.delay hd ho h.simTime)
      · rw [if_neg ho] at hd
        exact h.step ht (.start hdelays (by simpa using ho) hd h.simTime)
  | datagramForwardHook datagram => exact (datagramForwardHook_effect m datagram).mono fun m' h => h.step _
  | linkBreak datagram => exact (receiveChangeNotification_effect m datagram).mono fun m' h => h.step _
  | packet packet sourceAddr timeToLive => exact handlePacket_step m sourceAddr timeToLive packet _
  | waitForRREP target => exact waitForRREPTimer_step m target
  | helloMsgTimer periodicJitter =>
    refine .ite (fun _ => ?_) fun _ => .pure hquiet
    exact (sendHelloMessagesIfNeeded_effect _ periodicJitter).mono fun m' h => h.step_of m ⟨rfl, rfl, rfl, rfl⟩ _
  | expungeTimer =>
    refine .ite (fun _ => ?_) fun _ => .pure hquiet
    exact (expungeRoutes_effect _).mono fun m' h => h.1.step_of m ⟨rfl, rfl, rfl, rfl⟩ _
  | counterTimer =>
    refine .ite (fun _ => ?_) fun _ => .pure hquiet
    exact .bind_any fun t => .pure
      ⟨rfl, ⟨[], by simp⟩, m.timely_of_eq rfl, .count rfl rfl⟩
  | rrepAckTimer =>
    refine .ite (fun _ => ?_) fun _ => .pure hquiet
    exact (handleRREPACKTimer_effect _).mono fun m' h => h.step_of m ⟨rfl, rfl, rfl, rfl⟩ _
  | blacklistTimer =>
    refine .ite (fun _ => ?_) fun _ => .pure hquiet
    exact (handleBlackListTimer_effect _).mono fun m' h => h.step_of m ⟨rfl, rfl, rfl, rfl⟩ _

end AODVRouting

/-- Every timer for a Route Reply is scheduled, and every delayed datagram is waited for. -/
structure RouteDiscovery.Alive (D : RouteDiscovery) : Prop where
  scheduled : ∀ target timer, D.waitForRREPTimers.lookup target = some timer → timer.scheduled.isSome
  ongoing : ∀ d ∈ D.targetAddressToDelayedPackets, (D.waitForRREPTimers.lookup d.destAddress).isSome

namespace AODVRouting

variable {m m' : AODVRouting}

/-- The timer of the discovery of `target` is due. -/
def Due (m : AODVRouting) (target : IPv4Address) : Prop :=
  ∃ timer, m.discovery.waitForRREPTimers.lookup target = some timer ∧ timer.scheduled = some m.simTime

/-- A step that asks for a route may send its RREQ, and no timer goes off after the last retry. -/
def Unimpeded (m : AODVRouting) : Event → Prop
  | .datagramHook datagram =>
    m.delays datagram → m.hasOngoingRouteDiscovery datagram.destAddress = false → ¬ m.limited
  | .waitForRREP target =>
    m.Due target → m.discovery.addressToRreqRetries.lookup target ≠ some m.par.rreqRetries ∧ ¬ m.limited
  | _ => True

/-- Every timer has a number of retries that is not above the limit. -/
def Counted (m : AODVRouting) (D : RouteDiscovery) : Prop :=
  ∀ target timer, D.waitForRREPTimers.lookup target = some timer →
    ∃ r, D.addressToRreqRetries.lookup target = some r ∧ r ≤ m.par.rreqRetries

/-- What holds of the timers in every run, stuck or not. -/
structure Timed (m : AODVRouting) : Prop where
  counted : m.Counted m.discovery
  onTime : ∀ target timer, m.discovery.waitForRREPTimers.lookup target = some timer → m.OnTime timer

variable {retries : StdMap IPv4Address (BitVec 32)}

/-- A RREQ that is sent leaves a scheduled timer. -/
theorem alive_requested
    (hl : ¬ m.limited)
    (hs : ∀ target' timer, target' ≠ target → m.discovery.waitForRREPTimers.lookup target' = some timer →
      timer.scheduled.isSome)
    (ho : ∀ d ∈ m.discovery.targetAddressToDelayedPackets, d.destAddress ≠ target →
      (m.discovery.waitForRREPTimers.lookup d.destAddress).isSome)
    (h : D = m.requested target retries) : D.Alive := by
  rw [requested, if_neg hl] at h
  subst h
  constructor
  · intro target' timer ht
    by_cases he : target' = target
    · subst he
      rw [lookup_insert] at ht
      cases some.inj ht
      cases m.discovery.waitForRREPTimers.lookup target' with
      | none => rfl
      | some timer => rfl
    · rw [lookup_insert_ne he] at ht
      exact hs target' timer he ht
  · intro d hd
    by_cases he : d.destAddress = target
    · rw [he, lookup_insert]
      rfl
    · rw [lookup_insert_ne he]
      exact ho d hd he

theorem requested_delayed (target : IPv4Address) (retries : StdMap IPv4Address (BitVec 32)) :
    (m.requested target retries).targetAddressToDelayedPackets = m.discovery.targetAddressToDelayedPackets := by
  unfold requested
  by_cases h : m.limited
  · rw [if_pos h]
  · rw [if_neg h]

theorem Step.alive (h : Step m m' e) (halive : m.discovery.Alive) (hgood : m.Unimpeded e) : m'.discovery.Alive := by
  cases h.discovery with
  | quiet hd _ => exact hd ▸ halive
  | elapse hd _ _ _ => exact hd ▸ halive
  | delay hd ho _ =>
    rw [hd]
    refine ⟨halive.scheduled, fun d hmem => ?_⟩
    rcases mem_append.mp hmem with hmem | hmem
    · exact halive.ongoing d hmem
    · cases mem_singleton.mp hmem
      exact ho
  | @start datagram hdelays hfree hd _ =>
    have hl : ¬ (m.delayDatagram datagram).limited := hgood hdelays hfree
    refine alive_requested hl (fun target' timer _ ht => halive.scheduled target' timer ht) (fun d hmem hne => ?_) hd
    rcases mem_append.mp hmem with hmem | hmem
    · exact halive.ongoing d hmem
    · cases mem_singleton.mp hmem
      exact absurd rfl hne
  | @retry target timer retries ht hdue hr hd _ =>
    obtain ⟨hretries, hl⟩ := hgood ⟨timer, ht, hdue⟩
    have hne : ¬ retries = m.par.rreqRetries := fun he => hretries (hr.trans (congrArg some he))
    refine alive_requested (m := m.setTimer target { timer with scheduled := none }) hl
      (fun target' timer' hne ht' => ?_) (fun d hmem hne => ?_) (hd.trans (retried_of_ne _ (by exact hne)))
    · rw [setTimer, lookup_insert_ne hne] at ht'
      exact halive.scheduled target' timer' ht'
    · rw [setTimer, lookup_insert_ne hne]
      exact halive.ongoing d hmem
  | @complete _ target hd _ _ =>
    rw [hd]
    constructor
    · intro target' timer ht
      by_cases he : target' = target
      · subst he
        simp [completed] at ht
      · rw [completed, lookup_erase_ne he] at ht
        exact halive.scheduled target' timer ht
    · intro d hmem
      obtain ⟨hmem, hne⟩ := mem_filter.mp hmem
      rw [completed, lookup_erase_ne (of_decide_eq_true hne)]
      exact halive.ongoing d hmem
  | count hd _ => exact hd ▸ ⟨halive.scheduled, halive.ongoing⟩

theorem onTime_of_step (h : Step m m' e) (htimed : m.Timed) (target : IPv4Address) (timer : WaitForRREP)
    (ht : m'.discovery.waitForRREPTimers.lookup target = some timer) : m'.OnTime timer := by
  have hold : m.OnTime timer := (h.timely target timer ht).elim (htimed.onTime target timer) id
  cases h.discovery with
  | elapse hd htime _ hpending =>
    intro t hs
    rw [htime]
    refine hpending t (mem_append_right _ (mem_filterMap.mpr ⟨⟨target, timer⟩, ?_, hs⟩))
    rw [hd] at ht
    exact mem_lookup_iff.mp ht
  | quiet _ htime => exact fun t hs => htime ▸ hold t hs
  | delay _ _ htime => exact fun t hs => htime ▸ hold t hs
  | start _ _ _ htime => exact fun t hs => htime ▸ hold t hs
  | retry _ _ _ _ htime => exact fun t hs => htime ▸ hold t hs
  | complete _ _ htime => exact fun t hs => htime ▸ hold t hs
  | count _ htime => exact fun t hs => htime ▸ hold t hs

theorem counted_requested
    (htarget : ∃ r, retries.lookup target = some r ∧ r ≤ m.par.rreqRetries)
    (hother : ∀ target' timer, target' ≠ target → m.discovery.waitForRREPTimers.lookup target' = some timer →
      ∃ r, retries.lookup target' = some r ∧ r ≤ m.par.rreqRetries) :
    m.Counted (m.requested target retries) := by
  intro target' timer ht
  unfold requested at ht ⊢
  by_cases he : target' = target
  · subst he
    by_cases hl : m.limited
    · rw [if_pos hl]
      exact htarget
    · rw [if_neg hl]
      exact htarget
  · by_cases hl : m.limited
    · rw [if_pos hl] at ht ⊢
      exact hother target' timer he ht
    · rw [if_neg hl] at ht ⊢
      rw [lookup_insert_ne he] at ht
      exact hother target' timer he ht

theorem counted_of_step (h : Step m m' e) (htimed : m.Timed) : m.Counted m'.discovery := by
  have hcounted := htimed.counted
  cases h.discovery with
  | quiet hd _ => exact hd ▸ hcounted
  | elapse hd _ _ _ => exact hd ▸ hcounted
  | delay hd _ _ => exact hd ▸ hcounted
  | @start datagram _ _ hd _ =>
    rw [hd]
    refine counted_requested (m := m.delayDatagram datagram) ⟨0, lookup_insert _, by bv_omega⟩ ?_
    intro target' timer hne ht
    rw [lookup_insert_ne hne]
    exact hcounted target' timer ht
  | @retry target timer retries ht _ hr hd _ =>
    obtain ⟨r, hr', hle⟩ := hcounted target timer ht
    cases some.inj (hr.symm.trans hr')
    have hother (target' : IPv4Address) (timer' : WaitForRREP) (hne : target' ≠ target)
        (ht' : (m.discovery.waitForRREPTimers.insert target { timer with scheduled := none }).lookup target' =
          some timer') : ∃ r, m.discovery.addressToRreqRetries.lookup target' = some r ∧ r ≤ m.par.rreqRetries := by
      rw [lookup_insert_ne hne] at ht'
      exact hcounted target' timer' ht'
    rw [hd]
    by_cases hmax : retries = m.par.rreqRetries
    · rw [retried_of_eq _ (by exact hmax)]
      intro target' timer' ht'
      by_cases he : target' = target
      · subst he
        exact ⟨retries, hr, hle⟩
      · exact hother target' timer' he ht'
    · have hlt : retries + 1 ≤ m.par.rreqRetries := by bv_omega
      rw [retried_of_ne _ (by exact hmax)]
      refine counted_requested (m := m.setTimer target { timer with scheduled := none }) ?_ ?_
      · by_cases httl : timer.lastTTL = m.par.netDiameter
        · exact ⟨retries + 1, by rw [if_pos (by exact httl)]; exact lookup_insert _, hlt⟩
        · exact ⟨retries, by rw [if_neg (by exact httl)]; exact hr, hle⟩
      · intro target' timer' hne ht'
        by_cases httl : timer.lastTTL = m.par.netDiameter
        · rw [if_pos (by exact httl), lookup_insert_ne hne]
          exact hother target' timer' hne ht'
        · rw [if_neg (by exact httl)]
          exact hother target' timer' hne ht'
  | @complete _ target hd _ _ =>
    rw [hd]
    intro target' timer ht
    by_cases he : target' = target
    · subst he
      simp [completed] at ht
    · rw [completed, lookup_erase_ne he] at ht
      exact hcounted target' timer ht
  | count hd _ => exact hd ▸ hcounted

theorem timed_of_step (h : Step m m' e) (htimed : m.Timed) : m'.Timed := by
  refine ⟨fun target timer ht => ?_, onTime_of_step h htimed⟩
  rw [h.par]
  exact counted_of_step h htimed target timer ht

theorem requested_of_limited (h : m.limited) (target : IPv4Address) (retries : StdMap IPv4Address (BitVec 32)) :
    m.requested target retries = { m.discovery with addressToRreqRetries := retries } := if_pos h

theorem startRouteDiscovery_limited (hfree : m.hasOngoingRouteDiscovery target = false)
    (hl : m.limited) (timeToLive : BitVec 32) : ∃ m', m.startRouteDiscovery target timeToLive = .ok m' := by
  unfold startRouteDiscovery
  rw [ensure_pos hfree]
  exact ⟨_, sendRREQ_limited _ (by exact hl) _ _ _⟩

/-- Without a RREQ the datagram waits for nothing. -/
theorem stuck_start {datagram : IPv4Datagram} (hdelays : m.delays datagram)
    (hfree : m.hasOngoingRouteDiscovery datagram.destAddress = false) (hl : m.limited) :
    ∃ m', m.handleMessage (.datagramHook datagram) = .ok m' ∧ ¬ m'.discovery.Alive := by
  obtain ⟨hn, hroute, hlocal⟩ := hdelays
  have hok : ∃ res, m.ensureRouteForDatagram datagram = .ok res := by
    have hfree' : ¬ (m.delayDatagram datagram).hasOngoingRouteDiscovery datagram.destAddress = true :=
      fun h => Bool.false_ne_true (hfree.symm.trans h)
    unfold ensureRouteForDatagram
    simp only [hn, hroute, hlocal, Bool.false_eq_true, if_false, if_true, if_neg hfree']
    have hqueued {x : Sim AODVRouting} (hx : ∃ m', x = .ok m') : ∃ res, (x.map fun m' => (Result.QUEUE, m')) = .ok res := by
      obtain ⟨m', rfl⟩ := hx
      exact ⟨_, rfl⟩
    exact hqueued ((m.delayDatagram datagram).startRouteDiscovery_limited hfree hl _)
  obtain ⟨res, hres⟩ := hok
  refine ⟨res.2, by rw [handleMessage, hres]; rfl, fun halive => ?_⟩
  rcases ensureRouteForDatagram_change m datagram res hres with ⟨hnot, -⟩ | ⟨-, -, -, hd⟩
  · exact hnot ⟨hn, hroute, hlocal⟩
  · rw [if_neg (by simp [hfree]), requested_of_limited (by exact hl)] at hd
    have hmem : datagram ∈ res.2.discovery.targetAddressToDelayedPackets := by
      rw [hd]
      exact mem_append_right _ (mem_singleton_self _)
    have hon := halive.ongoing datagram hmem
    rw [hd] at hon
    exact Bool.false_ne_true (hfree.symm.trans hon)

/-- A timer that goes off for the last time, or while the rate limit is reached, is not scheduled again. -/
theorem stuck_retry (htimed : m.Timed) (hdue : m.Due target)
    (h : m.discovery.addressToRreqRetries.lookup target = some m.par.rreqRetries ∨ m.limited) :
    ∃ m', m.handleMessage (.waitForRREP target) = .ok m' ∧ ¬ m'.discovery.Alive := by
  obtain ⟨timer, ht, hs⟩ := hdue
  obtain ⟨r, hr, -⟩ := htimed.counted target timer ht
  have hstep : m.handleMessage (.waitForRREP target) =
      (m.setTimer target { timer with scheduled := none }).handleWaitForRREP target timer := by
    simp only [handleMessage, waitForRREPTimer, ht, if_pos hs]
  have hok : ∃ m', (m.setTimer target { timer with scheduled := none }).handleWaitForRREP target timer = .ok m' := by
    unfold handleWaitForRREP
    rw [show (m.setTimer target { timer with scheduled := none }).discovery.addressToRreqRetries.lookup target = some r
      from hr]
    by_cases hmax : r = m.par.rreqRetries
    · exact ⟨_, if_pos hmax⟩
    · have hl : m.limited := h.resolve_left fun he => hmax (some.inj (hr.symm.trans he))
      simp only [if_neg (show ¬ r = (m.setTimer target { timer with scheduled := none }).par.rreqRetries from hmax)]
      by_cases httl : timer.lastTTL = m.par.netDiameter
      · rw [if_pos (by exact httl)]
        exact ⟨_, sendRREQ_limited _ (by exact hl) _ _ _⟩
      · rw [if_neg (by exact httl)]
        exact ⟨_, sendRREQ_limited _ (by exact hl) _ _ _⟩
  obtain ⟨m', hm'⟩ := hok
  refine ⟨m', hstep.trans hm', fun halive => ?_⟩
  obtain ⟨-, retries, hr', hd, -⟩ := handleWaitForRREP_change _ target timer m' hm'
  cases some.inj (hr.symm.trans hr')
  have hlookup : m'.discovery.waitForRREPTimers.lookup target = some { timer with scheduled := none } := by
    rw [hd]
    by_cases hmax : r = m.par.rreqRetries
    · rw [retried_of_eq _ (by exact hmax)]
      exact lookup_insert _
    · have hl : m.limited := h.resolve_left fun he => hmax (some.inj (hr.symm.trans he))
      rw [retried_of_ne _ (by exact hmax), requested_of_limited (by exact hl)]
      exact lookup_insert _
  exact absurd (halive.scheduled target _ hlookup) (by simp)

theorem stuck (htimed : m.Timed) (hbad : ¬ m.Unimpeded e) :
    ∃ m', m.handleMessage e = .ok m' ∧ ¬ m'.discovery.Alive := by
  cases e with
  | datagramHook datagram =>
    simp only [Unimpeded, Classical.not_imp, not_not] at hbad
    exact stuck_start hbad.1 hbad.2.1 hbad.2.2
  | waitForRREP target =>
    simp only [Unimpeded, Classical.not_imp, not_and_or, not_not] at hbad
    exact stuck_retry htimed hbad.1 hbad.2
  | _ => exact absurd trivial hbad

end AODVRouting

end Inet.Aodv
