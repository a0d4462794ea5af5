import Inetmanet.Aodv.Discovery

/-!
# Runs of route discovery

When all timers stay scheduled and all delayed datagrams are waited for, and that a
delayed datagram then leaves the node before a time that can be told in advance.
-/
namespace Inet.Aodv

open Ipv4 List Option Parameters AList

namespace Parameters

variable (par : Parameters)

/-- The expanding ring search comes to its end. -/
def RingGrows : Prop := 0 < par.ttlIncrement ∧ par.ttlThreshold.toNat + par.ttlIncrement.toNat ≤ 2 ^ 32

/-- How many times the timer may still go off before `NET_DIAMETER` is reached. -/
def ringsLeft (lastTTL : BitVec 32) : Nat :=
  if lastTTL = par.netDiameter then 0
  else if lastTTL < par.ttlThreshold then 1 + (par.ttlThreshold.toNat - lastTTL.toNat)
  else par.ttlThreshold.toNat + 2

theorem ringsLeft_le (lastTTL : BitVec 32) : par.ringsLeft lastTTL ≤ par.ttlThreshold.toNat + 2 := by
  unfold ringsLeft
  split
  · omega
  · split
    · omega
    · omega

/-- How many times the timer may still go off before the last retry. -/
def expirationsLeft (lastTTL retries : BitVec 32) : Nat :=
  (par.rreqRetries.toNat - retries.toNat) * (par.ttlThreshold.toNat + 3) + par.ringsLeft lastTTL

/-- The longest time between two RREQs. -/
def longestRing : Int := 2 * par.nodeTraversalTime.natAbs * 2 ^ 32

theorem longestRing_nonneg : 0 ≤ par.longestRing := by
  unfold longestRing
  omega

end Parameters

namespace AODVRouting

variable {m m' : AODVRouting} {e : Event}

theorem ringTraversalTime_le (m : AODVRouting) (timeToLive : BitVec 32) :
    m.ringTraversalTime timeToLive ≤ m.par.longestRing := by
  have hlt := (timeToLive + m.par.timeoutBuffer).isLt
  have habs : m.par.nodeTraversalTime ≤ m.par.nodeTraversalTime.natAbs := Int.le_natAbs
  unfold ringTraversalTime longestRing
  generalize (timeToLive + m.par.timeoutBuffer).toNat = n at hlt
  have hn : (n : Int) ≤ 2 ^ 32 := by omega
  have h₁ : m.par.nodeTraversalTime * n ≤ m.par.nodeTraversalTime.natAbs * (n : Int) :=
    Int.mul_le_mul_of_nonneg_right habs (by omega)
  have h₂ : (m.par.nodeTraversalTime.natAbs : Int) * n ≤ m.par.nodeTraversalTime.natAbs * 2 ^ 32 :=
    Int.mul_le_mul_of_nonneg_left hn (by omega)
  linarith

variable {lastTTL retries : BitVec 32} {datagram : IPv4Datagram} {deadline : Int} {events : List Event}

/-- A ring that is not the widest is followed by a wider one. -/
theorem ringsLeft_nextTTL (hgrows : m.par.RingGrows) (h : lastTTL ≠ m.par.netDiameter) :
    m.par.ringsLeft (m.nextTTL lastTTL) < m.par.ringsLeft lastTTL := by
  obtain ⟨hpos, hfits⟩ := hgrows
  unfold nextTTL
  by_cases hnext : lastTTL + m.par.ttlIncrement < m.par.ttlThreshold
  · rw [if_pos hnext]
    unfold ringsLeft
    split
    · split
      · omega
      · omega
    · split
      · bv_omega
      · bv_omega
  · rw [if_neg hnext]
    unfold ringsLeft
    rw [if_pos rfl, if_neg h]
    split
    · omega
    · omega

theorem expirationsLeft_retry (hgrows : m.par.RingGrows)
    (hle : retries ≤ m.par.rreqRetries) (hne : retries ≠ m.par.rreqRetries) :
    m.par.expirationsLeft (m.nextTTL lastTTL) (if lastTTL = m.par.netDiameter then retries + 1 else retries) <
      m.par.expirationsLeft lastTTL retries := by
  by_cases hlast : lastTTL = m.par.netDiameter
  · have hrings := m.par.ringsLeft_le (m.nextTTL lastTTL)
    have hfewer : m.par.rreqRetries.toNat - retries.toNat = m.par.rreqRetries.toNat - (retries + 1).toNat + 1 := by
      bv_omega
    rw [if_pos hlast, expirationsLeft, expirationsLeft, hfewer, Nat.add_mul]
    omega
  · have hrings := ringsLeft_nextTTL hgrows hlast
    rw [if_neg hlast, expirationsLeft, expirationsLeft]
    omega

/-- The datagram waits for a discovery whose last timer goes off at `deadline` at the latest. -/
structure Waits (m : AODVRouting) (datagram : IPv4Datagram) (deadline : Int) : Prop where
  delayed : datagram ∈ m.discovery.targetAddressToDelayedPackets
  timer : ∃ timer t retries, m.discovery.waitForRREPTimers.lookup datagram.destAddress = some timer ∧
    timer.scheduled = some t ∧ m.discovery.addressToRreqRetries.lookup datagram.destAddress = some retries ∧
    retries ≤ m.par.rreqRetries ∧ t + m.par.expirationsLeft timer.lastTTL retries * m.par.longestRing ≤ deadline

/-- The datagram has gone out between `m` and `m'`. -/
def Leaves (m m' : AODVRouting) (datagram : IPv4Datagram) : Prop :=
  ∃ out, m'.output = m.output ++ out ∧ .reinjected datagram ∈ out

theorem waits_of_alive (halive : m.discovery.Alive) (htimed : m.Timed)
    (hd : datagram ∈ m.discovery.targetAddressToDelayedPackets) : ∃ deadline, Waits m datagram deadline := by
  obtain ⟨timer, ht⟩ := isSome_iff_exists.mp (halive.ongoing datagram hd)
  obtain ⟨t, hs⟩ := isSome_iff_exists.mp (halive.scheduled _ timer ht)
  obtain ⟨retries, hr, hle⟩ := htimed.counted _ timer ht
  exact ⟨_, hd, timer, t, retries, ht, hs, hr, hle, le_refl _⟩

theorem Waits.simTime_le (h : Waits m datagram deadline) (htimed : m.Timed) :
    m.simTime ≤ deadline := by
  obtain ⟨timer, t, retries, ht, hs, -, -, hdeadline⟩ := h.timer
  have hnow := htimed.onTime _ timer ht t hs
  have hrest : 0 ≤ (m.par.expirationsLeft timer.lastTTL retries : Int) * m.par.longestRing :=
    Int.mul_nonneg (by omega) m.par.longestRing_nonneg
  omega

/-- Where nothing happens to the datagram or its timer, the deadline stays. -/
theorem Waits.keep (h : Waits m datagram deadline) (hpar : m'.par = m.par)
    (hdelayed : datagram ∈ m'.discovery.targetAddressToDelayedPackets)
    (htimer : m'.discovery.waitForRREPTimers.lookup datagram.destAddress =
      m.discovery.waitForRREPTimers.lookup datagram.destAddress)
    (hretries : m'.discovery.addressToRreqRetries.lookup datagram.destAddress =
      m.discovery.addressToRreqRetries.lookup datagram.destAddress) : Waits m' datagram deadline :=
  ⟨hdelayed, by simpa only [hpar, htimer, hretries] using h.timer⟩

/-- A timer that goes off has the next one end within the deadline. -/
theorem Waits.retry {timer : WaitForRREP}
    (hgrows : m.par.RingGrows) (h : Waits m datagram deadline)
    (ht : m.discovery.waitForRREPTimers.lookup datagram.destAddress = some timer)
    (hdue : timer.scheduled = some m.simTime)
    (hr : m.discovery.addressToRreqRetries.lookup datagram.destAddress = some retries)
    (hne : retries ≠ m.par.rreqRetries) (hl : ¬ m.limited) (hpar : m'.par = m.par)
    (hd : m'.discovery = (m.setTimer datagram.destAddress { timer with scheduled := none }).retried
      datagram.destAddress timer retries) : Waits m' datagram deadline := by
  obtain ⟨timer', t, retries', ht', hs, hr', hle, hdeadline⟩ := h.timer
  cases some.inj (ht.symm.trans ht')
  cases some.inj (hr.symm.trans hr')
  cases some.inj (hs.symm.trans hdue)
  have hfewer : m.par.expirationsLeft (m.nextTTL timer.lastTTL)
      (if timer.lastTTL = m.par.netDiameter then retries + 1 else retries) < m.par.expirationsLeft timer.lastTTL retries :=
    expirationsLeft_retry hgrows hle hne
  have hring := m.ringTraversalTime_le (m.nextTTL timer.lastTTL)
  rw [retried_of_ne _ (by exact hne)] at hd
  refine ⟨?_, { timer with
      lastTTL := m.nextTTL timer.lastTTL
      scheduled := some (m.simTime + m.ringTraversalTime (m.nextTTL timer.lastTTL)) }, _,
    if timer.lastTTL = m.par.netDiameter then retries + 1 else retries, ?_, rfl, ?_, ?_, ?_⟩
  · rw [hd, requested_delayed]
    exact h.delayed
  · rw [hd, requested, if_neg (by exact hl)]
    simp only [setTimer, lookup_insert]
    rfl
  · rw [hd, requested, if_neg (by exact hl)]
    by_cases hlast : timer.lastTTL = m.par.netDiameter
    · simp only [if_pos hlast]
      exact (congrArg _ (if_pos hlast)).trans (lookup_insert _)
    · simp only [if_neg hlast]
      exact (congrArg _ (if_neg hlast)).trans hr
  · rw [hpar]
    by_cases hlast : timer.lastTTL = m.par.netDiameter
    · rw [if_pos hlast]
      bv_omega
    · rw [if_neg hlast]
      exact hle
  · rw [hpar]
    generalize m.par.expirationsLeft (m.nextTTL timer.lastTTL)
      (if timer.lastTTL = m.par.netDiameter then retries + 1 else retries) = left at hfewer ⊢
    have hleft : ((left + 1 : Nat) : Int) * m.par.longestRing ≤
        m.par.expirationsLeft timer.lastTTL retries * m.par.longestRing :=
      Int.mul_le_mul_of_nonneg_right (by exact_mod_cast hfewer) m.par.longestRing_nonneg
    push_cast at hleft
    linarith

theorem lookup_requested_of_ne {target dest : IPv4Address} (hne : dest ≠ target)
    (retries : StdMap IPv4Address (BitVec 32)) :
    (m.requested target retries).waitForRREPTimers.lookup dest = m.discovery.waitForRREPTimers.lookup dest ∧
      (m.requested target retries).addressToRreqRetries = retries := by
  unfold requested
  by_cases hl : m.limited
  · rw [if_pos hl]
    exact ⟨rfl, rfl⟩
  · rw [if_neg hl]
    exact ⟨AList.lookup_insert_ne hne, rfl⟩

theorem Waits.step (hgrows : m.par.RingGrows)
    (h : Waits m datagram deadline) (hstep : Step m m' e) (hgood : m.Unimpeded e) :
    Waits m' datagram deadline ∨ Leaves m m' datagram := by
  have hdelayed := h.delayed
  cases hstep.discovery with
  | quiet hd _ => exact .inl (h.keep hstep.par (hd ▸ hdelayed) (by rw [hd]) (by rw [hd]))
  | elapse hd _ _ _ => exact .inl (h.keep hstep.par (hd ▸ hdelayed) (by rw [hd]) (by rw [hd]))
  | delay hd _ _ =>
    exact .inl (h.keep hstep.par (hd ▸ mem_append_left _ hdelayed) (by rw [hd]; rfl) (by rw [hd]; rfl))
  | @start new _ hfree hd _ =>
    obtain ⟨timer, -, -, ht, -⟩ := h.timer
    have hne : datagram.destAddress ≠ new.destAddress := by
      intro he
      rw [hasOngoingRouteDiscovery, ← he, ht] at hfree
      cases hfree
    obtain ⟨htimers, hretries⟩ := lookup_requested_of_ne (m := m.delayDatagram new) hne
      (m.discovery.addressToRreqRetries.insert new.destAddress 0)
    refine .inl (h.keep hstep.par ?_ (by rw [hd, htimers]; rfl) ?_)
    · rw [hd, requested_delayed]
      exact mem_append_left _ hdelayed
    · rw [hd, hretries, lookup_insert_ne hne]
  | @retry target timer retries ht hdue hr hd _ =>
    obtain ⟨hmax, hl⟩ := hgood ⟨timer, ht, hdue⟩
    have hne : retries ≠ m.par.rreqRetries := fun he => hmax (he ▸ hr)
    by_cases he : datagram.destAddress = target
    · subst he
      exact .inl (h.retry hgrows ht hdue hr hne hl hstep.par hd)
    · rw [retried_of_ne _ (by exact hne)] at hd
      obtain ⟨htimers, hretries⟩ := lookup_requested_of_ne
        (m := m.setTimer target { timer with scheduled := none }) he _
      refine .inl (h.keep hstep.par ?_ ?_ ?_)
      · rw [hd, requested_delayed]
        exact hdelayed
      · rw [hd, htimers, setTimer, lookup_insert_ne he]
      · rw [hd, hretries]
        by_cases hlast : timer.lastTTL = m.par.netDiameter
        · rw [if_pos (by exact hlast), lookup_insert_ne he]
          rfl
        · rw [if_neg (by exact hlast)]
          rfl
  | @complete _ target hd hout _ =>
    by_cases he : datagram.destAddress = target
    · obtain ⟨out, hout, hall⟩ := hout
      exact .inr ⟨out, hout, hall datagram (mem_filter.mpr ⟨hdelayed, by simpa using he⟩)⟩
    · refine .inl (h.keep hstep.par ?_ ?_ (by rw [hd]; rfl))
      · rw [hd]
        exact mem_filter.mpr ⟨hdelayed, by simpa using he⟩
      · rw [hd, completed, lookup_erase_ne he]
  | count hd _ => exact .inl (h.keep hstep.par (hd ▸ hdelayed) (by rw [hd]) (by rw [hd]))

theorem output_of_run (h : Runs.run handleMessage m events = .ok m') :
    ∃ out, m'.output = m.output ++ out := by
  induction events generalizing m with
  | nil =>
    cases h
    exact ⟨[], by simp⟩
  | cons e events ih =>
    obtain ⟨m₁, h₁, h⟩ := Runs.run_cons.mp h
    obtain ⟨out₁, hout₁⟩ := (handleMessage_step m e m₁ h₁).output
    obtain ⟨out₂, hout₂⟩ := ih h
    exact ⟨out₁ ++ out₂, by rw [hout₂, hout₁, append_assoc]⟩

theorem par_of_run (h : Runs.run handleMessage m events = .ok m') : m'.par = m.par :=
  Runs.run_invariant (p := fun m' => m'.par = m.par)
    (fun m₁ e m₂ hpar h₂ => (handleMessage_step m₁ e m₂ h₂).par.trans hpar) rfl h

theorem Waits.run (hgrows : m.par.RingGrows)
    (h : Waits m datagram deadline) (hgood : Runs.EveryStep handleMessage Unimpeded m events)
    (hrun : Runs.run handleMessage m events = .ok m') : Waits m' datagram deadline ∨ Leaves m m' datagram := by
  induction events generalizing m with
  | nil =>
    cases hrun
    exact .inl h
  | cons e events ih =>
    obtain ⟨m₁, h₁, hrun⟩ := Runs.run_cons.mp hrun
    obtain ⟨he, hgood⟩ := Runs.everyStep_cons.mp hgood
    have hstep := handleMessage_step m e m₁ h₁
    rcases h.step hgrows hstep he with h₁w | ⟨out, hout, hmem⟩
    · rcases ih (hstep.par ▸ hgrows) h₁w (hgood m₁ h₁) hrun with hw | ⟨out, hout, hmem⟩
      · exact .inl hw
      · obtain ⟨out₁, hout₁⟩ := hstep.output
        exact .inr ⟨out₁ ++ out, by rw [hout, hout₁, append_assoc], mem_append_right _ hmem⟩
    · obtain ⟨out', hout'⟩ := output_of_run hrun
      exact .inr ⟨out ++ out', by rw [hout', hout, append_assoc], mem_append_left _ hmem⟩

theorem initial_alive (routerId : IPv4Address) (localAddresses : List IPv4Address) (otherRoutes : List OtherRoute)
    (par : Parameters) (periodicJitter : Int) :
    (initial routerId localAddresses otherRoutes par periodicJitter).discovery.Alive :=
  ⟨fun target timer ht => by simp [initial] at ht, fun d hd => by simp [initial] at hd⟩

theorem initial_timed (routerId : IPv4Address) (localAddresses : List IPv4Address) (otherRoutes : List OtherRoute)
    (par : Parameters) (periodicJitter : Int) :
    (initial routerId localAddresses otherRoutes par periodicJitter).Timed :=
  ⟨fun target timer ht => by simp [initial] at ht, fun target timer ht => by simp [initial] at ht⟩

/-- A datagram that is held back has a discovery under way. -/
theorem scheduled_of_delays (halive : m.discovery.Alive) (hdelays : m.delays datagram)
    (hgood : m.Unimpeded (.datagramHook datagram)) (h : m.handleMessage (.datagramHook datagram) = .ok m') :
    ∃ timer t, m'.discovery.waitForRREPTimers.lookup datagram.destAddress = some timer ∧ timer.scheduled = some t := by
  have halive' := (handleMessage_step m _ m' h).alive halive hgood
  have hmem : datagram ∈ m'.discovery.targetAddressToDelayedPackets := by
    obtain ⟨res, hres, rfl⟩ : ∃ res, m.ensureRouteForDatagram datagram = .ok res ∧ res.2 = m' := by
      simp only [handleMessage] at h
      cases hres : m.ensureRouteForDatagram datagram with
      | ok res => exact ⟨res, rfl, by rw [hres] at h; exact Except.ok.inj h⟩
      | error err => rw [hres] at h; cases h
    rcases ensureRouteForDatagram_change m datagram res hres with ⟨hnot, -⟩ | ⟨-, -, -, hd⟩
    · exact absurd hdelays hnot
    · rw [hd]
      split
      · exact mem_append_right _ (mem_singleton_self _)
      · rw [requested_delayed]
        exact mem_append_right _ (mem_singleton_self _)
  obtain ⟨timer, ht⟩ := isSome_iff_exists.mp (halive'.ongoing datagram hmem)
  obtain ⟨t, hs⟩ := isSome_iff_exists.mp (halive'.scheduled _ timer ht)
  exact ⟨timer, t, ht, hs⟩

/-- All timers stay scheduled and all delayed datagrams are waited for exactly in the runs in which no
RREQ is suppressed and no discovery gives up; in these every delayed datagram leaves. -/
theorem discovery_alive_iff (routerId : IPv4Address) (localAddresses : List IPv4Address)
    (otherRoutes : List OtherRoute) (par : Parameters) (periodicJitter : Int) (events : List Event) :
    let m₀ := initial routerId localAddresses otherRoutes par periodicJitter
    (Runs.EveryState handleMessage (fun m => m.discovery.Alive) m₀ events ↔
        Runs.EveryStep handleMessage Unimpeded m₀ events) ∧
      (Runs.EveryStep handleMessage Unimpeded m₀ events → ∀ m, Runs.run handleMessage m₀ events = .ok m →
        (par.RingGrows → ∀ datagram ∈ m.discovery.targetAddressToDelayedPackets, ∃ deadline : Int, ∀ events' m',
          Runs.EveryStep handleMessage Unimpeded m events' → Runs.run handleMessage m events' = .ok m' →
            deadline < m'.simTime → Leaves m m' datagram) ∧
        ∀ datagram m', m.delays datagram → m.Unimpeded (.datagramHook datagram) →
          m.handleMessage (.datagramHook datagram) = .ok m' →
            ∃ timer t, m'.discovery.waitForRREPTimers.lookup datagram.destAddress = some timer ∧
              timer.scheduled = some t) := by
  intro m₀
  have halive₀ : m₀.discovery.Alive := initial_alive ..
  have htimed₀ : m₀.Timed := initial_timed ..
  have hiff : Runs.EveryState handleMessage (fun m => m.discovery.Alive) m₀ events ↔
      Runs.EveryStep handleMessage Unimpeded m₀ events :=
    Runs.everyState_iff_everyStep (fun m e m' htimed h => timed_of_step (handleMessage_step m e m' h) htimed)
      (fun m e m' _ halive hgood h => (handleMessage_step m e m' h).alive halive hgood)
      (fun m e htimed _ hbad => stuck htimed hbad) htimed₀ halive₀
  refine ⟨hiff, fun hgood m hm => ?_⟩
  have halive := hiff.mpr hgood events m (prefix_refl _) hm
  have htimed := Runs.run_invariant (fun m e m' htimed h => timed_of_step (handleMessage_step m e m' h) htimed)
    htimed₀ hm
  refine ⟨fun hgrows datagram hd => ?_, fun datagram m' hdelays hgood h => scheduled_of_delays halive hdelays hgood h⟩
  obtain ⟨deadline, hwaits⟩ := waits_of_alive halive htimed hd
  refine ⟨deadline, fun events' m' hgood' hm' hlate => ?_⟩
  have hpar : m.par = par := par_of_run hm
  rcases hwaits.run (hpar ▸ hgrows) hgood' hm' with hw | hleaves
  · have htimed' := Runs.run_invariant (fun m e m' htimed h => timed_of_step (handleMessage_step m e m' h) htimed)
      htimed hm'
    exact absurd (hw.simTime_le htimed') (Int.not_le.mpr hlate)
  · exact hleaves

def nodeAddr : IPv4Address := 0x0A000001
def lostAddr : IPv4Address := 0x0A000002

def datagramToLost (identification : Nat) : IPv4Datagram where
  byteLength := 120
  headerLength := 20
  srcAddress := nodeAddr
  destAddress := lostAddr
  timeToLive := 32
  identification := identification
  moreFragments := false
  dontFragment := false
  fragmentOffset := 0
  totalPayloadLength := 100
  encapsulatedPacket := none

/-- A retry `t` milliseconds after the start. -/
def retryAt (t : Int) : List Event := [.elapse (SimTime.ms t), .waitForRREP lostAddr]

/-- The counters are reset every second. -/
def secondAt (t : Int) : List Event := [.elapse (SimTime.ms t), .counterTimer]

/-- Nobody answers; all parameters have their defaults. -/
def unansweredEvents : List Event :=
  .datagramHook (datagramToLost 0) :: retryAt 320 ++ retryAt 800 ++ secondAt 1000 ++ retryAt 1440 ++ secondAt 2000 ++
    secondAt 3000 ++ secondAt 4000 ++ retryAt 4400 ++ secondAt 5000 ++ secondAt 6000 ++ secondAt 7000 ++
    retryAt 7360 ++ secondAt 8000 ++ secondAt 9000 ++ secondAt 10000 ++ retryAt 10320 ++
    [.datagramHook (datagramToLost 1)]

theorem unanswered_run :
    (Runs.run handleMessage (initial nodeAddr [nodeAddr] [] {} 0) unansweredEvents).map (fun m =>
        (m.discovery.waitForRREPTimers.lookup lostAddr, m.discovery.targetAddressToDelayedPackets.length)) =
      .ok (some ⟨35, false, none⟩, 2) := by
  decide

/-- The timer stays behind unscheduled, and new datagrams wait for it. -/
theorem unanswered_discovery_is_stuck :
    ¬ ∀ (routerId : IPv4Address) (localAddresses : List IPv4Address) (otherRoutes : List OtherRoute) (par : Parameters)
        (periodicJitter : Int) (events : List Event),
      Runs.EveryState handleMessage (fun m => m.discovery.Alive)
        (initial routerId localAddresses otherRoutes par periodicJitter) events := by
  intro hall
  have hrun := unanswered_run
  cases hm : Runs.run handleMessage (initial nodeAddr [nodeAddr] [] {} 0) unansweredEvents with
  | error err => rw [hm] at hrun; cases hrun
  | ok m =>
    rw [hm] at hrun
    have hlookup := congrArg Prod.fst (Except.ok.inj hrun)
    have halive := hall nodeAddr [nodeAddr] [] {} 0 unansweredEvents unansweredEvents m (prefix_refl _) hm
    exact absurd (halive.scheduled lostAddr _ hlookup) (by simp)

end AODVRouting

end Inet.Aodv
