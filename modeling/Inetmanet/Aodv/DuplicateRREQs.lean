import Inetmanet.Lib.Runs
import Inetmanet.Aodv.Moves

/-!
# Duplicate RREQs

A RREQ is to be discarded when one with its originator and its identifier has been
accepted or originated within `PATH_DISCOVERY_TIME`. The history of the module tells
RREQs apart by `rreqID` alone, so that those of other originators count, too.
-/
namespace Inet.Aodv

open Ipv4 List

/-- A unique identifier for an arbitrary RREQ message in the network. -/
structure RREQIdentifier where
  originatorAddr : IPv4Address
  rreqID : BitVec 32
  deriving DecidableEq, Repr

def AODVRREQ.identifier (rreq : AODVRREQ) : RREQIdentifier := ⟨rreq.originatorAddr, rreq.rreqId⟩

namespace AODVRouting

variable {m m' : AODVRouting}

/-- The RREQ is discarded as a duplicate. -/
def discards (m : AODVRouting) (rreq : AODVRREQ) (sourceAddr : IPv4Address) : Prop :=
  m.blacklist.lookup sourceAddr = none ∧ m.hasSeen rreq = true
deriving Decidable

/-- The RREQ is processed further. -/
def accepts (m : AODVRouting) (rreq : AODVRREQ) (sourceAddr : IPv4Address) : Prop :=
  m.blacklist.lookup sourceAddr = none ∧ m.hasSeen rreq = false
deriving Decidable

/-- The RREQs accepted or originated in a step. Each one that is originated has a new identifier. -/
def heard (m : AODVRouting) (e : Event) (m' : AODVRouting) : List RREQIdentifier :=
  match e with
  | .packet (.RREQ rreq) sourceAddr _ => if m.accepts rreq sourceAddr then [rreq.identifier] else []
  | _ => if m'.rreqId = m.rreqId then [] else [⟨m.routerId, m'.rreqId⟩]

/-- The history after some RREQs. -/
def recorded (m : AODVRouting) (ids : List RREQIdentifier) : StdMap (BitVec 32) Int :=
  ids.foldl (fun history id => history.insert id.rreqID m.simTime) m.rreqsArrivalTime

/-- `m` has become `m'`, which has recorded the RREQs. -/
structure Records (m m' : AODVRouting) (ids : List RREQIdentifier) : Prop where
  simTime : m.simTime ≤ m'.simTime
  par : m'.par = m.par
  arrival : m'.rreqsArrivalTime = m.recorded ids

/-- Nothing is recorded. -/
structure Quiet (m m' : AODVRouting) : Prop where
  simTime : m'.simTime = m.simTime
  par : m'.par = m.par
  arrival : m'.rreqsArrivalTime = m.rreqsArrivalTime
  rreqId : m'.rreqId = m.rreqId

theorem Quiet.trans {m₁ m₂ : AODVRouting} (h₁ : Quiet m m₁) (h₂ : Quiet m₁ m₂) : Quiet m m₂ :=
  ⟨h₂.simTime.trans h₁.simTime, h₂.par.trans h₁.par, h₂.arrival.trans h₁.arrival, h₂.rreqId.trans h₁.rreqId⟩

theorem Quiet.records (h : Quiet m m') : Records m m' [] := ⟨Int.le_of_eq h.simTime.symm, h.par, h.arrival⟩

theorem Move.quiet (h : Move False False m m') : Quiet m m' := by
  cases h with
  | aside h hhears =>
    obtain ⟨harrival, hid⟩ := hhears.resolve_left id
    exact ⟨h.simTime, h.par, harrival, hid⟩
  | alter dest f _ _ => exact ⟨rfl, rfl, rfl, rfl⟩
  | revise h hs =>
    obtain ⟨t, rfl⟩ := scheduleExpungeRoutes_ok _ _ hs
    exact ⟨rfl, rfl, rfl, rfl⟩

theorem Moves.quiet (h : Moves False False m m') : Quiet m m' := by
  induction h with
  | refl => exact ⟨rfl, rfl, rfl, rfl⟩
  | tail _ hmove ih => exact ih.trans hmove.quiet

theorem quiet_of_does {x : Sim AODVRouting} (h : Does False False m x) : Ensures x (Quiet m) :=
  fun m' hm' => (h.moves m' hm').quiet

/-- A RREQ of the node itself is recorded. -/
structure Originates (m m' : AODVRouting) : Prop where
  simTime : m'.simTime = m.simTime
  par : m'.par = m.par
  rreqId : m'.rreqId = m.rreqId + 1
  arrival : m'.rreqsArrivalTime = m.rreqsArrivalTime.insert (m.rreqId + 1) m.simTime

variable (m)

theorem createRREQ_originates (destAddr : IPv4Address) (h : Quiet (m.createRREQ destAddr).2 m') : Originates m m' :=
  ⟨h.simTime, h.par, h.rreqId, h.arrival⟩

theorem startRouteDiscovery_originates (target : IPv4Address) (timeToLive : BitVec 32) :
    Ensures (m.startRouteDiscovery target timeToLive) (Originates m) := by
  refine .bind_any fun _ => ?_
  refine (quiet_of_does (sendRREQ_does _ _ _ _)).mono fun m' h => ?_
  exact m.createRREQ_originates target ⟨h.simTime, h.par, h.arrival, h.rreqId⟩

theorem ensureRouteForDatagram_records (datagram : IPv4Datagram) :
    Ensures (m.ensureRouteForDatagram datagram) fun res => Quiet m res.2 ∨ Originates m res.2 := by
  have hquiet (m' : AODVRouting) (h : Moves False False m m') : Quiet m m' ∨ Originates m m' := .inl h.quiet
  refine .ite (fun _ => .pure (hquiet m .refl)) fun _ => ?_
  split
  · refine .pure (hquiet _ ?_)
    exact (Moves.single (updateValidRouteLifeTime_move _ _ _)).tail (updateValidRouteLifeTime_move _ _ _)
  · refine .ite (fun _ => ?_) fun _ => .pure (hquiet m .refl)
    refine .ite (fun _ => .pure (hquiet _ (.single (m.delayDatagram_move datagram)))) fun _ => ?_
    refine .bind (startRouteDiscovery_originates _ _ _) fun m' h => .pure (.inr ?_)
    exact ⟨h.simTime, h.par, h.rreqId, h.arrival⟩

theorem handleWaitForRREP_records (destAddr : IPv4Address) (rrepTimer : WaitForRREP) :
    Ensures (m.handleWaitForRREP destAddr rrepTimer) fun m' => Quiet m m' ∨ Originates m m' := by
  unfold handleWaitForRREP
  cases m.discovery.addressToRreqRetries.lookup destAddr with
  | none => exact .throw
  | some retries =>
    refine .ite (fun _ => .pure (.inl (Moves.quiet .refl))) fun _ => ?_
    refine (quiet_of_does (sendRREQ_does _ _ _ _)).mono fun m' h => .inr ?_
    refine m.createRREQ_originates destAddr (Quiet.trans ?_ h)
    split
    · exact ⟨rfl, rfl, rfl, rfl⟩
    · exact ⟨rfl, rfl, rfl, rfl⟩

theorem handleRREQ_records (rreq : AODVRREQ) (sourceAddr : IPv4Address) (timeToLive : BitVec 32) :
    Ensures (m.handleRREQ rreq sourceAddr timeToLive) fun m' =>
      Records m m' (if m.accepts rreq sourceAddr then [rreq.identifier] else []) := by
  have hnone {m₁ : AODVRouting} (hnot : ¬ m.accepts rreq sourceAddr) (h : Quiet m m₁) :
      Records m m₁ (if m.accepts rreq sourceAddr then [rreq.identifier] else []) := by
    rw [if_neg hnot]
    exact h.records
  unfold handleRREQ
  by_cases hb : (m.blacklist.lookup sourceAddr).isSome = true
  · simp only [if_pos hb]
    refine .pure (hnone (fun h => ?_) (Moves.quiet .refl))
    rw [h.1] at hb
    cases hb
  · simp only [if_neg hb]
    refine .bind ((quiet_of_does (updatePreviousHopRoute_does m sourceAddr rreq.originatorSeqNum)).and
      (updatePreviousHopRoute_routesOnly m sourceAddr rreq.originatorSeqNum)) fun m₁ ⟨h₁, hroutes⟩ => ?_
    rw [hroutes.hasSeen]
    by_cases hs : m.hasSeen rreq = true
    · simp only [if_pos hs]
      refine .pure (hnone (fun h => ?_) h₁)
      rw [h.2] at hs
      cases hs
    · simp only [if_neg hs]
      have haccepts : m.accepts rreq sourceAddr := ⟨by simpa using hb, by simpa using hs⟩
      refine .bind (quiet_of_does (updateReverseRoute_does _ _ sourceAddr)) fun m₂ h₂ => ?_
      refine (quiet_of_does (disseminateRREQ_does m₂ _ sourceAddr timeToLive)).mono fun m₃ h₃ => ?_
      have h₂₃ := h₂.trans h₃
      rw [if_pos haccepts]
      refine ⟨Int.le_of_eq (h₂₃.simTime.trans h₁.simTime).symm, h₂₃.par.trans h₁.par, ?_⟩
      rw [h₂₃.arrival, recorded]
      simp only [h₁.arrival, h₁.simTime, foldl_cons, foldl_nil]
      rfl

theorem handleMessage_records (e : Event) : Ensures (m.handleMessage e) fun m' => Records m m' (m.heard e m') := by
  have hsame {m' : AODVRouting} (h : Quiet m m') :
      Records m m' (if m'.rreqId = m.rreqId then [] else [⟨m.routerId, m'.rreqId⟩]) := by
    rw [if_pos h.rreqId]
    exact h.records
  have hown {m' : AODVRouting} (h : Quiet m m' ∨ Originates m m') :
      Records m m' (if m'.rreqId = m.rreqId then [] else [⟨m.routerId, m'.rreqId⟩]) := by
    cases h with
    | inl hquiet => exact hsame hquiet
    | inr horiginates =>
      have hne : m'.rreqId ≠ m.rreqId := by
        rw [horiginates.rreqId]
        bv_omega
      rw [if_neg hne]
      refine ⟨Int.le_of_eq horiginates.simTime.symm, horiginates.par, ?_⟩
      rw [horiginates.arrival, recorded, horiginates.rreqId]
      rfl
  have hquiet (hhears : ¬ e.mayHear) (helapse : ∀ t, e ≠ .elapse t) (hexpunge : e ≠ .expungeTimer) :
      Ensures (m.handleMessage e) fun m' =>
        Records m m' (if m'.rreqId = m.rreqId then [] else [⟨m.routerId, m'.rreqId⟩]) :=
    (quiet_of_does (handleMessage_does m hhears (fun h => h.elim) helapse hexpunge)).mono fun m' h => hsame h
  cases e with
  | elapse t =>
    refine .ite (fun h => .pure ?_) fun _ => .pure (hsame ⟨rfl, rfl, rfl, rfl⟩)
    refine ⟨h.1, rfl, ?_⟩
    simp [heard, recorded]
  | datagramHook datagram =>
    exact .map ((ensureRouteForDatagram_records m datagram).mono fun res h => hown h)
  | packet packet sourceAddr timeToLive =>
    cases packet with
    | RREQ rreq => exact handleRREQ_records m rreq sourceAddr timeToLive
    | RREP rrep => exact hquiet id (fun _ => by simp) (by simp)
    | RERR rerr => exact hquiet id (fun _ => by simp) (by simp)
    | RREPACK => exact hquiet id (fun _ => by simp) (by simp)
  | waitForRREP target =>
    simp only [handleMessage, waitForRREPTimer]
    cases m.discovery.waitForRREPTimers.lookup target with
    | none => exact .pure (hsame ⟨rfl, rfl, rfl, rfl⟩)
    | some timer =>
      refine .ite (fun _ => ?_) fun _ => .pure (hsame ⟨rfl, rfl, rfl, rfl⟩)
      refine (handleWaitForRREP_records _ target timer).mono fun m' h => hown ?_
      exact h.imp (fun h => ⟨h.simTime, h.par, h.arrival, h.rreqId⟩) fun h => ⟨h.simTime, h.par, h.rreqId, h.arrival⟩
  | expungeTimer =>
    refine .ite (fun _ => ?_) fun _ => .pure (hsame ⟨rfl, rfl, rfl, rfl⟩)
    refine (scheduleExpungeRoutes_ok _).mono ?_
    rintro m' ⟨t, rfl⟩
    exact hsame ⟨rfl, rfl, rfl, rfl⟩
  | datagramForwardHook datagram => exact hquiet id (fun _ => by simp) (by simp)
  | linkBreak datagram => exact hquiet id (fun _ => by simp) (by simp)
  | helloMsgTimer periodicJitter => exact hquiet id (fun _ => by simp) (by simp)
  | counterTimer => exact hquiet id (fun _ => by simp) (by simp)
  | rrepAckTimer => exact hquiet id (fun _ => by simp) (by simp)
  | blacklistTimer => exact hquiet id (fun _ => by simp) (by simp)

variable {m} {log : List (RREQIdentifier × Int)}

/-- The RREQs accepted or originated in a run, with the times. -/
def history (m : AODVRouting) : List Event → List (RREQIdentifier × Int)
  | [] => []
  | e :: events =>
    match m.handleMessage e with
    | .ok m' => (m.heard e m').map (fun id => (id, m.simTime)) ++ history m' events
    | .error _ => []

/-- A RREQ of the same originator with the same identifier is recent. -/
def Duplicate (m : AODVRouting) (log : List (RREQIdentifier × Int)) (rreq : AODVRREQ) : Prop :=
  ∃ a ∈ log, a.1 = rreq.identifier ∧ m.simTime - a.2 ≤ m.par.pathDiscoveryTime
deriving Decidable

/-- A RREQ of another originator with the same identifier is recent. -/
def Collision (m : AODVRouting) (log : List (RREQIdentifier × Int)) (rreq : AODVRREQ) : Prop :=
  ∃ a ∈ log, a.1.rreqID = rreq.rreqId ∧ a.1.originatorAddr ≠ rreq.originatorAddr ∧
    m.simTime - a.2 ≤ m.par.pathDiscoveryTime
deriving Decidable

/-- The history holds the latest time for each identifier. -/
structure Remembers (now : Int) (history : StdMap (BitVec 32) Int) (log : List (RREQIdentifier × Int)) : Prop where
  past : ∀ a ∈ log, a.2 ≤ now
  latest : ∀ id t, history.lookup id = some t →
    (∃ a ∈ log, a.1.rreqID = id ∧ a.2 = t) ∧ ∀ a ∈ log, a.1.rreqID = id → a.2 ≤ t
  unheard : ∀ id, history.lookup id = none → ∀ a ∈ log, a.1.rreqID ≠ id

section

variable {now now' : Int} {history : StdMap (BitVec 32) Int} {log : List (RREQIdentifier × Int)}

section

variable (h : Remembers now history log)
include h

theorem Remembers.later (hle : now ≤ now') : Remembers now' history log :=
  ⟨fun a ha => (h.past a ha).trans hle, h.latest, h.unheard⟩

theorem Remembers.hear (id : RREQIdentifier) :
    Remembers now (history.insert id.rreqID now) (log ++ [(id, now)]) := by
  have hmem {a : RREQIdentifier × Int} (ha : a ∈ log ++ [(id, now)]) : a ∈ log ∨ a = (id, now) := by simpa using ha
  have hpast {a : RREQIdentifier × Int} (ha : a ∈ log ++ [(id, now)]) : a.2 ≤ now := by
    cases hmem ha with
    | inl hold => exact h.past a hold
    | inr hnew => rw [hnew]
  refine ⟨fun a ha => hpast ha, fun id' t ht => ?_, fun id' hnone a ha heq => ?_⟩
  · by_cases hid : id' = id.rreqID
    · rw [hid, AList.lookup_insert] at ht
      cases ht
      exact ⟨⟨(id, now), by simp, hid.symm, rfl⟩, fun a ha _ => hpast ha⟩
    · rw [AList.lookup_insert_ne hid] at ht
      obtain ⟨⟨a, ha, heq⟩, hall⟩ := h.latest id' t ht
      refine ⟨⟨a, mem_append_left _ ha, heq⟩, fun b hb hbid => ?_⟩
      cases hmem hb with
      | inl hold => exact hall b hold hbid
      | inr hnew => exact absurd (hbid.symm.trans (by rw [hnew])) hid
  · have hid : id' ≠ id.rreqID := by
      intro hid
      rw [hid, AList.lookup_insert] at hnone
      cases hnone
    rw [AList.lookup_insert_ne hid] at hnone
    cases hmem ha with
    | inl hold => exact h.unheard id' hnone a hold heq
    | inr hnew => exact hid (heq.symm.trans (by rw [hnew]))

theorem Remembers.hearAll (ids : List RREQIdentifier) :
    Remembers now (ids.foldl (fun history id => history.insert id.rreqID now) history)
      (log ++ ids.map fun id => (id, now)) := by
  induction ids generalizing history log with
  | nil => simpa using h
  | cons id ids ih => simpa [append_assoc] using ih (h.hear id)

end

end

section

variable (h : Remembers m.simTime m.rreqsArrivalTime log)
include h

/-- A RREQ is taken for a duplicate if a recent one has its identifier, whoever originated it. -/
theorem Remembers.hasSeen_iff (rreq : AODVRREQ) :
    m.hasSeen rreq = true ↔ ∃ a ∈ log, a.1.rreqID = rreq.rreqId ∧ m.simTime - a.2 ≤ m.par.pathDiscoveryTime := by
  unfold hasSeen
  cases hl : m.rreqsArrivalTime.lookup rreq.rreqId with
  | none =>
    constructor
    · intro hseen
      cases hseen
    · rintro ⟨a, ha, hid, -⟩
      exact absurd hid (h.unheard _ hl a ha)
  | some t =>
    obtain ⟨⟨a, ha, hid, rfl⟩, hall⟩ := h.latest _ t hl
    simp only [decide_eq_true_eq]
    constructor
    · intro hrecent
      exact ⟨a, ha, hid, hrecent⟩
    · rintro ⟨b, hb, hbid, hrecent⟩
      have hle := hall b hb hbid
      omega

theorem remembers_of_run {events : List Event} (hrun : Runs.run handleMessage m events = .ok m') :
    Remembers m'.simTime m'.rreqsArrivalTime (log ++ m.history events) := by
  induction events generalizing m log with
  | nil =>
    cases hrun
    simpa [AODVRouting.history] using h
  | cons e events ih =>
    obtain ⟨m₁, h₁, hrun⟩ := Runs.run_cons.mp hrun
    have hrecords := handleMessage_records m e m₁ h₁
    have hheard := (h.hearAll (m.heard e m₁)).later hrecords.simTime
    rw [show foldl _ m.rreqsArrivalTime (m.heard e m₁) = m₁.rreqsArrivalTime from hrecords.arrival.symm] at hheard
    simpa [AODVRouting.history, h₁, append_assoc] using ih hheard hrun

theorem duplicate_or_collision
    (rreq : AODVRREQ) : m.hasSeen rreq = true ↔ m.Duplicate log rreq ∨ m.Collision log rreq := by
  rw [h.hasSeen_iff]
  constructor
  · rintro ⟨a, ha, hid, hrecent⟩
    by_cases horiginator : a.1.originatorAddr = rreq.originatorAddr
    · exact .inl ⟨a, ha, by rw [AODVRREQ.identifier, ← horiginator, ← hid], hrecent⟩
    · exact .inr ⟨a, ha, hid, horiginator, hrecent⟩
  · rintro (⟨a, ha, hid, hrecent⟩ | ⟨a, ha, hid, -, hrecent⟩)
    · exact ⟨a, ha, by rw [hid]; rfl, hrecent⟩
    · exact ⟨a, ha, hid, hrecent⟩

end

/-- Exactly the duplicates are discarded just where no recent RREQ of another originator has the
same identifier, unless one of the same originator has it, too. -/
theorem discards_iff (routerId : IPv4Address) (localAddresses : List IPv4Address) (otherRoutes : List OtherRoute)
    (par : Parameters) (periodicJitter : Int) (events : List Event) (m : AODVRouting)
    (hrun : Runs.run handleMessage (initial routerId localAddresses otherRoutes par periodicJitter) events = .ok m)
    (rreq : AODVRREQ) (sourceAddr : IPv4Address) (hneighbor : m.blacklist.lookup sourceAddr = none) :
    let log := (initial routerId localAddresses otherRoutes par periodicJitter).history events
    (m.discards rreq sourceAddr ↔ m.Duplicate log rreq) ↔ (m.Collision log rreq → m.Duplicate log rreq) := by
  intro log
  have hstart : Remembers 0 ∅ [] := ⟨by simp, by simp, by simp⟩
  have hremembers : Remembers m.simTime m.rreqsArrivalTime ([] ++ log) := remembers_of_run hstart hrun
  have hseen := duplicate_or_collision hremembers rreq
  have hdiscards : m.discards rreq sourceAddr ↔ m.hasSeen rreq = true := and_iff_right hneighbor
  tauto

def relayAddr : IPv4Address := 0x0A000002
def firstAddr : IPv4Address := 0x0A000003
def secondAddr : IPv4Address := 0x0A000004

/-- The first RREQ of a node. -/
def firstRREQ (originatorAddr : IPv4Address) : AODVRREQ where
  unknownSeqNumFlag := true
  rreqId := 1
  destAddr := 0x0A000009
  originatorAddr := originatorAddr
  originatorSeqNum := 1

def relayed : List Event := [.packet (.RREQ (firstRREQ firstAddr)) relayAddr 5]

theorem relayed_discards :
    ((Runs.run handleMessage (initial 0x0A000001 [0x0A000001] [] {} 0) relayed).map fun m =>
      (m.blacklist.lookup relayAddr, decide (m.discards (firstRREQ firstAddr) relayAddr),
        decide (m.discards (firstRREQ secondAddr) relayAddr))) = .ok (none, true, true) ∧
      (initial 0x0A000001 [0x0A000001] [] {} 0).history relayed = [(⟨firstAddr, 1⟩, 0)] := by
  decide

/-- The RREQ comes a second time. -/
theorem again_discarded : ∃ m,
    Runs.run handleMessage (initial 0x0A000001 [0x0A000001] [] {} 0) relayed = .ok m ∧
      ((m.discards (firstRREQ firstAddr) relayAddr ↔
          m.Duplicate ((initial 0x0A000001 [0x0A000001] [] {} 0).history relayed) (firstRREQ firstAddr)) ↔
        (m.Collision ((initial 0x0A000001 [0x0A000001] [] {} 0).history relayed) (firstRREQ firstAddr) →
          m.Duplicate ((initial 0x0A000001 [0x0A000001] [] {} 0).history relayed) (firstRREQ firstAddr))) := by
  have hrelayed := relayed_discards.1
  cases hm : Runs.run handleMessage (initial 0x0A000001 [0x0A000001] [] {} 0) relayed with
  | error err => rw [hm] at hrelayed; cases hrelayed
  | ok m =>
    rw [hm] at hrelayed
    have hneighbor : m.blacklist.lookup relayAddr = none := congrArg Prod.fst (Except.ok.inj hrelayed)
    exact ⟨m, rfl, discards_iff _ _ _ _ _ relayed m hm (firstRREQ firstAddr) relayAddr hneighbor⟩

/-- The first RREQ of the second node is lost because of that of the first one. -/
theorem second_originator_discarded :
    ¬ ∀ (routerId : IPv4Address) (localAddresses : List IPv4Address) (otherRoutes : List OtherRoute)
        (par : Parameters) (periodicJitter : Int) (events : List Event) (m : AODVRouting),
      Runs.run handleMessage (initial routerId localAddresses otherRoutes par periodicJitter) events = .ok m →
      ∀ (rreq : AODVRREQ) (sourceAddr : IPv4Address), m.blacklist.lookup sourceAddr = none →
        (m.discards rreq sourceAddr ↔
          m.Duplicate ((initial routerId localAddresses otherRoutes par periodicJitter).history events) rreq) := by
  intro hall
  obtain ⟨hrelayed, hlog⟩ := relayed_discards
  cases hm : Runs.run handleMessage (initial 0x0A000001 [0x0A000001] [] {} 0) relayed with
  | error err => rw [hm] at hrelayed; cases hrelayed
  | ok m =>
    rw [hm] at hrelayed
    have hneighbor : m.blacklist.lookup relayAddr = none := congrArg Prod.fst (Except.ok.inj hrelayed)
    have hdiscards : decide (m.discards (firstRREQ secondAddr) relayAddr) = true :=
      congrArg (·.2.2) (Except.ok.inj hrelayed)
    have hduplicate := (hall _ _ _ _ _ relayed m hm (firstRREQ secondAddr) relayAddr hneighbor).mp
      (of_decide_eq_true hdiscards)
    obtain ⟨a, ha, hid, -⟩ := hduplicate
    cases mem_singleton.mp ha
    exact absurd hid (by decide)

end AODVRouting

end Inet.Aodv
