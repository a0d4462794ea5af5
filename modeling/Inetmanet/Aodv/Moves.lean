import Inetmanet.Aodv.Effects

/-!
# Lifetimes of routes

An operation of the module is a sequence of moves: it changes a route and has the
expunge timer scheduled again, it gives a route a later lifetime, or it leaves the
routes alone. `Performs` says so of a computation, and that it schedules nothing in
the past; there is one lemma for each operation.
-/
namespace Inet.Aodv

open Ipv4 List

/-- The durations are durations. -/
structure Parameters.Sound (par : Parameters) : Prop where
  activeRouteTimeout : 0 ≤ par.activeRouteTimeout
  helloInterval : 0 ≤ par.helloInterval
  nodeTraversalTime : 0 ≤ par.nodeTraversalTime
  deletePeriod : 0 < par.deletePeriod
  blacklistTimeout : 0 ≤ par.blacklistTimeout
  netTraversalTime : 0 ≤ par.netTraversalTime
  nextHopWait : 0 ≤ par.nextHopWait

namespace AODVRouting

open IPv4Address

/-- How `scheduleAt` ends the simulation. -/
def past : CRuntimeError := .runtime "Cannot schedule message to the past"

/-- The expunge timer is not late for any route. -/
structure Punctual (m : AODVRouting) : Prop where
  sound : m.par.Sound
  timer : ∀ t, m.expungeTimer = some t → m.simTime ≤ t
  fresh : ∀ dest r, m.findRoute dest = some r → m.simTime ≤ r.lifeTime
  covered : ∀ dest r, m.findRoute dest = some r →
    (∃ t, m.expungeTimer = some t ∧ t ≤ r.lifeTime) ∨ SimTime.getMaxTime ≤ r.lifeTime

/-- Nothing that has to do with the age of a route has changed. -/
structure Aside (m m' : AODVRouting) : Prop where
  simTime : m'.simTime = m.simTime
  par : m'.par = m.par
  routerId : m'.routerId = m.routerId
  table : m'.table = m.table
  expungeTimer : m'.expungeTimer = m.expungeTimer

/-- Changes of the routing table after which the expunge timer is scheduled again. An inactive
route is kept for `DELETE_PERIOD`. -/
inductive Revises (safe : Prop) (m : AODVRouting) : AODVRoutes → Prop
  | assign (dest : IPv4Address) (f : AODVRoute → AODVRoute)
      (hlife : safe → m.Punctual → ∀ r, m.findRoute dest = some r →
        m.simTime ≤ (f r).lifeTime ∨ r.lifeTime ≤ (f r).lifeTime)
      (hinactive : ∀ r, (f r).active = false → (f r).lifeTime = m.simTime + m.par.deletePeriod) :
      Revises safe m (m.table.modify dest f)
  | create (route : AODVRoute) (hlife : safe → m.Punctual → m.simTime ≤ route.lifeTime)
      (hactive : route.active = true) : Revises safe m (m.table.insert route)

/-- What an operation does at a time. `safe` is the condition under which no lifetime is in the
past or before the expunge timer; `hears`, whether a RREQ may be recorded. -/
inductive Move (safe hears : Prop) : AODVRouting → AODVRouting → Prop
  | aside {m m' : AODVRouting} (h : Aside m m')
      (hhears : hears ∨ m'.rreqsArrivalTime = m.rreqsArrivalTime ∧ m'.rreqId = m.rreqId) : Move safe hears m m'
  | alter {m : AODVRouting} (dest : IPv4Address) (f : AODVRoute → AODVRoute)
      (hlife : safe → m.Punctual → ∀ r, m.findRoute dest = some r →
        r.lifeTime ≤ (f r).lifeTime ∨ ∃ t, m.expungeTimer = some t ∧ t ≤ (f r).lifeTime)
      (hinactive : ∀ r, (f r).active = false →
        m.simTime + m.par.deletePeriod ≤ (f r).lifeTime ∨ r.active = false ∧ r.lifeTime ≤ (f r).lifeTime) :
      Move safe hears m (m.modifyRoute dest f)
  | revise {m m' : AODVRouting} {table : AODVRoutes} (h : Revises safe m table)
      (hs : scheduleExpungeRoutes { m with table := table } = .ok m') : Move safe hears m m'

inductive Moves (safe hears : Prop) (m : AODVRouting) : AODVRouting → Prop
  | refl : Moves safe hears m m
  | tail {m₁ m₂ : AODVRouting} (h : Moves safe hears m m₁) (hmove : Move safe hears m₁ m₂) : Moves safe hears m m₂

variable {safe hears : Prop} {m m' m₁ m₂ : AODVRouting}

theorem Moves.single (h : Move safe hears m m₁) : Moves safe hears m m₁ := .tail .refl h

theorem Moves.trans (h₁ : Moves safe hears m m₁) (h₂ : Moves safe hears m₁ m₂) : Moves safe hears m m₂ := by
  induction h₂ with
  | refl => exact h₁
  | tail _ hmove ih => exact ih.tail hmove

/-- The loops that look for the earliest time. -/
theorem foldl_earliest {α : Type} (f : α → Int) (l : List α) (next : Int) :
    let earliest := l.foldl (fun next a => if f a < next then f a else next) next
    (earliest = next ∨ ∃ a ∈ l, earliest = f a) ∧ earliest ≤ next ∧ ∀ a ∈ l, earliest ≤ f a := by
  induction l generalizing next with
  | nil => simp
  | cons a l ih =>
    obtain ⟨hex, hle, hall⟩ := ih (if f a < next then f a else next)
    rw [foldl_cons]
    generalize l.foldl (fun next a => if f a < next then f a else next) (if f a < next then f a else next) = earliest
      at hex hle hall ⊢
    by_cases h : f a < next
    · rw [if_pos h] at hex hle
      refine ⟨.inr ?_, by omega, fun b hb => ?_⟩
      · cases hex with
        | inl hex => exact ⟨a, by simp, hex⟩
        | inr hex =>
          obtain ⟨b, hb, hex⟩ := hex
          exact ⟨b, mem_cons_of_mem a hb, hex⟩
      · cases mem_cons.mp hb with
        | inl he => exact he ▸ hle
        | inr hmem => exact hall b hmem
    · rw [if_neg h] at hex hle
      refine ⟨?_, hle, fun b hb => ?_⟩
      · cases hex with
        | inl hex => exact .inl hex
        | inr hex =>
          obtain ⟨b, hb, hex⟩ := hex
          exact .inr ⟨b, mem_cons_of_mem a hb, hex⟩
      · cases mem_cons.mp hb with
        | inl he => rw [he]; omega
        | inr hmem => exact hall b hmem

theorem nextExpungeTime_le (m : AODVRouting) :
    (m.nextExpungeTime = SimTime.getMaxTime ∨ ∃ r ∈ m.table.routes, m.nextExpungeTime = r.lifeTime) ∧
      m.nextExpungeTime ≤ SimTime.getMaxTime ∧ ∀ r ∈ m.table.routes, m.nextExpungeTime ≤ r.lifeTime :=
  foldl_earliest (fun r : AODVRoute => r.lifeTime) m.table.routes SimTime.getMaxTime

variable {dest : IPv4Address} {r : AODVRoute}

theorem nextExpungeTime_le_find (m : AODVRouting) (h : m.findRoute dest = some r) :
    m.nextExpungeTime ≤ r.lifeTime :=
  m.nextExpungeTime_le.2.2 r (mem_of_find?_eq_some h)

/-- Where no lifetime is over, the timer is scheduled and is on time. -/
theorem scheduleExpungeRoutes_punctual (hsound : m.par.Sound) (htimer : ∀ t, m.expungeTimer = some t → m.simTime ≤ t)
    (hfresh : ∀ dest r, m.findRoute dest = some r → m.simTime ≤ r.lifeTime) :
    ∃ t, m.scheduleExpungeRoutes = .ok { m with expungeTimer := t } ∧ Punctual { m with expungeTimer := t } := by
  obtain ⟨hex, hmax, hall⟩ := m.nextExpungeTime_le
  unfold scheduleExpungeRoutes
  by_cases hnone : m.nextExpungeTime = SimTime.getMaxTime
  · rw [if_pos hnone]
    refine ⟨none, rfl, hsound, by simp, hfresh, fun dest r hr => .inr ?_⟩
    rw [← hnone]
    exact m.nextExpungeTime_le_find hr
  · rw [if_neg hnone]
    have hcovered : ∀ dest r, m.findRoute dest = some r →
        (∃ t, some m.nextExpungeTime = some t ∧ t ≤ r.lifeTime) ∨ SimTime.getMaxTime ≤ r.lifeTime :=
      fun dest r hr => .inl ⟨_, rfl, m.nextExpungeTime_le_find hr⟩
    by_cases hsame : m.expungeTimer = some m.nextExpungeTime
    · rw [if_pos hsame]
      refine ⟨m.expungeTimer, rfl, hsound, htimer, hfresh, ?_⟩
      rw [hsame]
      exact hcovered
    · rw [if_neg hsame]
      have hlater : m.simTime ≤ m.nextExpungeTime := by
        cases hex with
        | inl he => exact absurd he hnone
        | inr he =>
          obtain ⟨r, hr, he⟩ := he
          rw [he]
          exact hfresh r.destination r (AODVRoutes.find?_of_mem hr)
      refine ⟨some m.nextExpungeTime, ?_, hsound, ?_, hfresh, hcovered⟩
      · simp [scheduleAt, Int.not_lt.mpr hlater, bind, Except.bind, pure, Except.pure]
      · intro t ht
        cases ht
        exact hlater

/-- The routes after a route has been changed. -/
theorem findRoute_modify {dest' : IPv4Address} {f : AODVRoute → AODVRoute} {r' : AODVRoute}
    (h : (m.table.modify dest f).find? dest' = some r') :
    dest' = dest ∧ (∃ r, m.findRoute dest = some r ∧ r' = { f r with destination := dest }) ∨
      m.findRoute dest' = some r' := by
  rw [AODVRoutes.find?_modify] at h
  by_cases hd : dest' = dest
  · rw [if_pos hd] at h
    obtain ⟨r, hr, rfl⟩ := Option.map_eq_some_iff.mp h
    exact .inl ⟨hd, r, hr, rfl⟩
  · rw [if_neg hd] at h
    exact .inr h

/-- A revised route does not have a lifetime that is over. -/
theorem Revises.fresh {table : AODVRoutes} (h : Revises safe m table) (hsafe : safe) (hpunctual : m.Punctual)
    (hr : table.find? dest = some r) : m.simTime ≤ r.lifeTime := by
  cases h with
  | assign dest' f hlife _ =>
    rcases findRoute_modify hr with ⟨-, s, hs, rfl⟩ | hsame
    · cases hlife hsafe hpunctual s hs with
      | inl hle => exact hle
      | inr hle => exact (hpunctual.fresh _ s hs).trans hle
    · exact hpunctual.fresh dest r hsame
  | create route hlife _ =>
    rw [AODVRoutes.find?_insert] at hr
    by_cases hd : dest = route.destination
    · rw [if_pos hd] at hr
      cases hr
      exact hlife hsafe hpunctual
    · rw [if_neg hd] at hr
      exact hpunctual.fresh dest r hr

theorem Move.punctual (h : Move safe hears m m') (hsafe : safe) (hpunctual : m.Punctual) : m'.Punctual := by
  cases h with
  | aside h _ =>
    have hfind (dest : IPv4Address) : m'.findRoute dest = m.findRoute dest := by rw [findRoute, h.table]; rfl
    refine ⟨h.par ▸ hpunctual.sound, ?_, ?_, ?_⟩
    · rw [h.expungeTimer, h.simTime]
      exact hpunctual.timer
    · simp only [hfind, h.simTime]
      exact hpunctual.fresh
    · simp only [hfind, h.expungeTimer]
      exact hpunctual.covered
  | alter dest f hlife _ =>
    refine ⟨hpunctual.sound, hpunctual.timer, fun dest' r hr => ?_, fun dest' r hr => ?_⟩
    · rcases findRoute_modify hr with ⟨-, s, hs, rfl⟩ | hsame
      · rcases hlife hsafe hpunctual s hs with hle | ⟨t, ht, hle⟩
        · exact (hpunctual.fresh _ s hs).trans hle
        · exact (hpunctual.timer t ht).trans hle
      · exact hpunctual.fresh dest' r hsame
    · rcases findRoute_modify hr with ⟨-, s, hs, rfl⟩ | hsame
      · rcases hlife hsafe hpunctual s hs with hle | hcovered
        · rcases hpunctual.covered _ s hs with ⟨t, ht, htle⟩ | hmax
          · exact .inl ⟨t, ht, htle.trans hle⟩
          · exact .inr (hmax.trans hle)
        · exact .inl hcovered
      · exact hpunctual.covered dest' r hsame
  | @revise _ table h hs =>
    obtain ⟨t, hok, hpunctual'⟩ := scheduleExpungeRoutes_punctual (m := { m with table := table }) hpunctual.sound
      hpunctual.timer fun dest r hr => h.fresh hsafe hpunctual hr
    cases Except.ok.inj (hok.symm.trans hs)
    exact hpunctual'

theorem Move.par (h : Move safe hears m m') : m'.par = m.par := by
  cases h with
  | aside h _ => exact h.par
  | alter dest f _ _ => rfl
  | revise h hs =>
    obtain ⟨t, rfl⟩ := scheduleExpungeRoutes_ok _ _ hs
    rfl

theorem Moves.par (h : Moves safe hears m m') : m'.par = m.par := by
  induction h with
  | refl => rfl
  | tail _ hmove ih => exact hmove.par.trans ih

theorem Moves.punctual (h : Moves safe hears m m') (hsafe : safe) (hpunctual : m.Punctual) : m'.Punctual := by
  induction h with
  | refl => exact hpunctual
  | tail _ hmove ih => exact hmove.punctual hsafe ih

/-- The computation makes moves from `m` to the module it gives, and schedules nothing in the past. -/
structure Performs (safe hears : Prop) {α : Type} (m : AODVRouting) (get : α → AODVRouting) (x : Sim α) : Prop where
  moves : ∀ a, x = .ok a → Moves safe hears m (get a)
  timely : safe → m.Punctual → x ≠ .error past

namespace Performs

variable {α β : Type} {get : α → AODVRouting} {get' : β → AODVRouting} {x : Sim α} {f : α → Sim β}

theorem pure {a : α} (h : Moves safe hears m (get a)) : Performs safe hears m get (pure a) := by
  refine ⟨fun b hb => ?_, fun _ _ h => by cases h⟩
  cases hb
  exact h

theorem throw {e : CRuntimeError} (h : e ≠ past) : Performs safe hears m get (throw e) :=
  ⟨fun _ hb => (by cases hb), fun _ _ he => h (Except.error.inj he)⟩

theorem bind_moves (hx : Performs safe hears m get x)
    (hf : ∀ a, Moves safe hears m (get a) → Performs safe hears (get a) get' (f a)) :
    Performs safe hears m get' (x >>= f) := by
  constructor
  · intro b hb
    obtain ⟨a, ha, hb⟩ := bind_ok.mp hb
    have hmoves := hx.moves a ha
    exact hmoves.trans ((hf a hmoves).moves b hb)
  · intro hsafe hpunctual he
    rcases bind_error.mp he with hfail | ⟨a, ha, hfail⟩
    · exact hx.timely hsafe hpunctual hfail
    · have hmoves := hx.moves a ha
      exact (hf a hmoves).timely hsafe (hmoves.punctual hsafe hpunctual) hfail

theorem bind (hx : Performs safe hears m get x)
    (hf : ∀ a, Performs safe hears (get a) get' (f a)) : Performs safe hears m get' (x >>= f) :=
  bind_moves hx fun a _ => hf a

/-- A computation that does nothing to the module. -/
theorem call (hx : x ≠ .error past) (hf : ∀ a, Performs safe hears m get' (f a)) :
    Performs safe hears m get' (x >>= f) := by
  constructor
  · intro b hb
    obtain ⟨a, -, hb⟩ := bind_ok.mp hb
    exact (hf a).moves b hb
  · intro hsafe hpunctual he
    rcases bind_error.mp he with hfail | ⟨a, -, hfail⟩
    · exact hx hfail
    · exact (hf a).timely hsafe hpunctual hfail

theorem check {p : Prop} [Decidable p] {text : String} {f : Unit → Sim β}
    (hf : ∀ a, Performs safe hears m get' (f a)) : Performs safe hears m get' (ensure p text >>= f) := by
  refine call (fun he => ?_) hf
  cases (ensure_error.mp he).2

theorem scheduled {t : Int} {f : Int → Sim β} (ht : safe → m.Punctual → m.simTime ≤ t)
    (hf : ∀ a, Performs safe hears m get' (f a)) : Performs safe hears m get' (m.scheduleAt t >>= f) := by
  constructor
  · intro b hb
    obtain ⟨a, -, hb⟩ := bind_ok.mp hb
    exact (hf a).moves b hb
  · intro hsafe hpunctual he
    rcases bind_error.mp he with hfail | ⟨a, -, hfail⟩
    · rw [scheduleAt, if_neg (Int.not_lt.mpr (ht hsafe hpunctual))] at hfail
      cases hfail
    · exact (hf a).timely hsafe hpunctual hfail

theorem ite {c : Prop} [Decidable c] {x y : Sim α} (hx : c → Performs safe hears m get x)
    (hy : ¬ c → Performs safe hears m get y) : Performs safe hears m get (if c then x else y) := by
  by_cases h : c
  · rw [if_pos h]
    exact hx h
  · rw [if_neg h]
    exact hy h

theorem afterAll (h : Moves safe hears m m₁) (hx : Performs safe hears m₁ get x) :
    Performs safe hears m get x :=
  ⟨fun a ha => h.trans (hx.moves a ha), fun hsafe hpunctual => hx.timely hsafe (h.punctual hsafe hpunctual)⟩

/-- What is done after a move. -/
theorem after (h : Move safe hears m m₁) (hx : Performs safe hears m₁ get x) :
    Performs safe hears m get x :=
  afterAll (.single h) hx

/-- What is done after something that leaves the routes alone. -/
theorem quietly (hx : Performs safe hears m₁ get x) (h : Aside m m₁)
    (harrival : m₁.rreqsArrivalTime = m.rreqsArrivalTime) (hid : m₁.rreqId = m.rreqId) : Performs safe hears m get x :=
  after (.aside h (.inr ⟨harrival, hid⟩)) hx

theorem map {f : α → β} (hx : Performs safe hears m (fun a => get' (f a)) x) :
    Performs safe hears m get' (x.map f) := by
  constructor
  · intro b hb
    cases x with
    | ok a =>
      cases hb
      exact hx.moves a rfl
    | error e => cases hb
  · intro hsafe hpunctual he
    cases x with
    | ok a => cases he
    | error e => exact hx.timely hsafe hpunctual (congrArg _ (Except.error.inj he))

/-- The rule of the loops over routes. -/
theorem foldlM {f : α → β → Sim α} (hf : ∀ a b, Performs safe hears (get a) get (f a b)) (l : List β) (a : α) :
    Performs safe hears (get a) get (l.foldlM f a) := by
  induction l generalizing a with
  | nil => exact pure .refl
  | cons b l ih =>
    exact bind (hf a b) ih

end Performs

/-- The computation makes moves from `m` to the module it gives. -/
abbrev Does (safe hears : Prop) (m : AODVRouting) (x : Sim AODVRouting) : Prop := Performs safe hears m id x

theorem quietMove (h : Aside m m') (harrival : m'.rreqsArrivalTime = m.rreqsArrivalTime) (hid : m'.rreqId = m.rreqId) :
    Move safe hears m m' :=
  .aside h (.inr ⟨harrival, hid⟩)

theorem Revises.does {table : AODVRoutes} (h : Revises safe m table) :
    Does safe hears m (scheduleExpungeRoutes { m with table := table }) := by
  refine ⟨fun m' hs => .single (.revise h hs), fun hsafe hpunctual he => ?_⟩
  obtain ⟨t, hok, -⟩ := scheduleExpungeRoutes_punctual (m := { m with table := table }) hpunctual.sound hpunctual.timer
    fun dest r hr => h.fresh hsafe hpunctual hr
  cases hok.symm.trans he

variable (m)

theorem modifyRoute_move (dest : IPv4Address) (f : AODVRoute → AODVRoute) (hlife : ∀ r, r.lifeTime ≤ (f r).lifeTime)
    (hactive : ∀ r, (f r).active = false → r.active = false) : Move safe hears m (m.modifyRoute dest f) :=
  .alter dest f (fun _ _ r _ => .inl (hlife r)) fun r hr => .inr ⟨hactive r hr, hlife r⟩

theorem addPrecursor_move (dest precursorAddr : IPv4Address) :
    Move safe hears m (m.modifyRoute dest fun r => r.addPrecursor precursorAddr) :=
  m.modifyRoute_move dest _ (fun _ => Int.le_refl _) fun _ h => h

theorem updateValidRouteLifeTime_move (destAddr : IPv4Address) (lifetime : Int) :
    Move safe hears m (m.updateValidRouteLifeTime destAddr lifetime) := by
  refine m.modifyRoute_move destAddr _ (fun r => ?_) fun r hr => ?_
  · by_cases h : r.active = true
    · rw [if_pos h]
      exact Int.le_max_left _ _
    · rw [if_neg h]
  · by_cases h : r.active = true
    · rw [if_pos h] at hr
      exact hr
    · simpa using h

theorem createRoute_does (destAddr nextHop : IPv4Address) (hopCount : BitVec 32) (hasValidDestNum : Bool)
    (destSeqNum : BitVec 32) {lifeTime : Int} (hlife : safe → m.Punctual → m.simTime ≤ lifeTime) :
    Does safe hears m (m.createRoute destAddr nextHop hopCount hasValidDestNum destSeqNum true lifeTime) := by
  rw [createRoute, AODVRoutes.addRoute]
  split
  · exact .throw (by decide)
  · exact Revises.does (.create _ hlife rfl)

theorem updateRoutingTable_does (destAddr nextHop : IPv4Address) (hopCount : BitVec 32) (hasValidDestNum : Bool)
    (destSeqNum : BitVec 32) {lifeTime : Int} (hlife : safe → m.Punctual → ∀ r, m.findRoute destAddr = some r →
      m.simTime ≤ lifeTime ∨ r.lifeTime ≤ lifeTime) :
    Does safe hears m (m.updateRoutingTable destAddr nextHop hopCount hasValidDestNum destSeqNum true lifeTime) :=
  Revises.does (.assign destAddr _ hlife fun _ h => by cases h)

/-- The route is broken. -/
theorem invalidate_does (dest : IPv4Address) (destSeqNum : BitVec 32) :
    Does safe hears m (m.modifyRoute dest fun r =>
      { r with destSeqNum := destSeqNum, active := false, lifeTime := m.simTime + m.par.deletePeriod }
      ).scheduleExpungeRoutes := by
  refine Revises.does (.assign dest _ (fun _ hpunctual _ _ => .inl ?_) fun _ _ => rfl)
  have := hpunctual.sound.deletePeriod
  show m.simTime ≤ m.simTime + m.par.deletePeriod
  omega

theorem sendAODVPacket_does (packet : AODVControlPacket) (destAddr : IPv4Address) (timeToLive : BitVec 32)
    (jitter : Bool) : Does safe hears m (m.sendAODVPacket packet destAddr timeToLive jitter) :=
  .check fun _ => .pure (.single (quietMove ⟨rfl, rfl, rfl, rfl, rfl⟩ rfl rfl))

theorem setTimer_move (target : IPv4Address) (timer : WaitForRREP) : Move safe hears m (m.setTimer target timer) :=
  quietMove ⟨rfl, rfl, rfl, rfl, rfl⟩ rfl rfl

theorem nextRing_ne (target : IPv4Address) (timeToLive : BitVec 32) : m.nextRing target timeToLive ≠ .error past := by
  unfold nextRing
  intro h
  cases hl : m.discovery.waitForRREPTimers.lookup target with
  | none => simp [hl, pure, Except.pure] at h
  | some timer =>
    simp only [hl] at h
    by_cases ht : timeToLive ≠ 0
    · rw [if_pos ht] at h
      cases h
    · rw [if_neg ht] at h
      rcases bind_error.mp h with he | ⟨_, _, hp⟩
      · cases (ensure_error.mp he).2
      · cases hp

theorem sendRREQ_does (rreq : AODVRREQ) (destAddr : IPv4Address) (timeToLive : BitVec 32) :
    Does safe hears m (m.sendRREQ rreq destAddr timeToLive) := by
  refine .ite (fun _ => .pure .refl) fun _ => .call (m.nextRing_ne _ _) fun (rrepTimerMsg, timeToLive) => ?_
  refine .scheduled (fun _ hpunctual => ?_) fun t => ?_
  · have hring : 0 ≤ m.ringTraversalTime timeToLive :=
      Int.mul_nonneg (Int.mul_nonneg (by decide) hpunctual.sound.nodeTraversalTime) (Int.natCast_nonneg _)
    omega
  · refine .after (m.setTimer_move _ _) (.bind (sendAODVPacket_does _ _ _ _ _) fun m₂ => ?_)
    exact .pure (.single (quietMove ⟨rfl, rfl, rfl, rfl, rfl⟩ rfl rfl))

theorem createRREP_does (rreq : AODVRREQ) (destRoute originatorRoute : Option AODVRoute) (lastHopAddr : IPv4Address) :
    Performs safe hears m Prod.snd (m.createRREP rreq destRoute originatorRoute lastHopAddr) := by
  unfold createRREP
  refine .ite (fun _ => .pure (.single (quietMove ⟨rfl, rfl, rfl, rfl, rfl⟩ rfl rfl))) fun _ => ?_
  cases destRoute with
  | none => exact .throw (by decide)
  | some r =>
    cases originatorRoute with
    | none => exact .throw (by decide)
    | some _ => exact .after (m.addPrecursor_move _ _) (.pure (.single (addPrecursor_move _ _ _)))

theorem requireAck_does (destRoute : AODVRoute) (rrep : AODVRREP) :
    Performs safe hears m Prod.snd (m.requireAck destRoute rrep) := by
  refine .ite (fun _ => .scheduled (fun _ hpunctual => ?_) fun _ => ?_) fun _ => .pure .refl
  · have := hpunctual.sound.nextHopWait
    omega
  · exact .pure (.single (quietMove ⟨rfl, rfl, rfl, rfl, rfl⟩ rfl rfl))

theorem sendRREP_does (rrep : AODVRREP) (destAddr : IPv4Address) (timeToLive : BitVec 32) :
    Does safe hears m (m.sendRREP rrep destAddr timeToLive) := by
  unfold sendRREP
  cases m.findRoute destAddr with
  | none => exact .throw (by decide)
  | some destRoute =>
    refine .after (m.addPrecursor_move destAddr destRoute.gateway) ?_
    exact .bind (requireAck_does _ destRoute rrep) fun _ => sendAODVPacket_does _ _ _ _ _

theorem sendGRREP_does (grrep : AODVRREP) (destAddr : IPv4Address) (timeToLive : BitVec 32) :
    Does safe hears m (m.sendGRREP grrep destAddr timeToLive) := by
  unfold sendGRREP
  cases m.findRoute destAddr with
  | none => exact .throw (by decide)
  | some destRoute => exact sendAODVPacket_does _ _ _ _ _

/-- A RREQ is recorded. -/
theorem createRREQ_move (hhears : hears) (destAddr : IPv4Address) : Move safe hears m (m.createRREQ destAddr).2 :=
  .aside ⟨rfl, rfl, rfl, rfl, rfl⟩ (.inl hhears)

theorem startRouteDiscovery_does (hhears : hears) (target : IPv4Address) (timeToLive : BitVec 32) :
    Does safe hears m (m.startRouteDiscovery target timeToLive) := by
  refine .check fun _ => .after (m.createRREQ_move hhears target) ?_
  exact .quietly (sendRREQ_does _ _ _ _) ⟨rfl, rfl, rfl, rfl, rfl⟩ rfl rfl

theorem completeRouteDiscovery_does (target : IPv4Address) :
    Does safe hears m (m.completeRouteDiscovery target) :=
  .check fun _ => .pure (.single (quietMove ⟨rfl, rfl, rfl, rfl, rfl⟩ rfl rfl))

theorem handleWaitForRREP_does (hhears : hears) (destAddr : IPv4Address) (rrepTimer : WaitForRREP) :
    Does safe hears m (m.handleWaitForRREP destAddr rrepTimer) := by
  unfold handleWaitForRREP
  cases m.discovery.addressToRreqRetries.lookup destAddr with
  | none => exact .throw (by decide)
  | some retries =>
    refine .ite (fun _ => .pure .refl) fun _ => .after (m.createRREQ_move hhears destAddr) ?_
    refine .after ?_ (sendRREQ_does _ _ _ _)
    split
    · exact quietMove ⟨rfl, rfl, rfl, rfl, rfl⟩ rfl rfl
    · exact quietMove ⟨rfl, rfl, rfl, rfl, rfl⟩ rfl rfl

theorem updatePreviousHopRoute_does (sourceAddr : IPv4Address) (originatorSeqNum : BitVec 32) :
    Does safe hears m (m.updatePreviousHopRoute sourceAddr originatorSeqNum) := by
  have hlater (hpunctual : m.Punctual) : m.simTime ≤ m.simTime + m.par.activeRouteTimeout := by
    have := hpunctual.sound.activeRouteTimeout
    omega
  unfold updatePreviousHopRoute
  cases m.findRoute sourceAddr with
  | none => exact createRoute_does m _ _ _ _ _ fun _ hpunctual => hlater hpunctual
  | some r => exact updateRoutingTable_does m _ _ _ _ _ fun _ hpunctual _ _ => .inl (hlater hpunctual)

theorem handleHelloMessage_does (helloMessage : AODVRREP) :
    Does safe hears m (m.handleHelloMessage helloMessage) := by
  unfold handleHelloMessage
  cases hr : m.findRoute helloMessage.destAddr with
  | none =>
    refine createRoute_does m _ _ _ _ _ fun _ hpunctual => ?_
    have := Int.mul_nonneg (Int.natCast_nonneg m.par.allowedHelloLoss.toNat) hpunctual.sound.helloInterval
    omega
  | some routeHelloOriginator =>
    refine updateRoutingTable_does m _ _ _ _ _ fun _ _ r hr' => .inr ?_
    cases hr.symm.trans hr'
    exact Int.le_max_left _ _

section

variable (rrep : AODVRREP)
include rrep

theorem updateForwardRoute_does (sourceAddr : IPv4Address) (hlife : safe → 0 ≤ rrep.lifeTime) :
    Does safe hears m (m.updateForwardRoute rrep sourceAddr) := by
  have hlater (hsafe : safe) : m.simTime ≤ m.simTime + rrep.lifeTime := by
    have := hlife hsafe
    omega
  unfold updateForwardRoute
  cases m.findRoute rrep.destAddr with
  | none => exact createRoute_does m _ _ _ _ _ fun hsafe _ => hlater hsafe
  | some destRoute =>
    exact .ite (fun _ => updateRoutingTable_does m _ _ _ _ _ fun hsafe _ _ _ => .inl (hlater hsafe))
      fun _ => .pure .refl

theorem acknowledgeRREP_does (sourceAddr : IPv4Address) :
    Does safe hears m (m.acknowledgeRREP rrep sourceAddr) :=
  .ite (fun _ => sendAODVPacket_does _ _ _ _ _) fun _ => .pure .refl

theorem addPrecursors_does (nextHop : IPv4Address) :
    Does safe hears m (m.addPrecursors rrep nextHop) := by
  unfold addPrecursors
  cases m.findRoute rrep.destAddr with
  | none => exact .throw (by decide)
  | some destRoute =>
    refine .after (m.addPrecursor_move rrep.destAddr nextHop) ?_
    dsimp only
    split
    · exact .throw (by decide)
    · exact .pure (.single (addPrecursor_move _ _ _))

theorem relayRREP_does (sourceAddr : IPv4Address) :
    Does safe hears m (m.relayRREP rrep sourceAddr) := by
  unfold relayRREP
  cases m.findRoute rrep.originatorAddr with
  | none => exact .pure .refl
  | some originatorRoute =>
    refine .after (m.modifyRoute_move rrep.originatorAddr
      (fun r => { r with lifeTime := max (m.simTime + m.par.activeRouteTimeout) r.lifeTime })
      (fun _ => Int.le_max_right _ _) fun _ h => h) ?_
    refine .ite (fun _ => ?_) fun _ => .pure .refl
    refine .bind (acknowledgeRREP_does _ rrep sourceAddr) fun m₂ => ?_
    refine .bind (addPrecursors_does _ rrep originatorRoute.gateway) fun m₃ => ?_
    exact sendAODVPacket_does _ _ _ _ _

theorem acceptRREP_does (sourceAddr : IPv4Address) (hlife : safe → 0 ≤ rrep.lifeTime) :
    Does safe hears m (m.acceptRREP rrep sourceAddr) := by
  refine .ite (fun _ => .bind (updateRoutingTable_does m _ _ _ _ _ fun hsafe _ _ _ => .inl ?_) fun m₁ => ?_)
    fun _ => .pure .refl
  · have := hlife hsafe
    omega
  · exact completeRouteDiscovery_does m₁ _

theorem handleRREP_does (sourceAddr : IPv4Address)
    (hlife : safe → isUnspecified rrep.originatorAddr = false → 0 ≤ rrep.lifeTime) :
    Does safe hears m (m.handleRREP rrep sourceAddr) := by
  refine .ite (fun _ => handleHelloMessage_does m rrep) fun hreply => ?_
  have hlife' (hsafe : safe) : 0 ≤ rrep.lifeTime := hlife hsafe (by simpa using hreply)
  refine .bind (updatePreviousHopRoute_does m sourceAddr rrep.originatorSeqNum) fun m₁ => ?_
  refine .bind (updateForwardRoute_does m₁ _ sourceAddr hlife') fun m₂ => ?_
  exact .ite (fun _ => relayRREP_does m₂ _ sourceAddr) fun _ => acceptRREP_does m₂ _ sourceAddr hlife'

end

section

variable (rreq : AODVRREQ)
include rreq

theorem updateReverseRoute_does (sourceAddr : IPv4Address) :
    Does safe hears m (m.updateReverseRoute rreq sourceAddr) := by
  unfold updateReverseRoute
  cases m.findRoute rreq.originatorAddr with
  | none => exact createRoute_does m _ _ _ _ _ fun _ _ => Int.le_max_left _ _
  | some reverseRoute =>
    exact .ite (fun _ => updateRoutingTable_does m _ _ _ _ _ fun _ _ _ _ => .inl (Int.le_max_left _ _))
      fun _ => .pure .refl

theorem replyToRREQ_does (destRoute : Option AODVRoute) (sourceAddr : IPv4Address) :
    Does safe hears m (m.replyToRREQ rreq destRoute sourceAddr) :=
  .bind (createRREP_does m rreq destRoute _ sourceAddr) fun _ => sendRREP_does _ _ _ _

theorem sendGratuitousRREP_does : Does safe hears m (m.sendGratuitousRREP rreq) := by
  unfold sendGratuitousRREP
  cases m.findRoute rreq.originatorAddr with
  | none => exact .throw (by decide)
  | some originatorRoute => exact sendGRREP_does _ _ _ _

theorem relayRREQ_does (destRoute : Option AODVRoute) (timeToLive : BitVec 32) :
    Does safe hears m (m.relayRREQ rreq destRoute timeToLive) :=
  .ite (fun _ => sendAODVPacket_does _ _ _ _ _) fun _ => .pure .refl

theorem answerRREQ_does (destRoute : AODVRoute) (sourceAddr : IPv4Address) :
    Does safe hears m (m.answerRREQ rreq destRoute sourceAddr) :=
  .ite (fun _ => .pure .refl) fun _ => .bind (replyToRREQ_does m rreq _ sourceAddr) fun _ =>
    .ite (fun _ => sendGratuitousRREP_does _ rreq) fun _ => .pure .refl

theorem disseminateRREQ_does (sourceAddr : IPv4Address) (timeToLive : BitVec 32) :
    Does safe hears m (m.disseminateRREQ rreq sourceAddr timeToLive) := by
  refine .ite (fun _ => replyToRREQ_does m rreq _ sourceAddr) fun _ => ?_
  cases m.findRoute rreq.destAddr with
  | none => exact relayRREQ_does m rreq none timeToLive
  | some destRoute =>
    exact .ite (fun _ => answerRREQ_does m rreq destRoute sourceAddr) fun _ => relayRREQ_does m rreq _ timeToLive

end

theorem hear_move (hhears : hears) (rreqId : BitVec 32) :
    Move safe hears m { m with rreqsArrivalTime := m.rreqsArrivalTime.insert rreqId m.simTime } :=
  .aside ⟨rfl, rfl, rfl, rfl, rfl⟩ (.inl hhears)

theorem handleRREQ_does (hhears : hears) (rreq : AODVRREQ) (sourceAddr : IPv4Address) (timeToLive : BitVec 32) :
    Does safe hears m (m.handleRREQ rreq sourceAddr timeToLive) := by
  refine .ite (fun _ => .pure .refl) fun _ => ?_
  refine .bind (updatePreviousHopRoute_does m sourceAddr rreq.originatorSeqNum) fun m₁ => ?_
  refine .ite (fun _ => .pure .refl) fun _ => .after (m₁.hear_move hhears rreq.rreqId) ?_
  exact .bind (updateReverseRoute_does _ _ sourceAddr) fun m₂ => disseminateRREQ_does m₂ _ sourceAddr timeToLive

theorem handleUnreachableNode_does (route : AODVRoute) (acc : AODVRouting × List UnreachableNode)
    (node : UnreachableNode) : Performs safe hears acc.1 Prod.fst (handleUnreachableNode route acc node) :=
  .ite (fun _ => .bind (invalidate_does acc.1 _ _) fun _ => .pure .refl) fun _ => .pure .refl

theorem handleRERRForRoute_does (rerr : AODVRERR) (sourceAddr : IPv4Address)
    (acc : AODVRouting × List UnreachableNode) (route : AODVRoute) :
    Performs safe hears acc.1 Prod.fst (handleRERRForRoute rerr sourceAddr acc route) :=
  .ite (fun _ => .foldlM (handleUnreachableNode_does route) _ acc) fun _ => .pure .refl

theorem handleRERR_does (rerr : AODVRERR) (sourceAddr : IPv4Address) :
    Does safe hears m (m.handleRERR rerr sourceAddr) := by
  refine .bind (.foldlM (handleRERRForRoute_does rerr sourceAddr) m.table.routes (m, [])) fun acc => ?_
  refine .ite (fun _ => .pure .refl) fun _ => .ite (fun _ => ?_) fun _ => .pure .refl
  exact .bind (sendAODVPacket_does _ _ _ _ _) fun m₂ =>
    .pure (.single (quietMove ⟨rfl, rfl, rfl, rfl, rfl⟩ rfl rfl))

theorem breakRoute_does (unreachableAddr : IPv4Address) (acc : AODVRouting × List UnreachableNode)
    (route : AODVRoute) : Performs safe hears acc.1 Prod.fst (breakRoute unreachableAddr acc route) :=
  .ite (fun _ => .bind (invalidate_does acc.1 _ _) fun _ => .pure .refl) fun _ => .pure .refl

theorem handleLinkBreakSendRERR_does (unreachableAddr : IPv4Address) :
    Does safe hears m (m.handleLinkBreakSendRERR unreachableAddr) := by
  unfold handleLinkBreakSendRERR
  cases m.findRoute unreachableAddr with
  | none => exact .pure .refl
  | some unreachableRoute =>
    refine .bind (.foldlM (breakRoute_does unreachableAddr) m.table.routes (m, _)) fun acc => ?_
    refine .ite (fun _ => .throw (by decide)) fun _ => .ite (fun _ => .pure .refl) fun _ => ?_
    exact .quietly (sendAODVPacket_does _ _ _ _ _) ⟨rfl, rfl, rfl, rfl, rfl⟩ rfl rfl

theorem receiveChangeNotification_does (datagram : IPv4Datagram) :
    Does safe hears m (m.receiveChangeNotification datagram) := by
  unfold receiveChangeNotification
  cases m.findRoute datagram.destAddress with
  | none => exact .pure .refl
  | some route => exact handleLinkBreakSendRERR_does m route.gateway

theorem sendRERRWhenNoRouteToForward_does (unreachableAddr : IPv4Address) :
    Does safe hears m (m.sendRERRWhenNoRouteToForward unreachableAddr) :=
  .ite (fun _ => .pure .refl) fun _ =>
    .quietly (sendAODVPacket_does _ _ _ _ _) ⟨rfl, rfl, rfl, rfl, rfl⟩ rfl rfl

theorem handleRREPACK_does (neighborAddr : IPv4Address) : Does safe hears m (m.handleRREPACK neighborAddr) := by
  refine .check fun _ => ?_
  cases m.findRoute neighborAddr with
  | none => exact .pure .refl
  | some r =>
    have hreached : Move safe hears m (m.modifyRoute neighborAddr fun r => { r with active := true }) :=
      .alter neighborAddr _ (fun _ _ _ _ => .inl (Int.le_refl _)) fun _ h => by cases h
    exact .after hreached (.pure (.single (quietMove ⟨rfl, rfl, rfl, rfl, rfl⟩ rfl rfl)))

theorem handleRREPACKTimer_does : Does safe hears m m.handleRREPACKTimer := by
  unfold handleRREPACKTimer
  cases m.blacklistTimer with
  | some _ => exact .pure (.single (quietMove ⟨rfl, rfl, rfl, rfl, rfl⟩ rfl rfl))
  | none =>
    refine .quietly ?_ ⟨rfl, rfl, rfl, rfl, rfl⟩ rfl rfl
    refine .scheduled (fun _ hpunctual => ?_) fun _ => .pure (.single (quietMove ⟨rfl, rfl, rfl, rfl, rfl⟩ rfl rfl))
    have := hpunctual.sound.blacklistTimeout
    show m.simTime ≤ m.simTime + m.par.blacklistTimeout
    omega

theorem sendHelloMessage_does : Does safe hears m m.sendHelloMessage :=
  .ite (fun _ => sendAODVPacket_does _ _ _ _ _) fun _ => .pure .refl

theorem sendHelloMessagesIfNeeded_does {periodicJitter : Int}
    (hjitter : safe → periodicJitter ≤ m.par.helloInterval) :
    Does safe hears m (m.sendHelloMessagesIfNeeded periodicJitter) := by
  refine .check fun _ => .bind_moves (sendHelloMessage_does m) fun m₁ h₁ => .scheduled (fun hsafe _ => ?_) fun _ =>
    .pure (.single (quietMove ⟨rfl, rfl, rfl, rfl, rfl⟩ rfl rfl))
  have hearlier := hjitter hsafe
  have hpar : m₁.par = m.par := h₁.par
  rw [hpar]
  show m₁.simTime ≤ m₁.simTime + m.par.helloInterval - periodicJitter
  omega

theorem handleCounterTimer_does : Does safe hears m m.handleCounterTimer := by
  refine .scheduled (fun _ _ => ?_) fun _ => .pure (.single (quietMove ⟨rfl, rfl, rfl, rfl, rfl⟩ rfl rfl))
  unfold SimTime.second
  omega

theorem mem_foldl_erase {es : List (Sigma fun _ : IPv4Address => Int)} {blacklist : StdMap IPv4Address Int}
    {e : Sigma fun _ : IPv4Address => Int} (h : e ∈ (es.foldl (fun b e => b.erase e.1) blacklist).entries) :
    e ∈ blacklist.entries ∧ ∀ e' ∈ es, e.1 ≠ e'.1 := by
  induction es generalizing blacklist with
  | nil => exact ⟨h, by simp⟩
  | cons e' es ih =>
    obtain ⟨hmem, hne⟩ := ih h
    have hlookup := AList.mem_lookup_iff.mpr hmem
    have hkey : e.1 ≠ e'.1 := by
      intro he
      rw [he, AList.lookup_erase] at hlookup
      cases hlookup
    rw [AList.lookup_erase_ne hkey] at hlookup
    refine ⟨AList.mem_lookup_iff.mp hlookup, fun e'' he'' => ?_⟩
    cases mem_cons.mp he'' with
    | inl heq => exact heq ▸ hkey
    | inr hmem => exact hne e'' hmem

/-- A node that stays blacklisted does so for some time. -/
theorem handleBlackListTimer_does : Does safe hears m m.handleBlackListTimer := by
  refine .ite (fun _ => .pure (.single (quietMove ⟨rfl, rfl, rfl, rfl, rfl⟩ rfl rfl))) fun hnext => ?_
  refine .quietly (.scheduled (fun _ _ => ?_) fun _ => .pure (.single (quietMove ⟨rfl, rfl, rfl, rfl, rfl⟩ rfl rfl)))
    ⟨rfl, rfl, rfl, rfl, rfl⟩ rfl rfl
  obtain ⟨hex, -, -⟩ := foldl_earliest (fun e : Sigma fun _ : IPv4Address => Int => e.2)
    ((m.blacklist.entries.filter fun e => e.2 ≤ m.simTime).foldl (fun b e => b.erase e.1) m.blacklist).entries
    SimTime.getMaxTime
  cases hex with
  | inl hmax => exact absurd hmax hnext
  | inr hentry =>
    obtain ⟨e, he, htime⟩ := hentry
    obtain ⟨hmem, hkept⟩ := mem_foldl_erase he
    rw [htime]
    refine Int.not_lt.mp fun hlt => hkept e (mem_filter.mpr ⟨hmem, ?_⟩) rfl
    exact decide_eq_true (Int.le_of_lt hlt)

theorem updateNextHopLifeTime_moves (route : Option AODVRoute) :
    Moves safe hears m (m.updateNextHopLifeTime route) := by
  cases route with
  | none => exact .refl
  | some route => exact .single (updateValidRouteLifeTime_move _ _ _)

theorem updateLifeTimes_moves (datagram : IPv4Datagram) : Moves safe hears m (m.updateLifeTimes datagram) := by
  have h₁ : Move safe hears m (m.updateValidRouteLifeTime datagram.srcAddress (m.simTime + m.par.activeRouteTimeout)) :=
    m.updateValidRouteLifeTime_move _ _
  exact ((Moves.single h₁ |>.tail (updateValidRouteLifeTime_move _ _ _)).trans (updateNextHopLifeTime_moves _ _)).trans
    (updateNextHopLifeTime_moves _ _)

section

variable (hr : m.findRoute dest = some r)
include hr

section

variable (hinactive : r.active = false)
include hinactive

/-- A route that is inactive is left alone. -/
theorem findRoute_updateValidRouteLifeTime (destAddr : IPv4Address) (lifetime : Int) :
    (m.updateValidRouteLifeTime destAddr lifetime).findRoute dest = some r := by
  have hd := AODVRoutes.destination_of_find? hr
  rw [updateValidRouteLifeTime, modifyRoute, findRoute, AODVRoutes.find?_modify]
  by_cases h : dest = destAddr
  · rw [if_pos h, ← h, show m.table.find? dest = some r from hr, Option.map_some, hinactive, ← hd]
    rfl
  · rw [if_neg h]
    exact hr

theorem findRoute_updateNextHopLifeTime (route : Option AODVRoute) :
    (m.updateNextHopLifeTime route).findRoute dest = some r := by
  cases route with
  | none => exact hr
  | some route => exact m.findRoute_updateValidRouteLifeTime hr hinactive _ _

theorem findRoute_updateLifeTimes (datagram : IPv4Datagram) :
    (m.updateLifeTimes datagram).findRoute dest = some r := by
  have h₁ := m.findRoute_updateValidRouteLifeTime hr hinactive datagram.srcAddress
    (m.simTime + m.par.activeRouteTimeout)
  have h₂ := findRoute_updateValidRouteLifeTime _ h₁ hinactive datagram.destAddress
    (m.simTime + m.par.activeRouteTimeout)
  have h₃ := findRoute_updateNextHopLifeTime _ h₂ hinactive (m.findRoute datagram.destAddress)
  exact findRoute_updateNextHopLifeTime _ h₃ hinactive (m.findRoute datagram.srcAddress)

end

end

theorem updateLifeTimes_expungeTimer (datagram : IPv4Datagram) :
    (m.updateLifeTimes datagram).expungeTimer = m.expungeTimer ∧ (m.updateLifeTimes datagram).simTime = m.simTime := by
  unfold updateLifeTimes
  cases m.findRoute datagram.srcAddress with
  | none => cases m.findRoute datagram.destAddress with
    | none => exact ⟨rfl, rfl⟩
    | some _ => exact ⟨rfl, rfl⟩
  | some _ => cases m.findRoute datagram.destAddress with
    | none => exact ⟨rfl, rfl⟩
    | some _ => exact ⟨rfl, rfl⟩

/-- The lifetime `DELETE_PERIOD` from now is not before the old one of an inactive route, or not before the timer. -/
def KeepsDeletePeriod (dest : IPv4Address) : Prop :=
  ∀ r ∈ m.findRoute dest, r.active = false → r.lifeTime ≤ m.simTime + m.par.deletePeriod ∨
    ∃ t ∈ m.expungeTimer, t ≤ m.simTime + m.par.deletePeriod

theorem datagramForwardHook_does {datagram : IPv4Datagram}
    (hkeeps : safe → m.isNotRouted datagram.destAddress = false → m.KeepsDeletePeriod datagram.destAddress) :
    Does safe hears m (m.datagramForwardHook datagram) := by
  refine .ite (fun _ => .pure ?_) fun hrouted => .afterAll (m.updateLifeTimes_moves datagram) ?_
  · by_cases hl : m.isLocalAddress datagram.destAddress = true
    · rw [if_pos hl]
      exact m.updateNextHopLifeTime_moves _
    · rw [if_neg hl]
      exact .refl
  · cases hr : m.findRoute datagram.destAddress with
    | none => exact sendRERRWhenNoRouteToForward_does _ _
    | some route =>
      refine .ite (fun _ => .pure .refl) fun ha => .after ?_ (sendRERRWhenNoRouteToForward_does _ _)
      have hinactive : route.active = false := by simpa using ha
      obtain ⟨htimer, htime⟩ := m.updateLifeTimes_expungeTimer datagram
      have hpar : (m.updateLifeTimes datagram).par = m.par := (updateLifeTimes_effect m datagram).par
      refine .alter _ _ (fun hsafe _ r hr' => ?_) fun r _ => .inl (Int.le_refl _)
      cases (m.findRoute_updateLifeTimes hr hinactive datagram).symm.trans hr'
      rw [htimer]
      rw [htime, hpar]
      exact hkeeps hsafe (by simpa using hrouted) route hr hinactive

theorem delayDatagram_move (datagram : IPv4Datagram) : Move safe hears m (m.delayDatagram datagram) :=
  quietMove ⟨rfl, rfl, rfl, rfl, rfl⟩ rfl rfl

theorem ensureRouteForDatagram_does (hhears : hears) (datagram : IPv4Datagram) :
    Performs safe hears m Prod.snd (m.ensureRouteForDatagram datagram) := by
  refine .ite (fun _ => .pure .refl) fun _ => ?_
  split
  · exact .pure ((Moves.single (updateValidRouteLifeTime_move _ _ _)).tail (updateValidRouteLifeTime_move _ _ _))
  · refine .ite (fun _ => .after (m.delayDatagram_move datagram) ?_) fun _ => .pure .refl
    refine .ite (fun _ => .pure .refl) fun _ => ?_
    exact .bind (startRouteDiscovery_does _ hhears _ _) fun _ => .pure .refl

/-- In which events a RREQ may be recorded. -/
def Event.mayHear : Event → Prop
  | .packet (.RREQ _) _ _ => True
  | .datagramHook _ => True
  | .waitForRREP _ => True
  | _ => False

theorem handlePacket_does {packet : AODVControlPacket} (hhears : ∀ rreq, packet = .RREQ rreq → hears)
    (hlife : safe → ∀ rrep, packet = .RREP rrep → isUnspecified rrep.originatorAddr = false → 0 ≤ rrep.lifeTime)
    (sourceAddr : IPv4Address) (timeToLive : BitVec 32) :
    Does safe hears m (m.handlePacket sourceAddr timeToLive packet) := by
  cases packet with
  | RREQ rreq => exact handleRREQ_does m (hhears rreq rfl) rreq sourceAddr timeToLive
  | RREP rrep => exact handleRREP_does m rrep sourceAddr fun hsafe => hlife hsafe rrep rfl
  | RERR rerr => exact handleRERR_does m rerr sourceAddr
  | RREPACK => exact handleRREPACK_does m sourceAddr

theorem waitForRREPTimer_does (hhears : hears) (destAddr : IPv4Address) :
    Does safe hears m (m.waitForRREPTimer destAddr) := by
  unfold waitForRREPTimer
  cases m.discovery.waitForRREPTimers.lookup destAddr with
  | none => exact .pure .refl
  | some timer =>
    exact .ite (fun _ => .quietly (handleWaitForRREP_does _ hhears destAddr timer) ⟨rfl, rfl, rfl, rfl, rfl⟩ rfl rfl)
      fun _ => .pure .refl

/-- The event puts no lifetime before the present or before the expunge timer. -/
def KeepsTime : Event → Prop
  | .packet (.RREP rrep) _ _ => isUnspecified rrep.originatorAddr = false → 0 ≤ rrep.lifeTime
  | .datagramForwardHook datagram =>
    m.isNotRouted datagram.destAddress = false → m.KeepsDeletePeriod datagram.destAddress
  | .helloMsgTimer periodicJitter => periodicJitter ≤ m.par.helloInterval
  | _ => True

/-- All events but two: the time that passes, and the expunge timer. -/
theorem handleMessage_does {e : Event} (hhears : e.mayHear → hears) (hkeeps : safe → m.KeepsTime e)
    (helapse : ∀ t, e ≠ .elapse t) (hexpunge : e ≠ .expungeTimer) : Does safe hears m (m.handleMessage e) := by
  cases e with
  | elapse t => exact absurd rfl (helapse t)
  | expungeTimer => exact absurd rfl hexpunge
  | datagramHook datagram => exact .map (ensureRouteForDatagram_does m (hhears trivial) datagram)
  | datagramForwardHook datagram => exact datagramForwardHook_does m hkeeps
  | linkBreak datagram => exact receiveChangeNotification_does m datagram
  | packet packet sourceAddr timeToLive =>
    refine handlePacket_does m (fun rreq he => ?_) (fun hsafe rrep he => ?_) sourceAddr timeToLive
    · subst he
      exact hhears trivial
    · subst he
      exact hkeeps hsafe
  | waitForRREP target => exact waitForRREPTimer_does m (hhears trivial) target
  | helloMsgTimer periodicJitter =>
    refine .ite (fun _ => ?_) fun _ => .pure .refl
    exact .quietly (sendHelloMessagesIfNeeded_does _ hkeeps) ⟨rfl, rfl, rfl, rfl, rfl⟩ rfl rfl
  | counterTimer =>
    refine .ite (fun _ => ?_) fun _ => .pure .refl
    exact .quietly (handleCounterTimer_does _) ⟨rfl, rfl, rfl, rfl, rfl⟩ rfl rfl
  | rrepAckTimer =>
    refine .ite (fun _ => ?_) fun _ => .pure .refl
    exact .quietly (handleRREPACKTimer_does _) ⟨rfl, rfl, rfl, rfl, rfl⟩ rfl rfl
  | blacklistTimer =>
    refine .ite (fun _ => ?_) fun _ => .pure .refl
    exact .quietly (handleBlackListTimer_does _) ⟨rfl, rfl, rfl, rfl, rfl⟩ rfl rfl

end AODVRouting

end Inet.Aodv
