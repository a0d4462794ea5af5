import Inetmanet.Lib.Runs
import Inetmanet.Aodv.Moves

/-!
# How routes age

What `expungeRoutes` leaves in the table, when a route is deleted, and when no
lifetime is over before the expunge timer goes off.
-/
namespace Inet.Aodv

open Ipv4 List

namespace AODVRoutes

variable (simTime deletePeriod netTraversalTime : Int) (ongoing : IPv4Address → Bool)

/-- The loop deletes the route when it comes to it. -/
def Deletes (r : AODVRoute) : Prop :=
  r.lifeTime ≤ simTime ∧ r.active = false ∧ ongoing r.destination = false
deriving Decidable

/-- The loop must not leave the route as it is. -/
def Over (r : AODVRoute) : Prop :=
  r.lifeTime ≤ simTime ∧ (r.active = true ∨ ongoing r.destination = false)
deriving Decidable

/-- No route of the list is over, save for those a discovery waits for. -/
def Expunged (rs : List AODVRoute) : Prop :=
  ∀ r ∈ rs, r.lifeTime ≤ simTime → r.active = false ∧ ongoing r.destination = true
deriving Decidable

/-- No route that is over follows one that is deleted. -/
def NoneBehind (rs : List AODVRoute) : Prop :=
  rs.IsChain fun r next => ¬ (Deletes simTime ongoing r ∧ Over simTime ongoing next)

instance : DecidablePred (NoneBehind simTime ongoing) := fun rs =>
  inferInstanceAs (Decidable (rs.IsChain _))

/-- Routes that expire are kept for some time, or a discovery waits for them. -/
def KeptOn (rs : List AODVRoute) : Prop :=
  0 < deletePeriod ∨ ∀ r ∈ rs, r.lifeTime ≤ simTime → r.active = true → ongoing r.destination = true
deriving Decidable

variable {simTime deletePeriod netTraversalTime ongoing} {r : AODVRoute} {rs : List AODVRoute}

theorem not_over_iff :
    ¬ Over simTime ongoing r ↔ (r.lifeTime ≤ simTime → r.active = false ∧ ongoing r.destination = true) := by
  simp [Over]

theorem noneBehind_cons (h : ¬ Deletes simTime ongoing r) :
    NoneBehind simTime ongoing (r :: rs) ↔ NoneBehind simTime ongoing rs := by
  cases rs with
  | nil => simp [NoneBehind]
  | cons next rs => simp [NoneBehind, h]

theorem keptOn_cons : KeptOn simTime deletePeriod ongoing (r :: rs) ↔
    (0 < deletePeriod ∨ (r.lifeTime ≤ simTime → r.active = true → ongoing r.destination = true)) ∧
      KeptOn simTime deletePeriod ongoing rs := by
  simp only [KeptOn, forall_mem_cons]
  tauto

theorem expunged_cons :
    Expunged simTime ongoing (r :: rs) ↔ ¬ Over simTime ongoing r ∧ Expunged simTime ongoing rs := by
  rw [not_over_iff]
  exact forall_mem_cons

/-- The loop does its work exactly where no route is passed over. -/
theorem expunged_expungeLoop (rs : List AODVRoute) :
    Expunged simTime ongoing (expungeLoop simTime deletePeriod netTraversalTime ongoing rs) ↔
      NoneBehind simTime ongoing rs ∧ KeptOn simTime deletePeriod ongoing rs := by
  fun_induction expungeLoop simTime deletePeriod netTraversalTime ongoing rs with
  | case1 => simp [Expunged, NoneBehind, KeptOn]
  | case2 r rs hlife hactive ih =>
    have hkept : ¬ Over simTime ongoing { r with active := false, lifeTime := simTime + deletePeriod } ↔
        (0 < deletePeriod ∨ (r.lifeTime ≤ simTime → r.active = true → ongoing r.destination = true)) := by
      rw [not_over_iff]
      simp only [hlife, hactive, true_and, forall_const]
      constructor
      · intro h
        by_cases hpos : 0 < deletePeriod
        · exact .inl hpos
        · exact .inr (h (by omega))
      · rintro (hpos | hon) hover
        · omega
        · exact hon
    rw [expunged_cons, ih, noneBehind_cons (by simp [Deletes, hactive]), keptOn_cons, hkept]
    tauto
  | case3 r rs hlife hactive hon ih =>
    rw [expunged_cons, ih, noneBehind_cons (by simp [Deletes, hon]), keptOn_cons]
    simp [Over, hactive, hon]
  | case4 r hlife hactive hon => simp [Expunged, NoneBehind, KeptOn, hactive]
  | case5 r hlife hactive hon next rs ih =>
    have hdeletes : Deletes simTime ongoing r := ⟨hlife, by simpa using hactive, by simpa using hon⟩
    rw [expunged_cons, ih, keptOn_cons, keptOn_cons]
    by_cases hover : Over simTime ongoing next
    · simp [NoneBehind, hdeletes, hover]
    · have hnext : ¬ Deletes simTime ongoing next := fun h => hover ⟨h.1, .inr h.2.2⟩
      have hchain : NoneBehind simTime ongoing (r :: next :: rs) ↔ NoneBehind simTime ongoing (next :: rs) := by
        simp [NoneBehind, hover]
      rw [hchain, noneBehind_cons hnext]
      have hkept := not_over_iff.mp hover
      grind
  | case6 r rs hlife ih =>
    rw [expunged_cons, ih, noneBehind_cons (by simp [Deletes, hlife]), keptOn_cons]
    simp [Over, hlife]

end AODVRoutes

namespace AODVRouting

variable {safe hears : Prop} {m m' m₁ m₂ : AODVRouting} {e : Event}

def Inactive (m : AODVRouting) (dest : IPv4Address) : Prop := ∃ r, m.findRoute dest = some r ∧ r.active = false

/-- A route that is inactive has become so now, or it was before and has not been given less time. -/
structure Aged (m m' : AODVRouting) : Prop where
  simTime : m.simTime ≤ m'.simTime
  par : m'.par = m.par
  inactive : ∀ dest r', m'.findRoute dest = some r' → r'.active = false →
    m.simTime + m.par.deletePeriod ≤ r'.lifeTime ∨
      ∃ r, m.findRoute dest = some r ∧ r.active = false ∧ (r.lifeTime ≤ r'.lifeTime ∨ r.lifeTime ≤ m.simTime)
  deleted : ∀ dest r, m.findRoute dest = some r → m'.findRoute dest = none → r.active = false ∧ r.lifeTime ≤ m.simTime

/-- An operation deletes no route and takes no time. -/
structure Grown (m m' : AODVRouting) : Prop where
  simTime : m'.simTime = m.simTime
  par : m'.par = m.par
  inactive : ∀ dest r', m'.findRoute dest = some r' → r'.active = false →
    m.simTime + m.par.deletePeriod ≤ r'.lifeTime ∨
      ∃ r, m.findRoute dest = some r ∧ r.active = false ∧ r.lifeTime ≤ r'.lifeTime
  kept : ∀ dest r, m.findRoute dest = some r → m'.findRoute dest ≠ none

theorem Grown.aged (h : Grown m m') : Aged m m' where
  simTime := Int.le_of_eq h.simTime.symm
  par := h.par
  inactive := fun dest r' hr' hinactive =>
    (h.inactive dest r' hr' hinactive).imp id fun ⟨r, hr, hinactive, hle⟩ => ⟨r, hr, hinactive, .inl hle⟩
  deleted := fun dest r hr hnone => absurd hnone (h.kept dest r hr)

theorem grown_of_find (hfind : m'.findRoute = m.findRoute) (htime : m'.simTime = m.simTime) (hpar : m'.par = m.par) :
    Grown m m' where
  simTime := htime
  par := hpar
  inactive := fun dest r' hr' hinactive => .inr ⟨r', hfind ▸ hr', hinactive, Int.le_refl _⟩
  kept := fun dest r hr hnone => by
    rw [hfind, hr] at hnone
    cases hnone

theorem Grown.trans (h₁ : Grown m m₁) (h₂ : Grown m₁ m₂) : Grown m m₂ where
  simTime := h₂.simTime.trans h₁.simTime
  par := h₂.par.trans h₁.par
  inactive := by
    intro dest r₂ hr₂ hinactive₂
    rcases h₂.inactive dest r₂ hr₂ hinactive₂ with hlater | ⟨r₁, hr₁, hinactive₁, hle₁⟩
    · rw [h₁.simTime, h₁.par] at hlater
      exact .inl hlater
    · rcases h₁.inactive dest r₁ hr₁ hinactive₁ with hlater | ⟨r, hr, hinactive, hle⟩
      · exact .inl (hlater.trans hle₁)
      · exact .inr ⟨r, hr, hinactive, hle.trans hle₁⟩
  kept := by
    intro dest r hr
    obtain ⟨r₁, hr₁⟩ := Option.ne_none_iff_exists'.mp (h₁.kept dest r hr)
    exact h₂.kept dest r₁ hr₁

theorem findRoute_modify_ne {dest dest' : IPv4Address} {f : AODVRoute → AODVRoute} {r : AODVRoute}
    (h : m.findRoute dest' = some r) : (m.table.modify dest f).find? dest' ≠ none := by
  rw [AODVRoutes.find?_modify]
  by_cases hd : dest' = dest
  · rw [if_pos hd, ← hd, show m.table.find? dest' = some r from h]
    simp
  · rw [if_neg hd, show m.table.find? dest' = some r from h]
    simp

theorem Revises.grown {table : AODVRoutes} (h : Revises safe m table) : Grown m { m with table := table } := by
  cases h with
  | assign dest f _ hinactive =>
    refine ⟨rfl, rfl, fun dest' r' hr' hoff => ?_, fun dest' r hr => findRoute_modify_ne hr⟩
    rcases findRoute_modify hr' with ⟨-, r, -, rfl⟩ | hsame
    · exact .inl (Int.le_of_eq (hinactive r hoff).symm)
    · exact .inr ⟨r', hsame, hoff, Int.le_refl _⟩
  | create route _ hactive =>
    refine ⟨rfl, rfl, fun dest' r' hr' hoff => ?_, fun dest' r hr => ?_⟩
    · rw [findRoute, AODVRoutes.find?_insert] at hr'
      by_cases hd : dest' = route.destination
      · rw [if_pos hd] at hr'
        cases hr'
        rw [hactive] at hoff
        cases hoff
      · rw [if_neg hd] at hr'
        exact .inr ⟨r', hr', hoff, Int.le_refl _⟩
    · rw [findRoute, AODVRoutes.find?_insert]
      by_cases hd : dest' = route.destination
      · rw [if_pos hd]
        simp
      · rw [if_neg hd, show m.table.find? dest' = some r from hr]
        simp

theorem Move.grown (h : Move safe hears m m') : Grown m m' := by
  cases h with
  | aside h _ => exact grown_of_find (by unfold findRoute; rw [h.table]) h.simTime h.par
  | alter dest f _ hinactive =>
    refine ⟨rfl, rfl, fun dest' r' hr' hoff => ?_, fun dest' r hr => findRoute_modify_ne hr⟩
    rcases findRoute_modify hr' with ⟨hd, r, hr, rfl⟩ | hsame
    · exact (hinactive r hoff).imp id fun ⟨hr', hle⟩ => ⟨r, hd ▸ hr, hr', hle⟩
    · exact .inr ⟨r', hsame, hoff, Int.le_refl _⟩
  | revise h hs =>
    obtain ⟨t, rfl⟩ := scheduleExpungeRoutes_ok _ _ hs
    exact h.grown.trans (grown_of_find rfl rfl rfl)

theorem Moves.grown (h : Moves safe hears m m') : Grown m m' := by
  induction h with
  | refl => exact grown_of_find rfl rfl rfl
  | tail _ hmove ih => exact ih.trans hmove.grown

theorem expungeRoutes_aged (m : AODVRouting) : Ensures m.expungeRoutes (Aged m) := by
  refine (scheduleExpungeRoutes_ok _).mono ?_
  rintro m' ⟨t, rfl⟩
  have hcases := m.table.find?_expunge m.simTime m.par.deletePeriod m.par.netTraversalTime m.hasOngoingRouteDiscovery
  refine ⟨Int.le_refl _, rfl, fun dest r' hr' hoff => ?_, fun dest r hr hnone => ?_⟩
  · rcases hcases dest with hsame | ⟨r, hr, hlife, o, ho, hcase⟩
    · exact .inr ⟨r', hsame.symm.trans hr', hoff, .inl (Int.le_refl _)⟩
    · have ho' : o = some r' := ho.symm.trans hr'
      rcases hcase with ⟨-, hnew⟩ | ⟨hinactive, -⟩
      · cases hnew.symm.trans ho'
        exact .inl (Int.le_refl _)
      · exact .inr ⟨r, hr, hinactive, .inr hlife⟩
  · rcases hcases dest with hsame | ⟨r₁, hr₁, hlife, o, ho, hcase⟩
    · cases (hr.symm.trans hsame.symm).trans hnone
    · cases Option.some.inj (hr₁.symm.trans hr)
      have ho' : o = none := ho.symm.trans hnone
      rcases hcase with ⟨-, hnew⟩ | ⟨hinactive, -⟩
      · cases hnew.symm.trans ho'
      · exact ⟨hinactive, hlife⟩

theorem handleMessage_aged (m : AODVRouting) (e : Event) : Ensures (m.handleMessage e) (Aged m) := by
  have hrefl : Aged m m := (grown_of_find rfl rfl rfl).aged
  by_cases helapse : ∃ t, e = .elapse t
  · obtain ⟨t, rfl⟩ := helapse
    refine .ite (fun h => .pure ?_) fun _ => .pure hrefl
    exact ⟨h.1, rfl, hrefl.inactive, hrefl.deleted⟩
  · by_cases hexpunge : e = .expungeTimer
    · subst hexpunge
      refine .ite (fun _ => (expungeRoutes_aged _).mono fun m' h => ?_) fun _ => .pure hrefl
      exact ⟨h.simTime, h.par, h.inactive, h.deleted⟩
    · intro m' hm'
      have hdoes : Does False True m (m.handleMessage e) :=
        handleMessage_does m (fun _ => trivial) (fun h => h.elim) (fun t he => helapse ⟨t, he⟩) hexpunge
      exact (hdoes.moves m' hm').grown.aged

/-- The route was not inactive at `t`, or it will be there until `DELETE_PERIOD` after `t`. -/
def Lasts (dest : IPv4Address) (t : Int) (m : AODVRouting) : Prop :=
  t ≤ m.simTime ∧ ∀ r, m.findRoute dest = some r → r.active = false →
    t + m.par.deletePeriod ≤ r.lifeTime ∨ t + m.par.deletePeriod ≤ m.simTime

theorem Lasts.step {dest : IPv4Address} {t : Int} (h : Lasts dest t m) (haged : Aged m m') : Lasts dest t m' := by
  refine ⟨h.1.trans haged.simTime, fun r' hr' hinactive' => ?_⟩
  have htime := haged.simTime
  rw [haged.par]
  rcases haged.inactive dest r' hr' hinactive' with hlater | ⟨r, hr, hinactive, hle⟩
  · have := h.1
    exact .inl (by omega)
  · rcases h.2 r hr hinactive with hlife | hpast
    · rcases hle with hle | hover
      · exact .inl (hlife.trans hle)
      · exact .inr (by omega)
    · exact .inr (hpast.trans htime)

theorem lasts_of_run {dest : IPv4Address} {events : List Event} (hnot : ¬ m.Inactive dest)
    (hrun : Runs.run handleMessage m events = .ok m') : Lasts dest m.simTime m' := by
  have hstart : Lasts dest m.simTime m := ⟨Int.le_refl _, fun r hr hinactive => absurd ⟨r, hr, hinactive⟩ hnot⟩
  exact Runs.run_invariant (fun m₁ e m₂ hlasts h₂ => hlasts.step (handleMessage_aged m₁ e m₂ h₂)) hstart hrun

/-- The timer goes off. -/
def Expunges (m : AODVRouting) (e : Event) : Prop := e = .expungeTimer ∧ m.expungeTimer = some m.simTime
deriving Decidable

/-- No route whose lifetime is over is active or without an ongoing discovery. -/
def Expunged (m : AODVRouting) : Prop :=
  AODVRoutes.Expunged m.simTime m.hasOngoingRouteDiscovery m.table.routes
deriving Decidable

/-- The loop passes over no route that has to be dealt with. -/
def ReachesAll (m : AODVRouting) : Prop :=
  AODVRoutes.NoneBehind m.simTime m.hasOngoingRouteDiscovery m.table.routes ∧
    AODVRoutes.KeptOn m.simTime m.par.deletePeriod m.hasOngoingRouteDiscovery m.table.routes
deriving Decidable

theorem expungeTimer_expunged (hexpunges : m.Expunges e) :
    Ensures (m.handleMessage e) fun m' => (m'.Expunged ↔ m.ReachesAll) := by
  obtain ⟨rfl, hdue⟩ := hexpunges
  simp only [handleMessage, if_pos hdue]
  refine (scheduleExpungeRoutes_ok _).mono ?_
  rintro m' ⟨t, rfl⟩
  exact AODVRoutes.expunged_expungeLoop m.table.routes

/-- There is no later time than `SimTime::getMaxTime()`. -/
def Event.InTime : Event → Prop
  | .elapse t => t ≤ SimTime.getMaxTime
  | _ => True

/-- Nothing gets in the way of the expunge timer: durations and lifetimes are not negative, the forward
hook does not have a route expire before the timer goes off, and the loop passes over no route. -/
def KeepsAge (m : AODVRouting) (e : Event) : Prop :=
  m.KeepsTime e ∧ (m.Expunges e → m.ReachesAll) ∧ e.InTime

instance (m : AODVRouting) (dest : IPv4Address) : Decidable (m.KeepsDeletePeriod dest) :=
  inferInstanceAs (Decidable (∀ r ∈ m.findRoute dest, _ → _ ∨ ∃ t ∈ m.expungeTimer, _))

instance (m : AODVRouting) : DecidablePred m.KeepsTime
  | .packet (.RREP rrep) _ _ => inferInstanceAs (Decidable (_ = false → 0 ≤ rrep.lifeTime))
  | .datagramForwardHook datagram => inferInstanceAs (Decidable (_ → m.KeepsDeletePeriod datagram.destAddress))
  | .helloMsgTimer periodicJitter => inferInstanceAs (Decidable (periodicJitter ≤ m.par.helloInterval))
  | .packet (.RREQ _) _ _ | .packet (.RERR _) _ _ | .packet .RREPACK _ _ | .elapse _ | .datagramHook _ | .linkBreak _
  | .waitForRREP _ | .expungeTimer | .counterTimer | .rrepAckTimer | .blacklistTimer => isTrue trivial

instance : DecidablePred Event.InTime
  | .elapse t => inferInstanceAs (Decidable (t ≤ SimTime.getMaxTime))
  | .packet _ _ _ | .datagramForwardHook _ | .helloMsgTimer _ | .datagramHook _ | .linkBreak _ | .waitForRREP _
  | .expungeTimer | .counterTimer | .rrepAckTimer | .blacklistTimer => isTrue trivial

instance (m : AODVRouting) (e : Event) : Decidable (m.KeepsAge e) := inferInstanceAs (Decidable (_ ∧ _ ∧ _))

section

variable (hpunctual : m.Punctual)
include hpunctual

theorem Punctual.elapse {t : Int} (hmax : t ≤ SimTime.getMaxTime)
    (hpending : ∀ t' ∈ m.pending, t ≤ t') :
    Punctual { m with simTime := t } := by
  have htimer (t' : Int) (ht' : m.expungeTimer = some t') : t ≤ t' := by
    refine hpending t' (mem_append_left _ (mem_filterMap.mpr ⟨m.expungeTimer, by simp, ht'⟩))
  refine ⟨hpunctual.sound, htimer, fun dest r hr => ?_, hpunctual.covered⟩
  rcases hpunctual.covered dest r hr with ⟨t', ht', hle⟩ | hlate
  · exact (htimer t' ht').trans hle
  · exact hmax.trans hlate

theorem Punctual.expunge :
    ∃ m', expungeRoutes { m with expungeTimer := none } = .ok m' ∧ m'.Punctual := by
  have hcases := m.table.find?_expunge m.simTime m.par.deletePeriod m.par.netTraversalTime m.hasOngoingRouteDiscovery
  have hdelete := hpunctual.sound.deletePeriod
  have htraversal := hpunctual.sound.netTraversalTime
  have hfresh (dest : IPv4Address) (r : AODVRoute) (hr : (m.table.expunge m.simTime m.par.deletePeriod
      m.par.netTraversalTime m.hasOngoingRouteDiscovery).find? dest = some r) : m.simTime ≤ r.lifeTime := by
    rcases hcases dest with hsame | ⟨s, -, -, o, ho, hcase⟩
    · exact hpunctual.fresh dest r (hsame.symm.trans hr)
    · have ho' : o = some r := ho.symm.trans hr
      rcases hcase with ⟨-, hnew⟩ | ⟨-, hnew | ⟨-, hnew⟩⟩
      · cases hnew.symm.trans ho'
        show m.simTime ≤ m.simTime + m.par.deletePeriod
        omega
      · cases hnew.symm.trans ho'
        show m.simTime ≤ m.simTime + 2 * m.par.netTraversalTime
        omega
      · cases hnew.symm.trans ho'
  obtain ⟨t, hok, hpunctual'⟩ := scheduleExpungeRoutes_punctual (m := { m with
      expungeTimer := none
      table := m.table.expunge m.simTime m.par.deletePeriod m.par.netTraversalTime m.hasOngoingRouteDiscovery })
    hpunctual.sound (by simp) hfresh
  exact ⟨_, hok, hpunctual'⟩

/-- Where nothing gets in the way of the timer, no event fails because of it. -/
theorem Punctual.step (hgood : m.KeepsAge e) :
    m.handleMessage e ≠ .error past ∧ Ensures (m.handleMessage e) Punctual := by
  by_cases helapse : ∃ t, e = .elapse t
  · obtain ⟨t, rfl⟩ := helapse
    simp only [handleMessage]
    by_cases h : m.simTime ≤ t ∧ ∀ t' ∈ m.pending, t ≤ t'
    · rw [if_pos h]
      exact ⟨by simp [pure, Except.pure], .pure (hpunctual.elapse hgood.2.2 h.2)⟩
    · rw [if_neg h]
      exact ⟨by simp [pure, Except.pure], .pure hpunctual⟩
  · by_cases hexpunge : e = .expungeTimer
    · subst hexpunge
      simp only [handleMessage]
      by_cases hdue : m.expungeTimer = some m.simTime
      · rw [if_pos hdue]
        obtain ⟨m', hok, hpunctual'⟩ := hpunctual.expunge
        rw [hok]
        exact ⟨by simp, .ok hpunctual'⟩
      · rw [if_neg hdue]
        exact ⟨by simp [pure, Except.pure], .pure hpunctual⟩
    · have hdoes : Does True True m (m.handleMessage e) :=
        handleMessage_does m (fun _ => trivial) (fun _ => hgood.1) (fun t he => helapse ⟨t, he⟩) hexpunge
      exact ⟨hdoes.timely trivial hpunctual, fun m' hm' => (hdoes.moves m' hm').punctual trivial hpunctual⟩

end

theorem initial_punctual (routerId : IPv4Address) (localAddresses : List IPv4Address) (otherRoutes : List OtherRoute)
    {par : Parameters} (hsound : par.Sound) (periodicJitter : Int) :
    (initial routerId localAddresses otherRoutes par periodicJitter).Punctual :=
  ⟨hsound, by simp [initial], fun dest r hr => (by cases hr), fun dest r hr => (by cases hr)⟩

/-- After each time the expunge timer goes off, no route is left that is over. -/
def LeavesNone (m : AODVRouting) (events : List Event) : Prop :=
  Runs.EveryTransition handleMessage (fun m e m' => m.Expunges e → m'.Expunged) m events

/-- A route is deleted only when it is inactive and has been so for `DELETE_PERIOD`. -/
def DeletesLate (m : AODVRouting) (events : List Event) : Prop :=
  ∀ events₁ m₁ events₂ m₂ e m₃, events₁ ++ (events₂ ++ [e]) <+: events → Runs.run handleMessage m events₁ = .ok m₁ →
    Runs.run handleMessage m₁ events₂ = .ok m₂ → m₂.handleMessage e = .ok m₃ →
      ∀ dest, m₂.findRoute dest ≠ none → m₃.findRoute dest = none →
        m₂.Inactive dest ∧ (¬ m₁.Inactive dest → m₁.simTime + m.par.deletePeriod ≤ m₂.simTime)

/-- The expunge timer is never scheduled in the past. -/
def SchedulesAhead (m : AODVRouting) (events : List Event) : Prop :=
  Runs.EveryState handleMessage (fun m => ∀ t, m.expungeTimer = some t → m.simTime ≤ t) m events ∧
    Runs.EveryStep handleMessage (fun m e => m.handleMessage e ≠ .error past) m events

theorem deletesLate (m : AODVRouting) (events : List Event) : m.DeletesLate events := by
  intro events₁ m₁ events₂ m₂ e m₃ _ h₁ h₂ h₃ dest hthere hgone
  obtain ⟨r, hr⟩ := Option.ne_none_iff_exists'.mp hthere
  obtain ⟨hinactive, hover⟩ := (handleMessage_aged m₂ e m₃ h₃).deleted dest r hr hgone
  have hpar (m' : AODVRouting) (events' : List Event) (m'' : AODVRouting)
      (h : Runs.run handleMessage m' events' = .ok m'') : m''.par = m'.par :=
    Runs.run_invariant (p := fun m => m.par = m'.par)
      (fun m₁ e m₂ hpar h => (handleMessage_aged m₁ e m₂ h).par.trans hpar) rfl h
  refine ⟨⟨r, hr, hinactive⟩, fun hnot => ?_⟩
  have hlasts := (lasts_of_run hnot h₂).2 r hr hinactive
  rw [hpar m₁ events₂ m₂ h₂, hpar m events₁ m₁ h₁] at hlasts
  exact hlasts.elim (fun hlife => hlife.trans hover) id

theorem punctual_of_run {events : List Event} (hpunctual : m.Punctual)
    (hgood : Runs.EveryStep handleMessage KeepsAge m events) :
    Runs.EveryState handleMessage Punctual m events :=
  Runs.EveryStep.everyState (fun _ _ m' hpunctual hgood h => (hpunctual.step hgood).2 m' h) hpunctual hgood

/-- Deletion is right in every run. The expunge timer does its work exactly where the loop reaches all
routes; in the runs in which nothing gets in its way, it does so each time and is never late. -/
theorem routes_age (routerId : IPv4Address) (localAddresses : List IPv4Address) (otherRoutes : List OtherRoute)
    (par : Parameters) (periodicJitter : Int) (events : List Event) :
    let m₀ := initial routerId localAddresses otherRoutes par periodicJitter
    m₀.DeletesLate events ∧
      Runs.EveryTransition handleMessage (fun m e m' => m.Expunges e → (m'.Expunged ↔ m.ReachesAll)) m₀ events ∧
      (par.Sound → Runs.EveryStep handleMessage KeepsAge m₀ events →
        m₀.LeavesNone events ∧ m₀.SchedulesAhead events) := by
  intro m₀
  refine ⟨deletesLate m₀ events, ?_, fun hsound hgood => ?_⟩
  · intro events₁ e m _ _ m' hm' hexpunges
    exact expungeTimer_expunged hexpunges m' hm'
  · have hstates := punctual_of_run (initial_punctual routerId localAddresses otherRoutes hsound periodicJitter) hgood
    refine ⟨fun events₁ e m hpre hm m' hm' hexpunges => ?_, fun events₁ m hpre hm => (hstates events₁ m hpre hm).timer,
      fun events₁ e m hpre hm => ?_⟩
    · exact (expungeTimer_expunged hexpunges m' hm').mpr ((hgood events₁ e m hpre hm).2.1 hexpunges)
    · have hbefore : events₁ <+: events := (prefix_append events₁ [e]).trans hpre
      exact ((hstates events₁ m hbefore hm).step (hgood events₁ e m hpre hm)).1

def neighbor (n : Nat) : IPv4Address := 0x0A000000 + BitVec.ofNat 32 n

/-- A node has said Hello. -/
def helloFrom (n : Nat) : Event := .packet (.RREP { destAddr := neighbor n }) (neighbor n) 1

/-- A second passes. -/
def tick (s : Nat) : List Event := [.elapse (SimTime.second * s), .counterTimer]

/-- The routes to neighbours that are not heard again expire after two seconds; 15 seconds later it is time to
delete them. -/
def silence : List Event := tick 1 ++ tick 2 ++ [.expungeTimer] ++ (range' 3 15).flatMap tick

theorem defaults_sound : ({} : Parameters).Sound :=
  ⟨by decide, by decide, by decide, by decide, by decide, by decide, by decide⟩

/-- The route to a single neighbour is deleted. -/
theorem one_neighbor_ages :
    let m₀ := initial (neighbor 1) [neighbor 1] [] {} 0
    let events := helloFrom 2 :: silence ++ [.expungeTimer]
    m₀.LeavesNone events ∧ m₀.SchedulesAhead events :=
  (routes_age (neighbor 1) [neighbor 1] [] {} 0 (helloFrom 2 :: silence ++ [.expungeTimer])).2.2 defaults_sound
    (Runs.everyStep_of_check (by decide +kernel))

theorem two_neighbors_expunged :
    (Runs.run handleMessage (initial (neighbor 1) [neighbor 1] [] {} 0) (helloFrom 2 :: helloFrom 3 :: silence)).map
      (fun m => (decide (m.Expunges .expungeTimer), (m.handleMessage .expungeTimer).map fun m' => decide m'.Expunged)) =
        .ok (true, .ok false) := by
  decide +kernel

/-- Of the routes to two neighbours, the second is passed over when the first is deleted. -/
theorem two_neighbors_left :
    ¬ ∀ (routerId : IPv4Address) (localAddresses : List IPv4Address) (otherRoutes : List OtherRoute)
        (par : Parameters) (periodicJitter : Int) (events : List Event),
      let m₀ := initial routerId localAddresses otherRoutes par periodicJitter
      m₀.LeavesNone events ∧ m₀.DeletesLate events ∧ m₀.SchedulesAhead events := by
  intro hall
  have hexpunged := two_neighbors_expunged
  cases hm : Runs.run handleMessage (initial (neighbor 1) [neighbor 1] [] {} 0)
      (helloFrom 2 :: helloFrom 3 :: silence) with
  | error err => rw [hm] at hexpunged; cases hexpunged
  | ok m =>
    rw [hm] at hexpunged
    have hpair := Except.ok.inj hexpunged
    have hexpunges : m.Expunges .expungeTimer := of_decide_eq_true (congrArg Prod.fst hpair)
    have hafter : (m.handleMessage .expungeTimer).map (fun m' => decide m'.Expunged) = .ok false :=
      congrArg Prod.snd hpair
    cases hm' : m.handleMessage .expungeTimer with
    | error err =>
      rw [hm'] at hafter
      cases hafter
    | ok m' =>
      rw [hm'] at hafter
      have hleft : ¬ m'.Expunged := of_decide_eq_false (Except.ok.inj hafter)
      have hnone := (hall (neighbor 1) [neighbor 1] [] {} 0
        (helloFrom 2 :: helloFrom 3 :: silence ++ [.expungeTimer])).1
      refine hleft (hnone (helloFrom 2 :: helloFrom 3 :: silence) .expungeTimer m ?_ hm m' hm' hexpunges)
      exact prefix_refl _

end AODVRouting

end Inet.Aodv
