import Inetmanet.Lib.SerialNumber
import Inetmanet.Aodv.DiscoveryRuns

/-!
# Freshness of AODV routes

When a step replaces the sequence number of a route only by one that is not older
and belongs to the destination, and never makes a route of the same age longer.
-/
namespace Inet.Aodv

open Ipv4 SerialNumber List Function Entries RouteEntry

open AODVRouting (Event)

/-- The numbers that an event tells about `dest`; a route error adds one to the old number. -/
def AODVRouting.Event.Tells (dest : IPv4Address) (oldSeqNum seqNum : BitVec 32) : Event → Prop
  | .packet (.RREQ rreq) _ _ => dest = rreq.originatorAddr ∧ seqNum = rreq.originatorSeqNum
  | .packet (.RREP rrep) _ _ =>
    dest = rrep.destAddr ∧ seqNum = rrep.destSeqNum ∨ dest = rrep.originatorAddr ∧ seqNum = rrep.originatorSeqNum
  | .packet (.RERR rerr) _ _ => ⟨dest, seqNum⟩ ∈ rerr.unreachableNodes
  | .linkBreak _ => seqNum = oldSeqNum + 1
  | .datagramForwardHook _ => seqNum = oldSeqNum + 1
  | _ => False

/-- The entry `new` may take the place of the entry `old` for `dest`. -/
structure RouteEntry.Fresh (e : Event) (dest : IPv4Address) (old new : RouteEntry) : Prop where
  notOlder : Le old.destSeqNum new.destSeqNum
  ownNumber : old.validDestNum = true → new.destSeqNum ≠ old.destSeqNum → e.Tells dest old.destSeqNum new.destSeqNum
  notLonger : old.active = true → new.destSeqNum = old.destSeqNum → new.metric ≤ old.metric

namespace Entries

/-- While a route to `dest` exists it stays fresh. -/
def FreshAt (e : Event) (E E' : Entries) (dest : IPv4Address) : Prop :=
  ∀ old new, E dest = some old → E' dest = some new → RouteEntry.Fresh e dest old new

def Fresh (e : Event) (E E' : Entries) : Prop := ∀ dest, FreshAt e E E' dest

variable {e : Event} {E E' : Entries} {dest : IPv4Address}

theorem le_refl (a : BitVec 32) : Le a a := by simp [Le]

theorem le_succ (a : BitVec 32) : Le a (a + 1) := by
  unfold Le
  bv_omega

theorem freshAt_of_eq (h : E' dest = E dest) : FreshAt e E E' dest := by
  intro old new hold hnew
  cases Option.some.inj (hold.symm.trans (h.symm.trans hnew))
  exact ⟨le_refl _, fun _ hne => absurd rfl hne, fun _ _ => BitVec.le_refl _⟩

theorem freshAt_iff {new : RouteEntry} (h : E' dest = some new) :
    FreshAt e E E' dest ↔ ∀ old, E dest = some old → RouteEntry.Fresh e dest old new := by
  constructor
  · intro hfresh old hold
    exact hfresh old new hold h
  · intro hall old new' hold hnew
    cases Option.some.inj (h.symm.trans hnew)
    exact hall old hold

/-- Where nothing changes, nothing is to be shown. -/
theorem fresh_iff_of_mem (dests : List IPv4Address) (h : ∀ dest, dest ∉ dests → E' dest = E dest) :
    Fresh e E E' ↔ ∀ dest ∈ dests, FreshAt e E E' dest := by
  constructor
  · intro hfresh dest _
    exact hfresh dest
  · intro hall dest
    by_cases hd : dest ∈ dests
    · exact hall dest hd
    · exact freshAt_of_eq (h dest hd)

theorem fresh_of_eq (h : E' = E) : Fresh e E E' := fun dest => freshAt_of_eq (congrFun h dest)

/-- The number and the hop count stay, or the number is raised by one. -/
theorem freshAt_map {f : RouteEntry → RouteEntry} (h : E' dest = (E dest).map f)
    (hmetric : ∀ old, (f old).metric = old.metric)
    (hnumber : ∀ old, (f old).destSeqNum = old.destSeqNum ∨
      (f old).destSeqNum = old.destSeqNum + 1 ∧ e.Tells dest old.destSeqNum (old.destSeqNum + 1)) :
    FreshAt e E E' dest := by
  intro old new hold hnew
  rw [h, hold, Option.map_some] at hnew
  cases Option.some.inj hnew
  constructor
  · cases hnumber old with
    | inl hsame => rw [hsame]; exact le_refl _
    | inr hnext => rw [hnext.1]; exact le_succ _
  · intro _ hne
    cases hnumber old with
    | inl hsame => exact absurd hsame hne
    | inr hnext => rw [hnext.1]; exact hnext.2
  · intro _ _
    rw [hmetric]
    exact BitVec.le_refl _

end Entries

namespace RouteEntry

/-- The last number that a list tells about `dest`. -/
def lastTold (dest : IPv4Address) (nodes : List UnreachableNode) : Option UnreachableNode :=
  (nodes.filter fun node => node.addr = dest).getLast?

theorem foldl_unreachable (dest : IPv4Address) (e : RouteEntry) (nodes : List UnreachableNode) :
    nodes.foldl (unreachable dest) e = match lastTold dest nodes with
      | some node => e.invalidate node.seqNum
      | none => e := by
  induction nodes using reverseRecOn with
  | nil => rfl
  | append_singleton nodes node ih =>
    rw [foldl_append, foldl_cons, foldl_nil, ih]
    by_cases h : dest = node.addr
    · subst h
      simp only [lastTold, filter_append, unreachable, if_true, filter_singleton, decide_true,
        cond_true, List.getLast?_concat]
      split
      · rfl
      · rfl
    · simp [lastTold, unreachable, h, Ne.symm h]

end RouteEntry

namespace AODVRouting

open IPv4Address Entries

variable {m m' : AODVRouting} {e : Event} {dest : IPv4Address}

/-- A route may be given this number and hop count; `own` if the number is one of its destination. -/
def Renews (old : RouteEntry) (seqNum metric : BitVec 32) (own : Prop) : Prop :=
  Le old.destSeqNum seqNum ∧ (old.validDestNum = true → seqNum ≠ old.destSeqNum → own) ∧
    (old.active = true → seqNum = old.destSeqNum → metric ≤ old.metric)

theorem fresh_iff_renews {old new : RouteEntry} {own : Prop}
    (h : new.destSeqNum ≠ old.destSeqNum → (e.Tells dest old.destSeqNum new.destSeqNum ↔ own)) :
    RouteEntry.Fresh e dest old new ↔ Renews old new.destSeqNum new.metric own :=
  ⟨fun ⟨h₁, h₂, h₃⟩ => ⟨h₁, fun hv hne => (h hne).mp (h₂ hv hne), h₃⟩,
    fun ⟨h₁, h₂, h₃⟩ => ⟨h₁, fun hv hne => (h hne).mpr (h₂ hv hne), h₃⟩⟩

variable (m)

/-- The number of the originator may be put into the route to the node that the message comes from. -/
def SenderAgrees (sourceAddr originatorAddr : IPv4Address) (originatorSeqNum : BitVec 32) : Prop :=
  ∀ old, m.entry sourceAddr = some old → Renews old originatorSeqNum 1 (sourceAddr = originatorAddr)

/-- With the hop count already incremented. -/
def RREQAgrees (rreq : AODVRREQ) (sourceAddr : IPv4Address) : Prop :=
  if (m.blacklist.lookup sourceAddr).isSome then True
  else if m.hasSeen rreq then m.SenderAgrees sourceAddr rreq.originatorAddr rreq.originatorSeqNum
  else if sourceAddr = rreq.originatorAddr then
    ∀ old, m.entry sourceAddr = some old → Renews old rreq.originatorSeqNum
      (if rreq.hopCount.slt 1 ∨ rreq.unknownSeqNumFlag then rreq.hopCount else 1) True
  else m.SenderAgrees sourceAddr rreq.originatorAddr rreq.originatorSeqNum ∧
    ∀ old, m.entry rreq.originatorAddr = some old → isReversedBy old rreq →
      Renews old (maxSeqNum old.destSeqNum rreq.originatorSeqNum) rreq.hopCount True

def RREPAgrees (rrep : AODVRREP) (sourceAddr : IPv4Address) : Prop :=
  (sourceAddr ≠ rrep.destAddr → m.SenderAgrees sourceAddr rrep.originatorAddr rrep.originatorSeqNum) ∧
    ∀ old, m.entry rrep.destAddr = some old →
      sourceAddr = rrep.destAddr ∨ isUpdatedBy old rrep ∨
          m.routerId = rrep.originatorAddr ∧ m.hasOngoingRouteDiscovery rrep.destAddr = true →
        Renews old rrep.destSeqNum rrep.hopCount True

def HelloAgrees (helloMessage : AODVRREP) : Prop :=
  ∀ old, m.entry helloMessage.destAddr = some old → Renews old helloMessage.destSeqNum 1 True

/-- The last number listed for a destination that is reached over the sender. -/
def RERRAgrees (rerr : AODVRERR) (sourceAddr : IPv4Address) : Prop :=
  ∀ dest old, m.entry dest = some old → old.gateway = sourceAddr →
    ∀ node, RouteEntry.lastTold dest rerr.unreachableNodes = some node → Le old.destSeqNum node.seqNum

/-- Only packets can disagree. -/
def Agrees : Event → Prop
  | .packet (.RREQ rreq) sourceAddr _ => m.RREQAgrees { rreq with hopCount := rreq.hopCount + 1 } sourceAddr
  | .packet (.RREP rrep) sourceAddr _ =>
    if isUnspecified rrep.originatorAddr then m.HelloAgrees rrep
    else m.RREPAgrees { rrep with hopCount := rrep.hopCount + 1 } sourceAddr
  | .packet (.RERR rerr) sourceAddr _ => m.RERRAgrees rerr sourceAddr
  | _ => True

variable {m} {sourceAddr : IPv4Address}

theorem isReversedBy_previousHop (rreq : AODVRREQ) :
    isReversedBy ⟨rreq.originatorAddr, 1, true, false, rreq.originatorSeqNum⟩ rreq ↔
      rreq.hopCount.slt 1 ∨ rreq.unknownSeqNumFlag := by
  have hlt : rreq.originatorSeqNum.slt rreq.originatorSeqNum = false := by simp [BitVec.slt]
  simp [isReversedBy, hlt]

theorem maxSeqNum_self (a : BitVec 32) : maxSeqNum a a = a := by simp [maxSeqNum]

/-- The entry for the originator when its own RREQ has arrived without a hop between. -/
theorem reverse_previousHop_self (E : Entries) (rreq : AODVRREQ) :
    (E.previousHop rreq.originatorAddr rreq.originatorSeqNum).reverse rreq rreq.originatorAddr rreq.originatorAddr =
      if rreq.hopCount.slt 1 ∨ rreq.unknownSeqNumFlag then
        some ⟨rreq.originatorAddr, rreq.hopCount, true, true, rreq.originatorSeqNum⟩
      else some ⟨rreq.originatorAddr, 1, true, false, rreq.originatorSeqNum⟩ := by
  have hprev := E.previousHop_self rreq.originatorAddr rreq.originatorSeqNum
  by_cases hrev : rreq.hopCount.slt 1 ∨ rreq.unknownSeqNumFlag
  · rw [if_pos hrev, reverse_self_of_reversed _ hprev ((isReversedBy_previousHop rreq).mpr hrev), maxSeqNum_self]
  · rw [if_neg hrev, reverse_self_of_kept _ hprev (mt (isReversedBy_previousHop rreq).mp hrev)]

theorem previousHop_freshAt {E' : Entries} {sourceAddr originatorAddr : IPv4Address}
    {originatorSeqNum : BitVec 32}
    (h : E' sourceAddr = some ⟨sourceAddr, 1, true, false, originatorSeqNum⟩)
    (he : ∀ oldSeqNum, e.Tells sourceAddr oldSeqNum originatorSeqNum ↔ sourceAddr = originatorAddr) :
    FreshAt e m.entry E' sourceAddr ↔ m.SenderAgrees sourceAddr originatorAddr originatorSeqNum := by
  rw [freshAt_iff h]
  constructor
  · intro hall old hold
    exact (fresh_iff_renews fun _ => he old.destSeqNum).mp (hall old hold)
  · intro hall old hold
    exact (fresh_iff_renews fun _ => he old.destSeqNum).mpr (hall old hold)

/-- The number is one that the event tells about its destination. -/
theorem told_freshAt {E' : Entries} {new : RouteEntry} (h : E' dest = some new)
    (he : ∀ old, m.entry dest = some old → new.destSeqNum ≠ old.destSeqNum →
      e.Tells dest old.destSeqNum new.destSeqNum) :
    FreshAt e m.entry E' dest ↔
      ∀ old, m.entry dest = some old → Renews old new.destSeqNum new.metric True := by
  rw [freshAt_iff h]
  constructor
  · intro hall old hold
    exact (fresh_iff_renews fun hne => iff_true_intro (he old hold hne)).mp (hall old hold)
  · intro hall old hold
    exact (fresh_iff_renews fun hne => iff_true_intro (he old hold hne)).mpr (hall old hold)

section

variable (rreq : AODVRREQ)
include rreq

/-- A RREQ of a node that is one hop away. -/
theorem ownRREQ_fresh
    (he : ∀ oldSeqNum, e.Tells rreq.originatorAddr oldSeqNum rreq.originatorSeqNum) :
    Fresh e m.entry
        ((m.entry.previousHop rreq.originatorAddr rreq.originatorSeqNum).reverse rreq rreq.originatorAddr) ↔
      ∀ old, m.entry rreq.originatorAddr = some old → Renews old rreq.originatorSeqNum
        (if rreq.hopCount.slt 1 ∨ rreq.unknownSeqNumFlag then rreq.hopCount else 1) True := by
  rw [fresh_iff_of_mem [rreq.originatorAddr]]
  · simp only [forall_mem_singleton]
    have hself := reverse_previousHop_self m.entry rreq
    by_cases hrev : rreq.hopCount.slt 1 ∨ rreq.unknownSeqNumFlag
    · rw [if_pos hrev] at hself ⊢
      exact told_freshAt hself fun old _ _ => he old.destSeqNum
    · rw [if_neg hrev] at hself ⊢
      exact told_freshAt hself fun old _ _ => he old.destSeqNum
  · intro dest hdest
    have hne : dest ≠ rreq.originatorAddr := by simpa using hdest
    rw [reverse_of_ne _ hne, previousHop_of_ne _ hne]

/-- What the RREQ makes of the route to its originator when it comes over another node. -/
theorem reverse_freshAt {E : Entries}
    (hE : E rreq.originatorAddr = m.entry rreq.originatorAddr)
    (he : ∀ oldSeqNum, e.Tells rreq.originatorAddr oldSeqNum rreq.originatorSeqNum) :
    FreshAt e m.entry (E.reverse rreq sourceAddr) rreq.originatorAddr ↔
      ∀ old, m.entry rreq.originatorAddr = some old → isReversedBy old rreq →
        Renews old (maxSeqNum old.destSeqNum rreq.originatorSeqNum) rreq.hopCount True := by
  cases hr : m.entry rreq.originatorAddr with
  | none =>
    simp only [reduceCtorEq, false_implies, implies_true, iff_true]
    intro old new hold
    cases hr.symm.trans hold
  | some r =>
    have hEr : E rreq.originatorAddr = some r := hE.trans hr
    by_cases hrev : isReversedBy r rreq
    · rw [told_freshAt (reverse_self_of_reversed E hEr hrev sourceAddr)]
      · simp only [hr, Option.some.injEq, forall_eq', hrev, forall_const]
      · intro old hold hne
        cases Option.some.inj (hr.symm.trans hold)
        have hmax : maxSeqNum r.destSeqNum rreq.originatorSeqNum = rreq.originatorSeqNum := by
          unfold maxSeqNum at hne ⊢
          by_cases hlt : r.destSeqNum.slt rreq.originatorSeqNum = true
          · rw [if_pos hlt]
          · rw [if_neg hlt] at hne
            exact absurd rfl hne
        rw [hmax]
        exact he _
    · have hkept : FreshAt e m.entry (E.reverse rreq sourceAddr) rreq.originatorAddr :=
        freshAt_of_eq ((reverse_self_of_kept E hEr hrev sourceAddr).trans hr.symm)
      simp only [Option.some.injEq, forall_eq', hrev, false_implies, iff_true]
      exact hkept

/-- A RREQ that another node has relayed. -/
theorem relayedRREQ_fresh (hs : sourceAddr ≠ rreq.originatorAddr)
    (he : ∀ dest oldSeqNum, e.Tells dest oldSeqNum rreq.originatorSeqNum ↔ dest = rreq.originatorAddr) :
    Fresh e m.entry ((m.entry.previousHop sourceAddr rreq.originatorSeqNum).reverse rreq sourceAddr) ↔
      m.SenderAgrees sourceAddr rreq.originatorAddr rreq.originatorSeqNum ∧
        ∀ old, m.entry rreq.originatorAddr = some old → isReversedBy old rreq →
          Renews old (maxSeqNum old.destSeqNum rreq.originatorSeqNum) rreq.hopCount True := by
  rw [fresh_iff_of_mem [sourceAddr, rreq.originatorAddr]]
  · simp only [forall_mem_cons, not_mem_nil, false_implies, implies_true, and_true]
    have hprev : ((m.entry.previousHop sourceAddr rreq.originatorSeqNum).reverse rreq sourceAddr) sourceAddr =
        some ⟨sourceAddr, 1, true, false, rreq.originatorSeqNum⟩ := by
      rw [reverse_of_ne _ hs, previousHop_self]
    have horig : (m.entry.previousHop sourceAddr rreq.originatorSeqNum) rreq.originatorAddr =
        m.entry rreq.originatorAddr := previousHop_of_ne _ hs.symm _
    rw [previousHop_freshAt hprev fun old => he sourceAddr old,
      reverse_freshAt rreq horig fun old => (he rreq.originatorAddr old).mpr rfl]
  · intro dest hdest
    simp only [mem_cons, not_mem_nil, or_false, not_or] at hdest
    rw [reverse_of_ne _ hdest.2, previousHop_of_ne _ hdest.1]

theorem handleRREQ_fresh (sourceAddr : IPv4Address) (timeToLive : BitVec 32) :
    Ensures (m.handleRREQ rreq sourceAddr timeToLive) fun m' =>
      (Fresh (.packet (.RREQ rreq) sourceAddr timeToLive) m.entry m'.entry ↔
        m.RREQAgrees { rreq with hopCount := rreq.hopCount + 1 } sourceAddr) := by
  have htells (dest : IPv4Address) (old : BitVec 32) :
      Event.Tells dest old rreq.originatorSeqNum (.packet (.RREQ rreq) sourceAddr timeToLive) ↔
        dest = rreq.originatorAddr := by simp [Event.Tells]
  refine (handleRREQ_effect m rreq sourceAddr timeToLive).mono fun m' h => ?_
  unfold RREQAgrees
  by_cases hb : (m.blacklist.lookup sourceAddr).isSome = true
  · rw [if_pos hb] at h ⊢
    exact iff_true_intro (fresh_of_eq h.entry)
  · rw [if_neg hb] at h ⊢
    have hseen : m.hasSeen { rreq with hopCount := rreq.hopCount + 1 } = m.hasSeen rreq := rfl
    rw [hseen]
    by_cases hs : m.hasSeen rreq = true
    · rw [if_pos hs] at h ⊢
      rw [h.entry, fresh_iff_of_mem [sourceAddr]]
      · simp only [forall_mem_singleton]
        exact previousHop_freshAt (previousHop_self _ _ _) fun old => htells sourceAddr old
      · intro dest hdest
        exact previousHop_of_ne _ (by simpa using hdest) _
    · rw [if_neg hs] at h ⊢
      rw [h.entry]
      by_cases ho : sourceAddr = rreq.originatorAddr
      · rw [if_pos ho, ho]
        exact ownRREQ_fresh { rreq with hopCount := rreq.hopCount + 1 } fun old => (htells _ old).mpr rfl
      · rw [if_neg ho]
        exact relayedRREQ_fresh { rreq with hopCount := rreq.hopCount + 1 } ho htells

end

/-- What a RREP makes of the route to its destination: `E` is the state of the routes before its
hop count is looked at, which only differs when the destination itself has sent it. -/
theorem forward_freshAt (rrep : AODVRREP) {E : Entries}
    (hE : sourceAddr = rrep.destAddr ∧ (∃ r, E rrep.destAddr = some r ∧ r.validDestNum = false) ∨
      sourceAddr ≠ rrep.destAddr ∧ E rrep.destAddr = m.entry rrep.destAddr)
    (he : ∀ oldSeqNum, e.Tells rrep.destAddr oldSeqNum rrep.destSeqNum) :
    FreshAt e m.entry (E.forward rrep sourceAddr) rrep.destAddr ↔
      ∀ old, m.entry rrep.destAddr = some old → sourceAddr = rrep.destAddr ∨ isUpdatedBy old rrep →
        Renews old rrep.destSeqNum rrep.hopCount True := by
  have hcomplete : FreshAt e m.entry (E.complete rrep sourceAddr) rrep.destAddr ↔
      ∀ old, m.entry rrep.destAddr = some old → Renews old rrep.destSeqNum rrep.hopCount True :=
    told_freshAt (complete_self E rrep sourceAddr) fun old _ _ => he old.destSeqNum
  cases hE with
  | inl hself =>
    obtain ⟨hs, r, hr, hv⟩ := hself
    rw [forward_self_of_updated E hr (.inl (by simp [hv]))]
    simpa only [hs, true_or, forall_const] using hcomplete
  | inr hother =>
    obtain ⟨hs, hsame⟩ := hother
    cases hr : m.entry rrep.destAddr with
    | none =>
      simp only [reduceCtorEq, false_implies, implies_true, iff_true]
      intro old new hold
      cases hr.symm.trans hold
    | some r =>
      have hEr : E rrep.destAddr = some r := hsame.trans hr
      by_cases hu : isUpdatedBy r rrep
      · rw [forward_self_of_updated E hEr hu]
        simpa only [hr, Option.some.injEq, forall_eq', hu, or_true, forall_const] using hcomplete
      · rw [forward_self_of_kept E hEr hu]
        simp only [Option.some.injEq, forall_eq', hs, hu, or_self, false_implies, iff_true]
        exact freshAt_of_eq (hEr.trans hr.symm)

theorem handleHelloMessage_fresh (helloMessage : AODVRREP)
    (he : ∀ oldSeqNum, e.Tells helloMessage.destAddr oldSeqNum helloMessage.destSeqNum) :
    Fresh e m.entry (m.entry.hello helloMessage) ↔ m.HelloAgrees helloMessage := by
  rw [fresh_iff_of_mem [helloMessage.destAddr]]
  · simp only [forall_mem_singleton]
    exact told_freshAt (update_self ..) fun old _ _ => he old.destSeqNum
  · intro dest hdest
    exact update_of_ne (by simpa using hdest) ..

/-- The routes that change are those to the sender and to the destination. -/
theorem rrep_fresh (rrep : AODVRREP) (sourceAddr : IPv4Address) (E' : Entries)
    (hother : ∀ dest, dest ≠ rrep.destAddr → E' dest = m.entry.previousHop sourceAddr rrep.originatorSeqNum dest)
    (he : ∀ oldSeqNum, sourceAddr ≠ rrep.destAddr →
      (e.Tells sourceAddr oldSeqNum rrep.originatorSeqNum ↔ sourceAddr = rrep.originatorAddr)) :
    Fresh e m.entry E' ↔
      (sourceAddr ≠ rrep.destAddr → m.SenderAgrees sourceAddr rrep.originatorAddr rrep.originatorSeqNum) ∧
        FreshAt e m.entry E' rrep.destAddr := by
  rw [fresh_iff_of_mem [sourceAddr, rrep.destAddr]]
  · simp only [forall_mem_cons, not_mem_nil, false_implies, implies_true, and_true]
    by_cases hs : sourceAddr = rrep.destAddr
    · simp [hs]
    · have hprev : E' sourceAddr = some ⟨sourceAddr, 1, true, false, rrep.originatorSeqNum⟩ := by
        rw [hother _ hs, previousHop_self]
      rw [previousHop_freshAt hprev fun old => he old hs]
      simp [hs]
  · intro dest hdest
    simp only [mem_cons, not_mem_nil, or_false, not_or] at hdest
    rw [hother _ hdest.2, previousHop_of_ne _ hdest.1]

theorem forwarded_fresh (rrep : AODVRREP) (sourceAddr : IPv4Address)
    (he : ∀ dest oldSeqNum seqNum, e.Tells dest oldSeqNum seqNum ↔
      dest = rrep.destAddr ∧ seqNum = rrep.destSeqNum ∨
        dest = rrep.originatorAddr ∧ seqNum = rrep.originatorSeqNum) :
    (Fresh e m.entry (m.forwarded rrep sourceAddr) ↔
      (sourceAddr ≠ rrep.destAddr → m.SenderAgrees sourceAddr rrep.originatorAddr rrep.originatorSeqNum) ∧
        ∀ old, m.entry rrep.destAddr = some old → sourceAddr = rrep.destAddr ∨ isUpdatedBy old rrep →
          Renews old rrep.destSeqNum rrep.hopCount True) ∧
    (Fresh e m.entry ((m.forwarded rrep sourceAddr).complete rrep sourceAddr) ↔
      (sourceAddr ≠ rrep.destAddr → m.SenderAgrees sourceAddr rrep.originatorAddr rrep.originatorSeqNum) ∧
        ∀ old, m.entry rrep.destAddr = some old → Renews old rrep.destSeqNum rrep.hopCount True) := by
  have hdest (old : BitVec 32) : e.Tells rrep.destAddr old rrep.destSeqNum := (he _ _ _).mpr (.inl ⟨rfl, rfl⟩)
  have hsender (old : BitVec 32) (hs : sourceAddr ≠ rrep.destAddr) :
      e.Tells sourceAddr old rrep.originatorSeqNum ↔ sourceAddr = rrep.originatorAddr := by simp [he, hs]
  constructor
  · rw [rrep_fresh rrep sourceAddr (m.forwarded rrep sourceAddr) (fun dest hd => forward_of_ne _ hd sourceAddr) hsender]
    refine and_congr_right' (forward_freshAt rrep ?_ hdest)
    by_cases hs : sourceAddr = rrep.destAddr
    · left
      rw [← hs]
      exact ⟨rfl, _, previousHop_self _ _ _, rfl⟩
    · right
      exact ⟨hs, previousHop_of_ne _ (Ne.symm hs) _⟩
  · rw [rrep_fresh rrep sourceAddr ((m.forwarded rrep sourceAddr).complete rrep sourceAddr)
      (fun dest hd => (complete_of_ne _ hd sourceAddr).trans (forward_of_ne _ hd sourceAddr)) hsender]
    exact and_congr_right' (told_freshAt (complete_self _ rrep sourceAddr) fun old _ _ => hdest old.destSeqNum)

theorem handleRREP_fresh (rrep : AODVRREP) (sourceAddr : IPv4Address) (timeToLive : BitVec 32) :
    Ensures (m.handleRREP rrep sourceAddr) fun m' =>
      (Fresh (.packet (.RREP rrep) sourceAddr timeToLive) m.entry m'.entry ↔
        if isUnspecified rrep.originatorAddr then m.HelloAgrees rrep
        else m.RREPAgrees { rrep with hopCount := rrep.hopCount + 1 } sourceAddr) := by
  refine (handleRREP_change m rrep sourceAddr).mono fun m' h => ?_
  have hforwarded := forwarded_fresh (m := m) (e := .packet (.RREP rrep) sourceAddr timeToLive)
    { rrep with hopCount := rrep.hopCount + 1 } sourceAddr fun _ _ _ => Iff.rfl
  by_cases hu : isUnspecified rrep.originatorAddr = true
  · rw [if_pos hu] at h ⊢
    rw [h.entry]
    exact handleHelloMessage_fresh rrep fun _ => .inl ⟨rfl, rfl⟩
  · rw [if_neg hu] at h ⊢
    unfold RREPAgrees
    by_cases hself : m.routerId ≠ rrep.originatorAddr
    · rw [if_pos hself] at h
      rw [h.entry, hforwarded.1]
      simp [hself]
    · rw [if_neg hself] at h
      have hid : m.routerId = rrep.originatorAddr := not_not.mp hself
      by_cases ho : m.hasOngoingRouteDiscovery rrep.destAddr = true
      · rw [if_pos ho] at h
        rw [h.1.entry, hforwarded.2]
        simp [hid, ho]
      · rw [if_neg ho] at h
        rw [h.entry, hforwarded.1]
        simp [hid, ho]

theorem lastTold_mem {nodes : List UnreachableNode} {node : UnreachableNode}
    (h : RouteEntry.lastTold dest nodes = some node) : ⟨dest, node.seqNum⟩ ∈ nodes := by
  obtain ⟨hmem, haddr⟩ := mem_filter.mp (mem_of_getLast? h)
  have : node = ⟨dest, node.seqNum⟩ := by
    cases node
    simpa using haddr
  exact this ▸ hmem

theorem handleRERR_fresh (rerr : AODVRERR) (sourceAddr : IPv4Address) (timeToLive : BitVec 32) :
    Ensures (m.handleRERR rerr sourceAddr) fun m' =>
      (Fresh (.packet (.RERR rerr) sourceAddr timeToLive) m.entry m'.entry ↔ m.RERRAgrees rerr sourceAddr) := by
  refine (handleRERR_effect m rerr sourceAddr).mono fun m' h => ?_
  rw [h.entry]
  have herror (dest : IPv4Address) (old : RouteEntry) : RouteEntry.error rerr sourceAddr dest old =
      if old.gateway = sourceAddr then
        match RouteEntry.lastTold dest rerr.unreachableNodes with
        | some node => old.invalidate node.seqNum
        | none => old
      else old := by rw [RouteEntry.error, RouteEntry.foldl_unreachable]
  constructor
  · intro hfresh dest old hold hgw node hnode
    have hnew : (m.entry dest).map (·.error rerr sourceAddr dest) = some (old.error rerr sourceAddr dest) := by
      rw [hold, Option.map_some]
    have hle := (hfresh dest old _ hold hnew).notOlder
    rwa [herror, if_pos hgw, hnode] at hle
  · intro hall dest old new hold hnew
    simp only [hold, Option.map_some, herror] at hnew
    cases Option.some.inj hnew
    by_cases hgw : old.gateway = sourceAddr
    · rw [if_pos hgw]
      cases hnode : RouteEntry.lastTold dest rerr.unreachableNodes with
      | none => exact ⟨le_refl _, fun _ hne => absurd rfl hne, fun _ _ => BitVec.le_refl _⟩
      | some node =>
        exact ⟨hall dest old hold hgw node hnode, fun _ _ => lastTold_mem hnode, fun _ _ => BitVec.le_refl _⟩
    · rw [if_neg hgw]
      exact ⟨le_refl _, fun _ hne => absurd rfl hne, fun _ _ => BitVec.le_refl _⟩

/-- The neighbour that acknowledges keeps its number and its hop count. -/
theorem handleRREPACK_fresh (e : Event) (neighborAddr : IPv4Address) :
    Ensures (m.handleRREPACK neighborAddr) fun m' => Fresh e m.entry m'.entry := by
  refine (handleRREPACK_effect m neighborAddr).mono fun m' h => ?_
  rw [h.entry]
  intro dest
  by_cases hd : dest = neighborAddr
  · subst hd
    exact freshAt_map (update_self ..) (fun _ => rfl) fun _ => .inl rfl
  · exact freshAt_of_eq (update_of_ne hd ..)

theorem nextSeqNum_eq (old : RouteEntry) : old.nextSeqNum = old.destSeqNum ∨ old.nextSeqNum = old.destSeqNum + 1 := by
  unfold nextSeqNum
  by_cases hv : old.validDestNum = true
  · rw [if_pos hv]
    exact .inr rfl
  · rw [if_neg hv]
    exact .inl rfl

section

variable (datagram : IPv4Datagram)
include datagram

theorem linkBroken_freshAt (unreachableAddr dest : IPv4Address) {E' : Entries}
    (h : E' dest = (m.entry dest).map (·.linkBroken unreachableAddr)) :
    FreshAt (.linkBreak datagram) m.entry E' dest := by
  refine freshAt_map h (fun old => ?_) fun old => ?_
  · unfold linkBroken
    by_cases hgw : old.gateway = unreachableAddr
    · rw [if_pos hgw]
      rfl
    · rw [if_neg hgw]
  · unfold linkBroken
    by_cases hgw : old.gateway = unreachableAddr
    · rw [if_pos hgw]
      exact (nextSeqNum_eq old).imp_right fun hnext => ⟨hnext, rfl⟩
    · rw [if_neg hgw]
      exact .inl rfl

theorem receiveChangeNotification_fresh :
    Ensures (m.receiveChangeNotification datagram) fun m' =>
      Fresh (.linkBreak datagram) m.entry m'.entry := by
  refine (receiveChangeNotification_effect m datagram).mono fun m' h => ?_
  cases hr : m.entry datagram.destAddress with
  | none =>
    rw [hr] at h
    exact fresh_of_eq h.entry
  | some e =>
    rw [hr] at h
    by_cases hgw : (m.entry e.gateway).isSome = true
    · simp only [if_pos hgw] at h
      exact fun dest => linkBroken_freshAt datagram e.gateway dest (congrFun h.entry dest)
    · simp only [if_neg hgw] at h
      exact fresh_of_eq h.entry

theorem datagramForwardHook_fresh :
    Ensures (m.datagramForwardHook datagram) fun m' =>
      Fresh (.datagramForwardHook datagram) m.entry m'.entry := by
  refine (datagramForwardHook_effect m datagram).mono fun m' h => ?_
  by_cases hn : m.isNotRouted datagram.destAddress = true
  · rw [if_pos hn] at h
    exact fresh_of_eq h.entry
  · rw [if_neg hn] at h
    rw [h.entry]
    intro dest
    by_cases hd : dest = datagram.destAddress
    · subst hd
      refine freshAt_map (update_self ..) (fun old => ?_) fun old => ?_
      · unfold noRoute
        by_cases ha : old.active = true
        · rw [if_pos ha]
        · rw [if_neg ha]
      · unfold noRoute
        by_cases ha : old.active = true
        · rw [if_pos ha]
          exact .inl rfl
        · rw [if_neg ha]
          exact (nextSeqNum_eq old).imp_right fun hnext => ⟨hnext, rfl⟩
    · exact freshAt_of_eq (update_of_ne hd ..)

end

theorem expungeRoutes_fresh (e : Event) :
    Ensures m.expungeRoutes fun m' => Fresh e m.entry m'.entry := by
  refine (expungeRoutes_effect m).mono fun m' h dest => ?_
  cases h.2 dest with
  | inl hsame => exact freshAt_of_eq hsame
  | inr hexpired =>
    obtain ⟨r, hr, -, hcase⟩ := hexpired
    cases hcase with
    | inl hactive =>
      have hmap : m'.entry dest = (m.entry dest).map fun old => { old with active := false } := by
        rw [entry_eq_some hr]
        exact hactive.2
      exact freshAt_map hmap (fun _ => rfl) fun _ => .inl rfl
    | inr hinactive =>
      intro old new _ hnew
      cases hinactive.2.2.symm.trans hnew

theorem waitForRREPTimer_fresh (e : Event) (destAddr : IPv4Address) :
    Ensures (m.waitForRREPTimer destAddr) fun m' => Fresh e m.entry m'.entry := by
  unfold waitForRREPTimer
  cases m.discovery.waitForRREPTimers.lookup destAddr with
  | none => exact .pure (fresh_of_eq rfl)
  | some timer =>
    refine .ite (fun _ => ?_) fun _ => .pure (fresh_of_eq rfl)
    exact (handleWaitForRREP_change _ destAddr timer).mono fun m' h => fresh_of_eq h.1.entry

theorem handlePacket_fresh (packet : AODVControlPacket) (sourceAddr : IPv4Address) (timeToLive : BitVec 32) :
    Ensures (m.handlePacket sourceAddr timeToLive packet) fun m' =>
      (Fresh (.packet packet sourceAddr timeToLive) m.entry m'.entry ↔
        m.Agrees (.packet packet sourceAddr timeToLive)) := by
  cases packet with
  | RREQ rreq => exact handleRREQ_fresh rreq sourceAddr timeToLive
  | RREP rrep => exact handleRREP_fresh rrep sourceAddr timeToLive
  | RERR rerr => exact handleRERR_fresh rerr sourceAddr timeToLive
  | RREPACK => exact (handleRREPACK_fresh _ sourceAddr).mono fun m' h => iff_true_intro h

/-- Exactly the steps that agree with the routes keep them fresh. -/
theorem handleMessage_fresh (e : Event) :
    Ensures (m.handleMessage e) fun m' => (Fresh e m.entry m'.entry ↔ m.Agrees e) := by
  have hquiet : Fresh e m.entry m.entry ↔ True := iff_true_intro (fresh_of_eq rfl)
  cases e with
  | elapse t => exact .ite (fun _ => .pure hquiet) fun _ => .pure hquiet
  | datagramHook datagram =>
    refine .map ((ensureRouteForDatagram_change m datagram).mono fun res h => iff_true_intro ?_)
    cases h with
    | inl hpass => exact fresh_of_eq hpass.2.entry
    | inr hdelay => exact fresh_of_eq hdelay.2.1.entry
  | datagramForwardHook datagram => exact (datagramForwardHook_fresh datagram).mono fun m' h => iff_true_intro h
  | linkBreak datagram => exact (receiveChangeNotification_fresh datagram).mono fun m' h => iff_true_intro h
  | packet packet sourceAddr timeToLive => exact handlePacket_fresh packet sourceAddr timeToLive
  | waitForRREP target => exact (waitForRREPTimer_fresh _ target).mono fun m' h => iff_true_intro h
  | helloMsgTimer periodicJitter =>
    refine .ite (fun _ => ?_) fun _ => .pure hquiet
    exact (sendHelloMessagesIfNeeded_effect _ periodicJitter).mono fun m' h => iff_true_intro (fresh_of_eq h.entry)
  | expungeTimer =>
    refine .ite (fun _ => ?_) fun _ => .pure hquiet
    exact (expungeRoutes_fresh _).mono fun m' h => iff_true_intro h
  | counterTimer =>
    refine .ite (fun _ => ?_) fun _ => .pure hquiet
    exact .bind_any fun t => .pure (iff_true_intro (fresh_of_eq rfl))
  | rrepAckTimer =>
    refine .ite (fun _ => ?_) fun _ => .pure hquiet
    exact (handleRREPACKTimer_effect _).mono fun m' h => iff_true_intro (fresh_of_eq h.entry)
  | blacklistTimer =>
    refine .ite (fun _ => ?_) fun _ => .pure hquiet
    exact (handleBlackListTimer_effect _).mono fun m' h => iff_true_intro (fresh_of_eq h.entry)

/-- In the steps of a run that go through, no route loses its freshness. -/
def StaysFresh (m : AODVRouting) (events : List Event) : Prop :=
  Runs.EveryTransition handleMessage (fun m e m' => Entries.Fresh e m.entry m'.entry) m events

theorem staysFresh_iff_agrees (routerId : IPv4Address) (localAddresses : List IPv4Address)
    (otherRoutes : List OtherRoute) (par : Parameters) (periodicJitter : Int) (events : List Event) :
    (initial routerId localAddresses otherRoutes par periodicJitter).StaysFresh events ↔
      Runs.EveryTransition handleMessage (fun m e _ => m.Agrees e)
        (initial routerId localAddresses otherRoutes par periodicJitter) events :=
  Runs.everyTransition_congr (fun m e m' hm' => handleMessage_fresh (m := m) e m' hm') events

def neighborAddr : IPv4Address := 0x0A000002
def originatorAddr : IPv4Address := 0x0A000003
def searchedAddr : IPv4Address := 0x0A000004

def helloOfNeighbor : Event := .packet (.RREP { destAddr := neighborAddr, destSeqNum := 5 }) neighborAddr 1

def relayedRREQ : Event :=
  .packet (.RREQ { unknownSeqNumFlag := true, hopCount := 1, rreqId := 1, destAddr := searchedAddr,
                   originatorAddr := originatorAddr, originatorSeqNum := 3 }) neighborAddr 5

theorem relayed_run :
    (Runs.run handleMessage (initial nodeAddr [nodeAddr] [] {} 0) [helloOfNeighbor]).map (·.entry neighborAddr) =
        .ok (some ⟨neighborAddr, 1, true, true, 5⟩) ∧
      (Runs.run handleMessage (initial nodeAddr [nodeAddr] [] {} 0) ([helloOfNeighbor] ++ [relayedRREQ])).map
        (·.entry neighborAddr) = .ok (some ⟨neighborAddr, 1, true, false, 3⟩) := by
  decide

/-- A neighbour has said Hello relays a RREQ of another node, whose number becomes the neighbour's. -/
theorem relayed_rreq_not_fresh :
    ¬ ∀ (routerId : IPv4Address) (localAddresses : List IPv4Address) (otherRoutes : List OtherRoute)
        (par : Parameters) (periodicJitter : Int) (events : List Event),
        (initial routerId localAddresses otherRoutes par periodicJitter).StaysFresh events := by
  intro hall
  obtain ⟨hbefore, hafter⟩ := relayed_run
  cases hm₂ : Runs.run handleMessage (initial nodeAddr [nodeAddr] [] {} 0) ([helloOfNeighbor] ++ [relayedRREQ]) with
  | error err => rw [hm₂] at hafter; cases hafter
  | ok m₂ =>
    obtain ⟨m₁, hm₁, hstep⟩ := Runs.run_append.mp hm₂
    obtain ⟨m₂', hstep, hnil⟩ := Runs.run_cons.mp hstep
    cases hnil
    rw [hm₁] at hbefore
    rw [hm₂] at hafter
    have hfresh := hall nodeAddr [nodeAddr] [] {} 0 ([helloOfNeighbor] ++ [relayedRREQ]) [helloOfNeighbor] relayedRREQ m₁
      (prefix_refl _) hm₁ m₂ hstep
    have hle := (hfresh neighborAddr _ _ (Except.ok.inj hbefore) (Except.ok.inj hafter)).notOlder
    exact absurd hle (by decide)

end AODVRouting

end Inet.Aodv
