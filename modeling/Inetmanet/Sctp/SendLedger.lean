import Inetmanet.Sctp.OutboundRuns

/-!
# The messages of the send queues

The chunks of the queues and those sent already are sorted into groups, one for each
message. Only one message is sent in part at any time, and the next chunk taken is its
next fragment.
-/
namespace Inet.Sctp

open Pieces SCTPDataMsg List Except SCTPAssociation

/-- `cs` are the chunks of the message `u`. -/
structure SCTPDataMsg.Cut (u : SCTPDataMsg) (cs : List SCTPDataMsg) : Prop where
  carried : Carried true u.data cs
  same : ∀ c ∈ cs, c.msgNum = u.msgNum ∧ c.sid = u.sid ∧ c.ordered = u.ordered

/-- The messages with their chunks: those `begun` have been sent, up to `rest`, the chunks that are left of the message
in progress. -/
structure Ledger where
  begun : List (SCTPDataMsg × List SCTPDataMsg) := []
  rest : List SCTPDataMsg := []
  sid : Nat := 0
  ordered : Bool := false
  waiting : Nat → Bool → List (SCTPDataMsg × List SCTPDataMsg) := fun _ _ => []

namespace Ledger

/-- What is left of the message in progress, in its queue. -/
def restOn (l : Ledger) (s : Nat) (o : Bool) : List SCTPDataMsg := if s = l.sid ∧ o = l.ordered then l.rest else []

structure Of (l : Ledger) (a : SCTPAssociation) (accepted out : List SCTPDataMsg) : Prop where
  sent : out ++ l.rest = l.begun.flatMap Prod.snd
  queued : ∀ s o, (a.queue s o).map asSent = l.restOn s o ++ (l.waiting s o).flatMap Prod.snd
  carried : l.rest ≠ [] → ∃ data, Carried false data l.rest
  scheduled : l.rest ≠ [] → a.lastMsgWasFragment = true ∧ a.lastStreamScheduled = l.sid ∧
    (l.ordered = true → a.queue l.sid false = [])
  begun_cut : ∀ x ∈ l.begun, x.1 ∈ accepted ∧ x.1.Cut x.2
  waiting_cut : ∀ s o, ∀ x ∈ l.waiting s o, x.1 ∈ accepted ∧ x.1.sid = s ∧ x.1.ordered = o ∧ x.1.Cut x.2
  distinct : ∀ s o, ((l.begun ++ l.waiting s o).map (·.1.msgNum)).Nodup
  numbers : (accepted.map (·.msgNum)).Nodup
  numbered : ∀ u ∈ accepted, u.msgNum ≤ a.msgNum

theorem initial (a : SCTPAssociation) (h : ∀ s o, a.queue s o = []) : Of {} a [] [] where
  sent := rfl
  queued s o := by simp [h, restOn]
  carried h := absurd rfl h
  scheduled h := absurd rfl h
  begun_cut := by simp
  waiting_cut := by simp
  distinct := by simp
  numbers := by simp
  numbered := by simp

variable {l : Ledger} {a a' : SCTPAssociation} {accepted out : List SCTPDataMsg} {sid : Nat} {ordered : Bool}
  {m : SCTPDataMsg} {q : List SCTPDataMsg}

variable {r : List SCTPDataMsg}

section

variable (h : l.Of a accepted out)
include h

/-- What is not about the queues may change while no message is in progress. -/
theorem Of.congr (hq : ∀ s o, a'.queue s o = a.queue s o) (hm : a'.msgNum = a.msgNum)
    (hs : l.rest ≠ [] → a'.lastMsgWasFragment = true ∧ a'.lastStreamScheduled = a.lastStreamScheduled) :
    l.Of a' accepted out where
  sent := h.sent
  queued s o := by rw [hq, h.queued]
  carried := h.carried
  scheduled hne := by
    obtain ⟨-, hlast, hu⟩ := h.scheduled hne
    exact ⟨(hs hne).1, (hs hne).2.trans hlast, fun ho => by rw [hq]; exact hu ho⟩
  begun_cut := h.begun_cut
  waiting_cut := h.waiting_cut
  distinct := h.distinct
  numbers := h.numbers
  numbered u hu := hm ▸ h.numbered u hu

/-- The queue that is looked at starts with the message in progress, or with a message that waits there. -/
theorem Of.front (hq : a.queue sid ordered = m :: q) :
    (∃ r, l.restOn sid ordered = m.asSent :: r ∧ q.map asSent = r ++ (l.waiting sid ordered).flatMap Prod.snd) ∨
    (l.restOn sid ordered = [] ∧ ∃ u cs ws, l.waiting sid ordered = (u, m.asSent :: cs) :: ws ∧
      q.map asSent = cs ++ ws.flatMap Prod.snd) := by
  have hqueued := h.queued sid ordered
  rw [hq, map_cons] at hqueued
  cases hr : l.restOn sid ordered with
  | cons c r =>
    left
    rw [hr, cons_append, cons.injEq] at hqueued
    exact ⟨r, by rw [hqueued.1], hqueued.2⟩
  | nil =>
    right
    rw [hr, nil_append] at hqueued
    cases hw : l.waiting sid ordered with
    | nil =>
      rw [hw] at hqueued
      simp at hqueued
    | cons x ws =>
      obtain ⟨u, cs⟩ := x
      have hcut := (h.waiting_cut sid ordered (u, cs) (by simp [hw])).2.2.2
      cases cs with
      | nil => exact absurd rfl hcut.carried.ne_nil
      | cons c cs =>
        rw [hw, flatMap_cons, cons_append, cons.injEq] at hqueued
        exact ⟨rfl, u, cs, ws, by rw [hqueued.1], hqueued.2⟩

/-- What is left of the message in progress are fragments, without the first. -/
theorem Of.fragment_of_rest (hr : l.restOn sid ordered = m.asSent :: r) :
    m.fragment = true ∧ m.bBit = false ∧ sid = l.sid ∧ ordered = l.ordered ∧ l.rest = m.asSent :: r := by
  unfold restOn at hr
  split at hr
  · next hs =>
    obtain ⟨data, hcarried⟩ := h.carried (by rw [hr]; exact cons_ne_nil _ _)
    rw [hr] at hcarried
    have hfirst : m.asSent.bBit = false := hcarried.isFirst_head
    by_cases hf : m.fragment = true
    · rw [asSent_of_fragment hf] at hfirst
      exact ⟨hf, hfirst, hs.1, hs.2, hr⟩
    · rw [asSent_of_not_fragment hf] at hfirst
      cases hfirst
  · cases hr

/-- The queue of the message in progress starts with such a fragment. -/
theorem Of.front_of_rest (hne : l.rest ≠ []) :
    ∃ m q, a.queue l.sid l.ordered = m :: q ∧ m.fragment = true ∧ m.bBit = false := by
  obtain ⟨c, r, hrest⟩ := exists_cons_of_ne_nil hne
  have hon : l.restOn l.sid l.ordered = c :: r := by rw [restOn, if_pos ⟨rfl, rfl⟩, hrest]
  have hqueued := h.queued l.sid l.ordered
  rw [hon, cons_append] at hqueued
  obtain ⟨m, q, hq, hc, -⟩ := map_eq_cons_iff.mp hqueued
  obtain ⟨hf, hb, -⟩ := h.fragment_of_rest (hc ▸ hon)
  exact ⟨m, q, hq, hf, hb⟩

end

/-- A message is accepted at the end of its queue. -/
def send (l : Ledger) (m : SCTPDataMsg) : Ledger :=
  { l with
    waiting := fun s o => if s = m.sid ∧ o = m.ordered then l.waiting s o ++ [(m, [m.asSent])] else l.waiting s o }

theorem cut_single (h : ¬ m.fragment = true) : m.Cut [m.asSent] where
  carried := by
    rw [asSent_of_not_fragment h]
    exact Carries.last rfl rfl rfl
  same := by simp

theorem Of.send (h : l.Of a accepted out) {data : List (BitVec 8)} (hallowed : a.Allowed (.send sid ordered data))
    (hsend : a.process_SEND sid ordered data = .ok (m, a')) : (l.send m).Of a' (accepted ++ [m]) out := by
  unfold SCTPAssociation.process_SEND at hsend
  split at hsend
  · simp only [ok.injEq, Prod.mk.injEq] at hsend
    obtain ⟨hm, rfl⟩ := hsend
    have hf : ¬ m.fragment = true := by simp [← hm]
    have hsid : m.sid = sid := by rw [← hm]
    have hordered : m.ordered = ordered := by rw [← hm]
    have hnum : m.msgNum = a.msgNum + 1 := by rw [← hm]
    have hqueue : ∀ s o, (a.setQueue sid ordered (a.queue sid ordered ++ [m])).queue s o =
        if s = sid ∧ o = ordered then a.queue s o ++ [m] else a.queue s o := by
      intro s o
      rw [queue_setQueue]
      split
      · next hso => rw [hso.1, hso.2]
      · rfl
    rw [hm]
    constructor
    · exact h.sent
    · intro s o
      change map asSent ((a.setQueue sid ordered (a.queue sid ordered ++ [m])).queue s o) =
        l.restOn s o ++ ((l.send m).waiting s o).flatMap Prod.snd
      rw [hqueue]
      simp only [Ledger.send, hsid, hordered]
      split
      · simp [h.queued s o]
      · exact h.queued s o
    · exact h.carried
    · intro hne
      obtain ⟨hflag, hlast, hu⟩ := h.scheduled hne
      refine ⟨hflag, hlast, fun ho => ?_⟩
      change (a.setQueue sid ordered (a.queue sid ordered ++ [m])).queue l.sid false = []
      rw [hqueue]
      split
      · next hso =>
        -- the ordered queue of the stream starts with a fragment of the message in progress
        obtain ⟨m₀, q₀, hq₀, hf₀, hb₀⟩ := h.front_of_rest hne
        have ho' : l.ordered = true := ho
        have hhead : m₀ ∈ (a.sendStreams sid).streamQ.head? := by
          rw [ho', SCTPAssociation.queue, if_pos rfl, hso.1] at hq₀
          simp [hq₀]
        have := hallowed hso.2.symm m₀ hhead hf₀
        rw [hb₀] at this
        cases this
      · exact hu ho
    · intro x hx
      exact ⟨mem_append_left _ (h.begun_cut x hx).1, (h.begun_cut x hx).2⟩
    · intro s o x hx
      simp only [Ledger.send, hsid, hordered] at hx
      have hold : x ∈ l.waiting s o → x.1 ∈ accepted ++ [m] ∧ x.1.sid = s ∧ x.1.ordered = o ∧ x.1.Cut x.2 := by
        intro hx
        obtain ⟨hacc, hrest⟩ := h.waiting_cut s o x hx
        exact ⟨mem_append_left _ hacc, hrest⟩
      split at hx
      · next hso =>
        rcases mem_append.mp hx with hx | hx
        · exact hold hx
        · rw [mem_singleton] at hx
          subst hx
          exact ⟨by simp, hsid.trans hso.1.symm, hordered.trans hso.2.symm, cut_single hf⟩
      · exact hold hx
    · intro s o
      have hnew : m.msgNum ∉ (l.begun ++ l.waiting s o).map (·.1.msgNum) := by
        intro hmem
        obtain ⟨x, hx, hxm⟩ := mem_map.mp hmem
        have hacc : x.1 ∈ accepted := by
          rcases mem_append.mp hx with hx | hx
          · exact (h.begun_cut x hx).1
          · exact (h.waiting_cut s o x hx).1
        have := h.numbered x.1 hacc
        omega
      simp only [Ledger.send]
      split
      · rw [← append_assoc, map_append, map_singleton, nodup_append_comm, singleton_append,
          nodup_cons]
        exact ⟨hnew, h.distinct s o⟩
      · exact h.distinct s o
    · rw [map_append, map_singleton, nodup_append_comm, singleton_append, nodup_cons]
      refine ⟨fun hmem => ?_, h.numbers⟩
      obtain ⟨u, hu, hum⟩ := mem_map.mp hmem
      have := h.numbered u hu
      omega
    · intro u hu
      change u.msgNum ≤ a.msgNum + 1
      rcases mem_append.mp hu with hu | hu
      · have := h.numbered u hu
        omega
      · rw [mem_singleton] at hu
        rw [hu, hnum]
  · cases hsend

/-- The message in progress keeps its stream, whatever the scheduler says. -/
theorem Of.nextStream (h : l.Of a accepted out) {scheduled next : Option Nat} {recorded : Nat}
    (hnext : a.nextStream scheduled recorded = (next, a')) :
    l.Of a' accepted out ∧ (l.rest ≠ [] → next = some l.sid) := by
  unfold SCTPAssociation.nextStream at hnext
  split at hnext
  · cases hnext
    exact ⟨h, fun hne => congrArg some (h.scheduled hne).2.1⟩
  · next hflag =>
    cases hnext
    have hidle : ¬ l.rest ≠ [] := fun hne => hflag (h.scheduled hne).1
    exact ⟨h.congr (fun _ _ => rfl) rfl (fun hne => absurd hne hidle), fun hne => absurd hne hidle⟩

/-- The groups that wait in one queue are replaced. -/
def setWaiting (l : Ledger) (sid : Nat) (ordered : Bool) (gs : List (SCTPDataMsg × List SCTPDataMsg)) : Ledger :=
  { l with waiting := fun s o => if s = sid ∧ o = ordered then gs else l.waiting s o }

/-- The first message of the queue is cut into its fragments. -/
theorem Of.fragmentFront (h : l.Of a accepted out) (hq : a.queue sid ordered = m :: q) (hf : ¬ m.fragment = true)
    (hidle : l.rest = []) (hcut : a.fragmentFront sid ordered m q = .ok a') :
    ∃ l' : Ledger, l'.rest = [] ∧ l'.Of a' accepted out ∧ a'.lastStreamScheduled = a.lastStreamScheduled ∧
      ∃ m' q', a'.queue sid ordered = m' :: q' ∧ a'.queue sid false = if ordered then a.queue sid false else m' :: q' := by
  have hon : ∀ s o, l.restOn s o = [] := by
    intro s o
    unfold restOn
    split
    · exact hidle
    · rfl
  rcases h.front hq with ⟨r, hr, -⟩ | ⟨-, u, cs, ws, hw, hrest⟩
  · rw [hon] at hr
    cases hr
  · obtain ⟨hacc, hsid, hordered, hold⟩ := h.waiting_cut sid ordered (u, m.asSent :: cs) (by simp [hw])
    -- a message that is not a fragment is the only chunk of its group
    obtain ⟨rfl, hdata⟩ := hold.carried.tail_of_isLast (by rw [asSent_of_not_fragment hf])
    rw [asSent_data] at hdata
    have hsame := hold.same m.asSent (by simp)
    rw [asSent_msgNum, asSent_sid, asSent_ordered] at hsame
    unfold SCTPAssociation.fragmentFront at hcut
    dsimp only at hcut
    split at hcut
    · cases hcut
    · next hloop =>
      simp only [ok.injEq] at hcut
      generalize hfr : a.fragments m (a.assocPmtu - 48).toNat (m.data.length + 1) true m.data = fr at hcut
      have hcarried : Carried true m.data fr := by
        rw [← hfr]
        apply fragments_carries m (Nat.lt_succ_self _)
        intro hne
        exact Nat.pos_of_ne_zero fun hz => hloop ⟨hz, hne⟩
      have hfrSent : fr.map asSent = fr := by
        rw [← hfr]
        exact fragments_asSent m _ _ _ _
      have hnew : u.Cut fr := by
        constructor
        · rw [← hdata]
          exact hcarried
        · intro c hc
          obtain ⟨-, hnum, hcsid, hcordered⟩ := fragments_same m (hfr ▸ hc)
          exact ⟨hnum.trans hsame.1, hcsid.trans hsame.2.1, hcordered.trans hsame.2.2⟩
      have hqueue : ∀ s o, a'.queue s o = if s = sid ∧ o = ordered then fr ++ q else a.queue s o := by
        intro s o
        rw [← hcut]
        exact queue_setQueue s o
      refine ⟨l.setWaiting sid ordered ((u, fr) :: ws), hidle, ?_, by rw [← hcut]; rfl, ?_⟩
      · constructor
        · exact h.sent
        · intro s o
          rw [hqueue]
          change _ = l.restOn s o ++ ((l.setWaiting sid ordered ((u, fr) :: ws)).waiting s o).flatMap Prod.snd
          simp only [hon, nil_append, setWaiting]
          split
          · rw [map_append, hfrSent, hrest, nil_append, flatMap_cons]
          · rw [h.queued s o, hon, nil_append]
        · exact h.carried
        · exact fun hne => absurd hidle hne
        · exact h.begun_cut
        · intro s o x hx
          simp only [setWaiting] at hx
          split at hx
          · next hso =>
            rw [hso.1, hso.2]
            rcases mem_cons.mp hx with rfl | hx
            · exact ⟨hacc, hsid, hordered, hnew⟩
            · exact h.waiting_cut sid ordered x (by simp [hw, hx])
          · exact h.waiting_cut s o x hx
        · intro s o
          have hdistinct := h.distinct s o
          simp only [setWaiting]
          split
          · next hso =>
            rw [hso.1, hso.2, hw] at hdistinct
            simpa using hdistinct
          · exact hdistinct
        · exact h.numbers
        · intro v hv
          rw [← hcut]
          exact h.numbered v hv
      · obtain ⟨c, fr', rfl⟩ := exists_cons_of_ne_nil hcarried.ne_nil
        refine ⟨c, fr' ++ q, by simp [hqueue], ?_⟩
        rw [hqueue]
        cases ordered with
        | false => simp
        | true => simp

/-- A chunk that is not the last of its message is a fragment. -/
theorem fragment_of_eBit (h : m.asSent.eBit = false) : m.fragment = true := by
  by_cases hf : m.fragment = true
  · exact hf
  · rw [asSent_of_not_fragment hf] at h
    cases h

theorem unfinished {first : Bool} {data : List (BitVec 8)}
    (h : Carried first data (m.asSent :: r)) (hne : r ≠ []) : m.asSent.eBit = false ∧ ∃ d, Carried false d r := by
  cases he : m.asSent.eBit with
  | true => exact absurd (h.tail_of_isLast he).1 hne
  | false => exact ⟨rfl, h.tail_of_not_isLast he⟩

/-- What is left of the queue after its first chunk has been taken. -/
theorem queue_after (hu : ordered = true → a.queue sid false = []) :
    (∀ s o, (a.setQueue sid ordered q).queue s o = if s = sid ∧ o = ordered then q else a.queue s o) ∧
    (ordered = true → (a.setQueue sid ordered q).queue sid false = []) := by
  have hqueue : ∀ s o, (a.setQueue sid ordered q).queue s o = if s = sid ∧ o = ordered then q else a.queue s o :=
    fun s o => queue_setQueue s o
  constructor
  · exact hqueue
  · intro ho
    rw [hqueue, if_neg (by simp [ho])]
    exact hu ho

/-- The next fragment of the message in progress is sent. -/
theorem Of.popRest (h : l.Of a accepted out) (hu : ordered = true → a.queue sid false = [])
    (hlast : m.fragment = true → a.lastStreamScheduled = sid)
    (hr : l.restOn sid ordered = m.asSent :: r)
    (hrest : q.map asSent = r ++ (l.waiting sid ordered).flatMap Prod.snd) :
    Of { l with rest := r } { a.setQueue sid ordered q with lastMsgWasFragment := !m.asSent.eBit } accepted
      (out ++ [m.asSent]) := by
  obtain ⟨hqueue, hunordered⟩ := queue_after (q := q) hu
  obtain ⟨-, -, hsid, hordered, hlr⟩ := h.fragment_of_rest hr
  obtain ⟨data, hcarried⟩ := h.carried (by rw [hlr]; exact cons_ne_nil _ _)
  rw [hlr] at hcarried
  constructor
  · rw [← h.sent, hlr, append_assoc, singleton_append]
  · intro s o
    change map asSent ((a.setQueue sid ordered q).queue s o) =
      (if s = l.sid ∧ o = l.ordered then r else []) ++ (l.waiting s o).flatMap Prod.snd
    rw [hqueue, hsid, hordered]
    split
    · next hso => rw [hrest, hso.1, hso.2, hsid, hordered]
    · next hso => rw [h.queued s o, restOn, if_neg hso]
  · exact fun hne => (unfinished hcarried hne).2
  · intro hne
    have he := (unfinished hcarried hne).1
    refine ⟨by simp [he], (hlast (fragment_of_eBit he)).trans hsid, fun ho => ?_⟩
    rw [← hsid]
    exact hunordered (hordered.trans ho)
  · exact h.begun_cut
  · exact h.waiting_cut
  · exact h.distinct
  · exact h.numbers
  · exact h.numbered

/-- The first message that waits in the queue is begun. -/
def start (l : Ledger) (sid : Nat) (ordered : Bool) (u : SCTPDataMsg) (c : SCTPDataMsg) (cs : List SCTPDataMsg)
    (ws : List (SCTPDataMsg × List SCTPDataMsg)) : Ledger where
  begun := l.begun ++ [(u, c :: cs)]
  rest := cs
  sid := sid
  ordered := ordered
  waiting := (l.setWaiting sid ordered ws).waiting

section

variable (h : l.Of a accepted out)
include h

theorem Of.popWaiting (hu : ordered = true → a.queue sid false = []) (hidle : l.rest = [])
    (hlast : m.fragment = true → a.lastStreamScheduled = sid) {u : SCTPDataMsg} {cs : List SCTPDataMsg}
    {ws : List (SCTPDataMsg × List SCTPDataMsg)} (hw : l.waiting sid ordered = (u, m.asSent :: cs) :: ws)
    (hrest : q.map asSent = cs ++ ws.flatMap Prod.snd) :
    Of (l.start sid ordered u m.asSent cs ws) { a.setQueue sid ordered q with lastMsgWasFragment := !m.asSent.eBit }
      accepted (out ++ [m.asSent]) := by
  obtain ⟨hqueue, hunordered⟩ := queue_after (q := q) hu
  obtain ⟨hacc, husid, huordered, hcut⟩ := h.waiting_cut sid ordered (u, m.asSent :: cs) (by simp [hw])
  constructor
  · have hsent := h.sent
    rw [hidle, append_nil] at hsent
    rw [hsent]
    simp [start]
  · intro s o
    change map asSent ((a.setQueue sid ordered q).queue s o) = (if s = sid ∧ o = ordered then cs else []) ++
      (if s = sid ∧ o = ordered then ws else l.waiting s o).flatMap Prod.snd
    rw [hqueue]
    split
    · exact hrest
    · rw [h.queued s o, restOn, hidle]
      simp
  · exact fun hne => (unfinished hcut.carried hne).2
  · intro hne
    have he := (unfinished hcut.carried hne).1
    exact ⟨by simp [he], hlast (fragment_of_eBit he), hunordered⟩
  · intro x hx
    rcases mem_append.mp hx with hx | hx
    · exact h.begun_cut x hx
    · rw [mem_singleton] at hx
      rw [hx]
      exact ⟨hacc, hcut⟩
  · intro s o x hx
    simp only [start, setWaiting] at hx
    split at hx
    · next hso =>
      rw [hso.1, hso.2]
      exact h.waiting_cut sid ordered x (by simp [hw, hx])
    · exact h.waiting_cut s o x hx
  · intro s o
    simp only [start, setWaiting]
    split
    · have hdistinct := h.distinct sid ordered
      rw [hw] at hdistinct
      simpa using hdistinct
    · next hso =>
      -- the message is one of another queue
      have hother : ∀ x ∈ l.waiting s o, x.1.msgNum ≠ u.msgNum := by
        intro x hx he
        obtain ⟨hxacc, hxs, hxo, -⟩ := h.waiting_cut s o x hx
        have hxu : x.1 = u := inj_on_of_nodup_map h.numbers hxacc hacc he
        rw [hxu] at hxs hxo
        exact hso ⟨hxs.symm.trans husid, hxo.symm.trans huordered⟩
      have hdone := h.distinct sid ordered
      rw [hw, map_append, map_cons, nodup_middle, nodup_cons] at hdone
      have hothers := h.distinct s o
      rw [append_assoc, singleton_append, map_append, map_cons, nodup_middle, nodup_cons]
      refine ⟨?_, by simpa using hothers⟩
      rw [mem_append]
      rintro (hmem | hmem)
      · exact hdone.1 (mem_append_left _ hmem)
      · obtain ⟨x, hx, he⟩ := mem_map.mp hmem
        exact hother x hx he
  · exact h.numbers
  · exact h.numbered

/-- The first chunk of the queue is sent. -/
theorem Of.popFront (hq : a.queue sid ordered = m :: q)
    (hu : ordered = true → a.queue sid false = []) (hprogress : l.rest ≠ [] → sid = l.sid ∧ ordered = l.ordered)
    (hlast : m.fragment = true → a.lastStreamScheduled = sid) :
    ∃ l' : Ledger, l'.Of { a.setQueue sid ordered q with lastMsgWasFragment := !m.asSent.eBit } accepted
      (out ++ [m.asSent]) := by
  rcases h.front hq with ⟨r, hr, hrest⟩ | ⟨hr, u, cs, ws, hw, hrest⟩
  · exact ⟨_, h.popRest hu hlast hr hrest⟩
  · have hidle : l.rest = [] := by
      by_contra hne
      obtain ⟨hsid, hordered⟩ := hprogress hne
      rw [restOn, if_pos ⟨hsid, hordered⟩] at hr
      exact hne hr
    exact ⟨_, h.popWaiting hu hidle hlast hw hrest⟩

/-- The queue that is looked at for the message in progress is its own. -/
theorem Of.front_ordered (hne : l.rest ≠ []) (hq : a.queue l.sid ordered = m :: q)
    (hu : ordered = true → a.queue l.sid false = []) : ordered = l.ordered ∧ m.fragment = true := by
  obtain ⟨m₀, q₀, hq₀, hf₀, -⟩ := h.front_of_rest hne
  have hordered : ordered = l.ordered := by
    cases ho : l.ordered with
    | true =>
      cases ordered with
      | true => rfl
      | false =>
        rw [(h.scheduled hne).2.2 ho] at hq
        cases hq
    | false =>
      cases ordered with
      | false => rfl
      | true =>
        rw [ho, hu rfl] at hq₀
        cases hq₀
  rw [hordered, hq₀, cons.injEq] at hq
  exact ⟨hordered, hq.1 ▸ hf₀⟩

variable {availableSpace availableCwnd : Int}

theorem Of.popFront_result (hq : a.queue sid ordered = m :: q)
    (hu : ordered = true → a.queue sid false = []) (hprogress : l.rest ≠ [] → sid = l.sid ∧ ordered = l.ordered)
    (hlast : m.fragment = true → a.lastStreamScheduled = sid)
    {taken : Option SCTPDataMsg} (hpop : a.popFront sid ordered availableSpace availableCwnd = (taken, a')) :
    ∃ l' : Ledger, l'.Of a' accepted (out ++ taken.toList) := by
  rcases popFront_cases hq availableSpace availableCwnd with hp | hp
  · rw [hp] at hpop
    cases hpop
    exact ⟨l, by simpa using h⟩
  · rw [hp] at hpop
    cases hpop
    exact h.popFront hq hu hprogress hlast

theorem Of.dequeueOutboundDataMsg {scheduled : Option Nat} {recorded : Nat}
    (hallowed : a.Allowed (.transmit scheduled recorded availableSpace availableCwnd))
    {taken : Option SCTPDataMsg}
    (hdequeue : a.dequeueOutboundDataMsg scheduled recorded availableSpace availableCwnd = .ok (taken, a')) :
    ∃ l' : Ledger, l'.Of a' accepted (out ++ taken.toList) := by
  unfold SCTPAssociation.dequeueOutboundDataMsg at hdequeue
  have hkeeps : ∀ sid ∈ (a.nextStream scheduled recorded).1,
      (a.nextStream scheduled recorded).2.KeepsFragments sid := hallowed
  cases hnext : a.nextStream scheduled recorded with
  | mk next a₁ =>
    rw [hnext] at hdequeue hkeeps
    obtain ⟨h₁, hown⟩ := h.nextStream hnext
    cases next with
    | none =>
      cases hdequeue
      exact ⟨l, by simpa using h₁⟩
    | some sid =>
      cases hfront : a₁.front sid with
      | none =>
        simp only [hfront] at hdequeue
        cases hdequeue
        exact ⟨l, by simpa using h₁⟩
      | some x =>
        obtain ⟨ordered, m, q⟩ := x
        obtain ⟨hagain, hlast⟩ := hkeeps sid rfl (ordered, m, q) hfront
        obtain ⟨hq, hu⟩ := front_eq_some hfront
        have hprogress : l.rest ≠ [] → (sid = l.sid ∧ ordered = l.ordered) ∧ m.fragment = true := by
          intro hne
          have hsid : sid = l.sid := Option.some.inj (hown hne)
          rw [hsid] at hq hu
          obtain ⟨hordered, hf⟩ := h₁.front_ordered hne hq hu
          exact ⟨⟨hsid, hordered⟩, hf⟩
        simp only [hfront] at hdequeue
        split at hdequeue
        · next hlong =>
          have hf : ¬ m.fragment = true := fun hf => hagain hf hlong
          have hidle : l.rest = [] := by
            by_contra hne
            exact hf (hprogress hne).2
          cases hcut : a₁.fragmentFront sid ordered m q with
          | error e => simp only [hcut] at hdequeue; cases hdequeue
          | ok a₂ =>
            simp only [hcut, ok.injEq] at hdequeue
            obtain ⟨l₂, hidle₂, h₂, hlast₂, m', q', hq₂, hu₂⟩ := h₁.fragmentFront hq hf hidle hcut
            refine h₂.popFront_result hq₂ ?_ (fun hne => absurd hidle₂ hne) ?_ hdequeue
            · intro ho
              rw [hu₂, if_pos ho]
              exact hu ho
            · exact fun _ => hlast₂.trans (hlast (Or.inr hlong))
        · simp only [ok.injEq] at hdequeue
          exact h₁.popFront_result hq hu (fun hne => (hprogress hne).1) (fun hf => hlast (Or.inl hf)) hdequeue

end

end Ledger

end Inet.Sctp
