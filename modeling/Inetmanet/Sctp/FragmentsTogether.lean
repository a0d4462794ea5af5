import Inetmanet.Sctp.SendLedger

/-!
# Fragments stay together

The ledger says which chunks belong together, the numbers of the chunks follow the
order in which they are sent.
-/
namespace Inet.Sctp

open Pieces SCTPDataMsg List Option Except SCTPAssociation Prod

variable {availableSpace availableCwnd : Int} {recorded sid i : Nat}

namespace SCTPAssociation

variable {a a' : SCTPAssociation}

/-- The next numbers are still the same. -/
structure SameNumbers (a a' : SCTPAssociation) : Prop where
  tsn : a'.nextTSN = a.nextTSN
  ssn : ∀ s, (a'.sendStreams s).nextStreamSeqNum = (a.sendStreams s).nextStreamSeqNum

theorem SameNumbers.refl (a : SCTPAssociation) : a.SameNumbers a := ⟨rfl, fun _ => rfl⟩

theorem SameNumbers.trans {a'' : SCTPAssociation} (h : a.SameNumbers a') (h' : a'.SameNumbers a'') : a.SameNumbers a'' :=
  ⟨h'.tsn.trans h.tsn, fun s => (h'.ssn s).trans (h.ssn s)⟩

theorem nextStream_sameNumbers (scheduled : Option Nat) (recorded : Nat) :
    a.SameNumbers (a.nextStream scheduled recorded).2 := by
  unfold nextStream
  split <;> exact ⟨rfl, fun _ => rfl⟩

theorem fragmentFront_sameNumbers {ordered : Bool} {m : SCTPDataMsg} {q : List SCTPDataMsg}
    (h : a.fragmentFront sid ordered m q = .ok a') : a.SameNumbers a' := by
  unfold fragmentFront at h
  dsimp only at h
  split at h
  · cases h
  · cases h
    exact ⟨rfl, fun s => setQueue_nextStreamSeqNum s⟩

theorem popFront_sameNumbers (sid : Nat) (ordered : Bool) (availableSpace availableCwnd : Int) :
    a.SameNumbers (a.popFront sid ordered availableSpace availableCwnd).2 := by
  cases hq : a.queue sid ordered with
  | nil =>
    unfold popFront
    rw [hq]
    exact SameNumbers.refl a
  | cons m q =>
    rcases popFront_cases hq availableSpace availableCwnd with h | h
    · rw [h]
      exact SameNumbers.refl a
    · rw [h]
      exact ⟨rfl, fun s => setQueue_nextStreamSeqNum s⟩

theorem dequeueOutboundDataMsg_sameNumbers {scheduled : Option Nat}
    {taken : Option SCTPDataMsg}
    (h : a.dequeueOutboundDataMsg scheduled recorded availableSpace availableCwnd = .ok (taken, a')) :
    a.SameNumbers a' := by
  have hfirst := nextStream_sameNumbers (a := a) scheduled recorded
  unfold dequeueOutboundDataMsg at h
  cases hnext : a.nextStream scheduled recorded with
  | mk next a₁ =>
    rw [hnext] at h hfirst
    cases next with
    | none =>
      cases h
      exact hfirst
    | some sid =>
      cases hfront : a₁.front sid with
      | none =>
        simp only [hfront] at h
        cases h
        exact hfirst
      | some x =>
        obtain ⟨ordered, m, q⟩ := x
        simp only [hfront] at h
        split at h
        · cases hcut : a₁.fragmentFront sid ordered m q with
          | error e => simp only [hcut] at h; cases h
          | ok a₂ =>
            simp only [hcut, ok.injEq] at h
            have hlast := popFront_sameNumbers (a := a₂) sid ordered availableSpace availableCwnd
            rw [h] at hlast
            exact (hfirst.trans (fragmentFront_sameNumbers hcut)).trans hlast
        · simp only [ok.injEq] at h
          have hlast := popFront_sameNumbers (a := a₁) sid ordered availableSpace availableCwnd
          rw [h] at hlast
          exact hfirst.trans hlast

end SCTPAssociation

/-- The variables of a chunk are those of the message it was made from. -/
structure SCTPDataVariables.CopyOf (v : SCTPDataVariables) (m : SCTPDataMsg) : Prop where
  sid : v.sid = m.sid
  ordered : v.ordered = m.ordered
  bbit : v.bbit = m.bBit
  ebit : v.ebit = m.eBit
  userData : v.userData = m.data

namespace SCTPAssociation

variable (a : SCTPAssociation) (m : SCTPDataMsg)

theorem makeDataVarFromDataMsg_copy : (a.makeDataVarFromDataMsg m).1.CopyOf m := by
  unfold makeDataVarFromDataMsg
  split <;> exact ⟨rfl, rfl, rfl, rfl, rfl⟩

theorem makeDataVarFromDataMsg_ssn : (a.makeDataVarFromDataMsg m).1.ssn =
    if m.ordered then (a.sendStreams m.sid).nextStreamSeqNum else 0 := by
  unfold makeDataVarFromDataMsg
  split <;> rfl

/-- The stream sequence number goes on behind the last chunk of an ordered message. -/
theorem makeDataVarFromDataMsg_nextStreamSeqNum (h : ∀ s, (a.sendStreams s).nextStreamSeqNum < 65536) (s : Nat) :
    ((a.makeDataVarFromDataMsg m).2.sendStreams s).nextStreamSeqNum =
      if m.ordered ∧ m.eBit ∧ s = m.sid then ((a.sendStreams s).nextStreamSeqNum + 1) % 65536
      else (a.sendStreams s).nextStreamSeqNum := by
  have hs := h s
  unfold makeDataVarFromDataMsg setNextStreamSeqNum
  by_cases ho : m.ordered = true
  · by_cases hsid : s = m.sid
    · subst hsid
      cases he : m.eBit with
      | true =>
        simp only [ho, if_true, true_and]
        split <;> omega
      | false =>
        simp only [ho, if_true, Bool.false_eq_true, if_false, false_and, and_false]
        exact if_neg (by omega)
    · simp [ho, hsid]
  · simp [ho]

end SCTPAssociation

namespace Outbound

/-- The numbers of the chunks follow the order in which they have been sent. -/
structure Numbered (h : Outbound) : Prop where
  copied : ∀ e ∈ h.sent, e.2.CopyOf e.1
  tsn : h.sent.IsChain fun e f => f.2.tsn = e.2.tsn + 1
  next : ∀ e ∈ h.sent.getLast?, h.assoc.nextTSN = e.2.tsn + 1
  ssn : ∀ (i : Nat) (e : SCTPDataMsg × SCTPDataVariables), h.sent[i]? = some e →
    e.2.ssn = if e.2.ordered then completed e.2.sid (h.sent.take i) % 65536 else 0
  nextSsn : ∀ s, (h.assoc.sendStreams s).nextStreamSeqNum = completed s h.sent % 65536

/-- The invariant of the runs. -/
def Inv (h : Outbound) : Prop := h.Numbered ∧ ∃ l : Ledger, l.Of h.assoc h.accepted (h.sent.map Prod.fst)

variable {h h' : Outbound}

theorem Numbered.congr (hn : h.Numbered) (hsent : h'.sent = h.sent) (hsame : h.assoc.SameNumbers h'.assoc) : h'.Numbered where
  copied := by rw [hsent]; exact hn.copied
  tsn := by rw [hsent]; exact hn.tsn
  next := by rw [hsent, hsame.tsn]; exact hn.next
  ssn := by rw [hsent]; exact hn.ssn
  nextSsn s := by rw [hsame.ssn, hsent, hn.nextSsn]

/-- A further chunk is sent, with the next TSN. -/
theorem Numbered.snoc (hn : h.Numbered) {a : SCTPAssociation} (hsame : h.assoc.SameNumbers a) (m : SCTPDataMsg) :
    Numbered { h with
      assoc := { (a.makeDataVarFromDataMsg m).2 with nextTSN := (a.makeDataVarFromDataMsg m).2.nextTSN + 1 }
      sent := h.sent ++ [(m, { (a.makeDataVarFromDataMsg m).1 with tsn := (a.makeDataVarFromDataMsg m).2.nextTSN })] } := by
  have hcopy := a.makeDataVarFromDataMsg_copy m
  have htsn : (a.makeDataVarFromDataMsg m).2.nextTSN = h.assoc.nextTSN := by
    rw [← hsame.tsn]
    unfold makeDataVarFromDataMsg
    split <;> rfl
  have hnextSsn : ∀ s, (a.sendStreams s).nextStreamSeqNum = completed s h.sent % 65536 :=
    fun s => (hsame.ssn s).trans (hn.nextSsn s)
  constructor
  · intro e he
    rcases mem_append.mp he with he | he
    · exact hn.copied e he
    · rw [mem_singleton] at he
      subst he
      exact ⟨hcopy.sid, hcopy.ordered, hcopy.bbit, hcopy.ebit, hcopy.userData⟩
  · rw [isChain_append]
    refine ⟨hn.tsn, isChain_singleton _, ?_⟩
    intro e he f hf
    simp only [List.head?_cons, Option.mem_def, some.injEq] at hf
    rw [← hf]
    exact htsn.trans (hn.next e he)
  · intro e he
    rw [List.getLast?_append, List.getLast?_singleton, some_or, Option.mem_def, some.injEq] at he
    rw [← he]
  · intro i e he
    rcases Nat.lt_trichotomy i h.sent.length with hi | hi | hi
    · rw [List.getElem?_append_left hi] at he
      rw [take_append_of_le_length (Nat.le_of_lt hi)]
      exact hn.ssn i e he
    · subst hi
      rw [List.getElem?_append_right (Nat.le_refl _), Nat.sub_self, List.getElem?_cons_zero, some.injEq] at he
      subst he
      rw [take_left]
      have hssn := a.makeDataVarFromDataMsg_ssn m
      rw [hnextSsn] at hssn
      rw [hssn, hcopy.ordered, hcopy.sid]
    · rw [List.getElem?_eq_none (by simp; omega)] at he
      cases he
  · intro s
    have hnext := a.makeDataVarFromDataMsg_nextStreamSeqNum m
      (fun s => by rw [hnextSsn]; exact Nat.mod_lt _ (by decide)) s
    rw [hnext, hnextSsn]
    simp only [completed, countP_append, countP_singleton]
    rw [show ({ (a.makeDataVarFromDataMsg m).1 with tsn := (a.makeDataVarFromDataMsg m).2.nextTSN } :
      SCTPDataVariables).ordered = m.ordered from hcopy.ordered,
      show ({ (a.makeDataVarFromDataMsg m).1 with tsn := (a.makeDataVarFromDataMsg m).2.nextTSN } :
      SCTPDataVariables).ebit = m.eBit from hcopy.ebit,
      show ({ (a.makeDataVarFromDataMsg m).1 with tsn := (a.makeDataVarFromDataMsg m).2.nextTSN } :
      SCTPDataVariables).sid = m.sid from hcopy.sid]
    by_cases hc : m.ordered = true ∧ m.eBit = true ∧ s = m.sid
    · rw [if_pos hc, hc.1, hc.2.1, hc.2.2]
      simp
    · have hc' : (m.ordered && m.eBit && m.sid == s) = false := by
        rw [← Bool.not_eq_true]
        intro hb
        simp only [Bool.and_eq_true, beq_iff_eq] at hb
        exact hc ⟨hb.1.1, hb.1.2, hb.2.symm⟩
      rw [if_neg hc, hc']
      simp

/-- An association that has been set up, before its first message. -/
def initial (outboundStreams : Nat) (assocPmtu : BitVec 32) (padding : Bool) (header : Nat) (nextTSN : Tsn) : Outbound where
  assoc := { outboundStreams, assocPmtu, padding, header, nextTSN }

theorem initial_inv (outboundStreams : Nat) (assocPmtu : BitVec 32) (padding : Bool) (header : Nat) (nextTSN : Tsn) :
    (initial outboundStreams assocPmtu padding header nextTSN).Inv := by
  constructor
  · constructor
    · simp [initial]
    · exact isChain_nil
    · simp [initial]
    · simp [initial]
    · intro s
      rfl
  · refine ⟨{}, Ledger.initial _ fun s o => ?_⟩
    unfold queue initial
    split <;> rfl

theorem Inv.send (hinv : h.Inv) {ordered : Bool} {data : List (BitVec 8)} {m : SCTPDataMsg}
    {a : SCTPAssociation} (hallowed : h.assoc.Allowed (.send sid ordered data))
    (hsend : h.assoc.process_SEND sid ordered data = .ok (m, a)) :
    Inv { h with assoc := a, accepted := h.accepted ++ [m] } := by
  obtain ⟨hn, l, hl⟩ := hinv
  have hsame : h.assoc.SameNumbers a := by
    unfold process_SEND at hsend
    split at hsend
    · simp only [ok.injEq, Prod.mk.injEq] at hsend
      rw [← hsend.2]
      exact ⟨rfl, fun s => setQueue_nextStreamSeqNum s⟩
    · cases hsend
  exact ⟨hn.congr rfl hsame, _, hl.send hallowed hsend⟩

theorem Inv.transmit (hinv : h.Inv) {scheduled : Option Nat}
    (hallowed : h.assoc.Allowed (.transmit scheduled recorded availableSpace availableCwnd))
    (hstep : h.step (.transmit scheduled recorded availableSpace availableCwnd) = .ok h') : h'.Inv := by
  obtain ⟨hn, l, hl⟩ := hinv
  unfold step sendChunk at hstep
  cases hdequeue : h.assoc.dequeueOutboundDataMsg scheduled recorded availableSpace availableCwnd with
  | error e =>
    simp only [hdequeue] at hstep
    cases hstep
  | ok res =>
    obtain ⟨taken, a⟩ := res
    obtain ⟨l', hl'⟩ := hl.dequeueOutboundDataMsg hallowed hdequeue
    have hsame := dequeueOutboundDataMsg_sameNumbers hdequeue
    cases taken with
    | none =>
      simp only [hdequeue, ok.injEq] at hstep
      subst hstep
      exact ⟨hn.congr rfl hsame, l', by simpa using hl'⟩
    | some m =>
      simp only [hdequeue, ok.injEq] at hstep
      subst hstep
      refine ⟨hn.snoc hsame m, l', ?_⟩
      rw [map_append, map_singleton]
      have hqueue : ∀ s o, (a.makeDataVarFromDataMsg m).2.queue s o = a.queue s o := by
        intro s o
        unfold makeDataVarFromDataMsg
        split
        · exact queue_setNextStreamSeqNum _ _ _
        · rfl
      have hrest : (a.makeDataVarFromDataMsg m).2.msgNum = a.msgNum ∧
          (a.makeDataVarFromDataMsg m).2.lastMsgWasFragment = a.lastMsgWasFragment ∧
          (a.makeDataVarFromDataMsg m).2.lastStreamScheduled = a.lastStreamScheduled := by
        unfold makeDataVarFromDataMsg
        split <;> exact ⟨rfl, rfl, rfl⟩
      refine hl'.congr hqueue hrest.1 fun hne => ?_
      exact ⟨hrest.2.1.trans (hl'.scheduled hne).1, hrest.2.2⟩

theorem Inv.step (hinv : h.Inv) {e : SendEvent} (hallowed : h.assoc.Allowed e) (hstep : h.step e = .ok h') : h'.Inv := by
  cases e with
  | send sid ordered data =>
    unfold Outbound.step at hstep
    cases hsend : h.assoc.process_SEND sid ordered data with
    | error e =>
      simp only [hsend] at hstep
      cases hstep
    | ok res =>
      simp only [hsend, ok.injEq] at hstep
      subst hstep
      exact hinv.send hallowed hsend
  | transmit scheduled recorded availableSpace availableCwnd => exact hinv.transmit hallowed hstep

/-- The entries of a message. -/
def entriesOf (h : Outbound) (u : SCTPDataMsg) : List (SCTPDataMsg × SCTPDataVariables) :=
  h.sent.filter fun e => e.1.msgNum = u.msgNum

variable {l : Ledger} {u : SCTPDataMsg}

section

variable (hl : l.Of h.assoc h.accepted (h.sent.map Prod.fst))
include hl

theorem grouped :
    Grouped SCTPDataMsg.msgNum SCTPDataMsg.msgNum l.begun ∧ h.sent.map fst <+: l.begun.flatMap snd := by
  constructor
  · constructor
    · have hdistinct := hl.distinct 0 false
      rw [map_append] at hdistinct
      exact (nodup_append.mp hdistinct).1
    · intro x hx c hc
      exact ((hl.begun_cut x hx).2.same c hc).1
  · exact ⟨l.rest, hl.sent⟩

theorem entriesOf_contiguous : h.entriesOf u <:+: h.sent :=
  (grouped hl).1.filter_contiguous (grouped hl).2

theorem accepted_of_sent {e : SCTPDataMsg × SCTPDataVariables}
    (he : e ∈ h.sent) : ∃ x ∈ l.begun, x.1 ∈ h.accepted ∧ x.1.msgNum = e.1.msgNum := by
  have hmem : e.1 ∈ l.begun.flatMap snd := (grouped hl).2.subset (mem_map_of_mem he)
  obtain ⟨x, hx, hex⟩ := mem_flatMap.mp hmem
  exact ⟨x, hx, (hl.begun_cut x hx).1, (((hl.begun_cut x hx).2.same e.1 hex).1).symm⟩

/-- What has been sent of a message is the beginning of its chunks. -/
theorem entriesOf_first (hu : u ∈ h.accepted)
    (hne : h.entriesOf u ≠ []) : ∃ cs, u.Cut cs ∧ (h.entriesOf u).map fst <+: cs := by
  obtain ⟨e, es, he⟩ := exists_cons_of_ne_nil hne
  have hmem : e ∈ h.entriesOf u := by rw [he]; exact mem_cons_self
  have hsent := mem_filter.mp hmem
  obtain ⟨x, hx, hxacc, hxnum⟩ := accepted_of_sent hl hsent.1
  have hxu : x.1 = u := inj_on_of_nodup_map hl.numbers hxacc hu (hxnum.trans (by simpa using hsent.2))
  refine ⟨x.2, hxu ▸ (hl.begun_cut x hx).2, ?_⟩
  have hpre := (grouped hl).1.filter_first (grouped hl).2 hx
  rw [hxu] at hpre
  exact hpre

end

variable {cs : List SCTPDataMsg}

/-- A chunk of a message and the message it was made from. -/
theorem chunk_of (hn : h.Numbered) (hpre : (h.entriesOf u).map fst <+: cs)
    {c : SCTPDataVariables} (hc : (h.chunksOf u)[i]? = some c) :
    ∃ m, cs[i]? = some m ∧ c.CopyOf m ∧ (m, c) ∈ h.entriesOf u := by
  unfold chunksOf at hc
  rw [List.getElem?_map, map_eq_some_iff] at hc
  obtain ⟨e, he, rfl⟩ := hc
  have hmem : e ∈ h.entriesOf u := mem_of_getElem? he
  refine ⟨e.1, ?_, hn.copied e (mem_filter.mp hmem).1, hmem⟩
  obtain ⟨t, rfl⟩ := hpre
  have hlt : i < ((h.entriesOf u).map fst).length := by
    rw [length_map]
    exact (List.getElem?_eq_some_iff.mp he).1
  rw [List.getElem?_append_left hlt, List.getElem?_map]
  exact congrArg (Option.map fst) he

/-- The payload sent so far is that of the first chunks. -/
theorem payload_take (hn : h.Numbered) (hpre : (h.entriesOf u).map fst <+: cs) {n : Nat}
    (hle : n ≤ (h.chunksOf u).length) : payload ((h.chunksOf u).take n) = (cs.take n).flatMap SCTPDataMsg.data := by
  have hlength : (h.chunksOf u).length = ((h.entriesOf u).map fst).length := by
    rw [length_map]
    exact length_map _
  have hdata : ∀ e ∈ (h.entriesOf u).take n, e.2.userData = e.1.data := by
    intro e he
    exact (hn.copied e (mem_filter.mp (mem_of_mem_take he)).1).userData
  obtain ⟨t, rfl⟩ := hpre
  calc payload ((h.chunksOf u).take n) = ((h.entriesOf u).take n).flatMap fun e => e.2.userData := by
        rw [payload, chunksOf, ← map_take, flatMap_map]
        rfl
    _ = ((h.entriesOf u).take n).flatMap fun e => e.1.data := by
        rw [flatMap_def, map_congr_left hdata, ← flatMap_def]
    _ = (((h.entriesOf u).map fst ++ t).take n).flatMap SCTPDataMsg.data := by
        rw [take_append_of_le_length (hlength ▸ hle), ← map_take, flatMap_map]

theorem message_cases (hl : l.Of h.assoc h.accepted (h.sent.map fst)) (hu : u ∈ h.accepted) :
    h.chunksOf u = [] ∨ ∃ cs, u.Cut cs ∧ (h.entriesOf u).map fst <+: cs := by
  by_cases hne : h.entriesOf u = []
  · left
    change (h.entriesOf u).map snd = []
    rw [hne]
    rfl
  · exact .inr (entriesOf_first hl hu hne)

/-- The chunks of an ordered message have the number of messages completed before it. -/
theorem ssn_of_entry (hn : h.Numbered) (hcut : u.Cut cs)
    (hpre : (h.entriesOf u).map fst <+: cs) {before after : List (SCTPDataMsg × SCTPDataVariables)}
    (hsent : before ++ h.entriesOf u ++ after = h.sent) {c : SCTPDataVariables}
    (hc : (h.chunksOf u)[i]? = some c) :
    c.ssn = if u.ordered then completed u.sid before % 65536 else 0 := by
  have hentry : ∃ e, (h.entriesOf u)[i]? = some e ∧ e.2 = c := by
    unfold chunksOf at hc
    rwa [List.getElem?_map, map_eq_some_iff] at hc
  obtain ⟨e, he, rfl⟩ := hentry
  have hi : i < (h.entriesOf u).length := (List.getElem?_eq_some_iff.mp he).1
  obtain ⟨m, hm, hcopy, -⟩ := chunk_of hn hpre hc
  obtain ⟨-, hsid, hordered⟩ := hcut.same m (mem_of_getElem? hm)
  have hpos : h.sent[before.length + i]? = some e := by
    rw [← hsent, append_assoc, List.getElem?_append_right (Nat.le_add_right _ _), Nat.add_sub_cancel_left,
      List.getElem?_append_left hi]
    exact he
  have hssn := hn.ssn _ e hpos
  -- the chunks of the message that come before this one do not end it
  have hopen : completed u.sid ((h.entriesOf u).take i) = 0 := by
    unfold completed
    rw [countP_eq_zero]
    intro f hf
    obtain ⟨j, hj⟩ := mem_iff_getElem?.mp hf
    have hji : j < i := by
      have := (List.getElem?_eq_some_iff.mp hj).1
      rw [length_take] at this
      omega
    rw [List.getElem?_take_of_lt hji] at hj
    have hjc : (h.chunksOf u)[j]? = some f.2 := by
      unfold chunksOf
      rw [List.getElem?_map]
      exact congrArg (Option.map snd) hj
    obtain ⟨m', hm', hcopy', -⟩ := chunk_of hn hpre hjc
    have hlength : i < cs.length := by
      have := hpre.length_le
      rw [length_map] at this
      omega
    have hlast : ¬ m'.eBit = true := by
      intro he'
      have := (hcut.carried.isLast_iff hm').mp he'
      omega
    have hebit : f.2.ebit = false := by rw [hcopy'.ebit, Bool.eq_false_iff]; exact hlast
    simp [hebit]
  rw [hssn, hcopy.ordered, hcopy.sid, hordered, hsid, ← hsent, append_assoc, take_length_add_append,
    take_append_of_le_length (Nat.le_of_lt hi)]
  have hsum : completed u.sid (before ++ (h.entriesOf u).take i) = completed u.sid before := by
    unfold completed at hopen ⊢
    rw [countP_append, hopen, Nat.add_zero]
  rw [hsum]

/-- What the ledger and the numbers say about the chunks of a message. -/
theorem Inv.fragmentsTogether (hinv : h.Inv) : h.FragmentsTogether := by
  obtain ⟨hn, l, hl⟩ := hinv
  constructor
  · exact hl.numbers
  · intro e he
    obtain ⟨x, -, hacc, hnum⟩ := accepted_of_sent hl he
    exact ⟨x.1, hacc, hnum⟩
  · intro u hu
    have hchain : (h.entriesOf u).IsChain fun e f => f.2.tsn = e.2.tsn + 1 := hn.tsn.infix (entriesOf_contiguous hl)
    change List.IsChain _ ((h.entriesOf u).map snd)
    rw [isChain_map]
    exact hchain
  · intro u hu i c hc
    rcases message_cases hl hu with hnil | ⟨cs, hcut, hpre⟩
    · rw [hnil] at hc
      cases hc
    · obtain ⟨m, hm, hcopy, -⟩ := chunk_of hn hpre hc
      rw [hcopy.bbit, hcut.carried.isFirst_iff hm]
      simp
  · intro u hu i c hc
    rcases message_cases hl hu with hnil | ⟨cs, hcut, hpre⟩
    · rw [hnil] at hc
      cases hc
    · obtain ⟨m, hm, hcopy, -⟩ := chunk_of hn hpre hc
      have hlt := (List.getElem?_eq_some_iff.mp hc).1
      rw [hcopy.ebit, payload_take hn hpre hlt]
      exact (hcut.carried.payload_take_iff hm).symm
  · intro u hu i c hc he
    rcases message_cases hl hu with hnil | ⟨cs, hcut, hpre⟩
    · rw [hnil] at hc
      cases hc
    · obtain ⟨m, hm, hcopy, -⟩ := chunk_of hn hpre hc
      have hlast := (hcut.carried.isLast_iff hm).mp (hcopy.ebit ▸ he)
      have hlt := (List.getElem?_eq_some_iff.mp hc).1
      have hle := hpre.length_le
      have hlength : (h.chunksOf u).length = (h.entriesOf u).length := length_map _
      rw [length_map] at hle
      omega
  · intro u hu
    rcases message_cases hl hu with hnil | ⟨cs, hcut, hpre⟩
    · rw [hnil]
      exact nil_prefix
    · have hall := payload_take hn hpre (Nat.le_refl _)
      rw [take_length] at hall
      rw [hall, ← hcut.carried.flatMap]
      exact (List.take_prefix _ cs).flatMap _
  · intro u hu c hc
    obtain ⟨i, hi⟩ := mem_iff_getElem?.mp hc
    rcases message_cases hl hu with hnil | ⟨cs, hcut, hpre⟩
    · rw [hnil] at hi
      cases hi
    · obtain ⟨m, hm, hcopy, -⟩ := chunk_of hn hpre hi
      obtain ⟨-, hsid, hordered⟩ := hcut.same m (mem_of_getElem? hm)
      exact ⟨hcopy.sid.trans hsid, hcopy.ordered.trans hordered⟩
  · intro u hu c hc d hd
    obtain ⟨i, hi⟩ := mem_iff_getElem?.mp hc
    obtain ⟨j, hj⟩ := mem_iff_getElem?.mp hd
    rcases message_cases hl hu with hnil | ⟨cs, hcut, hpre⟩
    · rw [hnil] at hi
      cases hi
    · obtain ⟨before, after, hsent⟩ := entriesOf_contiguous (u := u) hl
      rw [ssn_of_entry hn hcut hpre hsent hi, ssn_of_entry hn hcut hpre hsent hj]
  · intro i e he hordered
    rw [hn.ssn i e he, if_pos hordered]

/-- **Fragments stay together.** Whatever the application sends and the scheduler says, while no step separates the
fragments of a message. -/
theorem fragments_stay_together (outboundStreams : Nat) (assocPmtu : BitVec 32) (padding : Bool) (header : Nat)
    (nextTSN : Tsn) (es : List SendEvent)
    (hallowed : Runs.EveryStep step (fun h e => h.assoc.Allowed e)
      (initial outboundStreams assocPmtu padding header nextTSN) es) :
    Runs.EveryState step FragmentsTogether (initial outboundStreams assocPmtu padding header nextTSN) es := by
  have hinv : Runs.EveryState step Inv (initial outboundStreams assocPmtu padding header nextTSN) es :=
    hallowed.everyState (fun h e h' hi ha hs => hi.step ha hs)
      (initial_inv outboundStreams assocPmtu padding header nextTSN)
  intro es₁ h₁ hpre hrun
  exact (hinv es₁ h₁ hpre hrun).fragmentsTogether

/-- An ordered message of three fragments, with messages of another stream and of the unordered queue behind it. -/
def threeFragments : List SendEvent :=
  [.send 0 true [1, 2, 3, 4, 5, 6, 7, 8, 9], .send 1 false [10], .transmit (some 0) 0 1000 1000, .send 1 true [11],
    .transmit none 0 1000 1000, .transmit none 0 1000 1000, .transmit (some 1) 1 1000 1000]

theorem three_fragments_stay_together :
    Runs.EveryState step FragmentsTogether (initial 2 52 false 0 (2 ^ 32 - 2)) threeFragments :=
  fragments_stay_together 2 52 false 0 (2 ^ 32 - 2) threeFragments
    (.cons (by decide) rfl (.cons (by decide) rfl (.cons (by decide) rfl (.cons (by decide) rfl
      (.cons (by decide) rfl (.cons (by decide) rfl (.cons (by decide) rfl Runs.everyStep_nil)))))))

/-- An unordered message is sent between two fragments of an ordered one. -/
theorem unordered_between_fragments :
    ¬ Runs.EveryState step FragmentsTogether (initial 1 52 false 0 0) [.send 0 true [1, 2, 3, 4, 5],
      .transmit (some 0) 0 1000 1000, .send 0 false [6], .transmit (some 0) 0 1000 1000,
      .transmit (some 0) 0 1000 1000] := by
  intro h
  have hlast := h _ _ (prefix_refl _) rfl
  have htsn := hlast.tsn { sid := 0, ordered := true, msgNum := 1, data := [1, 2, 3, 4, 5], booksize := 5 } (by decide)
  exact absurd htsn (by decide)

end Outbound

end Inet.Sctp
