import Inetmanet.Lib.Pieces
import Inetmanet.Sctp.OutboundData

/-!
# Runs of the sending side

A run of an association's sending side remembers the messages it has accepted and the
chunks it has given a TSN. What the application sends and what the stream scheduler
returns is arbitrary.
-/
namespace Inet.Sctp

open Pieces List

inductive SendEvent where
  | send (sid : Nat) (ordered : Bool) (data : List (BitVec 8))
  | transmit (scheduled : Option Nat) (recorded : Nat) (availableSpace availableCwnd : Int)

/-- An association with what it has accepted and sent. -/
structure Outbound where
  assoc : SCTPAssociation
  accepted : List SCTPDataMsg := []
  sent : List (SCTPDataMsg × SCTPDataVariables) := []

namespace Outbound

def step (h : Outbound) : SendEvent → Sim Outbound
  | .send sid ordered data =>
    match h.assoc.process_SEND sid ordered data with
    | .error e => .error e
    | .ok (m, a) => .ok { h with assoc := a, accepted := h.accepted ++ [m] }
  | .transmit scheduled recorded availableSpace availableCwnd =>
    match h.assoc.sendChunk scheduled recorded availableSpace availableCwnd with
    | .error e => .error e
    | .ok (none, a) => .ok { h with assoc := a }
    | .ok (some c, a) => .ok { h with assoc := a, sent := h.sent ++ [c] }

/-- The chunks sent so far for a message. -/
def chunksOf (h : Outbound) (u : SCTPDataMsg) : List SCTPDataVariables :=
  (h.sent.filter fun e => e.1.msgNum = u.msgNum).map Prod.snd

def payload (cs : List SCTPDataVariables) : List (BitVec 8) := cs.flatMap (·.userData)

/-- The number of ordered messages of a stream that have been sent to their end. -/
def completed (sid : Nat) (sent : List (SCTPDataMsg × SCTPDataVariables)) : Nat :=
  sent.countP fun e => e.2.ordered && e.2.ebit && e.2.sid == sid

structure FragmentsTogether (h : Outbound) : Prop where
  numbers : (h.accepted.map (·.msgNum)).Nodup
  accepted : ∀ e ∈ h.sent, ∃ u ∈ h.accepted, u.msgNum = e.1.msgNum
  tsn : ∀ u ∈ h.accepted, (h.chunksOf u).IsChain fun c d => d.tsn = c.tsn + 1
  bbit : ∀ u ∈ h.accepted, ∀ i c, (h.chunksOf u)[i]? = some c → (c.bbit = true ↔ i = 0)
  ebit : ∀ u ∈ h.accepted, ∀ i c, (h.chunksOf u)[i]? = some c →
    (c.ebit = true ↔ payload ((h.chunksOf u).take (i + 1)) = u.data)
  last : ∀ u ∈ h.accepted, ∀ i c, (h.chunksOf u)[i]? = some c → c.ebit = true → i + 1 = (h.chunksOf u).length
  message : ∀ u ∈ h.accepted, payload (h.chunksOf u) <+: u.data
  stream : ∀ u ∈ h.accepted, ∀ c ∈ h.chunksOf u, c.sid = u.sid ∧ c.ordered = u.ordered
  sameSsn : ∀ u ∈ h.accepted, ∀ c ∈ h.chunksOf u, ∀ d ∈ h.chunksOf u, c.ssn = d.ssn
  ssn : ∀ i e, h.sent[i]? = some e → e.2.ordered = true → e.2.ssn = completed e.2.sid (h.sent.take i) % 65536

end Outbound

namespace SCTPAssociation

/-- A message of the stream can be cut, and the next call finds its next fragment. -/
def KeepsFragments (a : SCTPAssociation) (sid : Nat) : Prop :=
  ∀ x ∈ a.front sid,
    -- a fragment would be cut again
    (x.2.1.fragment = true → ¬ a.TooLong x.2.1) ∧
    -- the next call would go on with another stream
    (x.2.1.fragment = true ∨ a.TooLong x.2.1 → a.lastStreamScheduled = sid)
deriving Decidable

/-- The steps that keep a message's fragments together. -/
def Allowed (a : SCTPAssociation) : SendEvent → Prop
  | .send sid ordered _ =>
    -- an unordered message would be sent before the fragments that are left of an ordered one
    ordered = false → ∀ m ∈ (a.sendStreams sid).streamQ.head?, m.fragment = true → m.bBit = true
  | .transmit scheduled recorded _ _ =>
    ∀ sid ∈ (a.nextStream scheduled recorded).1, (a.nextStream scheduled recorded).2.KeepsFragments sid

instance (a : SCTPAssociation) : (e : SendEvent) → Decidable (a.Allowed e)
  | .send _ ordered _ => inferInstanceAs (Decidable (ordered = false → ∀ _ ∈ _, _ → _))
  | .transmit _ _ _ _ => inferInstanceAs (Decidable (∀ _ ∈ _, _))

end SCTPAssociation

namespace SCTPDataMsg

/-- The message as it leaves its queue. -/
def asSent (m : SCTPDataMsg) : SCTPDataMsg := if m.fragment then m else { m with bBit := true, eBit := true }

/-- The chunks carry the data from its start, or its end. -/
abbrev Carried : Bool → List (BitVec 8) → List SCTPDataMsg → Prop :=
  Carries SCTPDataMsg.bBit SCTPDataMsg.eBit SCTPDataMsg.data

variable {m : SCTPDataMsg}

theorem asSent_of_fragment (h : m.fragment = true) : m.asSent = m := if_pos h

theorem asSent_of_not_fragment (h : ¬ m.fragment = true) : m.asSent = { m with bBit := true, eBit := true } := if_neg h

@[simp] theorem asSent_msgNum : m.asSent.msgNum = m.msgNum := by
  unfold asSent
  split <;> rfl

@[simp] theorem asSent_sid : m.asSent.sid = m.sid := by
  unfold asSent
  split <;> rfl

@[simp] theorem asSent_ordered : m.asSent.ordered = m.ordered := by
  unfold asSent
  split <;> rfl

@[simp] theorem asSent_data : m.asSent.data = m.data := by
  unfold asSent
  split <;> rfl

end SCTPDataMsg

namespace SCTPAssociation

open SCTPDataMsg

variable {a : SCTPAssociation} {sid : Nat} {ordered : Bool} {m : SCTPDataMsg} {q : List SCTPDataMsg}

theorem queue_setQueue (s : Nat) (o : Bool) :
    (a.setQueue sid ordered q).queue s o = if s = sid ∧ o = ordered then q else a.queue s o := by
  unfold queue setQueue
  by_cases hs : s = sid
  · subst hs
    cases o <;> cases ordered <;> simp
  · simp [hs]

@[simp] theorem setQueue_nextStreamSeqNum (s : Nat) :
    ((a.setQueue sid ordered q).sendStreams s).nextStreamSeqNum = (a.sendStreams s).nextStreamSeqNum := by
  unfold setQueue
  by_cases hs : s = sid
  · cases ordered <;> simp [hs]
  · simp [hs]

@[simp] theorem queue_setNextStreamSeqNum (num s : Nat) (o : Bool) :
    (a.setNextStreamSeqNum sid num).queue s o = a.queue s o := by
  unfold queue setNextStreamSeqNum
  by_cases hs : s = sid
  · simp [hs]
  · simp [hs]

theorem front_eq_some (h : a.front sid = some (ordered, m, q)) :
    a.queue sid ordered = m :: q ∧ (ordered = true → a.queue sid false = []) := by
  unfold front at h
  split at h
  · split at h
    · next m' q' _ hu =>
      cases h
      exact ⟨by simpa [queue] using hu, by simp⟩
    · next m' q' hu ho =>
      cases h
      exact ⟨by simpa [queue] using ho, fun _ => by simpa [queue] using hu⟩
    · cases h
  · cases h

theorem fragments_carries (m : SCTPDataMsg) {msgbytes fuel : Nat} {bBit : Bool} {data : List (BitVec 8)}
    (hfuel : data.length < fuel) (hpos : data ≠ [] → 0 < msgbytes) :
    Carried bBit data (a.fragments m msgbytes fuel bBit data) := by
  induction fuel generalizing bBit data with
  | zero => simp at hfuel
  | succ fuel ih =>
    unfold fragments
    split
    · exact Carries.last rfl rfl rfl
    · next hlong =>
      have hrest : data.drop msgbytes ≠ [] := by
        rw [Ne, drop_eq_nil_iff]
        exact hlong
      have hmsg : 0 < msgbytes := by
        apply hpos
        rintro rfl
        simp at hlong
      have htail : Carried false (data.drop msgbytes) (a.fragments m msgbytes fuel false (data.drop msgbytes)) :=
        ih (by rw [length_drop]; omega) (fun _ => hmsg)
      exact Carries.more rfl rfl (take_append_drop msgbytes data) hrest htail

theorem fragments_same (m : SCTPDataMsg) {msgbytes fuel : Nat} {bBit : Bool} {data : List (BitVec 8)} {c : SCTPDataMsg}
    (hc : c ∈ a.fragments m msgbytes fuel bBit data) :
    c.fragment = true ∧ c.msgNum = m.msgNum ∧ c.sid = m.sid ∧ c.ordered = m.ordered := by
  induction fuel generalizing bBit data with
  | zero => simp [fragments] at hc
  | succ fuel ih =>
    unfold fragments at hc
    split at hc
    · rw [mem_singleton] at hc
      subst hc
      exact ⟨rfl, rfl, rfl, rfl⟩
    · rcases mem_cons.mp hc with rfl | hc
      · exact ⟨rfl, rfl, rfl, rfl⟩
      · exact ih hc

theorem fragments_asSent (m : SCTPDataMsg) (msgbytes fuel : Nat) (bBit : Bool) (data : List (BitVec 8)) :
    (a.fragments m msgbytes fuel bBit data).map asSent = a.fragments m msgbytes fuel bBit data := by
  rw [map_congr_left (fun c hc => asSent_of_fragment (fragments_same m hc).1), map_id']

/-- A message leaves its queue, or nothing happens. -/
theorem popFront_cases (hq : a.queue sid ordered = m :: q) (availableSpace availableCwnd : Int) :
    a.popFront sid ordered availableSpace availableCwnd = (none, a) ∨
    a.popFront sid ordered availableSpace availableCwnd =
      (some m.asSent, { a.setQueue sid ordered q with lastMsgWasFragment := !m.asSent.eBit }) := by
  unfold popFront
  rw [hq]
  dsimp only
  split
  · right
    split
    · next hf => rw [asSent_of_fragment hf]
    · next hf => rw [asSent_of_not_fragment hf]; rfl
  · exact .inl rfl

end SCTPAssociation

end Inet.Sctp
