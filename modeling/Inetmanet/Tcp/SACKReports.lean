import Inetmanet.Tcp.SACKBlocks

/-!
# What a receiver reports

Runs of the receiver of a data stream, from the moment the connection is set up.
A run is described by the positions its sequence numbers stand for.
-/
namespace Inet.Tcp

open SerialNumber SpanList List

/-- The receiver of a stream that starts at `startSeq`, with SACK in use. -/
def Receiver.established (state : TCPStateVariables) (startSeq : SeqNo) : Receiver where
  state := { state with
    rcvNxt := startSeq, sackEnabled := true, sndSack := false, sndDsack := false, sacksArray := [] }
  receiveQueue := .init startSeq

inductive ReceiverEvent where
  /-- A segment whose first octet has the position `p` arrives. -/
  | arrive (rcvWnd : SeqNo) (tcpseg : TCPSegment) (p : Nat)
  /-- A segment is sent for another reason. -/
  | send

/-- A receiver, the position of the first octet that it waits for, the position of that
octet before the last arrival that was reported, and all that has arrived. -/
structure Tracked where
  receiver : Receiver
  rcv : Nat
  since : Nat
  arrived : List Span
  deriving DecidableEq, Repr

namespace Tracked

def init (state : TCPStateVariables) (base : SeqNo) (start : Nat) : Tracked :=
  ⟨.established state (nth base start), start, start, []⟩

/-- Whether the next segment that is sent is to report something. -/
def toReport (r : Receiver) : Prop := r.state.sndSack = true ∨ r.state.sndDsack = true
deriving Decidable

/-- What has been taken in moves `rcvNxt` forward. -/
def advance (t : Tracked) (r : Receiver) : Nat := t.rcv + (r.state.rcvNxt - t.receiver.state.rcvNxt).toNat

/-- An arrival is acknowledged at once where there is something to report. -/
def step (t : Tracked) : ReceiverEvent → Sim (Tracked × Option SackOption)
  | .arrive rcvWnd tcpseg p => do
    let r ← t.receiver.processSegment rcvWnd tcpseg
    let (r', option) ← r.writeHeaderOptions
    return ({ receiver := r', rcv := t.advance r, since := if toReport r then t.rcv else t.since,
              arrived := ⟨p, p + tcpseg.payloadLength⟩ :: t.arrived }, option)
  | .send => do
    let (r', option) ← t.receiver.writeHeaderOptions
    return ({ t with receiver := r' }, option)

/-- The run over the events, and each option that was written, with the receiver then. -/
def run (t : Tracked) : List ReceiverEvent → Sim (Tracked × List (Tracked × SackOption))
  | [] => .ok (t, [])
  | e :: events => do
    let (t, option) ← t.step e
    let (t', options) ← t.run events
    return (t', (option.map fun option => (t, option)).toList ++ options)

/-- The segment lies less than half of the sequence space around the first octet the receiver
waits for, and so does the window seen from the segment. -/
structure Near (base : SeqNo) (t : Tracked) (rcvWnd : SeqNo) (tcpseg : TCPSegment) (p : Nat) : Prop where
  seq : tcpseg.sequenceNo = nth base p
  nonempty : 0 < tcpseg.payloadLength
  bytes : tcpseg.byteArray.length ≠ 0 → tcpseg.byteArray.length = tcpseg.payloadLength
  behind : t.rcv < p + 2 ^ 31
  ahead : p + tcpseg.payloadLength < t.rcv + 2 ^ 31
  window : tcpseg.payloadLength + rcvWnd.toNat ≤ 2 ^ 31

/-- The stream has not moved on by half of the sequence space since the last report, if blocks are
left over from it. -/
def Fresh (t : Tracked) (r : Receiver) : Prop :=
  toReport r → r.state.sacksArray ≠ [] → t.advance r < t.since + 2 ^ 31
deriving Decidable

/-- The condition on an event. -/
def Meets (base : SeqNo) (t : Tracked) : ReceiverEvent → Prop
  | .arrive rcvWnd tcpseg p =>
    t.Near base rcvWnd tcpseg p ∧ ∀ r, t.receiver.processSegment rcvWnd tcpseg = .ok r → t.Fresh r
  | .send => True

/-- All events of a run meet the condition. -/
def Admissible (base : SeqNo) : Tracked → List ReceiverEvent → Prop
  | _, [] => True
  | t, e :: events => t.Meets base e ∧ ∀ next, t.step e = .ok next → Admissible base next.1 events

section

variable (base : SeqNo) (t : Tracked)

instance (rcvWnd : SeqNo) (tcpseg : TCPSegment) (p : Nat) : Decidable (t.Near base rcvWnd tcpseg p) :=
  decidable_of_iff (tcpseg.sequenceNo = nth base p ∧ 0 < tcpseg.payloadLength ∧
      (tcpseg.byteArray.length ≠ 0 → tcpseg.byteArray.length = tcpseg.payloadLength) ∧
      t.rcv < p + 2 ^ 31 ∧ p + tcpseg.payloadLength < t.rcv + 2 ^ 31 ∧
      tcpseg.payloadLength + rcvWnd.toNat ≤ 2 ^ 31)
    ⟨fun ⟨h₁, h₂, h₃, h₄, h₅, h₆⟩ => ⟨h₁, h₂, h₃, h₄, h₅, h₆⟩,
      fun h => ⟨h.seq, h.nonempty, h.bytes, h.behind, h.ahead, h.window⟩⟩

instance (e : ReceiverEvent) : Decidable (t.Meets base e) :=
  match e with
  | .arrive rcvWnd tcpseg p => inferInstanceAs (Decidable (t.Near base rcvWnd tcpseg p ∧ ∀ r,
      t.receiver.processSegment rcvWnd tcpseg = .ok r → t.Fresh r))
  | .send => isTrue trivial

instance decidableAdmissible (events : List ReceiverEvent) : ∀ t : Tracked, Decidable (t.Admissible base events) :=
  match events with
  | [] => fun _ => isTrue trivial
  | e :: events => fun t =>
    have (next : Tracked × Option SackOption) : Decidable (next.1.Admissible base events) :=
      decidableAdmissible events next.1
    inferInstanceAs (Decidable (t.Meets base e ∧ ∀ next : Tracked × Option SackOption,
      t.step e = .ok next → next.1.Admissible base events))

end

/-- The option fits, and its blocks report, without overlap, octets that have arrived: those after the
first one are all the octets around that are buffered. -/
structure Honest (base : SeqNo) (t : Tracked) (option : SackOption) : Prop where
  rcvNxt : t.receiver.state.rcvNxt = nth base t.rcv
  length : option.optionsLen ≤ tcpOptionsMaxSize
  reports : ∃ spans first rest,
    t.receiver.receiveQueue.regionList = spans.map (Region.ofSpan base) ∧
    Separated spans ∧ (∀ s ∈ spans, t.rcv < s.lo) ∧
    option.blocks = (first :: rest).map (sackOf base) ∧
    (∀ b ∈ first :: rest, b.lo < b.hi ∧ t.rcv < b.lo + 2 ^ 31 ∧ b.hi < t.rcv + 2 ^ 31 ∧
      ∀ i, b.Has i → Covers t.arrived i ∧ (i < t.rcv ∨ Covers spans i)) ∧
    (∀ b ∈ rest, b ∈ spans) ∧ rest.Pairwise fun s t => s.Apart t ∨ t.Apart s

/-- The blocks in the list are buffered runs or lie below the first missing position. -/
structure Idle (base : SeqNo) (start : Nat) (t : Tracked) (seen : Nat → Prop) (spans blocks : List Span) : Prop where
  tracks : Tracks base (Region.ofSpan base) start seen t.rcv t.rcv spans t.receiver.receiveQueue
  arrived : ∀ i, seen i → Covers t.arrived i
  rcvNxt : t.receiver.state.rcvNxt = nth base t.rcv
  sackEnabled : t.receiver.state.sackEnabled = true
  quiet : ¬ toReport t.receiver
  sacksArray : t.receiver.state.sacksArray = blocks.map (sackOf base)
  nodup : blocks.Nodup
  reported : ∀ b ∈ blocks, b.lo < b.hi ∧ t.since < b.hi ∧ (b ∈ spans ∨ b.hi ≤ t.rcv)
  within : ∀ s ∈ spans, s.hi < t.rcv + 2 ^ 31
  room : ∀ s ∈ spans, s.hi ≤ t.rcv + t.receiver.state.maxRcvBuffer.toNat

variable {base : SeqNo} {start : Nat} {t : Tracked} {seen : Nat → Prop} {spans blocks : List Span}

theorem init_idle (state : TCPStateVariables) (base : SeqNo) (start : Nat) :
    Idle base start (init state base start) (fun _ => False) [] [] where
  tracks := .init base (Region.ofSpan base) start
  arrived := by simp
  rcvNxt := rfl
  sackEnabled := rfl
  quiet := by simp [toReport, init, Receiver.established]
  sacksArray := rfl
  nodup := nodup_nil
  reported := by simp
  within := by simp
  room := by simp

/-- The state after data was taken in and before the ACK is sent. -/
structure Took (base : SeqNo) (start : Nat) (t : Tracked) (r : Receiver) (rcv : Nat) (seen : Nat → Prop)
    (spans : List Span) : Prop where
  tracks : Tracks base (Region.ofSpan base) start seen rcv rcv spans r.receiveQueue
  rcvNxt : r.state.rcvNxt = nth base rcv
  sackEnabled : r.state.sackEnabled = true
  sacksArray : r.state.sacksArray = t.receiver.state.sacksArray
  started : start ≤ t.rcv
  rcv_le : t.rcv ≤ rcv
  rcv_lt : rcv < t.rcv + 2 ^ 31
  within : ∀ s ∈ spans, s.hi < t.rcv + 2 ^ 31
  room : ∀ s ∈ spans, s.hi ≤ rcv + r.state.maxRcvBuffer.toNat

/-- What the arrival of `seg` leaves to report: nothing, that it brought nothing new, or the block around it. -/
inductive Trigger (base : SeqNo) (t : Tracked) (seg : Span) (r : Receiver) (rcv : Nat) (spans blocks : List Span) : Prop where
  | quiet (flags : ¬ toReport r) (kept : ∀ b ∈ blocks, b ∈ spans ∨ b.hi ≤ rcv)
  | duplicate (d : Span) (flag : r.state.sndDsack = true)
      (startSeqno : r.state.startSeqno = nth base d.lo) (endSeqno : r.state.endSeqno = nth base d.hi)
      (nonempty : d.lo < d.hi) (part : seg.lo ≤ d.lo ∧ d.hi ≤ seg.hi)
      (place : d.hi < rcv ∧ rcv < d.lo + 2 ^ 31 ∨ rcv ≤ d.lo ∧ d.hi < rcv + 2 ^ 31)
      (held : ∀ i, d.Has i → i < rcv ∨ Covers spans i)
      (kept : ∀ b ∈ blocks, b ∈ spans ∨ b.hi ≤ rcv)
  | block (f : Span) (noDsack : r.state.sndDsack = false) (flag : r.state.sndSack = true)
      (distinct : r.state.startSeqno ≠ r.state.endSeqno)
      (left : r.receiveQueue.getLE r.state.startSeqno = nth base f.lo)
      (right : r.receiveQueue.getRE r.state.endSeqno = nth base f.hi)
      (nonempty : f.lo < f.hi)
      (place : f ∈ spans ∨ t.rcv ≤ f.lo ∧ f.hi ≤ rcv)
      (kept : ∀ b ∈ blocks, b ∈ spans ∨ b.hi ≤ rcv ∨ f ∈ spans ∧ f.lo ≤ b.lo ∧ b.hi ≤ f.hi)

end Tracked

/-- Where `insertSack` puts a block in front, an option is written, and it starts with that block. -/
theorem TCPStateVariables.addSacks_eq {state : TCPStateVariables} {q : TCPVirtualDataRcvQueue Region}
    {usedOptionsLen : Nat} (hused : usedOptionsLen ≤ 14) {kept rest : List Sack} {f : Sack} {dup : Bool}
    (hdel : deleteOldSacks state.rcvNxt state.sacksArray = .ok kept)
    (hins : state.insertSack q kept = .ok (f :: rest, dup)) (hne : ∀ it ∈ f :: rest, it.start ≠ it.end_) :
    ∃ nops n len, state.addSacks q usedOptionsLen =
        .ok ({ state with sacksArray := if dup then rest else f :: rest }.resetSackFlags,
          some ⟨nops, f :: rest.take n, len⟩) ∧ len ≤ tcpOptionsMaxSize := by
  have hroom : ¬ usedOptionsLen > tcpOptionsMaxSize - tcpOptionSackMinSize := by
    simp only [tcpOptionsMaxSize, tcpOptionSackMinSize]
    omega
  obtain ⟨n, hn, hle⟩ : ∃ n, min (f :: rest).length ((tcpOptionsMaxSize - usedOptionsLen - 2) / 8) = n + 1 ∧
      usedOptionsLen + 8 * (n + 1) + 2 ≤ tcpOptionsMaxSize := by
    refine ⟨min (f :: rest).length ((tcpOptionsMaxSize - usedOptionsLen - 2) / 8) - 1, ?_, ?_⟩
    · simp only [length_cons, tcpOptionsMaxSize]
      omega
    · simp only [length_cons, tcpOptionsMaxSize]
      omega
  have hlen : usedOptionsLen + (6 - usedOptionsLen % 4) % 4 + 8 * (n + 1) + 2 ≤ tcpOptionsMaxSize := by
    simp only [tcpOptionsMaxSize] at hle ⊢
    omega
  have hblocks : ∀ it ∈ f :: rest.take n, it.start ≠ it.end_ := by
    intro it hit
    rw [← take_succ_cons] at hit
    exact hne it (mem_of_mem_take hit)
  refine ⟨(6 - usedOptionsLen % 4) % 4, n, usedOptionsLen + (6 - usedOptionsLen % 4) % 4 + 8 * (n + 1) + 2, ?_, hlen⟩
  simp only [addSacks, hdel, hins, hroom, if_false, hn, Nat.add_one_ne_zero, ensure_pos hblocks, ensure_pos hlen,
    tail_cons, bind, Except.bind, pure, Except.pure, take_succ_cons]

namespace Tracked

variable {base : SeqNo} {start rcv : Nat} {t : Tracked} {r : Receiver} {seg : Span} {seen : Nat → Prop}
  {spans blocks : List Span}

/-- The list of blocks with the new one in front, which stays in it unless it is a duplicate. -/
structure Front (t : Tracked) (seg : Span) (rcv : Nat) (seen : Nat → Prop) (spans : List Span) (f : Span)
    (rest : List Span) (dup : Bool) : Prop where
  nonempty : f.lo < f.hi
  near : rcv < f.lo + 2 ^ 31 ∧ f.hi < rcv + 2 ^ 31
  held : ∀ i, f.Has i → (seg.Has i ∨ seen i) ∧ (i < rcv ∨ Covers spans i)
  rest_mem : ∀ b ∈ rest, b ∈ spans
  nodup : rest.Nodup
  stays : dup = false → f ∉ rest ∧ t.rcv < f.hi ∧ (f ∈ spans ∨ f.hi ≤ rcv)

namespace Took

section

variable (h : Took base start t r rcv seen spans)
include h

theorem span_near {s : Span} (hs : s ∈ spans) : rcv < s.lo ∧ s.lo < s.hi ∧ s.hi < rcv + 2 ^ 31 := by
  have hlo := h.tracks.lt_of_low_eq rfl s hs
  have hne := h.tracks.separated.nonempty s hs
  have hhi := h.within s hs
  have hle := h.rcv_le
  omega

/-- Different spans do not contain each other. -/
theorem not_contains {a b : Span} (ha : a ∈ spans) (hb : b ∈ spans)
    (hne : a ≠ b) : ¬ (sackOf base a).contains (sackOf base b) := by
  have ha' := h.span_near ha
  have hb' := h.span_near hb
  have haw : rcv < a.lo ∧ a.hi ≤ rcv + 2 ^ 31 := ⟨ha'.1, by omega⟩
  have hbw : rcv < b.lo ∧ b.hi ≤ rcv + 2 ^ 31 := ⟨hb'.1, by omega⟩
  apply not_contains_of_apart ha'.2.1 hb'.2.1 haw hbw
  exact (h.tracks.separated.eq_or_apart ha hb).resolve_left hne

/-- What `insertSack` makes of a segment that brought nothing new. -/
theorem insertSack_duplicate {d : Span}
    (flag : r.state.sndDsack = true) (startSeqno : r.state.startSeqno = nth base d.lo)
    (endSeqno : r.state.endSeqno = nth base d.hi) (nonempty : d.lo < d.hi)
    (place : d.hi < rcv ∧ rcv < d.lo + 2 ^ 31 ∨ rcv ≤ d.lo ∧ d.hi < rcv + 2 ^ 31)
    (hkept : ∀ b ∈ blocks, b ∈ spans) (hnodup : blocks.Nodup) :
    r.state.insertSack r.receiveQueue (blocks.map (sackOf base)) = .ok ((d :: blocks).map (sackOf base), true) := by
  have hdistinct : nth base d.lo ≠ nth base d.hi := by
    rw [Ne, nth_eq_nth (by omega) (by omega)]
    omega
  -- the end is cut off only where the segment reaches across `rcvNxt`
  have hcut : ¬ (seqLess (nth base d.lo) (nth base rcv) ∧ seqLess (nth base rcv) (nth base d.hi)) := by
    rw [seqLess_nth (by omega) (by omega), seqLess_nth (by omega) (by omega)]
    omega
  have hdel : deleteContainedSacks (blocks.map (sackOf base)).length (blocks.map (sackOf base)) =
      .ok (blocks.map (sackOf base)) := by
    apply deleteContainedSacks_map
    · intro b hb
      have hb' := h.span_near (hkept b hb)
      exact sackOf_not_empty hb'.2.1 (by omega)
    · exact hnodup.imp_of_mem fun ha hb hne => h.not_contains (hkept _ ha) (hkept _ hb) hne
  rw [TCPStateVariables.insertSack, startSeqno, endSeqno, h.rcvNxt, if_neg hdistinct, if_pos flag, if_neg hcut, hdel]
  rfl

/-- What `insertSack` makes of a segment that brought something new. -/
theorem insertSack_block {f : Span}
    (noDsack : r.state.sndDsack = false) (distinct : r.state.startSeqno ≠ r.state.endSeqno)
    (left : r.receiveQueue.getLE r.state.startSeqno = nth base f.lo)
    (right : r.receiveQueue.getRE r.state.endSeqno = nth base f.hi) (nonempty : f.lo < f.hi)
    (hlen : f.hi < f.lo + 2 ^ 31)
    (hkept : ∀ b ∈ blocks, b ∈ spans ∨ b.lo < b.hi ∧ f.lo ≤ b.lo ∧ b.hi ≤ f.hi) (hnodup : blocks.Nodup) :
    ∃ rest, r.state.insertSack r.receiveQueue (blocks.map (sackOf base)) =
        .ok ((f :: rest).map (sackOf base), false) ∧
      (∀ b ∈ rest, b ∈ spans) ∧ rest.Nodup ∧ f ∉ rest := by
  have hinside : ∀ b : Span, b.lo < b.hi → f.lo ≤ b.lo → b.hi ≤ f.hi →
      (sackOf base f).contains (sackOf base b) := by
    intro b hb hlo hhi
    rw [contains_sackOf (by omega) (by omega) (by omega) (by omega)]
    exact ⟨hlo, hhi⟩
  have hmem : ∀ b ∈ blocks, ¬ (sackOf base f).contains (sackOf base b) → b ∈ spans := by
    intro b hb hnot
    exact (hkept b hb).resolve_right fun hb' => hnot (hinside b hb'.1 hb'.2.1 hb'.2.2)
  have hself : (sackOf base f).contains (sackOf base f) := hinside f nonempty (Nat.le_refl _) (Nat.le_refl _)
  refine ⟨blocks.filter fun b => ¬ (sackOf base f).contains (sackOf base b), ?_, ?_, hnodup.filter _, ?_⟩
  · have hne : ∀ b ∈ blocks, ¬ (sackOf base b).empty := by
      intro b hb
      cases hkept b hb with
      | inl hspan =>
        have hb' := h.span_near hspan
        exact sackOf_not_empty hb'.2.1 (by omega)
      | inr hin => exact sackOf_not_empty hin.1 (by omega)
    have hap : blocks.Pairwise fun s t => ¬ (sackOf base f).contains (sackOf base s) →
        ¬ (sackOf base f).contains (sackOf base t) → ¬ (sackOf base s).contains (sackOf base t) :=
      hnodup.imp_of_mem fun ha hb hab hna hnb => h.not_contains (hmem _ ha hna) (hmem _ hb hnb) hab
    have hdel := deleteContainedSacks_cons (blocks.map (sackOf base)).length
      (sackOf_not_empty nonempty (by omega)) hne hap
    rw [TCPStateVariables.insertSack, if_neg distinct, if_neg (by simp [noDsack]), left, right]
    rw [map_cons] at hdel
    simp only [length_cons]
    rw [show (⟨nth base f.lo, nth base f.hi⟩ : Sack) = sackOf base f from rfl, hdel]
    rfl
  · intro b hb
    rw [mem_filter] at hb
    exact hmem b hb.1 (by simpa using hb.2)
  · rw [mem_filter]
    rintro ⟨-, hnot⟩
    simp [hself] at hnot

/-- What is put in front of the list, and what the list is then. -/
theorem insertSack (tr : Trigger base t seg r rcv spans blocks)
    (hreport : toReport r) (hnodup : blocks.Nodup) (hne : ∀ b ∈ blocks, b.lo < b.hi) :
    ∃ f rest dup, r.state.insertSack r.receiveQueue ((blocks.filter fun b => rcv < b.hi).map (sackOf base)) =
        .ok ((f :: rest).map (sackOf base), dup) ∧ Front t seg rcv seen spans f rest dup := by
  have hnodup' := hnodup.filter fun b => decide (rcv < b.hi)
  cases tr with
  | quiet flags kept => exact absurd hreport flags
  | duplicate d flag startSeqno endSeqno nonempty part place held kept =>
    have hkept : ∀ b ∈ blocks.filter fun b => rcv < b.hi, b ∈ spans := by
      intro b hb
      rw [mem_filter, decide_eq_true_eq] at hb
      exact (kept b hb.1).resolve_right (by omega)
    refine ⟨d, _, true, h.insertSack_duplicate flag startSeqno endSeqno nonempty place hkept hnodup', ?_⟩
    exact {
      nonempty := nonempty
      near := by omega
      held := fun i hi => ⟨.inl ⟨Nat.le_trans part.1 hi.1, Nat.lt_of_lt_of_le hi.2 part.2⟩, held i hi⟩
      rest_mem := hkept
      nodup := hnodup'
      stays := fun hdup => absurd hdup (by decide) }
  | block f noDsack flag distinct left right nonempty place kept =>
    have hrcv := h.rcv_lt
    have hle := h.rcv_le
    have hnear : f.hi < f.lo + 2 ^ 31 ∧ rcv < f.lo + 2 ^ 31 ∧ f.hi < rcv + 2 ^ 31 := by
      cases place with
      | inl hspan =>
        have hf := h.span_near hspan
        omega
      | inr hbelow => omega
    have hkept : ∀ b ∈ blocks.filter fun b => rcv < b.hi, b ∈ spans ∨ b.lo < b.hi ∧ f.lo ≤ b.lo ∧ b.hi ≤ f.hi := by
      intro b hb
      rw [mem_filter, decide_eq_true_eq] at hb
      rcases kept b hb.1 with hspan | hold | hin
      · exact .inl hspan
      · omega
      · exact .inr ⟨hne b hb.1, hin.2⟩
    obtain ⟨rest, hins, hrest, hnd, hf⟩ :=
      h.insertSack_block noDsack distinct left right nonempty hnear.1 hkept hnodup'
    refine ⟨f, rest, false, hins, ?_⟩
    have hheld : ∀ i, f.Has i → seen i ∧ (i < rcv ∨ Covers spans i) := by
      intro i hi
      cases place with
      | inl hspan =>
        have hcov : Covers spans i := ⟨f, hspan, hi⟩
        exact ⟨((h.tracks.covers i).mp hcov).1, .inr hcov⟩
      | inr hbelow =>
        have hstart := h.started
        have hlt : i < rcv := Nat.lt_of_lt_of_le hi.2 hbelow.2
        exact ⟨h.tracks.first.seen_below i (by have := hi.1; omega) hlt, .inl hlt⟩
    have hstays : t.rcv < f.hi ∧ (f ∈ spans ∨ f.hi ≤ rcv) := by
      cases place with
      | inl hspan =>
        have hf := h.span_near hspan
        exact ⟨by omega, .inl hspan⟩
      | inr hbelow => exact ⟨by omega, .inr hbelow.2⟩
    exact {
      nonempty := nonempty
      near := hnear.2
      held := fun i hi => ⟨.inr (hheld i hi).1, (hheld i hi).2⟩
      rest_mem := hrest
      nodup := hnd
      stays := fun _ => ⟨hf, hstays⟩ }

/-- Nothing in the list is so old that it counts as being ahead. -/
theorem current (tr : Trigger base t seg r rcv spans blocks)
    (hne : ∀ b ∈ blocks, b.lo < b.hi ∧ rcv < b.hi + 2 ^ 31) : ∀ b ∈ blocks, Current rcv b := by
  intro b hb
  have hb' := hne b hb
  have hspan : ∀ s ∈ spans, s.lo ≤ b.lo → b.hi ≤ s.hi → Current rcv b := by
    intro s hs hlo hhi
    have hs' := h.span_near hs
    exact .inr ⟨by omega, hb'.1, by omega⟩
  have hkept : b ∈ spans ∨ b.hi ≤ rcv ∨ ∃ f ∈ spans, f.lo ≤ b.lo ∧ b.hi ≤ f.hi := by
    cases tr with
    | quiet flags kept => exact (kept b hb).imp_right .inl
    | duplicate d flag startSeqno endSeqno nonempty part place held kept => exact (kept b hb).imp_right .inl
    | block f noDsack flag distinct left right nonempty place kept =>
      exact (kept b hb).imp_right (Or.imp_right fun hin => ⟨f, hin⟩)
  rcases hkept with hmem | hold | ⟨f, hf, hlo, hhi⟩
  · exact hspan b hmem (Nat.le_refl _) (Nat.le_refl _)
  · exact .inl ⟨hold, hb'.2⟩
  · exact hspan f hf hlo hhi

end

/-- The receiver after an arrival. -/
def after (t : Tracked) (seg : Span) (r : Receiver) (rcv : Nat) (r' : Receiver) : Tracked :=
  ⟨r', rcv, if toReport r then t.rcv else t.since, seg :: t.arrived⟩

/-- With nothing to report, the blocks stay as they are. -/
theorem write_quiet {seen₀ : Nat → Prop} {spans₀ : List Span} (h : Took base start t r rcv seen spans)
    (hidle : Idle base start t seen₀ spans₀ blocks) (hquiet : ¬ toReport r)
    (hkept : ∀ b ∈ blocks, b ∈ spans ∨ b.hi ≤ rcv) (harr : ∀ i, seen i → Covers (seg :: t.arrived) i) :
    r.writeHeaderOptions = .ok (r, none) ∧ Idle base start (after t seg r rcv r) seen spans blocks := by
  constructor
  · rw [Receiver.writeHeaderOptions, if_neg fun hflags => hquiet hflags.2]
  · exact {
      tracks := h.tracks
      arrived := harr
      rcvNxt := h.rcvNxt
      sackEnabled := h.sackEnabled
      quiet := hquiet
      sacksArray := h.sacksArray.trans hidle.sacksArray
      nodup := hidle.nodup
      reported := by
        intro b hb
        have hb' := hidle.reported b hb
        simp only [after, if_neg hquiet]
        exact ⟨hb'.1, hb'.2.1, hkept b hb⟩
      within := fun s hs => Nat.lt_of_lt_of_le (h.within s hs) (Nat.add_le_add_right h.rcv_le _)
      room := h.room }

/-- An option that reports the block in front and some of those behind it. -/
theorem write_report {seen₀ : Nat → Prop} {spans₀ : List Span} (h : Took base start t r rcv seen spans)
    (hidle : Idle base start t seen₀ spans₀ blocks) (tr : Trigger base t seg r rcv spans blocks)
    (hreport : toReport r) (hfresh : blocks ≠ [] → rcv < t.since + 2 ^ 31)
    (harr : ∀ i, seen i → Covers (seg :: t.arrived) i) :
    ∃ r' option blocks', r.writeHeaderOptions = .ok (r', some option) ∧
      Idle base start (after t seg r rcv r') seen spans blocks' ∧
      Honest base (after t seg r rcv r') option := by
  have hne : ∀ b ∈ blocks, b.lo < b.hi ∧ rcv < b.hi + 2 ^ 31 := by
    intro b hb
    have hb' := hidle.reported b hb
    have hlt := hfresh (ne_nil_of_mem hb)
    exact ⟨hb'.1, by omega⟩
  obtain ⟨f, rest, dup, hins, hfront⟩ := h.insertSack tr hreport hidle.nodup fun b hb => (hne b hb).1
  have hdel : deleteOldSacks r.state.rcvNxt r.state.sacksArray =
      .ok ((blocks.filter fun b => rcv < b.hi).map (sackOf base)) := by
    rw [h.rcvNxt, h.sacksArray, hidle.sacksArray]
    exact deleteOldSacks_map (h.current tr hne)
  have hnear : ∀ b ∈ f :: rest, b.lo < b.hi ∧ rcv < b.lo + 2 ^ 31 ∧ b.hi < rcv + 2 ^ 31 := by
    intro b hb
    cases mem_cons.mp hb with
    | inl heq => exact heq ▸ ⟨hfront.nonempty, hfront.near⟩
    | inr hrest =>
      have hb' := h.span_near (hfront.rest_mem b hrest)
      exact ⟨hb'.2.1, by omega, hb'.2.2⟩
  have hdistinct : ∀ it ∈ (f :: rest).map (sackOf base), it.start ≠ it.end_ := by
    intro it hit
    obtain ⟨b, hb, hbit⟩ := mem_map.mp hit
    have hb' := hnear b hb
    rw [← hbit, sackOf_start, sackOf_end, Ne, nth_eq_nth (by omega) (by omega)]
    omega
  have hused : (if r.state.tsEnabled then 10 else 0) ≤ 14 := by
    split
    · decide
    · decide
  obtain ⟨nops, n, len, hadd, hlen⟩ := TCPStateVariables.addSacks_eq hused hdel hins hdistinct
  refine ⟨{ r with state := { r.state with
      sacksArray := if dup then rest.map (sackOf base) else (f :: rest).map (sackOf base) }.resetSackFlags },
    ⟨nops, sackOf base f :: (rest.map (sackOf base)).take n, len⟩, if dup then rest else f :: rest, ?_, ?_, ?_⟩
  · rw [Receiver.writeHeaderOptions, if_pos ⟨h.sackEnabled, hreport⟩, hadd]
    rfl
  · exact {
      tracks := h.tracks
      arrived := harr
      rcvNxt := h.rcvNxt
      sackEnabled := h.sackEnabled
      quiet := by simp [toReport, after, TCPStateVariables.resetSackFlags]
      sacksArray := by cases dup <;> rfl
      nodup := by
        cases dup with
        | true => exact hfront.nodup
        | false => exact nodup_cons.mpr ⟨(hfront.stays rfl).1, hfront.nodup⟩
      reported := by
        have hrest : ∀ b ∈ rest, b.lo < b.hi ∧ t.rcv < b.hi ∧ (b ∈ spans ∨ b.hi ≤ rcv) := by
          intro b hb
          have hmem := hfront.rest_mem b hb
          have hb' := h.span_near hmem
          have hle := h.rcv_le
          exact ⟨hb'.2.1, by omega, .inl hmem⟩
        simp only [after, if_pos hreport]
        cases dup with
        | true => exact hrest
        | false =>
          intro b hb
          cases mem_cons.mp hb with
          | inl heq => exact heq ▸ ⟨hfront.nonempty, (hfront.stays rfl).2⟩
          | inr hmem => exact hrest b hmem
      within := fun s hs => Nat.lt_of_lt_of_le (h.within s hs) (Nat.add_le_add_right h.rcv_le _)
      room := h.room }
  · refine ⟨h.rcvNxt, hlen, spans, f, rest.take n, h.tracks.regionList, h.tracks.separated,
      h.tracks.lt_of_low_eq rfl, by simp [map_take], ?_, ?_, ?_⟩
    · intro b hb
      have hmem : b ∈ f :: rest := by
        cases mem_cons.mp hb with
        | inl heq => exact mem_cons.mpr (.inl heq)
        | inr hrest => exact mem_cons_of_mem f (mem_of_mem_take hrest)
      have hb' := hnear b hmem
      refine ⟨hb'.1, hb'.2.1, hb'.2.2, ?_⟩
      intro i hi
      cases mem_cons.mp hmem with
      | inl heq =>
        have hheld := hfront.held i (heq ▸ hi)
        refine ⟨?_, hheld.2⟩
        cases hheld.1 with
        | inl hseg => exact (covers_cons _ _ _).mpr (.inl hseg)
        | inr hseen => exact harr i hseen
      | inr hrest =>
        have hcov : Covers spans i := ⟨b, hfront.rest_mem b hrest, hi⟩
        exact ⟨harr i ((h.tracks.covers i).mp hcov).1, .inr hcov⟩
    · exact fun b hb => hfront.rest_mem b (mem_of_mem_take hb)
    · have hnd : (rest.take n).Nodup := hfront.nodup.sublist (take_sublist n rest)
      exact hnd.imp_of_mem fun ha hb hab => (h.tracks.separated.eq_or_apart
        (hfront.rest_mem _ (mem_of_mem_take ha)) (hfront.rest_mem _ (mem_of_mem_take hb))).resolve_left hab

end Took

end Tracked

end Inet.Tcp
