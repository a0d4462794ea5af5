import Inetmanet.Lib.Ascending
import Inetmanet.Tcp.MsgBasedQueues
import Inetmanet.Tcp.VirtualDataRcvQueue

/-!
# Delivery of messages

A send queue and a receive queue of messages, with a network in between that
loses, duplicates and reorders segments. Positions are counted from the first
byte of the stream; a message stands at the position of its end.
-/
namespace Inet.Tcp

open SerialNumber SpanList List TCPMsgBasedRcvQueue Region

structure MsgExchange where
  enqueued : List CPacket
  sendQueue : TCPMsgBasedSendQueue
  /-- Every segment that has been built. The network delivers any of them, at any time. -/
  segments : List TCPSegment
  receiveQueue : TCPMsgBasedRcvQueue
  handedUp : List CPacket
  deriving DecidableEq

inductive MsgAction where
  | enqueueAppData (msg : CPacket)
  | createSegmentWithBytes (fromSeq : SeqNo) (numBytes : Nat)
  | discardUpTo (seqNum : SeqNo)
  | deliver (tcpseg : TCPSegment) (wnd : SeqNo)

namespace MsgExchange

def init (startSeq : SeqNo) : MsgExchange := ⟨[], .init startSeq, [], .init startSeq, []⟩

/-- A segment is cut down to the window and inserted. Whenever `rcvNxt` moves, the
messages are extracted until there is none. -/
def receive (q : TCPMsgBasedRcvQueue) (tcpseg : TCPSegment) (wnd : SeqNo) :
    Sim (List CPacket × TCPMsgBasedRcvQueue) := do
  let tcpseg ← tcpseg.truncateSegment q.rcvNxt (q.rcvNxt + wnd)
  let q' ← q.insertBytesFromSegment tcpseg
  if q'.rcvNxt = q.rcvNxt then return ([], q')
  q'.extractAll (q'.payloadList.length + 1)

def step (s : MsgExchange) : MsgAction → Sim MsgExchange
  | .enqueueAppData msg => do
    return { s with enqueued := s.enqueued ++ [msg]
                    sendQueue := ← s.sendQueue.enqueueAppData msg }
  | .createSegmentWithBytes fromSeq numBytes => do
    return { s with segments := (← s.sendQueue.createSegmentWithBytes fromSeq numBytes) :: s.segments }
  | .discardUpTo seqNum => do
    return { s with sendQueue := ← s.sendQueue.discardUpTo seqNum }
  | .deliver tcpseg wnd => do
    let (msgs, q) ← receive s.receiveQueue tcpseg wnd
    return { s with receiveQueue := q, handedUp := s.handedUp ++ msgs }

def total (msgs : List CPacket) : Nat := (msgs.map CPacket.byteLength).sum

/-- Messages are not empty and come to less than 2 GB in all, segments are built
over buffered ranges, only acknowledged bytes are discarded, and only segments
that were built arrive, at a window that is open. -/
def Allowed (s : MsgExchange) : MsgAction → Prop
  | .enqueueAppData msg => 0 < msg.byteLength ∧ total s.enqueued + msg.byteLength < 2 ^ 31
  | .createSegmentWithBytes fromSeq numBytes =>
    0 < numBytes ∧ (fromSeq - s.sendQueue.beginNo).toNat + numBytes ≤
      (s.sendQueue.endNo - s.sendQueue.beginNo).toNat
  | .discardUpTo seqNum =>
    (seqNum - s.sendQueue.beginNo).toNat ≤ (s.receiveQueue.rcvNxt - s.sendQueue.beginNo).toNat
  | .deliver tcpseg wnd => tcpseg ∈ s.segments ∧ 0 < wnd.toNat ∧ wnd.toNat < 2 ^ 31

instance (s : MsgExchange) : (a : MsgAction) → Decidable (s.Allowed a)
  | .enqueueAppData _ => inferInstanceAs (Decidable (_ ∧ _))
  | .createSegmentWithBytes _ _ => inferInstanceAs (Decidable (_ ∧ _))
  | .discardUpTo _ => inferInstanceAs (Decidable (_ ≤ _))
  | .deliver _ _ => inferInstanceAs (Decidable (_ ∧ _))

/-- A segment has a part in the window, as `truncateSegment` sees it. -/
def InWindow (s : MsgExchange) : MsgAction → Prop
  | .deliver tcpseg wnd =>
    seqLess tcpseg.sequenceNo (s.receiveQueue.rcvNxt + wnd) ∧
      seqLess s.receiveQueue.rcvNxt tcpseg.endNo
  | _ => True

inductive Reachable (startSeq : SeqNo) : MsgExchange → Prop where
  | init : Reachable startSeq (.init startSeq)
  | step {s s' : MsgExchange} (a : MsgAction) (h : Reachable startSeq s) (allowed : s.Allowed a)
      (run : s.step a = .ok s') : Reachable startSeq s'

end MsgExchange

/-- A message and the position of its end. -/
structure Mark where
  pos : Nat
  msg : CPacket

variable {l : List Mark}

variable {a c : Nat}

namespace Mark

open Ascending MsgExchange

def payload (base : SeqNo) (m : Mark) : TCPPayloadMessage := ⟨nth base m.pos, m.msg⟩

def item (base : SeqNo) (m : Mark) : PayloadItem := ⟨nth base m.pos, m.msg⟩

/-- The marks of messages that follow each other from `pos` on. -/
def ofMessages (pos : Nat) : List CPacket → List Mark
  | [] => []
  | m :: ms => ⟨pos + m.byteLength, m⟩ :: ofMessages (pos + m.byteLength) ms

theorem ofMessages_msg (pos : Nat) (ms : List CPacket) : (ofMessages pos ms).map msg = ms := by
  induction ms generalizing pos with
  | nil => rfl
  | cons m ms ih => simp [ofMessages, ih]

theorem ofMessages_append (pos : Nat) (ms : List CPacket) (m : CPacket) :
    ofMessages pos (ms ++ [m]) =
      ofMessages pos ms ++ [⟨pos + total ms + m.byteLength, m⟩] := by
  induction ms generalizing pos with
  | nil => simp [ofMessages, total]
  | cons a ms ih => simp [ofMessages, total, ih, Nat.add_assoc]

variable {ms : List CPacket}

theorem mem_ofMessages {pos : Nat} (hms : ∀ m ∈ ms, 0 < m.byteLength) {x : Mark}
    (hx : x ∈ ofMessages pos ms) : pos < x.pos ∧ x.pos ≤ pos + total ms := by
  induction ms generalizing pos with
  | nil => cases hx
  | cons m ms ih =>
    have hm := hms m (by simp)
    have htotal : total (m :: ms) = m.byteLength + total ms := by
      simp [total]
    cases mem_cons.mp hx with
    | inl heq =>
      rw [heq]
      simp only
      omega
    | inr hmem =>
      have := ih (fun y hy => hms y (by simp [hy])) hmem
      omega

theorem ofMessages_ascending (pos : Nat) (hms : ∀ m ∈ ms, 0 < m.byteLength) :
    By Mark.pos (ofMessages pos ms) := by
  induction ms generalizing pos with
  | nil => exact By.nil
  | cons m ms ih =>
    have hms' : ∀ y ∈ ms, 0 < y.byteLength := fun y hy => hms y (by simp [hy])
    exact By.cons_iff.mpr ⟨fun b hb => (mem_ofMessages hms' hb).1, ih _ hms'⟩

/-- The mark of message `k` stands at the end of the first `k + 1` messages. -/
theorem getElem_ofMessages {pos : Nat} {k : Nat}
    (hk : k < (ofMessages pos ms).length) :
    (ofMessages pos ms)[k].pos = pos + total (ms.take (k + 1)) := by
  induction ms generalizing pos k with
  | nil => simp [ofMessages] at hk
  | cons m ms ih =>
    cases k with
    | zero => simp [ofMessages, total]
    | succ k =>
      simp only [ofMessages, length_cons, Nat.add_lt_add_iff_right] at hk
      simp [ofMessages, ih hk, total, Nat.add_assoc]

/-- The marks behind `a`, up to `c`. -/
def between (a c : Nat) (l : List Mark) : List Mark :=
  l.filter fun m => decide (a < m.pos) && decide (m.pos ≤ c)

theorem mem_between {m : Mark} :
    m ∈ between a c l ↔ m ∈ l ∧ a < m.pos ∧ m.pos ≤ c := by
  simp [between]

theorem between_ascending (h : By pos l) (a c : Nat) : By pos (between a c l) :=
  h.filter _

/-- Marks further on do not matter. -/
theorem between_append {l m : List Mark} (h : ∀ x ∈ m, c < x.pos) :
    between a c (l ++ m) = between a c l := by
  have hnil : between a c m = [] := by
    rw [between, filter_eq_nil_iff]
    intro x hx
    have := h x hx
    simp
    omega
  rw [between, filter_append]
  exact (congrArg _ hnil).trans (append_nil _)

end Mark

open Ascending

variable {base : SeqNo} {all : List Mark} {wnd : SeqNo}

/-- The segment for the positions from `a` up to `c`. -/
def segmentOf (base : SeqNo) (all : List Mark) (a c : Nat) : TCPSegment :=
  { sequenceNo := nth base a
    payloadLength := c - a
    payloadList := (Mark.between a c all).map (Mark.payload base) }

theorem segmentOf_payloadList (base : SeqNo) (all : List Mark) (a c : Nat) :
    (segmentOf base all a c).payloadList = (Mark.between a c all).map (Mark.payload base) := rfl

section Scans

variable {l : List Mark} (hl : By Mark.pos l) (hlt : ∀ m ∈ l, m.pos < 2 ^ 31) {x : Nat}
  (hx : x < 2 ^ 31)

include hl hlt hx

/-- Skipping the messages up to a position. -/
theorem dropWhile_payload (base : SeqNo) :
    (l.map (Mark.payload base)).dropWhile (fun i => seqLE i.endSequenceNo (nth base x)) =
      (l.filter fun m => decide (x < m.pos)).map (Mark.payload base) := by
  rw [dropWhile_map, hl.dropWhile_eq]
  intro m hm
  have := hlt m hm
  have hle : seqLE (nth base m.pos) (nth base x) ↔ m.pos ≤ x := seqLE_nth (by omega) (by omega)
  exact decide_eq_true_iff.trans hle

/-- Taking the messages up to a position. -/
theorem takeWhile_payload (base : SeqNo) :
    (l.map (Mark.payload base)).takeWhile (fun i => seqLE i.endSequenceNo (nth base x)) =
      (l.filter fun m => decide (m.pos ≤ x)).map (Mark.payload base) := by
  rw [takeWhile_map, hl.takeWhile_eq]
  intro m hm
  have := hlt m hm
  have hle : seqLE (nth base m.pos) (nth base x) ↔ m.pos ≤ x := seqLE_nth (by omega) (by omega)
  exact decide_eq_true_iff.trans hle

end Scans

/-- What the send queue holds when the stream is `all` marks up to `last`, and
the positions below `first` are discarded. -/
def sendQueueOf (base : SeqNo) (all : List Mark) (first last : Nat) : TCPMsgBasedSendQueue :=
  ⟨(all.filter fun m => decide (first < m.pos)).map (Mark.payload base), nth base first, nth base last⟩

section SendQueue

variable {first last : Nat}

theorem enqueueAppData_sendQueueOf (base : SeqNo) (all : List Mark) {msg : CPacket} (hle : first ≤ last) (hmsg : 0 < msg.byteLength)
    (hroom : last + msg.byteLength < 2 ^ 31) :
    (sendQueueOf base all first last).enqueueAppData msg =
      .ok (sendQueueOf base (all ++ [⟨last + msg.byteLength, msg⟩]) first
        (last + msg.byteLength)) := by
  have hfull : ¬ seqLess (nth base (last + msg.byteLength)) (nth base first) := by
    rw [seqLess_nth (by omega) (by omega)]
    omega
  have hfirst : first < last + msg.byteLength := by omega
  simp [sendQueueOf, TCPMsgBasedSendQueue.enqueueAppData, ← nth_add, hfull, filter_append,
    Mark.payload, hfirst, pure, Except.pure]

variable (hall : By Mark.pos all) (hpos : ∀ m ∈ all, m.pos ≤ last) (hlast : last < 2 ^ 31)

include hall hpos hlast

theorem createSegmentWithBytes_sendQueueOf (base : SeqNo) {a n : Nat} (hfirst : first ≤ a) (hend : a + n ≤ last) :
    (sendQueueOf base all first last).createSegmentWithBytes (nth base a) n =
      .ok (segmentOf base all a (a + n)) := by
  have hlt : ∀ m ∈ all, m.pos < 2 ^ 31 := fun m hm => Nat.lt_of_le_of_lt (hpos m hm) hlast
  have hbegin : seqLE (nth base first) (nth base a) := by rwa [seqLE_nth (by omega) (by omega)]
  have hto : seqLE (nth base (a + n)) (nth base last) := by rwa [seqLE_nth (by omega) (by omega)]
  have hkept := hall.filter fun m => decide (first < m.pos)
  have hdrop := dropWhile_payload (x := a) hkept
    (fun m hm => hlt m (mem_filter.mp hm).1) (by omega) base
  have htake := takeWhile_payload (x := a + n)
    (hkept.filter fun m => decide (a < m.pos))
    (fun m hm => hlt m (mem_filter.mp (mem_filter.mp hm).1).1) (by omega) base
  have hlist : ((all.filter fun m => decide (first < m.pos)).filter fun m =>
      decide (a < m.pos)).filter (fun m => decide (m.pos ≤ a + n)) =
        Mark.between a (a + n) all := by
    apply By.ext ((hkept.filter _).filter _) (Mark.between_ascending hall a (a + n))
    intro m
    simp only [mem_filter, Mark.mem_between, decide_eq_true_eq]
    constructor
    · intro hm
      exact ⟨hm.1.1.1, hm.1.2, hm.2⟩
    · intro hm
      exact ⟨⟨⟨hm.1, Nat.lt_of_le_of_lt hfirst hm.2.1⟩, hm.2.1⟩, hm.2.2⟩
  simp only [TCPMsgBasedSendQueue.createSegmentWithBytes, sendQueueOf, ← nth_add, hbegin, hto,
    and_self, ensure_pos, hdrop, htake, hlist, bind, Except.bind]
  simp [segmentOf, pure, Except.pure]

theorem discardUpTo_sendQueueOf (base : SeqNo) {x : Nat} (hfirst : first ≤ x) (hend : x ≤ last) :
    (sendQueueOf base all first last).discardUpTo (nth base x) =
      .ok (sendQueueOf base all x last) := by
  have hlt : ∀ m ∈ all, m.pos < 2 ^ 31 := fun m hm => Nat.lt_of_le_of_lt (hpos m hm) hlast
  have hbegin : seqLE (nth base first) (nth base x) := by rwa [seqLE_nth (by omega) (by omega)]
  have hto : seqLE (nth base x) (nth base last) := by rwa [seqLE_nth (by omega) (by omega)]
  have hkept := hall.filter fun m => decide (first < m.pos)
  have hdrop := dropWhile_payload (x := x) hkept
    (fun m hm => hlt m (mem_filter.mp hm).1) (by omega) base
  have hlist : (all.filter fun m => decide (first < m.pos)).filter (fun m => decide (x < m.pos)) =
      all.filter fun m => decide (x < m.pos) := by
    apply By.ext (hkept.filter _) (hall.filter _)
    intro m
    simp only [mem_filter, decide_eq_true_eq]
    constructor
    · intro hm
      exact ⟨hm.1.1, hm.2⟩
    · intro hm
      exact ⟨⟨hm.1, Nat.lt_of_le_of_lt hfirst hm.2⟩, hm.2⟩
  simp [TCPMsgBasedSendQueue.discardUpTo, sendQueueOf, hbegin, hto, hdrop, hlist, bind, Except.bind,
    pure, Except.pure]

end SendQueue

/-- Cutting bytes off both ends leaves the segment for the rest. -/
theorem truncateData_segmentOf (base : SeqNo) (hall : By Mark.pos all) {a c l r : Nat} (hc : c < 2 ^ 31)
    (hlr : a + l + r ≤ c) :
    (segmentOf base all a c).truncateData l r = .ok (segmentOf base all (a + l) (c - r)) := by
  have hfront : ((Mark.between a c all).map (Mark.payload base)).dropWhile
      (fun p => decide ((p.endSequenceNo - nth base a).toNat ≤ l)) =
      ((Mark.between a c all).filter fun m => decide (a + l < m.pos)).map (Mark.payload base) := by
    rw [dropWhile_map, (Mark.between_ascending hall a c).dropWhile_eq]
    intro m hm
    have hmem := (Mark.mem_between.mp hm).2
    have hdist : (nth base m.pos - nth base a).toNat = m.pos - a :=
      toNat_nth_sub base (by omega) (by omega)
    simp only [Function.comp, Mark.payload, hdist, decide_eq_true_eq]
    omega
  have hkept := (Mark.between_ascending hall a c).filter fun m => decide (a + l < m.pos)
  have hback : ((((Mark.between a c all).filter fun m => decide (a + l < m.pos)).map
      (Mark.payload base)).reverse.dropWhile
        (fun p => decide ((p.endSequenceNo - nth base (a + l)).toNat > c - a - (l + r)))).reverse =
      (((Mark.between a c all).filter fun m => decide (a + l < m.pos)).filter fun m =>
        decide (m.pos ≤ c - r)).map (Mark.payload base) := by
    rw [← map_reverse, dropWhile_map, ← map_reverse, hkept.dropWhile_reverse_eq]
    intro m hm
    have hmem := (Mark.mem_between.mp (mem_filter.mp hm).1).2
    have hlow : a + l < m.pos := of_decide_eq_true (mem_filter.mp hm).2
    have hdist : (nth base m.pos - nth base (a + l)).toNat = m.pos - (a + l) :=
      toNat_nth_sub base (by omega) (by omega)
    simp only [Function.comp, Mark.payload, hdist, decide_eq_true_eq]
    omega
  have hlist : ((Mark.between a c all).filter fun m => decide (a + l < m.pos)).filter
      (fun m => decide (m.pos ≤ c - r)) = Mark.between (a + l) (c - r) all := by
    apply By.ext (hkept.filter _) (Mark.between_ascending hall _ _)
    intro m
    simp only [mem_filter, Mark.mem_between, decide_eq_true_eq]
    constructor
    · intro hm
      exact ⟨hm.1.1.1, hm.1.2, hm.2⟩
    · intro hm
      exact ⟨⟨⟨hm.1, by omega, by omega⟩, hm.2.1⟩, hm.2.2⟩
  have hlen : l + r ≤ c - a := by omega
  have hrest : c - a - (l + r) = c - r - (a + l) := by omega
  rw [hlist, ← hfront] at hback
  simp only [TCPSegment.truncateData, segmentOf, ge_iff_le, hlen, ensure_pos, length_nil, ne_eq,
    not_true_eq_false, if_false, ← nth_add, bind, Except.bind, pure, Except.pure]
  congr 2

/-- A number that compares below the end of the window stands below it. -/
theorem lt_of_seqLess_window {a rcv : Nat} (ha : a < 2 ^ 31) (hwnd : wnd.toNat < 2 ^ 31)
    (h : seqLess (nth base a) (nth base rcv + wnd)) : a < rcv + wnd.toNat := by
  rw [nth_add_window] at h
  by_cases hfar : rcv + wnd.toNat ≤ a
  · exact absurd ((seqLess_nth (by omega) (by omega)).mp h) (by omega)
  · omega

/-- Cutting a segment down to the window leaves the segment for the part in it. -/
theorem truncateSegment_segmentOf (hall : By Mark.pos all) {a c rcv : Nat} (hac : a < c)
    (hc : c < 2 ^ 31) (hrcv : rcv < 2 ^ 31) (hwnd : wnd.toNat < 2 ^ 31)
    (h₁ : seqLess (nth base a) (nth base rcv + wnd)) (h₂ : seqLess (nth base rcv) (nth base c)) :
    (segmentOf base all a c).truncateSegment (nth base rcv) (nth base rcv + wnd) =
      .ok (segmentOf base all (max a rcv) (min c (rcv + wnd.toNat))) := by
  have haw := lt_of_seqLess_window (by omega) hwnd h₁
  have hwin := nth_add_window base rcv wnd
  have hlen : (segmentOf base all a c).payloadLength = c - a := rfl
  have hac' : a + (c - a) = c := by omega
  rw [hwin] at h₁ ⊢
  have hrc : rcv < c := (seqLess_nth (by omega) (by omega)).mp h₂
  have hnear : rcv + wnd.toNat < a + 2 ^ 31 := by
    by_cases hfar : a + 2 ^ 31 ≤ rcv + wnd.toNat
    · exact absurd h₁.2 (not_le_nth_of_far base hfar (by omega))
    · omega
  have hcut := (segmentOf base all a c).truncateSegment_nth rfl (by omega) haw (by omega)
    hnear (by omega)
  have hdata := truncateData_segmentOf base hall (a := a) (l := max a rcv - a)
    (r := c - min c (rcv + wnd.toNat)) hc (by omega)
  have hlo : a + (max a rcv - a) = max a rcv := by omega
  have hhi : c - (c - min c (rcv + wnd.toNat)) = min c (rcv + wnd.toNat) := by omega
  rw [hcut, hlen, hac', hdata, hlo, hhi]

theorem frontLEBack_map (base : SeqNo) (hl : By Mark.pos l) (hlt : ∀ m ∈ l, m.pos < 2 ^ 31) :
    FrontLEBack (l.map (Mark.item base)) := by
  simp only [FrontLEBack, head?_map, getLast?_map]
  cases l with
  | nil => trivial
  | cons f l =>
    obtain ⟨g, hg⟩ : ∃ g, (f :: l).getLast? = some g :=
      ⟨_, getLast?_eq_some_getLast (cons_ne_nil f l)⟩
    have hgm := mem_of_getLast? hg
    have hfg : f.pos ≤ g.pos := by
      cases mem_cons.mp hgm with
      | inl heq => exact Nat.le_of_eq (congrArg Mark.pos heq.symm)
      | inr hmem => exact Nat.le_of_lt ((By.cons_iff.mp hl).1 g hmem)
    have hg' := hlt g hgm
    have hle : seqLE (nth base f.pos) (nth base g.pos) := by rwa [seqLE_nth (by omega) (by omega)]
    simpa [hg, Mark.item] using hle

/-- The scan of the iterator splits the items at a position. -/
theorem scan_items (base : SeqNo) (hl : By Mark.pos l) (hlt : ∀ m ∈ l, m.pos < 2 ^ 31) {x : Nat}
    (hx : x < 2 ^ 31) (hpos : 0 < x) :
    (l.map (Mark.item base)).takeWhile (fun i => seqLess i.seqNo (nth base x)) =
        (l.filter fun m => decide (m.pos ≤ x - 1)).map (Mark.item base) ∧
      (l.map (Mark.item base)).dropWhile (fun i => seqLess i.seqNo (nth base x)) =
        (l.filter fun m => decide (x - 1 < m.pos)).map (Mark.item base) := by
  have hless : ∀ m ∈ l, (decide (seqLess (Mark.item base m).seqNo (nth base x)) = true) ↔
      m.pos ≤ x - 1 := by
    intro m hm
    have := hlt m hm
    have hle : seqLess (nth base m.pos) (nth base x) ↔ m.pos < x := seqLess_nth (by omega) (by omega)
    exact decide_eq_true_iff.trans (hle.trans (by omega))
  constructor
  · rw [takeWhile_map, hl.takeWhile_eq]
    exact hless
  · rw [dropWhile_map, hl.dropWhile_eq]
    exact hless

/-- Inserting the messages of a segment: the iterator never has to go back, and
a message that is there already is left out. -/
theorem insertMessages_map (base : SeqNo) (passed rest msgs : List Mark) (hitems : By Mark.pos (passed ++ rest))
    (hmsgs : By Mark.pos msgs) (hpos : ∀ m ∈ msgs, 0 < m.pos)
    (hbehind : ∀ p ∈ passed, ∀ m ∈ msgs, p.pos < m.pos)
    (hsame : ∀ r ∈ rest, ∀ m ∈ msgs, r.pos = m.pos → r = m)
    (hlt : ∀ x, x ∈ passed ∨ x ∈ rest ∨ x ∈ msgs → x.pos < 2 ^ 31) :
    ∃ l, insertMessages (passed.map (Mark.item base))
        (rest.map (Mark.item base)) (msgs.map (Mark.payload base)) = .ok (l.map (Mark.item base)) ∧
      By Mark.pos l ∧ ∀ x, x ∈ l ↔ x ∈ passed ∨ x ∈ rest ∨ x ∈ msgs := by
  induction msgs generalizing passed rest with
  | nil => exact ⟨passed ++ rest, by simp [insertMessages], hitems, by simp⟩
  | cons m msgs ih =>
    obtain ⟨hpassed, hrest, hpr⟩ := By.append_iff.mp hitems
    obtain ⟨hm, hmsgs'⟩ := By.cons_iff.mp hmsgs
    have hmlt := hlt m (by simp)
    have hmpos := hpos m (by simp)
    obtain ⟨htake, hdrop⟩ := scan_items base hrest (fun r hr => hlt r (by simp [hr])) hmlt
      hmpos
    generalize hfront : (rest.filter fun r => decide (r.pos ≤ m.pos - 1)) = front at htake
    generalize hback : (rest.filter fun r => decide (m.pos - 1 < r.pos)) = back at hdrop
    have hmemf : ∀ x, x ∈ front ↔ x ∈ rest ∧ x.pos ≤ m.pos - 1 := by simp [← hfront]
    have hmemb : ∀ x, x ∈ back ↔ x ∈ rest ∧ m.pos - 1 < x.pos := by simp [← hback]
    have hbacka : By Mark.pos back := hback ▸ hrest.filter _
    have hfronta : By Mark.pos (passed ++ front) :=
      By.append_iff.mpr ⟨hpassed, hfront ▸ hrest.filter _, fun p hp x hx =>
        hpr p hp x ((hmemf x).mp hx).1⟩
    have hbelow : ∀ p ∈ passed ++ front, p.pos < m.pos := by
      intro p hp
      cases mem_append.mp hp with
      | inl hpass => exact hbehind p hpass m (by simp)
      | inr hfr => have := ((hmemf p).mp hfr).2; omega
    have hbehind' : ∀ p ∈ passed ++ front, ∀ x ∈ msgs, p.pos < x.pos := fun p hp x hx =>
      Nat.lt_trans (hbelow p hp) (hm x hx)
    have hpos' : ∀ x ∈ msgs, 0 < x.pos := fun x hx => hpos x (by simp [hx])
    by_cases hhead : (back.map (Mark.item base)).head?.map PayloadItem.seqNo = some (nth base m.pos)
    · -- the message at this position has been there before
      have hmback : m ∈ back := by
        cases back with
        | nil => simp at hhead
        | cons r back =>
          have hr := (hmemb r).mp (by simp)
          have hrlt := hlt r (by simp [hr.1])
          have heq : nth base r.pos = nth base m.pos := by simpa [Mark.item] using hhead
          have hpeq : r.pos = m.pos := (nth_eq_nth (by omega) (by omega)).mp heq
          rw [← hsame r hr.1 m (by simp) hpeq]
          simp
      have hitems' : By Mark.pos ((passed ++ front) ++ back) :=
        By.append_iff.mpr ⟨hfronta, hbacka, fun p hp x hx => by
          have h₁ := hbelow p hp
          have h₂ := ((hmemb x).mp hx).2
          omega⟩
      obtain ⟨l, hrun, hl, hmem⟩ := ih _ _ hitems' hmsgs' hpos' hbehind'
        (fun r hr x hx => hsame r ((hmemb r).mp hr).1 x (by simp [hx]))
        (fun x hx => hlt x (by
          grind))
      refine ⟨l, ?_, hl, ?_⟩
      · simp only [map_append] at hrun
        simp only [insertMessages, map_cons, Mark.payload, htake, hdrop, hhead,
          if_true]
        exact hrun
      · intro x
        grind
    · have habove : ∀ x ∈ back, m.pos < x.pos := by
        cases back with
        | nil => simp
        | cons r back =>
          have hr := (hmemb r).mp (by simp)
          have hne : r.pos ≠ m.pos := fun heq => hhead (by simp [Mark.item, heq])
          intro x hx
          cases mem_cons.mp hx with
          | inl heq => rw [heq]; omega
          | inr hmem => have := (By.cons_iff.mp hbacka).1 x hmem; omega
      have hitems' : By Mark.pos ((passed ++ front) ++ m :: back) :=
        By.append_iff.mpr ⟨hfronta, By.cons_iff.mpr ⟨habove, hbacka⟩, fun p hp x hx => by
          have h₁ := hbelow p hp
          cases mem_cons.mp hx with
          | inl heq => rw [heq]; exact h₁
          | inr hmem => exact Nat.lt_trans h₁ (habove x hmem)⟩
      have hlt' : ∀ x, x ∈ passed ++ front ∨ x ∈ m :: back ∨ x ∈ msgs → x.pos < 2 ^ 31 := by
        intro x hx
        apply hlt x
        simp only [mem_append, mem_cons] at hx ⊢
        grind
      obtain ⟨l, hrun, hl, hmem⟩ := ih _ _ hitems' hmsgs' hpos' hbehind'
        (fun r hr x hx heq => by
          cases mem_cons.mp hr with
          | inl hrm => rw [hrm] at heq; exact absurd (hm x hx) (by omega)
          | inr hrb => exact hsame r ((hmemb r).mp hrb).1 x (by simp [hx]) heq)
        hlt'
      have hensure := frontLEBack_map base hitems' (fun x hx => hlt' x (by
        grind))
      refine ⟨l, ?_, hl, ?_⟩
      · simp only [map_append, map_cons, Mark.item] at hrun hensure
        simp only [insertMessages, map_cons, Mark.payload, htake, hdrop, hhead,
          if_false]
        rw [ensure_pos (by exact hensure)]
        exact hrun
      · intro x
        grind

/-- The receive queue after the positions in `seen` arrived and those below `low`
were extracted, of a stream that ends at `last`: it keeps the messages of which
only the last byte has arrived. -/
structure Received (base : SeqNo) (all : List Mark) (last : Nat) (seen : Nat → Prop) (low rcv : Nat)
    (marks : List Mark) (q : TCPMsgBasedRcvQueue) : Prop where
  tracks : ∃ spans, Tracks base (Region.ofSpan base) 0 seen low rcv spans q.toTCPVirtualDataRcvQueue
  payloadList : q.payloadList = marks.map (Mark.item base)
  ascending : By Mark.pos marks
  mem : ∀ m, m ∈ marks ↔ m ∈ all ∧ low < m.pos ∧ seen (m.pos - 1)
  marks_le : ∀ m ∈ all, m.pos ≤ last
  seen_lt : ∀ i, seen i → i < last
  last_lt : last < 2 ^ 31

namespace Received

variable {last low rcv : Nat} {seen : Nat → Prop} {marks : List Mark} {q : TCPMsgBasedRcvQueue}

section

variable (h : Received base all last seen low rcv marks q)
include h

theorem rcv_le : rcv ≤ last := by
  obtain ⟨spans, ht⟩ := h.tracks
  cases rcv with
  | zero => exact Nat.zero_le _
  | succ n => exact h.seen_lt n (ht.first.seen_below n (Nat.zero_le _) (Nat.lt_succ_self n))

theorem pos_le {m : Mark} (hm : m ∈ marks) : m.pos ≤ last := h.marks_le m ((h.mem m).mp hm).1

/-- What the stream is extended by has not arrived. -/
theorem extend {new : Mark} (hnew : last < new.pos)
    (hlt : new.pos < 2 ^ 31) : Received base (all ++ [new]) new.pos seen low rcv marks q where
  tracks := h.tracks
  payloadList := h.payloadList
  ascending := h.ascending
  mem := by
    intro m
    rw [h.mem, mem_append, mem_singleton]
    constructor
    · intro hm
      exact ⟨.inl hm.1, hm.2⟩
    · rintro ⟨hm | hm, hrest⟩
      · exact ⟨hm, hrest⟩
      · have := h.seen_lt _ hrest.2
        rw [hm] at this
        omega
  marks_le := by
    intro m hm
    rw [mem_append, mem_singleton] at hm
    cases hm with
    | inl hall => exact Nat.le_of_lt (Nat.lt_of_le_of_lt (h.marks_le m hall) hnew)
    | inr heq => exact Nat.le_of_eq (congrArg Mark.pos heq)
  seen_lt i hi := Nat.lt_trans (h.seen_lt i hi) hnew
  last_lt := hlt

end

/-- The first message has arrived as a whole and is handed up. -/
theorem extract_message {m : Mark} (h : Received base all last seen low rcv (m :: marks) q)
    (hm : m.pos ≤ rcv) :
    ∃ q', q.extractBytesUpTo q.rcvNxt = .ok (some m.msg, q') ∧
      Received base all last seen m.pos rcv marks q' := by
  obtain ⟨spans, ht⟩ := h.tracks
  obtain ⟨hall, hlow, -⟩ := (h.mem m).mp (by simp)
  have hrcv := h.rcv_le
  have hlast := h.last_lt
  obtain ⟨spans', v, hext, ht'⟩ := ht.extractTo_some (depicts base) hlow hm
  have hseq : q.extractLimit q.rcvNxt = nth base m.pos := by
    simp (disch := omega) only [extractLimit, h.payloadList, map_cons,
      Mark.item, ht.rcvNxt, seqLess_nth]
    split
    · rfl
    · rw [show rcv = m.pos by omega]
  refine ⟨{ toTCPVirtualDataRcvQueue := v, payloadList := marks.map (Mark.item base) }, ?_, ?_⟩
  · simp [extractBytesUpTo, hseq, hext, h.payloadList, Mark.item, ofSpan,
      bind, Except.bind, pure, Except.pure]
  · obtain ⟨hlt, hasc⟩ := By.cons_iff.mp h.ascending
    refine ⟨⟨spans', ht'⟩, rfl, hasc, ?_, h.marks_le, h.seen_lt, h.last_lt⟩
    intro x
    constructor
    · intro hx
      have hmem := (h.mem x).mp (by simp [hx])
      exact ⟨hmem.1, hlt x hx, hmem.2.2⟩
    · intro hx
      cases mem_cons.mp ((h.mem x).mpr ⟨hx.1, Nat.lt_trans hlow hx.2.1, hx.2.2⟩) with
      | inl heq => exact absurd hx.2.1 (by rw [heq]; exact Nat.lt_irrefl _)
      | inr hmem => exact hmem

/-- No message is complete: what is there of the next one is taken out of the queue. -/
theorem extract_rest (h : Received base all last seen low rcv marks q) (hm : ∀ m ∈ marks, rcv < m.pos) :
    ∃ q', q.extractBytesUpTo q.rcvNxt = .ok (none, q') ∧ Received base all last seen rcv rcv marks q' := by
  obtain ⟨spans, ht⟩ := h.tracks
  have hlast := h.last_lt
  have hle := ht.low_le
  have hseq : q.extractLimit q.rcvNxt = nth base rcv := by
    cases marks with
    | nil => simp [extractLimit, h.payloadList, ht.rcvNxt]
    | cons m l =>
      have hmr := hm m (by simp)
      have hml := h.pos_le (m := m) (by simp)
      have hnot : ¬ seqLess (nth base m.pos) (nth base rcv) := by
        rw [seqLess_nth (by omega) (by omega)]
        omega
      simp [extractLimit, h.payloadList, ht.rcvNxt, Mark.item, hnot]
  have hmem : ∀ m, m ∈ marks ↔ m ∈ all ∧ rcv < m.pos ∧ seen (m.pos - 1) := by
    intro m
    constructor
    · intro hx
      have := (h.mem m).mp hx
      exact ⟨this.1, hm m hx, this.2.2⟩
    · intro hx
      exact (h.mem m).mpr ⟨hx.1, Nat.lt_of_le_of_lt hle hx.2.1, hx.2.2⟩
  by_cases hlow : low < rcv
  · obtain ⟨spans', v, hext, ht'⟩ := ht.extractTo_some (depicts base) hlow (Nat.le_refl _)
    refine ⟨{ q with toTCPVirtualDataRcvQueue := v }, ?_, ⟨spans', ht'⟩, h.payloadList, h.ascending,
      hmem, h.marks_le, h.seen_lt, h.last_lt⟩
    simp only [extractBytesUpTo, hseq, hext, bind, Except.bind]
    cases marks with
    | nil => simp [h.payloadList, pure, Except.pure]
    | cons m l =>
      have hmr := hm m (by simp)
      have hml := h.pos_le (m := m) (by simp)
      have hne : nth base m.pos ≠ nth base rcv := by
        rw [Ne, nth_eq_nth (by omega) (by omega)]
        omega
      simp [h.payloadList, Mark.item, ofSpan, hne, pure, Except.pure]
  · have heq : low = rcv := by omega
    have hext := ht.extractTo_none_of_eq (depicts base) heq
    refine ⟨q, ?_, ⟨spans, heq ▸ ht⟩, h.payloadList, h.ascending, hmem, h.marks_le, h.seen_lt,
      h.last_lt⟩
    simp [extractBytesUpTo, hseq, hext, bind, Except.bind, pure, Except.pure]

/-- Extracting until there is no message hands up those that are complete. -/
theorem extractAll (h : Received base all last seen low rcv marks q) (rounds : Nat)
    (hrounds : marks.length < rounds) :
    ∃ q', q.extractAll rounds = .ok ((marks.filter fun m => decide (m.pos ≤ rcv)).map Mark.msg, q') ∧
      Received base all last seen rcv rcv (marks.filter fun m => decide (rcv < m.pos)) q' := by
  induction marks generalizing low q rounds with
  | nil =>
    obtain ⟨q', hext, h'⟩ := h.extract_rest (by simp)
    cases rounds with
    | zero => simp at hrounds
    | succ rounds =>
      refine ⟨q', ?_, h'⟩
      simp [extractAll, hext, bind, Except.bind, pure, Except.pure]
  | cons m marks ih =>
    cases rounds with
    | zero => simp at hrounds
    | succ rounds =>
      by_cases hm : m.pos ≤ rcv
      · obtain ⟨q₁, hext, h₁⟩ := h.extract_message hm
        obtain ⟨q', hrun, h'⟩ := ih h₁ rounds (by simpa using hrounds)
        have hm' : ¬ rcv < m.pos := by omega
        refine ⟨q', ?_, by simpa [hm'] using h'⟩
        simp [extractAll, hext, hrun, hm, bind, Except.bind, pure, Except.pure]
      · have hall : ∀ x ∈ m :: marks, rcv < x.pos := by
          intro x hx
          cases mem_cons.mp hx with
          | inl heq => rw [heq]; omega
          | inr hmem => have := (By.cons_iff.mp h.ascending).1 x hmem; omega
        obtain ⟨q', hext, h'⟩ := h.extract_rest hall
        have hnone : (m :: marks).filter (fun x => decide (x.pos ≤ rcv)) = [] := by
          rw [filter_eq_nil_iff]
          intro x hx
          have := hall x hx
          simp only [decide_eq_true_eq]
          omega
        have hkeep : (m :: marks).filter (fun x => decide (rcv < x.pos)) = m :: marks := by
          rw [filter_eq_self]
          intro x hx
          exact decide_eq_true (hall x hx)
        refine ⟨q', ?_, by rwa [hkeep]⟩
        simp [extractAll, hext, hnone, bind, Except.bind, pure, Except.pure]

/-- A segment with a part in the window is inserted, and what it completes is handed up. -/
theorem receive (h : Received base all last seen rcv rcv marks q) (hall : By Mark.pos all)
    (hac : a < c) (hc : c ≤ last) (hwnd : 0 < wnd.toNat)
    (hwnd' : wnd.toNat < 2 ^ 31) (h₁ : seqLess (nth base a) (nth base rcv + wnd))
    (h₂ : seqLess (nth base rcv) (nth base c)) :
    ∃ seen' rcv' marks' q', rcv ≤ rcv' ∧
      MsgExchange.receive q (segmentOf base all a c) wnd =
        .ok ((Mark.between rcv rcv' all).map Mark.msg, q') ∧
      Received base all last seen' rcv' rcv' marks' q' := by
  obtain ⟨spans, ht⟩ := h.tracks
  have hrcv := h.rcv_le
  have hlast := h.last_lt
  have hrc : rcv < c := (seqLess_nth (by omega) (by omega)).mp h₂
  have haw := lt_of_seqLess_window (by omega) hwnd' h₁
  have htrunc := truncateSegment_segmentOf hall hac (by omega) (by omega) hwnd' h₁ h₂
  generalize hlo : max a rcv = lo at htrunc
  generalize hhi : min c (rcv + wnd.toNat) = hi at htrunc
  have hseg : RegionClass.createRegionFromSegment (segmentOf base all lo hi) =
      .ok (ofSpan base ⟨lo, hi⟩) := by
    have hle : lo + (hi - lo) = hi := by omega
    simp [RegionClass.createRegionFromSegment, segmentOf, ofSpan, TCPSegment.endNo, ← nth_add,
      hle]
  have hnew : (⟨lo, hi⟩ : Span).lo < (⟨lo, hi⟩ : Span).hi := by simp only; omega
  obtain ⟨rcv', v, hins, ht'⟩ := ht.insert (depicts base) hseg hnew (by simp only; omega)
    (by simp only; omega) (by simp only; omega) fun _ _ _ _ => trivial
  have hseen' : ∀ i, seen i ∨ (⟨lo, hi⟩ : Span).Has i → i < last := by
    intro i hi'
    cases hi' with
    | inl hs => exact h.seen_lt i hs
    | inr hs => have := hs.2; simp only at this; omega
  have hle : rcv ≤ rcv' := by
    by_cases hlt : rcv' < rcv
    · exact absurd (.inl (ht.first.seen_below rcv' (Nat.zero_le _) hlt)) ht'.first.missing
    · omega
  -- the messages of the segment join those that are waiting
  have hbetween : ∀ x, x ∈ Mark.between lo hi all → x.pos ≤ last := fun x hx =>
    h.marks_le x (Mark.mem_between.mp hx).1
  obtain ⟨marks₁, hmsgs, hasc, hmem⟩ := insertMessages_map base [] marks (Mark.between lo hi all)
    (by simpa using h.ascending)
    (Mark.between_ascending hall lo hi) (fun m hm => by have := (Mark.mem_between.mp hm).2.1; omega)
    (by simp)
    (fun r hr m hm heq => hall.key_inj ((h.mem r).mp hr).1 (Mark.mem_between.mp hm).1 heq)
    (fun x hx => by
      rcases hx with hx | hx | hx
      · cases hx
      · exact Nat.lt_of_le_of_lt (h.pos_le hx) hlast
      · exact Nat.lt_of_le_of_lt (hbetween x hx) hlast)
  have hreceived : Received base all last (fun i => seen i ∨ (⟨lo, hi⟩ : Span).Has i) rcv rcv' marks₁
      { toTCPVirtualDataRcvQueue := v, payloadList := marks₁.map (Mark.item base) } := by
    refine ⟨⟨_, ht'⟩, rfl, hasc, ?_, h.marks_le, hseen', hlast⟩
    intro x
    rw [hmem, h.mem, Mark.mem_between]
    simp only [Span.Has]
    constructor
    · intro hx
      rcases hx with hx | hx | hx
      · cases hx
      · exact ⟨hx.1, hx.2.1, .inl hx.2.2⟩
      · exact ⟨hx.1, by omega, .inr (by omega)⟩
    · rintro ⟨hx, hpos, hs | hs⟩
      · exact .inr (.inl ⟨hx, hpos, hs⟩)
      · exact .inr (.inr ⟨hx, by omega⟩)
  have hcomplete : (marks₁.filter fun m => decide (m.pos ≤ rcv')) = Mark.between rcv rcv' all := by
    apply By.ext (hasc.filter _) (Mark.between_ascending hall rcv rcv')
    intro x
    rw [mem_filter, hreceived.mem, Mark.mem_between]
    simp only [decide_eq_true_eq]
    constructor
    · intro hx
      exact ⟨hx.1.1, hx.1.2.1, hx.2⟩
    · intro hx
      exact ⟨⟨hx.1, hx.2.1, ht'.first.seen_below (x.pos - 1) (Nat.zero_le _) (by omega)⟩, hx.2.2⟩
  have hrcv' := hreceived.rcv_le
  have hsame : nth base rcv' = nth base rcv ↔ rcv' = rcv := nth_eq_nth (by omega) (by omega)
  have hinsert : q.insertBytesFromSegment (segmentOf base all lo hi) =
      .ok { toTCPVirtualDataRcvQueue := v, payloadList := marks₁.map (Mark.item base) } := by
    simp only [map_nil] at hmsgs
    simp [insertBytesFromSegment, hins, h.payloadList, segmentOf_payloadList,
      hmsgs, bind, Except.bind, pure, Except.pure]
  by_cases hmove : rcv' = rcv
  · subst hmove
    have hnone : Mark.between rcv' rcv' all = [] := by
      rw [Mark.between, filter_eq_nil_iff]
      intro x hx
      simp
    refine ⟨_, rcv', marks₁, _, Nat.le_refl _, ?_, hreceived⟩
    simp [MsgExchange.receive, ht.rcvNxt, htrunc, hinsert, ht'.rcvNxt, hnone, bind, Except.bind, pure,
      Except.pure]
  · obtain ⟨q', hall', hq'⟩ := hreceived.extractAll (marks₁.length + 1) (by simp)
    rw [hcomplete] at hall'
    refine ⟨_, rcv', _, q', hle, ?_, hq'⟩
    simp [MsgExchange.receive, ht.rcvNxt, htrunc, hinsert, ht'.rcvNxt, hsame, hmove, hall', bind,
      Except.bind]

end Received

namespace MsgExchange

/-- What holds in every state: the bytes below `first` are discarded, and those
below `rcv` have been received in order. -/
structure Consistent (startSeq : SeqNo) (s : MsgExchange) (first rcv : Nat) : Prop where
  positive : ∀ m ∈ s.enqueued, 0 < m.byteLength
  room : total s.enqueued < 2 ^ 31
  sendQueue : s.sendQueue =
    sendQueueOf startSeq (Mark.ofMessages 0 s.enqueued) first (total s.enqueued)
  first_le : first ≤ rcv
  segments : ∀ seg ∈ s.segments, ∃ a c, a < c ∧ c ≤ total s.enqueued ∧
    seg = segmentOf startSeq (Mark.ofMessages 0 s.enqueued) a c
  received : ∃ seen marks, Received startSeq (Mark.ofMessages 0 s.enqueued) (total s.enqueued) seen
    rcv rcv marks s.receiveQueue
  handedUp : s.handedUp = (Mark.between 0 rcv (Mark.ofMessages 0 s.enqueued)).map Mark.msg

namespace Consistent

variable {startSeq : SeqNo} {s : MsgExchange} {first rcv : Nat}

theorem init (startSeq : SeqNo) : Consistent startSeq (.init startSeq) 0 0 where
  positive := by simp [MsgExchange.init]
  room := by simp [MsgExchange.init, total]
  sendQueue := by
    simp [MsgExchange.init, sendQueueOf, TCPMsgBasedSendQueue.init, Mark.ofMessages, total]
  first_le := Nat.le_refl _
  segments := by simp [MsgExchange.init]
  received := by
    have ht := Tracks.init startSeq (ofSpan startSeq) 0
    rw [nth_zero] at ht
    exact ⟨_, [], ⟨_, ht⟩, rfl, By.nil, by simp [MsgExchange.init, Mark.ofMessages],
      by simp [MsgExchange.init, Mark.ofMessages], by simp, by simp [MsgExchange.init, total]⟩
  handedUp := by simp [MsgExchange.init, Mark.ofMessages, Mark.between]

section

variable (h : Consistent startSeq s first rcv)
include h

theorem ascending :
    By Mark.pos (Mark.ofMessages 0 s.enqueued) := Mark.ofMessages_ascending 0 h.positive

theorem marks_le : ∀ m ∈ Mark.ofMessages 0 s.enqueued, m.pos ≤ total s.enqueued := fun m hm => by
  simpa using (Mark.mem_ofMessages h.positive hm).2

theorem rcv_le : rcv ≤ total s.enqueued := by
  obtain ⟨seen, marks, hr⟩ := h.received
  exact hr.rcv_le

theorem rcvNxt : s.receiveQueue.rcvNxt = nth startSeq rcv := by
  obtain ⟨seen, marks, hr⟩ := h.received
  obtain ⟨spans, ht⟩ := hr.tracks
  exact ht.rcvNxt

/-- A number of the sequence space as a position, counted from where the send queue begins. -/
theorem nth_of_sub (x : SeqNo) : x = nth startSeq (first + (x - s.sendQueue.beginNo).toNat) := by
  have hx := eq_nth s.sendQueue.beginNo x
  rw [h.sendQueue] at hx ⊢
  rwa [← nth_nth]

theorem enqueue {msg : CPacket} (ha : s.Allowed (.enqueueAppData msg)) :
    ∃ s', s.step (.enqueueAppData msg) = .ok s' ∧ Consistent startSeq s' first rcv := by
  obtain ⟨hmsg, hroom⟩ := ha
  have hrcv := h.rcv_le
  have hfirst := h.first_le
  have htotal : total (s.enqueued ++ [msg]) = total s.enqueued + msg.byteLength := by simp [total]
  have happ := Mark.ofMessages_append 0 s.enqueued msg
  rw [Nat.zero_add] at happ
  have hbetween : ∀ a c, c ≤ total s.enqueued →
      Mark.between a c (Mark.ofMessages 0 (s.enqueued ++ [msg])) =
        Mark.between a c (Mark.ofMessages 0 s.enqueued) := by
    intro a c hc
    rw [happ, Mark.between_append]
    intro x hx
    rw [mem_singleton.mp hx]
    simp only
    omega
  have hqueue := enqueueAppData_sendQueueOf startSeq (Mark.ofMessages 0 s.enqueued) (Nat.le_trans hfirst hrcv) hmsg hroom
  rw [← h.sendQueue] at hqueue
  have hrun : s.step (.enqueueAppData msg) = .ok { s with
      enqueued := s.enqueued ++ [msg]
      sendQueue := sendQueueOf startSeq
        (Mark.ofMessages 0 s.enqueued ++ [⟨total s.enqueued + msg.byteLength, msg⟩]) first
        (total s.enqueued + msg.byteLength) } := by
    simp [step, hqueue, bind, Except.bind, pure, Except.pure]
  refine ⟨_, hrun, ?_, htotal ▸ hroom, ?_, h.first_le, ?_, ?_, ?_⟩
  · intro m hm
    cases mem_append.mp hm with
    | inl hold => exact h.positive m hold
    | inr hnew => rw [mem_singleton.mp hnew]; exact hmsg
  · simp only [htotal, happ]
  · intro seg hseg
    obtain ⟨a, c, hac, hc, heq⟩ := h.segments seg hseg
    refine ⟨a, c, hac, by simp only [htotal]; omega, ?_⟩
    rw [heq, segmentOf, segmentOf, hbetween a c hc]
  · obtain ⟨seen, marks, hr⟩ := h.received
    refine ⟨seen, marks, ?_⟩
    simp only [htotal, happ]
    exact hr.extend (by simp only; omega) hroom
  · rw [hbetween 0 rcv hrcv]
    exact h.handedUp

theorem createSegment {fromSeq : SeqNo} {numBytes : Nat}
    (ha : s.Allowed (.createSegmentWithBytes fromSeq numBytes)) :
    ∃ s', s.step (.createSegmentWithBytes fromSeq numBytes) = .ok s' ∧
      Consistent startSeq s' first rcv := by
  obtain ⟨hpos, hrange⟩ := ha
  have hrcv := h.rcv_le
  have hfirst := h.first_le
  have hroom := h.room
  have hfrom := h.nth_of_sub fromSeq
  have hlen : (s.sendQueue.endNo - s.sendQueue.beginNo).toNat = total s.enqueued - first := by
    rw [h.sendQueue]
    exact toNat_nth_sub startSeq (by omega) (by omega)
  have hseg := createSegmentWithBytes_sendQueueOf h.ascending h.marks_le hroom startSeq
    (Nat.le_add_right first (fromSeq - s.sendQueue.beginNo).toNat) (n := numBytes) (by omega)
  rw [← h.sendQueue, ← hfrom] at hseg
  have hrun : s.step (.createSegmentWithBytes fromSeq numBytes) = .ok { s with
      segments := segmentOf startSeq (Mark.ofMessages 0 s.enqueued)
        (first + (fromSeq - s.sendQueue.beginNo).toNat)
        (first + (fromSeq - s.sendQueue.beginNo).toNat + numBytes) :: s.segments } := by
    simp [step, hseg, bind, Except.bind, pure, Except.pure]
  refine ⟨_, hrun, h.positive, h.room, h.sendQueue, h.first_le, ?_, h.received, h.handedUp⟩
  intro seg hmem
  cases mem_cons.mp hmem with
  | inl heq => exact ⟨_, _, by omega, by simp only; omega, heq⟩
  | inr hold => exact h.segments seg hold

theorem discard {seqNum : SeqNo} (ha : s.Allowed (.discardUpTo seqNum)) :
    ∃ s' first', s.step (.discardUpTo seqNum) = .ok s' ∧ Consistent startSeq s' first' rcv := by
  have hrcv := h.rcv_le
  have hfirst := h.first_le
  have hroom := h.room
  have hseq := h.nth_of_sub seqNum
  have hlen : (s.receiveQueue.rcvNxt - s.sendQueue.beginNo).toNat = rcv - first := by
    rw [h.sendQueue, h.rcvNxt]
    exact toNat_nth_sub startSeq (by omega) (by omega)
  have hacked : (seqNum - s.sendQueue.beginNo).toNat ≤ rcv - first := hlen ▸ ha
  have hqueue := discardUpTo_sendQueueOf h.ascending h.marks_le hroom startSeq
    (Nat.le_add_right first (seqNum - s.sendQueue.beginNo).toNat) (by omega)
  rw [← h.sendQueue, ← hseq] at hqueue
  have hrun : s.step (.discardUpTo seqNum) = .ok { s with
      sendQueue := sendQueueOf startSeq (Mark.ofMessages 0 s.enqueued)
        (first + (seqNum - s.sendQueue.beginNo).toNat) (total s.enqueued) } := by
    simp [step, hqueue, bind, Except.bind, pure, Except.pure]
  exact ⟨_, _, hrun, h.positive, h.room, rfl, by omega, h.segments, h.received, h.handedUp⟩

theorem deliver {tcpseg : TCPSegment}
    (ha : s.Allowed (.deliver tcpseg wnd)) (hw : s.InWindow (.deliver tcpseg wnd)) :
    ∃ s' rcv', s.step (.deliver tcpseg wnd) = .ok s' ∧ Consistent startSeq s' first rcv' := by
  obtain ⟨hmem, hwnd, hwnd'⟩ := ha
  obtain ⟨a, c, hac, hc, hseg⟩ := h.segments tcpseg hmem
  obtain ⟨seen, marks, hr⟩ := h.received
  have hend : (segmentOf startSeq (Mark.ofMessages 0 s.enqueued) a c).endNo = nth startSeq c := by
    rw [TCPSegment.endNo, segmentOf, ← nth_add, Nat.add_sub_cancel' (Nat.le_of_lt hac)]
  simp only [InWindow, hseg, h.rcvNxt, hend] at hw
  obtain ⟨seen', rcv', marks', q', hle, hrec, hr'⟩ :=
    hr.receive h.ascending hac hc hwnd hwnd' hw.1 hw.2
  have hrun : s.step (.deliver tcpseg wnd) = .ok { s with
      receiveQueue := q'
      handedUp := s.handedUp ++
        (Mark.between rcv rcv' (Mark.ofMessages 0 s.enqueued)).map Mark.msg } := by
    simp [step, hseg, hrec, bind, Except.bind, pure, Except.pure]
  have hsplit : Mark.between 0 rcv (Mark.ofMessages 0 s.enqueued) ++
      Mark.between rcv rcv' (Mark.ofMessages 0 s.enqueued) =
        Mark.between 0 rcv' (Mark.ofMessages 0 s.enqueued) := by
    apply By.ext _ (Mark.between_ascending h.ascending 0 rcv')
    · intro x
      rw [mem_append, Mark.mem_between, Mark.mem_between, Mark.mem_between]
      constructor
      · rintro (hx | hx)
        · exact ⟨hx.1, hx.2.1, by omega⟩
        · exact ⟨hx.1, by omega, hx.2.2⟩
      · intro hx
        by_cases hpos : x.pos ≤ rcv
        · exact .inl ⟨hx.1, hx.2.1, hpos⟩
        · exact .inr ⟨hx.1, by omega, hx.2.2⟩
    · apply By.append_iff.mpr ⟨Mark.between_ascending h.ascending 0 rcv,
        Mark.between_ascending h.ascending rcv rcv', ?_⟩
      intro x hx y hy
      have h₁ := (Mark.mem_between.mp hx).2.2
      have h₂ := (Mark.mem_between.mp hy).2.1
      omega
  refine ⟨_, rcv', hrun, h.positive, h.room, h.sendQueue, Nat.le_trans h.first_le hle, h.segments,
    ⟨seen', marks', hr'⟩, ?_⟩
  simp only [h.handedUp, ← map_append, hsplit]

end

/-- A segment without a part in the window is refused by `truncateSegment`. -/
theorem inWindow_of_ok {a : MsgAction} {s' : MsgExchange} (hrun : s.step a = .ok s') :
    s.InWindow a := by
  cases a with
  | deliver tcpseg wnd =>
    obtain ⟨r, hrec, -⟩ := bind_ok.mp hrun
    obtain ⟨seg, htrunc, -⟩ := bind_ok.mp hrec
    exact TCPSegment.truncateSegment_ok htrunc
  | enqueueAppData msg => trivial
  | createSegmentWithBytes fromSeq numBytes => trivial
  | discardUpTo seqNum => trivial

/-- Whatever is allowed keeps the exchange consistent. -/
theorem progress (h : Consistent startSeq s first rcv) {a : MsgAction} (ha : s.Allowed a)
    (hw : s.InWindow a) : ∃ s' first' rcv', s.step a = .ok s' ∧ Consistent startSeq s' first' rcv' := by
  cases a with
  | enqueueAppData msg =>
    obtain ⟨s', hrun, h'⟩ := h.enqueue ha
    exact ⟨s', first, rcv, hrun, h'⟩
  | createSegmentWithBytes fromSeq numBytes =>
    obtain ⟨s', hrun, h'⟩ := h.createSegment ha
    exact ⟨s', first, rcv, hrun, h'⟩
  | discardUpTo seqNum =>
    obtain ⟨s', first', hrun, h'⟩ := h.discard ha
    exact ⟨s', first', rcv, hrun, h'⟩
  | deliver tcpseg wnd =>
    obtain ⟨s', rcv', hrun, h'⟩ := h.deliver ha hw
    exact ⟨s', first, rcv', hrun, h'⟩

end Consistent

theorem Reachable.consistent {startSeq : SeqNo} {s : MsgExchange} (h : Reachable startSeq s) :
    ∃ first rcv, Consistent startSeq s first rcv := by
  induction h with
  | init => exact ⟨0, 0, Consistent.init startSeq⟩
  | step a h allowed run ih =>
    obtain ⟨first, rcv, hc⟩ := ih
    obtain ⟨s', first', rcv', hrun, hc'⟩ := hc.progress allowed (Consistent.inWindow_of_ok run)
    rw [run] at hrun
    cases hrun
    exact ⟨first', rcv', hc'⟩

/-- The messages handed up are a prefix of those enqueued, message `k` is among
them exactly when `rcvNxt` has reached its end, and no allowed action fails
unless it delivers a segment without a part in the window. -/
theorem delivers_messages {startSeq : SeqNo} {s : MsgExchange} (h : Reachable startSeq s) :
    s.handedUp <+: s.enqueued ∧
      (∀ k, k < s.enqueued.length → (k < s.handedUp.length ↔
        total (s.enqueued.take (k + 1)) ≤ (s.receiveQueue.rcvNxt - startSeq).toNat)) ∧
      ∀ a, s.Allowed a → s.InWindow a → ∃ s', s.step a = .ok s' := by
  obtain ⟨first, rcv, hc⟩ := h.consistent
  have hle := hc.rcv_le
  have hroom := hc.room
  have hlist : Mark.between 0 rcv (Mark.ofMessages 0 s.enqueued) =
      (Mark.ofMessages 0 s.enqueued).filter fun m => decide (m.pos ≤ rcv) := by
    apply By.ext (Mark.between_ascending hc.ascending 0 rcv) (hc.ascending.filter _)
    intro m
    rw [Mark.mem_between, List.mem_filter, decide_eq_true_iff]
    exact ⟨fun hm => ⟨hm.1, hm.2.2⟩,
      fun hm => ⟨hm.1, (Mark.mem_ofMessages hc.positive hm.1).1, hm.2⟩⟩
  have hup : s.handedUp =
      ((Mark.ofMessages 0 s.enqueued).filter fun m => decide (m.pos ≤ rcv)).map Mark.msg := by
    rw [← hlist]
    exact hc.handedUp
  refine ⟨?_, ?_, ?_⟩
  · have htake := hc.ascending.takeWhile_eq (p := fun m => decide (m.pos ≤ rcv)) (x := rcv) (by simp)
    have hmasked := (List.takeWhile_prefix (l := Mark.ofMessages 0 s.enqueued)
      fun m => decide (m.pos ≤ rcv)).map Mark.msg
    rwa [htake, ← hup, Mark.ofMessages_msg] at hmasked
  · intro k hk
    have hlen : (Mark.ofMessages 0 s.enqueued).length = s.enqueued.length := by
      rw [← length_map Mark.msg, Mark.ofMessages_msg]
    have hdist : (s.receiveQueue.rcvNxt - startSeq).toNat = rcv := by
      have hsub := toNat_nth_sub startSeq (Nat.zero_le rcv) (by omega)
      rw [nth_zero] at hsub
      rw [hc.rcvNxt, hsub, Nat.sub_zero]
    have hcount := hc.ascending.lt_length_filter (x := rcv) (k := k) (by omega)
    rw [Mark.getElem_ofMessages, Nat.zero_add] at hcount
    rw [hup, length_map, hdist, hcount]
  · intro a ha hw
    obtain ⟨s', first', rcv', hrun, -⟩ := hc.progress ha hw
    exact ⟨s', hrun⟩

/-- A message that crosses the end of the number space arrives in two segments,
the second one first. -/
theorem reordered_reachable : Reachable (-3) ⟨[⟨1, 6⟩], ⟨[⟨3, ⟨1, 6⟩⟩], -3, 3⟩,
    [{ sequenceNo := 1, payloadLength := 2, payloadList := [⟨3, ⟨1, 6⟩⟩] }, { sequenceNo := -3, payloadLength := 4 }],
    { rcvNxt := 3, regionList := [], payloadList := [] }, [⟨1, 6⟩]⟩ := by
  have h₀ : Reachable (-3) (.init (-3)) := .init
  have h₁ : Reachable (-3) ⟨[⟨1, 6⟩], ⟨[⟨3, ⟨1, 6⟩⟩], -3, 3⟩, [], .init (-3), []⟩ :=
    h₀.step (.enqueueAppData ⟨1, 6⟩) (by decide) (by decide)
  have h₂ : Reachable (-3) ⟨[⟨1, 6⟩], ⟨[⟨3, ⟨1, 6⟩⟩], -3, 3⟩,
      [{ sequenceNo := -3, payloadLength := 4 }], .init (-3), []⟩ :=
    h₁.step (.createSegmentWithBytes (-3) 4) (by decide) (by decide)
  have h₃ : Reachable (-3) ⟨[⟨1, 6⟩], ⟨[⟨3, ⟨1, 6⟩⟩], -3, 3⟩,
      [{ sequenceNo := 1, payloadLength := 2, payloadList := [⟨3, ⟨1, 6⟩⟩] },
        { sequenceNo := -3, payloadLength := 4 }], .init (-3), []⟩ :=
    h₂.step (.createSegmentWithBytes 1 2) (by decide) (by decide)
  have h₄ : Reachable (-3) ⟨[⟨1, 6⟩], ⟨[⟨3, ⟨1, 6⟩⟩], -3, 3⟩,
      [{ sequenceNo := 1, payloadLength := 2, payloadList := [⟨3, ⟨1, 6⟩⟩] },
        { sequenceNo := -3, payloadLength := 4 }],
      { rcvNxt := -3, regionList := [⟨1, 3⟩], payloadList := [⟨3, ⟨1, 6⟩⟩] }, []⟩ :=
    h₃.step (.deliver { sequenceNo := 1, payloadLength := 2, payloadList := [⟨3, ⟨1, 6⟩⟩] } 100)
      (by decide) (by decide)
  exact h₄.step (.deliver { sequenceNo := -3, payloadLength := 4 } 100) (by decide) (by decide)

theorem delivers_messages_reordered :
    ∃ s : MsgExchange, s.handedUp = [⟨1, 6⟩] ∧ s.handedUp <+: s.enqueued :=
  ⟨_, rfl, (delivers_messages reordered_reachable).1⟩

/-- No message is lost: what has not been handed up is still in the send queue, which holds the last
messages. -/
theorem nothing_lost {startSeq : SeqNo} {s : MsgExchange} (h : Reachable startSeq s) :
    ∃ rest, s.enqueued = s.handedUp ++ rest ∧ rest <:+ s.sendQueue.payloadQueue.map (·.msg) ∧
      s.sendQueue.payloadQueue.map (·.msg) <:+ s.enqueued := by
  obtain ⟨first, rcv, hc⟩ := h.consistent
  have hfirst := hc.first_le
  have hmsg := Mark.ofMessages_msg 0 s.enqueued
  have hqueue : s.sendQueue.payloadQueue.map (·.msg) =
      ((Mark.ofMessages 0 s.enqueued).filter fun m => decide (first < m.pos)).map Mark.msg := by
    simp [hc.sendQueue, sendQueueOf, Mark.payload]
  have hbetween : ∀ m ∈ Mark.ofMessages 0 s.enqueued, (decide (0 < m.pos) && decide (m.pos ≤ rcv)) = decide (m.pos ≤ rcv) :=
    fun m hm => by simp [(Mark.mem_ofMessages hc.positive hm).1]
  have hup := hc.handedUp
  rw [Mark.between, filter_congr hbetween] at hup
  have hasc := hc.ascending
  generalize Mark.ofMessages 0 s.enqueued = all at hmsg hqueue hup hasc
  refine ⟨(all.filter fun m => decide (rcv < m.pos)).map Mark.msg, ?_, ?_, ?_⟩
  · rw [hup, ← map_append, hasc.filter_append_filter, hmsg]
  · -- what is discarded has been received
    have hrest := ((hasc.filter fun m => decide (first < m.pos)).filter_suffix rcv).map Mark.msg
    have hsame : ∀ m ∈ all, (decide (rcv < m.pos) && decide (first < m.pos)) = decide (rcv < m.pos) := by grind
    rwa [filter_filter, ← hqueue, filter_congr hsame] at hrest
  · rw [hqueue, ← hmsg]
    exact (hasc.filter_suffix first).map Mark.msg

/-- One message has been handed up and acknowledged, another one waits to be sent. -/
theorem waiting_not_lost : ∃ s : MsgExchange, s.handedUp = [⟨1, 6⟩] ∧ s.sendQueue.payloadQueue.map (·.msg) = [⟨2, 4⟩] ∧
    ∃ rest, [⟨1, 6⟩, ⟨2, 4⟩] = s.handedUp ++ rest ∧ rest <:+ [⟨2, 4⟩] ∧ [⟨2, 4⟩] <:+ s.enqueued := by
  have h₁ := reordered_reachable.step (.enqueueAppData ⟨2, 4⟩) (by decide) rfl
  have h₂ := h₁.step (.discardUpTo 3) (by decide) rfl
  exact ⟨_, rfl, rfl, nothing_lost h₂⟩

end MsgExchange

end Inet.Tcp
