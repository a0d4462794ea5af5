import Inetmanet.Tcp.RcvQueueSpans

/-!
# The byte stream receive queue

`TCPByteStreamRcvQueue.cc`: regions that carry their bytes.
-/
namespace Inet.Tcp

open SerialNumber SpanList Bytes TCPVirtualDataRcvQueue

/-- `TCPByteStreamRcvQueue::Region` -/
structure ByteStreamRegion where
  beginNo : SeqNo
  endNo : SeqNo
  data : Bytes
  deriving DecidableEq, Repr

namespace ByteStreamRegion

/-- The offset of `buff + a - b`, where the numbers are added as 64-bit values. -/
def pointerOffset (a b : SeqNo) : Int := a.toNat - b.toNat

def merge (r other : ByteStreamRegion) : Sim (Option ByteStreamRegion) := do
  if seqLess r.endNo other.beginNo ∨ seqLess other.endNo r.beginNo then
    return none
  let nbegin := seqMin r.beginNo other.beginNo
  let nend := seqMax r.endNo other.endNo
  if nbegin = r.beginNo ∧ nend = r.endNo then
    return some r
  let buff := newBuffer (nend - nbegin).toNat
  let buff ← (if nbegin ≠ r.beginNo then
      copyDataToBuffer other.data buff 0 (r.beginNo - nbegin).toNat
    else pure buff)
  let buff ← copyDataToBuffer r.data buff (pointerOffset r.beginNo nbegin)
    (r.endNo - r.beginNo).toNat
  let buff ← (if nend ≠ r.endNo then
      copyDataToBuffer other.data buff (pointerOffset r.endNo nbegin) (nend - r.endNo).toNat
    else pure buff)
  return some ⟨nbegin, nend, buff⟩

def split (r : ByteStreamRegion) (seq : SeqNo) : Sim (ByteStreamRegion × ByteStreamRegion) := do
  ensure (seqGreater seq r.beginNo ∧ seqLess seq r.endNo)
    "seqGreater(seq, begin) && seqLess(seq, end)"
  let front ← setDataFromByteArray r.data 0 (seq - r.beginNo).toNat
  let rest ← truncateData r.data (seq - r.beginNo).toNat 0
  return (⟨r.beginNo, seq, front⟩, ⟨seq, r.endNo, rest⟩)

def createRegionFromSegment (tcpseg : TCPSegment) : Sim ByteStreamRegion := do
  ensure (tcpseg.payloadLength = tcpseg.byteArray.length)
    "tcpseg->getPayloadLength() == tcpseg->getByteArray().getDataArraySize()"
  return ⟨tcpseg.sequenceNo, tcpseg.endNo, tcpseg.byteArray⟩

/-- `copyTo`: the byte array of the packet. -/
def copyTo (r : ByteStreamRegion) : Sim Bytes := do
  ensure ((r.endNo - r.beginNo).toNat = r.data.length) "getLength() == data.getDataArraySize()"
  return r.data

end ByteStreamRegion

instance : RegionClass ByteStreamRegion where
  getBegin := ByteStreamRegion.beginNo
  getEnd := ByteStreamRegion.endNo
  merge := ByteStreamRegion.merge
  split := ByteStreamRegion.split
  createRegionFromSegment := ByteStreamRegion.createRegionFromSegment

namespace ByteStreamRegion

variable {stream : Nat → UInt8} {base : SeqNo}

/-- The region of a span, with the bytes of the stream. -/
def ofSpan (stream : Nat → UInt8) (base : SeqNo) (s : Span) : ByteStreamRegion :=
  ⟨nth base s.lo, nth base s.hi, slice stream s.lo s.hi⟩

/-- No number from that of `m` on to that of `n` is zero, the first apart. -/
def NoWrap (base : SeqNo) (m n : Nat) : Prop := (nth base m).toNat ≤ (nth base n).toNat

/-- When `merge` of a region of `s` with one of `r` gets the bytes right: what `r`
has behind `s` is copied from the start of `r`, and the places to copy to are
computed from numbers that are not taken modulo `2 ^ 32`. -/
structure Fits (stream : Nat → UInt8) (base : SeqNo) (s r : Span) : Prop where
  tail : ∀ j, s.hi + j < r.hi → stream (r.lo + j) = stream (s.hi + j)
  tail_place : s.hi < r.hi → NoWrap base (min s.lo r.lo) s.hi
  place : r.lo < s.lo → NoWrap base r.lo s.lo

theorem pointerOffset_nth {m n : Nat} (h : m ≤ n) (hlen : n ≤ m + 2 ^ 31) (hw : NoWrap base m n) :
    pointerOffset (nth base n) (nth base m) = ((n - m : Nat) : Int) := by
  have hsub := toNat_nth_sub base h (by omega)
  rw [BitVec.toNat_sub_of_le hw] at hsub
  simp only [NoWrap] at hw
  rw [pointerOffset]
  omega

/-- What a region has behind another one is a part of the stream, if it fits. -/
theorem copied_tail {s r : Span} (hf : Fits stream base s r) (hlt : s.hi < r.hi)
    (hlo : r.lo ≤ s.hi) :
    copied (slice stream r.lo r.hi) (r.hi - s.hi) 0 = slice stream s.hi r.hi := by
  have hlen : s.hi + (r.hi - s.hi) = r.hi := by omega
  rw [copied_slice stream (by omega)]
  have heq := slice_eq_slice (n := r.hi - s.hi) fun j hj =>
    hf.tail j (by omega)
  rw [heq, hlen]

section Copies

/-! The three copies of `merge`, for spans that overlap or touch. -/

theorem copy_middle {s r : Span} (hs : s.lo < s.hi) :
    copyDataToBuffer (slice stream s.lo s.hi)
      (slice stream (min s.lo r.lo) s.lo ++ newBuffer (max s.hi r.hi - s.lo))
      (slice stream (min s.lo r.lo) s.lo).length (s.hi - s.lo) =
      .ok (slice stream (min s.lo r.lo) s.hi ++ newBuffer (max s.hi r.hi - s.hi)) := by
  have hsrc : copied (slice stream s.lo s.hi) (s.hi - s.lo) 0 = slice stream s.lo s.hi := by
    rw [copied_slice stream (by omega), Nat.add_sub_cancel' (Nat.le_of_lt hs)]
  have hrest : max s.hi r.hi - s.lo - (s.hi - s.lo) = max s.hi r.hi - s.hi := by omega
  rw [copyDataToBuffer_append _ hsrc (by simp only [length_slice]; omega),
    slice_append stream (by omega) (by omega), length_slice, hrest]

variable {s r : Span} (hs : s.lo < s.hi) (hr : r.lo < r.hi) (h₁ : r.lo ≤ s.hi) (h₂ : s.lo ≤ r.hi)
  (hlen : max s.hi r.hi ≤ min s.lo r.lo + 2 ^ 31)

include hs hr h₁ h₂ hlen

theorem copy_front :
    (if nth base (min s.lo r.lo) ≠ nth base s.lo then
        copyDataToBuffer (slice stream r.lo r.hi) (newBuffer (max s.hi r.hi - min s.lo r.lo)) 0
          (s.lo - min s.lo r.lo)
      else pure (newBuffer (max s.hi r.hi - min s.lo r.lo))) =
      (.ok (slice stream (min s.lo r.lo) s.lo ++ newBuffer (max s.hi r.hi - s.lo)) : Sim Bytes) := by
  by_cases hlt : r.lo < s.lo
  · have hne : nth base (min s.lo r.lo) ≠ nth base s.lo := by
      rw [Ne, nth_eq_nth (by omega) (by omega)]
      omega
    have hmin : min s.lo r.lo = r.lo := by omega
    have hsrc : copied (slice stream r.lo r.hi) (s.lo - r.lo) 0 = slice stream r.lo s.lo := by
      rw [copied_slice stream (by omega), Nat.add_sub_cancel' (Nat.le_of_lt hlt)]
    have hcopy := copyDataToBuffer_append [] (n := max s.hi r.hi - r.lo) hsrc
      (by simp only [length_slice]; omega)
    have hrest : max s.hi r.hi - s.lo = max s.hi r.hi - r.lo - (s.lo - r.lo) := by omega
    simp only [List.nil_append, List.length_nil, Int.ofNat_zero, length_slice] at hcopy
    rw [if_pos hne, hmin, hrest]
    exact hcopy
  · have hmin : min s.lo r.lo = s.lo := by omega
    simp [hmin, pure, Except.pure]

theorem copy_tail (hf : Fits stream base s r) :
    (if nth base (max s.hi r.hi) ≠ nth base s.hi then
        copyDataToBuffer (slice stream r.lo r.hi)
          (slice stream (min s.lo r.lo) s.hi ++ newBuffer (max s.hi r.hi - s.hi))
          (pointerOffset (nth base s.hi) (nth base (min s.lo r.lo))) (max s.hi r.hi - s.hi)
      else pure (slice stream (min s.lo r.lo) s.hi ++ newBuffer (max s.hi r.hi - s.hi))) =
      (.ok (slice stream (min s.lo r.lo) (max s.hi r.hi)) : Sim Bytes) := by
  by_cases hlt : s.hi < r.hi
  · have hne : nth base (max s.hi r.hi) ≠ nth base s.hi := by
      rw [Ne, nth_eq_nth (by omega) (by omega)]
      omega
    have hmax : max s.hi r.hi = r.hi := by omega
    have hoff : pointerOffset (nth base s.hi) (nth base (min s.lo r.lo)) =
        ((slice stream (min s.lo r.lo) s.hi).length : Int) := by
      rw [length_slice]
      exact pointerOffset_nth (by omega) (by omega) (hf.tail_place hlt)
    rw [if_pos hne, hoff, hmax,
      copyDataToBuffer_append _ (copied_tail hf hlt h₁) (by simp only [length_slice]; omega),
      slice_append stream (by omega) (by omega)]
    simp [newBuffer]
  · have hmax : max s.hi r.hi = s.hi := by omega
    simp [hmax, newBuffer, pure, Except.pure]

end Copies

theorem merge_ofSpan {s r : Span} (hs : s.lo < s.hi) (hr : r.lo < r.hi) (h₁ : ¬ s.Apart r)
    (h₂ : ¬ r.Apart s) (hlen : (s.hull r).hi ≤ (s.hull r).lo + 2 ^ 31)
    (hf : Fits stream base s r) :
    merge (ofSpan stream base s) (ofSpan stream base r) =
      .ok (some (ofSpan stream base (s.hull r))) := by
  simp only [Span.Apart, Nat.not_lt, Span.hull_lo, Span.hull_hi] at h₁ h₂ hlen
  have hless : ¬ (seqLess (nth base s.hi) (nth base r.lo) ∨
      seqLess (nth base r.hi) (nth base s.lo)) := by
    simp (disch := omega) only [seqLess_nth]
    omega
  have hmin : seqMin (nth base s.lo) (nth base r.lo) = nth base (min s.lo r.lo) :=
    seqMin_nth (by omega) (by omega)
  have hmax : seqMax (nth base s.hi) (nth base r.hi) = nth base (max s.hi r.hi) :=
    seqMax_nth (by omega) (by omega)
  by_cases hin : nth base (min s.lo r.lo) = nth base s.lo ∧ nth base (max s.hi r.hi) = nth base s.hi
  · have hlo : min s.lo r.lo = s.lo := (nth_eq_nth (by omega) (by omega)).mp hin.1
    have hhi : max s.hi r.hi = s.hi := (nth_eq_nth (by omega) (by omega)).mp hin.2
    simp [merge, ofSpan, Span.hull, hless, hmin, hmax, hlo, hhi, pure, Except.pure]
  · have hsize : (nth base (max s.hi r.hi) - nth base (min s.lo r.lo)).toNat =
        max s.hi r.hi - min s.lo r.lo := toNat_nth_sub base (by omega) (by omega)
    have hfront : (nth base s.lo - nth base (min s.lo r.lo)).toNat = s.lo - min s.lo r.lo :=
      toNat_nth_sub base (by omega) (by omega)
    have hmid : (nth base s.hi - nth base s.lo).toNat = s.hi - s.lo :=
      toNat_nth_sub base (by omega) (by omega)
    have hback : (nth base (max s.hi r.hi) - nth base s.hi).toNat = max s.hi r.hi - s.hi :=
      toNat_nth_sub base (by omega) (by omega)
    have hplace : pointerOffset (nth base s.lo) (nth base (min s.lo r.lo)) =
        ((slice stream (min s.lo r.lo) s.lo).length : Int) := by
      rw [length_slice]
      apply pointerOffset_nth (by omega) (by omega)
      by_cases hlt : r.lo < s.lo
      · rw [Nat.min_eq_right (Nat.le_of_lt hlt)]
        exact hf.place hlt
      · rw [Nat.min_eq_left (by omega)]
        exact Nat.le_refl _
    simp only [merge, ofSpan, hless, if_false, hmin, hmax, hin, hsize, hfront, hmid, hback, hplace,
      bind, Except.bind]
    rw [copy_front hs hr h₁ h₂ hlen]
    simp only
    rw [copy_middle hs]
    simp only
    rw [copy_tail hs hr h₁ h₂ hlen hf]
    rfl

theorem split_ofSpan (s : Span) (m : Nat) (h₁ : s.lo < m) (h₂ : m < s.hi)
    (hlen : s.hi ≤ s.lo + 2 ^ 31) :
    split (ofSpan stream base s) (nth base m) =
      .ok (ofSpan stream base ⟨s.lo, m⟩, ofSpan stream base ⟨m, s.hi⟩) := by
  have hg : seqGreater (nth base m) (nth base s.lo) := by rwa [seqGreater_nth (by omega) (by omega)]
  have hl : seqLess (nth base m) (nth base s.hi) := by rwa [seqLess_nth (by omega) (by omega)]
  have hfront : (nth base m - nth base s.lo).toNat = m - s.lo :=
    toNat_nth_sub base (by omega) (by omega)
  have hparts := slice_append stream (Nat.le_of_lt h₁) (Nat.le_of_lt h₂)
  have hset : setDataFromByteArray (slice stream s.lo s.hi) 0 (m - s.lo) =
      .ok (slice stream s.lo m) := by
    have hcopied : copied (slice stream s.lo s.hi) (m - s.lo) 0 =
        slice stream s.lo (s.lo + (m - s.lo)) := copied_slice stream (by omega)
    rw [Nat.add_sub_cancel' (Nat.le_of_lt h₁)] at hcopied
    have hle : m - s.lo ≤ s.hi - s.lo := by omega
    simp [setDataFromByteArray, hle, hcopied, bind, Except.bind, pure, Except.pure]
  have htrunc : truncateData (slice stream s.lo s.hi) (m - s.lo) 0 = .ok (slice stream m s.hi) := by
    have hle : m - s.lo ≤ s.hi - s.lo := by omega
    have hdrop : (slice stream s.lo s.hi).drop (m - s.lo) = slice stream m s.hi := by
      rw [← hparts]
      exact List.drop_left' (by simp)
    have htake : (slice stream m s.hi).take (s.hi - s.lo - (m - s.lo)) = slice stream m s.hi :=
      List.take_of_length_le (by simp only [length_slice]; omega)
    simp [truncateData, copied, hle, hdrop, htake, bind, Except.bind, pure, Except.pure]
  simp [split, ofSpan, hg, hl, hfront, hset, htrunc, bind, Except.bind, pure, Except.pure]

theorem depicts (stream : Nat → UInt8) (base : SeqNo) :
    Depicts base (Fits stream base) (ofSpan stream base) where
  getBegin _ := rfl
  getEnd _ := rfl
  merge _ _ := merge_ofSpan
  split := split_ofSpan
  grow _ _ hi hlt hf := {
    tail := fun j hj => absurd (Nat.lt_trans (Nat.lt_of_le_of_lt (Nat.le_add_right hi j) hj) hlt)
      (Nat.lt_irrefl hi)
    tail_place := fun h => absurd (Nat.lt_trans h hlt) (Nat.lt_irrefl hi)
    place := hf.place }

theorem copyTo_ofSpan (stream : Nat → UInt8) (base : SeqNo) {lo hi : Nat} (h : lo ≤ hi) (hlen : hi < lo + 2 ^ 32) :
    copyTo (ofSpan stream base ⟨lo, hi⟩) = .ok (slice stream lo hi) := by
  have hsub := toNat_nth_sub base h (by omega)
  simp [copyTo, ofSpan, hsub, bind, Except.bind, pure, Except.pure]

end ByteStreamRegion

namespace TCPByteStreamRcvQueue

/-- What the calls hand up until they are through or one of them fails, and what they end with. -/
def run (q : TCPVirtualDataRcvQueue ByteStreamRegion) : List RcvQueueCall →
    Bytes × Sim (TCPVirtualDataRcvQueue ByteStreamRegion)
  | [] => ([], .ok q)
  | .insertBytesFromSegment tcpseg :: calls =>
    match q.insertBytesFromSegment tcpseg with
    | .ok q => run q calls
    | .error e => ([], .error e)
  | .extractBytesUpTo seq :: calls =>
    match q.extractBytesUpTo ByteStreamRegion.copyTo seq with
    | .ok (msg, q) => ((msg.getD []) ++ (run q calls).1, (run q calls).2)
    | .error e => ([], .error e)

/-- The calls feed the queue with segments of the stream that lie in the window
behind the first missing position, and extract up to that position. Every
segment fits the buffered data that it overlaps or touches. -/
inductive Feeds (stream : Nat → UInt8) (base : SeqNo) (start : Nat) :
    (Nat → Prop) → Nat → List RcvQueueCall → (Nat → Prop) → Nat → Prop where
  | nil {seen low} : Feeds stream base start seen low [] seen low
  | insert {seen low calls seen' low'} (tcpseg : TCPSegment) (rcv off : Nat)
      (seq : tcpseg.sequenceNo = nth base off) (nonempty : 0 < tcpseg.payloadLength)
      (bytes : tcpseg.byteArray = slice stream off (off + tcpseg.payloadLength))
      (first : FirstMissing start seen rcv) (lower : rcv ≤ off)
      (upper : off + tcpseg.payloadLength < rcv + 2 ^ 31)
      (fits : ∀ r, Buffered seen low r → off ≤ r.hi → r.lo ≤ off + tcpseg.payloadLength →
        ByteStreamRegion.Fits stream base ⟨off, off + tcpseg.payloadLength⟩ r)
      (rest : Feeds stream base start
        (fun i => seen i ∨ off ≤ i ∧ i < off + tcpseg.payloadLength) low calls seen' low') :
      Feeds stream base start seen low (.insertBytesFromSegment tcpseg :: calls) seen' low'
  | extract {seen low calls seen' low'} (rcv : Nat) (first : FirstMissing start seen rcv)
      (rest : Feeds stream base start seen rcv calls seen' low') :
      Feeds stream base start seen low (.extractBytesUpTo (nth base rcv) :: calls) seen' low'

/-- How a run ends: all data below `low` has been handed up, or the range check has thrown. -/
def Ends (low e : Nat) : Sim (TCPVirtualDataRcvQueue ByteStreamRegion) → Prop
  | .ok _ => e = low
  | .error err => err = .runtime
      "The new segment is [%u, %u) out of the acceptable range at the queue %s"

theorem run_delivers {stream : Nat → UInt8} {base : SeqNo} {start low low' : Nat}
    {seen seen' : Nat → Prop} {calls : List RcvQueueCall}
    (h : Feeds stream base start seen low calls seen' low') {rcv : Nat} {spans : List Span}
    {q : TCPVirtualDataRcvQueue ByteStreamRegion}
    (hq : Tracks base (ByteStreamRegion.ofSpan stream base) start seen low rcv spans q) :
    ∃ e, low ≤ e ∧ (run q calls).1 = slice stream low e ∧ Ends low' e (run q calls).2 := by
  induction h generalizing rcv spans q with
  | nil => exact ⟨_, Nat.le_refl _, by simp [run], by simp [run, Ends]⟩
  | @insert seen low calls seen' low' tcpseg rcv₀ off seq nonempty bytes first lower upper fits rest ih =>
    have hrcv := hq.first.unique first
    subst hrcv
    have hd := ByteStreamRegion.depicts stream base
    have hseg : RegionClass.createRegionFromSegment tcpseg =
        .ok (ByteStreamRegion.ofSpan stream base ⟨off, off + tcpseg.payloadLength⟩) := by
      simp [RegionClass.createRegionFromSegment, ByteStreamRegion.createRegionFromSegment,
        ByteStreamRegion.ofSpan, TCPSegment.endNo, seq, nth_add, bytes, bind, Except.bind, pure,
        Except.pure]
    have hne : off < off + tcpseg.payloadLength := by omega
    by_cases range : off + tcpseg.payloadLength ≤ low + 2 ^ 31
    · obtain ⟨rcv₁, q₁, hins, hq₁⟩ := hq.insert hd hseg hne lower upper range
        fun r hr h₁ h₂ => fits r (hq.buffered hr) (Nat.not_lt.mp h₂) (Nat.not_lt.mp h₁)
      obtain ⟨e, hle, hout, hend⟩ := ih hq₁
      exact ⟨e, hle, by simp [run, hins, hout], by simpa [run, hins] using hend⟩
    · have hout := (hq.outOfRange_iff (s := ⟨off, off + tcpseg.payloadLength⟩) hd hne lower
        upper).mpr (Nat.not_le.mp range)
      refine ⟨low, Nat.le_refl _, ?_⟩
      simp [run, insertBytesFromSegment, hseg, hout, Ends, bind, Except.bind,
        throw, throwThe, MonadExceptOf.throw]
  | @extract seen low calls seen' low' rcv₀ first rest ih =>
    have hrcv := hq.first.unique first
    subst hrcv
    have hd := ByteStreamRegion.depicts stream base
    by_cases hlow : low < rcv
    · obtain ⟨spans₁, q₁, hext, hq₁⟩ := hq.extractTo_some hd hlow (Nat.le_refl _)
      obtain ⟨e, hle, hout, hend⟩ := ih hq₁
      have hwin := hq.rcv_le
      have hcopy := ByteStreamRegion.copyTo_ofSpan stream base (Nat.le_of_lt hlow) (by omega)
      have happ := slice_append stream (Nat.le_of_lt hlow) hle
      refine ⟨e, by omega, ?_, ?_⟩
      · simp [run, extractBytesUpTo, hext, hcopy, hout, happ, bind,
          Except.bind, pure, Except.pure]
      · simpa [run, extractBytesUpTo, hext, hcopy, bind, Except.bind, pure,
          Except.pure] using hend
    · have heq : low = rcv := Nat.le_antisymm hq.low_le (Nat.not_lt.mp hlow)
      subst heq
      have hext := hq.extractTo_none_of_eq hd rfl
      obtain ⟨e, hle, hout, hend⟩ := ih hq
      refine ⟨e, hle, ?_, ?_⟩
      · simp [run, extractBytesUpTo, hext, hout, bind, Except.bind, pure,
          Except.pure]
      · simpa [run, extractBytesUpTo, hext, bind, Except.bind, pure,
          Except.pure] using hend

/-- What is handed up is the stream from its first byte on, byte for byte. -/
theorem delivers_stream {stream : Nat → UInt8} {base : SeqNo} {start low : Nat}
    {seen : Nat → Prop} {calls : List RcvQueueCall}
    (h : Feeds stream base start (fun _ => False) start calls seen low) :
    ∃ e, start ≤ e ∧ (run (.init (nth base start)) calls).1 = slice stream start e ∧
      Ends low e (run (.init (nth base start)) calls).2 :=
  run_delivers h (Tracks.init base _ start)

/-- Two segments that touch arrive in the wrong order. -/
theorem delivers_stream_touching :
    ∃ e, 0 ≤ e ∧ (run (.init (nth (0 : SeqNo) 0))
        [.insertBytesFromSegment { sequenceNo := 1, payloadLength := 2, byteArray := [1, 2] },
          .insertBytesFromSegment { sequenceNo := 0, payloadLength := 1, byteArray := [0] },
          .extractBytesUpTo (nth 0 3)]).1 = slice UInt8.ofNat 0 e := by
  have h₃ : Feeds UInt8.ofNat 0 0 (fun i => (False ∨ 1 ≤ i ∧ i < 1 + 2) ∨ 0 ≤ i ∧ i < 0 + 1) 0
      [.extractBytesUpTo (nth 0 3)] _ 3 :=
    .extract 3 ⟨by decide, by decide, by intro i; omega⟩ .nil
  have h₂ := Feeds.insert { sequenceNo := 0, payloadLength := 1, byteArray := [0] } 0 0 (by decide)
    (by decide) (by decide) ⟨by decide, by decide, by intro i; omega⟩ (by decide) (by decide)
    (by
      intro r hr h₁ h₂
      -- the only region is `[1, 3)`
      have hlo := (hr.arrived r.lo ⟨Nat.le_refl _, hr.nonempty⟩).1
      have hr1 : r.lo = 1 := by
        simp only [false_or] at hlo h₂
        omega
      exact ⟨by simp [hr1], by simp [hr1, ByteStreamRegion.NoWrap], by simp⟩) h₃
  have h₁ := Feeds.insert { sequenceNo := 1, payloadLength := 2, byteArray := [1, 2] } 0 1
    (by decide) (by decide) (by decide) ⟨by decide, by decide, by intro i; omega⟩ (by decide)
    (by decide)
    (fun r hr _ _ => absurd (hr.arrived r.lo ⟨Nat.le_refl _, hr.nonempty⟩).1 id) h₂
  obtain ⟨e, hle, hout, -⟩ := delivers_stream h₁
  exact ⟨e, hle, hout⟩

/-- `[1, 4)` is buffered and `[0, 2)` arrives: its end is followed by the start of
the buffered region. And a segment behind the wrap around that touches a region
before it is copied to a place outside of the buffer. -/
theorem merge_copies_wrong_bytes :
    (run (.init 0)
      [.insertBytesFromSegment { sequenceNo := 1, payloadLength := 3, byteArray := [1, 2, 3] },
        .insertBytesFromSegment { sequenceNo := 0, payloadLength := 2, byteArray := [0, 1] },
        .extractBytesUpTo 4]).1 = [0, 1, 1, 2] ∧
    slice UInt8.ofNat 0 4 = [0, 1, 2, 3] ∧
    (run (.init 0xffffffff)
      [.insertBytesFromSegment { sequenceNo := 0xffffffff, payloadLength := 1, byteArray := [0] },
        .insertBytesFromSegment { sequenceNo := 0, payloadLength := 1, byteArray := [1] }]).2 =
      .error (.outOfBounds "ptr") := by
  decide

end TCPByteStreamRcvQueue

end Inet.Tcp
