import Inetmanet.Tcp.SenderPlaces

/-!
# When a segment carries data

`sendData` looks for data at `snd_nxt`, but after a timeout `sendSegment` starts from the
first octet that has neither been acknowledged selectively nor been sent again. Where
there is none, the segment is empty and the retransmission queue refuses it.
-/
namespace Inet.Tcp

open TCPSACKRexmitQueue Relation BitVec

namespace TCPReno

section Progress

variable {s s' : TCPReno} {bytes : SeqNo}

/-- From `snd_nxt` on there is an octet in the send queue that is not passed over. -/
def CanSend (s : TCPReno) : Prop :=
  s.optionsLen s.sent.length < s.state.sndMss ∧ ∃ n, s.offset s.state.sndNxt ≤ n ∧ n < s.buffered ∧
    (s.state.afterRto = true → ∀ f, s.rexmitQueue.octets[n]? = some f → ¬ PassedOver f)

/-- A range that is not empty is put into the retransmission queue, and its octets into a segment. -/
def Progresses (s : TCPReno) (bytes : SeqNo) : Prop := ∃ s', s.sendSegment bytes = .ok s' ∧ 0 < s'.state.sentBytes

theorem segmentBytes_pos (hoptions : s.optionsLen s.sent.length < s.state.sndMss) (hbytes : 0 < bytes)
    (hbuffered : s.buffered < 2 ^ 31) (hlt : s.offset s.state.sndNxt < s.buffered) : 0 < s.segmentBytes bytes := by
  have havailable := getBytesAvailable_of_le hbuffered (Nat.le_of_lt hlt)
  rw [lt_def, toNat_segmentBytes hoptions]
  rw [lt_def] at hoptions hbytes
  change 0 < _
  change 0 < _ at hbytes
  split <;> omega

/-- Where the segment will start. -/
theorem Placed.forwards (h : s.Placed) (hsack : s.state.sackEnabled = true) (hcan : s.CanSend) : ∃ from_ : SeqNo,
    s.forwardSndNxt = .ok (s.setSndNxt from_) ∧ s.offset from_ ≤ s.rexmitQueue.octets.length ∧ s.offset from_ < s.buffered := by
  obtain ⟨-, n, hle, hlt, hpassed⟩ := hcan
  have htogether := h.together hsack
  have hnext : s.offset s.state.sndNxt ≤ s.rexmitQueue.octets.length := by
    have hreach : s.reach = s.rexmitQueue.octets.length := if_pos hsack
    rcases h.sndNxt with hnext | ⟨hfin, hnext⟩
    · rwa [hreach] at hnext
    · have hroom := (h.fin hfin).2
      have hbehind : s.offset s.state.sndNxt = s.buffered + 1 := by
        rw [hnext, offset, offset_add]
        exact Nat.mod_eq_of_lt (Nat.lt_trans hroom (by decide))
      omega
  rw [forwardSndNxt]
  cases hafter : s.state.afterRto with
  | false =>
    rw [if_neg (by rintro ⟨-, hno⟩; cases hno)]
    exact ⟨s.state.sndNxt, rfl, hnext, by omega⟩
  | true =>
    have hposition := htogether.position s.state.sndNxt
    have hreached : s.rexmitQueue.position s.state.sndNxt ≤ s.rexmitQueue.octets.length := by
      rw [hposition]
      exact hnext
    obtain ⟨k, ⟨hwithin, hover, -⟩, hok⟩ := htogether.queue.forwarded hreached
    rw [hposition] at hwithin hover
    rw [if_pos ⟨hsack, rfl⟩, hok]
    refine ⟨_, rfl, ?_⟩
    rw [offset, offset_add, toNat_ofNat]
    change (s.offset s.state.sndNxt + k % 2 ^ 32) % 2 ^ 32 ≤ _ ∧ (s.offset s.state.sndNxt + k % 2 ^ 32) % 2 ^ 32 < _
    have hstop : s.offset s.state.sndNxt + k ≤ n := by
      by_contra hbefore
      have hin : n < s.rexmitQueue.octets.length := by omega
      have hoctet := List.getElem?_eq_getElem hin
      exact hpassed hafter _ hoctet (hover n _ hle (by omega) hoctet)
    omega

/-- A call puts octets into a segment exactly where there is one left to send. -/
theorem Placed.progresses_iff (h : s.Placed) (hsack : s.state.sackEnabled = true) (hbytes : 0 < bytes) :
    s.Progresses bytes ↔ s.CanSend := by
  have hbuffered := h.buffered
  constructor
  · rintro ⟨s', hrun, hpos⟩
    obtain ⟨forward, sentBytes, q, hsegment⟩ := sendSegment_run hrun
    obtain ⟨hfrom, hto, hwithin⟩ := hsegment.within hbuffered
    have hskips := hsegment.skips h.toHeld
    have hsent : 0 < sentBytes.toNat := by
      rw [hsegment.result] at hpos
      exact lt_def.mp hpos
    exact ⟨hsegment.optionsLen, _, hskips.le, by omega, hskips.stops hsack⟩
  · intro hcan
    obtain ⟨from_, hforward, hstart, hlt⟩ := h.forwards hsack hcan
    have htogether := h.together hsack
    have hoptions := hcan.1
    have hpos := segmentBytes_pos (s := s.setSndNxt from_) hoptions hbytes hbuffered hlt
    have hle := segmentBytes_le (s := s.setSndNxt from_) hoptions bytes
    have havailable : (s.sendQueue.getBytesAvailable from_).toNat = s.buffered - s.offset from_ :=
      getBytesAvailable_of_le hbuffered (Nat.le_of_lt hlt)
    rw [Progresses, TCPReno.sendSegment, hforward]
    generalize hsize : (s.setSndNxt from_).segmentBytes bytes = sentBytes at hpos hle
    have hpos : 0 < sentBytes.toNat := lt_def.mp hpos
    have hle : sentBytes.toNat ≤ (s.sendQueue.getBytesAvailable from_).toNat := hle
    have hsum : s.offset (from_ + sentBytes) = s.offset from_ + sentBytes.toNat := by
      rw [offset, offset_add, Nat.mod_eq_of_lt]
      · rfl
      · change s.offset from_ + sentBytes.toNat < 2 ^ 32
        omega
    have hend : seqLE (from_ + sentBytes) s.sendQueue.bufferEndSeq := by
      rw [seqLE_offset s.sendQueue.bufferStartSeq (by change s.offset _ < _; omega) hbuffered]
      change s.offset _ ≤ s.buffered
      omega
    have hbegin : seqLE s.sendQueue.bufferStartSeq from_ := by
      change s.offset from_ < 2 ^ 31
      omega
    have hposition := htogether.position
    have hless : s.rexmitQueue.position from_ < s.rexmitQueue.position (from_ + sentBytes) := by
      rw [hposition, hposition]
      omega
    obtain ⟨q, hqueue⟩ := htogether.queue.enqueueSentData_ok (by rw [hposition]; exact hstart) hless
      (by rw [hposition]; omega)
    have henqueue : (s.setSndNxt from_).enqueueSegment sentBytes = .ok ((s.setSndNxt from_).setRexmitQueue q) := by
      rw [enqueueSegment, if_pos (show (s.setSndNxt from_).state.sackEnabled = true from hsack)]
      exact bind_ok.mpr ⟨q, hqueue, rfl⟩
    refine ⟨((s.setSndNxt from_).setRexmitQueue q).segmentSent sentBytes, ?_, hpos⟩
    rw [← hsize] at henqueue hend ⊢
    exact bind_ok.mpr ⟨_, rfl, ensure_bind_ok.mpr ⟨hoptions, ensure_bind_ok.mpr ⟨⟨hbegin, hend⟩,
      bind_ok.mpr ⟨_, henqueue, rfl⟩⟩⟩⟩

/-- The whole segments leave room for the timestamp. -/
def effectiveMaxBytesSend (s : TCPReno) : ULong :=
  (if s.state.tsEnabled then s.state.sndMss - TCP_OPTION_TS_SIZE else s.state.sndMss).setWidth 64

/-- One turn of the loop, with what is left to be sent. -/
inductive Turn : ULong × TCPReno → ULong × TCPReno → Prop where
  | mk {bytesToSend : ULong} {s s' : TCPReno} (hmore : s.effectiveMaxBytesSend ≤ bytesToSend)
      (hrun : s.sendSegment s.state.sndMss = .ok s') :
      Turn (bytesToSend, s) (bytesToSend - s'.state.sentBytes.setWidth 64, s')

/-- The options that `writeHeaderOptions` writes where a connection has both directions open. -/
structure OptionsWritten (s : TCPReno) : Prop where
  fits : ∀ n, (s.optionsLen n).toNat ≤ 40
  timestamp : s.state.tsEnabled = true → ∀ n, TCP_OPTION_TS_SIZE ≤ s.optionsLen n

/-- The loop ends, every turn sends something, and no more than what is left. -/
def LoopEnds (s : TCPReno) (bytesToSend : ULong) : Prop :=
  (∃ left s', sendWhole s.effectiveMaxBytesSend loopLimit bytesToSend s = .ok (left, s')) ∧
    ∀ c t c' t', ReflTransGen Turn (bytesToSend, s) (c, t) → Turn (c, t) (c', t') →
      0 < t'.state.sentBytes ∧ t'.state.sentBytes.toNat ≤ c.toNat

/-- Wherever the loop sends a segment there is an octet left to send. -/
def TurnsCanSend (s : TCPReno) (bytesToSend : ULong) : Prop :=
  ∀ c t, ReflTransGen Turn (bytesToSend, s) (c, t) → t.effectiveMaxBytesSend ≤ c → t.CanSend

/-- Nothing that the loop goes by is changed by a segment. -/
structure SameOptions (s s' : TCPReno) : Prop where
  optionsLen : s'.optionsLen = s.optionsLen
  sndMss : s'.state.sndMss = s.state.sndMss
  tsEnabled : s'.state.tsEnabled = s.state.tsEnabled
  sackEnabled : s'.state.sackEnabled = s.state.sackEnabled

theorem sameOptions_sendSegment (hrun : s.sendSegment bytes = .ok s') : SameOptions s s' := by
  obtain ⟨forward, sentBytes, q, hsegment⟩ := sendSegment_run hrun
  rw [hsegment.result]
  exact ⟨rfl, rfl, rfl, rfl⟩

theorem SameOptions.effectiveMaxBytesSend (h : SameOptions s s') : s'.effectiveMaxBytesSend = s.effectiveMaxBytesSend := by
  rw [TCPReno.effectiveMaxBytesSend, TCPReno.effectiveMaxBytesSend, h.tsEnabled, h.sndMss]

theorem SameOptions.written (h : SameOptions s s') (hwritten : s.OptionsWritten) : s'.OptionsWritten := by
  constructor
  · rw [h.optionsLen]
    exact hwritten.fits
  · rw [h.tsEnabled, h.optionsLen]
    exact hwritten.timestamp

/-- The options have room in a whole segment. -/
theorem segmentBytes_add_le (hoptions : s.optionsLen s.sent.length < s.state.sndMss) (hwritten : s.OptionsWritten)
    (hbuffered : (s.sendQueue.getBytesAvailable s.state.sndNxt).toNat < 2 ^ 31) :
    (s.segmentBytes s.state.sndMss).toNat + (s.optionsLen s.sent.length).toNat ≤ s.state.sndMss.toNat := by
  have hfits := hwritten.fits s.sent.length
  rw [toNat_segmentBytes hoptions]
  rw [lt_def] at hoptions
  split <;> omega

theorem sentBytes_le (h : s.Placed) (hwritten : s.OptionsWritten) (hrun : s.sendSegment s.state.sndMss = .ok s') :
    s'.state.sentBytes.toNat ≤ s.effectiveMaxBytesSend.toNat := by
  obtain ⟨forward, sentBytes, q, hsegment⟩ := sendSegment_run hrun
  have hoptions := hsegment.optionsLen
  obtain ⟨hfrom, -, -⟩ := hsegment.within h.buffered
  have havailable := getBytesAvailable_of_le h.buffered hfrom
  have hbuffered := h.buffered
  have hroom := segmentBytes_add_le (s := s.setSndNxt (s.state.sndNxt + forward)) hoptions
    ⟨hwritten.fits, hwritten.timestamp⟩ (by
      change (s.sendQueue.getBytesAvailable (s.state.sndNxt + forward)).toNat < 2 ^ 31
      omega)
  have hsize : (s.setSndNxt (s.state.sndNxt + forward)).segmentBytes s.state.sndMss = sentBytes := hsegment.size.symm
  change ((s.setSndNxt _).segmentBytes s.state.sndMss).toNat + (s.optionsLen s.sent.length).toNat ≤
    s.state.sndMss.toNat at hroom
  rw [hsize] at hroom
  have hsent : s'.state.sentBytes = sentBytes := by rw [hsegment.result]; rfl
  rw [hsent, effectiveMaxBytesSend, toNat_setWidth_of_le (by decide)]
  split
  · next hts =>
    have htimestamp := le_def.mp (hwritten.timestamp hts s.sent.length)
    rw [toNat_sub_of_le (le_def.mpr (by omega))]
    omega
  · omega

variable {bytesToSend c c' : ULong}

/-- A turn sends something, and no more than what is left. -/
theorem Turn.bounds (h : s.Placed) (hsack : s.state.sackEnabled = true) (hwritten : s.OptionsWritten)
    (hturn : Turn (c, s) (c', s')) : 0 < s'.state.sentBytes ∧ s'.state.sentBytes.toNat ≤ c.toNat := by
  cases hturn with
  | mk hmore hrun =>
    refine ⟨?_, Nat.le_trans (sentBytes_le h hwritten hrun) (le_def.mp hmore)⟩
    obtain ⟨forward, sentBytes, q, hsegment⟩ := sendSegment_run hrun
    -- the queue refuses an empty range
    have hqueue := hsegment.enqueued hsack
    rw [enqueueSentData] at hqueue
    obtain ⟨-, hqueue⟩ := ensure_bind_ok.mp hqueue
    have hless := (ensure_bind_ok.mp hqueue).1.1
    rw [hsegment.result]
    apply Decidable.byContradiction
    intro hzero
    have hzero : sentBytes = 0#32 := by
      apply eq_of_toNat_eq
      exact Nat.le_zero.mp (Nat.le_of_not_lt hzero)
    rw [hzero, BitVec.add_zero] at hless
    exact hless rfl

/-- What all turns keep. -/
structure InLoop (s : TCPReno) : Prop where
  placed : s.Placed
  sackEnabled : s.state.sackEnabled = true
  written : s.OptionsWritten

theorem InLoop.sendSegment (h : s.InLoop) (hrun : s.sendSegment bytes = .ok s') : s'.InLoop := by
  have hsame := sameOptions_sendSegment hrun
  exact ⟨h.placed.toHeld.sendSegment hrun, hsame.sackEnabled.trans h.sackEnabled, hsame.written h.written⟩

theorem InLoop.turns (h : s.InLoop) (hturns : ReflTransGen Turn (c, s) (c', s')) : s'.InLoop := by
  have hgoal : ∀ p, ReflTransGen Turn (c, s) p → p.2.InLoop := by
    intro p hp
    induction hp with
    | refl => exact h
    | tail _ hturn ih =>
      cases hturn with
      | mk _ hrun => exact ih.sendSegment hrun
  exact hgoal _ hturns

/-- A turn uses a part of what is left. -/
theorem turn_left {sentBytes : SeqNo} (hle : sentBytes.toNat ≤ bytesToSend.toNat) :
    (bytesToSend - sentBytes.setWidth 64).toNat = bytesToSend.toNat - sentBytes.toNat := by
  have hwidth : (sentBytes.setWidth 64).toNat = sentBytes.toNat := toNat_setWidth_of_le (by decide)
  rw [toNat_sub_of_le (le_def.mpr (by rw [hwidth]; exact hle)), hwidth]

theorem sndMss_pos (hoptions : s.optionsLen s.sent.length < s.state.sndMss) : 0 < s.state.sndMss := by
  exact Nat.lt_of_le_of_lt (Nat.zero_le _) hoptions

theorem InLoop.sendWhole_ok {fuel : Nat} (h : s.InLoop) (hfuel : bytesToSend.toNat < fuel)
    (hcan : s.TurnsCanSend bytesToSend) :
    ∃ left s', sendWhole s.effectiveMaxBytesSend fuel bytesToSend s = .ok (left, s') := by
  induction fuel generalizing bytesToSend s with
  | zero => omega
  | succ fuel ih =>
    rw [sendWhole]
    split
    · next hmore =>
      have hfirst := hcan _ _ .refl hmore
      obtain ⟨s₁, hrun, -⟩ := (h.placed.progresses_iff h.sackEnabled (sndMss_pos hfirst.1)).mpr hfirst
      have hturn := Turn.mk hmore hrun
      obtain ⟨hpos, hle⟩ := hturn.bounds h.placed h.sackEnabled h.written
      have hsame := sameOptions_sendSegment hrun
      have hleft := turn_left hle
      have hpos := lt_def.mp hpos
      obtain ⟨left, s', hok⟩ := ih (h.sendSegment hrun) (by rw [hleft]; omega)
        fun c t hturns => hcan c t (.head hturn hturns)
      rw [hsame.effectiveMaxBytesSend] at hok
      exact ⟨left, s', bind_ok.mpr ⟨s₁, hrun, hok⟩⟩
    · exact ⟨bytesToSend, s, rfl⟩

theorem InLoop.turnsCanSend {fuel : Nat} {bytesToSend left : ULong} (h : s.InLoop)
    (hrun : sendWhole s.effectiveMaxBytesSend fuel bytesToSend s = .ok (left, s')) : s.TurnsCanSend bytesToSend := by
  induction fuel generalizing bytesToSend s with
  | zero => cases hrun
  | succ fuel ih =>
    intro c t hturns hmore
    rw [sendWhole] at hrun
    rcases ReflTransGen.cases_head hturns with heq | ⟨⟨c₁, s₁⟩, hturn, hturns⟩
    · cases heq
      rw [if_pos hmore] at hrun
      obtain ⟨s₁, hsegment, -⟩ := bind_ok.mp hrun
      obtain ⟨hpos, -⟩ := (Turn.mk hmore hsegment).bounds h.placed h.sackEnabled h.written
      obtain ⟨forward, sentBytes, q, hrun⟩ := sendSegment_run hsegment
      exact (h.placed.progresses_iff h.sackEnabled (sndMss_pos hrun.optionsLen)).mp ⟨s₁, hsegment, hpos⟩
    · cases hturn with
      | mk hfirst hsegment =>
        rw [if_pos hfirst] at hrun
        obtain ⟨s₂, hsegment', hrun⟩ := bind_ok.mp hrun
        rw [hsegment] at hsegment'
        cases hsegment'
        have hsame := sameOptions_sendSegment hsegment
        rw [← hsame.effectiveMaxBytesSend] at hrun
        exact ih (h.sendSegment hsegment) hrun c t hturns hmore

/-- The loop ends without wrapping around exactly where each of its segments finds an octet to send. -/
theorem InLoop.loopEnds_iff (h : s.InLoop) (hleft : bytesToSend.toNat < loopLimit) :
    s.LoopEnds bytesToSend ↔ s.TurnsCanSend bytesToSend := by
  constructor
  · rintro ⟨⟨left, s', hrun⟩, -⟩
    exact h.turnsCanSend hrun
  · intro hcan
    refine ⟨h.sendWhole_ok hleft hcan, ?_⟩
    intro c t c' t' hturns hturn
    have ht := h.turns hturns
    exact hturn.bounds ht.placed ht.sackEnabled ht.written

/-- In every state of a sender a segment gets octets exactly where there is one left to send, and the loop
ends exactly where each of its turns finds one. -/
theorem progress_iff (hs : s.Driven) (hsack : s.state.sackEnabled = true) :
    (∀ bytes, 0 < bytes → (s.Progresses bytes ↔ s.CanSend)) ∧
      (s.OptionsWritten → ∀ bytesToSend : ULong, bytesToSend.toNat < loopLimit →
        (s.LoopEnds bytesToSend ↔ s.TurnsCanSend bytesToSend)) := by
  have hplaced := hs.placed
  constructor
  · intro bytes hbytes
    exact hplaced.progresses_iff hsack hbytes
  · intro hwritten bytesToSend hleft
    exact InLoop.loopEnds_iff ⟨hplaced, hsack, hwritten⟩ hleft

/-- The sixteen octets have been sent, and the first segment again after the timeout. -/
def timedOut : Sim TCPReno := [Event.established false, .rexmitTimer].foldlM step waiting

theorem timedOut_reached (hrun : timedOut = .ok s) : Reached Fills s := by
  refine (Reached.start waiting_initial).run ?_ hrun
  intro event hevent s
  rcases List.mem_pair.mp hevent with rfl | rfl
  · trivial
  · trivial

/-- The second segment can be sent next. -/
theorem timedOut_progresses : ∃ s, timedOut = .ok s ∧ s.Progresses 4 ∧ (s.LoopEnds 12 ↔ s.TurnsCanSend 12) := by
  refine exists_ok rfl ?_
  intro s hrun
  have hstate : ∀ s, timedOut = .ok s → s.state.sackEnabled = true ∧ s.optionsLen s.sent.length < s.state.sndMss ∧
      s.offset s.state.sndNxt ≤ 4 ∧ 4 < s.buffered ∧ s.rexmitQueue.octets[4]? = some ⟨false, false⟩ := by decide
  obtain ⟨hsack, hoptions, hnext, hbuffered, hoctet⟩ := hstate s hrun
  have hcan : s.CanSend := by
    refine ⟨hoptions, 4, hnext, hbuffered, ?_⟩
    intro _ f hf
    rw [hoctet] at hf
    cases hf
    rintro (h | h) <;> cases h
  have hwritten : s.OptionsWritten := by
    cases hrun
    exact ⟨fun _ => Nat.zero_le _, nofun⟩
  obtain ⟨hsegment, hloop⟩ := progress_iff (timedOut_reached hrun).driven hsack
  exact ⟨(hsegment 4 (by decide)).mpr hcan, hloop hwritten 12 (by decide)⟩

/-- The peer has got all but the first segment. -/
def restArrived : AckSegment := { sequenceNo := 1, ackNo := 1000, window := 100, sacks := [⟨1004, 1016⟩] }

/-- There is data at `snd_nxt`, but all of it has been acknowledged selectively. -/
theorem restArrived_stuck : ∃ s, Reached Fills s ∧ s.state.sackEnabled = true ∧ s.state.afterRto = true ∧
    s.sendQueue.getBytesAvailable s.state.sndNxt ≠ 0 ∧ ¬ s.Progresses 4 := by
  obtain ⟨s, hrun, hholds⟩ := exists_ok
    (x := [Event.established false, .rexmitTimer, .segment restArrived false].foldlM step waiting)
    (p := fun s => (s.state.sackEnabled = true ∧ s.state.afterRto = true ∧
      s.sendQueue.getBytesAvailable s.state.sndNxt ≠ 0) ∧ (s.sendSegment 4).isOk = false) (by decide) (by decide)
  obtain ⟨⟨hsack, hafter, hdata⟩, hfails⟩ := hholds
  have hreached : Reached Fills s := by
    refine (Reached.start waiting_initial).run ?_ hrun
    intro event hevent s
    rcases List.mem_cons.mp hevent with rfl | hevent
    · trivial
    · rcases List.mem_pair.mp hevent with rfl | rfl
      · trivial
      · trivial
  refine ⟨s, hreached, hsack, hafter, hdata, ?_⟩
  rintro ⟨s', hok, -⟩
  rw [hok] at hfails
  cases hfails

end Progress

end TCPReno

end Inet.Tcp
