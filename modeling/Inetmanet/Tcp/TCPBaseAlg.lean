import Inetmanet.Tcp.SeqNo

/-!
# The timers of TCP

`TCPBaseAlg.cc`: the REXMIT and the PERSIST timer, which share one block of state variables,
and the measurement of round-trip times. Of the connection there is what the timers depend on.
Times are picoseconds.
-/
namespace Inet.Tcp

open List

def second : Int := 10 ^ 12

def MAX_REXMIT_COUNT : Nat := 12
def MIN_REXMIT_TIMEOUT : Int := second
def MAX_REXMIT_TIMEOUT : Int := 240 * second
def MIN_PERSIST_TIMEOUT : Int := 5 * second
def MAX_PERSIST_TIMEOUT : Int := 60 * second

structure TCPBaseAlg where
  simTime : Int
  tsEnabled : Bool
  sndUna : SeqNo
  sndMax : SeqNo
  sndWnd : SeqNo
  rexmitCount : Nat := 0
  rexmitTimeout : Int := 3 * second
  persistFactor : Nat := 0
  persistTimeout : Int := 5 * second
  rtseq : SeqNo := 0
  /-- 0 if no measurement is running -/
  rtseqSendtime : Int := 0
  srtt : Int := 0
  rttvar : Int := 3 * second / 4
  numRtos : Nat := 0
  timeLastDataSent : Int := 0
  /-- when the timer will expire, if it is scheduled -/
  rexmitTimer : Option Int := none
  persistTimer : Option Int := none
  /-- The connection has been aborted. -/
  aborted : Bool := false
  /-- With which intervals the PERSIST timer has been scheduled since `persist_factor` was 0, the last first -/
  persistIntervals : List Int := []
  deriving DecidableEq, Repr

namespace TCPBaseAlg

def startRexmitTimer (s : TCPBaseAlg) : TCPBaseAlg :=
  { s with rexmitCount := 0, rexmitTimer := some (s.simTime + s.rexmitTimeout) }

/-- `scheduleTimeout(persistTimer, persist_timeout)` -/
def schedulePersistTimer (s : TCPBaseAlg) : TCPBaseAlg :=
  { s with persistTimer := some (s.simTime + s.persistTimeout), persistIntervals := s.persistTimeout :: s.persistIntervals }

/-- The PERSIST timer is canceled, and the back-off starts anew. -/
def cancelPersistTimer (s : TCPBaseAlg) : TCPBaseAlg :=
  { s with persistTimer := none, persistFactor := 0, persistIntervals := [] }

/-- `rto`, between its bounds -/
def boundedRto (rto : Int) : Int :=
  if rto > MAX_REXMIT_TIMEOUT then MAX_REXMIT_TIMEOUT else if rto < MIN_REXMIT_TIMEOUT then MIN_REXMIT_TIMEOUT else rto

section

-- `timesG` multiplies a time by `g`, which is 0.125; the simulation kernel rounds the product.
variable (timesG : Int → Int)

def rttMeasurementComplete (s : TCPBaseAlg) (tSent tAcked : Int) : TCPBaseAlg :=
  let err := tAcked - tSent - s.srtt
  let srtt := s.srtt + timesG err
  let rttvar := s.rttvar + timesG (err.natAbs - s.rttvar)
  { s with srtt := srtt, rttvar := rttvar, rexmitTimeout := boundedRto (srtt + 4 * rttvar) }

/-- Milliseconds, in 32 bits. -/
def convertSimtimeToTS (simtime : Int) : SeqNo := BitVec.ofInt 32 (simtime / 10 ^ 9)

def convertTSToSimtime (timestamp : SeqNo) : Int := timestamp.toNat * 10 ^ 9

def rttMeasurementCompleteUsingTS (s : TCPBaseAlg) (echoedTS : SeqNo) : TCPBaseAlg :=
  s.rttMeasurementComplete timesG (convertTSToSimtime echoedTS) (convertTSToSimtime (convertSimtimeToTS s.simTime))

/-- Is a measurement running, and the sequence number acknowledged? -/
def Measured (s : TCPBaseAlg) : Prop := s.tsEnabled = false ∧ s.rtseqSendtime ≠ 0 ∧ seqLess s.rtseq s.sndUna
deriving Decidable

def completeMeasurement (s : TCPBaseAlg) : TCPBaseAlg :=
  if s.Measured then { s.rttMeasurementComplete timesG s.rtseqSendtime s.simTime with rtseqSendtime := 0 } else s

/-- The retransmission timer is canceled, or restarted with the current RTO. -/
def handleRexmitTimer (s : TCPBaseAlg) : TCPBaseAlg :=
  if s.sndUna = s.sndMax then { s with rexmitTimer := none } else s.startRexmitTimer

def handlePersistTimer (s : TCPBaseAlg) : TCPBaseAlg :=
  if s.sndWnd = 0 then
    if s.rexmitTimer.isSome then if s.persistTimer.isSome then s.cancelPersistTimer else s
    else if s.persistTimer.isSome then s else s.schedulePersistTimer
  else if s.persistTimer.isSome then s.cancelPersistTimer
  else s

def receivedDataAck (s : TCPBaseAlg) : TCPBaseAlg :=
  ((s.completeMeasurement timesG).handleRexmitTimer).handlePersistTimer

end

/-- Up to the retransmission, which is left to the subclasses. -/
def processRexmitTimer (s : TCPBaseAlg) : TCPBaseAlg :=
  let s := { s with rexmitCount := s.rexmitCount + 1, rexmitTimer := none }
  if s.rexmitCount > MAX_REXMIT_COUNT then { s with aborted := true }
  else
    let doubled := s.rexmitTimeout + s.rexmitTimeout
    let rexmitTimeout := if doubled > MAX_REXMIT_TIMEOUT then MAX_REXMIT_TIMEOUT else doubled
    { s with
      rexmitTimeout := rexmitTimeout
      rexmitTimer := some (s.simTime + rexmitTimeout)
      rtseqSendtime := 0
      numRtos := s.numRtos + 1
      timeLastDataSent := s.simTime }

def dataSent (s : TCPBaseAlg) (fromseq : SeqNo) : TCPBaseAlg :=
  let s := if s.rexmitTimer.isSome then s else s.startRexmitTimer
  let s := if s.tsEnabled = false ∧ s.rtseqSendtime = 0 then { s with rtseq := fromseq, rtseqSendtime := s.simTime } else s
  { s with timeLastDataSent := s.simTime }

def nextPersistFactor (persistFactor : Nat) : Nat :=
  if persistFactor = 0 then 1 else if persistFactor < 64 then persistFactor * 2 else persistFactor

/-- What `rexmit_timeout` is set to when the PERSIST timer is bounded. -/
def boundPersist (persistTimeout rexmitTimeout : Int) : Int :=
  let rexmitTimeout := if persistTimeout < MIN_PERSIST_TIMEOUT then MIN_PERSIST_TIMEOUT else rexmitTimeout
  if persistTimeout > MAX_PERSIST_TIMEOUT then MAX_PERSIST_TIMEOUT else rexmitTimeout

/-- `probe` tells whether there is an octet that can be sent as a probe. -/
def processPersistTimer (s : TCPBaseAlg) (probe : Bool) : TCPBaseAlg :=
  let persistFactor := nextPersistFactor s.persistFactor
  let persistTimeout := persistFactor * (3 * second / 2)
  let s := { s with
    persistFactor := persistFactor
    persistTimeout := persistTimeout
    rexmitTimeout := boundPersist persistTimeout s.rexmitTimeout }
  let s := s.schedulePersistTimer
  if probe then s.dataSent s.sndMax else s

def restartRexmitTimer (s : TCPBaseAlg) : TCPBaseAlg := s.startRexmitTimer

inductive Event where
  /-- Time passes, but not beyond the expiration of a timer. -/
  | elapse (time : Nat)
  /-- The connection has received or sent something. -/
  | connection (sndUna sndMax sndWnd : SeqNo) (tsEnabled : Bool)
  | dataSent (fromseq : SeqNo)
  | restartRexmitTimer
  | receivedDataAck
  | rttMeasurementCompleteUsingTS (echoedTS : SeqNo)
  | rexmitTimer
  | persistTimer (probe : Bool)
  deriving DecidableEq, Repr

/-- No timer expires before. -/
def NotBefore (time : Int) (timer : Option Int) : Prop := ∀ t ∈ timer, time ≤ t

instance (time : Int) (timer : Option Int) : Decidable (NotBefore time timer) :=
  match timer with
  | none => isTrue (by intro t ht; cases ht)
  | some t => decidable_of_iff (time ≤ t) (by simp [NotBefore])

def step (timesG : Int → Int) (s : TCPBaseAlg) : Event → Option TCPBaseAlg
  | .elapse time =>
    if NotBefore (s.simTime + time) s.rexmitTimer ∧ NotBefore (s.simTime + time) s.persistTimer then
      some { s with simTime := s.simTime + time }
    else none
  | .connection sndUna sndMax sndWnd tsEnabled =>
    some { s with sndUna := sndUna, sndMax := sndMax, sndWnd := sndWnd, tsEnabled := tsEnabled }
  | .dataSent fromseq => some (s.dataSent fromseq)
  | .restartRexmitTimer => some s.restartRexmitTimer
  | .receivedDataAck => some (s.receivedDataAck timesG)
  | .rttMeasurementCompleteUsingTS echoedTS =>
    if s.tsEnabled then some (s.rttMeasurementCompleteUsingTS timesG echoedTS) else none
  | .rexmitTimer => if s.rexmitTimer = some s.simTime ∧ s.aborted = false then some s.processRexmitTimer else none
  | .persistTimer probe =>
    if s.persistTimer = some s.simTime ∧ s.aborted = false then some (s.processPersistTimer probe) else none

def run (timesG : Int → Int) (s : TCPBaseAlg) : List Event → Option TCPBaseAlg
  | [] => some s
  | event :: events => do
    let s ← s.step timesG event
    s.run timesG events

/-- The state variables after the constructor, in whatever connection. -/
def created (simTime : Int) (tsEnabled : Bool) (sndUna sndMax sndWnd : SeqNo) : TCPBaseAlg :=
  { simTime := simTime, tsEnabled := tsEnabled, sndUna := sndUna, sndMax := sndMax, sndWnd := sndWnd }

/-- Is the round-trip time measured? -/
def Measures (s : TCPBaseAlg) : Event → Prop
  | .rttMeasurementCompleteUsingTS _ => True
  | .receivedDataAck => s.Measured
  | _ => False

/-- The intervals of the PERSIST timer are bounded and do not decrease, and `rexmit_timeout` is bounded. -/
structure Bounded (s : TCPBaseAlg) : Prop where
  interval : ∀ t ∈ s.persistIntervals, MIN_PERSIST_TIMEOUT ≤ t ∧ t ≤ MAX_PERSIST_TIMEOUT
  increasing : s.persistIntervals.Pairwise fun later earlier => earlier ≤ later
  rexmitTimeout : s.rexmitTimeout ≤ MAX_REXMIT_TIMEOUT

/-- In the whole of a run, the timers are bounded, and `rexmit_timeout` is changed by measurements
and REXMIT expirations only. -/
def BackedOff (timesG : Int → Int) (s : TCPBaseAlg) : List Event → Prop
  | [] => s.Bounded
  | event :: events => s.Bounded ∧ ∀ s', s.step timesG event = some s' →
    (s'.rexmitTimeout ≠ s.rexmitTimeout → s.Measures event ∨ event = .rexmitTimer) ∧ s'.BackedOff timesG events

def Event.IsPersist : Event → Prop
  | .persistTimer _ => True
  | _ => False

instance : DecidablePred Event.IsPersist
  | .persistTimer _ => isTrue trivial
  | .elapse _ | .connection _ _ _ _ | .dataSent _ | .restartRexmitTimer | .receivedDataAck
  | .rttMeasurementCompleteUsingTS _ | .rexmitTimer => isFalse id

section

variable {timesG : Int → Int} {s s' : TCPBaseAlg} {event : Event} {events : List Event}

/-- Since the beginning, or as long as the PERSIST timer has not expired. -/
structure Unexpired (s : TCPBaseAlg) : Prop where
  persistFactor : s.persistFactor = 0
  persistTimeout : s.persistTimeout = MIN_PERSIST_TIMEOUT
  interval : ∀ t ∈ s.persistIntervals, t = MIN_PERSIST_TIMEOUT
  rexmitTimeout : s.rexmitTimeout ≤ MAX_REXMIT_TIMEOUT

theorem Unexpired.bounded (h : s.Unexpired) : s.Bounded := by
  constructor
  · intro t ht
    rw [h.interval t ht]
    exact ⟨Int.le_refl _, by decide⟩
  · apply pairwise_of_forall_mem_list
    intro later hlater earlier hearlier
    exact Int.le_of_eq ((h.interval earlier hearlier).trans (h.interval later hlater).symm)
  · exact h.rexmitTimeout

theorem boundedRto_le (rto : Int) : boundedRto rto ≤ MAX_REXMIT_TIMEOUT := by
  rw [boundedRto]
  split
  · exact Int.le_refl _
  · split
    · decide
    · omega

theorem created_unexpired (simTime : Int) (tsEnabled : Bool) (sndUna sndMax sndWnd : SeqNo) :
    (created simTime tsEnabled sndUna sndMax sndWnd).Unexpired := by
  constructor
  · rfl
  · rfl
  · intro t ht
    cases ht
  · change 3 * second ≤ MAX_REXMIT_TIMEOUT
    decide

/-- What changes neither the back-offs nor the intervals. -/
structure Alike (s s' : TCPBaseAlg) : Prop where
  persistFactor : s'.persistFactor = s.persistFactor
  persistTimeout : s'.persistTimeout = s.persistTimeout
  persistIntervals : s'.persistIntervals = s.persistIntervals
  rexmitTimeout : s'.rexmitTimeout = s.rexmitTimeout

theorem Alike.refl (s : TCPBaseAlg) : Alike s s := ⟨rfl, rfl, rfl, rfl⟩

theorem Alike.trans {s'' : TCPBaseAlg} (h : Alike s s') (h' : Alike s' s'') : Alike s s'' :=
  ⟨h'.1.trans h.1, h'.2.trans h.2, h'.3.trans h.3, h'.4.trans h.4⟩

theorem Alike.unexpired (h : Alike s s') (hs : s.Unexpired) : s'.Unexpired := by
  constructor
  · rw [h.persistFactor]
    exact hs.persistFactor
  · rw [h.persistTimeout]
    exact hs.persistTimeout
  · rw [h.persistIntervals]
    exact hs.interval
  · rw [h.rexmitTimeout]
    exact hs.rexmitTimeout

section

variable (s)

theorem alike_startRexmitTimer : Alike s s.startRexmitTimer := ⟨rfl, rfl, rfl, rfl⟩

theorem alike_handleRexmitTimer : Alike s s.handleRexmitTimer := by
  rw [handleRexmitTimer]
  split
  · exact ⟨rfl, rfl, rfl, rfl⟩
  · exact alike_startRexmitTimer s

theorem alike_dataSent (fromseq : SeqNo) : Alike s (s.dataSent fromseq) := by
  rw [dataSent]
  have hstart : Alike s (if s.rexmitTimer.isSome then s else s.startRexmitTimer) := by
    split
    · exact .refl s
    · exact alike_startRexmitTimer s
  apply hstart.trans
  generalize (if s.rexmitTimer.isSome = true then s else s.startRexmitTimer) = s₁
  split
  · exact ⟨rfl, rfl, rfl, rfl⟩
  · exact ⟨rfl, rfl, rfl, rfl⟩

/-- The PERSIST timer is left alone, scheduled with `persist_timeout`, or canceled. -/
theorem handlePersistTimer_cases : s.handlePersistTimer = s ∨
    s.handlePersistTimer = s.schedulePersistTimer ∨ s.handlePersistTimer = s.cancelPersistTimer := by
  rw [handlePersistTimer]
  split
  · split
    · split
      · exact .inr (.inr rfl)
      · exact .inl rfl
    · split
      · exact .inl rfl
      · exact .inr (.inl rfl)
  · split
    · exact .inr (.inr rfl)
    · exact .inl rfl

end

theorem Unexpired.handlePersistTimer (h : s.Unexpired) :
    s.handlePersistTimer.Unexpired ∧ s.handlePersistTimer.rexmitTimeout = s.rexmitTimeout := by
  rcases s.handlePersistTimer_cases with heq | heq | heq
  · rw [heq]
    exact ⟨h, rfl⟩
  · rw [heq]
    refine ⟨⟨h.persistFactor, h.persistTimeout, ?_, h.rexmitTimeout⟩, rfl⟩
    intro t ht
    cases mem_cons.mp ht with
    | inl hnew => exact hnew.trans h.persistTimeout
    | inr hold => exact h.interval t hold
  · rw [heq]
    refine ⟨⟨rfl, h.persistTimeout, ?_, h.rexmitTimeout⟩, rfl⟩
    intro t ht
    cases ht

variable (timesG) in
theorem Unexpired.rttMeasurementComplete (h : s.Unexpired) (tSent tAcked : Int) :
    (s.rttMeasurementComplete timesG tSent tAcked).Unexpired :=
  ⟨h.persistFactor, h.persistTimeout, h.interval, boundedRto_le _⟩

section

variable (h : s.Unexpired)
include h

variable (timesG) in
theorem Unexpired.receivedDataAck : (s.receivedDataAck timesG).Unexpired ∧
    ((s.receivedDataAck timesG).rexmitTimeout ≠ s.rexmitTimeout → s.Measured) := by
  have hmeasure : (s.completeMeasurement timesG).Unexpired ∧
      ((s.completeMeasurement timesG).rexmitTimeout ≠ s.rexmitTimeout → s.Measured) := by
    rw [completeMeasurement]
    split
    · next hmeasured =>
      have hcomplete := h.rttMeasurementComplete timesG s.rtseqSendtime s.simTime
      exact ⟨⟨hcomplete.1, hcomplete.2, hcomplete.3, hcomplete.4⟩, fun _ => hmeasured⟩
    · exact ⟨h, fun hchanged => absurd rfl hchanged⟩
  have hrexmit := alike_handleRexmitTimer (s.completeMeasurement timesG)
  obtain ⟨hunexpired, hsame⟩ := (hrexmit.unexpired hmeasure.1).handlePersistTimer
  refine ⟨hunexpired, ?_⟩
  intro hchanged
  apply hmeasure.2
  rw [TCPBaseAlg.receivedDataAck, hsame, hrexmit.rexmitTimeout] at hchanged
  exact hchanged

theorem Unexpired.processRexmitTimer : s.processRexmitTimer.Unexpired := by
  rw [TCPBaseAlg.processRexmitTimer]
  split
  · exact ⟨h.persistFactor, h.persistTimeout, h.interval, h.rexmitTimeout⟩
  · refine ⟨h.persistFactor, h.persistTimeout, h.interval, ?_⟩
    simp only
    split
    · exact Int.le_refl _
    · omega

/-- As long as the PERSIST timer does not expire, everything is as it should be. -/
theorem Unexpired.step (hevent : ¬ event.IsPersist) (hstep : s.step timesG event = some s') :
    s'.Unexpired ∧ (s'.rexmitTimeout ≠ s.rexmitTimeout → s.Measures event ∨ event = .rexmitTimer) := by
  have halike (h' : Alike s s') : s'.Unexpired ∧
      (s'.rexmitTimeout ≠ s.rexmitTimeout → s.Measures event ∨ event = .rexmitTimer) :=
    ⟨h'.unexpired h, fun hchanged => absurd h'.rexmitTimeout hchanged⟩
  cases event with
  | elapse time =>
    rw [TCPBaseAlg.step] at hstep
    split at hstep
    · cases hstep
      exact halike ⟨rfl, rfl, rfl, rfl⟩
    · cases hstep
  | connection sndUna sndMax sndWnd tsEnabled =>
    cases hstep
    exact halike ⟨rfl, rfl, rfl, rfl⟩
  | dataSent fromseq =>
    cases hstep
    exact halike (alike_dataSent s fromseq)
  | restartRexmitTimer =>
    cases hstep
    exact halike (alike_startRexmitTimer s)
  | receivedDataAck =>
    cases hstep
    obtain ⟨hunexpired, hmeasured⟩ := h.receivedDataAck timesG
    exact ⟨hunexpired, fun hchanged => .inl (hmeasured hchanged)⟩
  | rttMeasurementCompleteUsingTS echoedTS =>
    rw [TCPBaseAlg.step] at hstep
    split at hstep
    · cases hstep
      exact ⟨h.rttMeasurementComplete timesG _ _, fun _ => .inl trivial⟩
    · cases hstep
  | rexmitTimer =>
    rw [TCPBaseAlg.step] at hstep
    split at hstep
    · cases hstep
      exact ⟨h.processRexmitTimer, fun _ => .inr rfl⟩
    · cases hstep
  | persistTimer probe => exact absurd trivial hevent

/-- The first expiration schedules the timer with 1.5 seconds. -/
theorem Unexpired.processPersistTimer (probe : Bool) : ¬ (s.processPersistTimer probe).Bounded := by
  intro hbounded
  have hmem : 3 * second / 2 ∈ (s.processPersistTimer probe).persistIntervals := by
    rw [TCPBaseAlg.processPersistTimer, h.persistFactor]
    cases probe with
    | false => exact mem_cons_self
    | true =>
      simp only [if_true]
      rw [(alike_dataSent _ _).persistIntervals]
      exact mem_cons_self
  exact absurd (hbounded.interval _ hmem).1 (by decide)

end

theorem BackedOff.bounded (h : s.BackedOff timesG events) : s.Bounded := by
  cases events with
  | nil => exact h
  | cons event events => exact h.1

theorem BackedOff.last (h : s.BackedOff timesG events) (hrun : s.run timesG events = some s') : s'.Bounded := by
  induction events generalizing s with
  | nil =>
    cases hrun
    exact h
  | cons event events ih =>
    obtain ⟨s₁, hstep, hrun⟩ := Option.bind_eq_some_iff.mp hrun
    exact ih (h.2 s₁ hstep).2 hrun

theorem Unexpired.backedOff_iff (h : s.Unexpired) (hrun : s.run timesG events = some s') :
    s.BackedOff timesG events ↔ ∀ event ∈ events, ¬ event.IsPersist := by
  induction events generalizing s with
  | nil => exact ⟨fun _ event hevent => absurd hevent not_mem_nil, fun _ => h.bounded⟩
  | cons event events ih =>
    obtain ⟨s₁, hstep, hrun⟩ := Option.bind_eq_some_iff.mp hrun
    by_cases hpersist : event.IsPersist
    · cases event with
      | persistTimer probe =>
        constructor
        · rintro ⟨-, hnext⟩
          have hbounded := (hnext s₁ hstep).2.bounded
          rw [TCPBaseAlg.step] at hstep
          split at hstep
          · cases hstep
            exact absurd hbounded (h.processPersistTimer probe)
          · cases hstep
        · intro hnone
          exact absurd hpersist (hnone _ mem_cons_self)
      | _ => cases hpersist
    · obtain ⟨hunexpired, hchanged⟩ := h.step hpersist hstep
      have hrest := ih hunexpired hrun
      constructor
      · rintro ⟨-, hnext⟩ event' hevent'
        cases mem_cons.mp hevent' with
        | inl heq => rw [heq]; exact hpersist
        | inr hmem => exact hrest.mp (hnext s₁ hstep).2 event' hmem
      · intro hnone
        refine ⟨h.bounded, ?_⟩
        intro s₂ hstep₂
        rw [hstep] at hstep₂
        cases hstep₂
        exact ⟨hchanged, hrest.mpr fun event' hmem => hnone event' (mem_cons_of_mem _ hmem)⟩

theorem boundPersist_cases (persistTimeout rexmitTimeout : Int) :
    boundPersist persistTimeout rexmitTimeout = rexmitTimeout ∨
      boundPersist persistTimeout rexmitTimeout ≤ MAX_REXMIT_TIMEOUT := by
  rw [boundPersist]
  split
  · right
    decide
  · split
    · right
      decide
    · left
      rfl

theorem receivedDataAck_rexmitTimeout (s : TCPBaseAlg) :
    (s.receivedDataAck timesG).rexmitTimeout = s.rexmitTimeout ∨
      (s.receivedDataAck timesG).rexmitTimeout ≤ MAX_REXMIT_TIMEOUT := by
  have hsame : (s.receivedDataAck timesG).rexmitTimeout = (s.completeMeasurement timesG).rexmitTimeout := by
    rw [← (alike_handleRexmitTimer (s.completeMeasurement timesG)).rexmitTimeout, receivedDataAck]
    rcases (s.completeMeasurement timesG).handleRexmitTimer.handlePersistTimer_cases with heq | heq | heq
    · rw [heq]
    · rw [heq]
      rfl
    · rw [heq]
      rfl
  rw [hsame, completeMeasurement]
  split
  · exact .inr (boundedRto_le _)
  · exact .inl rfl

/-- `rexmit_timeout` is never set to more than 240 seconds, not even by the PERSIST timer. -/
theorem step_rexmitTimeout (hstep : s.step timesG event = some s') :
    s'.rexmitTimeout = s.rexmitTimeout ∨ s'.rexmitTimeout ≤ MAX_REXMIT_TIMEOUT := by
  cases event with
  | elapse time =>
    rw [TCPBaseAlg.step] at hstep
    split at hstep
    · cases hstep
      exact .inl rfl
    · cases hstep
  | connection sndUna sndMax sndWnd tsEnabled =>
    cases hstep
    exact .inl rfl
  | dataSent fromseq =>
    cases hstep
    exact .inl (alike_dataSent s fromseq).rexmitTimeout
  | restartRexmitTimer =>
    cases hstep
    exact .inl rfl
  | receivedDataAck =>
    cases hstep
    exact s.receivedDataAck_rexmitTimeout
  | rttMeasurementCompleteUsingTS echoedTS =>
    rw [TCPBaseAlg.step] at hstep
    split at hstep
    · cases hstep
      exact .inr (boundedRto_le _)
    · cases hstep
  | rexmitTimer =>
    rw [TCPBaseAlg.step] at hstep
    split at hstep
    · cases hstep
      rw [processRexmitTimer]
      split
      · exact .inl rfl
      · right
        simp only
        split
        · exact Int.le_refl _
        · omega
    · cases hstep
  | persistTimer probe =>
    rw [TCPBaseAlg.step] at hstep
    split at hstep
    · cases hstep
      have hbound := boundPersist_cases (nextPersistFactor s.persistFactor * (3 * second / 2)) s.rexmitTimeout
      rw [processPersistTimer]
      cases probe with
      | false => exact hbound
      | true =>
        simp only [if_true]
        rw [(alike_dataSent _ _).rexmitTimeout]
        exact hbound
    · cases hstep

/-- In every run, PERSIST expirations included, `rexmit_timeout` stays bounded. -/
theorem run_rexmitTimeout_le (h : s.rexmitTimeout ≤ MAX_REXMIT_TIMEOUT) (hrun : s.run timesG events = some s') :
    s'.rexmitTimeout ≤ MAX_REXMIT_TIMEOUT := by
  induction events generalizing s with
  | nil =>
    cases hrun
    exact h
  | cons event events ih =>
    obtain ⟨s₁, hstep, hrun⟩ := Option.bind_eq_some_iff.mp hrun
    apply ih _ hrun
    cases step_rexmitTimeout hstep with
    | inl hsame => exact Int.le_trans (Int.le_of_eq hsame) h
    | inr hle => exact hle

/-- The two back-offs keep apart in exactly the runs in which the PERSIST timer never expires. -/
theorem backedOff_iff_no_persist (timesG : Int → Int) (simTime : Int) (tsEnabled : Bool) (sndUna sndMax sndWnd : SeqNo)
    (events : List Event) (s : TCPBaseAlg)
    (hrun : (created simTime tsEnabled sndUna sndMax sndWnd).run timesG events = some s) :
    (created simTime tsEnabled sndUna sndMax sndWnd).BackedOff timesG events ↔ ∀ event ∈ events, ¬ event.IsPersist :=
  (created_unexpired simTime tsEnabled sndUna sndMax sndWnd).backedOff_iff hrun

/-- Two octets are sent and one of them acknowledged after 2 seconds, then the REXMIT timer expires. -/
def retransmitted : List Event :=
  [.connection 0 2 10 false, .dataSent 0, .elapse (2 * 10 ^ 12), .connection 1 2 10 false, .receivedDataAck,
    .elapse (3875 * 10 ^ 9), .rexmitTimer]

theorem retransmitted_backedOff :
    (created 10 false 0 0 10).BackedOff (fun t => (2 * t + 8) / 16) retransmitted :=
  (backedOff_iff_no_persist _ 10 false 0 0 10 retransmitted _ rfl).mpr (by decide)

/-- The window is closed, and the PERSIST timer expires after 5 seconds. -/
def probed : List Event := [.receivedDataAck, .elapse (5 * 10 ^ 12), .persistTimer false]

/-- The timer is scheduled again with 1.5 seconds, and `rexmit_timeout`, which was 3 seconds, is 5. -/
theorem probed_not_backedOff : ¬ (created 0 false 0 0 0).BackedOff (fun t => (2 * t + 8) / 16) probed := by
  intro h
  exact absurd ((h.last rfl).interval (3 * second / 2) mem_cons_self).1 (by decide)

theorem probed_rexmitTimeout_le : ∃ s, (created 0 false 0 0 0).run (fun t => (2 * t + 8) / 16) probed = some s ∧
    s.rexmitTimeout = 5 * second ∧ s.rexmitTimeout ≤ MAX_REXMIT_TIMEOUT := by
  obtain ⟨s, hrun, htimeout⟩ := Option.map_eq_some_iff.mp
    (by decide : ((created 0 false 0 0 0).run (fun t => (2 * t + 8) / 16) probed).map rexmitTimeout = some (5 * second))
  exact ⟨s, hrun, htimeout, run_rexmitTimeout_le (by decide) hrun⟩

end

end TCPBaseAlg

end Inet.Tcp
