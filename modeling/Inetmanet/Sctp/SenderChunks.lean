import Inetmanet.Lib.Succeeds
import Inetmanet.Sctp.SenderBooks

/-!
# What one chunk owes to the counters

Every operation on a chunk keeps the counters where they belong: at what the other
chunks owe to them and what this one owes.
-/
namespace Inet.Sctp.Sender

open Function

/-- Each counter stands at what the others owe to it, and at `f` on top of that. -/
def Books.Stands (b : Books) (others f : Counter → Nat) : Prop := ∀ i, b i = others i + f i

namespace Books.Stands

variable {b : Books} {others f : Counter → Nat} {i : Counter} {n : Nat}

theorem size_le (i : Counter) : 2 ^ 32 ≤ i.size := by
  cases i <;> simp [Counter.size]

theorem add (h : b.Stands others f) (hfit : others i + f i + n < 2 ^ 32) :
    (b.add i n).Stands others (update f i (f i + n)) := by
  intro j
  by_cases hj : j = i
  · subst hj
    have hb := h j
    have hsize := size_le j
    rw [Books.add, update_self, update_self, Nat.mod_eq_of_lt (by omega)]
    omega
  · rw [Books.add, update_of_ne hj, update_of_ne hj]
    exact h j

theorem sub (h : b.Stands others f) (hle : n ≤ f i) (hfit : others i + f i < 2 ^ 32) :
    (b.sub i n).Stands others (update f i (f i - n)) := by
  intro j
  by_cases hj : j = i
  · subst hj
    have hb := h j
    have hsize := size_le j
    have hmod : n % j.size = n := Nat.mod_eq_of_lt (by omega)
    have hsum : b j + (j.size - n) = (others j + (f j - n)) + j.size := by omega
    rw [Books.sub, update_self, update_self, hmod, hsum, Nat.add_mod_right, Nat.mod_eq_of_lt (by omega)]
  · rw [Books.sub, update_of_ne hj, update_of_ne hj]
    exact h j

theorem congr {g : Counter → Nat} (h : b.Stands others f) (hfg : f = g) : b.Stands others g := hfg ▸ h

end Books.Stands

namespace SCTPDataVariables

/-- What the accounting of the source counts for a chunk; `queuedSentBytes` loses it before the others do. -/
def owes (chunk : SCTPDataVariables) (queued : Nat) : Counter → Nat
  | .outstandingBytes => if chunk.countsAsOutstanding then chunk.booksize else 0
  | .queuedSentBytes => queued
  | .pathOutstandingBytes path => if chunk.countsAsOutstanding ∧ chunk.lastDestination = some path then chunk.booksize else 0
  | .pathQueuedBytes path => if chunk.queuedOnPath = some path then chunk.booksize else 0
  | .roomTransQ path => if chunk.enqueuedInTransmissionQ ∧ chunk.nextDestination = some path then chunk.room else 0
  | .bookedTransQ path => if chunk.enqueuedInTransmissionQ ∧ chunk.nextDestination = some path then chunk.booksize else 0

def weight (chunk : SCTPDataVariables) : Nat := chunk.booksize + chunk.room

theorem owes_le_weight (chunk : SCTPDataVariables) {queued : Nat} (hq : queued ≤ chunk.booksize) (i : Counter) :
    chunk.owes queued i ≤ chunk.weight := by
  cases i <;> simp only [owes, weight]
  case queuedSentBytes => omega
  all_goals split <;> omega

/-- What holds of the flags of a chunk of the retransmission queue. -/
structure Sound (paths : List PathId) (chunk : SCTPDataVariables) : Prop where
  acked : chunk.hasBeenAcked = true → chunk.countsAsOutstanding = false
  enqueued : chunk.enqueuedInTransmissionQ = true → chunk.countsAsOutstanding = false
  sentTo : ∃ path ∈ paths, chunk.lastDestination = some path
  sendTo : chunk.enqueuedInTransmissionQ = true → ∃ path, chunk.nextDestination = some path
  transmitted : 0 < chunk.numberOfTransmissions

end SCTPDataVariables

open Sender.SCTPDataVariables

/-- The counters stand at what `others` and the chunk owe to them. -/
structure Holds (others : Counter → Nat) (paths : List PathId) (queued : Nat) (b : Books) (chunk : SCTPDataVariables) : Prop where
  stands : b.Stands others (chunk.owes queued)
  fits : ∀ i, others i + chunk.weight < 2 ^ 32
  queued_le : queued ≤ chunk.booksize
  sound : chunk.Sound paths

/-- What no operation on a chunk changes. -/
def SameData (chunk chunk' : SCTPDataVariables) : Prop := chunk'.toSCTPDataVariables = chunk.toSCTPDataVariables

variable {chunk chunk' : SCTPDataVariables}

section

variable (h : SameData chunk chunk')
include h

theorem SameData.weight : chunk'.weight = chunk.weight := by
  rw [SCTPDataVariables.weight, SCTPDataVariables.weight, SCTPDataVariables.room, SCTPDataVariables.room, h]

theorem SameData.tsn : chunk'.tsn = chunk.tsn :=
  congrArg (·.tsn) h

theorem SameData.booksize : chunk'.booksize = chunk.booksize :=
  congrArg (·.booksize) h

end

section

variable {others : Counter → Nat} {paths : List PathId} {queued : Nat} {b : Books} {chunk : SCTPDataVariables}
  {path : PathId}

theorem Holds.owed (h : Holds others paths queued b chunk) (i : Counter) : others i + chunk.owes queued i < 2 ^ 32 := by
  have hfits := h.fits i
  have hle := chunk.owes_le_weight h.queued_le i
  omega

/-- Other books, or flags that have moved a part of the debt. -/
theorem Holds.with {b' : Books} {chunk' : SCTPDataVariables} {f : Counter → Nat} (h : Holds others paths queued b chunk)
    (hdata : SameData chunk chunk') (hstands : b'.Stands others f) (howes : f = chunk'.owes queued) (hsound : chunk'.Sound paths) :
    Holds others paths queued b' chunk' := by
  constructor
  · exact hstands.congr howes
  · intro i
    rw [hdata.weight]
    exact h.fits i
  · rw [hdata.booksize]
    exact h.queued_le
  · exact hsound

/-- Flags that no counter depends on. -/
theorem Holds.flags (chunk' : SCTPDataVariables) (h : Holds others paths queued b chunk) (hdata : SameData chunk chunk')
    (howes : chunk.owes queued = chunk'.owes queued) (hsound : chunk'.Sound paths) : Holds others paths queued b chunk' :=
  h.with hdata h.stands howes hsound

theorem owes_settled (hlast : chunk.lastDestination = some path) :
    update (update (chunk.owes queued) (.pathOutstandingBytes path) 0) .outstandingBytes 0 =
      { chunk with countsAsOutstanding := false }.owes queued := by
  funext i
  cases i with
  | pathOutstandingBytes p =>
    by_cases hp : p = path
    · subst hp
      simp [owes]
    · have hne : ¬ some path = some p := fun h => hp (Option.some.inj h).symm
      simp [owes, hp, hlast, hne]
  | _ => simp [owes, SCTPDataVariables.room]

theorem decreaseOutstandingBytes_ok (h : Holds others paths queued b chunk) :
    ∃ b', decreaseOutstandingBytes b chunk = .ok (b', { chunk with countsAsOutstanding := false }) ∧
      Holds others paths queued b' { chunk with countsAsOutstanding := false } := by
  have hsound : { chunk with countsAsOutstanding := false }.Sound paths :=
    ⟨fun _ => rfl, fun _ => rfl, h.sound.sentTo, h.sound.sendTo, h.sound.transmitted⟩
  cases hcounts : chunk.countsAsOutstanding with
  | false =>
    have hsame : { chunk with countsAsOutstanding := false } = chunk := by
      rw [← hcounts]
    rw [hsame, decreaseOutstandingBytes, hcounts]
    exact ⟨b, rfl, h⟩
  | true =>
    obtain ⟨path, -, hlast⟩ := h.sound.sentTo
    have htotal : chunk.owes queued .outstandingBytes = chunk.booksize := if_pos hcounts
    have hpath : chunk.owes queued (.pathOutstandingBytes path) = chunk.booksize := if_pos ⟨hcounts, hlast⟩
    have hpaid := h.stands.sub (Nat.le_of_eq hpath.symm) (h.owed (.pathOutstandingBytes path))
    rw [hpath, Nat.sub_self] at hpaid
    have hpaid' := hpaid.sub (i := .outstandingBytes) (n := chunk.booksize)
      (Nat.le_of_eq (htotal.symm.trans (update_of_ne (by simp) _ _).symm))
      (by rw [update_of_ne (by simp)]; exact h.owed .outstandingBytes)
    rw [update_of_ne (by simp), htotal, Nat.sub_self] at hpaid'
    have hheld : Holds others paths queued _ { chunk with countsAsOutstanding := false } :=
      h.with rfl hpaid' (owes_settled hlast) hsound
    refine ⟨_, ?_, hheld⟩
    have hbefore := h.stands (.pathOutstandingBytes path)
    have hafter := hheld.stands .outstandingBytes
    have hsmall := hheld.owed .outstandingBytes
    rw [decreaseOutstandingBytes, if_pos hcounts, hlast]
    simp only [deref, bind, Except.bind]
    rw [ensure_pos (by omega)]
    rw [ensure_pos (by omega)]

theorem Holds.increase (path : PathId) (h : Holds others paths queued b chunk) (hcounts : chunk.countsAsOutstanding = false)
    (hacked : chunk.hasBeenAcked = false) (henqueued : chunk.enqueuedInTransmissionQ = false) (hpath : path ∈ paths) :
    Holds others paths queued (increaseOutstandingBytes b chunk path)
      { chunk with lastDestination := some path, countsAsOutstanding := true } := by
  have htotal : chunk.owes queued .outstandingBytes = 0 := if_neg (by rw [hcounts]; simp)
  have hold : chunk.owes queued (.pathOutstandingBytes path) = 0 := if_neg (by rw [hcounts]; simp)
  have hfits := h.fits (.pathOutstandingBytes path)
  have hfits' := h.fits .outstandingBytes
  rw [SCTPDataVariables.weight] at hfits hfits'
  have hpaid := h.stands.add (i := .pathOutstandingBytes path) (n := chunk.booksize) (by omega)
  have hpaid' := hpaid.add (i := .outstandingBytes) (n := chunk.booksize) (by rw [update_of_ne (by simp)]; omega)
  rw [update_of_ne (by simp), htotal, hold, Nat.zero_add] at hpaid'
  refine h.with rfl hpaid' ?_ ⟨fun ha => absurd ha (by rw [hacked]; simp), fun he => absurd he (by rw [henqueued]; simp),
    ⟨path, hpath, rfl⟩, h.sound.sendTo, h.sound.transmitted⟩
  funext i
  cases i with
  | pathOutstandingBytes p =>
    by_cases hp : p = path
    · subst hp
      simp [owes]
    · simp [owes, hp, hcounts, Ne.symm hp]
  | _ => simp [owes, SCTPDataVariables.room]

section

variable (h : Holds others paths queued b chunk)
include h

theorem bookInTransmissionQ_ok (hcounts : chunk.countsAsOutstanding = false)
    (henqueued : chunk.enqueuedInTransmissionQ = false) (hnext : chunk.nextDestination = some path) :
    ∃ b', bookInTransmissionQ b chunk = .ok (b', { chunk with enqueuedInTransmissionQ := true }) ∧
      Holds others paths queued b' { chunk with enqueuedInTransmissionQ := true } := by
  have hroom : chunk.owes queued (.roomTransQ path) = 0 := if_neg (by rw [henqueued]; simp)
  have hbooked : chunk.owes queued (.bookedTransQ path) = 0 := if_neg (by rw [henqueued]; simp)
  have hfits := h.fits (.roomTransQ path)
  have hfits' := h.fits (.bookedTransQ path)
  rw [SCTPDataVariables.weight] at hfits hfits'
  have hpaid := h.stands.add (i := .roomTransQ path) (n := chunk.room) (by omega)
  have hpaid' := hpaid.add (i := .bookedTransQ path) (n := chunk.booksize) (by rw [update_of_ne (by simp)]; omega)
  rw [update_of_ne (by simp), hroom, hbooked, Nat.zero_add, Nat.zero_add] at hpaid'
  refine ⟨_, ?_, h.with rfl hpaid' ?_ ⟨h.sound.acked, fun _ => hcounts, h.sound.sentTo, fun _ => ⟨path, hnext⟩,
    h.sound.transmitted⟩⟩
  · rw [bookInTransmissionQ, hnext]
    rfl
  · funext i
    cases i with
    | roomTransQ p =>
      by_cases hp : p = path
      · subst hp
        simp [owes, SCTPDataVariables.room, hnext]
      · simp [owes, hp, hnext, henqueued, Ne.symm hp]
    | bookedTransQ p =>
      by_cases hp : p = path
      · subst hp
        simp [owes, hnext]
      · simp [owes, hp, hnext, henqueued, Ne.symm hp]
    | _ => simp [owes]

/-- The chunk leaves the transmission queue and the counters of the path it waited for. -/
theorem Holds.takeOut (henqueued : chunk.enqueuedInTransmissionQ = true)
    (hnext : chunk.nextDestination = some path) :
    Holds others paths queued ((b.sub (.roomTransQ path) chunk.room).sub (.bookedTransQ path) chunk.booksize)
      { chunk with enqueuedInTransmissionQ := false } := by
  have hroom : chunk.owes queued (.roomTransQ path) = chunk.room := if_pos ⟨henqueued, hnext⟩
  have hbooked : chunk.owes queued (.bookedTransQ path) = chunk.booksize := if_pos ⟨henqueued, hnext⟩
  have hpaid := h.stands.sub (Nat.le_of_eq hroom.symm) (h.owed (.roomTransQ path))
  rw [hroom, Nat.sub_self] at hpaid
  have hpaid' := hpaid.sub (i := .bookedTransQ path) (n := chunk.booksize)
    (Nat.le_of_eq (hbooked.symm.trans (update_of_ne (by simp) _ _).symm))
    (by rw [update_of_ne (by simp)]; exact h.owed (.bookedTransQ path))
  rw [update_of_ne (by simp), hbooked, Nat.sub_self] at hpaid'
  refine h.with rfl hpaid' ?_ ⟨h.sound.acked, fun he => absurd he (by simp), h.sound.sentTo, fun he => absurd he (by simp),
    h.sound.transmitted⟩
  funext i
  cases i with
  | roomTransQ p =>
    by_cases hp : p = path
    · subst hp
      simp [owes]
    · simp [owes, hp, hnext, Ne.symm hp]
  | bookedTransQ p =>
    by_cases hp : p = path
    · subst hp
      simp [owes]
    · simp [owes, hp, hnext, Ne.symm hp]
  | _ => simp [owes]

theorem dropFromTransmissionQ_ok :
    ∃ b', dropFromTransmissionQ b chunk = .ok (b', { chunk with enqueuedInTransmissionQ := false }) ∧
      Holds others paths queued b' { chunk with enqueuedInTransmissionQ := false } := by
  cases henqueued : chunk.enqueuedInTransmissionQ with
  | false =>
    have hsame : { chunk with enqueuedInTransmissionQ := false } = chunk := by
      rw [← henqueued]
    rw [hsame, dropFromTransmissionQ, henqueued]
    exact ⟨b, rfl, h⟩
  | true =>
    obtain ⟨path, hnext⟩ := h.sound.sendTo henqueued
    refine ⟨_, ?_, h.takeOut henqueued hnext⟩
    rw [dropFromTransmissionQ, if_pos henqueued, hnext]
    rfl

theorem Holds.unbook (hpath : chunk.queuedOnPath = some path) :
    chunk.booksize ≤ b (.pathQueuedBytes path) ∧
      Holds others paths queued (b.sub (.pathQueuedBytes path) chunk.booksize) { chunk with queuedOnPath := none } := by
  have howed : chunk.owes queued (.pathQueuedBytes path) = chunk.booksize := if_pos hpath
  have hpaid := h.stands.sub (Nat.le_of_eq howed.symm) (h.owed (.pathQueuedBytes path))
  rw [howed, Nat.sub_self] at hpaid
  constructor
  · have hb := h.stands (.pathQueuedBytes path)
    omega
  · refine h.with rfl hpaid ?_ ⟨h.sound.acked, h.sound.enqueued, h.sound.sentTo, h.sound.sendTo, h.sound.transmitted⟩
    funext i
    cases i with
    | pathQueuedBytes p =>
      by_cases hp : p = path
      · subst hp
        simp [owes]
      · simp [owes, hp, hpath, Ne.symm hp]
    | _ => simp [owes, SCTPDataVariables.room]

end

theorem Holds.book (path : PathId) (h : Holds others paths queued b chunk) (hnone : chunk.queuedOnPath = none) :
    Holds others paths queued (b.add (.pathQueuedBytes path) chunk.booksize) { chunk with queuedOnPath := some path } := by
  have howed : chunk.owes queued (.pathQueuedBytes path) = 0 := if_neg (by rw [hnone]; simp)
  have hfits := h.fits (.pathQueuedBytes path)
  rw [SCTPDataVariables.weight] at hfits
  have hpaid := h.stands.add (i := .pathQueuedBytes path) (n := chunk.booksize) (by omega)
  rw [howed, Nat.zero_add] at hpaid
  refine h.with rfl hpaid ?_ ⟨h.sound.acked, h.sound.enqueued, h.sound.sentTo, h.sound.sendTo, h.sound.transmitted⟩
  funext i
  cases i with
  | pathQueuedBytes p =>
    by_cases hp : p = path
    · subst hp
      simp [owes]
    · simp [owes, hp, hnone, Ne.symm hp]
  | _ => simp [owes, SCTPDataVariables.room]

/-- What an operation on a chunk has to do. -/
def Keeps (others : Counter → Nat) (paths : List PathId) (queued : Nat) (chunk : SCTPDataVariables) (r : Books × SCTPDataVariables) :
    Prop :=
  Holds others paths queued r.1 r.2 ∧ SameData chunk r.2

theorem renegablyAckChunk_keeps (h : Holds others paths queued b chunk) (sackPath : PathId) :
    Succeeds (renegablyAckChunk b chunk sackPath) (Keeps others paths queued chunk) := by
  obtain ⟨b₁, hdec, h₁⟩ := decreaseOutstandingBytes_ok h
  have hacked := h₁.flags { chunk with
    countsAsOutstanding := false, hasBeenAcked := true, ackedOnPath := some sackPath, gapReports := 0 } rfl rfl
    ⟨fun _ => rfl, h₁.sound.enqueued, h₁.sound.sentTo, h₁.sound.sendTo, h₁.sound.transmitted⟩
  obtain ⟨b₂, hdrop, h₂⟩ := dropFromTransmissionQ_ok hacked
  have hrun : renegablyAckChunk b chunk sackPath = dropFromTransmissionQ b₁ { chunk with
      countsAsOutstanding := false, hasBeenAcked := true, ackedOnPath := some sackPath, gapReports := 0 } := by
    rw [renegablyAckChunk, hdec]
    rfl
  exact ⟨_, hrun.trans hdrop, h₂, rfl⟩

/-- The chunk owes nothing any more. -/
theorem nonRenegablyAckChunk_pays (h : Holds others paths chunk.booksize b chunk) (sackPath : PathId)
    (hpath : chunk.queuedOnPath = some path) :
    Succeeds (nonRenegablyAckChunk b chunk sackPath) fun b' => ∀ i, b' i = others i := by
  obtain ⟨hbooked, h₁⟩ := h.unbook hpath
  have howed : chunk.booksize ≤ (b.sub (.pathQueuedBytes path) chunk.booksize) .queuedSentBytes := by
    rw [h₁.stands .queuedSentBytes]
    exact Nat.le_add_left ..
  -- from here on the chunk owes nothing to `queuedSentBytes`
  have hpaid := h₁.stands.sub (i := .queuedSentBytes) (n := chunk.booksize) (Nat.le_refl _) (h₁.owed .queuedSentBytes)
  have h₂ : Holds others paths 0 ((b.sub (.pathQueuedBytes path) chunk.booksize).sub .queuedSentBytes chunk.booksize)
      { chunk with queuedOnPath := none } := by
    refine ⟨hpaid.congr ?_, h₁.fits, Nat.zero_le _, h₁.sound⟩
    funext i
    cases i <;> simp [owes, SCTPDataVariables.room]
  obtain ⟨b₃, hdec, h₃⟩ := decreaseOutstandingBytes_ok h₂
  have hacked := h₃.flags { chunk with
    queuedOnPath := none, countsAsOutstanding := false, hasBeenAcked := true, ackedOnPath := some sackPath } rfl rfl
    ⟨fun _ => rfl, h₃.sound.enqueued, h₃.sound.sentTo, h₃.sound.sendTo, h₃.sound.transmitted⟩
  obtain ⟨b₄, hdrop, h₄⟩ := dropFromTransmissionQ_ok hacked
  refine ⟨b₄, ?_, fun i => ?_⟩
  · obtain ⟨last, -, hlast⟩ := h.sound.sentTo
    rw [nonRenegablyAckChunk, ensure_pos (by rw [hlast]; simp), hpath]
    simp only [deref, bind, Except.bind]
    rw [ensure_pos hbooked]
    rw [ensure_pos howed]
    by_cases hbefore : chunk.hasBeenAcked = true
    · have hcounts : chunk.countsAsOutstanding = false := h.sound.acked hbefore
      rw [decreaseOutstandingBytes, hcounts] at hdec
      have hsame := Prod.mk.inj (Except.ok.inj hdec)
      rw [if_pos hbefore, hsame.1, hcounts, hdrop]
    · rw [if_neg hbefore, hdec]
      dsimp only
      rw [hdrop]
  · rw [h₄.stands i]
    cases i <;> simp [owes]

section

variable (h : Holds others paths queued b chunk)
include h

theorem moveChunkToOtherPath_keeps {path newPath : PathId}
    (hpath : chunk.queuedOnPath = some path)
    (hnext : chunk.enqueuedInTransmissionQ = true → chunk.nextDestination = some newPath) :
    Succeeds (moveChunkToOtherPath b chunk newPath) (Keeps others paths queued chunk) := by
  obtain ⟨b₁, hdec, h₁⟩ := decreaseOutstandingBytes_ok h
  -- where the chunk already waits for the new path, its destination is as it was
  have h₂ := h₁.flags { chunk with
    countsAsOutstanding := false, hasBeenFastRetransmitted := false, gapReports := 0, nextDestination := some newPath } rfl
    (by
      funext i
      by_cases henqueued : chunk.enqueuedInTransmissionQ = true
      · cases i <;> simp [owes, SCTPDataVariables.room, hnext henqueued]
      · cases i <;> simp [owes, henqueued])
    ⟨h₁.sound.acked, fun _ => rfl, h₁.sound.sentTo, fun _ => ⟨newPath, rfl⟩, h₁.sound.transmitted⟩
  obtain ⟨hbooked, h₃⟩ := h₂.unbook hpath
  have h₄ := h₃.book newPath rfl
  have hstep : moveChunkToOtherPath b chunk newPath =
      if chunk.enqueuedInTransmissionQ then
        .ok ((b₁.sub (.pathQueuedBytes path) chunk.booksize).add (.pathQueuedBytes newPath) chunk.booksize,
          { chunk with
            countsAsOutstanding := false, hasBeenFastRetransmitted := false, gapReports := 0,
            nextDestination := some newPath, queuedOnPath := some newPath })
      else bookInTransmissionQ ((b₁.sub (.pathQueuedBytes path) chunk.booksize).add (.pathQueuedBytes newPath) chunk.booksize)
        { chunk with
          countsAsOutstanding := false, hasBeenFastRetransmitted := false, gapReports := 0,
          nextDestination := some newPath, queuedOnPath := some newPath } := by
    rw [moveChunkToOtherPath, hdec]
    simp only [bind, Except.bind, hpath, deref]
    rw [ensure_pos hbooked]
  rw [hstep]
  by_cases henqueued : chunk.enqueuedInTransmissionQ = true
  · rw [if_pos henqueued]
    exact ⟨_, rfl, h₄, rfl⟩
  · rw [if_neg henqueued]
    obtain ⟨b₅, hbook, h₅⟩ := bookInTransmissionQ_ok h₄ rfl (Bool.eq_false_iff.mpr henqueued) rfl
    exact ⟨_, hbook, h₅, rfl⟩

theorem putInTransmissionQ_keeps :
    Succeeds (putInTransmissionQ b chunk) (Keeps others paths queued chunk) := by
  obtain ⟨b₁, hdec, h₁⟩ := decreaseOutstandingBytes_ok h
  obtain ⟨last, -, hlast⟩ := h.sound.sentTo
  have hstep : putInTransmissionQ b chunk =
      if chunk.enqueuedInTransmissionQ then .ok (b₁, { chunk with countsAsOutstanding := false })
      else bookInTransmissionQ b₁ { chunk with
        countsAsOutstanding := false, hasBeenFastRetransmitted := true, nextDestination := chunk.lastDestination } := by
    rw [putInTransmissionQ, hdec]
    rfl
  rw [hstep]
  by_cases henqueued : chunk.enqueuedInTransmissionQ = true
  · rw [if_pos henqueued]
    exact ⟨_, rfl, h₁, rfl⟩
  · rw [if_neg henqueued]
    have h₂ := h₁.flags { chunk with
      countsAsOutstanding := false, hasBeenFastRetransmitted := true, nextDestination := chunk.lastDestination } rfl
      (by funext i; cases i <;> simp [owes, henqueued])
      ⟨h₁.sound.acked, fun _ => rfl, h₁.sound.sentTo, fun _ => ⟨last, hlast⟩, h₁.sound.transmitted⟩
    obtain ⟨b₃, hbook, h₃⟩ := bookInTransmissionQ_ok h₂ rfl (Bool.eq_false_iff.mpr henqueued) hlast
    exact ⟨_, hbook, h₃, rfl⟩

/-- Abandoning a chunk sets flags; its bytes may stop to count. -/
theorem chunkMustBeAbandoned_keeps (simTime : Nat) :
    Succeeds (chunkMustBeAbandoned simTime b chunk) fun r => Holds others paths queued r.1 r.2 ∧
      ∃ abandoned forward counts, r.2 = { chunk with
        hasBeenAbandoned := abandoned, sendForwardIfAbandoned := forward, countsAsOutstanding := counts } := by
  have hmarked := h.flags { chunk with hasBeenAbandoned := true, sendForwardIfAbandoned := true } rfl rfl
    ⟨h.sound.acked, h.sound.enqueued, h.sound.sentTo, h.sound.sendTo, h.sound.transmitted⟩
  unfold chunkMustBeAbandoned
  split
  · apply Succeeds.ite
    · intro _
      exact ⟨_, rfl, hmarked, true, true, chunk.countsAsOutstanding, rfl⟩
    · intro _
      exact ⟨_, rfl, h, chunk.hasBeenAbandoned, chunk.sendForwardIfAbandoned, chunk.countsAsOutstanding, rfl⟩
  · apply Succeeds.ite
    · intro _
      obtain ⟨b₁, hdec, h₁⟩ := decreaseOutstandingBytes_ok hmarked
      rw [hdec]
      exact ⟨_, rfl, h₁, true, true, false, rfl⟩
    · intro _
      exact ⟨_, rfl, h, chunk.hasBeenAbandoned, chunk.sendForwardIfAbandoned, chunk.countsAsOutstanding, rfl⟩
  · exact ⟨_, rfl, h, chunk.hasBeenAbandoned, chunk.sendForwardIfAbandoned, chunk.countsAsOutstanding, rfl⟩

end

/-- The policies only mark a chunk as abandoned. -/
theorem applyPolicies_cases (simTime : Nat) (chunk : SCTPDataVariables) :
    applyPolicies simTime chunk = chunk ∨ applyPolicies simTime chunk = { chunk with hasBeenAbandoned := true } := by
  unfold applyPolicies
  split
  · split
    · split
      · exact .inr rfl
      · exact .inl rfl
    · split
      · exact .inr rfl
      · exact .inl rfl
    · exact .inl rfl
  · exact .inl rfl

end

end Inet.Sctp.Sender
