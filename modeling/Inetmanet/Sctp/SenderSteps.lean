import Inetmanet.Sctp.Sender
import Inetmanet.Sctp.SenderChunks

/-!
# The operations on one chunk

What `Sender.lean` does to a chunk keeps the counters, each under the condition that
it rests on.
-/
namespace Inet.Sctp.Sender

open Inet.Sctp.Sender.SCTPAssociation

section

variable {others : Counter → Nat} {paths : List PathId} {queued : Nat} {b : Books} {chunk : SCTPDataVariables}
  {path : PathId}

section

variable (h : Holds others paths queued b chunk)
include h

theorem sendAgain_keeps (hpath : path ∈ paths)
    (henqueued : chunk.enqueuedInTransmissionQ = true) (hacked : chunk.hasBeenAcked = false)
    (hnext : chunk.nextDestination = some path) :
    Succeeds (sendAgain path b chunk) (Keeps others paths queued chunk) := by
  have hcounts : chunk.countsAsOutstanding = false := h.sound.enqueued henqueued
  have hout := h.takeOut henqueued hnext
  have hsent := hout.increase path hcounts hacked rfl hpath
  have hdone := hsent.flags { chunk with
      enqueuedInTransmissionQ := false, numberOfRetransmissions := chunk.numberOfRetransmissions + 1,
      countsAsOutstanding := true, hasBeenReneged := false, lastDestination := some path,
      numberOfTransmissions := chunk.numberOfTransmissions + 1, gapReports := 0, hasBeenFastRetransmitted := false } rfl
    (by funext i; cases i <;> simp [SCTPDataVariables.owes])
    ⟨hsent.sound.acked, hsent.sound.enqueued, hsent.sound.sentTo, hsent.sound.sendTo, Nat.succ_pos _⟩
  have hrun : ¬ chunk.numberOfTransmissions = 0 := Nat.ne_of_gt h.sound.transmitted
  unfold sendAgain
  rw [if_neg hrun]
  exact ⟨_, rfl, hdone, rfl⟩

theorem unbook_keeps (hpath : chunk.queuedOnPath = some path) :
    Succeeds (SCTPAssociation.unbook b chunk) (Keeps others paths queued chunk) := by
  obtain ⟨b₁, hdec, h₁⟩ := decreaseOutstandingBytes_ok h
  have h₂ := (h₁.unbook hpath).2
  have hrun : SCTPAssociation.unbook b chunk = .ok (b₁.sub (.pathQueuedBytes path) chunk.booksize,
      { chunk with countsAsOutstanding := false, queuedOnPath := none }) := by
    rw [SCTPAssociation.unbook, hdec]
    simp only [bind, Except.bind, hpath, deref]
  exact ⟨_, hrun, h₂, rfl⟩

theorem bookAgain_keeps (hpath : path ∈ paths)
    (hcounts : chunk.countsAsOutstanding = false) (hacked : chunk.hasBeenAcked = false)
    (henqueued : chunk.enqueuedInTransmissionQ = false) (hnone : chunk.queuedOnPath = none) :
    Succeeds (bookAgain path b chunk) (Keeps others paths queued chunk) := by
  have hbooked := h.book path hnone
  exact ⟨_, rfl, hbooked.increase path hcounts hacked henqueued hpath, rfl⟩

end

theorem renege_keeps (s : SCTPAssociation) (h : Holds others paths queued b chunk) (sackPath : PathId) :
    Succeeds (s.renege sackPath b chunk) (Keeps others paths queued chunk) := by
  apply Succeeds.ite
  · intro _
    exact ⟨_, rfl, h, rfl⟩
  · intro _
    have hrevoked := h.flags { chunk with hasBeenAcked := false } rfl rfl
      ⟨fun ha => (nomatch ha), h.sound.enqueued, h.sound.sentTo, h.sound.sendTo, h.sound.transmitted⟩
    obtain ⟨b₁, hdec, h₁⟩ := decreaseOutstandingBytes_ok hrevoked
    rw [hdec]
    exact ⟨_, rfl, h₁.flags _ rfl rfl ⟨h₁.sound.acked, h₁.sound.enqueued, h₁.sound.sentTo, h₁.sound.sendTo,
      h₁.sound.transmitted⟩, rfl⟩

/-- A chunk that is retransmitted at once goes where it has been sent before. -/
theorem getNextDestination_fast (s : SCTPAssociation) (htrans : 0 < chunk.numberOfTransmissions)
    (hfast : chunk.hasBeenFastRetransmitted = true) : s.getNextDestination chunk = chunk.lastDestination := by
  rw [getNextDestination, if_neg (Nat.ne_of_gt htrans), if_pos hfast]

theorem reportMissing_keeps (s : SCTPAssociation) (h : Holds others paths queued b chunk) (missing : Nat) (late : Bool)
    (simTime : Nat) : Succeeds (s.reportMissing missing late simTime b chunk) (Keeps others paths queued chunk) := by
  have hsound := h.sound
  unfold SCTPAssociation.reportMissing
  apply Succeeds.ite
  · intro _
    exact ⟨_, rfl, h, rfl⟩
  intro _
  apply Succeeds.ite
  · intro _
    have hreported := h.flags { chunk with gapReports := chunk.gapReports + missing, hasBeenMoved := false } rfl rfl
      ⟨hsound.acked, hsound.enqueued, hsound.sentTo, hsound.sendTo, hsound.transmitted⟩
    apply Succeeds.ite
    · intro _
      exact ⟨_, rfl, hreported, rfl⟩
    · intro hwaits
      have henqueued : chunk.enqueuedInTransmissionQ = false := Bool.eq_false_iff.mpr hwaits
      obtain ⟨⟨b₁, chunk₁⟩, hrun, h₁, abandoned, forward, counts, hchunk₁⟩ := chunkMustBeAbandoned_keeps hreported simTime
      rw [hrun]
      subst hchunk₁
      obtain ⟨last, hmem, hlast⟩ := hsound.sentTo
      have hnext : s.getNextDestination { chunk with
          gapReports := chunk.gapReports + missing, hasBeenMoved := false, hasBeenAbandoned := abandoned,
          countsAsOutstanding := counts, hasBeenFastRetransmitted := true, sendForwardIfAbandoned := true } = some last := by
        rw [getNextDestination_fast s]
        · exact hlast
        · exact hsound.transmitted
        · rfl
      have hmarked := h₁.flags { chunk with
          gapReports := chunk.gapReports + missing, hasBeenMoved := false, hasBeenAbandoned := abandoned,
          countsAsOutstanding := counts, hasBeenFastRetransmitted := true, sendForwardIfAbandoned := true,
          nextDestination := some last } rfl
        (by funext i; cases i <;> simp [SCTPDataVariables.owes, henqueued])
        ⟨h₁.sound.acked, h₁.sound.enqueued, h₁.sound.sentTo, fun _ => ⟨last, rfl⟩, h₁.sound.transmitted⟩
      obtain ⟨b₂, hdec, h₂⟩ := decreaseOutstandingBytes_ok hmarked
      obtain ⟨b₃, hbook, h₃⟩ := bookInTransmissionQ_ok h₂ rfl henqueued rfl
      simp only [bind, Except.bind, hnext]
      rw [hdec]
      exact ⟨_, hbook, h₃, rfl⟩
  · intro _
    exact ⟨_, rfl, h.flags _ rfl rfl ⟨hsound.acked, hsound.enqueued, hsound.sentTo, hsound.sendTo, hsound.transmitted⟩, rfl⟩

/-- A policy applies to the chunk. -/
def Expired (simTime : Nat) (chunk : SCTPDataVariables) : Prop :=
  match chunk.prMethod with
  | .PR_TTL => 0 < chunk.expiryTime ∧ chunk.expiryTime ≤ simTime
  | .PR_RTX => chunk.allowedNoRetransmissions ≤ chunk.numberOfRetransmissions
  | _ => False

/-- The chunk is moved by a timeout of the path. -/
def TimedOut (path : PathId) (simTime : Nat) (chunk : SCTPDataVariables) : Prop :=
  ¬ chunk.hasBeenAbandoned ∧ ¬ Expired simTime chunk ∧
    (¬ chunk.hasBeenAcked ∧ chunk.countsAsOutstanding ∨ chunk.hasBeenReneged) ∧ chunk.lastDestination = some path

theorem chunkMustBeAbandoned_abandons {simTime : Nat} {b' : Books} {chunk' : SCTPDataVariables}
    (hrun : chunkMustBeAbandoned simTime b chunk = .ok (b', chunk')) (hkept : ¬ chunk'.hasBeenAbandoned) :
    ¬ chunk.hasBeenAbandoned ∧ ¬ Expired simTime chunk ∧ b' = b ∧ chunk' = chunk := by
  rw [chunkMustBeAbandoned] at hrun
  cases hmethod : chunk.prMethod with
  | PR_TTL =>
    simp only [hmethod] at hrun
    split at hrun
    · cases hrun
      exact absurd rfl hkept
    · next hlive =>
      cases hrun
      refine ⟨hkept, ?_, rfl, rfl⟩
      simp only [Expired, hmethod]
      rintro ⟨hset, hover⟩
      exact hlive ⟨hset, hover, hkept⟩
  | PR_RTX =>
    simp only [hmethod] at hrun
    split at hrun
    · obtain ⟨⟨b₁, chunk₁⟩, hdec, hrest⟩ := bind_ok.mp hrun
      cases hrest
      unfold decreaseOutstandingBytes at hdec
      split at hdec
      · obtain ⟨last, -, hdec⟩ := bind_ok.mp hdec
        obtain ⟨-, hdec⟩ := ensure_bind_ok.mp hdec
        obtain ⟨-, hdec⟩ := ensure_bind_ok.mp hdec
        cases hdec
        exact absurd rfl hkept
      · cases hdec
        exact absurd rfl hkept
    · next hlive =>
      cases hrun
      refine ⟨hkept, ?_, rfl, rfl⟩
      simp only [Expired, hmethod]
      intro hover
      exact hlive ⟨hover, hkept⟩
  | PR_NONE =>
    simp only [hmethod] at hrun
    cases hrun
    refine ⟨hkept, ?_, rfl, rfl⟩
    simp only [Expired, hmethod, not_false_eq_true]
  | PR_PRIO =>
    simp only [hmethod] at hrun
    cases hrun
    refine ⟨hkept, ?_, rfl, rfl⟩
    simp only [Expired, hmethod, not_false_eq_true]

theorem getNextDestination_some (s : SCTPAssociation) {last : PathId} (htrans : 0 < chunk.numberOfTransmissions)
    (hlast : chunk.lastDestination = some last) : ∃ next, s.getNextDestination chunk = some next := by
  rw [getNextDestination, if_neg (Nat.ne_of_gt htrans), hlast]
  split
  · exact ⟨last, rfl⟩
  · split
    · split
      · exact ⟨_, rfl⟩
      · exact ⟨last, rfl⟩
    · exact ⟨last, rfl⟩

section

variable (h : Holds others paths queued b chunk)
include h

theorem rtxOnTimeout_keeps {s : SCTPAssociation} {simTime : Nat}
    (hnext : TimedOut path simTime chunk → chunk.queuedOnPath ≠ none ∧
      (chunk.enqueuedInTransmissionQ = true → chunk.nextDestination = s.getNextDestination chunk)) :
    Succeeds (s.rtxOnTimeout path simTime b chunk) (Keeps others paths queued chunk) := by
  obtain ⟨⟨b₁, chunk₁⟩, hrun, h₁, abandoned, forward, counts, hchunk₁⟩ := chunkMustBeAbandoned_keeps h simTime
  dsimp only at h₁ hchunk₁
  have hsame : SameData chunk chunk₁ := by
    rw [hchunk₁]
    rfl
  have hstep : s.rtxOnTimeout path simTime b chunk =
      if ¬ chunk₁.hasBeenAbandoned ∧ (¬ chunk₁.hasBeenAcked ∧ chunk₁.countsAsOutstanding ∨ chunk₁.hasBeenReneged) ∧
          chunk₁.lastDestination = some path then do
        let nextPath ← deref (s.getNextDestination chunk₁) "nextPath"
        moveChunkToOtherPath b₁ { chunk₁ with hasBeenTimerBasedRtxed := true, sendForwardIfAbandoned := true } nextPath
      else .ok (b₁, chunk₁) := by
    rw [rtxOnTimeout, hrun]
    rfl
  rw [hstep]
  apply Succeeds.ite
  · intro hmoved
    obtain ⟨hkept, hunexpired, rfl, rfl⟩ := chunkMustBeAbandoned_abandons hrun hmoved.1
    obtain ⟨hqueued, hwaits⟩ := hnext ⟨hkept, hunexpired, hmoved.2⟩
    obtain ⟨queuedOn, hqueued⟩ := Option.ne_none_iff_exists'.mp hqueued
    obtain ⟨next, hdest⟩ := getNextDestination_some s h.sound.transmitted hmoved.2.2
    have hmarked := h.flags { chunk₁ with hasBeenTimerBasedRtxed := true, sendForwardIfAbandoned := true } rfl rfl
      ⟨h.sound.acked, h.sound.enqueued, h.sound.sentTo, h.sound.sendTo, h.sound.transmitted⟩
    rw [hdest]
    exact moveChunkToOtherPath_keeps hmarked hqueued fun henqueued => (hwaits henqueued).trans hdest
  · intro _
    exact ⟨_, rfl, h₁, hsame⟩

theorem reschedule_keeps (late : Bool)
    (hqueued : chunk.queuedOnPath ≠ none) :
    Succeeds (SCTPAssociation.reschedule path late b chunk) (Keeps others paths queued chunk) := by
  apply Succeeds.ite
  · rintro ⟨hcounts, -, -⟩
    obtain ⟨queuedOn, hqueued⟩ := Option.ne_none_iff_exists'.mp hqueued
    have hacked : chunk.hasBeenAcked = false := by
      rw [Bool.eq_false_iff]
      intro hacked
      have hsettled := h.sound.acked hacked
      rw [hcounts] at hsettled
      cases hsettled
    have hwaits (henqueued : chunk.enqueuedInTransmissionQ = true) : chunk.nextDestination = some path := by
      have hsettled := h.sound.enqueued henqueued
      rw [hcounts] at hsettled
      cases hsettled
    obtain ⟨⟨b₁, chunk₁⟩, hmove, h₁, hsame⟩ := moveChunkToOtherPath_keeps h hqueued hwaits
    rw [ensure_pos h.sound.transmitted, ensure_pos hacked, hmove]
    exact ⟨_, rfl, h₁.flags _ rfl rfl ⟨h₁.sound.acked, h₁.sound.enqueued, h₁.sound.sentTo, h₁.sound.sendTo,
      h₁.sound.transmitted⟩, hsame⟩
  · intro _
    exact ⟨_, rfl, h, rfl⟩

theorem fakeRetransmission_keeps {pid : PathId} {newCumTsn : Tsn}
    (hnext : SCTPAssociation.InForwardTsn pid newCumTsn chunk → chunk.sendForwardIfAbandoned = true →
      chunk.enqueuedInTransmissionQ = true → chunk.nextDestination = some pid) :
    Succeeds (fakeRetransmission pid newCumTsn b chunk) (Keeps others paths queued chunk) := by
  apply Succeeds.ite
  · rintro ⟨hin, hforward⟩
    have hmarked := h.flags { chunk with
        gapReports := 0, hasBeenFastRetransmitted := false, numberOfRetransmissions := chunk.numberOfRetransmissions + 1,
        sendForwardIfAbandoned := false } rfl rfl
      ⟨h.sound.acked, h.sound.enqueued, h.sound.sentTo, h.sound.sendTo, h.sound.transmitted⟩
    apply Succeeds.ite
    · intro henqueued
      exact ⟨_, rfl, hmarked.takeOut henqueued (hnext hin hforward henqueued), rfl⟩
    · intro _
      exact ⟨_, rfl, hmarked, rfl⟩
  · intro _
    exact ⟨_, rfl, h, rfl⟩

end

end

end Inet.Sctp.Sender
