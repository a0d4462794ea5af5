import Inetmanet.Tcp.SenderCalls

/-!
# SACK options from the peer

`processSACKOption` passes every block on that ends above the acknowledgement number and
above `snd_una`. Whether the rest of the block can have been sent is not asked before
`setSackedBit`, whose assertions end the simulation where it cannot.
-/
namespace Inet.Tcp

open SerialNumber RunLength TCPSACKRexmitQueue List

namespace TCPReno

/-- The block is passed on to `setSackedBit`. -/
def PassedOn (s : TCPReno) (ackNo : SeqNo) (tmp : Sack) : Prop :=
  seqGreater tmp.end_ ackNo ∧ seqGreater tmp.end_ s.state.sndUna
deriving Decidable

/-- The blocks that are passed on lie in the queue, apart from a start below it. -/
def BlocksFit (s : TCPReno) (seg : AckSegment) : Prop :=
  s.ReadsSACKs seg → ∀ tmp ∈ seg.sacks, s.PassedOn seg.ackNo tmp → s.rexmitQueue.Sackable tmp.start tmp.end_
deriving Decidable

/-- The octet lies inside a block, which may reach over the end of the sequence space. -/
def InBlock (sacks : List Sack) (seqNum : SeqNo) : Prop := ∃ tmp ∈ sacks, seqNum - tmp.start < tmp.end_ - tmp.start

/-- The regions follow each other from the old begin to the old end, and an octet that is newly marked
as selectively acknowledged lies inside a block. -/
structure OnlyMarked (q q' : TCPSACKRexmitQueue) (sacks : List Sack) : Prop where
  checkQueue : q'.CheckQueue
  beginNo : q'.beginNo = q.beginNo
  endNo : q'.endNo = q.endNo
  length : q'.octets.length = q.octets.length
  marked : ∀ n f, q'.octets[n]? = some f → f.sacked = true →
    (∃ g, q.octets[n]? = some g ∧ g.sacked = true) ∨ InBlock sacks (nth q.beginNo n)

/-- No assertion fails, and the queue is left in order. -/
def Survives (s : TCPReno) (seg : AckSegment) : Prop :=
  ∃ s', s.processSACKOption seg = .ok s' ∧ OnlyMarked s.rexmitQueue s'.rexmitQueue seg.sacks

section Blocks

variable {s s' : TCPReno} {ackNo : SeqNo} {tmp : Sack} {sacks : List Sack} {q q' q'' : TCPSACKRexmitQueue}

theorem InBlock.mono {m : List Sack} {seqNum : SeqNo} (h : InBlock sacks seqNum) (hsub : ∀ tmp ∈ sacks, tmp ∈ m) :
    InBlock m seqNum := by
  obtain ⟨tmp, htmp, hin⟩ := h
  exact ⟨tmp, hsub tmp htmp, hin⟩

theorem OnlyMarked.refl (h : q.CheckQueue) : OnlyMarked q q sacks :=
  ⟨h, rfl, rfl, rfl, fun _ f hf hsacked => .inl ⟨f, hf, hsacked⟩⟩

/-- The block first in the option, and those behind it. -/
theorem OnlyMarked.trans (h : OnlyMarked q q' [tmp]) (h' : OnlyMarked q' q'' sacks) : OnlyMarked q q'' (tmp :: sacks) := by
  refine ⟨h'.checkQueue, h'.beginNo.trans h.beginNo, h'.endNo.trans h.endNo, h'.length.trans h.length, ?_⟩
  intro n f hf hsacked
  rcases h'.marked n f hf hsacked with ⟨g, hg, hbefore⟩ | hin
  · refine (h.marked n g hg hbefore).imp_right fun hin => hin.mono ?_
    intro tmp' htmp
    rw [mem_singleton.mp htmp]
    exact mem_cons_self
  · rw [h.beginNo] at hin
    exact .inr (hin.mono fun _ htmp => mem_cons_of_mem _ htmp)

/-- A block in the queue marks the octets inside it only. -/
theorem onlyMarked_setSackedBit (hq : q.Short) (hfits : q.Sackable tmp.start tmp.end_) :
    ∃ q', q.setSackedBit tmp.start tmp.end_ = .ok q' ∧ q'.Short ∧ OnlyMarked q q' [tmp] := by
  obtain ⟨q', hok, hq', hbegin, hend, hoctets⟩ := hq.setSackedBit hfits
  refine ⟨q', hok, hq', hq'.checkQueue, hbegin, hend, by rw [hoctets, length_onRange], ?_⟩
  intro n f hf hsacked
  rw [hoctets, onRange, List.getElem?_mapIdx] at hf
  obtain ⟨g, hg, hmarked⟩ := Option.map_eq_some_iff.mp hf
  split at hmarked
  · next hrange => exact .inr ⟨tmp, mem_singleton_self tmp, hfits.inside hq hrange.1 hrange.2⟩
  · rw [hmarked] at hg
    exact .inl ⟨f, hg, hsacked⟩

/-- A block goes through exactly where it fits, or is not passed on. -/
theorem sackBlock_iff (hq : s.rexmitQueue.Short) :
    (∃ s', sackBlock ackNo s tmp = .ok s') ↔
      (s.PassedOn ackNo tmp → s.rexmitQueue.Sackable tmp.start tmp.end_) := by
  rw [sackBlock]
  split
  · next hpassed =>
    constructor
    · rintro ⟨s', hrun⟩ -
      obtain ⟨q, hsacked, -⟩ := bind_ok.mp hrun
      exact Sackable.of_ok hsacked
    · intro hfits
      obtain ⟨q, hok, -⟩ := onlyMarked_setSackedBit hq (hfits hpassed)
      exact ⟨s.setRexmitQueue q, bind_ok.mpr ⟨q, hok, rfl⟩⟩
  · next hnot => exact ⟨fun _ hpassed => absurd hpassed hnot, fun _ => ⟨s, rfl⟩⟩

theorem onlyMarked_sackBlock (hq : s.rexmitQueue.Short) (hrun : sackBlock ackNo s tmp = .ok s') :
    s'.state = s.state ∧ s'.rexmitQueue.Short ∧ OnlyMarked s.rexmitQueue s'.rexmitQueue [tmp] := by
  rw [sackBlock] at hrun
  split at hrun
  · obtain ⟨q, hsacked, hrun⟩ := bind_ok.mp hrun
    obtain ⟨q', hok, hq', hmarked⟩ := onlyMarked_setSackedBit hq (Sackable.of_ok hsacked)
    rw [hsacked] at hok
    cases hok
    cases hrun
    exact ⟨rfl, hq', hmarked⟩
  · cases hrun
    exact ⟨rfl, hq, .refl hq.checkQueue⟩

/-- Whether a block is passed on and fits does not depend on the blocks before it. -/
theorem fits_iff (hstate : s'.state = s.state) (hmarked : OnlyMarked s.rexmitQueue s'.rexmitQueue sacks) :
    (s'.PassedOn ackNo tmp → s'.rexmitQueue.Sackable tmp.start tmp.end_) ↔
      (s.PassedOn ackNo tmp → s.rexmitQueue.Sackable tmp.start tmp.end_) := by
  rw [PassedOn, PassedOn, Sackable, Sackable, startOf, startOf, hstate, hmarked.beginNo, hmarked.endNo]

/-- All blocks go through exactly where each of them does. -/
theorem sackBlocks_iff (hq : s.rexmitQueue.Short) :
    (∃ s', sacks.foldlM (sackBlock ackNo) s = .ok s') ↔
      ∀ tmp ∈ sacks, s.PassedOn ackNo tmp → s.rexmitQueue.Sackable tmp.start tmp.end_ := by
  induction sacks generalizing s with
  | nil => exact ⟨fun _ _ htmp => absurd htmp not_mem_nil, fun _ => ⟨s, rfl⟩⟩
  | cons tmp sacks ih =>
    rw [forall_mem_cons, ← sackBlock_iff hq]
    constructor
    · rintro ⟨s', hrun⟩
      obtain ⟨s₁, hblock, hrun⟩ := bind_ok.mp hrun
      obtain ⟨hstate, hq₁, hmarked⟩ := onlyMarked_sackBlock hq hblock
      refine ⟨⟨s₁, hblock⟩, ?_⟩
      intro tmp' htmp
      exact (fits_iff hstate hmarked).mp ((ih hq₁).mp ⟨s', hrun⟩ tmp' htmp)
    · rintro ⟨⟨s₁, hblock⟩, hfit⟩
      obtain ⟨hstate, hq₁, hmarked⟩ := onlyMarked_sackBlock hq hblock
      obtain ⟨s', hrun⟩ := (ih hq₁).mpr fun tmp' htmp => (fits_iff hstate hmarked).mpr (hfit tmp' htmp)
      exact ⟨s', bind_ok.mpr ⟨s₁, hblock, hrun⟩⟩

theorem onlyMarked_sackBlocks (hq : s.rexmitQueue.Short) (hrun : sacks.foldlM (sackBlock ackNo) s = .ok s') :
    OnlyMarked s.rexmitQueue s'.rexmitQueue sacks := by
  induction sacks generalizing s with
  | nil =>
    cases hrun
    exact .refl hq.checkQueue
  | cons tmp sacks ih =>
    obtain ⟨s₁, hblock, hrun⟩ := bind_ok.mp hrun
    obtain ⟨-, hq₁, hmarked⟩ := onlyMarked_sackBlock hq hblock
    exact hmarked.trans (ih hq₁ hrun)

end Blocks

/-- In every state of a connection a SACK option leaves the queue in order exactly where the blocks that are
passed on lie in the queue; otherwise an assertion fails. -/
theorem survives_iff {s : TCPReno} (hs : s.Queued) (seg : AckSegment) : s.Survives seg ↔ s.BlocksFit seg := by
  have hq := hs.queue
  rw [Survives, BlocksFit, processSACKOption]
  split
  · next hread =>
    rw [forall_prop_of_true hread, ← sackBlocks_iff hq]
    constructor
    · rintro ⟨s', hrun, -⟩
      obtain ⟨s₁, hblocks, -⟩ := bind_ok.mp hrun
      exact ⟨s₁, hblocks⟩
    · rintro ⟨s₁, hblocks⟩
      have hmarked := onlyMarked_sackBlocks hq hblocks
      exact ⟨_, bind_ok.mpr ⟨s₁, hblocks, rfl⟩, hmarked⟩
  · next hignored => exact ⟨fun _ hread => absurd hread hignored, fun _ => ⟨s, rfl, .refl hq.checkQueue⟩⟩

/-- The sixteen octets that wait have been sent. -/
def allSent : Sim TCPReno := waiting.step (.established false)

theorem allSent_reached {s : TCPReno} (hrun : allSent = .ok s) : Reached Fills s := by
  have hfills : Fills waiting (.established false) := trivial
  exact (Reached.start waiting_initial).step hfills hrun

/-- The peer reports the second segment. -/
theorem duplicateSegment_survived : ∃ s, allSent = .ok s ∧ s.Survives duplicateSegment := by
  refine exists_ok rfl ?_
  intro s hrun
  have hfits : ∀ s, allSent = .ok s → s.BlocksFit duplicateSegment := by decide
  exact (survives_iff (allSent_reached hrun).queued duplicateSegment).mpr (hfits s hrun)

/-- The block ends four octets behind all that has been sent. -/
def beyondSndMax : AckSegment := { duplicateSegment with sacks := [⟨1004, 1020⟩] }

/-- A block that reports what has never been sent ends the simulation. -/
theorem beyondSndMax_fails : ∃ s, Reached Fills s ∧ ¬ s.Survives beyondSndMax ∧ s.processSACKOption beyondSndMax =
    .error (.assertion "seqLess(begin, toSeqNum) && seqLE(toSeqNum, end)") := by
  obtain ⟨s, hrun, hfails⟩ := exists_ok (x := allSent) (p := fun s =>
    (s.processSACKOption beyondSndMax).map TCPReno.toTCPConnection =
      .error (.assertion "seqLess(begin, toSeqNum) && seqLE(toSeqNum, end)")) (by decide) (by decide)
  refine ⟨s, allSent_reached hrun, ?_⟩
  cases hoption : s.processSACKOption beyondSndMax with
  | ok s' =>
    rw [hoption] at hfails
    cases hfails
  | error e =>
    rw [hoption] at hfails
    refine ⟨?_, congrArg Except.error (Except.error.inj hfails)⟩
    rintro ⟨s', hok, -⟩
    rw [hoption] at hok
    cases hok

end TCPReno

end Inet.Tcp
