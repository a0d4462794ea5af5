import Inetmanet.Lib.Ensures
import Inetmanet.Sctp.SackArrival
import Inetmanet.Sctp.SenderAccounting

/-!
# Which SACK and FORWARD-TSN chunks are processed to the end

The loops of `processSackArrived` step a counter of 32 bits between bounds from the
chunk. They end, and pass their assertions, exactly if the blocks are where the counters
come to when TSNs are compared as plain numbers.
-/
namespace Inet.Sctp

open CounterLoops List

/-- Each block starts more than one after the end of the one before. -/
def BlocksInOrder (lastTSN : Tsn) : List Gap → Prop
  | [] => True
  | block :: blocks => tsnLt (lastTSN + 1) block.start ∧ BlocksInOrder block.stop blocks

instance : (lastTSN : Tsn) → (blocks : List Gap) → Decidable (BlocksInOrder lastTSN blocks)
  | _, [] => .isTrue trivial
  | _, block :: blocks =>
    have := instDecidableBlocksInOrder block.stop blocks
    inferInstanceAs (Decidable (_ ∧ BlocksInOrder block.stop blocks))

/-- The TSNs of a block that are looked at. -/
def Gap.tsns (block : Gap) : List Tsn :=
  List.iterate (· + 1) block.start (if tsnLe block.start block.stop then (block.stop - block.start).toNat + 1 else 0)

theorem tsnLe_iff_toNat {a b : Tsn} : tsnLe a b ↔ (b - a).toNat ≤ 2 ^ 31 := by
  have hneg : (a - b).toNat = (2 ^ 32 - (b - a).toNat) % 2 ^ 32 := by
    rw [BitVec.toNat_sub, BitVec.toNat_sub]
    omega
  rw [tsnLe, BitVec.toInt_eq_toNat_cond, hneg]
  split <;> omega

theorem whileTsnLe_eq (enter : SCTPGapList → Tsn → SCTPGapList) (block : Gap) (l : SCTPGapList) :
    whileTsnLe enter block.stop block.start l = .ok (block.tsns.foldl enter l) := by
  have hrest (k : Nat) : (block.stop - (block.start + BitVec.ofNat 32 k)).toNat =
      ((block.stop - block.start).toNat + (2 ^ 32 - k % 2 ^ 32)) % 2 ^ 32 := by
    rw [← BitVec.sub_sub, BitVec.toNat_sub, BitVec.toNat_ofNat, Nat.add_comm]
  rw [whileTsnLe, Gap.tsns]
  by_cases h : tsnLe block.start block.stop
  · rw [if_pos h, loop_eq (n := (block.stop - block.start).toNat + 1)]
    · exact foldlM_pure
    · rw [tsnLe_iff_toNat] at h
      omega
    · intro k hk
      rw [tsnLe_iff_toNat] at h
      rw [iterate_add_one, tsnLe_iff_toNat, hrest]
      omega
    · rw [iterate_add_one, tsnLe_iff_toNat, hrest]
      omega
  · rw [if_neg h]
    exact loop_eq CRuntimeError.diverges (c := (tsnLe · block.stop)) (n := 0) (Nat.two_pow_pos 32)
      (fun k hk => absurd hk (Nat.not_lt_zero k)) h l

variable {l l' : SCTPGapList}

variable {enter : SCTPGapList → Tsn → SCTPGapList}

theorem enterBlock_ok_iff {lastTSN t : Tsn} {block : Gap} :
    enterBlock enter (l, lastTSN) block = .ok (l', t) ↔
      tsnLt (lastTSN + 1) block.start ∧ l' = block.tsns.foldl enter l ∧ t = block.stop := by
  rw [enterBlock, ensure_bind_ok, whileTsnLe_eq]
  refine and_congr_right fun _ => ?_
  constructor
  · intro h
    cases h
    exact ⟨rfl, rfl⟩
  · rintro ⟨rfl, rfl⟩
    rfl

theorem enterBlocks_ok_iff {lastTSN : Tsn} {blocks : List Gap} :
    (∃ t, blocks.foldlM (enterBlock enter) (l, lastTSN) = .ok (l', t)) ↔
      BlocksInOrder lastTSN blocks ∧ l' = (blocks.flatMap Gap.tsns).foldl enter l := by
  induction blocks generalizing l lastTSN with
  | nil =>
    constructor
    · rintro ⟨t, h⟩
      cases h
      exact ⟨trivial, rfl⟩
    · rintro ⟨-, rfl⟩
      exact ⟨lastTSN, rfl⟩
  | cons block blocks ih =>
    rw [flatMap_cons, foldl_append, BlocksInOrder, and_assoc, ← ih]
    constructor
    · rintro ⟨t, h⟩
      obtain ⟨⟨l₁, t₁⟩, hblock, hrest⟩ := bind_ok.mp h
      obtain ⟨hlt, rfl, rfl⟩ := enterBlock_ok_iff.mp hblock
      exact ⟨hlt, t, hrest⟩
    · rintro ⟨hlt, t, hrest⟩
      exact ⟨t, bind_ok.mpr ⟨_, enterBlock_ok_iff.mpr ⟨hlt, rfl, rfl⟩, hrest⟩⟩

namespace SCTPSackChunk

variable (sackChunk : SCTPSackChunk)

def InOrder : Prop :=
  BlocksInOrder sackChunk.cumTsnAck sackChunk.gaps ∧ BlocksInOrder sackChunk.cumTsnAck sackChunk.nrGaps
deriving Decidable

/-- The gap list with all TSNs of the blocks. -/
def entered : SCTPGapList :=
  (sackChunk.nrGaps.flatMap Gap.tsns).foldl (enterNonRevokable sackChunk.nrSubtractRGaps)
    ((sackChunk.gaps.flatMap Gap.tsns).foldl enterRevokable (({} : SCTPGapList).setInitialCumAckTSN sackChunk.cumTsnAck))

theorem sackGapList_ok_iff : sackChunk.sackGapList = .ok l ↔ sackChunk.InOrder ∧ l = sackChunk.entered := by
  rw [sackGapList, InOrder, and_assoc]
  constructor
  · intro h
    obtain ⟨⟨l₁, t₁⟩, h₁, h⟩ := bind_ok.mp h
    obtain ⟨⟨l₂, t₂⟩, h₂, h⟩ := bind_ok.mp h
    cases h
    obtain ⟨hgaps, rfl⟩ := enterBlocks_ok_iff.mp ⟨t₁, h₁⟩
    obtain ⟨hnrGaps, rfl⟩ := enterBlocks_ok_iff.mp ⟨t₂, h₂⟩
    exact ⟨hgaps, hnrGaps, rfl⟩
  · rintro ⟨hgaps, hnrGaps, rfl⟩
    obtain ⟨t₁, h₁⟩ := enterBlocks_ok_iff.mpr ⟨hgaps, rfl⟩
    obtain ⟨t₂, h₂⟩ := enterBlocks_ok_iff.mpr ⟨hnrGaps, rfl⟩
    exact bind_ok.mpr ⟨_, h₁, bind_ok.mpr ⟨_, h₂, rfl⟩⟩

end SCTPSackChunk

namespace Sender

section

variable (b : Books) (chunk : SCTPDataVariables)

/-- The chunk is still booked where it was. -/
def StaysBooked (chunk : SCTPDataVariables) (r : Books × SCTPDataVariables) : Prop :=
  (r.2.queuedOnPath, r.2.tsn) = (chunk.queuedOnPath, chunk.tsn)

theorem decreaseOutstandingBytes_staysBooked : Ensures (decreaseOutstandingBytes b chunk) (StaysBooked chunk) := by
  refine .ite (fun _ => ?_) fun _ => .ok rfl
  refine .bind_any fun _ => .bind_any fun _ => .bind_any fun _ => ?_
  exact .ok rfl

theorem dropFromTransmissionQ_staysBooked : Ensures (dropFromTransmissionQ b chunk) (StaysBooked chunk) :=
  .ite (fun _ => .bind_any fun _ => .ok rfl) fun _ => .ok rfl

theorem renegablyAckChunk_staysBooked (sackPath : PathId) : Ensures (renegablyAckChunk b chunk sackPath) (StaysBooked chunk) := by
  refine (decreaseOutstandingBytes_staysBooked b chunk).bind fun r hr => ?_
  exact (dropFromTransmissionQ_staysBooked _ _).mono fun r' hr' => hr'.trans hr

theorem renege_staysBooked (s : SCTPAssociation) (sackPath : PathId) : Ensures (s.renege sackPath b chunk) (StaysBooked chunk) := by
  refine .ite (fun _ => .ok rfl) fun _ => ?_
  exact (decreaseOutstandingBytes_staysBooked b _).bind fun r hr => .ok hr

theorem chunkMustBeAbandoned_staysBooked (simTime : Nat) : Ensures (chunkMustBeAbandoned simTime b chunk) (StaysBooked chunk) := by
  unfold chunkMustBeAbandoned
  cases chunk.prMethod with
  | PR_TTL => exact .ite (fun _ => .ok rfl) fun _ => .ok rfl
  | PR_RTX => exact .ite (fun _ => (decreaseOutstandingBytes_staysBooked b _).bind fun r hr => .ok hr) fun _ => .ok rfl
  | _ => exact .ok rfl

theorem reportMissing_staysBooked (s : SCTPAssociation) (chunkReportedAsMissing : Nat) (late : Bool) (simTime : Nat) :
    Ensures (s.reportMissing chunkReportedAsMissing late simTime b chunk) (StaysBooked chunk) := by
  refine .ite (fun _ => .ok rfl) fun _ => .ite (fun _ => .ite (fun _ => .ok rfl) fun _ => ?_) fun _ => .ok rfl
  refine (chunkMustBeAbandoned_staysBooked _ _ _).bind fun r hr => .bind_any fun _ => ?_
  refine (decreaseOutstandingBytes_staysBooked _ _).bind fun r' hr' => .bind_any fun _ => ?_
  exact .ok (hr'.trans hr)

end

namespace SCTPAssociation

/-- What the gap list acknowledges for good is booked. -/
def GapsBooked (s : SCTPAssociation) (sackGapList : SCTPGapList) : Prop :=
  ∀ chunk ∈ s.retransmissionQ, sackGapList.tsnIsNonRevokable chunk.tsn → Booked chunk

/-- The books are in order as well. -/
structure Ready (s : SCTPAssociation) (sackGapList : SCTPGapList) : Prop where
  kept : s.Kept
  booked : s.GapsBooked sackGapList

variable {s : SCTPAssociation} {sackGapList : SCTPGapList}

theorem onChunk_booked {f : Books → SCTPDataVariables → Sim (Books × SCTPDataVariables)} {tsn : Tsn}
    (h : s.GapsBooked sackGapList) (hf : ∀ b chunk, Ensures (f b chunk) (StaysBooked chunk)) :
    Ensures (s.onChunk f tsn) (GapsBooked · sackGapList) := by
  unfold onChunk
  cases hchunk : s.getChunk tsn with
  | none => exact .error
  | some chunk =>
    refine (hf s.books chunk).bind fun r hr => .ok fun c' hc' => ?_
    obtain ⟨c, hc, rfl⟩ := mem_map.mp hc'
    obtain ⟨hqueued, htsn⟩ := Prod.mk.inj hr
    split
    · rw [Booked, hqueued, htsn]
      exact h chunk (mem_of_find?_eq_some hchunk)
    · exact h c hc

theorem dequeueAckedChunks_rest (tsna : Tsn) (sackPath : PathId) (b : Books) (q : List SCTPDataVariables) :
    Ensures (dequeueAckedChunks tsna sackPath b q) fun r => r.2 = q.dropWhile fun chunk => decide (tsnGe tsna chunk.tsn) := by
  induction q generalizing b with
  | nil => exact .ok rfl
  | cons chunk q ih =>
    refine .ite (fun hge => .bind_any fun b' => ?_) fun hge => .ok ?_
    · rw [dropWhile_cons_of_pos (p := fun chunk : SCTPDataVariables => decide (tsnGe tsna chunk.tsn)) (decide_eq_true hge)]
      exact ih b'
    · rw [dropWhile_cons_of_neg (by rwa [decide_eq_true_iff])]

theorem cumAcked_rest (tsna : Tsn) (sackPath : PathId) : Ensures (s.cumAcked tsna sackPath) fun s' =>
    s'.retransmissionQ = s.retransmissionQ.dropWhile fun chunk => decide (tsnGe tsna chunk.tsn) :=
  (dequeueAckedChunks_rest tsna sackPath s.books s.retransmissionQ).bind fun _ hr => .ok hr

/-- What is acknowledged for good is taken off the books of its path. -/
theorem booked_of_dequeued (tsna : Tsn) (sackPath : PathId) (b : Books) (q : List SCTPDataVariables) :
    Ensures (dequeueAckedChunks tsna sackPath b q) fun _ =>
      ∀ chunk ∈ q.takeWhile fun chunk => decide (tsnGe tsna chunk.tsn), Booked chunk := by
  induction q generalizing b with
  | nil => exact .ok fun chunk hchunk => absurd hchunk not_mem_nil
  | cons chunk q ih =>
    rw [takeWhile_cons]
    refine .ite (fun hge => ?_) fun hge => .ok ?_
    · intro r hr
      obtain ⟨b', hpaid, hrest⟩ := bind_ok.mp hr
      obtain ⟨path, hpath, -⟩ := bind_ok.mp (ensure_bind_ok.mp hpaid).2
      rw [if_pos (decide_eq_true hge), forall_mem_cons]
      refine ⟨?_, ih b' r hrest⟩
      intro hnone
      rw [hnone] at hpath
      cases hpath
    · rw [if_neg (by rwa [decide_eq_true_iff])]
      exact fun c hc => absurd hc not_mem_nil

section

variable (h : s.Ready sackGapList)
include h

theorem Ready.handleChunkReportedAsAcked (tsn : Tsn) (sackPath : PathId) :
    Succeeds (s.handleChunkReportedAsAcked tsn sackPath (decide (sackGapList.tsnIsNonRevokable tsn))) (Ready · sackGapList) := by
  have hbooked : Ensures (s.handleChunkReportedAsAcked tsn sackPath (decide (sackGapList.tsnIsNonRevokable tsn)))
      (GapsBooked · sackGapList) := by
    unfold SCTPAssociation.handleChunkReportedAsAcked
    cases s.getChunk tsn with
    | none => exact .ok h.booked
    | some chunk =>
      refine .ite (fun _ => .ok h.booked) fun _ => .ite (fun _ => ?_) fun _ => ?_
      · exact .bind_any fun b => .ok fun c hc => h.booked c (mem_of_mem_filter hc)
      · exact onChunk_booked h.booked fun b chunk => renegablyAckChunk_staysBooked b chunk sackPath
  have hallowed : s.Allowed (.handleChunkReportedAsAcked tsn sackPath (decide (sackGapList.tsnIsNonRevokable tsn))) := by
    intro hgood chunk hchunk _
    refine h.booked chunk (mem_of_find?_eq_some hchunk) ?_
    rw [(getChunk_some hchunk).1]
    exact of_decide_eq_true hgood
  obtain ⟨s', hs', hkept⟩ := h.kept.handleChunkReportedAsAcked hallowed
  exact ⟨s', hs', hkept, hbooked s' hs'⟩

theorem Ready.tsnWasReneged (tsn : Tsn) (sackPath : PathId) : Succeeds (s.tsnWasReneged tsn sackPath) (Ready · sackGapList) := by
  have hbooked : Ensures (s.tsnWasReneged tsn sackPath) (GapsBooked · sackGapList) := by
    unfold SCTPAssociation.tsnWasReneged
    cases s.getChunk tsn with
    | none => exact .ok h.booked
    | some chunk =>
      exact .ite (fun _ => onChunk_booked h.booked fun b chunk => renege_staysBooked b chunk s sackPath) fun _ => .ok h.booked
  obtain ⟨s', hs', hkept⟩ := h.kept.tsnWasReneged tsn sackPath
  exact ⟨s', hs', hkept, hbooked s' hs'⟩

theorem Ready.handleChunkReportedAsMissing (tsn : Tsn) (sackPath : PathId) (chunkReportedAsMissing : Nat)
    (late : Bool) (simTime : Nat) :
    Succeeds (s.handleChunkReportedAsMissing tsn sackPath chunkReportedAsMissing late simTime) (Ready · sackGapList) := by
  have hbooked : Ensures (s.handleChunkReportedAsMissing tsn sackPath chunkReportedAsMissing late simTime)
      (GapsBooked · sackGapList) := by
    unfold SCTPAssociation.handleChunkReportedAsMissing
    cases s.getChunk tsn with
    | none => exact .ok h.booked
    | some chunk =>
      refine .ite (fun _ => ?_) fun _ => ?_
      · exact onChunk_booked h.booked fun b chunk => renege_staysBooked b chunk s sackPath
      · exact onChunk_booked h.booked fun b chunk => reportMissing_staysBooked b chunk s chunkReportedAsMissing late simTime
  obtain ⟨s', hs', hkept⟩ := h.kept.handleChunkReportedAsMissing tsn sackPath chunkReportedAsMissing late simTime
  exact ⟨s', hs', hkept, hbooked s' hs'⟩

theorem Ready.assertLastPath (tsn : Tsn) : assertLastPath s tsn = .ok () := by
  unfold Sender.assertLastPath
  cases hchunk : s.getChunk tsn with
  | none => rfl
  | some chunk =>
    obtain ⟨path, -, hpath⟩ := (h.kept.sound chunk (mem_of_find?_eq_some hchunk)).sentTo
    exact ensure_pos (by rw [hpath]; exact Option.some_ne_none path) _

end

end SCTPAssociation

variable {tsnCheck : Tsn}

section

variable {s : SCTPAssociation} {sackGapList : SCTPGapList} {f : SCTPAssociation × Tsn → Tsn → Sim (SCTPAssociation × Tsn)} {bound i : Tsn}
  {r t : SCTPAssociation × Tsn}

/-- The body of a loop that counts in `tsnCheck`, too. -/
structure Checks (sackGapList : SCTPGapList) (f : SCTPAssociation × Tsn → Tsn → Sim (SCTPAssociation × Tsn)) : Prop where
  succeeds : ∀ s pos, s.Ready sackGapList → Succeeds (f (s, pos) pos) fun r => r.1.Ready sackGapList ∧ r.2 = pos + 1
  check : ∀ r pos t, f r pos = .ok t → r.2 = pos

theorem reportNotListed_checks : Checks sackGapList reportNotListed := by
  constructor
  · intro s pos hs
    rw [reportNotListed, ensure_pos rfl, hs.assertLastPath]
    exact .ok ⟨hs, rfl⟩
  · intro r pos t h
    exact (ensure_bind_ok.mp h).1

theorem reportListed_checks (rules : SackRules) (sackGapList : SCTPGapList) : Checks sackGapList (reportListed rules sackGapList) := by
  constructor
  · intro s pos hs
    rw [reportListed, ensure_pos rfl, hs.assertLastPath]
    exact (hs.handleChunkReportedAsAcked pos rules.sackPath).bind fun s' hs' => .ok ⟨hs', rfl⟩
  · intro r pos t h
    exact (ensure_bind_ok.mp h).1

theorem Checks.iterate (hf : Checks sackGapList f) (n : Nat) (i : Tsn) (hs : s.Ready sackGapList) :
    Succeeds ((iterate (· + 1) i n).foldlM f (s, i)) fun r => r.1.Ready sackGapList ∧ r.2 = i + BitVec.ofNat 32 n := by
  induction n generalizing s i with
  | zero => exact .ok ⟨hs, by simp⟩
  | succ n ih =>
    rw [iterate, foldlM_cons]
    refine (hf.succeeds s i hs).bind fun r hr => ?_
    obtain ⟨s', i'⟩ := r
    obtain ⟨hs', rfl⟩ := hr
    refine (ih (i + 1) hs').mono fun r hr => ⟨hr.1, ?_⟩
    rw [hr.2, Nat.add_comm n 1, BitVec.ofNat_add, BitVec.add_assoc]
    rfl

/-- Where a loop up to the bound leaves `tsnCheck`. -/
def countedTo (i bound tsnCheck : Tsn) : Tsn := if i ≤ bound then bound + 1 else tsnCheck

/-- The loop ends with `tsnCheck` behind the bound. -/
theorem Checks.run (hf : Checks sackGapList f) (hs : s.Ready sackGapList) (hbound : bound ≠ BitVec.allOnes 32)
    (hcheck : i ≤ bound → tsnCheck = i) :
    Succeeds (upTo .diverges bound f i (s, tsnCheck)) fun r => r.1.Ready sackGapList ∧ r.2 = countedTo i bound tsnCheck := by
  rw [upTo_eq _ hbound, countedTo]
  by_cases hle : i ≤ bound
  · rw [hcheck hle, if_pos hle]
    refine (hf.iterate _ i hs).mono fun r hr => ⟨hr.1, hr.2.trans ?_⟩
    apply BitVec.eq_of_toNat_eq
    rw [BitVec.le_def] at hle
    rw [BitVec.toNat_add, BitVec.toNat_ofNat, BitVec.toNat_add]
    simp only [BitVec.toNat_ofNat, BitVec.ofNat_eq_ofNat]
    omega
  · rw [if_neg hle, rangeUp_of_lt (BitVec.not_le.mp hle)]
    exact .ok ⟨hs, rfl⟩

theorem Checks.run_ok (hf : Checks sackGapList f) (hs : s.Ready sackGapList) (h : upTo .diverges bound f i (s, tsnCheck) = .ok t) :
    (bound ≠ BitVec.allOnes 32 ∧ (i ≤ bound → tsnCheck = i)) ∧ t.1.Ready sackGapList ∧ t.2 = countedTo i bound tsnCheck := by
  have hbound : bound ≠ BitVec.allOnes 32 := by
    rintro rfl
    exact upTo_allOnes _ h
  have hcheck (hle : i ≤ bound) : tsnCheck = i := by
    obtain ⟨l, hl⟩ := rangeUp_of_le hle
    rw [upTo_eq _ hbound, hl, foldlM_cons] at h
    obtain ⟨r', hr', -⟩ := bind_ok.mp h
    exact hf.check (s, tsnCheck) i r' hr'
  obtain ⟨t', ht', hready⟩ := hf.run hs hbound hcheck
  cases Except.ok.inj (h.symm.trans ht')
  exact ⟨⟨hbound, hcheck⟩, hready⟩

end

/-- The gap reports are where the loops come to, from behind the TSN `lo1` on: the loops up to a report and over it end,
and begin with `tsnCheck`, as far as they have TSNs. -/
def ReportsFit : (lo1 tsnCheck : Tsn) → List Gap → Prop
  | _, _, [] => True
  | lo1, tsnCheck, block :: blocks =>
    (block.start ≠ 0 ∧ (lo1 + 1 ≤ block.start - 1 → tsnCheck = lo1 + 1)) ∧
      (block.stop ≠ BitVec.allOnes 32 ∧
        (block.start ≤ block.stop → countedTo (lo1 + 1) (block.start - 1) tsnCheck = block.start)) ∧
      ReportsFit block.stop (countedTo block.start block.stop (countedTo (lo1 + 1) (block.start - 1) tsnCheck)) blocks

/-- Each report lies, as numbers go, behind the one before with a TSN between them, and none stops at the last TSN. -/
def Ascending : (lo1 : Tsn) → List Gap → Prop
  | _, [] => True
  | lo1, block :: blocks =>
    lo1 + 1 < block.start ∧ block.start ≤ block.stop ∧ block.stop ≠ BitVec.allOnes 32 ∧ Ascending block.stop blocks

theorem Ascending.reportsFit {lo1 : Tsn} {gaps : List Gap} (h : Ascending lo1 gaps) : ReportsFit lo1 (lo1 + 1) gaps := by
  induction gaps generalizing lo1 with
  | nil => trivial
  | cons g gaps ih =>
    obtain ⟨hstart, hle, hstop, hrest⟩ := h
    have hne : g.start ≠ 0 := by bv_omega
    have hbefore : lo1 + 1 ≤ g.start - 1 := by bv_omega
    rw [ReportsFit, countedTo, countedTo, if_pos hbefore, if_pos hle, BitVec.sub_add_cancel]
    exact ⟨⟨hne, fun _ => rfl⟩, ⟨hstop, fun _ => rfl⟩, ih hrest⟩

theorem ReportsFit.ends {lo1 tsnCheck : Tsn} {gaps : List Gap} (h : ReportsFit lo1 tsnCheck gaps) :
    ∀ g ∈ gaps, g.start ≠ 0 ∧ g.stop ≠ BitVec.allOnes 32 := by
  induction gaps generalizing lo1 tsnCheck with
  | nil => simp
  | cons g gaps ih => exact forall_mem_cons.mpr ⟨⟨h.1.1, h.2.1.1⟩, ih h.2.2⟩

section

variable {rules : SackRules} {sackGapList : SCTPGapList} {s : SCTPAssociation} {lo1 : Tsn} {g : Gap} {gaps : List Gap}

/-- The bound of the loop before a block is the greatest TSN only if the block starts at 0. -/
theorem sub_one_ne_allOnes : g.start - 1 ≠ BitVec.allOnes 32 ↔ g.start ≠ 0 := by
  have hones : BitVec.allOnes 32 = 0 - 1 := rfl
  constructor
  · bv_omega
  · bv_omega

theorem reports_succeed (hs : s.Ready sackGapList) (h : ReportsFit lo1 tsnCheck gaps) :
    Succeeds (gaps.foldlM (reportBlock rules sackGapList) ((s, tsnCheck), lo1)) fun t => t.1.1.Ready sackGapList := by
  induction gaps generalizing s lo1 tsnCheck with
  | nil => exact .ok hs
  | cons g gaps ih =>
    obtain ⟨⟨hstart, hcheck⟩, ⟨hstop, hlisted⟩, hrest⟩ := h
    rw [foldlM_cons, reportBlock, bind_assoc]
    refine (reportNotListed_checks.run hs (sub_one_ne_allOnes.mpr hstart) hcheck).bind fun r hr => ?_
    obtain ⟨s₁, check⟩ := r
    obtain ⟨hs₁, rfl⟩ := hr
    rw [bind_assoc]
    refine ((reportListed_checks rules sackGapList).run hs₁ hstop hlisted).bind fun r hr => ?_
    obtain ⟨s₂, check⟩ := r
    obtain ⟨hs₂, rfl⟩ := hr
    exact ih hs₂ hrest

theorem reportsFit_of_ok {t : (SCTPAssociation × Tsn) × Tsn} (hs : s.Ready sackGapList)
    (h : gaps.foldlM (reportBlock rules sackGapList) ((s, tsnCheck), lo1) = .ok t) : ReportsFit lo1 tsnCheck gaps := by
  induction gaps generalizing s lo1 tsnCheck with
  | nil => trivial
  | cons g gaps ih =>
    obtain ⟨t₁, hblock, hrest⟩ := bind_ok.mp h
    obtain ⟨⟨s₁, check⟩, hnotListed, hblock⟩ := bind_ok.mp hblock
    obtain ⟨⟨s₂, check₂⟩, hlisted, hend⟩ := bind_ok.mp hblock
    cases hend
    obtain ⟨⟨hbound, hcheck⟩, hs₁, rfl⟩ := reportNotListed_checks.run_ok hs hnotListed
    obtain ⟨hlistedOk, hs₂, rfl⟩ := (reportListed_checks rules sackGapList).run_ok hs₁ hlisted
    exact ⟨⟨sub_one_ne_allOnes.mp hbound, hcheck⟩, hlistedOk, ih hs₂ hrest⟩

/-- The chunks between the gap reports. -/
theorem missing_succeeds {lo : Tsn} (hs : s.Ready sackGapList) (hstarts : ∀ g ∈ gaps, g.start ≠ 0) :
    Succeeds (gaps.foldlM (reportMissing rules) (s, lo)) fun t => t.1.Ready sackGapList := by
  induction gaps generalizing s lo with
  | nil => exact .ok hs
  | cons g gaps ih =>
    obtain ⟨hg, hrest⟩ := forall_mem_cons.mp hstarts
    rw [foldlM_cons, reportMissing, upTo_eq _ (sub_one_ne_allOnes.mpr hg), bind_assoc]
    refine Succeeds.bind (p := (SCTPAssociation.Ready · sackGapList)) ?_ fun s' hs' => ih hs' hrest
    exact .foldlM (I := fun _ => (SCTPAssociation.Ready · sackGapList)) (fun s pos _ hs => hs.handleChunkReportedAsMissing pos _ _ _ _) hs

end

namespace SackReceiver

variable {rules : SackRules} {s : SackReceiver} {sackGapList : SCTPGapList} {tsna : Tsn}

theorem renegeAbove_succeeds (hs : s.Ready sackGapList) (htsna : tsna ≠ BitVec.allOnes 32) :
    Succeeds (s.renegeAbove rules tsna) fun s' => s'.Ready sackGapList := by
  have hbound : tsna + 1 ≠ 0 := by
    have hones : BitVec.allOnes 32 = 0 - 1 := rfl
    bv_omega
  rw [renegeAbove, downTo_eq _ hbound]
  refine Succeeds.bind (p := (SCTPAssociation.Ready · sackGapList)) ?_ fun s' hs' => .ok hs'
  exact .foldlM (I := fun _ => (SCTPAssociation.Ready · sackGapList)) (fun s i _ hs => hs.tsnWasReneged i _) hs

/-- The loop `while (i >= tsna + 1)` never ends if `tsna` is the last TSN. -/
theorem ne_allOnes_of_renegeAbove_ok {s' : SackReceiver} (h : s.renegeAbove rules tsna = .ok s') : tsna ≠ BitVec.allOnes 32 := by
  rintro rfl
  obtain ⟨t, ht, -⟩ := bind_ok.mp h
  exact downTo_zero _ ht

theorem processGapReports_ok_iff {last : Gap} (hs : s.Ready sackGapList)
    (hlast : last ∈ sackGapList.CombinedGapList.gaps) :
    (∃ s', s.processGapReports rules tsna sackGapList last = .ok s') ↔
      ReportsFit tsna (tsna + 1) sackGapList.CombinedGapList.gaps := by
  have hreneged (hstop : tsnLt last.stop s.highestTsnAcked → last.stop ≠ BitVec.allOnes 32) :
      Succeeds (s.renegeBehind rules last) fun s' => s'.Ready sackGapList :=
    .ite (fun hlt => renegeAbove_succeeds hs (hstop hlt)) fun _ => .ok hs
  constructor
  · rintro ⟨s', h⟩
    obtain ⟨s₁, hrenege, h⟩ := bind_ok.mp h
    obtain ⟨t, hreports, -⟩ := bind_ok.mp h
    obtain ⟨s₂, hs₂, hready⟩ := hreneged fun hlt => by
      rw [renegeBehind, if_pos hlt] at hrenege
      exact ne_allOnes_of_renegeAbove_ok hrenege
    cases Except.ok.inj (hrenege.symm.trans hs₂)
    exact reportsFit_of_ok hready hreports
  · intro hfit
    have hsucceeds : Succeeds (s.processGapReports rules tsna sackGapList last) fun _ => True := by
      refine (hreneged fun _ => (hfit.ends last hlast).2).bind fun s₁ hs₁ => ?_
      refine (reports_succeed hs₁ hfit).bind fun t ht => ?_
      exact (missing_succeeds ht fun g hg => (hfit.ends g hg).1).bind fun t' _ => .ok trivial
    exact hsucceeds.imp fun s' h => h.1

/-- The gap reports are got over. -/
def GapsPass (s : SackReceiver) (tsna : Tsn) (unacked : List SCTPDataVariables) (gaps : List Gap) : Prop :=
  if gaps = [] then ¬ (tsna = BitVec.allOnes 32 ∧ tsnLt tsna s.highestTsnAcked)
  else unacked = [] ∨ ReportsFit tsna (tsna + 1) gaps

theorem processGaps_ok_iff (hs : s.Ready sackGapList) :
    (∃ s', s.processGaps rules tsna sackGapList = .ok s') ↔
      s.GapsPass tsna s.retransmissionQ sackGapList.CombinedGapList.gaps := by
  unfold processGaps GapsPass
  cases hlast : sackGapList.CombinedGapList.gaps.getLast? with
  | none =>
    rw [if_pos (getLast?_eq_none_iff.mp hlast)]
    by_cases hlt : tsnLt tsna s.highestTsnAcked
    · simp only [hlt, if_true, and_true]
      constructor
      · rintro ⟨s', h⟩
        exact ne_allOnes_of_renegeAbove_ok h
      · intro hne
        exact (renegeAbove_succeeds hs hne).imp fun s' h => h.1
    · simp [hlt]
  | some last =>
    have hmem := mem_of_getLast? hlast
    rw [if_neg (ne_nil_of_mem hmem)]
    by_cases hnil : s.retransmissionQ = []
    · simp [hnil]
    · simp only [if_neg hnil, or_iff_right hnil]
      exact processGapReports_ok_iff hs hmem

/-- The chunks that the cumulative acknowledgement leaves. -/
def unacked (s : SackReceiver) (tsna : Tsn) : List SCTPDataVariables :=
  if tsnGt tsna s.lastTsnAck then s.retransmissionQ.dropWhile fun chunk => decide (tsnGe tsna chunk.tsn) else s.retransmissionQ

/-- No chunk that is acknowledged cumulatively lies in a stored packet. -/
def CumBooked (s : SackReceiver) (tsna : Tsn) : Prop := tsnGt tsna s.lastTsnAck →
  ∀ chunk ∈ s.retransmissionQ.takeWhile fun chunk => decide (tsnGe tsna chunk.tsn), SCTPAssociation.Booked chunk

theorem processCumAck_succeeds (hs : s.Kept) (hcum : s.CumBooked tsna) (rules : SackRules) :
    Succeeds (s.processCumAck rules tsna) fun s' => s'.Kept ∧ s'.retransmissionQ = s.unacked tsna ∧
      s'.highestTsnAcked = s.highestTsnAcked := by
  unfold processCumAck unacked
  by_cases hgt : tsnGt tsna s.lastTsnAck
  · simp only [if_pos hgt]
    obtain ⟨s', hs', hkept⟩ : Succeeds (s.cumAcked tsna rules.sackPath) SCTPAssociation.Kept := hs.cumAcked (hcum hgt)
    rw [hs']
    exact .ok ⟨hkept, SCTPAssociation.cumAcked_rest tsna rules.sackPath s' hs', rfl⟩
  · simp only [if_neg hgt]
    exact .ok ⟨hs, rfl, rfl⟩

theorem cumBooked_of_ok {s' : SackReceiver} (h : s.processCumAck rules tsna = .ok s') : s.CumBooked tsna := by
  intro hgt
  rw [processCumAck, if_pos hgt] at h
  obtain ⟨t, hacked, -⟩ := bind_ok.mp h
  obtain ⟨r, hdequeued, -⟩ := bind_ok.mp hacked
  exact SCTPAssociation.booked_of_dequeued tsna rules.sackPath s.books s.retransmissionQ r hdequeued

/-- The SACK is out of date. -/
def Ignores (s : SackReceiver) (sackChunk : SCTPSackChunk) : Prop :=
  (s.checkSackSeqNumber ∧ sackChunk.sackSeqNum ≤ s.incomingSackSeqNum) ∨ tsnLt sackChunk.cumTsnAck s.lastTsnAck

/-- What the SACK acknowledges for good is booked, as far as its NR gap blocks go. -/
def NrBooked (s : SackReceiver) (sackChunk : SCTPSackChunk) : Prop :=
  ∀ chunk ∈ s.unacked sackChunk.cumTsnAck, sackChunk.entered.tsnIsNonRevokable chunk.tsn → SCTPAssociation.Booked chunk

/-- The SACK is processed to the end. -/
def Passes (s : SackReceiver) (sackChunk : SCTPSackChunk) : Prop := sackChunk.InOrder ∧ (s.Ignores sackChunk ∨
  s.CumBooked sackChunk.cumTsnAck ∧
    s.GapsPass sackChunk.cumTsnAck (s.unacked sackChunk.cumTsnAck) sackChunk.entered.CombinedGapList.gaps)

theorem processSackArrived_ok_iff (hs : s.Kept) {sackChunk : SCTPSackChunk} (hnr : s.NrBooked sackChunk) :
    (∃ s', s.processSackArrived rules sackChunk = .ok s') ↔ s.Passes sackChunk := by
  rw [Passes]
  by_cases horder : sackChunk.InOrder
  · have hlist := sackChunk.sackGapList_ok_iff.mpr ⟨horder, rfl⟩
    rw [processSackArrived, hlist, and_iff_right horder]
    show (∃ s', (if s.checkSackSeqNumber ∧ sackChunk.sackSeqNum ≤ s.incomingSackSeqNum then _ else _) = Except.ok s') ↔ _
    by_cases hold : s.checkSackSeqNumber ∧ sackChunk.sackSeqNum ≤ s.incomingSackSeqNum
    · rw [if_pos hold]
      exact iff_of_true ⟨s, rfl⟩ (.inl (.inl hold))
    rw [if_neg hold]
    by_cases hstale : tsnLt sackChunk.cumTsnAck s.lastTsnAck
    · rw [if_pos hstale]
      exact iff_of_true ⟨_, rfl⟩ (.inl (.inr hstale))
    rw [if_neg hstale, or_iff_right fun h : s.Ignores sackChunk => h.elim hold hstale]
    by_cases hcum : s.CumBooked sackChunk.cumTsnAck
    swap
    · refine iff_of_false ?_ fun h => hcum h.1
      rintro ⟨s', h⟩
      obtain ⟨s₁, hcumAck, -⟩ := bind_ok.mp h
      exact hcum (cumBooked_of_ok (s := { s with incomingSackSeqNum := sackChunk.sackSeqNum }) hcumAck)
    rw [and_iff_right hcum]
    obtain ⟨s₁, hcumAck, hs₁, hunacked, hhighest⟩ := processCumAck_succeeds (s := { s with
      incomingSackSeqNum := sackChunk.sackSeqNum }) hs hcum rules
    have hgaps : (∃ s₂, s₁.processGaps rules sackChunk.cumTsnAck sackChunk.entered = .ok s₂) ↔ _ :=
      processGaps_ok_iff ⟨hs₁, fun chunk hchunk => hnr chunk (hunacked ▸ hchunk)⟩
    have hsame : s₁.GapsPass sackChunk.cumTsnAck s₁.retransmissionQ sackChunk.entered.CombinedGapList.gaps ↔
        s.GapsPass sackChunk.cumTsnAck (s.unacked sackChunk.cumTsnAck) sackChunk.entered.CombinedGapList.gaps := by
      rw [GapsPass, hhighest, hunacked]
      rfl
    rw [← hsame, ← hgaps]
    rw [hcumAck]
    show (∃ s', (s₁.processGaps rules sackChunk.cumTsnAck sackChunk.entered >>= _) = Except.ok s') ↔ _
    constructor
    · rintro ⟨s', h⟩
      obtain ⟨s₂, hs₂, -⟩ := bind_ok.mp h
      exact ⟨s₂, hs₂⟩
    · rintro ⟨s₂, hs₂⟩
      exact ⟨_, bind_ok.mpr ⟨s₂, hs₂, rfl⟩⟩
  · refine iff_of_false ?_ fun h => horder h.1
    rintro ⟨s', h⟩
    obtain ⟨l, hl, -⟩ := bind_ok.mp h
    exact horder (sackChunk.sackGapList_ok_iff.mp hl).1

end SackReceiver

end Sender

namespace ForwardTsnReceiver

/-- All streams of the chunk are there. -/
def Knows (receiveStreams : Nat → Option SCTPReceiveStream) (streams : List (Nat × Int)) : Prop :=
  ∀ stream ∈ streams, stream.2 ≠ -1 → (receiveStreams stream.1).isSome

variable {receiveStreams : Nat → Option SCTPReceiveStream}

theorem skipStream_ok_iff {stream : Nat × Int} :
    (∃ receiveStreams', skipStream receiveStreams stream = .ok receiveStreams') ↔
      (stream.2 ≠ -1 → (receiveStreams stream.1).isSome) := by
  unfold skipStream
  by_cases hunordered : stream.2 = -1
  · rw [if_pos hunordered]
    exact iff_of_true ⟨_, rfl⟩ fun hne => absurd hunordered hne
  · rw [if_neg hunordered]
    cases receiveStreams stream.1 with
    | none => exact iff_of_false nofun fun h => absurd (h hunordered) Bool.false_ne_true
    | some rStream => exact iff_of_true ⟨_, rfl⟩ fun _ => rfl

/-- No stream is lost. -/
theorem skipStream_keeps {receiveStreams' : Nat → Option SCTPReceiveStream} {stream : Nat × Int}
    (h : skipStream receiveStreams stream = .ok receiveStreams') (sid : Nat) :
    (receiveStreams' sid).isSome = (receiveStreams sid).isSome := by
  unfold skipStream at h
  by_cases hunordered : stream.2 = -1
  · rw [if_pos hunordered] at h
    cases h
    rfl
  · rw [if_neg hunordered] at h
    cases hstream : receiveStreams stream.1 with
    | none =>
      rw [hstream] at h
      cases h
    | some rStream =>
      rw [hstream] at h
      cases h
      by_cases hsid : sid = stream.1
      · rw [hsid, Function.update_self, hstream]
        rfl
      · rw [Function.update_of_ne hsid]

theorem skipStreams_ok_iff {streams : List (Nat × Int)} :
    (∃ receiveStreams', streams.foldlM skipStream receiveStreams = .ok receiveStreams') ↔ Knows receiveStreams streams := by
  induction streams generalizing receiveStreams with
  | nil => exact iff_of_true ⟨_, rfl⟩ (by simp [Knows])
  | cons stream streams ih =>
    have hknows {receiveStreams₁ : Nat → Option SCTPReceiveStream} (h : skipStream receiveStreams stream = .ok receiveStreams₁) :
        Knows receiveStreams₁ streams ↔ Knows receiveStreams streams := by
      simp only [Knows, skipStream_keeps h]
    rw [Knows, forall_mem_cons, ← skipStream_ok_iff, foldlM_cons]
    constructor
    · rintro ⟨receiveStreams', h⟩
      obtain ⟨receiveStreams₁, h₁, hrest⟩ := bind_ok.mp h
      exact ⟨⟨_, h₁⟩, (hknows h₁).mp (ih.mp ⟨_, hrest⟩)⟩
    · rintro ⟨⟨receiveStreams₁, h₁⟩, hrest⟩
      obtain ⟨receiveStreams', hrest⟩ := ih.mpr ((hknows h₁).mpr hrest)
      exact ⟨receiveStreams', bind_ok.mpr ⟨_, h₁, hrest⟩⟩

theorem processForwardTsnArrived_ok_iff (m : ForwardTsnReceiver) (fwChunk : Sender.SCTPForwardTsnChunk) :
    (∃ m', m.processForwardTsnArrived fwChunk = .ok m') ↔ fwChunk.newCumTsn ≤ m.gapList.CumAckTSN ∨
      (Knows m.receiveStreams fwChunk.streams ∧ fwChunk.newCumTsn ≠ BitVec.allOnes 32) := by
  unfold processForwardTsnArrived
  by_cases hold : fwChunk.newCumTsn ≤ m.gapList.CumAckTSN
  · rw [if_pos hold]
    exact iff_of_true ⟨m, rfl⟩ (.inl hold)
  rw [if_neg hold, or_iff_right hold, ← skipStreams_ok_iff]
  constructor
  · rintro ⟨m', h⟩
    obtain ⟨receiveStreams, hstreams, h⟩ := bind_ok.mp h
    obtain ⟨gapList, hloop, -⟩ := bind_ok.mp h
    refine ⟨⟨_, hstreams⟩, fun hlast => ?_⟩
    rw [hlast] at hloop
    exact upTo_allOnes _ hloop
  · rintro ⟨⟨receiveStreams, hstreams⟩, hne⟩
    have hloop : upTo CRuntimeError.diverges fwChunk.newCumTsn (fun l i => .ok (abandon l i)) (m.gapList.CumAckTSN + 1) m.gapList =
        .ok ((rangeUp (m.gapList.CumAckTSN + 1) fwChunk.newCumTsn).foldl abandon m.gapList) := by
      rw [upTo_eq _ hne]
      exact foldlM_pure
    exact ⟨_, bind_ok.mpr ⟨_, hstreams, bind_ok.mpr ⟨_, hloop, rfl⟩⟩⟩

end ForwardTsnReceiver

namespace Sender

open Sender.SCTPAssociation

def onPath (sackPath : PathId) : SackRules where
  sackPath := sackPath
  chunkReportedAsMissing _ := 1
  late _ := false
  simTime := 0

end Sender

end Inet.Sctp
