import Inetmanet.Lib.Ledger
import Inetmanet.Sctp.SenderSteps

/-!
# The accounting of an SCTP sender

Every chunk of the retransmission queue owes to the counters what the source adds
for it, and the books stay balanced in every run whose steps are `Allowed`.
-/
open Ledger

namespace Inet.Sctp.Sender

open List Option

/-- What a chunk of the retransmission queue owes. -/
def SCTPDataVariables.owed (chunk : SCTPDataVariables) : Counter → Nat := chunk.owes chunk.booksize

namespace SCTPAssociation

open Inet.Sctp.Sender.SCTPDataVariables (owed)

/-- What the counters of the source are for. -/
structure Accounted (s : SCTPAssociation) : Prop where
  outstandingBytes : s.books .outstandingBytes = ((s.retransmissionQ.filter (·.countsAsOutstanding)).map (·.booksize)).sum
  paths : s.books .outstandingBytes = (s.paths.map fun path => s.books (.pathOutstandingBytes path)).sum
  pathOutstandingBytes : ∀ path, s.books (.pathOutstandingBytes path) =
    ((s.retransmissionQ.filter fun chunk => chunk.countsAsOutstanding ∧ chunk.lastDestination = some path).map (·.booksize)).sum
  acked : ∀ chunk ∈ s.retransmissionQ, chunk.hasBeenAcked → ¬ chunk.countsAsOutstanding
  roomTransQ : ∀ path, s.books (.roomTransQ path) =
    ((s.transmissionQ.filter fun chunk => chunk.nextDestination = some path).map (·.room)).sum
  bookedTransQ : ∀ path, s.books (.bookedTransQ path) =
    ((s.transmissionQ.filter fun chunk => chunk.nextDestination = some path).map (·.booksize)).sum

/-- An association that has not sent anything yet. -/
structure Fresh (s : SCTPAssociation) : Prop where
  books : s.books = fun _ => 0
  retransmissionQ : s.retransmissionQ = []
  paths : s.paths.Nodup

inductive Call where
  | transmit (datVar : Sctp.SCTPDataVariables) (prMethod : PrMethod) (expiryTime allowedNoRetransmissions : Nat) (path : PathId)
  | retransmit (path : PathId) (availableSpace availableCwnd : Int)
  | storePacket (sctpMsg : List SCTPChunk)
  | loadPacket (path : PathId)
  | cumAcked (tsna : Tsn) (sackPath : PathId)
  | handleChunkReportedAsAcked (tsn : Tsn) (sackPath : PathId) (sackIsNonRevokable : Bool)
  | tsnWasReneged (tsn : Tsn) (sackPath : PathId)
  | handleChunkReportedAsMissing (tsn : Tsn) (sackPath : PathId) (chunkReportedAsMissing : Nat) (late : Bool) (simTime : Nat)
  | process_TIMEOUT_RTX (path : PathId) (simTime : Nat)
  | chunkReschedulingControl (path : PathId) (blocking late : Bool)
  | processPacketDropArrived (tsns : List Tsn)
  | peekAbandonedChunk (path : PathId) (simTime : Nat)
  | createForwardTsnChunk (pid : PathId)
  /-- The state of the paths changes, or another one becomes the primary path. -/
  | pathChange (path : PathId → SCTPPathVariables) (primaryPath : PathId)

def step (s : SCTPAssociation) : Call → Sim SCTPAssociation
  | .transmit datVar prMethod expiryTime allowedNoRetransmissions path =>
    s.transmit datVar prMethod expiryTime allowedNoRetransmissions path
  | .retransmit path availableSpace availableCwnd => s.retransmit path availableSpace availableCwnd
  | .storePacket sctpMsg => s.storePacket sctpMsg
  | .loadPacket path => s.loadPacket path
  | .cumAcked tsna sackPath => s.cumAcked tsna sackPath
  | .handleChunkReportedAsAcked tsn sackPath sackIsNonRevokable => s.handleChunkReportedAsAcked tsn sackPath sackIsNonRevokable
  | .tsnWasReneged tsn sackPath => s.tsnWasReneged tsn sackPath
  | .handleChunkReportedAsMissing tsn sackPath missing late simTime =>
    s.handleChunkReportedAsMissing tsn sackPath missing late simTime
  | .process_TIMEOUT_RTX path simTime => s.process_TIMEOUT_RTX path simTime
  | .chunkReschedulingControl path blocking late => s.chunkReschedulingControl path blocking late
  | .processPacketDropArrived tsns => s.processPacketDropArrived tsns
  | .peekAbandonedChunk path simTime => .ok (s.peekAbandonedChunk path simTime).2
  | .createForwardTsnChunk pid => do
    let (_, s) ← s.createForwardTsnChunk pid
    .ok s
  | .pathChange path primaryPath => .ok { s with path, primaryPath }

/-- The chunk is booked on a path. -/
def Booked (chunk : SCTPDataVariables) : Prop := chunk.queuedOnPath ≠ none
deriving Decidable

/-- The chunk is as `storePacket` leaves it. -/
structure Stored (chunk : SCTPDataVariables) : Prop where
  counts : chunk.countsAsOutstanding = false
  acked : chunk.hasBeenAcked = false
  enqueued : chunk.enqueuedInTransmissionQ = false
  booked : chunk.queuedOnPath = none

/-- The packet consists of DATA chunks that are in the retransmission queue, none of them twice. -/
def Consists (s : SCTPAssociation) (sctpMsg : List SCTPChunk) (p : SCTPDataVariables → Prop) : Prop :=
  ∃ tsns : List Tsn, sctpMsg = tsns.map SCTPChunk.DATA ∧ tsns.Nodup ∧ ∀ tsn ∈ tsns, ∃ chunk, s.getChunk tsn = some chunk ∧ p chunk

/-- Where the source keeps the books. -/
def Allowed (s : SCTPAssociation) : Call → Prop
  | .transmit datVar _ _ _ path => datVar.tsn = 0 ∧ path ∈ s.paths ∧ s.getChunk s.nextTSN = none ∧
      (s.retransmissionQ.map (·.weight)).sum + datVar.booksize + ADD_PADDING (datVar.userData.length + SCTP_DATA_CHUNK_LENGTH) < 2 ^ 32
  | .retransmit path _ _ => path ∈ s.paths
  | .storePacket sctpMsg => s.Consists sctpMsg Booked
  | .loadPacket path => path ∈ s.paths ∧ ∀ sctpMsg, s.sctpMsg = some sctpMsg → s.Consists sctpMsg Stored
  | .cumAcked tsna _ => ∀ chunk ∈ s.retransmissionQ.takeWhile fun chunk => decide (tsnGe tsna chunk.tsn), Booked chunk
  | .handleChunkReportedAsAcked tsn _ sackIsNonRevokable => sackIsNonRevokable = true → ∀ chunk, s.getChunk tsn = some chunk →
      chunk.hasBeenAcked = false → Booked chunk
  | .process_TIMEOUT_RTX path simTime => ∀ chunk ∈ s.retransmissionQ, TimedOut path simTime chunk →
      Booked chunk ∧ (chunk.enqueuedInTransmissionQ = true → chunk.nextDestination = s.getNextDestination chunk)
  | .chunkReschedulingControl _ blocking _ => blocking = true → ∀ chunk ∈ s.retransmissionQ.head?, Booked chunk
  | .createForwardTsnChunk pid => ∀ chunk ∈ s.retransmissionQ, InForwardTsn pid s.advancePeerTsn.advancedPeerAckPoint chunk →
      chunk.sendForwardIfAbandoned = true → chunk.enqueuedInTransmissionQ = true → chunk.nextDestination = some pid
  | _ => True

structure Kept (s : SCTPAssociation) : Prop where
  tsns : (s.retransmissionQ.map (·.tsn)).Nodup
  balanced : Ledger.Balanced owed s.books s.retransmissionQ
  fits : (s.retransmissionQ.map (·.weight)).sum < 2 ^ 32
  sound : ∀ chunk ∈ s.retransmissionQ, chunk.Sound s.paths
  paths : s.paths.Nodup

variable {s : SCTPAssociation} {front back : List SCTPDataVariables} {chunk chunk' : SCTPDataVariables}

theorem Fresh.kept (h : s.Fresh) : s.Kept := by
  constructor
  · rw [h.retransmissionQ]
    exact nodup_nil
  · rw [h.retransmissionQ, h.books]
    exact fun i => rfl
  · rw [h.retransmissionQ]
    exact Nat.two_pow_pos 32
  · rw [h.retransmissionQ]
    exact fun chunk hmem => absurd hmem not_mem_nil
  · exact h.paths

theorem weights_middle (front back : List SCTPDataVariables) (chunk : SCTPDataVariables) :
    ((front ++ chunk :: back).map (·.weight)).sum = ((front ++ back).map (·.weight)).sum + chunk.weight := by
  rw [(perm_middle.map _).sum_eq, List.map_cons, List.sum_cons, Nat.add_comm]

/-- One chunk is seen apart from the others. -/
theorem Kept.apart (h : s.Kept) (hq : s.retransmissionQ = front ++ chunk :: back) :
    Holds (total owed (front ++ back)) s.paths chunk.booksize s.books chunk := by
  have hbalanced := h.balanced
  have hfits := h.fits
  rw [hq] at hbalanced hfits
  constructor
  · exact balanced_middle.mp hbalanced
  · intro i
    have hothers : total owed (front ++ back) i ≤ ((front ++ back).map (·.weight)).sum :=
      total_le_sum (fun c _ j => c.owes_le_weight (Nat.le_refl _) j) i
    have hall := weights_middle front back chunk
    omega
  · exact Nat.le_refl _
  · exact h.sound chunk (hq ▸ mem_append_right front List.mem_cons_self)

variable {tsn tsna : Tsn} {f : Books → SCTPDataVariables → Sim (Books × SCTPDataVariables)}
    {p : SCTPDataVariables → Prop} {path sackPath : PathId}

variable {books : Books}

theorem Kept.together (h : s.Kept) (hq : s.retransmissionQ = front ++ chunk :: back)
    (hkeeps : Keeps (total owed (front ++ back)) s.paths chunk.booksize chunk (books, chunk')) :
    Kept { s with books, retransmissionQ := front ++ chunk' :: back } := by
  obtain ⟨hheld, hsame⟩ := hkeeps
  have htsn : chunk'.tsn = chunk.tsn := hsame.tsn
  have hweight : chunk'.weight = chunk.weight := hsame.weight
  constructor
  · have htsns := h.tsns
    rw [hq] at htsns
    simpa [htsn] using htsns
  · apply balanced_middle.mpr
    intro i
    rw [owed, hsame.booksize]
    exact hheld.stands i
  · have hfits := h.fits
    rw [hq] at hfits
    simpa [hweight] using hfits
  · intro c hc
    have hsound := h.sound
    rw [hq] at hsound
    rcases mem_append.mp hc with hc | hc
    · exact hsound c (mem_append_left _ hc)
    · rcases List.mem_cons.mp hc with rfl | hc
      · exact hheld.sound
      · exact hsound c (mem_append_right _ (List.mem_cons_of_mem _ hc))
  · exact h.paths

theorem getChunk_some (h : s.getChunk tsn = some chunk) :
    chunk.tsn = tsn ∧ ∃ front back, s.retransmissionQ = front ++ chunk :: back := by
  obtain ⟨htsn, front, back, hq, -⟩ := List.find?_eq_some_iff_append.mp h
  exact ⟨of_decide_eq_true htsn, front, back, hq⟩

/-- In a queue without duplicates only one chunk changes. -/
theorem map_middle (hnodup : ((front ++ chunk :: back).map (·.tsn)).Nodup) :
    ((front ++ chunk :: back).map fun c => if c.tsn = chunk.tsn then chunk' else c) = front ++ chunk' :: back := by
  have hother (l : List SCTPDataVariables) (hl : ∀ c ∈ l, c.tsn ≠ chunk.tsn) :
      (l.map fun c => if c.tsn = chunk.tsn then chunk' else c) = l := by
    rw [map_congr_left fun c hc => if_neg (hl c hc), List.map_id']
  rw [map_append, List.map_cons, perm_middle.nodup_iff, nodup_cons] at hnodup
  rw [map_append, List.map_cons, if_pos rfl]
  rw [hother front fun c hc heq => hnodup.1 (heq ▸ mem_append_left _ (List.mem_map_of_mem hc))]
  rw [hother back fun c hc heq => hnodup.1 (heq ▸ mem_append_right _ (List.mem_map_of_mem hc))]

/-- What an operation on the chunk `tsn` leaves alone. -/
structure Frame (s s' : SCTPAssociation) (tsn : Tsn) : Prop where
  same : s' = { s with books := s'.books, retransmissionQ := s'.retransmissionQ }
  others : ∀ t, t ≠ tsn → s'.getChunk t = s.getChunk t

theorem getChunk_middle {s' : SCTPAssociation} (hq : s.retransmissionQ = front ++ chunk :: back)
    (hq' : s'.retransmissionQ = front ++ chunk' :: back) (htsn : chunk'.tsn = chunk.tsn) (hne : tsn ≠ chunk.tsn) :
    s'.getChunk tsn = s.getChunk tsn := by
  have hold : ¬ chunk.tsn = tsn := fun h => hne h.symm
  have hnew : ¬ chunk'.tsn = tsn := fun h => hold (htsn.symm.trans h)
  simp only [getChunk, hq, hq', List.find?_append, List.find?_cons, decide_eq_false hold, decide_eq_false hnew]

theorem Kept.onChunk (h : s.Kept) (hchunk : s.getChunk tsn = some chunk)
    (hf : ∀ others, Holds others s.paths chunk.booksize s.books chunk →
      Succeeds (f s.books chunk) (Keeps others s.paths chunk.booksize chunk)) :
    Succeeds (s.onChunk f tsn) fun s' => s'.Kept ∧ Frame s s' tsn := by
  obtain ⟨rfl, front, back, hq⟩ := getChunk_some hchunk
  obtain ⟨⟨books, chunk'⟩, hrun, hkeeps⟩ := hf _ (h.apart hq)
  have hnodup := h.tsns
  rw [hq] at hnodup
  have hstep : s.onChunk f chunk.tsn = .ok { s with books, retransmissionQ := front ++ chunk' :: back } := by
    rw [SCTPAssociation.onChunk, hchunk]
    simp only [hrun, hq, bind, Except.bind, map_middle hnodup]
  have htsn : chunk'.tsn = chunk.tsn := hkeeps.2.tsn
  exact ⟨_, hstep, h.together hq hkeeps, rfl, fun t ht => getChunk_middle hq rfl htsn ht⟩

/-- The loops over chunks. -/
theorem Kept.forEach (hf : ∀ others b chunk, Holds others s.paths chunk.booksize b chunk → p chunk →
      Succeeds (f b chunk) (Keeps others s.paths chunk.booksize chunk))
    {tsns : List Tsn} (hnodup : tsns.Nodup) (h : s.Kept) (hp : ∀ tsn ∈ tsns, ∃ chunk, s.getChunk tsn = some chunk ∧ p chunk) :
    Succeeds (tsns.foldlM (fun (s : SCTPAssociation) tsn => s.onChunk f tsn) s) fun s' => s'.Kept ∧
      s' = { s with books := s'.books, retransmissionQ := s'.retransmissionQ } := by
  have hloop := Succeeds.foldlM (l := tsns) (a := s)
    (I := fun l (s' : SCTPAssociation) => (s'.Kept ∧ s' = { s with books := s'.books, retransmissionQ := s'.retransmissionQ }) ∧
      l.Nodup ∧ ∀ tsn ∈ l, ∃ chunk, s'.getChunk tsn = some chunk ∧ p chunk)
    (f := fun (s : SCTPAssociation) tsn => s.onChunk f tsn)
    (fun s' tsn l hI => by
      obtain ⟨⟨hkept, hsame⟩, hnodup, hp⟩ := hI
      obtain ⟨chunk, hchunk, hpc⟩ := hp tsn List.mem_cons_self
      have hpaths : s'.paths = s.paths := by
        rw [hsame]
      refine (hkept.onChunk hchunk fun others hheld => ?_).mono fun s'' hs'' => ⟨⟨hs''.1, ?_⟩, (nodup_cons.mp hnodup).2, ?_⟩
      · rw [hpaths] at hheld ⊢
        exact hf others s'.books chunk hheld hpc
      · rw [hs''.2.same, hsame]
      · intro t ht
        obtain ⟨c, hc, hpc⟩ := hp t (List.mem_cons_of_mem _ ht)
        have hne : t ≠ tsn := fun heq => (nodup_cons.mp hnodup).1 (heq ▸ ht)
        exact ⟨c, (hs''.2.others t hne).trans hc, hpc⟩)
    ⟨⟨h, rfl⟩, hnodup, hp⟩
  exact hloop.mono fun s' hs' => hs'.1

theorem getChunk_of_mem (h : tsn ∈ s.retransmissionQ.map (·.tsn)) :
    ∃ chunk ∈ s.retransmissionQ, s.getChunk tsn = some chunk := by
  obtain ⟨c, hc, htsn⟩ := List.mem_map.mp h
  have hfound : (s.getChunk tsn).isSome := by
    rw [getChunk, List.find?_isSome]
    exact ⟨c, hc, decide_eq_true htsn⟩
  obtain ⟨chunk, hchunk⟩ := isSome_iff_exists.mp hfound
  exact ⟨chunk, List.mem_of_find?_eq_some hchunk, hchunk⟩

/-- The loops over the whole queue. -/
theorem Kept.forAll (hf : ∀ others b chunk, Holds others s.paths chunk.booksize b chunk → p chunk →
      Succeeds (f b chunk) (Keeps others s.paths chunk.booksize chunk))
    (h : s.Kept) (hp : ∀ chunk ∈ s.retransmissionQ, p chunk) :
    Succeeds ((s.retransmissionQ.map (·.tsn)).foldlM (fun (s : SCTPAssociation) tsn => s.onChunk f tsn) s) Kept := by
  have hloop := Kept.forEach hf h.tsns h fun tsn htsn => by
    obtain ⟨chunk, hmem, hchunk⟩ := getChunk_of_mem htsn
    exact ⟨chunk, hchunk, hp chunk hmem⟩
  exact hloop.mono fun s' hs' => hs'.1

theorem insertChunk_perm (chunk : SCTPDataVariables) (q : List SCTPDataVariables) : (insertChunk chunk q).Perm (chunk :: q) := by
  induction q with
  | nil => exact List.Perm.refl _
  | cons c q ih =>
    rw [insertChunk]
    split
    · exact List.Perm.refl _
    · exact (ih.cons c).trans (List.Perm.swap chunk c q)

theorem Kept.remove (h : s.Kept) (hq : s.retransmissionQ = front ++ chunk :: back)
    (hpaid : ∀ i, books i = total owed (front ++ back) i) : Kept { s with books, retransmissionQ := front ++ back } := by
  have htsns := h.tsns
  have hfits := h.fits
  have hsound := h.sound
  rw [hq] at htsns hfits hsound
  rw [map_append, List.map_cons, perm_middle.nodup_iff, nodup_cons, ← map_append] at htsns
  constructor
  · exact htsns.2
  · exact hpaid
  · exact Nat.lt_of_le_of_lt (Nat.le.intro (weights_middle front back chunk).symm) hfits
  · intro c hc
    rcases mem_append.mp hc with hc | hc
    · exact hsound c (mem_append_left _ hc)
    · exact hsound c (mem_append_right _ (List.mem_cons_of_mem _ hc))
  · exact h.paths

theorem Kept.insert (h : s.Kept) (hnew : s.getChunk chunk.tsn = none)
    (hfits : (s.retransmissionQ.map (·.weight)).sum + chunk.weight < 2 ^ 32)
    (hheld : books.Stands (total owed s.retransmissionQ) chunk.owed) (hsound : chunk.Sound s.paths) :
    Kept { s with books, retransmissionQ := insertChunk chunk s.retransmissionQ } := by
  have hperm := insertChunk_perm chunk s.retransmissionQ
  constructor
  · apply (hperm.map _).nodup_iff.mpr
    rw [List.map_cons, nodup_cons]
    constructor
    · intro hmem
      obtain ⟨c, -, hc⟩ := getChunk_of_mem hmem
      rw [hnew] at hc
      cases hc
    · exact h.tsns
  · intro i
    have hsum : total owed (insertChunk chunk s.retransmissionQ) i = total owed (chunk :: s.retransmissionQ) i :=
      (hperm.map _).sum_eq
    rw [hsum, total_cons, Nat.add_comm]
    exact hheld i
  · have hsum := (hperm.map (·.weight)).sum_eq
    rw [List.map_cons, List.sum_cons, Nat.add_comm] at hsum
    rw [← hsum] at hfits
    exact hfits
  · intro c hc
    cases List.mem_cons.mp (hperm.mem_iff.mp hc) with
    | inl heq => exact heq ▸ hsound
    | inr hmem => exact h.sound c hmem
  · exact h.paths

theorem Kept.sendFirst {datVar : SCTPDataVariables} (h : s.Kept) (hpath : path ∈ s.paths) (htsn : datVar.tsn = 0)
    (hnew : s.getChunk s.nextTSN = none) (hfits : (s.retransmissionQ.map (·.weight)).sum + datVar.weight < 2 ^ 32)
    (hcounts : datVar.countsAsOutstanding = false) (henqueued : datVar.enqueuedInTransmissionQ = false)
    (hnone : datVar.queuedOnPath = none) : Succeeds (s.sendFirst datVar path) Kept := by
  have hinitial : Holds (total owed s.retransmissionQ) s.paths 0 s.books { datVar with
      tsn := s.nextTSN, lastDestination := some path, hasBeenReneged := false, hasBeenAcked := false,
      numberOfTransmissions := datVar.numberOfTransmissions + 1, gapReports := 0, hasBeenFastRetransmitted := false } := by
    constructor
    · intro i
      rw [h.balanced i]
      cases i <;> simp [SCTPDataVariables.owes, hcounts, henqueued, hnone]
    · intro i
      have hothers : total owed s.retransmissionQ i ≤ (s.retransmissionQ.map (·.weight)).sum :=
        total_le_sum (fun c _ j => c.owes_le_weight (Nat.le_refl _) j) i
      exact Nat.lt_of_le_of_lt (Nat.add_le_add_right hothers _) hfits
    · exact Nat.zero_le _
    · exact ⟨by rintro ⟨⟩, fun _ => hcounts, ⟨path, hpath, rfl⟩,
        fun he => absurd (henqueued.symm.trans he) Bool.false_ne_true, Nat.succ_pos _⟩
  have hbooked := (hinitial.increase path hcounts rfl henqueued hpath).book path hnone
  have hpaid := hbooked.stands.add (i := .queuedSentBytes) (n := datVar.booksize) (by
    have hle := hbooked.fits .queuedSentBytes
    rw [SCTPDataVariables.weight] at hle
    exact Nat.lt_of_le_of_lt (Nat.add_le_add_left (Nat.le_add_right ..) _) hle)
  have howed : Function.update ({ datVar with
        tsn := s.nextTSN, lastDestination := some path, countsAsOutstanding := true, hasBeenReneged := false,
        hasBeenAcked := false, queuedOnPath := some path, numberOfTransmissions := datVar.numberOfTransmissions + 1,
        gapReports := 0, hasBeenFastRetransmitted := false }.owes 0) .queuedSentBytes (0 + datVar.booksize) =
      SCTPDataVariables.owed { datVar with
        tsn := s.nextTSN, lastDestination := some path, countsAsOutstanding := true, hasBeenReneged := false,
        hasBeenAcked := false, queuedOnPath := some path, numberOfTransmissions := datVar.numberOfTransmissions + 1,
        gapReports := 0, hasBeenFastRetransmitted := false } := by
    funext i
    cases i <;> simp [SCTPDataVariables.owes, SCTPDataVariables.owed, SCTPDataVariables.room]
  have hkept := @Kept.insert s { datVar with
      tsn := s.nextTSN, lastDestination := some path, countsAsOutstanding := true, hasBeenReneged := false,
      hasBeenAcked := false, queuedOnPath := some path, numberOfTransmissions := datVar.numberOfTransmissions + 1,
      gapReports := 0, hasBeenFastRetransmitted := false } _ h hnew hfits (hpaid.congr howed) hbooked.sound
  unfold SCTPAssociation.sendFirst
  rw [ensure_pos htsn]
  simp only [bind, Except.bind, hnew]
  exact ⟨_, rfl, hkept.tsns, hkept.balanced, hkept.fits, hkept.sound, hkept.paths⟩

/-- The chunk is acknowledged for good. -/
theorem Kept.pay (h : s.Kept) (hq : s.retransmissionQ = front ++ chunk :: back) (sackPath : PathId) (hbooked : Booked chunk) :
    ∃ books, nonRenegablyAckChunk s.books chunk sackPath = .ok books ∧ Kept { s with books, retransmissionQ := front ++ back } := by
  obtain ⟨queuedOn, hqueued⟩ := ne_none_iff_exists'.mp hbooked
  obtain ⟨books, hrun, hpaid⟩ := nonRenegablyAckChunk_pays (h.apart hq) sackPath hqueued
  exact ⟨books, hrun, h.remove hq hpaid⟩

theorem Kept.dequeueAckedChunks (sackPath : PathId) {q : List SCTPDataVariables}
    (h : Kept { s with books, retransmissionQ := q })
    (hbooked : ∀ chunk ∈ q.takeWhile fun chunk => decide (tsnGe tsna chunk.tsn), Booked chunk) :
    Succeeds (SCTPAssociation.dequeueAckedChunks tsna sackPath books q) fun r => Kept { s with books := r.1, retransmissionQ := r.2 } := by
  induction q generalizing books with
  | nil => exact ⟨_, rfl, h⟩
  | cons chunk q ih =>
    rw [SCTPAssociation.dequeueAckedChunks]
    apply Succeeds.ite
    · intro hge
      rw [takeWhile_cons, if_pos (decide_eq_true hge)] at hbooked
      obtain ⟨books', hrun, h'⟩ := @Kept.pay { s with books, retransmissionQ := chunk :: q } [] q chunk h rfl
        sackPath (hbooked chunk List.mem_cons_self)
      rw [hrun]
      exact ih h' fun c hc => hbooked c (List.mem_cons_of_mem _ hc)
    · intro _
      exact ⟨_, rfl, h⟩

/-- A change of flags that no counter depends on. -/
theorem Kept.map {f : SCTPDataVariables → SCTPDataVariables} (h : s.Kept)
    (hf : ∀ chunk, SameData chunk (f chunk) ∧ owed (f chunk) = owed chunk ∧ (chunk.Sound s.paths → (f chunk).Sound s.paths)) :
    Kept { s with retransmissionQ := s.retransmissionQ.map f } := by
  constructor
  · have htsns : (s.retransmissionQ.map f).map (·.tsn) = s.retransmissionQ.map (·.tsn) := by
      rw [List.map_map]
      exact map_congr_left fun c _ => (hf c).1.tsn
    rw [htsns]
    exact h.tsns
  · intro i
    have howed : total owed (s.retransmissionQ.map f) i = total owed s.retransmissionQ i := by
      rw [total, List.map_map]
      exact congrArg sum (map_congr_left fun c _ => congrFun (hf c).2.1 i)
    rw [howed]
    exact h.balanced i
  · have hweights : (s.retransmissionQ.map f).map (·.weight) = s.retransmissionQ.map (·.weight) := by
      rw [List.map_map]
      exact map_congr_left fun c _ => (hf c).1.weight
    rw [hweights]
    exact h.fits
  · intro c hc
    obtain ⟨c', hc', rfl⟩ := List.mem_map.mp hc
    exact (hf c').2.2 (h.sound c' hc')
  · exact h.paths

theorem applyPolicies_marks (paths : List PathId) (simTime : Nat) (chunk : SCTPDataVariables) :
    SameData chunk (applyPolicies simTime chunk) ∧ owed (applyPolicies simTime chunk) = owed chunk ∧
      (chunk.Sound paths → (applyPolicies simTime chunk).Sound paths) := by
  cases applyPolicies_cases simTime chunk with
  | inl heq =>
    rw [heq]
    exact ⟨rfl, rfl, id⟩
  | inr heq =>
    rw [heq]
    exact ⟨rfl, rfl, fun h => ⟨h.acked, h.enqueued, h.sentTo, h.sendTo, h.transmitted⟩⟩

theorem Kept.accounted (h : s.Kept) : s.Accounted := by
  have hdivided (chunk : SCTPDataVariables) (hmem : chunk ∈ s.retransmissionQ) :
      (s.paths.map fun path => owed chunk (.pathOutstandingBytes path)).sum = owed chunk .outstandingBytes := by
    obtain ⟨last, hlast, heq⟩ := (h.sound chunk hmem).sentTo
    by_cases hcounts : chunk.countsAsOutstanding = true
    · simp only [owed, SCTPDataVariables.owes, hcounts, heq, some.injEq, true_and, if_true]
      exact sum_pick h.paths hlast chunk.booksize
    · simp [owed, SCTPDataVariables.owes, hcounts]
  have htransmission (f : SCTPDataVariables → Nat) (path : PathId) :
      ((s.transmissionQ.filter fun chunk => chunk.nextDestination = some path).map f).sum =
        ((s.retransmissionQ.filter fun chunk => chunk.enqueuedInTransmissionQ ∧ chunk.nextDestination = some path).map f).sum := by
    rw [transmissionQ, List.filter_filter]
    congr 3
    funext chunk
    simp [Bool.and_comm]
  constructor
  · have htotal : total owed s.retransmissionQ .outstandingBytes =
        ((s.retransmissionQ.filter fun chunk => decide (chunk.countsAsOutstanding = true)).map (·.booksize)).sum :=
      total_filter (fun chunk : SCTPDataVariables => chunk.countsAsOutstanding = true) _ fun chunk _ => rfl
    simp only [Bool.decide_eq_true] at htotal
    rw [h.balanced, htotal]
  · rw [h.balanced, ← total_divided hdivided]
    exact congrArg sum (map_congr_left fun path _ => (h.balanced _).symm)
  · intro path
    rw [h.balanced]
    exact total_filter (fun chunk : SCTPDataVariables => chunk.countsAsOutstanding = true ∧ chunk.lastDestination = some path) _ fun chunk _ => rfl
  · intro chunk hmem hacked
    rw [(h.sound chunk hmem).acked hacked]
    exact Bool.false_ne_true
  · intro path
    rw [h.balanced, htransmission]
    exact total_filter (fun chunk : SCTPDataVariables => chunk.enqueuedInTransmissionQ = true ∧ chunk.nextDestination = some path) _ fun chunk _ => rfl
  · intro path
    rw [h.balanced, htransmission]
    exact total_filter (fun chunk : SCTPDataVariables => chunk.enqueuedInTransmissionQ = true ∧ chunk.nextDestination = some path) _ fun chunk _ => rfl

theorem Kept.transmit (h : s.Kept) {datVar : Sctp.SCTPDataVariables} {prMethod : PrMethod}
    {expiryTime allowedNoRetransmissions : Nat}
    (ha : s.Allowed (.transmit datVar prMethod expiryTime allowedNoRetransmissions path)) :
    Succeeds (s.transmit datVar prMethod expiryTime allowedNoRetransmissions path) Kept := by
  obtain ⟨htsn, hpath, hnew, hfits⟩ := ha
  rw [Nat.add_assoc] at hfits
  exact h.sendFirst hpath htsn hnew hfits rfl rfl rfl

theorem Kept.retransmit (h : s.Kept) {availableSpace availableCwnd : Int} (hpath : path ∈ s.paths) :
    Succeeds (s.retransmit path availableSpace availableCwnd) Kept := by
  rw [SCTPAssociation.retransmit]
  split
  · exact ⟨_, rfl, h⟩
  · rename_i chunk hfound
    rw [outboundDataChunk] at hfound
    have hchosen := List.find?_some hfound
    rw [decide_eq_true_iff] at hchosen
    obtain ⟨hmem, henqueued⟩ := List.mem_filter.mp (List.mem_of_find?_eq_some hfound)
    obtain ⟨chunk', hmem', hchunk⟩ := getChunk_of_mem (List.mem_map_of_mem hmem)
    -- the TSN leads back to the chunk itself
    have hsame : chunk' = chunk := inj_on_of_nodup_map h.tsns hmem' hmem (getChunk_some hchunk).1
    subst hsame
    have hstep := h.onChunk hchunk fun others hheld =>
      sendAgain_keeps hheld hpath henqueued (Bool.eq_false_iff.mpr hchosen.1) hchosen.2.2.1
    exact hstep.mono fun s' hs' => hs'.1

theorem Consists.forEach {sctpMsg : List SCTPChunk} (hm : s.Consists sctpMsg p) (h : s.Kept)
    (hf : ∀ others b chunk, Holds others s.paths chunk.booksize b chunk → p chunk →
      Succeeds (f b chunk) (Keeps others s.paths chunk.booksize chunk)) :
    Succeeds (sctpMsg.foldlM (fun (s : SCTPAssociation) c => getTsn c >>= s.onChunk f) s) Kept := by
  obtain ⟨tsns, rfl, hnodup, hp⟩ := hm
  rw [foldlM_map]
  exact (Kept.forEach hf hnodup h hp).mono fun s' hs' => hs'.1

theorem Kept.storePacket (h : s.Kept) {sctpMsg : List SCTPChunk} (ha : s.Consists sctpMsg Booked) :
    Succeeds (s.storePacket sctpMsg) Kept := by
  obtain ⟨s', hrun, h'⟩ := ha.forEach h fun others b chunk hheld hbooked => by
    obtain ⟨queuedOn, hqueued⟩ := ne_none_iff_exists'.mp hbooked
    exact unbook_keeps hheld hqueued
  rw [SCTPAssociation.storePacket, hrun]
  exact ⟨_, rfl, h'.tsns, h'.balanced, h'.fits, h'.sound, h'.paths⟩

theorem Kept.loadPacket (h : s.Kept) (ha : s.Allowed (.loadPacket path)) : Succeeds (s.loadPacket path) Kept := by
  obtain ⟨hpath, hstored⟩ := ha
  rw [SCTPAssociation.loadPacket]
  split
  · exact ⟨_, rfl, h⟩
  · rename_i sctpMsg hmsg
    have hm : Consists { s with sctpMsg := none } sctpMsg Stored := hstored sctpMsg hmsg
    have hk : Kept { s with sctpMsg := none } := ⟨h.tsns, h.balanced, h.fits, h.sound, h.paths⟩
    exact hm.forEach hk fun others b chunk hheld hs => bookAgain_keeps hheld hpath hs.counts hs.acked hs.enqueued hs.booked

theorem Kept.cumAcked (h : s.Kept) (ha : s.Allowed (.cumAcked tsna sackPath)) :
    Succeeds (s.cumAcked tsna sackPath) Kept := by
  obtain ⟨⟨books, q⟩, hrun, h'⟩ := h.dequeueAckedChunks sackPath ha
  rw [SCTPAssociation.cumAcked, hrun]
  exact ⟨_, rfl, h'.tsns, h'.balanced, h'.fits, h'.sound, h'.paths⟩

theorem filter_middle (hnodup : ((front ++ chunk :: back).map (·.tsn)).Nodup) :
    ((front ++ chunk :: back).filter fun c => decide (c.tsn ≠ chunk.tsn)) = front ++ back := by
  rw [map_append, List.map_cons, perm_middle.nodup_iff, nodup_cons] at hnodup
  rw [filter_append, List.filter_cons_of_neg (by simp)]
  congr 1
  · exact List.filter_eq_self.mpr fun c hc => decide_eq_true fun heq =>
      hnodup.1 (heq ▸ mem_append_left _ (List.mem_map_of_mem hc))
  · exact List.filter_eq_self.mpr fun c hc => decide_eq_true fun heq =>
      hnodup.1 (heq ▸ mem_append_right _ (List.mem_map_of_mem hc))

section

variable (h : s.Kept)
include h

theorem Kept.handleChunkReportedAsAcked {sackIsNonRevokable : Bool}
    (ha : s.Allowed (.handleChunkReportedAsAcked tsn sackPath sackIsNonRevokable)) :
    Succeeds (s.handleChunkReportedAsAcked tsn sackPath sackIsNonRevokable) Kept := by
  rw [SCTPAssociation.handleChunkReportedAsAcked]
  split
  · exact ⟨_, rfl, h⟩
  · rename_i chunk hchunk
    apply Succeeds.ite
    · intro _
      exact ⟨_, rfl, h⟩
    · intro hacked
      apply Succeeds.ite
      · intro hnonRevokable
        obtain ⟨htsn, front, back, hq⟩ := getChunk_some hchunk
        obtain ⟨books, hrun, h'⟩ := h.pay hq sackPath (ha hnonRevokable chunk hchunk (Bool.eq_false_iff.mpr hacked))
        have hnodup := h.tsns
        rw [hq] at hnodup
        rw [hrun, ← htsn, hq]
        simp only [bind, Except.bind, filter_middle hnodup]
        exact ⟨_, rfl, h'⟩
      · intro _
        exact (h.onChunk hchunk fun others hheld => renegablyAckChunk_keeps hheld sackPath).mono fun s' hs' => hs'.1

theorem Kept.tsnWasReneged (tsn : Tsn) (sackPath : PathId) : Succeeds (s.tsnWasReneged tsn sackPath) Kept := by
  rw [SCTPAssociation.tsnWasReneged]
  split
  · exact ⟨_, rfl, h⟩
  · rename_i chunk hchunk
    apply Succeeds.ite
    · intro _
      exact (h.onChunk hchunk fun others hheld => renege_keeps s hheld sackPath).mono fun s' hs' => hs'.1
    · intro _
      exact ⟨_, rfl, h⟩

theorem Kept.handleChunkReportedAsMissing (tsn : Tsn) (sackPath : PathId) (missing : Nat) (late : Bool) (simTime : Nat) :
    Succeeds (s.handleChunkReportedAsMissing tsn sackPath missing late simTime) Kept := by
  rw [SCTPAssociation.handleChunkReportedAsMissing]
  split
  · exact ⟨_, rfl, h⟩
  · rename_i chunk hchunk
    apply Succeeds.ite
    · intro _
      exact (h.onChunk hchunk fun others hheld => renege_keeps s hheld sackPath).mono fun s' hs' => hs'.1
    · intro _
      exact (h.onChunk hchunk fun others hheld => reportMissing_keeps s hheld missing late simTime).mono fun s' hs' => hs'.1

theorem Kept.chunkReschedulingControl {blocking late : Bool}
    (ha : s.Allowed (.chunkReschedulingControl path blocking late)) :
    Succeeds (s.chunkReschedulingControl path blocking late) Kept := by
  have hbound : s.books .outstandingBytes < 2 ^ 32 := by
    rw [h.balanced]
    exact Nat.lt_of_le_of_lt (total_le_sum (fun c _ i => c.owes_le_weight (Nat.le_refl _) i) _) h.fits
  rw [SCTPAssociation.chunkReschedulingControl, ← h.accounted.paths, ensure_pos (Nat.mod_eq_of_lt hbound)]
  apply Succeeds.ite
  · intro hblocking
    cases hq : s.retransmissionQ with
    | nil => exact ⟨_, rfl, h⟩
    | cons chunk q =>
      have hbooked := ha hblocking chunk (by rw [hq]; rfl)
      have hchunk : s.getChunk chunk.tsn = some chunk := by
        simp [getChunk, hq]
      exact (h.onChunk hchunk fun others hheld => reschedule_keeps hheld late hbooked).mono fun s' hs' => hs'.1
  · intro _
    exact ⟨_, rfl, h⟩

theorem Kept.processPacketDropArrived (tsns : List Tsn) : Succeeds (s.processPacketDropArrived tsns) Kept := by
  refine Succeeds.foldlM (I := fun _ => Kept) (fun s tsn l hs => ?_) h
  split
  · exact ⟨_, rfl, hs⟩
  · rename_i chunk hchunk
    apply Succeeds.ite
    · intro _
      exact ⟨_, rfl, hs⟩
    · intro _
      exact (hs.onChunk hchunk fun others hheld => putInTransmissionQ_keeps hheld).mono fun s' hs' => hs'.1

theorem Kept.createForwardTsnChunk {pid : PathId} (ha : s.Allowed (.createForwardTsnChunk pid)) :
    Succeeds (s.createForwardTsnChunk pid) fun r => Kept r.2 := by
  have hk : Kept s.advancePeerTsn := ⟨h.tsns, h.balanced, h.fits, h.sound, h.paths⟩
  obtain ⟨s', hrun, h'⟩ := hk.forAll (fun others b chunk hheld hnext => fakeRetransmission_keeps hheld hnext) ha
  rw [SCTPAssociation.createForwardTsnChunk, hrun]
  exact ⟨_, rfl, h'⟩

theorem Kept.step {call : Call} (ha : s.Allowed call) : Succeeds (s.step call) Kept := by
  cases call with
  | transmit datVar prMethod expiryTime allowedNoRetransmissions path => exact h.transmit ha
  | retransmit path availableSpace availableCwnd => exact h.retransmit ha
  | storePacket sctpMsg => exact h.storePacket ha
  | loadPacket path => exact h.loadPacket ha
  | cumAcked tsna sackPath => exact h.cumAcked ha
  | handleChunkReportedAsAcked tsn sackPath sackIsNonRevokable => exact h.handleChunkReportedAsAcked ha
  | tsnWasReneged tsn sackPath => exact h.tsnWasReneged tsn sackPath
  | handleChunkReportedAsMissing tsn sackPath missing late simTime =>
    exact h.handleChunkReportedAsMissing tsn sackPath missing late simTime
  | process_TIMEOUT_RTX path simTime =>
    exact h.forAll (fun others b chunk hheld hnext => rtxOnTimeout_keeps hheld hnext) ha
  | chunkReschedulingControl path blocking late => exact h.chunkReschedulingControl ha
  | processPacketDropArrived tsns => exact h.processPacketDropArrived tsns
  | peekAbandonedChunk path simTime =>
    refine ⟨_, rfl, ?_⟩
    rw [peekAbandonedChunk]
    split
    · exact h
    · refine h.map fun chunk => ?_
      split
      · exact applyPolicies_marks s.paths simTime chunk
      · exact ⟨rfl, rfl, id⟩
  | createForwardTsnChunk pid =>
    obtain ⟨r, hrun, h'⟩ := h.createForwardTsnChunk ha
    exact ⟨r.2, by rw [SCTPAssociation.step, hrun]; rfl, h'⟩
  | pathChange path primaryPath => exact ⟨_, rfl, h.tsns, h.balanced, h.fits, h.sound, h.paths⟩

end

theorem books_stay_accounted (hfresh : s.Fresh) {calls : List Call} (h : Runs.EveryStep step Allowed s calls) :
    Runs.EveryState step Accounted s calls ∧ ∃ s', Runs.run step s calls = .ok s' := by
  have hstep (s : SCTPAssociation) (call : Call) (s' : SCTPAssociation) (hk : s.Kept) (ha : s.Allowed call)
      (hs : s.step call = .ok s') : s'.Kept := by
    obtain ⟨s₁, hs₁, hk₁⟩ := hk.step ha
    rw [hs] at hs₁
    cases hs₁
    exact hk₁
  constructor
  · have hkept := h.everyState hstep hfresh.kept
    exact fun calls₁ s₁ hpre hrun => (hkept calls₁ s₁ hpre hrun).accounted
  · exact h.run_ok (fun s call hk ha => hk.step ha) hfresh.kept

/-- Two paths, and partial reliability. -/
def twoPaths : SCTPAssociation where
  paths := [0, 1]
  primaryPath := 0
  nextTSN := 1
  advancedPeerAckPoint := 0
  prMethod := 1

/-- A message of a hundred bytes is sent, its chunk expires at the time 5. -/
def sendOne : Call :=
  .transmit { sid := 0, ssn := 0, ordered := true, bbit := true, ebit := true, booksize := 100
              userData := List.replicate 100 0 } .PR_TTL 5 0 0

theorem acknowledged_stays_accounted :
    Runs.EveryState step Accounted twoPaths [sendOne, .cumAcked 1 0] ∧ ∃ s', Runs.run step twoPaths [sendOne, .cumAcked 1 0] = .ok s' :=
  books_stay_accounted ⟨rfl, rfl, by decide⟩ (by
    refine Runs.everyStep_cons.mpr ⟨⟨rfl, by decide, rfl, by decide⟩, fun s hs => ?_⟩
    cases hs
    refine Runs.everyStep_cons.mpr ⟨?_, fun _ _ => Runs.everyStep_nil⟩
    show ∀ chunk ∈ _, Booked chunk
    decide)

/-- The timeout moves the chunk to the queue of path 1, the FORWARD-TSN is for path 0. -/
theorem forwarded_not_accounted :
    ¬ Runs.EveryState step Accounted twoPaths
      [sendOne, .process_TIMEOUT_RTX 0 1, .peekAbandonedChunk 0 10, .createForwardTsnChunk 0] := by
  intro h
  obtain ⟨s, hs⟩ : ∃ s, Runs.run step twoPaths [sendOne, .process_TIMEOUT_RTX 0 1, .peekAbandonedChunk 0 10,
    .createForwardTsnChunk 0] = .ok s := ⟨_, rfl⟩
  have haccounted := (h _ s (prefix_refl _) hs).roomTransQ 1
  cases hs
  exact absurd haccounted (by decide)

end SCTPAssociation

end Inet.Sctp.Sender
