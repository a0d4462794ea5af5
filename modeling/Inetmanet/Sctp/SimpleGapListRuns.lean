import Inetmanet.Sctp.GapListRuns

/-!
# Runs of calls on a simple gap list

A simple gap list together with the cumulative TSN stands for the set of TSNs that have
been added to it and not been removed.
-/
namespace Inet.Sctp

open SerialNumber SpanList List

namespace SCTPSimpleGapList

inductive Call where
  | updateGapList (receivedTSN : Tsn)
  | removeFromGapList (removedTSN : Tsn)
  | forwardCumAckTSN (cTsnAck : Tsn)
  | tryToAdvanceCumAckTSN
  deriving DecidableEq, Repr

/-- A simple gap list with its past. TSNs that lie a round of the number space apart have different positions. -/
structure History where
  list : SCTPSimpleGapList := {}
  cTsnAck : Tsn
  /-- the position of `cTsnAck` -/
  cum : Nat
  /-- the last position up to which the user has told that everything is covered -/
  told : Nat
  /-- the positions that have been added and not been removed -/
  added : List Nat := []
  /-- what the last `updateGapList` reported, and whether the TSN had not been covered -/
  newChunkReceived : Bool := false
  notCovered : Bool := false
  deriving DecidableEq, Repr

namespace History

def initial (cTsnAck : Tsn) : History where
  cTsnAck := cTsnAck
  cum := 2 ^ 31
  told := 2 ^ 31

variable (h : History)

/-- The position of a TSN that is less than half the number space away from `cTsnAck`. -/
def position (tsn : Tsn) : Nat :=
  if tsnLe tsn h.cTsnAck then h.cum - (h.cTsnAck - tsn).toNat else h.cum + (tsn - h.cTsnAck).toNat

/-- How far `tsn` is ahead of the cumulative TSN. -/
def ahead (tsn : Tsn) : Nat := (tsn - h.cTsnAck).toNat

def next (list : SCTPSimpleGapList) (cTsnAck : Tsn) : History :=
  { h with list := list, cTsnAck := cTsnAck, cum := h.cum + h.ahead cTsnAck }

def after : Call → History
  | .updateGapList receivedTSN =>
    let update := h.list.updateGapList receivedTSN h.cTsnAck false
    { h.next update.list update.cTsnAck with
      added := if h.cum < h.position receivedTSN then h.position receivedTSN :: h.added else h.added
      newChunkReceived := update.newChunkReceived
      notCovered := decide (h.cum < h.position receivedTSN ∧ h.position receivedTSN ∉ h.added) }
  | .removeFromGapList removedTSN =>
    { h with
      list := h.list.removeFromGapList removedTSN
      added := h.added.filter (· ≠ h.position removedTSN) }
  | .forwardCumAckTSN cTsnAck =>
    { h.next (h.list.forwardCumAckTSN cTsnAck) cTsnAck with told := h.cum + h.ahead cTsnAck }
  | .tryToAdvanceCumAckTSN =>
    let (list, cTsnAck, _) := h.list.tryToAdvanceCumAckTSN h.cTsnAck
    h.next list cTsnAck

def step (h : History) (call : Call) : Except Empty History := .ok (h.after call)

/-- The blocks and the cumulative TSN say which TSNs are covered. -/
structure Faithful (h : History) : Prop where
  blocks : ∀ g ∈ h.list.gaps, 1 < h.ahead g.start ∧ h.ahead g.start ≤ h.ahead g.stop ∧ h.ahead g.stop < 2 ^ 31
  separated : h.list.gaps.Pairwise fun g g' => h.ahead g.stop + 1 < h.ahead g'.start
  count : h.list.gaps.length ≤ MAX_GAP_COUNT
  member : ∀ tsn, h.list.tsnInGapList tsn ↔ tsnGt tsn h.cTsnAck ∧ h.position tsn ∈ h.added
  passed : ∀ p, h.told < p → p ≤ h.cum → p ∈ h.added
  largest : h.cum + 1 ∉ h.added
  new : h.newChunkReceived = h.notCovered

/-- No block that starts at 0 is passed over, there is room for the blocks, and the cumulative
TSN is not moved into a block or next to one. -/
def Allowed (h : History) : Call → Prop
  | .updateGapList receivedTSN =>
    tsnLe receivedTSN h.cTsnAck ∨ h.list.Fits receivedTSN ∧ Found receivedTSN h.list.gaps
  | .removeFromGapList removedTSN => tsnGt removedTSN h.cTsnAck ∧ h.list.FitsWithout removedTSN
  | .forwardCumAckTSN cTsnAck =>
    tsnGe cTsnAck h.cTsnAck ∧ ∀ g ∈ h.list.gaps, tsnLe g.start (cTsnAck + 1) → tsnLe g.stop cTsnAck
  | .tryToAdvanceCumAckTSN => True

instance (call : Call) : Decidable (h.Allowed call) := by
  cases call <;> (unfold Allowed; infer_instance)

/-- The list holds the spans `l`, which are the positions added ahead of the cumulative TSN. -/
structure Sound (base : Tsn) (h : History) (l : List Span) : Prop where
  list : h.list = ofSpans base l
  cTsnAck : h.cTsnAck = nth base h.cum
  inWindow : InWindow h.cum l
  free : ¬ Covers l (h.cum + 1)
  added : ∀ i, h.cum < i → (i ∈ h.added ↔ Covers l i)
  passed : ∀ p, h.told < p → p ≤ h.cum → p ∈ h.added
  new : h.newChunkReceived = h.notCovered
  half_le : 2 ^ 31 ≤ h.cum

variable {base : Tsn} {h : History} {l : List Span}

section

variable (hs : Sound base h l)
include hs

theorem Sound.position {p : Nat} (hp : h.cum ≤ p + 2 ^ 31) (hp' : p < h.cum + 2 ^ 31) :
    h.position (nth base p) = p := by
  rw [History.position, hs.cTsnAck]
  exact position_nth base hp hp'

theorem Sound.ahead {p : Nat} (hp : h.cum ≤ p) (hp' : p < h.cum + 2 ^ 32) :
    h.ahead (nth base p) = p - h.cum := by
  rw [History.ahead, hs.cTsnAck, toNat_nth_sub base hp (by omega)]

theorem Sound.faithful : Faithful h := by
  have hspan (s : Span) (hsl : s ∈ l) : h.ahead (Gap.ofSpan base s).start = s.lo - h.cum ∧
      h.ahead (Gap.ofSpan base s).stop = s.hi - 1 - h.cum := by
    have hne := hs.inWindow.separated.nonempty s hsl
    have habove := hs.inWindow.above s hsl
    have hwindow := hs.inWindow.window s hsl
    exact ⟨hs.ahead (by omega) (by omega), hs.ahead (by omega) (by omega)⟩
  constructor
  · rw [hs.list]
    intro g hg
    obtain ⟨s, hsl, rfl⟩ := mem_map.mp hg
    obtain ⟨hstart, hstop⟩ := hspan s hsl
    have hne := hs.inWindow.separated.nonempty s hsl
    have habove := hs.inWindow.apart_iff.mpr hs.free s hsl
    have hwindow := hs.inWindow.window s hsl
    rw [hstart, hstop]
    omega
  · rw [hs.list, ofSpans, pairwise_map]
    refine hs.inWindow.separated.apart.imp_of_mem fun {s t} hsl htl hap => ?_
    rw [(hspan s hsl).2, (hspan t htl).1]
    have hne := hs.inWindow.separated.nonempty s hsl
    have habove := hs.inWindow.above s hsl
    simp only [Span.Apart] at hap
    omega
  · rw [hs.list, ofSpans, length_map]
    exact hs.inWindow.count
  · intro tsn
    obtain ⟨p, rfl, hp, hp'⟩ := exists_nth_near base hs.half_le tsn
    rw [hs.position hp hp', hs.list, tsnInGapList_ofSpans_near base hs.inWindow hp hp', hs.cTsnAck,
      tsnGt_nth base (by omega) (by omega)]
    constructor
    · intro hcov
      have habove := (hs.inWindow.covers hcov).1
      exact ⟨habove, (hs.added p habove).mpr hcov⟩
    · rintro ⟨habove, hmem⟩
      exact (hs.added p habove).mp hmem
  · exact hs.passed
  · rw [hs.added _ (Nat.lt_succ_self _)]
    exact hs.free
  · exact hs.new

theorem Sound.cum_next {cum' : Nat} (hle : h.cum ≤ cum') (hlt : cum' < h.cum + 2 ^ 32) :
    h.cum + h.ahead (nth base cum') = cum' := by
  rw [hs.ahead hle hlt]
  omega

end

theorem ahead_self (h : History) : h.ahead h.cTsnAck = 0 := by
  rw [History.ahead, BitVec.sub_self]
  rfl

section

variable (hs : Sound base h l)
include hs

/-- A TSN that the cumulative TSN has passed changes nothing. -/
theorem Sound.after_updateGapList_of_le {p : Nat} (hp : h.cum ≤ p + 2 ^ 31) (hle : p ≤ h.cum) :
    Sound base (h.after (.updateGapList (nth base p))) l := by
  have hupdate : h.list.updateGapList (nth base p) h.cTsnAck false = ⟨false, h.cTsnAck, false, h.list⟩ := by
    rw [hs.cTsnAck]
    exact updateGapList_of_le hle hp h.list false
  have hcum : h.cum + h.ahead h.cTsnAck = h.cum := by rw [h.ahead_self, Nat.add_zero]
  have hnot : ¬ h.cum < p := by omega
  rw [History.after, hupdate]
  simp only [History.next, hcum, hs.position hp (by omega), hnot, false_and, decide_false]
  exact ⟨hs.list, hs.cTsnAck, hs.inWindow, hs.free, hs.added, hs.passed, rfl, hs.half_le⟩

theorem Sound.after_updateGapList {receivedTSN : Tsn} (ha : h.Allowed (.updateGapList receivedTSN)) :
    ∃ l', Sound base (h.after (.updateGapList receivedTSN)) l' := by
  obtain ⟨p, rfl, hp, hp'⟩ := exists_nth_near base hs.half_le receivedTSN
  by_cases hpc : p ≤ h.cum
  · exact ⟨l, hs.after_updateGapList_of_le hp hpc⟩
  · have hlt := Nat.not_le.mp hpc
    rw [Allowed, hs.cTsnAck, tsnLe_nth base (by omega) (by omega), hs.list] at ha
    obtain ⟨hfits, hfound⟩ := ha.resolve_left hpc
    obtain ⟨cum', l', heq, hentered⟩ := updateGapList_ofSpans base hs.inWindow hs.free hlt hp'
      (clear_of_found hs.inWindow hlt hp' hfound) (room_of_fits hs.inWindow hlt hp' hfits) false
    have hbound := hentered.lt hs.inWindow hp'
    have hcum := hs.cum_next hentered.le (by omega)
    have hupdate : h.list.updateGapList (nth base p) h.cTsnAck false =
        ⟨true, nth base cum', false || decide (¬ Covers l p), ofSpans base l'⟩ := by
      rw [hs.list, hs.cTsnAck]
      exact heq
    have hmem (i : Nat) (hi : h.cum < i) : i ∈ p :: h.added ↔ Covers l i ∨ i = p := by
      rw [mem_cons, hs.added i hi, or_comm]
    refine ⟨l', ?_⟩
    rw [History.after, hupdate]
    simp only [History.next, hcum, hs.position hp hp', if_pos hlt]
    constructor
    · rfl
    · rfl
    · exact hentered.inWindow
    · exact hentered.inWindow.apart_iff.mp hentered.apart
    · intro i hi
      rw [hmem i (by simp only at hi; omega), hentered.covers i hi]
    · intro i hi hle
      by_cases hold : i ≤ h.cum
      · exact mem_cons_of_mem _ (hs.passed i hi hold)
      · exact (hmem i (Nat.not_le.mp hold)).mpr (hentered.passed i (Nat.not_le.mp hold) hle)
    · simp only [hlt, true_and, hs.added p hlt, Bool.false_or]
    · exact Nat.le_trans hs.half_le hentered.le

theorem Sound.after_removeFromGapList {removedTSN : Tsn}
    (ha : h.Allowed (.removeFromGapList removedTSN)) : ∃ l', Sound base (h.after (.removeFromGapList removedTSN)) l' := by
  obtain ⟨hgt, hfits⟩ := ha
  obtain ⟨p, rfl, hp, hp'⟩ := exists_nth_near base hs.half_le removedTSN
  rw [hs.cTsnAck, tsnGt_nth base (by omega) (by omega)] at hgt
  rw [hs.list] at hfits
  obtain ⟨l', heq, hl', hcov⟩ := removeFromGapList_ofSpans_near base hs.inWindow hp hp'
    (splitRoom_of_fitsWithout hs.inWindow hp hp' hfits)
  have hmem (i : Nat) : i ∈ h.added.filter (· ≠ p) ↔ i ∈ h.added ∧ i ≠ p := by
    rw [mem_filter, decide_eq_true_eq]
  refine ⟨l', ?_⟩
  rw [History.after, hs.list, heq, hs.position hp hp']
  constructor
  · rfl
  · exact hs.cTsnAck
  · exact hl'
  · rw [hcov]
    exact fun hboth => hs.free hboth.1
  · intro i hi
    rw [hmem, hcov, hs.added i hi]
  · intro i hi hle
    simp only at hle
    exact (hmem i).mpr ⟨hs.passed i hi hle, by omega⟩
  · exact hs.new
  · exact hs.half_le

theorem Sound.after_forwardCumAckTSN {cTsnAck : Tsn} (ha : h.Allowed (.forwardCumAckTSN cTsnAck)) :
    ∃ l', Sound base (h.after (.forwardCumAckTSN cTsnAck)) l' := by
  obtain ⟨hge, hcut⟩ := ha
  rw [hs.cTsnAck] at hge
  obtain ⟨q, rfl, hle, hlt⟩ := hge.exists_nth
  have hspan : ∀ s ∈ l, s.lo ≤ q + 1 → s.hi ≤ q + 1 := by
    intro s hsl hlo
    have hne := hs.inWindow.separated.nonempty s hsl
    have habove := hs.inWindow.above s hsl
    have hwindow := hs.inWindow.window s hsl
    rw [hs.list] at hcut
    have hstart : tsnLe (Gap.ofSpan base s).start (nth base q + 1) := by
      rw [← nth_succ]
      exact (tsnLe_nth base (by omega) (by omega)).mpr hlo
    have hstop := hcut _ (mem_map_of_mem hsl) hstart
    have := (tsnLe_nth base (by omega) (by omega)).mp hstop
    omega
  obtain ⟨hl', hcov⟩ := hs.inWindow.forward hle fun s hsl hlo => hspan s hsl (by omega)
  have hcum := hs.cum_next hle (by omega)
  refine ⟨l.dropWhile fun s => s.lo ≤ q, ?_⟩
  rw [History.after, History.next, hcum, hs.list, forwardCumAckTSN_ofSpans hs.inWindow hle hlt]
  constructor
  · rfl
  · rfl
  · exact hl'
  · rw [hcov _ (Nat.lt_succ_self _)]
    rintro ⟨s, hsl, hlo, hhi⟩
    exact absurd hhi (Nat.not_lt.mpr (hspan s hsl hlo))
  · intro i hi
    rw [hcov i hi, hs.added i (Nat.lt_of_le_of_lt hle hi)]
  · intro i hi hile
    exact absurd hi (Nat.not_lt.mpr hile)
  · exact hs.new
  · exact Nat.le_trans hs.half_le hle

theorem Sound.after_tryToAdvanceCumAckTSN : h.after .tryToAdvanceCumAckTSN = h := by
  have hsame : h.list.tryToAdvanceCumAckTSN h.cTsnAck = (h.list, h.cTsnAck, false) := by
    rw [hs.list, hs.cTsnAck]
    exact tryToAdvanceCumAckTSN_ofSpans hs.inWindow hs.free
  rw [History.after, hsame]
  simp only [History.next, h.ahead_self, Nat.add_zero]

theorem Sound.after {call : Call} (ha : h.Allowed call) : ∃ l', Sound base (h.after call) l' := by
  cases call with
  | updateGapList receivedTSN => exact hs.after_updateGapList ha
  | removeFromGapList removedTSN => exact hs.after_removeFromGapList ha
  | forwardCumAckTSN cTsnAck => exact hs.after_forwardCumAckTSN ha
  | tryToAdvanceCumAckTSN => exact ⟨l, by rwa [hs.after_tryToAdvanceCumAckTSN]⟩

end

theorem sound_initial (cTsnAck : Tsn) : Sound (cTsnAck - BitVec.ofNat 32 (2 ^ 31)) (initial cTsnAck) [] := by
  have hnth : nth (cTsnAck - BitVec.ofNat 32 (2 ^ 31)) (2 ^ 31) = cTsnAck := BitVec.sub_add_cancel _ _
  constructor
  · rfl
  · exact hnth.symm
  · exact .nil _
  · exact covers_nil _
  · intro i _
    simp [initial, covers_nil]
  · intro i hi hle
    exact absurd hi (Nat.not_lt.mpr hle)
  · rfl
  · exact Nat.le_refl _

/-- From an empty list on, as long as no block that starts at 0 is passed over and the cumulative TSN is
not moved into a block or next to one, the list stands for the set of TSNs that were added. -/
theorem everyState_faithful (cTsnAck : Tsn) {calls : List Call}
    (h : Runs.EveryStep step Allowed (initial cTsnAck) calls) :
    Runs.EveryState step Faithful (initial cTsnAck) calls := by
  have hsound := h.everyState (p := fun h => ∃ l, Sound (cTsnAck - BitVec.ofNat 32 (2 ^ 31)) h l)
    (fun h call h' hs ha hstep => by
      obtain ⟨l, hs⟩ := hs
      cases hstep
      exact hs.after ha) ⟨[], sound_initial cTsnAck⟩
  intro calls₁ h₁ hpre hrun
  obtain ⟨l, hs⟩ := hsound calls₁ h₁ hpre hrun
  exact hs.faithful

theorem everyState_faithful_of_seven_calls :
    Runs.EveryState step Faithful (initial 0xfffffffc) [.updateGapList 3, .updateGapList 0xfffffffe, .updateGapList 1,
      .updateGapList 2, .removeFromGapList 3, .forwardCumAckTSN 0xffffffff, .tryToAdvanceCumAckTSN] :=
  everyState_faithful 0xfffffffc (Runs.everyStep_of_check (by decide))

/-- Behind a block that starts at 0 the next TSN is not found to be new. -/
theorem not_faithful_behind_zero :
    ¬ Runs.EveryState step Faithful (initial 0xfffffff0) [.updateGapList 0, .updateGapList 1] := by
  intro h
  have hlast := h _ _ (prefix_refl _) rfl
  exact absurd hlast.new (by decide)

end History

end SCTPSimpleGapList

end Inet.Sctp
