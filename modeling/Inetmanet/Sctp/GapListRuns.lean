import Inetmanet.Lib.Runs
import Inetmanet.Sctp.GapEntries

/-!
# Runs of calls on a gap list

The three lists are kept apart by the calls that enter TSNs, take them out and move
the cumulative TSN. A run remembers what the lists themselves forget: which chunks
were reported as new and which TSNs have been non-revokable.
-/
namespace Inet.Sctp

open SerialNumber SpanList SCTPGapList List

namespace SCTPSimpleGapList

variable (l : SCTPSimpleGapList)

/-- A further block fits in, or the TSN touches a block. -/
def Fits (tsn : Tsn) : Prop :=
  l.gaps.length < MAX_GAP_COUNT ∨ ∃ g ∈ l.gaps, tsnBetween (g.start - 1) tsn (g.stop + 1)
deriving Decidable

/-- A further block fits in, or the TSN is not in the middle of a block. -/
def FitsWithout (tsn : Tsn) : Prop :=
  l.gaps.length < MAX_GAP_COUNT ∨ ∀ g ∈ l.gaps, tsnBetween g.start tsn g.stop → tsn = g.start ∨ tsn = g.stop
deriving Decidable

/-- No block up to the first that ends behind the TSN starts at 0. -/
def Found (tsn : Tsn) : List Gap → Prop
  | [] => True
  | g :: gaps => g.start ≠ 0 ∧ (tsnLe tsn g.stop ∨ Found tsn gaps)

instance (tsn : Tsn) : (gaps : List Gap) → Decidable (Found tsn gaps)
  | [] => .isTrue trivial
  | g :: gaps =>
    have := instDecidableFound tsn gaps
    inferInstanceAs (Decidable (g.start ≠ 0 ∧ (tsnLe tsn g.stop ∨ Found tsn gaps)))

end SCTPSimpleGapList

namespace SCTPGapList

inductive Call where
  | updateGapList (receivedTSN : Tsn) (tsnIsRevokable : Bool)
  | removeFromGapList (removedTSN : Tsn)
  | forwardCumAckTSN (cumAckTSN : Tsn)
  | tryToAdvanceCumAckTSN
  deriving DecidableEq, Repr

/-- A gap list with its past. TSNs that lie a round of the number space apart have different positions. -/
structure History where
  gapList : SCTPGapList
  /-- the position of `CumAckTSN` -/
  cum : Nat
  /-- the chunks reported as new and not taken out since -/
  reported : List Nat := []
  /-- the TSNs that have been in `NonRevokableGapList` -/
  nonRevokable : List Nat := []
  deriving DecidableEq, Repr

namespace History

def initial (cumAckTSN : Tsn) : History where
  gapList := ({} : SCTPGapList).setInitialCumAckTSN cumAckTSN
  cum := 2 ^ 31

variable (h : History)

/-- The position of a TSN that is less than half the number space away from `CumAckTSN`. -/
def position (tsn : Tsn) : Nat :=
  if tsnLe tsn h.gapList.CumAckTSN then h.cum - (h.gapList.CumAckTSN - tsn).toNat
  else h.cum + (tsn - h.gapList.CumAckTSN).toNat

def next (l : SCTPGapList) : History :=
  { h with gapList := l, cum := h.cum + (l.CumAckTSN - h.gapList.CumAckTSN).toNat }

def after : Call → History
  | .updateGapList receivedTSN tsnIsRevokable =>
    let (_, l, newChunkReceived) := h.gapList.updateGapList receivedTSN false tsnIsRevokable
    { h.next l with
      reported := if newChunkReceived then h.position receivedTSN :: h.reported else h.reported
      nonRevokable :=
        if l.tsnIsNonRevokable receivedTSN then h.position receivedTSN :: h.nonRevokable else h.nonRevokable }
  | .removeFromGapList removedTSN =>
    { h.next (h.gapList.removeFromGapList removedTSN) with
      reported := h.reported.filter (· ≠ h.position removedTSN) }
  | .forwardCumAckTSN cumAckTSN => h.next (h.gapList.forwardCumAckTSN cumAckTSN)
  | .tryToAdvanceCumAckTSN => h.next h.gapList.tryToAdvanceCumAckTSN.1

def step (h : History) (call : Call) : Except Empty History := .ok (h.after call)

/-- What the lists promise their users. -/
structure Consistent (h : History) : Prop where
  union : ∀ tsn, h.gapList.tsnInGapList tsn ↔
    tsnGt tsn h.gapList.CumAckTSN ∧ (h.gapList.tsnIsRevokable tsn ∨ h.gapList.tsnIsNonRevokable tsn)
  disjoint : ∀ tsn, ¬ (h.gapList.tsnIsRevokable tsn ∧ h.gapList.tsnIsNonRevokable tsn)
  once : ∀ tsn, h.position tsn ∈ h.nonRevokable → ¬ h.gapList.tsnIsRevokable tsn
  recognised : ∀ tsn, h.position tsn ∈ h.reported → tsnLe tsn h.gapList.CumAckTSN ∨ h.gapList.tsnInGapList tsn

/-- The calls that do not come to a place where the lists get out of step. -/
def Allowed (h : History) : Call → Prop
  | .updateGapList receivedTSN tsnIsRevokable =>
    tsnLe receivedTSN h.gapList.CumAckTSN ∨
      ¬ h.gapList.tsnInGapList (h.gapList.CumAckTSN + 1) ∧
      h.gapList.CombinedGapList.Fits receivedTSN ∧
      SCTPSimpleGapList.Found receivedTSN h.gapList.CombinedGapList.gaps ∧
      if tsnIsRevokable then
        h.position receivedTSN ∉ h.nonRevokable ∧
        h.gapList.RevokableGapList.Fits receivedTSN ∧
        SCTPSimpleGapList.Found receivedTSN h.gapList.RevokableGapList.gaps
      else
        h.gapList.NonRevokableGapList.Fits receivedTSN ∧
        SCTPSimpleGapList.Found receivedTSN h.gapList.NonRevokableGapList.gaps ∧
        h.gapList.RevokableGapList.FitsWithout receivedTSN
  | .removeFromGapList removedTSN =>
    h.gapList.RevokableGapList.FitsWithout removedTSN ∧
    h.gapList.NonRevokableGapList.FitsWithout removedTSN ∧
    h.gapList.CombinedGapList.FitsWithout removedTSN
  | .forwardCumAckTSN cumAckTSN =>
    tsnGe cumAckTSN h.gapList.CumAckTSN ∧
    ∀ g ∈ h.gapList.CombinedGapList.gaps, tsnLe g.start cumAckTSN → tsnLe g.stop cumAckTSN
  | .tryToAdvanceCumAckTSN => ¬ h.gapList.tsnInGapList (h.gapList.CumAckTSN + 1)

instance (call : Call) : Decidable (h.Allowed call) := by
  cases call <;> (unfold Allowed; infer_instance)

end History

end SCTPGapList

variable {c' : List Span} {cum' p : Nat}

namespace SCTPSimpleGapList

variable {base : Tsn} {cum : Nat} {l : List Span}

section

variable (base)

theorem nth_add_round (p : Nat) : nth base (p + 2 ^ 32) = nth base p := by
  have hround : BitVec.ofNat 32 (2 ^ 32) = 0 := rfl
  rw [nth_add, hround]
  exact BitVec.add_zero _

/-- Every TSN has a position next to that of the cumulative TSN. -/
theorem exists_nth_near (hhalf : 2 ^ 31 ≤ cum) (tsn : Tsn) :
    ∃ p, tsn = nth base p ∧ cum ≤ p + 2 ^ 31 ∧ p < cum + 2 ^ 31 := by
  have heq : tsn = nth base (cum + (tsn - nth base cum).toNat) := by
    rw [← nth_nth]
    exact eq_nth _ _
  by_cases hnear : (tsn - nth base cum).toNat < 2 ^ 31
  · exact ⟨_, heq, by omega, by omega⟩
  · refine ⟨cum + (tsn - nth base cum).toNat - 2 ^ 32, ?_, by omega, by omega⟩
    rw [← nth_add_round, Nat.sub_add_cancel (by omega)]
    exact heq

/-- The position can be told from the distance to the cumulative TSN. -/
theorem position_nth (hp : cum ≤ p + 2 ^ 31) (hp' : p < cum + 2 ^ 31) :
    (if tsnLe (nth base p) (nth base cum) then cum - (nth base cum - nth base p).toNat
      else cum + (nth base p - nth base cum).toNat) = p := by
  have hle := tsnLe_nth base (m := p) (n := cum) (by omega) (by omega)
  simp only [hle]
  by_cases hpc : p ≤ cum
  · rw [if_pos hpc, toNat_nth_sub base hpc (by omega)]
    omega
  · rw [if_neg hpc, toNat_nth_sub base (by omega) (by omega)]
    omega

/-- Blocks hold no TSNs from half a round before. -/
theorem tsnInGapList_ofSpans_near (h : InWindow cum l) (hp : cum ≤ p + 2 ^ 31) (hp' : p < cum + 2 ^ 31) :
    (ofSpans base l).tsnInGapList (nth base p) ↔ Covers l p := by
  by_cases hle : cum ≤ p
  · exact tsnInGapList_ofSpans h hle (by omega)
  · rw [← nth_add_round, tsnInGapList_ofSpans h (by omega) (by omega)]
    constructor
    · intro hcov
      have hlt := (h.covers hcov).2
      omega
    · intro hcov
      have hlt := (h.covers hcov).1
      omega

theorem removeFromGapList_ofSpans_near (h : InWindow cum l) (hp : cum ≤ p + 2 ^ 31) (hp' : p < cum + 2 ^ 31)
    (hroom : SplitRoom p l) :
    ∃ l', (ofSpans base l).removeFromGapList (nth base p) = ofSpans base l' ∧ InWindow cum l' ∧
      ∀ i, Covers l' i ↔ Covers l i ∧ i ≠ p := by
  by_cases hle : cum ≤ p
  · exact removeFromGapList_ofSpans base h hle (by omega) hroom
  · have hfar : SplitRoom (p + 2 ^ 32) l := by
      refine hroom.imp id fun _ s hs hmid => ?_
      have hwindow := h.window s hs
      omega
    obtain ⟨l', heq, hl', hcov⟩ := removeFromGapList_ofSpans base h (p := p + 2 ^ 32) (by omega) (by omega) hfar
    rw [nth_add_round] at heq
    refine ⟨l', heq, hl', fun i => (hcov i).trans ?_⟩
    constructor
    · rintro ⟨hi, -⟩
      have hlt := (h.covers hi).1
      exact ⟨hi, by omega⟩
    · rintro ⟨hi, -⟩
      have hlt := (h.covers hi).2
      exact ⟨hi, by omega⟩

end

theorem room_of_fits (h : InWindow cum l) (hp : cum < p) (hp' : p < cum + 2 ^ 31)
    (hfits : (ofSpans base l).Fits (nth base p)) : Room p l := by
  cases hfits with
  | inl hlt => exact .inl (by simpa [ofSpans] using hlt)
  | inr hex =>
    obtain ⟨g, hg, hb⟩ := hex
    obtain ⟨s, hs, rfl⟩ := mem_map.mp hg
    have hne := h.separated.nonempty s hs
    have habove := h.above s hs
    have hwindow := h.window s hs
    have hstart : (Gap.ofSpan base s).start - 1 = nth base (s.lo - 1) := nth_pred (by omega)
    have hstop : (Gap.ofSpan base s).stop + 1 = nth base s.hi := nth_pred_succ (by omega)
    rw [hstart, hstop, tsnBetween_nth base (by omega) (by omega) (by omega) (by omega)] at hb
    exact .inr ⟨s, hs, by omega, hb.2⟩

theorem splitRoom_of_fitsWithout (h : InWindow cum l) (hp : cum ≤ p + 2 ^ 31) (hp' : p < cum + 2 ^ 31)
    (hfits : (ofSpans base l).FitsWithout (nth base p)) : SplitRoom p l := by
  cases hfits with
  | inl hlt => exact .inl (by simpa [ofSpans] using hlt)
  | inr hall =>
    refine .inr fun s hs hmid => ?_
    have habove := h.above s hs
    have hwindow := h.window s hs
    have hb : tsnBetween (Gap.ofSpan base s).start (nth base p) (Gap.ofSpan base s).stop :=
      (tsnBetween_ofSpan h hs (by omega) (by omega)).mpr ⟨Nat.le_of_lt hmid.1, by omega⟩
    cases hall _ (mem_map_of_mem hs) hb with
    | inl hstart =>
      have := (nth_inj base (by omega) (by omega)).mp hstart
      omega
    | inr hstop =>
      have := (nth_inj base (by omega) (by omega)).mp hstop
      omega

theorem clear_of_lt {lo : Nat} (h : Separated l) (hlo : p < lo) (hl : ∀ s ∈ l, lo < s.lo) : Clear base p lo l := by
  induction l generalizing lo with
  | nil => trivial
  | cons s l ih =>
    obtain ⟨hne, hap, hsep⟩ := Separated.cons_iff.mp h
    have hs := hl s (mem_cons_self ..)
    exact ⟨fun _ => hlo, ih hsep (by omega) hap⟩

theorem clear_of_found (h : InWindow cum l) {lo : Nat} (hp : cum < p) (hp' : p < cum + 2 ^ 31)
    (hfound : Found (nth base p) (ofSpans base l).gaps) : Clear base p lo l := by
  induction l generalizing lo with
  | nil => trivial
  | cons s l ih =>
    obtain ⟨hne, hap, hsep⟩ := Separated.cons_iff.mp h.separated
    have hwindow := h.window s (mem_cons_self ..)
    have habove := h.above s (mem_cons_self ..)
    have htail : InWindow cum l := h.tail
    obtain ⟨hzero, hrest⟩ := hfound
    refine ⟨fun hz => absurd hz hzero, ?_⟩
    cases hrest with
    | inl hle =>
      have hlt := (tsnLe_nth base (by omega) (by omega)).mp hle
      exact clear_of_lt hsep (by omega) hap
    | inr hfound => exact ih htail hfound

/-- No part of the list gets further than the list. -/
theorem Entered.le_of_part {cm : Nat} {c : List Span} (hc : Entered cum p c cum' c')
    (hpassed : ∀ i, cum < i → i ≤ cm → Covers c i ∨ i = p) : cm ≤ cum' := by
  refine Nat.not_lt.mp fun hgt => hc.inWindow.apart_iff.mp hc.apart ?_
  exact (hc.covers _ (Nat.lt_succ_self cum')).mpr (hpassed _ (Nat.lt_succ_of_le hc.le) hgt)

/-- Position `p` has been entered into list `c`, and `m` is a part of it with or without that position: what is
left of `m` when the cumulative TSN goes on. -/
theorem Entered.forward (base : Tsn) {cm : Nat} {c m : List Span} (hc : Entered cum p c cum' c') (hlt : cum' < cum + 2 ^ 31)
    (hm : InWindow cm m) (hle : cum ≤ cm) (hsub : ∀ i, cm < i → Covers m i → Covers c i ∨ i = p)
    (hpassed : ∀ i, cum < i → i ≤ cm → Covers c i ∨ i = p) :
    ∃ m', (if nth base cum ≠ nth base cum' then (ofSpans base m).forwardCumAckTSN (nth base cum') else ofSpans base m) =
        ofSpans base m' ∧ InWindow cum' m' ∧ ∀ i, cum' < i → (Covers m' i ↔ Covers m i) := by
  have hfree := hc.inWindow.apart_iff.mp hc.apart
  have hcm := hc.le_of_part hpassed
  by_cases heq : cum = cum'
  · subst heq
    have hcum : cm = cum := Nat.le_antisymm hcm hle
    subst hcum
    exact ⟨m, if_neg (not_not.mpr rfl), hm, fun i _ => Iff.rfl⟩
  · have hne : nth base cum ≠ nth base cum' := by
      rw [Ne, nth_inj base (by omega) (by omega)]
      exact heq
    rw [if_pos hne, forwardCumAckTSN_ofSpans hm hcm (by omega)]
    refine ⟨_, rfl, hm.forward hcm fun s hs hlo => Nat.not_lt.mp fun hcut => hfree ?_⟩
    have hcov : Covers m (cum' + 1) := ⟨s, hs, Nat.le_succ_of_le hlo, hcut⟩
    exact (hc.covers _ (Nat.lt_succ_self cum')).mpr (hsub _ (Nat.lt_succ_of_le hcm) hcov)

/-- The cumulative TSN stays in the window. -/
theorem Entered.lt {c : List Span} (hc : Entered cum p c cum' c') (h : InWindow cum c)
    (hp : p < cum + 2 ^ 31) : cum' < cum + 2 ^ 31 := by
  by_cases hgt : cum < cum'
  · cases hc.passed cum' hgt (Nat.le_refl cum') with
    | inl hcov => exact (h.covers hcov).2
    | inr heq => omega
  · omega

end SCTPSimpleGapList

namespace SCTPGapList.History

open SCTPSimpleGapList

/-- The three lists hold the spans `r`, `n` and `c`. -/
structure Sound (base : Tsn) (h : History) (r n c : List Span) : Prop where
  gapList : h.gapList = ⟨nth base h.cum, ofSpans base r, ofSpans base n, ofSpans base c⟩
  revokable : InWindow h.cum r
  nonRevokable : InWindow h.cum n
  combined : InWindow h.cum c
  union : ∀ i, Covers c i ↔ Covers r i ∨ Covers n i
  disjoint : ∀ i, Covers r i → ¬ Covers n i
  known : ∀ i, Covers n i → i ∈ h.nonRevokable
  once : ∀ i ∈ h.nonRevokable, ¬ Covers r i
  recognised : ∀ i ∈ h.reported, i ≤ h.cum ∨ Covers c i
  half_le : 2 ^ 31 ≤ h.cum

variable {base : Tsn} {h : History} {r n c : List Span}

section

variable (hs : Sound base h r n c)
include hs

theorem Sound.cumAckTSN : h.gapList.CumAckTSN = nth base h.cum := by
  rw [hs.gapList]

theorem Sound.position (hp : h.cum ≤ p + 2 ^ 31) (hp' : p < h.cum + 2 ^ 31) :
    h.position (nth base p) = p := by
  rw [History.position, hs.cumAckTSN]
  exact position_nth base hp hp'

/-- Every TSN has a position next to `CumAckTSN`. -/
theorem Sound.exists_position (tsn : Tsn) :
    ∃ p, tsn = nth base p ∧ h.cum ≤ p + 2 ^ 31 ∧ p < h.cum + 2 ^ 31 :=
  exists_nth_near base hs.half_le tsn

theorem Sound.consistent : Consistent h := by
  have hposition (tsn : Tsn) : ∃ p, h.position tsn = p ∧ (tsnLe tsn h.gapList.CumAckTSN ↔ p ≤ h.cum) ∧
      (h.gapList.tsnIsRevokable tsn ↔ Covers r p) ∧ (h.gapList.tsnIsNonRevokable tsn ↔ Covers n p) ∧
      (h.gapList.tsnInGapList tsn ↔ Covers c p) := by
    obtain ⟨p, rfl, hp, hp'⟩ := hs.exists_position tsn
    refine ⟨p, hs.position hp hp', ?_, ?_, ?_, ?_⟩
    · rw [hs.cumAckTSN]
      exact tsnLe_nth base (by omega) (by omega)
    · rw [tsnIsRevokable, hs.gapList]
      exact tsnInGapList_ofSpans_near base hs.revokable hp hp'
    · rw [tsnIsNonRevokable, hs.gapList]
      exact tsnInGapList_ofSpans_near base hs.nonRevokable hp hp'
    · rw [tsnInGapList, hs.gapList]
      exact tsnInGapList_ofSpans_near base hs.combined hp hp'
  constructor
  · intro tsn
    obtain ⟨p, -, hle, hr, hn, hc⟩ := hposition tsn
    have hgt := tsnLe_iff.symm.trans hle
    rw [hr, hn, hc, hs.union]
    constructor
    · intro hcov
      refine ⟨not_not.mp fun hnot => ?_, hcov⟩
      have habove := (hs.combined.covers ((hs.union p).mpr hcov)).1
      exact absurd (hgt.mp hnot) (Nat.not_le.mpr habove)
    · exact And.right
  · intro tsn
    obtain ⟨p, -, -, hr, hn, -⟩ := hposition tsn
    rw [hr, hn]
    exact fun hboth => hs.disjoint p hboth.1 hboth.2
  · intro tsn hmem
    obtain ⟨p, hp, -, hr, -, -⟩ := hposition tsn
    rw [hr]
    exact hs.once p (hp ▸ hmem)
  · intro tsn hmem
    obtain ⟨p, hp, hle, -, -, hc⟩ := hposition tsn
    rw [hle, hc]
    exact hs.recognised p (hp ▸ hmem)

theorem Sound.next_cum {l : SCTPGapList} (hl : l.CumAckTSN = nth base cum')
    (hle : h.cum ≤ cum') (hlt : cum' < h.cum + 2 ^ 32) : (h.next l).cum = cum' := by
  rw [History.next, hl, hs.cumAckTSN]
  simp only
  rw [toNat_nth_sub base hle (by omega)]
  omega

end

/-- Positions at or before the cumulative TSN need no check. -/
theorem Sound.of_above (hl : h.gapList = ⟨nth base h.cum, ofSpans base r, ofSpans base n, ofSpans base c⟩)
    (hr : InWindow h.cum r) (hn : InWindow h.cum n) (hc : InWindow h.cum c) (hhalf : 2 ^ 31 ≤ h.cum)
    (hunion : ∀ i, h.cum < i → (Covers c i ↔ Covers r i ∨ Covers n i))
    (hdisjoint : ∀ i, h.cum < i → Covers r i → ¬ Covers n i)
    (hknown : ∀ i, h.cum < i → Covers n i → i ∈ h.nonRevokable)
    (honce : ∀ i, h.cum < i → i ∈ h.nonRevokable → ¬ Covers r i)
    (hrecognised : ∀ i, h.cum < i → i ∈ h.reported → Covers c i) : Sound base h r n c := by
  constructor
  · exact hl
  · exact hr
  · exact hn
  · exact hc
  · intro i
    by_cases hi : h.cum < i
    · exact hunion i hi
    · constructor
      · intro hcov
        exact absurd (hc.covers hcov).1 hi
      · intro hcov
        exact hcov.elim (fun hri => absurd (hr.covers hri).1 hi) fun hni => absurd (hn.covers hni).1 hi
  · intro i hri
    exact hdisjoint i (hr.covers hri).1 hri
  · intro i hni
    exact hknown i (hn.covers hni).1 hni
  · intro i hi hri
    exact honce i (hr.covers hri).1 hi hri
  · intro i hi
    exact or_iff_not_imp_left.mpr fun hle => hrecognised i (Nat.not_le.mp hle) hi
  · exact hhalf

section

variable (hs : Sound base h r n c)
include hs

theorem Sound.after_removeFromGapList {removedTSN : Tsn}
    (ha : h.Allowed (.removeFromGapList removedTSN)) :
    ∃ r' n' c', Sound base (h.after (.removeFromGapList removedTSN)) r' n' c' := by
  obtain ⟨p, rfl, hp, hp'⟩ := hs.exists_position removedTSN
  obtain ⟨har, han, hac⟩ := ha
  simp only [hs.gapList] at har han hac
  obtain ⟨r', hr, hr', hrc⟩ := removeFromGapList_ofSpans_near base hs.revokable hp hp'
    (splitRoom_of_fitsWithout hs.revokable hp hp' har)
  obtain ⟨n', hn, hn', hnc⟩ := removeFromGapList_ofSpans_near base hs.nonRevokable hp hp'
    (splitRoom_of_fitsWithout hs.nonRevokable hp hp' han)
  obtain ⟨c', hc, hc', hcc⟩ := removeFromGapList_ofSpans_near base hs.combined hp hp'
    (splitRoom_of_fitsWithout hs.combined hp hp' hac)
  have hl : h.gapList.removeFromGapList (nth base p) =
      ⟨nth base h.cum, ofSpans base r', ofSpans base n', ofSpans base c'⟩ := by
    rw [hs.gapList, removeFromGapList]
    simp only [hr, hn, hc]
  have hcum : (h.next (h.gapList.removeFromGapList (nth base p))).cum = h.cum :=
    hs.next_cum (by rw [hl]) (Nat.le_refl _) (by omega)
  refine ⟨r', n', c', ?_⟩
  constructor
  · simp only [History.after, hcum]
    exact hl
  · simp only [History.after, hcum]
    exact hr'
  · simp only [History.after, hcum]
    exact hn'
  · simp only [History.after, hcum]
    exact hc'
  · intro i
    rw [hrc, hnc, hcc, hs.union]
    tauto
  · intro i hi hni
    exact hs.disjoint i ((hrc i).mp hi).1 ((hnc i).mp hni).1
  · intro i hi
    exact hs.known i ((hnc i).mp hi).1
  · intro i hi hri
    exact hs.once i hi ((hrc i).mp hri).1
  · intro i hi
    simp only [History.after, hs.position hp hp', mem_filter, decide_eq_true_eq] at hi
    simp only [History.after, hcum, hcc]
    exact (hs.recognised i hi.1).imp id fun hcov => ⟨hcov, hi.2⟩
  · simp only [History.after, hcum]
    exact hs.half_le

theorem Sound.after_forwardCumAckTSN {cumAckTSN : Tsn}
    (ha : h.Allowed (.forwardCumAckTSN cumAckTSN)) :
    ∃ r' n' c', Sound base (h.after (.forwardCumAckTSN cumAckTSN)) r' n' c' := by
  obtain ⟨hge, hcut⟩ := ha
  rw [hs.cumAckTSN] at hge
  obtain ⟨q, rfl, hle, hlt⟩ := hge.exists_nth
  have hcutc : ∀ s ∈ c, s.lo ≤ q → s.hi ≤ q + 1 := by
    intro s hsc hlo
    have hne := hs.combined.separated.nonempty s hsc
    have habove := hs.combined.above s hsc
    have hwindow := hs.combined.window s hsc
    rw [hs.gapList] at hcut
    have hstop := hcut _ (mem_map_of_mem hsc) ((tsnLe_nth base (by omega) (by omega)).mpr hlo)
    have := (tsnLe_nth base (by omega) (by omega)).mp hstop
    omega
  -- a block of a part lies in a block of the combined list
  have hcutm {m : List Span} (hm : InWindow h.cum m) (hsub : ∀ i, Covers m i → Covers c i) :
      ∀ s ∈ m, s.lo ≤ q → s.hi ≤ q + 1 := by
    intro s hsm hlo
    obtain ⟨t, ht, htlo, hthi⟩ := hs.combined.separated.exists_around (hm.separated.nonempty s hsm)
      fun i hi => hsub i ⟨s, hsm, hi⟩
    exact Nat.le_trans hthi (hcutc t ht (Nat.le_trans htlo hlo))
  obtain ⟨hr', hrc⟩ := hs.revokable.forward hle (hcutm hs.revokable fun i hi => (hs.union i).mpr (.inl hi))
  obtain ⟨hn', hnc⟩ := hs.nonRevokable.forward hle (hcutm hs.nonRevokable fun i hi => (hs.union i).mpr (.inr hi))
  obtain ⟨hc', hcc⟩ := hs.combined.forward hle hcutc
  have hl : h.gapList.forwardCumAckTSN (nth base q) = ⟨nth base q, ofSpans base (r.dropWhile fun s => s.lo ≤ q),
      ofSpans base (n.dropWhile fun s => s.lo ≤ q), ofSpans base (c.dropWhile fun s => s.lo ≤ q)⟩ := by
    rw [hs.gapList, forwardCumAckTSN]
    simp only [forwardCumAckTSN_ofSpans hs.revokable hle hlt, forwardCumAckTSN_ofSpans hs.nonRevokable hle hlt,
      forwardCumAckTSN_ofSpans hs.combined hle hlt]
  have hcum : (h.next (h.gapList.forwardCumAckTSN (nth base q))).cum = q :=
    hs.next_cum (by rw [hl]) hle (by omega)
  have hhalf := hs.half_le
  exact ⟨_, _, _, .of_above (by rw [History.after, hcum]; exact hl) (by rwa [History.after, hcum])
    (by rwa [History.after, hcum]) (by rwa [History.after, hcum]) (by rw [History.after, hcum]; omega)
    (fun i hi => by rw [History.after, hcum] at hi; rw [hrc i hi, hnc i hi, hcc i hi, hs.union])
    (fun i hi => by rw [History.after, hcum] at hi; rw [hrc i hi, hnc i hi]; exact hs.disjoint i)
    (fun i hi => by rw [History.after, hcum] at hi; rw [hnc i hi]; exact hs.known i)
    (fun i hi => by rw [History.after, hcum] at hi; rw [hrc i hi]; exact hs.once i)
    (fun i hi hmem => by
      rw [History.after, hcum] at hi
      rw [hcc i hi]
      exact (hs.recognised i hmem).resolve_left (by omega))⟩

theorem Sound.free (hfree : ¬ h.gapList.tsnInGapList (h.gapList.CumAckTSN + 1)) :
    ¬ Covers c (h.cum + 1) := by
  rw [tsnInGapList, hs.cumAckTSN, ← nth_succ, hs.gapList] at hfree
  rwa [← tsnInGapList_ofSpans_near base hs.combined (by omega) (by omega)]

theorem Sound.after_tryToAdvanceCumAckTSN (ha : h.Allowed .tryToAdvanceCumAckTSN) :
    ∃ r' n' c', Sound base (h.after .tryToAdvanceCumAckTSN) r' n' c' := by
  have hfree := hs.free ha
  have hl : h.gapList.tryToAdvanceCumAckTSN = (h.gapList, false) := by
    rw [hs.gapList, tryToAdvanceCumAckTSN]
    simp only [tryToAdvanceCumAckTSN_ofSpans hs.combined hfree]
    rfl
  have hsame : h.after .tryToAdvanceCumAckTSN = h := by
    rw [History.after, hl, History.next, BitVec.sub_self]
    rfl
  rw [hsame]
  exact ⟨r, n, c, hs⟩

end

/-- The combined list has been updated, and the parts have followed. -/
theorem updateGapList_eq {l l₁ : SCTPGapList} {receivedTSN cumAckTSN : Tsn} {rev new new₁ new₂ : Bool}
    {combined r' n' : SCTPSimpleGapList} (h₁ : l.updateRevokability receivedTSN new rev = (l₁, new₁))
    (h₂ : l₁.CombinedGapList.updateGapList receivedTSN l₁.CumAckTSN new₁ = ⟨true, cumAckTSN, new₂, combined⟩)
    (hr : (if l₁.CumAckTSN ≠ cumAckTSN then l₁.RevokableGapList.forwardCumAckTSN cumAckTSN else l₁.RevokableGapList) = r')
    (hn : (if l₁.CumAckTSN ≠ cumAckTSN then l₁.NonRevokableGapList.forwardCumAckTSN cumAckTSN
      else l₁.NonRevokableGapList) = n') :
    l.updateGapList receivedTSN new rev = (true, ⟨cumAckTSN, r', n', combined⟩, new₂) := by
  subst hr hn
  rw [updateGapList, h₁]
  simp only [h₂]
  by_cases hne : l₁.CumAckTSN ≠ cumAckTSN
  · simp only [if_pos hne]
  · simp only [if_neg hne]

section

variable (hs : Sound base h r n c)
include hs

/-- After `p` has been entered, with the parts the spans that the combined list has. -/
theorem Sound.after_update {r' n' : List Span} {rev new : Bool}
    (hp : h.cum < p) (hp' : p < h.cum + 2 ^ 31) (hc : Entered h.cum p c cum' c')
    (hl : h.gapList.updateGapList (nth base p) false rev =
      (true, ⟨nth base cum', ofSpans base r', ofSpans base n', ofSpans base c'⟩, new))
    (hr' : InWindow cum' r') (hn' : InWindow cum' n')
    (hunion : ∀ i, cum' < i → (Covers r' i ∨ Covers n' i ↔ Covers c i ∨ i = p))
    (hdisjoint : ∀ i, cum' < i → Covers r' i → ¬ Covers n' i)
    (hknown : ∀ i, cum' < i → Covers n' i → i ∈ h.nonRevokable ∨ i = p)
    (honce : ∀ i, cum' < i → i ∈ h.nonRevokable → ¬ Covers r' i) :
    Sound base (h.after (.updateGapList (nth base p) rev)) r' n' c' := by
  have hlt := hc.lt hs.combined hp'
  have hcum : (h.after (.updateGapList (nth base p) rev)).cum = cum' := by
    simp only [History.after, hl]
    exact hs.next_cum rfl hc.le (by omega)
  have hgap : (h.after (.updateGapList (nth base p) rev)).gapList =
      ⟨nth base cum', ofSpans base r', ofSpans base n', ofSpans base c'⟩ := by
    simp only [History.after, hl]
    rfl
  have hle := hc.le
  have hhalf := hs.half_le
  have hlisted : (⟨nth base cum', ofSpans base r', ofSpans base n', ofSpans base c'⟩ : SCTPGapList).tsnIsNonRevokable
      (nth base p) ↔ Covers n' p := tsnInGapList_ofSpans_near base hn' (by omega) (by omega)
  have hmem (i : Nat) : i ∈ (h.after (.updateGapList (nth base p) rev)).nonRevokable ↔
      i ∈ h.nonRevokable ∨ i = p ∧ Covers n' p := by
    simp only [History.after, hl, hs.position (by omega) hp', hlisted]
    by_cases hcov : Covers n' p
    · rw [if_pos hcov, mem_cons]
      tauto
    · rw [if_neg hcov]
      tauto
  have hreported (i : Nat) (hi : i ∈ (h.after (.updateGapList (nth base p) rev)).reported) : i ∈ h.reported ∨ i = p := by
    simp only [History.after, hl, hs.position (by omega) hp'] at hi
    cases new with
    | false => exact .inl hi
    | true => exact (mem_cons.mp hi).symm
  apply Sound.of_above
  · rw [hcum]
    exact hgap
  · rwa [hcum]
  · rwa [hcum]
  · rw [hcum]
    exact hc.inWindow
  · omega
  · intro i hi
    rw [hcum] at hi
    rw [hunion i hi]
    exact hc.covers i hi
  · intro i hi
    rw [hcum] at hi
    exact hdisjoint i hi
  · intro i hi hni
    rw [hcum] at hi
    rw [hmem]
    cases hknown i hi hni with
    | inl hold => exact .inl hold
    | inr heq => exact .inr ⟨heq, heq ▸ hni⟩
  · intro i hi hin hri
    rw [hcum] at hi
    cases (hmem i).mp hin with
    | inl hold => exact honce i hi hold hri
    | inr hnew =>
      rw [hnew.1] at hi hri
      exact hdisjoint p hi hri hnew.2
  · intro i hi hin
    rw [hcum] at hi
    rw [hc.covers i hi]
    refine (hreported i hin).imp (fun hold => ?_) id
    exact (hs.recognised i hold).resolve_left (by omega)

/-- A TSN that the cumulative TSN has passed changes nothing. -/
theorem Sound.after_updateGapList_of_le (hp : h.cum ≤ p + 2 ^ 31) (hle : p ≤ h.cum)
    (rev : Bool) : h.after (.updateGapList (nth base p) rev) = h := by
  have hof (l : SCTPSimpleGapList) : l.updateGapList (nth base p) (nth base h.cum) false =
      ⟨false, nth base h.cum, false, l⟩ := updateGapList_of_le hle hp l false
  have hl : h.gapList.updateGapList (nth base p) false rev = (false, h.gapList, false) := by
    cases rev with
    | true =>
      rw [hs.gapList]
      simp [updateGapList, updateRevokability, hof]
    | false =>
      rw [hs.gapList]
      simp [updateGapList, updateRevokability, hof]
  have hlisted : ¬ h.gapList.tsnIsNonRevokable (nth base p) := by
    rw [tsnIsNonRevokable, hs.gapList, tsnInGapList_ofSpans_near base hs.nonRevokable (by omega) (by omega)]
    exact fun hcov => absurd (hs.nonRevokable.covers hcov).1 (Nat.not_lt.mpr hle)
  simp only [History.after, hl, if_neg hlisted, History.next, BitVec.sub_self]
  rfl

/-- A position is entered as revokable that has never been non-revokable. -/
theorem Sound.after_revokable (hlt : h.cum < p) (hp' : p < h.cum + 2 ^ 31)
    (hfreec : ¬ Covers c (h.cum + 1)) (hclear : Clear base p (h.cum + 1) c) (hroom : Room p c)
    (hclearr : Clear base p (h.cum + 1) r) (hroomr : Room p r) (honce : p ∉ h.nonRevokable) :
    ∃ r' n' c', Sound base (h.after (.updateGapList (nth base p) true)) r' n' c' := by
  have hfreer : ¬ Covers r (h.cum + 1) := fun hri => hfreec ((hs.union _).mpr (.inl hri))
  obtain ⟨cr, r₁, hR, hr₁⟩ := updateGapList_ofSpans base hs.revokable hfreer hlt hp'
    hclearr hroomr false
  obtain ⟨cum', c', hC, hc⟩ := updateGapList_ofSpans base hs.combined hfreec hlt hp' hclear hroom
    (false || decide (¬ Covers r p))
  have hbound := hc.lt hs.combined hp'
  have hpart (i : Nat) (hi : Covers r i ∨ i = p) : Covers c i ∨ i = p := hi.imp (fun hri => (hs.union i).mpr (.inl hri)) id
  have hpassed (i : Nat) (hi : h.cum < i) (hle : i ≤ cr) : Covers c i ∨ i = p := hpart i (hr₁.passed i hi hle)
  obtain ⟨r', hre, hr', hrc⟩ := hc.forward base hbound hr₁.inWindow hr₁.le
    (fun i hi hri => hpart i ((hr₁.covers i hi).mp hri)) hpassed
  obtain ⟨n', hne, hn', hnc⟩ := hc.forward base hbound hs.nonRevokable (Nat.le_refl _)
    (fun i _ hni => .inl ((hs.union i).mpr (.inr hni))) (fun i hi hle => by omega)
  have h₁ : h.gapList.updateRevokability (nth base p) false true =
      (⟨nth base h.cum, ofSpans base r₁, ofSpans base n, ofSpans base c⟩, false || decide (¬ Covers r p)) := by
    rw [hs.gapList, updateRevokability, if_pos rfl]
    simp only [hR]
  have hcov (i : Nat) (hi : cum' < i) : Covers r' i ↔ Covers r i ∨ i = p := by
    rw [hrc i hi, hr₁.covers i (Nat.lt_of_le_of_lt (hc.le_of_part hpassed) hi)]
  refine ⟨r', n', c', hs.after_update hlt hp' hc (updateGapList_eq h₁ hC hre hne) hr' hn' ?_ ?_ ?_ ?_⟩
  · intro i hi
    rw [hcov i hi, hnc i hi, hs.union]
    tauto
  · intro i hi hri hni
    rw [hnc i hi] at hni
    cases (hcov i hi).mp hri with
    | inl hold => exact hs.disjoint i hold hni
    | inr heq => exact honce (heq ▸ hs.known i hni)
  · intro i hi hni
    exact .inl (hs.known i ((hnc i hi).mp hni))
  · intro i hi hin hri
    cases (hcov i hi).mp hri with
    | inl hold => exact hs.once i hin hold
    | inr heq => exact honce (heq ▸ hin)

/-- A position is entered as non-revokable and taken out of the revokable list. -/
theorem Sound.after_nonRevokable (hlt : h.cum < p) (hp' : p < h.cum + 2 ^ 31)
    (hfreec : ¬ Covers c (h.cum + 1)) (hclear : Clear base p (h.cum + 1) c) (hroom : Room p c)
    (hclearn : Clear base p (h.cum + 1) n) (hroomn : Room p n) (hroomr : SplitRoom p r) :
    ∃ r' n' c', Sound base (h.after (.updateGapList (nth base p) false)) r' n' c' := by
  have hfreen : ¬ Covers n (h.cum + 1) := fun hni => hfreec ((hs.union _).mpr (.inr hni))
  obtain ⟨cn, n₁, hN, hn₁⟩ := updateGapList_ofSpans base hs.nonRevokable hfreen hlt hp'
    hclearn hroomn false
  obtain ⟨r₁, hR, hr₁, hr₁c⟩ := removeFromGapList_ofSpans_near base hs.revokable (by omega) hp'
    hroomr
  obtain ⟨cum', c', hC, hc⟩ := updateGapList_ofSpans base hs.combined hfreec hlt hp' hclear hroom
    (false || decide (¬ Covers n p))
  have hbound := hc.lt hs.combined hp'
  have hpart (i : Nat) (hi : Covers n i ∨ i = p) : Covers c i ∨ i = p := hi.imp (fun hni => (hs.union i).mpr (.inr hni)) id
  have hpassed (i : Nat) (hi : h.cum < i) (hle : i ≤ cn) : Covers c i ∨ i = p := hpart i (hn₁.passed i hi hle)
  obtain ⟨n', hne, hn', hnc⟩ := hc.forward base hbound hn₁.inWindow hn₁.le
    (fun i hi hni => hpart i ((hn₁.covers i hi).mp hni)) hpassed
  obtain ⟨r', hre, hr', hrc⟩ := hc.forward base hbound hr₁ (Nat.le_refl _)
    (fun i _ hri => .inl ((hs.union i).mpr (.inl ((hr₁c i).mp hri).1))) (fun i hi hle => by omega)
  have h₁ : h.gapList.updateRevokability (nth base p) false false =
      (⟨nth base h.cum, ofSpans base r₁, ofSpans base n₁, ofSpans base c⟩, false || decide (¬ Covers n p)) := by
    rw [hs.gapList, updateRevokability, if_neg Bool.false_ne_true]
    simp only [hN, if_true, hR]
  have hcov (i : Nat) (hi : cum' < i) : Covers n' i ↔ Covers n i ∨ i = p := by
    rw [hnc i hi, hn₁.covers i (Nat.lt_of_le_of_lt (hc.le_of_part hpassed) hi)]
  refine ⟨r', n', c', hs.after_update hlt hp' hc (updateGapList_eq h₁ hC hre hne) hr' hn' ?_ ?_ ?_ ?_⟩
  · intro i hi
    rw [hcov i hi, hrc i hi, hr₁c, hs.union]
    tauto
  · intro i hi hri hni
    obtain ⟨hro, hip⟩ := (hr₁c i).mp ((hrc i hi).mp hri)
    exact ((hcov i hi).mp hni).elim (hs.disjoint i hro) hip
  · intro i hi hni
    exact ((hcov i hi).mp hni).imp (hs.known i) id
  · intro i hi hin hri
    exact hs.once i hin ((hr₁c i).mp ((hrc i hi).mp hri)).1

theorem Sound.after_updateGapList {receivedTSN : Tsn} {rev : Bool}
    (ha : h.Allowed (.updateGapList receivedTSN rev)) :
    ∃ r' n' c', Sound base (h.after (.updateGapList receivedTSN rev)) r' n' c' := by
  obtain ⟨p, rfl, hp, hp'⟩ := hs.exists_position receivedTSN
  have hle := tsnLe_nth base (m := p) (n := h.cum) (by omega) (by omega)
  rw [Allowed, hs.cumAckTSN, hle] at ha
  by_cases hpc : p ≤ h.cum
  · have hsame : h.after (.updateGapList (nth base p) rev) = h := hs.after_updateGapList_of_le hp hpc rev
    rw [hsame]
    exact ⟨r, n, c, hs⟩
  · have hlt := Nat.not_le.mp hpc
    obtain ⟨hfree, hfits, hfound, hrev⟩ := ha.resolve_left hpc
    rw [← hs.cumAckTSN] at hfree
    have hfreec := hs.free hfree
    simp only [hs.gapList] at hfits hfound hrev
    have hroom := room_of_fits hs.combined hlt hp' hfits
    have hclear : Clear base p (h.cum + 1) c := clear_of_found hs.combined hlt hp' hfound
    cases rev with
    | true =>
      obtain ⟨honce, hrfits, hrfound⟩ := hrev
      rw [hs.position hp hp'] at honce
      exact hs.after_revokable hlt hp' hfreec hclear hroom (clear_of_found hs.revokable hlt hp' hrfound)
        (room_of_fits hs.revokable hlt hp' hrfits) honce
    | false =>
      obtain ⟨hnfits, hnfound, hrfits⟩ := hrev
      exact hs.after_nonRevokable hlt hp' hfreec hclear hroom (clear_of_found hs.nonRevokable hlt hp' hnfound)
        (room_of_fits hs.nonRevokable hlt hp' hnfits) (splitRoom_of_fitsWithout hs.revokable hp hp' hrfits)

end

theorem Sound.after (hs : Sound base h r n c) {call : Call} (ha : h.Allowed call) :
    ∃ r' n' c', Sound base (h.after call) r' n' c' := by
  cases call with
  | updateGapList receivedTSN tsnIsRevokable => exact hs.after_updateGapList ha
  | removeFromGapList removedTSN => exact hs.after_removeFromGapList ha
  | forwardCumAckTSN cumAckTSN => exact hs.after_forwardCumAckTSN ha
  | tryToAdvanceCumAckTSN => exact hs.after_tryToAdvanceCumAckTSN ha

theorem sound_initial (cumAckTSN : Tsn) : Sound (cumAckTSN - BitVec.ofNat 32 (2 ^ 31)) (initial cumAckTSN) [] [] [] := by
  have hnth : nth (cumAckTSN - BitVec.ofNat 32 (2 ^ 31)) (2 ^ 31) = cumAckTSN := BitVec.sub_add_cancel _ _
  have hempty (i : Nat) : ¬ Covers [] i := covers_nil i
  apply Sound.of_above
  · simp only [initial, setInitialCumAckTSN, hnth]
    rfl
  · exact .nil _
  · exact .nil _
  · exact .nil _
  · exact Nat.le_refl _
  · intro i _
    simp [hempty]
  · intro i _ hi
    exact absurd hi (hempty i)
  · intro i _ hi
    exact absurd hi (hempty i)
  · intro i _ hi
    cases hi
  · intro i _ hi
    cases hi

/-- As long as every call is one of those that do no harm, the lists stay consistent. -/
theorem everyState_consistent (cumAckTSN : Tsn) {calls : List Call}
    (h : Runs.EveryStep step Allowed (initial cumAckTSN) calls) :
    Runs.EveryState step Consistent (initial cumAckTSN) calls := by
  have hsound := h.everyState (p := fun h => ∃ r n c, Sound (cumAckTSN - BitVec.ofNat 32 (2 ^ 31)) h r n c)
    (fun h call h' hs ha hstep => by
      obtain ⟨r, n, c, hs⟩ := hs
      cases hstep
      exact hs.after ha) ⟨[], [], [], sound_initial cumAckTSN⟩
  intro calls₁ h₁ hpre hrun
  obtain ⟨r, n, c, hs⟩ := hsound calls₁ h₁ hpre hrun
  exact hs.consistent

theorem everyState_consistent_of_six_calls :
    Runs.EveryState step Consistent (initial 10) [.updateGapList 15 true, .updateGapList 12 false,
      .updateGapList 15 false, .updateGapList 11 true, .removeFromGapList 15, .tryToAdvanceCumAckTSN] :=
  everyState_consistent 10 (by
    have hstep {h : History} {call : Call} {calls : List Call} (ha : h.Allowed call)
        (hrest : Runs.EveryStep step Allowed (h.after call) calls) : Runs.EveryStep step Allowed h (call :: calls) := by
      refine Runs.everyStep_cons.mpr ⟨ha, fun h' hh' => ?_⟩
      cases hh'
      exact hrest
    refine hstep (by decide) (hstep (by decide) (hstep (by decide) (hstep (by decide) (hstep (by decide)
      (hstep (by decide) Runs.everyStep_nil))))))

/-- A TSN that has become non-revokable gets back into the revokable list. -/
theorem not_consistent_revokable_again :
    ¬ Runs.EveryState step Consistent (initial 0) [.updateGapList 5 false, .updateGapList 5 true] := by
  intro h
  have hlast := h _ _ (prefix_refl _) rfl
  exact hlast.disjoint 5 (by decide)

end SCTPGapList.History

end Inet.Sctp
