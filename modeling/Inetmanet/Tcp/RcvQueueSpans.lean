import Inetmanet.Lib.SpanList
import Inetmanet.Tcp.RcvQueue

/-!
# The receive queue as a list of spans

Positions in the stream are natural numbers, counted from an arbitrary base
number. While everything in the queue lies within half of the sequence space,
the region list is the list of separated spans of the positions that have
arrived and have not been extracted, each carrying what its region class
carries for that span.
-/
namespace Inet.Tcp

open SerialNumber SpanList RegionClass List Span

variable {ρ : Type} {base : SeqNo} {Fits : Span → Span → Prop} {region : Span → ρ}

/-- `region s` is what a queue of this class holds for the span `s`. Whether
`merge` gets the hull right may depend on how the two regions fit. -/
structure Depicts [RegionClass ρ] (base : SeqNo) (Fits : Span → Span → Prop) (region : Span → ρ) : Prop where
  getBegin : ∀ s, getBegin (region s) = nth base s.lo
  getEnd : ∀ s, getEnd (region s) = nth base s.hi
  merge : ∀ s r : Span, s.lo < s.hi → r.lo < r.hi → ¬ s.Apart r → ¬ r.Apart s →
    (s.hull r).hi ≤ (s.hull r).lo + 2 ^ 31 → Fits s r →
    merge (region s) (region r) = .ok (some (region (s.hull r)))
  /-- A region that ends inside the other one fits whatever comes behind it. -/
  grow : ∀ (s r : Span) (hi : Nat), r.hi < hi → Fits s r → Fits ⟨s.lo, hi⟩ r
  split : ∀ (s : Span) (m : Nat), s.lo < m → m < s.hi → s.hi ≤ s.lo + 2 ^ 31 →
    split (region s) (nth base m) = .ok (region ⟨s.lo, m⟩, region ⟨m, s.hi⟩)

/-- The span lies within the half of the sequence space that starts at `low`. -/
def InWindow (low : Nat) (s : Span) : Prop := low ≤ s.lo ∧ s.hi ≤ low + 2 ^ 31

variable {s r : Span}

namespace Depicts

variable [RegionClass ρ]

section

variable (h : Depicts base Fits region)
include h

theorem compare_sides {low : Nat}
    (hr : r.lo < r.hi) (hs : s.lo < s.hi) (hrw : InWindow low r) (hsw : InWindow low s) :
    (compare (region r) (region s) = .before ↔ r.hi < s.lo) ∧
      (compare (region r) (region s) = .after ↔ s.hi < r.lo) := by
  simp only [InWindow] at hrw hsw
  simp (disch := omega) only [compare, h.getBegin, h.getEnd, nth_eq_nth, seqLess_nth]
  split
  · simp only [reduceCtorEq, false_iff]; omega
  · split
    · simp only [reduceCtorEq, false_iff]; omega
    · split
      · simp only [reduceCtorEq, false_iff, true_iff]; omega
      · split
        · simp only [reduceCtorEq, false_iff, true_iff]; omega
        · simp only [reduceCtorEq, false_iff]; omega

/-- The loop of `merge` is the insertion of a span. -/
theorem mergeFrom_region {l : List Span} {low : Nat}
    (hs : s.lo < s.hi) (hsw : InWindow low s) (hne : ∀ r ∈ l, r.lo < r.hi)
    (hlw : ∀ r ∈ l, InWindow low r) (hl : l.Pairwise fun a b => b.Apart a)
    (hfit : ∀ r ∈ l, ¬ s.Apart r → ¬ r.Apart s → Fits s r) :
    mergeFrom (region s) (l.map region) = .ok ((absorb s l).map region) := by
  induction l generalizing s with
  | nil => rfl
  | cons r l ih =>
    have hr := hne r (by simp)
    have hrw := hlw r (by simp)
    have hne' : ∀ t ∈ l, t.lo < t.hi := fun t ht => hne t (by simp [ht])
    have hlw' : ∀ t ∈ l, InWindow low t := fun t ht => hlw t (by simp [ht])
    obtain ⟨hrl, hl'⟩ := pairwise_cons.mp hl
    obtain ⟨hb, ha⟩ := h.compare_sides hr hs hrw hsw
    simp only [map_cons, mergeFrom, absorb, hb, ne_eq, ha]
    by_cases h₁ : r.hi < s.lo
    · simp [h₁]
    · by_cases h₂ : s.hi < r.lo
      · have hrest := ih hs hsw hne' hlw' hl' fun t ht => hfit t (by simp [ht])
        simp [h₁, h₂, hrest, bind, Except.bind, pure, Except.pure]
      · have hm := h.merge s r hs hr h₂ h₁
          (by simp only [InWindow, hull_lo, hull_hi] at *; omega)
          (hfit r (by simp) h₂ h₁)
        have hhull : InWindow low (s.hull r) := by
          simp only [InWindow, hull_lo, hull_hi] at *; omega
        -- a span left of `r` that the hull touches lies right of the start of `s`
        have hrest := ih (s := s.hull r) (by simp only [hull_lo, hull_hi]; omega) hhull
          hne' hlw' hl' (by
            intro t ht _ htouch
            have hap := hrl t ht
            have htne := hne' t ht
            simp only [Apart, hull_lo] at hap htouch
            have hlo : min s.lo r.lo = s.lo := by omega
            have hfit' := hfit t (by simp [ht]) (by simp only [Apart]; omega)
              (by simp only [Apart]; omega)
            have hgrow := h.grow s t (max s.hi r.hi) (by omega) hfit'
            simpa [hull, hlo] using hgrow)
        simp [h₁, h₂, hm, hrest, bind, Except.bind]

theorem merge_region {l : List Span} {low : Nat}
    {q : TCPVirtualDataRcvQueue ρ} (hq : q.regionList = l.map region) (hl : Separated l)
    (hs : s.lo < s.hi) (hsw : InWindow low s) (hlw : ∀ r ∈ l, InWindow low r)
    (hfit : ∀ r ∈ l, ¬ s.Apart r → ¬ r.Apart s → Fits s r) :
    q.merge (region s) = .ok ((SpanList.insert s l).map region) := by
  have hm := h.mergeFrom_region (l := l.reverse) hs hsw (by simpa using hl.nonempty)
    (by simpa using hlw) (pairwise_reverse.mpr hl.apart) (by simpa using hfit)
  simp [TCPVirtualDataRcvQueue.merge, SpanList.insert, hq, ← map_reverse, hm, bind,
    Except.bind, pure, Except.pure]

end

end Depicts

/-- `n` is the first position from `start` on that no segment has covered. -/
structure FirstMissing (start : Nat) (seen : Nat → Prop) (n : Nat) : Prop where
  start_le : start ≤ n
  missing : ¬ seen n
  seen_below : ∀ i, start ≤ i → i < n → seen i

theorem FirstMissing.unique {start m n : Nat} {seen : Nat → Prop}
    (hm : FirstMissing start seen m) (hn : FirstMissing start seen n) : m = n := by
  rcases Nat.lt_trichotomy m n with h | h | h
  · exact absurd (hn.seen_below m hm.start_le h) hm.missing
  · exact h
  · exact absurd (hm.seen_below n hn.start_le h) hn.missing

/-- `s` is a maximal run of positions that have arrived and are not extracted. -/
structure Buffered (seen : Nat → Prop) (low : Nat) (s : Span) : Prop where
  nonempty : s.lo < s.hi
  arrived : ∀ i, s.Has i → seen i ∧ low ≤ i
  missing_end : ¬ seen s.hi
  missing_before : ∀ i, i + 1 = s.lo → low ≤ i → ¬ seen i

/-- The queue after the positions in `seen` arrived and those below `low` were
extracted. -/
structure Tracks (base : SeqNo) (region : Span → ρ) (start : Nat) (seen : Nat → Prop)
    (low rcv : Nat) (spans : List Span) (q : TCPVirtualDataRcvQueue ρ) : Prop where
  rcvNxt : q.rcvNxt = nth base rcv
  regionList : q.regionList = spans.map region
  separated : Separated spans
  covers : ∀ i, Covers spans i ↔ seen i ∧ low ≤ i
  first : FirstMissing start seen rcv
  start_le : start ≤ low
  low_le : low ≤ rcv
  window : ∀ s ∈ spans, s.hi ≤ low + 2 ^ 31

namespace Tracks

open TCPVirtualDataRcvQueue

variable {start low rcv : Nat} {seen : Nat → Prop} {spans : List Span}
  {q : TCPVirtualDataRcvQueue ρ}

theorem init (base : SeqNo) (region : Span → ρ) (start : Nat) :
    Tracks base region start (fun _ => False) start start []
      (init (nth base start)) where
  rcvNxt := rfl
  regionList := rfl
  separated := Separated.nil
  covers := by simp
  first := ⟨Nat.le_refl _, id, fun i h₁ h₂ => absurd h₁ (Nat.not_le.mpr h₂)⟩
  start_le := Nat.le_refl _
  low_le := Nat.le_refl _
  window := by simp

section

variable (h : Tracks base region start seen low rcv spans q)
include h

theorem within : ∀ s ∈ spans, InWindow low s := by
  intro s hs
  have hne := h.separated.nonempty s hs
  have hlo := (h.covers s.lo).mp ⟨s, hs, Nat.le_refl _, hne⟩
  exact ⟨hlo.2, h.window s hs⟩

/-- A span either ends at the first missing position or begins behind it. -/
theorem hi_eq_or_lt (hs : s ∈ spans) : s.lo < rcv ∧ s.hi ≤ rcv ∨ rcv < s.lo := by
  have hmiss : ¬ Covers spans rcv := fun hc => h.first.missing ((h.covers rcv).mp hc).1
  have hnot : ¬ s.Has rcv := fun hh => hmiss ⟨s, hs, hh⟩
  have hne := h.separated.nonempty s hs
  simp only [Has] at hnot
  omega

/-- What has arrived in order and not been extracted is the first span. -/
theorem front (hlt : low < rcv) : ∃ l, spans = ⟨low, rcv⟩ :: l ∧ ∀ s ∈ l, rcv < s.lo := by
  have hcov : ∀ i, low ≤ i → i < rcv → Covers spans i := fun i h₁ h₂ =>
    (h.covers i).mpr ⟨h.first.seen_below i (Nat.le_trans h.start_le h₁) h₂, h₁⟩
  have hsep := h.separated
  cases spans with
  | nil => exact absurd (hcov low (Nat.le_refl _) hlt) (by simp)
  | cons s l =>
    have hs := (h.within s (by simp)).1
    have hlo : s.lo = low := Nat.le_antisymm (hsep.head_le (hcov low (Nat.le_refl _) hlt)) hs
    have hhi : rcv ≤ s.hi := by
      by_cases hge : rcv ≤ s.hi
      · exact hge
      · have hne := hsep.nonempty s (by simp)
        exact absurd (hcov s.hi (by omega) (by omega)) hsep.head_end
    have hs' : s = ⟨low, rcv⟩ := by
      cases h.hi_eq_or_lt (s := s) (by simp) with
      | inl hle =>
        cases s
        simp only [Span.mk.injEq] at *
        omega
      | inr hgt => omega
    refine ⟨l, by rw [hs'], ?_⟩
    intro t ht
    have hap := (Separated.cons_iff.mp hsep).2.1 t ht
    simp only [hs', Apart] at hap
    exact hap

theorem rcv_le : rcv ≤ low + 2 ^ 31 := by
  by_cases hlt : low < rcv
  · obtain ⟨l, hl, -⟩ := h.front hlt
    exact h.window ⟨low, rcv⟩ (by simp [hl])
  · omega

/-- Where everything in order has been extracted, the spans begin behind it. -/
theorem lt_of_low_eq (heq : low = rcv) : ∀ s ∈ spans, rcv < s.lo := by
  intro s hs
  have hw := (h.within s hs).1
  cases h.hi_eq_or_lt hs with
  | inl hle => omega
  | inr hgt => exact hgt

/-- The spans are the maximal runs of buffered positions. -/
theorem buffered (hs : s ∈ spans) : Buffered seen low s where
  nonempty := h.separated.nonempty s hs
  arrived i hi := (h.covers i).mp ⟨s, hs, hi⟩
  missing_end hseen := by
    have hlo := (h.within s hs).1
    have hne := h.separated.nonempty s hs
    exact h.separated.at_end hs ((h.covers s.hi).mpr ⟨hseen, by omega⟩)
  missing_before i hi hlow hseen :=
    h.separated.before_start hs hi ((h.covers i).mpr ⟨hseen, hlow⟩)

end

variable [RegionClass ρ]

section

variable (hd : Depicts base Fits region)
include hd

section

variable (h : Tracks base region start seen low rcv spans q)
include h

/-- The range check rejects exactly what ends more than half of the sequence
space behind the first position that is not extracted. -/
theorem outOfRange_iff (hs : s.lo < s.hi) (hlo : rcv ≤ s.lo) (hhi : s.hi < rcv + 2 ^ 31) :
    q.outOfRange (region s) ↔ low + 2 ^ 31 < s.hi := by
  have hle := h.low_le
  cases spans with
  | nil =>
    have hlow : low = rcv := by
      by_cases hlt : low < rcv
      · obtain ⟨l, hl, -⟩ := h.front hlt
        simp at hl
      · omega
    simp only [outOfRange, h.regionList, map_nil, List.head?_nil,
      false_iff]
    omega
  | cons f l =>
    obtain ⟨g, hg⟩ : ∃ g, (f :: l).getLast? = some g :=
      ⟨_, List.getLast?_eq_some_getLast (cons_ne_nil f l)⟩
    have hgm := mem_of_getLast? hg
    have hgw := h.within g hgm
    have hgne := h.separated.nonempty g hgm
    have hfw := h.within f (by simp)
    have hfne := h.separated.nonempty f (by simp)
    have hfg : f.lo ≤ g.lo ∧ f.hi ≤ g.hi := by
      cases h.separated.eq_or_apart_last hg f (by simp) with
      | inl heq => simp [heq]
      | inr hap => simp only [Apart] at hap; omega
    have hcase : low < rcv ∧ f.lo = low ∧ f.hi = rcv ∨ low = rcv ∧ rcv < f.lo := by
      by_cases hlt : low < rcv
      · obtain ⟨l', hl', -⟩ := h.front hlt
        simp only [List.cons.injEq] at hl'
        simp [hl'.1, hlt]
      · exact .inr ⟨by omega, h.lt_of_low_eq (by omega) f (by simp)⟩
    simp only [InWindow] at hfw hgw
    have hmax : seqMax (nth base g.hi) (nth base s.hi) = nth base (max g.hi s.hi) :=
      seqMax_nth (by omega) (by omega)
    simp only [outOfRange, h.regionList, List.head?_map, List.getLast?_map,
      List.head?_cons, hg, Option.map_some, hd.getBegin, hd.getEnd, hmax]
    by_cases hfar : f.lo + 2 ^ 31 ≤ s.lo
    · -- the smaller of the two starts is taken to be the one of the new span
      rw [seqMin_nth_of_far hfar (by omega), seqGE_nth (m := s.lo) (n := g.hi) (by omega) (by omega)]
      simp only [show g.hi ≤ s.lo by omega, true_or, true_iff]
      omega
    · rw [seqMin_nth (m := f.lo) (n := s.lo) (by omega) (by omega)]
      by_cases hlong : low + 2 ^ 31 < s.hi
      · have hge : seqGE (nth base (min f.lo s.lo)) (nth base s.hi) :=
          seqGE_nth_of_far (by omega) (by omega)
        exact iff_of_true (.inr (.inl hge)) hlong
      · simp (disch := omega) only [seqGE_nth, hlong, iff_false]
        omega

/-- A segment for `s` that passes the range check extends the tracked set by `s`. -/
theorem insert {tcpseg : TCPSegment}
    (hseg : createRegionFromSegment tcpseg = .ok (region s)) (hs : s.lo < s.hi)
    (hlo : rcv ≤ s.lo) (hhi : s.hi < rcv + 2 ^ 31) (hwin : s.hi ≤ low + 2 ^ 31)
    (hfit : ∀ r ∈ spans, ¬ s.Apart r → ¬ r.Apart s → Fits s r) :
    ∃ rcv' q', q.insertBytesFromSegment tcpseg = .ok q' ∧
      Tracks base region start (fun i => seen i ∨ s.Has i) low rcv' (SpanList.insert s spans) q' := by
  have hle := h.low_le
  have hsw : InWindow low s := ⟨by omega, hwin⟩
  have hrange : ¬ q.outOfRange (region s) := by
    rw [h.outOfRange_iff hd hs hlo hhi]
    omega
  have hmerge := hd.merge_region h.regionList h.separated hs hsw h.within hfit
  have hsep : Separated (SpanList.insert s spans) := h.separated.insert hs
  have hcov : ∀ i, Covers (SpanList.insert s spans) i ↔ (seen i ∨ s.Has i) ∧ low ≤ i := by
    intro i
    rw [covers_insert, h.covers i]
    constructor
    · rintro (hi | hi)
      · exact ⟨.inr hi, Nat.le_trans hsw.1 hi.1⟩
      · exact ⟨.inl hi.1, hi.2⟩
    · rintro ⟨hi | hi, hl⟩
      · exact .inr ⟨hi, hl⟩
      · exact .inl hi
  have hwindow : ∀ r ∈ SpanList.insert s spans, r.hi ≤ low + 2 ^ 31 :=
    insert_hi_le hwin h.window
  obtain ⟨f, l, hfl⟩ : ∃ f l, SpanList.insert s spans = f :: l := by
    cases hins : SpanList.insert s spans with
    | nil =>
      have hc := (covers_insert s spans s.lo).mpr (.inl ⟨Nat.le_refl _, hs⟩)
      simp [hins] at hc
    | cons f l => exact ⟨f, l, rfl⟩
  rw [hfl] at hsep hcov hwindow hmerge ⊢
  have hflo : low ≤ f.lo :=
    ((hcov f.lo).mp (by simp [Has, hsep.nonempty f (by simp)])).2
  have hfne := hsep.nonempty f (by simp)
  have hfhi := hwindow f (by simp)
  have hrun : q.insertBytesFromSegment tcpseg =
      .ok ⟨if f.lo ≤ rcv then nth base f.hi else nth base rcv, (f :: l).map region⟩ := by
    have hge : seqGE (nth base rcv) (nth base f.lo) ↔ f.lo ≤ rcv :=
      seqGE_nth (by omega) (by omega)
    simp [insertBytesFromSegment, hseg, hrange, hmerge, bind, Except.bind,
      pure, Except.pure, hge, hd.getBegin, hd.getEnd, h.rcvNxt]
  -- the first missing position moves when the first span reaches it
  have hbelow : ∀ i, start ≤ i → i < rcv → seen i ∨ s.Has i := fun i h₁ h₂ =>
    .inl (h.first.seen_below i h₁ h₂)
  by_cases hreach : f.lo ≤ rcv
  · refine ⟨f.hi, _, hrun, ?_⟩
    have hstart := h.start_le
    have hmiss : ¬ (seen f.hi ∨ s.Has f.hi) := fun hseen =>
      hsep.head_end ((hcov f.hi).mpr ⟨hseen, by omega⟩)
    have hfirst : FirstMissing start (fun i => seen i ∨ s.Has i) f.hi := by
      refine ⟨by omega, hmiss, ?_⟩
      intro i h₁ h₂
      by_cases hi : i < rcv
      · exact hbelow i h₁ hi
      · exact ((hcov i).mp (by simp only [covers_cons, Has]; omega)).1
    exact ⟨by simp [hreach], rfl, hsep, hcov, hfirst, hstart, by omega, hwindow⟩
  · refine ⟨rcv, _, hrun, ?_⟩
    have hmiss : ¬ (seen rcv ∨ s.Has rcv) := by
      intro hseen
      have hc := hsep.head_le ((hcov rcv).mpr ⟨hseen, hle⟩)
      exact hreach hc
    exact ⟨by simp [hreach], rfl, hsep, hcov, ⟨h.first.start_le, hmiss, hbelow⟩, h.start_le, hle,
      hwindow⟩

/-- Nothing to extract: what is asked for does not reach into the first span. -/
theorem extractTo_none {off : Nat}
    (hoff : off ≤ low) (hrcv : rcv < off + 2 ^ 31)
    (hbuf : spans ≠ [] → ∃ i, i < off + 2 ^ 31 ∧ seen i ∧ low ≤ i) :
    q.extractTo (nth base off) = .ok (none, q) := by
  have hle := h.low_le
  have hass : seqLE (nth base off) q.rcvNxt := by
    rw [h.rcvNxt, seqLE_nth (by omega) (by omega)]
    omega
  cases spans with
  | nil => simp [extractTo, hass, h.regionList, bind, Except.bind, pure,
      Except.pure]
  | cons f l =>
    obtain ⟨i, hi, hseen, hlow⟩ := hbuf (by simp)
    have hfi := h.separated.head_le ((h.covers i).mpr ⟨hseen, hlow⟩)
    have hfw := (h.within f (by simp)).1
    have hbegin : seqLE (nth base off) (nth base f.lo) := by
      rw [seqLE_nth (by omega) (by omega)]
      omega
    simp [extractTo, hass, h.regionList, hd.getBegin, hbegin, bind,
      Except.bind, pure, Except.pure]

/-- Nothing to extract: everything in order has been extracted. -/
theorem extractTo_none_of_eq (heq : low = rcv) :
    q.extractTo (nth base rcv) = .ok (none, q) := by
  apply h.extractTo_none hd (Nat.le_of_eq heq.symm) (by omega)
  intro hne
  obtain ⟨f, l, hfl⟩ := exists_cons_of_ne_nil hne
  have hmem : f ∈ spans := by simp [hfl]
  have hf := h.separated.nonempty f hmem
  have hw := h.window f hmem
  exact ⟨f.lo, by omega, (h.covers f.lo).mp ⟨f, hmem, Nat.le_refl _, hf⟩⟩

/-- The positions from `low` up to what is asked for are extracted in one region. -/
theorem extractTo_some {off : Nat}
    (hlow : low < off) (hoff : off ≤ rcv) :
    ∃ spans' q', q.extractTo (nth base off) = .ok (some (region ⟨low, off⟩), q') ∧
      Tracks base region start seen off rcv spans' q' := by
  obtain ⟨l, hl, hbehind⟩ := h.front (by omega)
  have hwin := h.window ⟨low, rcv⟩ (by simp [hl])
  have hsep := h.separated
  rw [hl] at hsep
  simp only at hwin
  have hcov : ∀ i, Covers l i ↔ seen i ∧ rcv ≤ i := by
    intro i
    have hi := h.covers i
    rw [hl, covers_cons] at hi
    constructor
    · intro hc
      obtain ⟨s, hs, hsi⟩ := hc
      have hlt := hbehind s hs
      have hlo := hsi.1
      exact ⟨(hi.mp (.inr ⟨s, hs, hsi⟩)).1, by omega⟩
    · rintro ⟨hseen, hge⟩
      exact (hi.mpr ⟨hseen, by omega⟩).resolve_left fun hh => absurd hh.2 (by simp; omega)
  have hwin' : ∀ s ∈ l, s.hi ≤ off + 2 ^ 31 := fun s hs =>
    Nat.le_trans (h.window s (by simp [hl, hs])) (by omega)
  have hstart := h.start_le
  have hass : seqLE (nth base off) (nth base rcv) := by rwa [seqLE_nth (by omega) (by omega)]
  have hbegin : ¬ seqLE (nth base off) (nth base low) := by
    rw [seqLE_nth (by omega) (by omega)]
    omega
  have hend : seqGE (nth base off) (nth base rcv) ↔ rcv ≤ off := seqGE_nth (by omega) (by omega)
  by_cases hall : rcv ≤ off
  · have heq : off = rcv := by omega
    subst heq
    refine ⟨l, { q with regionList := l.map region }, ?_, h.rcvNxt, rfl, hsep.tail, hcov, h.first,
      by omega, hoff, hwin'⟩
    simp [extractTo, h.regionList, h.rcvNxt, hl, hd.getBegin, hd.getEnd,
      hass, hbegin, hend, bind, Except.bind, pure, Except.pure]
  · have hsplit := hd.split ⟨low, rcv⟩ off hlow (by simp; omega) hwin
    have hsep' : Separated (⟨off, rcv⟩ :: l) :=
      Separated.cons_iff.mpr ⟨by simp; omega, hbehind, hsep.tail⟩
    have hcov' : ∀ i, Covers (⟨off, rcv⟩ :: l) i ↔ seen i ∧ off ≤ i := by
      intro i
      rw [covers_cons, hcov]
      constructor
      · rintro (hi | hi)
        · exact ⟨h.first.seen_below i (by have := hi.1; simp at this; omega) hi.2, hi.1⟩
        · exact ⟨hi.1, by omega⟩
      · rintro ⟨hseen, hge⟩
        by_cases hi : i < rcv
        · exact .inl ⟨hge, hi⟩
        · exact .inr ⟨hseen, by omega⟩
    refine ⟨⟨off, rcv⟩ :: l, { q with regionList := (⟨off, rcv⟩ :: l).map region }, ?_, h.rcvNxt, rfl,
      hsep', hcov', h.first, by omega, hoff, by simpa using ⟨by omega, hwin'⟩⟩
    simp [extractTo, h.regionList, h.rcvNxt, hl, hd.getBegin, hd.getEnd,
      hass, hbegin, hend, hall, hsplit, bind, Except.bind, pure, Except.pure]

end

end

end Tracks

end Inet.Tcp
