import Inetmanet.Lib.SpanList
import Inetmanet.Sctp.SCTPGapList

/-!
# The blocks of a simple gap list

A gap list stands for separated spans of positions ahead of the cumulative TSN. One
lemma for each operation: which positions the blocks cover afterwards.
-/
namespace Inet.Sctp

open SerialNumber SpanList List Separated Gap

def Gap.ofSpan (base : Tsn) (s : Span) : Gap := ⟨nth base s.lo, nth base (s.hi - 1)⟩

namespace SCTPSimpleGapList

def ofSpans (base : Tsn) (l : List Span) : SCTPSimpleGapList := ⟨l.map (Gap.ofSpan base)⟩

/-- The spans lie in the window behind position `cum`. -/
structure InWindow (cum : Nat) (l : List Span) : Prop where
  separated : Separated l
  above : ∀ s ∈ l, cum < s.lo
  window : ∀ s ∈ l, s.hi ≤ cum + 2 ^ 31
  count : l.length ≤ MAX_GAP_COUNT

variable {base : Tsn} {cum : Nat} {l : List Span}

variable {n p cum' : Nat} {s : Span}

theorem nth_pred (h : 0 < n) : nth base n - 1 = nth base (n - 1) := by
  obtain ⟨m, rfl⟩ := Nat.exists_eq_add_of_le' h
  rw [nth_succ, Nat.add_sub_cancel]
  grind

theorem nth_pred_succ (h : 0 < n) : nth base (n - 1) + 1 = nth base n := by
  rw [← nth_succ, Nat.sub_add_cancel h]

theorem InWindow.nil (cum : Nat) : InWindow cum [] := ⟨.nil, by simp, by simp, by simp⟩

theorem InWindow.tail (h : InWindow cum (s :: l)) : InWindow cum l :=
  ⟨h.separated.tail, fun t ht => h.above t (mem_cons_of_mem _ ht),
    fun t ht => h.window t (mem_cons_of_mem _ ht), Nat.le_of_succ_le h.count⟩

section

variable (h : InWindow cum l)
include h

theorem InWindow.covers {i : Nat} (hi : Covers l i) : cum < i ∧ i < cum + 2 ^ 31 := by
  obtain ⟨s, hs, hsi⟩ := hi
  exact ⟨Nat.lt_of_lt_of_le (h.above s hs) hsi.1, Nat.lt_of_lt_of_le hsi.2 (h.window s hs)⟩

/-- The TSN at a position of the window, or behind it, is in a block exactly if the position is covered. -/
theorem tsnBetween_ofSpan (hs : s ∈ l) (hp : cum ≤ p) (hp' : p < cum + 2 ^ 32) :
    tsnBetween (ofSpan base s).start (nth base p) (ofSpan base s).stop ↔ s.Has p := by
  have hne := h.separated.nonempty s hs
  have habove := h.above s hs
  have hwindow := h.window s hs
  rw [ofSpan, tsnBetween_nth base (by omega) (by omega) (by omega) (by omega), Span.Has]
  omega

theorem tsnInGapList_ofSpans (hp : cum ≤ p) (hp' : p < cum + 2 ^ 32) :
    (ofSpans base l).tsnInGapList (nth base p) ↔ Covers l p := by
  constructor
  · rintro ⟨g, hg, hb⟩
    obtain ⟨s, hs, rfl⟩ := mem_map.mp hg
    exact ⟨s, hs, (tsnBetween_ofSpan h hs hp hp').mp hb⟩
  · rintro ⟨s, hs, hb⟩
    exact ⟨ofSpan base s, mem_map_of_mem hs, (tsnBetween_ofSpan h hs hp hp').mpr hb⟩

/-- The position behind the cumulative TSN is free exactly if no block starts there. -/
theorem InWindow.apart_iff : (∀ s ∈ l, cum + 1 < s.lo) ↔ ¬ Covers l (cum + 1) := by
  constructor
  · rintro hall ⟨s, hs, hsi⟩
    exact absurd hsi.1 (Nat.not_le.mpr (hall s hs))
  · intro hnot s hs
    have habove := h.above s hs
    have hne := h.separated.nonempty s hs
    rcases Nat.lt_or_eq_of_le (Nat.succ_le_of_lt habove) with hlt | heq
    · exact hlt
    · exact absurd ⟨s, hs, Nat.le_of_eq heq.symm, by omega⟩ hnot

/-- What is left of the spans when the cumulative TSN goes on to `cum'`. -/
theorem forwardCumAckTSN_ofSpans (hle : cum ≤ cum') (hlt : cum' < cum + 2 ^ 31) :
    (ofSpans base l).forwardCumAckTSN (nth base cum') = ofSpans base (l.dropWhile fun s => s.lo ≤ cum') := by
  have hgo (m : List Span) (hm : ∀ s ∈ m, s ∈ l) :
      (m.map (ofSpan base)).dropWhile (fun g => decide (tsnGe (nth base cum') g.start)) =
        (m.dropWhile fun s => decide (s.lo ≤ cum')).map (ofSpan base) := by
    induction m with
    | nil => rfl
    | cons s m ih =>
      have hs := hm s (mem_cons_self ..)
      have habove := h.above s hs
      have hne := h.separated.nonempty s hs
      have hwindow := h.window s hs
      have hge : tsnGe (nth base cum') (ofSpan base s).start ↔ s.lo ≤ cum' :=
        tsnGe_nth base (by omega) (by omega)
      rw [map_cons, dropWhile_cons, dropWhile_cons]
      simp only [hge]
      by_cases hlo : s.lo ≤ cum'
      · rw [if_pos (by simpa using hlo), if_pos (by simpa using hlo)]
        exact ih fun t ht => hm t (mem_cons_of_mem _ ht)
      · rw [if_neg (by simpa using hlo), if_neg (by simpa using hlo)]
        rfl
  exact congrArg SCTPSimpleGapList.mk (hgo l fun s hs => hs)

/-- No span is cut in two. -/
theorem InWindow.forward (hle : cum ≤ cum')
    (hcut : ∀ s ∈ l, s.lo ≤ cum' → s.hi ≤ cum' + 1) :
    InWindow cum' (l.dropWhile fun s => s.lo ≤ cum') ∧
      ∀ i, cum' < i → (Covers (l.dropWhile fun s => s.lo ≤ cum') i ↔ Covers l i) := by
  have hsub : (l.dropWhile fun s => decide (s.lo ≤ cum')).Sublist l := dropWhile_sublist _
  have hbelow : ∀ s ∈ l.takeWhile fun s => decide (s.lo ≤ cum'), s.lo ≤ cum' := fun s hs => by
    simpa using all_eq_true.mp (all_takeWhile (p := fun s : Span => decide (s.lo ≤ cum')) (l := l)) s hs
  have hsplit := takeWhile_append_dropWhile (p := fun s : Span => decide (s.lo ≤ cum')) (l := l)
  have habove : ∀ s ∈ l.dropWhile fun s => decide (s.lo ≤ cum'), cum' < s.lo := by
    cases hd : l.dropWhile fun s => decide (s.lo ≤ cum') with
    | nil => simp
    | cons t m =>
      have ht : cum' < t.lo := by
        have := head_dropWhile_not (fun s : Span => decide (s.lo ≤ cum')) (l := l)
          (by rw [hd]; exact cons_ne_nil _ _)
        simpa [hd] using this
      have hsep := h.separated.sublist hsub
      rw [hd] at hsep
      obtain ⟨hne, hap, -⟩ := cons_iff.mp hsep
      intro s hs
      cases mem_cons.mp hs with
      | inl heq => exact heq ▸ ht
      | inr hmem =>
        have := hap s hmem
        simp only [Span.Apart] at this
        omega
  constructor
  · refine ⟨h.separated.sublist hsub, habove, fun s hs => ?_, Nat.le_trans hsub.length_le h.count⟩
    exact Nat.le_trans (h.window s (hsub.subset hs)) (by omega)
  · intro i hi
    constructor
    · rintro ⟨s, hs, hsi⟩
      exact ⟨s, hsub.subset hs, hsi⟩
    · rintro ⟨s, hs, hsi⟩
      refine ⟨s, ?_, hsi⟩
      rw [← hsplit] at hs
      refine (mem_append.mp hs).resolve_left fun hfront => ?_
      have hlo := hbelow s hfront
      have hhi := hcut s (hsplit ▸ hs) hlo
      have := hsi.2
      omega

end

/-- The spans `m` take the place of span `s`. -/
theorem InWindow.replace {front m back : List Span} (h : InWindow cum (front ++ s :: back)) (hm : Separated m)
    (hin : ∀ t ∈ m, s.lo ≤ t.lo ∧ t.hi ≤ s.hi) (hcount : (front ++ (m ++ back)).length ≤ MAX_GAP_COUNT) :
    InWindow cum (front ++ (m ++ back)) := by
  obtain ⟨hsepF, hsepB, hFB⟩ := append_iff.mp h.separated
  obtain ⟨-, hsB, hsepB'⟩ := cons_iff.mp hsepB
  have habove := h.above s (by simp)
  have hwindow := h.window s (by simp)
  have hcases (t : Span) (ht : t ∈ front ++ (m ++ back)) : t ∈ m ∨ t ∈ front ++ s :: back := by
    simp only [mem_append, mem_cons] at ht ⊢
    tauto
  constructor
  · refine append_iff.mpr ⟨hsepF, append_iff.mpr ⟨hm, hsepB', fun t ht u hu => ?_⟩, fun t ht u hu => ?_⟩
    · have := hsB u hu
      have := hin t ht
      simp only [Span.Apart] at *
      omega
    · cases mem_append.mp hu with
      | inl hum =>
        have := hFB t ht s (mem_cons_self ..)
        have := hin u hum
        simp only [Span.Apart] at *
        omega
      | inr hub => exact hFB t ht u (mem_cons_of_mem _ hub)
  · intro t ht
    cases hcases t ht with
    | inl htm => exact Nat.lt_of_lt_of_le habove (hin t htm).1
    | inr hold => exact h.above t hold
  · intro t ht
    cases hcases t ht with
    | inl htm => exact Nat.le_trans (hin t htm).2 hwindow
    | inr hold => exact h.window t hold
  · exact hcount

/-- Taking position `p` out of the middle of a block does not need more blocks than there can be. -/
def SplitRoom (p : Nat) (l : List Span) : Prop := l.length < MAX_GAP_COUNT ∨ ∀ s ∈ l, ¬ (s.lo < p ∧ p + 1 < s.hi)

/-- The spans left of a span with more than one position. -/
def cutOut (p : Nat) (s : Span) : List Span :=
  if s.hi = p + 1 then [⟨s.lo, p⟩] else if s.lo = p then [⟨p + 1, s.hi⟩] else [⟨s.lo, p⟩, ⟨p + 1, s.hi⟩]

theorem cutOut_length (p : Nat) (s : Span) : (cutOut p s).length ≤ 2 := by
  unfold cutOut
  split
  · exact Nat.le_succ 1
  · split
    · exact Nat.le_succ 1
    · exact Nat.le_refl 2

theorem cutOut_length_of_edge (h : ¬ (s.lo < p ∧ p + 1 < s.hi)) (hp : s.Has p) :
    (cutOut p s).length = 1 := by
  have hlo := hp.1
  have hhi := hp.2
  unfold cutOut
  split
  · rfl
  · split
    · rfl
    · omega

theorem cutOut_separated (hp : s.Has p) (hsize : s.lo + 1 < s.hi) : Separated (cutOut p s) := by
  have hlo := hp.1
  have hhi := hp.2
  unfold cutOut
  split
  · exact cons_iff.mpr ⟨by simp only; omega, by simp, .nil⟩
  · split
    · exact cons_iff.mpr ⟨by simp only; omega, by simp, .nil⟩
    · refine cons_iff.mpr ⟨by simp only; omega, by simp [Span.Apart], ?_⟩
      exact cons_iff.mpr ⟨by simp only; omega, by simp, .nil⟩

theorem cutOut_inside (hp : s.Has p) : ∀ t ∈ cutOut p s, s.lo ≤ t.lo ∧ t.hi ≤ s.hi := by
  have hlo := hp.1
  have hhi := hp.2
  unfold cutOut
  split
  · simp only [mem_singleton, forall_eq]
    omega
  · split
    · simp only [mem_singleton, forall_eq]
      omega
    · simp only [mem_cons, not_mem_nil, or_false, forall_eq_or_imp, forall_eq]
      omega

theorem covers_cutOut (hp : s.Has p) (i : Nat) : Covers (cutOut p s) i ↔ s.Has i ∧ i ≠ p := by
  have hlo := hp.1
  have hhi := hp.2
  unfold cutOut
  split
  · simp only [covers_cons, covers_nil, Span.Has, or_false]
    omega
  · split
    · simp only [covers_cons, covers_nil, Span.Has, or_false]
      omega
    · simp only [covers_cons, covers_nil, Span.Has, or_false]
      omega

theorem removeFromGap_ofSpan (hp : s.Has p) (hpos : 0 < s.lo) (hsize : s.hi ≤ s.lo + 2 ^ 31)
    (back : List Span) :
    removeFromGap (nth base p) (ofSpan base s) (back.map (ofSpan base)) =
      (cutOut p s ++ back).map (ofSpan base) := by
  have hlo := hp.1
  have hhi := hp.2
  have hstop : nth base (s.hi - 1) = nth base p ↔ s.hi = p + 1 := by
    rw [nth_inj base (by omega) (by omega)]
    omega
  have hstart : nth base s.lo = nth base p ↔ s.lo = p := nth_inj base (by omega) (by omega)
  have hpred : nth base p - 1 = nth base (p - 1) := nth_pred (by omega)
  unfold removeFromGap cutOut
  simp only [ofSpan, hstop, hstart, hpred]
  split
  · rename_i heq
    simp only [singleton_append, map_cons, heq, Nat.add_sub_cancel, hpred, ofSpan]
  · split
    · rename_i heq
      simp only [singleton_append, map_cons, heq, nth_succ, ofSpan]
    · simp only [cons_append, nil_append, map_cons, nth_succ, ofSpan]

theorem gap_toInt (hne : s.lo < s.hi) (hsize : s.hi < s.lo + 2 ^ 31) :
    ((ofSpan base s).stop - (ofSpan base s).start + 1).toInt > 1 ↔ s.lo + 1 < s.hi := by
  have hd := toNat_nth_sub base (m := s.lo) (n := s.hi - 1) (by omega) (by omega)
  have hone : (1 : Tsn).toNat = 1 := rfl
  have hnat : ((ofSpan base s).stop - (ofSpan base s).start + 1).toNat = s.hi - s.lo := by
    rw [ofSpan, BitVec.toNat_add, hd, hone, Nat.mod_eq_of_lt (by omega)]
    omega
  rw [BitVec.toInt_eq_toNat_of_lt (by omega), hnat]
  omega

/-- By induction on the blocks the loop has not come to: it runs from the last to the first. -/
theorem removeLoop_ofSpans (base : Tsn) (front back : List Span) (h : InWindow cum (front.reverse ++ back)) (hp : cum ≤ p)
    (hp' : p < cum + 2 ^ 32) (hroom : SplitRoom p (front.reverse ++ back)) (hback : ¬ Covers back p) :
    ∃ l', removeLoop (nth base p) (front.map (ofSpan base)) (back.map (ofSpan base)) = l'.map (ofSpan base) ∧
      InWindow cum l' ∧ ∀ i, Covers l' i ↔ Covers (front.reverse ++ back) i ∧ i ≠ p := by
  induction front generalizing back with
  | nil =>
    refine ⟨back, rfl, h, fun i => ?_⟩
    constructor
    · intro hi
      exact ⟨hi, fun heq => hback (heq ▸ hi)⟩
    · exact And.left
  | cons s front ih =>
    have happ : (s :: front).reverse ++ back = front.reverse ++ s :: back := by simp
    rw [happ] at h hroom ⊢
    have hs : s ∈ front.reverse ++ s :: back := by simp
    have hne := h.separated.nonempty s hs
    have habove := h.above s hs
    have hwindow := h.window s hs
    rw [map_cons, removeLoop]
    by_cases hsp : s.Has p
    · obtain ⟨-, hsepB, hFB⟩ := append_iff.mp h.separated
      obtain ⟨-, hsB, -⟩ := cons_iff.mp hsepB
      have hothers (i : Nat) (hi : Covers (front.reverse ++ back) i) : i ≠ p := by
        obtain ⟨t, ht, hti⟩ := hi
        have hlo := hti.1
        have hhi := hti.2
        have hplo := hsp.1
        have hphi := hsp.2
        cases mem_append.mp ht with
        | inl hfront => have := hFB t hfront s (mem_cons_self ..); simp only [Span.Apart] at this; omega
        | inr hback => have := hsB t hback; simp only [Span.Apart] at this; omega
      have hcov (m : List Span) (hm : ∀ i, Covers m i ↔ s.Has i ∧ i ≠ p) (i : Nat) :
          Covers (front.reverse ++ (m ++ back)) i ↔ Covers (front.reverse ++ s :: back) i ∧ i ≠ p := by
        have hoi := hothers i
        simp only [covers_append, covers_cons, hm] at hoi ⊢
        tauto
      rw [if_pos ((tsnBetween_ofSpan h hs hp hp').mpr hsp)]
      by_cases hsize : s.lo + 1 < s.hi
      · rw [if_pos ((gap_toInt hne (by omega)).mpr hsize), removeFromGap_ofSpan hsp (by omega) (by omega)]
        have hcount : (front.reverse ++ (cutOut p s ++ back)).length ≤ MAX_GAP_COUNT := by
          have hold := h.count
          simp only [length_append, length_cons] at hold ⊢
          cases hroom with
          | inl hlt =>
            simp only [length_append, length_cons] at hlt
            have := cutOut_length p s
            omega
          | inr hnone =>
            have := cutOut_length_of_edge (hnone s hs) hsp
            omega
        refine ⟨_, ?_, h.replace (cutOut_separated hsp hsize) (cutOut_inside hsp) hcount, hcov _ (covers_cutOut hsp)⟩
        rw [← map_reverse, ← map_append, take_of_length_le (by simpa using hcount)]
      · rw [if_neg ((gap_toInt hne (by omega)).not.mpr hsize)]
        have hcount : (front.reverse ++ ([] ++ back)).length ≤ MAX_GAP_COUNT := by
          have hold := h.count
          simp only [length_append, length_cons, length_nil] at hold ⊢
          omega
        refine ⟨_, ?_, h.replace .nil (by simp) hcount, hcov [] fun i => ?_⟩
        · rw [← map_reverse, ← map_append, nil_append]
        · have hlo := hsp.1
          have hhi := hsp.2
          simp only [covers_nil, Span.Has, false_iff]
          omega
    · rw [if_neg ((tsnBetween_ofSpan h hs hp hp').not.mpr hsp)]
      refine ih (s :: back) h hroom ?_
      rw [covers_cons]
      exact fun hor => hor.elim hsp hback

theorem removeFromGapList_ofSpans (base : Tsn) (h : InWindow cum l) (hp : cum ≤ p) (hp' : p < cum + 2 ^ 32)
    (hroom : SplitRoom p l) :
    ∃ l', (ofSpans base l).removeFromGapList (nth base p) = ofSpans base l' ∧ InWindow cum l' ∧
      ∀ i, Covers l' i ↔ Covers l i ∧ i ≠ p := by
  have happ : l.reverse.reverse ++ [] = l := by simp
  obtain ⟨l', heq, hl'⟩ := removeLoop_ofSpans base l.reverse [] (happ.symm ▸ h) hp hp' (happ.symm ▸ hroom)
    (covers_nil p)
  refine ⟨l', ?_, happ ▸ hl'⟩
  rw [removeFromGapList, ofSpans, ← map_reverse]
  exact congrArg SCTPSimpleGapList.mk heq

/-- Nothing happens as long as the first block does not start behind the cumulative TSN. -/
theorem tryToAdvanceCumAckTSN_ofSpans (h : InWindow cum l) (hfree : ¬ Covers l (cum + 1)) :
    (ofSpans base l).tryToAdvanceCumAckTSN (nth base cum) = (ofSpans base l, nth base cum, false) := by
  have hstep : tryToAdvanceStep (ofSpans base l, nth base cum, false) = (ofSpans base l, nth base cum, false) := by
    cases l with
    | nil => rfl
    | cons s l =>
      have hs := h.apart_iff.mpr hfree s (mem_cons_self ..)
      have hne := h.separated.nonempty s (mem_cons_self ..)
      have hwin := h.window s (mem_cons_self ..)
      have hstart : nth base cum + 1 ≠ (ofSpan base s).start := by
        rw [← nth_succ, ofSpan, Ne, nth_inj base (by omega) (by omega)]
        omega
      exact if_neg hstart
  have hrepeat (n : Nat) : Nat.repeat tryToAdvanceStep n (ofSpans base l, nth base cum, false) =
      (ofSpans base l, nth base cum, false) := by
    induction n with
    | zero => rfl
    | succ n ih => rw [Nat.repeat, ih, hstep]
  exact hrepeat _

end SCTPSimpleGapList

end Inet.Sctp
