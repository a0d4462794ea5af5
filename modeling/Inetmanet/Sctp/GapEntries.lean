import Inetmanet.Sctp.GapBlocks

/-!
# Entering a TSN into a simple gap list

The loop looks for the gap between two blocks that holds the TSN. What it does there
is one of three things to the spans: a new one comes in, one grows, or the cumulative
TSN goes on over the first of them.
-/
namespace Inet.Sctp

open SerialNumber SpanList List Gap Separated Span

namespace SCTPSimpleGapList

variable {base : Tsn} {cum : Nat} {l : List Span}

/-- Position `p` has been entered: the cumulative TSN has gone from `cum` to `cum'`, the spans are now `l'`. -/
structure Entered (cum p : Nat) (l : List Span) (cum' : Nat) (l' : List Span) : Prop where
  inWindow : InWindow cum' l'
  apart : ∀ s ∈ l', cum' + 1 < s.lo
  le : cum ≤ cum'
  covers : ∀ i, cum' < i → (Covers l' i ↔ Covers l i ∨ i = p)
  passed : ∀ i, cum < i → i ≤ cum' → Covers l i ∨ i = p
  next : cum < cum' → p = cum + 1

/-- No span that starts at TSN 0 comes before the position is found; `lo` is the position behind the span before. -/
def Clear (base : Tsn) (p : Nat) : Nat → List Span → Prop
  | _, [] => True
  | lo, s :: l => (nth base s.lo = 0 → p < lo) ∧ Clear base p s.hi l

/-- There is room for a new block, or none is needed. -/
def Room (p : Nat) (l : List Span) : Prop := l.length < MAX_GAP_COUNT ∨ ∃ s ∈ l, s.lo ≤ p + 1 ∧ p ≤ s.hi

variable {back m : List Span} {lo p hi : Nat}

theorem start_pos_iff {s : Span} : (ofSpan base s).start > 0 ↔ nth base s.lo ≠ 0 := by
  change (0 : Tsn) < nth base s.lo ↔ _
  have hzero : (0 : Tsn).toNat = 0 := rfl
  rw [BitVec.lt_def, Ne, ← BitVec.toNat_inj]
  omega

theorem getLastD_ofSpan (front : List Span) (f : Span) (g : Gap) :
    ((front ++ [f]).map (ofSpan base)).getLastD g = ofSpan base f := by simp

theorem setLastStop_ofSpan (base : Tsn) (front : List Span) (f : Span) (hi : Nat) :
    setLastStop ((front ++ [f]).map (ofSpan base)) (nth base (hi - 1)) =
      (front ++ [Span.mk f.lo hi]).map (ofSpan base) := by
  simp [setLastStop, ofSpan]

/-- A position that is covered already changes nothing. -/
theorem updateLoop_of_covered {front : List Span} (h : InWindow cum (front ++ back))
    (hcov : Covers front p) (hlo : p < lo) (hback : ∀ s ∈ back, lo < s.lo) (hmax : lo ≤ cum + 2 ^ 31) :
    updateLoop (nth base p) (nth base cum) (front.map (ofSpan base)) (nth base lo) (back.map (ofSpan base)) =
      ⟨true, nth base cum, false, ofSpans base (front ++ back)⟩ := by
  obtain ⟨hpos, hlt⟩ := h.covers (by rw [covers_append]; exact .inl hcov)
  induction back generalizing front lo with
  | nil =>
    have hne : nth base p ≠ nth base lo := by
      rw [Ne, nth_inj base (by omega) (by omega)]
      omega
    obtain ⟨front', f, rfl⟩ : ∃ front' f, front = front' ++ [f] := by
      cases eq_nil_or_concat front with
      | inl hnil => subst hnil; exact absurd hcov (covers_nil p)
      | inr hcons => exact hcons.imp fun _ hf => hf.imp fun _ hf => by simpa using hf
    have hf := h.separated.nonempty f (by simp)
    have hwin := h.window f (by simp)
    have hp : p < f.hi := by
      obtain ⟨s, hs, hsp⟩ := hcov
      rw [append_nil] at h
      have hlast : (front' ++ [f]).getLast? = some f := by simp
      cases h.separated.eq_or_apart_last hlast s hs with
      | inl heq => exact heq ▸ hsp.2
      | inr hap =>
        have := hsp.2
        simp only [Apart] at hap
        omega
    have hgt : ¬ tsnGt (nth base p) ((((front' ++ [f]).map (ofSpan base)).getLastD ⟨0, 0⟩).stop + 1) := by
      rw [getLastD_ofSpan, ofSpan, nth_pred_succ (by omega), tsnGt_nth base (by omega) (by omega)]
      omega
    have hnil : (front' ++ [f]).map (ofSpan base) ≠ [] := by simp
    simp only [map_nil, updateLoop, updateEnd, if_neg hne, hnil, hgt, or_self, if_false, ofSpans, append_nil]
  | cons s back ih =>
    have hs := hback s (mem_cons_self ..)
    have hsne := h.separated.nonempty s (by simp)
    have hswin := h.window s (by simp)
    have happ : front ++ s :: back = (front ++ [s]) ++ back := by simp
    rw [happ] at h ⊢
    have hcov' : Covers (front ++ [s]) p := by
      rw [covers_append]
      exact .inl hcov
    have hmap : front.map (ofSpan base) ++ [ofSpan base s] = (front ++ [s]).map (ofSpan base) := by simp
    rw [map_cons, updateLoop, hmap]
    by_cases hz : (ofSpan base s).start > 0
    · have hbetween : ¬ tsnBetween (nth base lo) (nth base p) ((ofSpan base s).start - 1) := by
        rw [ofSpan, nth_pred (by omega), tsnBetween_nth base (by omega) (by omega) (by omega) (by omega)]
        omega
      have hnext : (ofSpan base s).stop + 1 = nth base s.hi := nth_pred_succ (by omega)
      rw [if_pos hz, if_neg hbetween, hnext]
      refine ih h hcov' (by omega) (fun t ht => ?_) (by omega)
      exact (append_iff.mp h.separated).2.2 s (by simp) t ht
    · rw [if_neg hz]
      exact ih h hcov' hlo (fun t ht => hback t (mem_cons_of_mem _ ht)) hmax

/-- The position behind the blocks that have been passed. -/
def behind (cum : Nat) (front : List Span) : Nat :=
  match front.getLast? with
  | some f => f.hi
  | none => cum + 1

@[simp] theorem behind_nil : behind cum [] = cum + 1 := rfl
@[simp] theorem behind_append (front : List Span) (f : Span) : behind cum (front ++ [f]) = f.hi := by simp [behind]

theorem front_cases (front : List Span) : front = [] ∨ ∃ front' f, front = front' ++ [f] := by
  cases eq_nil_or_concat front with
  | inl hnil => exact .inl hnil
  | inr hcons => exact .inr (hcons.imp fun _ hf => hf.imp fun _ hf => by simpa using hf)

/-- The new span takes the place of those it touches. -/
theorem Entered.of_replace (front : List Span) {t : Span} (h : InWindow cum (front ++ (m ++ back)))
    (hl : ∀ s ∈ front ++ (m ++ back), cum + 1 < s.lo) (hlo : cum + 1 < t.lo) (hne : t.lo < t.hi)
    (hhi : t.hi ≤ cum + 2 ^ 31) (hfront : ∀ s ∈ front, s.hi < t.lo) (hback : ∀ s ∈ back, t.hi < s.lo)
    (hcount : (front ++ t :: back).length ≤ MAX_GAP_COUNT) (hcov : ∀ i, t.Has i ↔ Covers m i ∨ i = p) :
    Entered cum p (front ++ (m ++ back)) cum (front ++ t :: back) := by
  obtain ⟨hsepF, hsepMB, hap⟩ := append_iff.mp h.separated
  obtain ⟨-, hsepB, -⟩ := append_iff.mp hsepMB
  have hmem (s : Span) (hs : s ∈ front ++ t :: back) : s = t ∨ s ∈ front ++ (m ++ back) := by
    simp only [mem_append, mem_cons] at hs ⊢
    tauto
  constructor
  · constructor
    · refine append_iff.mpr ⟨hsepF, cons_iff.mpr ⟨hne, hback, hsepB⟩, fun s hs u hu => ?_⟩
      cases mem_cons.mp hu with
      | inl heq => exact heq ▸ hfront s hs
      | inr hmem => exact hap s hs u (mem_append_right _ hmem)
    · intro s hs
      cases hmem s hs with
      | inl heq => rw [heq]; omega
      | inr hold => exact h.above s hold
    · intro s hs
      cases hmem s hs with
      | inl heq => exact heq ▸ hhi
      | inr hold => exact h.window s hold
    · exact hcount
  · intro s hs
    cases hmem s hs with
    | inl heq => exact heq ▸ hlo
    | inr hold => exact hl s hold
  · exact Nat.le_refl _
  · intro i _
    simp only [covers_append, covers_cons, hcov]
    tauto
  · intro i hi hle
    omega
  · intro hlt
    exact absurd hlt (Nat.lt_irrefl _)

/-- The last span that has been passed grows upwards, over the spans `m`. -/
theorem Entered.of_grow {front : List Span} {f : Span} (h : InWindow cum (front ++ [f] ++ (m ++ back)))
    (hl : ∀ s ∈ front ++ [f] ++ (m ++ back), cum + 1 < s.lo) (hlt : f.hi < hi) (hhi : hi ≤ cum + 2 ^ 31)
    (hback : ∀ s ∈ back, hi < s.lo) (hcov : ∀ i, f.hi ≤ i ∧ i < hi ↔ Covers m i ∨ i = f.hi) :
    Entered cum f.hi (front ++ [f] ++ (m ++ back)) cum (front ++ [Span.mk f.lo hi] ++ back) := by
  have hf := hl f (by simp)
  have hfne := h.separated.nonempty f (by simp)
  have hcount := h.count
  have hin : front ++ [f] ++ (m ++ back) = front ++ (([f] ++ m) ++ back) := by simp
  have hout : front ++ [Span.mk f.lo hi] ++ back = front ++ Span.mk f.lo hi :: back := by simp
  have hap : ∀ t ∈ front, t.hi < f.lo := fun t ht =>
    (append_iff.mp (append_iff.mp h.separated).1).2.2 t ht f (mem_singleton_self f)
  rw [hin] at h hl ⊢
  rw [hout]
  refine Entered.of_replace front h hl hf (Nat.lt_trans hfne hlt) hhi hap hback ?_ fun i => ?_
  · simp only [length_append, length_cons, length_nil] at hcount ⊢
    omega
  · have hi := hcov i
    simp only [covers_append, covers_cons, covers_nil, Has, or_false, or_assoc]
    rw [← hi]
    omega

/-- The cumulative TSN goes on, over the first spans. -/
theorem Entered.of_advance {cum' : Nat} (h : InWindow cum (m ++ back)) (hlt : cum < cum')
    (hcov : ∀ i, cum < i ∧ i ≤ cum' ↔ Covers m i ∨ i = cum + 1) (hback : ∀ s ∈ back, cum' + 1 < s.lo) :
    Entered cum (cum + 1) (m ++ back) cum' back := by
  obtain ⟨-, hsep, -⟩ := append_iff.mp h.separated
  have hcount := h.count
  rw [length_append] at hcount
  constructor
  · refine ⟨hsep, fun s hs => Nat.lt_of_succ_lt (hback s hs), fun s hs => ?_, by omega⟩
    exact Nat.le_trans (h.window s (mem_append_right _ hs)) (by omega)
  · exact hback
  · exact Nat.le_of_lt hlt
  · intro i hi
    have hm := (hcov i).not.mp (by omega)
    rw [covers_append]
    tauto
  · intro i hi hle
    rw [covers_append]
    have hm := (hcov i).mp ⟨hi, hle⟩
    tauto
  · intro _
    rfl

theorem le_behind (cum : Nat) (h : Separated l) : ∀ t ∈ l, t.hi ≤ behind cum l := by
  cases front_cases l with
  | inl hnil =>
    subst hnil
    simp
  | inr hcons =>
    obtain ⟨front, f, rfl⟩ := hcons
    intro t ht
    rw [behind_append]
    cases h.eq_or_apart_last (g := f) (by simp) t ht with
    | inl heq => exact heq ▸ Nat.le_refl _
    | inr hap =>
      have hf := h.nonempty f (by simp)
      simp only [Apart] at hap
      omega

theorem behind_lt_of_apart {s : Span} (hs : cum + 1 < s.lo) (h : ∀ t ∈ l, t.Apart s) : behind cum l < s.lo := by
  cases front_cases l with
  | inl hnil =>
    subst hnil
    exact hs
  | inr hcons =>
    obtain ⟨front, f, rfl⟩ := hcons
    rw [behind_append]
    exact h f (by simp)

/-- The blocks passed have the position of the cumulative TSN before them. -/
theorem InWindow.front {front : List Span} (h : InWindow cum (front ++ back)) : InWindow cum front := by
  have hcount := h.count
  rw [length_append] at hcount
  exact ⟨(append_iff.mp h.separated).1, fun t ht => h.above t (mem_append_left _ ht),
    fun t ht => h.window t (mem_append_left _ ht), by omega⟩

theorem behind_lt (h : InWindow cum l) : cum < behind cum l := by
  cases front_cases l with
  | inl hnil =>
    subst hnil
    exact Nat.lt_succ_self cum
  | inr hcons =>
    obtain ⟨front, f, rfl⟩ := hcons
    have hf := h.above f (by simp)
    have hne := h.separated.nonempty f (by simp)
    rw [behind_append]
    omega

theorem gapsize_gt_one (base : Tsn) (h : lo < hi) (hmax : hi < lo + 2 ^ 32) :
    nth base (hi - 1) - nth base lo + 1 > 1 ↔ lo + 1 < hi := by
  have hd := toNat_nth_sub base (m := lo) (n := hi - 1) (by omega) (by omega)
  have hone : (1 : Tsn).toNat = 1 := rfl
  rw [gt_iff_lt, BitVec.lt_def, BitVec.toNat_add, hd, hone, Nat.mod_eq_of_lt (by omega)]
  omega

/-- The position lies in the gap before block `s`. -/
theorem updateBetween_ofSpan {front : List Span} {s : Span} (h : InWindow cum (front ++ s :: back))
    (hl : ∀ t ∈ front ++ s :: back, cum + 1 < t.lo) (hp : behind cum front ≤ p) (hps : p < s.lo)
    (hmax : p < cum + 2 ^ 31) (hroom : Room p (front ++ s :: back)) :
    ∃ cum' l', updateBetween (nth base p) (nth base cum) (front.map (ofSpan base)) (nth base (behind cum front))
        (ofSpan base s) (back.map (ofSpan base)) = ⟨true, nth base cum', true, ofSpans base l'⟩ ∧
      Entered cum p (front ++ s :: back) cum' l' := by
  have hsne := h.separated.nonempty s (by simp)
  have hswin := h.window s (by simp)
  have hcount := h.count
  obtain ⟨hsepF, hsepB, hFB⟩ := append_iff.mp h.separated
  obtain ⟨-, hsB, -⟩ := cons_iff.mp hsepB
  have hbehind : cum < behind cum front := behind_lt h.front
  have hFp : ∀ t ∈ front, t.hi ≤ behind cum front := le_behind cum hsepF
  have hhi : (ofSpan base s).start - 1 = nth base (s.lo - 1) := nth_pred (by omega)
  have hsize := gapsize_gt_one base (show behind cum front < s.lo by omega) (by omega)
  have hnext (a : Nat) : nth base a = nth base cum + 1 ↔ nth base a = nth base (cum + 1) := by rw [nth_succ]
  unfold updateBetween
  simp only [hhi, hsize, hnext]
  by_cases hbig : behind cum front + 1 < s.lo
  · rw [if_pos hbig]
    by_cases hphi : p = s.lo - 1
    · -- the block grows downwards
      rw [if_pos (congrArg (nth base) hphi)]
      refine ⟨cum, front ++ ⟨p, s.hi⟩ :: back, by simp [ofSpans, ofSpan], ?_⟩
      refine Entered.of_replace _ (m := [s]) h hl (by simp only; omega) (by simp only; omega) hswin
        (fun t ht => ?_) hsB (by simpa using hcount) fun i => ?_
      · have := hFp t ht
        simp only
        omega
      · simp only [covers_cons, covers_nil, Has, or_false]
        omega
    · rw [if_neg (by rw [nth_inj base (by omega) (by omega)]; exact hphi)]
      by_cases hplo : p = behind cum front
      · rw [if_pos (congrArg (nth base) hplo)]
        cases front_cases front with
        | inl hnil =>
          subst hnil
          have hcum : p = cum + 1 := hplo
          subst hcum
          refine ⟨cum + 1, s :: back, by simp [ofSpans, nth_succ], ?_⟩
          refine Entered.of_advance (m := []) h (Nat.lt_succ_self cum) (fun i => ?_) fun t ht => ?_
          · simp only [covers_nil, false_or]
            omega
          · have hstart := hsB
            cases mem_cons.mp ht with
            | inl heq => subst heq; omega
            | inr hmem => have := hstart t hmem; simp only [Apart] at this; omega
        | inr hcons =>
          obtain ⟨front', f, rfl⟩ := hcons
          rw [behind_append] at hplo
          have hf := hl f (by simp)
          have hfne := hsepF.nonempty f (by simp)
          subst hplo
          rw [behind_append] at hbig
          rw [if_neg (by rw [nth_inj base (by omega) (by omega)]; omega)]
          refine ⟨cum, front' ++ [⟨f.lo, f.hi + 1⟩] ++ s :: back, ?_, ?_⟩
          · have hset := setLastStop_ofSpan base front' f (f.hi + 1)
            rw [Nat.add_sub_cancel] at hset
            rw [hset]
            simp [ofSpans]
          · refine Entered.of_grow (m := []) h hl (Nat.lt_succ_self _) (by omega) (fun t ht => ?_) fun i => ?_
            · cases mem_cons.mp ht with
              | inl heq => subst heq; exact hbig
              | inr hmem => exact Nat.lt_trans hbig (Nat.lt_trans hsne (hsB t hmem))
            · simp only [covers_nil, false_or]
              omega
      · -- a block of its own
        rw [if_neg (by rw [nth_inj base (by omega) (by omega)]; exact hplo)]
        have hlen : (front ++ s :: back).length < MAX_GAP_COUNT := by
          refine hroom.resolve_right ?_
          rintro ⟨t, ht, htlo, hthi⟩
          cases mem_append.mp ht with
          | inl hfront => have := hFp t hfront; omega
          | inr hback =>
            cases mem_cons.mp hback with
            | inl heq => subst heq; omega
            | inr hmem => have := hsB t hmem; simp only [Apart] at this; omega
        refine ⟨cum, front ++ ⟨p, p + 1⟩ :: s :: back, ?_, ?_⟩
        · rw [take_of_length_le (by simp at hlen ⊢; omega)]
          simp [ofSpans, ofSpan]
        · refine Entered.of_replace _ (m := []) h hl (by simp only; omega) (Nat.lt_succ_self p) (by simp only; omega)
            (fun t ht => ?_) (fun t ht => ?_) (by simp at hlen ⊢; omega) fun i => ?_
          · have := hFp t ht
            simp only
            omega
          · cases mem_cons.mp ht with
            | inl heq => subst heq; simp only; omega
            | inr hmem => have := hsB t hmem; simp only [Apart] at this ⊢; omega
          · simp only [covers_nil, Has, false_or]
            omega
  · -- the gap is closed
    rw [if_neg hbig]
    have hp : p = behind cum front := by omega
    cases front_cases front with
    | inl hnil =>
      subst hnil
      have hcum : p = cum + 1 := hp
      subst hcum
      refine ⟨s.hi - 1, back, by simp [ofSpans, ofSpan], ?_⟩
      refine Entered.of_advance (m := [s]) h (by omega) (fun i => ?_) fun t ht => ?_
      · simp only [covers_cons, covers_nil, Has, or_false]
        omega
      · have := hsB t ht
        simp only [Apart] at this
        omega
    | inr hcons =>
      obtain ⟨front', f, rfl⟩ := hcons
      rw [behind_append] at hp hbig
      have hf := hl f (by simp)
      have hfne := hsepF.nonempty f (by simp)
      subst hp
      rw [behind_append, if_neg (by rw [nth_inj base (by omega) (by omega)]; omega)]
      refine ⟨cum, front' ++ [⟨f.lo, s.hi⟩] ++ back, ?_, ?_⟩
      · have hstop : (ofSpan base s).stop = nth base (s.hi - 1) := rfl
        rw [hstop, setLastStop_ofSpan]
        simp [ofSpans]
      · refine Entered.of_grow (m := [s]) h hl (by omega) hswin hsB fun i => ?_
        simp only [covers_cons, covers_nil, Has, or_false]
        omega

/-- The position lies behind all blocks. -/
theorem updateEnd_ofSpan (h : InWindow cum l) (hl : ∀ t ∈ l, cum + 1 < t.lo) (hp : behind cum l ≤ p)
    (hmax : p < cum + 2 ^ 31) (hroom : Room p l) :
    ∃ cum' l', updateEnd (nth base p) (nth base cum) (l.map (ofSpan base)) (nth base (behind cum l)) =
        ⟨true, nth base cum', true, ofSpans base l'⟩ ∧ Entered cum p l cum' l' := by
  have hnext : nth base cum + 1 = nth base (cum + 1) := (nth_succ base cum).symm
  unfold updateEnd
  cases front_cases l with
  | inl hnil =>
    subst hnil
    rw [behind_nil] at hp ⊢
    by_cases hpc : p = cum + 1
    · subst hpc
      rw [if_pos rfl, if_pos hnext.symm]
      refine ⟨cum + 1, [], rfl, ?_⟩
      refine Entered.of_advance (m := []) h (Nat.lt_succ_self cum) (fun i => ?_) (by simp)
      simp only [covers_nil, false_or]
      omega
    · rw [if_neg (by rw [nth_inj base (by omega) (by omega)]; exact hpc), if_pos (.inl rfl), map_nil, length_nil,
        if_pos (by decide)]
      refine ⟨cum, [⟨p, p + 1⟩], rfl, ?_⟩
      refine Entered.of_replace [] (m := []) h hl (by simp only; omega) (Nat.lt_succ_self p)
        (by simp only; omega) (by simp) (by simp) (by simp [MAX_GAP_COUNT]) fun i => ?_
      simp only [covers_nil, Has, false_or]
      omega
  | inr hcons =>
    obtain ⟨front, f, rfl⟩ := hcons
    have hf := hl f (by simp)
    have hfne := h.separated.nonempty f (by simp)
    rw [behind_append] at hp ⊢
    have happ : front ++ [f] = front ++ [f] ++ ([] ++ []) := by simp
    rw [getLastD_ofSpan]
    have hstop : (ofSpan base f).stop + 1 = nth base f.hi := nth_pred_succ (by omega)
    rw [hstop]
    by_cases hpf : p = f.hi
    · subst hpf
      rw [if_pos rfl, hnext, if_neg (by rw [nth_inj base (by omega) (by omega)]; omega)]
      refine ⟨cum, front ++ [⟨f.lo, f.hi + 1⟩], ?_, ?_⟩
      · have hset := setLastStop_ofSpan base front f (f.hi + 1)
        rw [Nat.add_sub_cancel] at hset
        rw [hset]
        rfl
      · have hgrow : Entered cum f.hi (front ++ [f] ++ ([] ++ [])) cum (front ++ [⟨f.lo, f.hi + 1⟩] ++ []) := by
          refine Entered.of_grow (happ ▸ h) (happ ▸ hl) (Nat.lt_succ_self _) (by omega) (by simp) fun i => ?_
          simp only [covers_nil, false_or]
          omega
        simpa using hgrow
    · rw [if_neg (by rw [nth_inj base (by omega) (by omega)]; exact hpf)]
      have hgt : tsnGt (nth base p) (nth base f.hi) := (tsnGt_nth base (by omega) (by omega)).mpr (by omega)
      rw [if_pos (.inr hgt)]
      have hlen : (front ++ [f]).length < MAX_GAP_COUNT := by
        refine hroom.resolve_right ?_
        rintro ⟨t, ht, -, hthi⟩
        have hlast : (front ++ [f]).getLast? = some f := by simp
        cases h.separated.eq_or_apart_last hlast t ht with
        | inl heq => subst heq; omega
        | inr hap => simp only [Apart] at hap; omega
      rw [length_map, if_pos hlen]
      refine ⟨cum, front ++ [f] ++ [⟨p, p + 1⟩], by simp [ofSpans, ofSpan], ?_⟩
      have hins : Entered cum p (front ++ [f] ++ ([] ++ [])) cum (front ++ [f] ++ Span.mk p (p + 1) :: []) := by
        refine Entered.of_replace _ (happ ▸ h) (happ ▸ hl) (by simp only; omega) (Nat.lt_succ_self p)
          (by simp only; omega) (fun t ht => ?_) (by simp) (by simp at hlen ⊢; omega) fun i => ?_
        · have hlast : (front ++ [f]).getLast? = some f := by simp
          cases h.separated.eq_or_apart_last hlast t ht with
          | inl heq => subst heq; simp only; omega
          | inr hap => simp only [Apart] at hap ⊢; omega
        · simp only [covers_nil, Has, false_or]
          omega
      simpa using hins

theorem Entered.of_covers (h : InWindow cum l) (hl : ∀ t ∈ l, cum + 1 < t.lo) (hcov : Covers l p) :
    Entered cum p l cum l := by
  constructor
  · exact h
  · exact hl
  · exact Nat.le_refl cum
  · intro i _
    exact ⟨.inl, fun hor => hor.elim id fun heq => heq ▸ hcov⟩
  · intro i hi hle
    omega
  · intro hlt
    exact absurd hlt (Nat.lt_irrefl cum)

/-- By induction on the blocks still to come: the position is in one of them or behind those passed. -/
theorem updateLoop_ofSpans (base : Tsn) (front back : List Span) (h : InWindow cum (front ++ back))
    (hl : ∀ t ∈ front ++ back, cum + 1 < t.lo) (hp : behind cum front ≤ p) (hmax : p < cum + 2 ^ 31)
    (hclear : Clear base p (behind cum front) back) (hroom : Room p (front ++ back)) :
    ∃ cum' l', updateLoop (nth base p) (nth base cum) (front.map (ofSpan base)) (nth base (behind cum front))
        (back.map (ofSpan base)) = ⟨true, nth base cum', decide (¬ Covers (front ++ back) p), ofSpans base l'⟩ ∧
      Entered cum p (front ++ back) cum' l' := by
  have hfront : ∀ t ∈ front, t.hi ≤ behind cum front := le_behind cum (append_iff.mp h.separated).1
  have hnotfront : ¬ Covers front p := by
    rintro ⟨t, ht, htp⟩
    have hle := hfront t ht
    have hlt := htp.2
    omega
  induction back generalizing front with
  | nil =>
    rw [append_nil] at h hl hroom ⊢
    rw [map_nil, updateLoop, decide_eq_true hnotfront]
    exact updateEnd_ofSpan h hl hp hmax hroom
  | cons s back ih =>
    have hs := hl s (by simp)
    have hsne := h.separated.nonempty s (by simp)
    have hswin := h.window s (by simp)
    obtain ⟨hzero, hclear⟩ := hclear
    obtain ⟨-, hsepB, hFB⟩ := append_iff.mp h.separated
    obtain ⟨-, hsB, -⟩ := cons_iff.mp hsepB
    have hpos : (ofSpan base s).start > 0 := start_pos_iff.mpr fun hz => absurd (hzero hz) (Nat.not_lt.mpr hp)
    have hmap : front.map (ofSpan base) ++ [ofSpan base s] = (front ++ [s]).map (ofSpan base) := by simp
    have happ : front ++ s :: back = front ++ [s] ++ back := by simp
    have hnext : (ofSpan base s).stop + 1 = nth base s.hi := nth_pred_succ (by omega)
    have hbehind : behind cum front < s.lo := behind_lt_of_apart hs fun t ht => hFB t ht s (mem_cons_self ..)
    have hcum : cum < behind cum front := behind_lt h.front
    have hbetween : tsnBetween (nth base (behind cum front)) (nth base p) ((ofSpan base s).start - 1) ↔ p < s.lo := by
      rw [ofSpan, nth_pred (by omega), tsnBetween_nth base (by omega) (by omega) (by omega) (by omega)]
      omega
    rw [map_cons, updateLoop, if_pos hpos]
    by_cases hps : p < s.lo
    · have hnot : ¬ Covers (front ++ s :: back) p := by
        rw [covers_append, covers_cons]
        rintro (hfr | hsp | ⟨t, ht, htp⟩)
        · exact hnotfront hfr
        · exact absurd hsp.1 (Nat.not_le.mpr hps)
        · have hap := hsB t ht
          have hlo := htp.1
          simp only [Apart] at hap
          omega
      rw [if_pos (hbetween.mpr hps), decide_eq_true hnot]
      exact updateBetween_ofSpan h hl hp hps hmax hroom
    · rw [if_neg (hbetween.not.mpr hps), hmap, hnext]
      rw [happ] at h hl hroom ⊢
      by_cases hin : p < s.hi
      · have hcov : Covers (front ++ [s]) p := ⟨s, by simp, Nat.not_lt.mp hps, hin⟩
        have hall : Covers (front ++ [s] ++ back) p := by
          rw [covers_append]
          exact .inl hcov
        rw [updateLoop_of_covered h hcov hin (fun t ht => hsB t ht) hswin, decide_eq_false (not_not.mpr hall)]
        exact ⟨cum, _, rfl, .of_covers h hl hall⟩
      · have hfront' := le_behind cum (append_iff.mp h.separated).1
        have hnot : ¬ Covers (front ++ [s]) p := by
          rw [covers_append, covers_cons]
          rintro (hfr | hsp | hnil)
          · exact hnotfront hfr
          · exact hin hsp.2
          · exact covers_nil p hnil
        have hih := ih (front ++ [s]) h hl (by rw [behind_append]; omega) (by rwa [behind_append]) hroom hfront' hnot
        rwa [behind_append] at hih

theorem updateGapList_ofSpans (base : Tsn) (h : InWindow cum l) (hfree : ¬ Covers l (cum + 1)) (hp : cum < p)
    (hmax : p < cum + 2 ^ 31) (hclear : Clear base p (cum + 1) l) (hroom : Room p l) (newChunkReceived : Bool) :
    ∃ cum' l', (ofSpans base l).updateGapList (nth base p) (nth base cum) newChunkReceived =
        ⟨true, nth base cum', newChunkReceived || decide (¬ Covers l p), ofSpans base l'⟩ ∧ Entered cum p l cum' l' := by
  have hle : ¬ tsnLe (nth base p) (nth base cum) := by
    rw [tsnLe_nth base (by omega) (by omega)]
    omega
  obtain ⟨cum', l', heq, hentered⟩ := updateLoop_ofSpans base [] l h (h.apart_iff.mpr hfree) hp
    hmax hclear hroom
  refine ⟨cum', l', ?_, hentered⟩
  rw [behind_nil, nth_succ] at heq
  rw [updateGapList, if_neg hle]
  simp only [ofSpans, map_nil, nil_append] at heq ⊢
  rw [heq]

/-- A TSN that the cumulative TSN has passed is refused. -/
theorem updateGapList_of_le (hp : p ≤ cum) (hmin : cum ≤ p + 2 ^ 31) (l : SCTPSimpleGapList)
    (newChunkReceived : Bool) :
    l.updateGapList (nth base p) (nth base cum) newChunkReceived = ⟨false, nth base cum, newChunkReceived, l⟩ :=
  if_pos ((tsnLe_nth base (by omega) (by omega)).mpr hp)

end SCTPSimpleGapList

end Inet.Sctp
