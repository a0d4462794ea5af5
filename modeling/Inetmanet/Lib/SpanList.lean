import Mathlib

/-!
# Lists of separated spans

A span is a half-open interval of positions. A set of positions that is a finite
union of spans has exactly one description by an ascending list of nonempty
spans with a gap between any two neighbours. The insertion below walks such a
list from its end, swallows every span that overlaps or touches the new one, and
stops at the first span that ends before it.
-/

/-- The positions from `lo` up to, but not including, `hi`. -/
structure Span where
  lo : Nat
  hi : Nat
  deriving DecidableEq, Repr

namespace Span

def Has (s : Span) (i : Nat) : Prop := s.lo ≤ i ∧ i < s.hi
deriving Decidable

/-- `s` ends before `t` begins, with a gap between them. -/
def Apart (s t : Span) : Prop := s.hi < t.lo

/-- The smallest span around both. -/
def hull (s t : Span) : Span := ⟨min s.lo t.lo, max s.hi t.hi⟩

@[simp] theorem hull_lo (s t : Span) : (s.hull t).lo = min s.lo t.lo := rfl
@[simp] theorem hull_hi (s t : Span) : (s.hull t).hi = max s.hi t.hi := rfl

/-- The hull of overlapping or touching spans is their union. -/
theorem has_hull {s t : Span} (h₁ : ¬ s.Apart t) (h₂ : ¬ t.Apart s) (i : Nat) :
    (s.hull t).Has i ↔ s.Has i ∨ t.Has i := by
  simp only [Apart, Has, hull] at *
  omega

end Span

namespace SpanList

open Span List

/-- Some span of the list has the position. -/
def Covers (l : List Span) (i : Nat) : Prop := ∃ s ∈ l, s.Has i
deriving Decidable

@[simp] theorem covers_nil (i : Nat) : ¬ Covers [] i := by simp [Covers]

@[simp] theorem covers_cons (s : Span) (l : List Span) (i : Nat) :
    Covers (s :: l) i ↔ s.Has i ∨ Covers l i := by simp [Covers]

@[simp] theorem covers_append (l m : List Span) (i : Nat) :
    Covers (l ++ m) i ↔ Covers l i ∨ Covers m i := by
  simp [Covers, or_and_right, exists_or]

@[simp] theorem covers_reverse (l : List Span) (i : Nat) : Covers l.reverse i ↔ Covers l i := by
  simp [Covers]

/-- Ascending, nonempty and with a gap between any two spans. -/
structure Separated (l : List Span) : Prop where
  nonempty : ∀ s ∈ l, s.lo < s.hi
  apart : l.Pairwise Apart

variable {l : List Span} {s t : Span}

variable {i b : Nat}

namespace Separated

theorem nil : Separated [] := ⟨by simp, by simp⟩

theorem cons_iff : Separated (s :: l) ↔ s.lo < s.hi ∧ (∀ t ∈ l, s.Apart t) ∧ Separated l := by
  constructor
  · intro h
    have hp := pairwise_cons.mp h.apart
    exact ⟨h.nonempty s mem_cons_self, hp.1, fun t ht => h.nonempty t (mem_cons_of_mem s ht), hp.2⟩
  · rintro ⟨hs, hl, h⟩
    exact ⟨forall_mem_cons.mpr ⟨hs, h.nonempty⟩, pairwise_cons.mpr ⟨hl, h.apart⟩⟩

theorem tail (h : Separated (s :: l)) : Separated l :=
  (cons_iff.mp h).2.2

theorem append_iff {m : List Span} :
    Separated (l ++ m) ↔ Separated l ∧ Separated m ∧ ∀ s ∈ l, ∀ t ∈ m, s.Apart t := by
  constructor
  · intro h
    have hp := pairwise_append.mp h.apart
    exact ⟨⟨fun s hs => h.nonempty s (mem_append_left _ hs), hp.1⟩,
      ⟨fun s hs => h.nonempty s (mem_append_right _ hs), hp.2.1⟩, hp.2.2⟩
  · rintro ⟨hl, hm, hlm⟩
    refine ⟨fun s hs => ?_, pairwise_append.mpr ⟨hl.apart, hm.apart, hlm⟩⟩
    exact (mem_append.mp hs).elim (hl.nonempty s) (hm.nonempty s)

theorem sublist {m : List Span} (h : Separated m) (hlm : l.Sublist m) : Separated l :=
  ⟨fun s hs => h.nonempty s (hlm.subset hs), h.apart.sublist hlm⟩

/-- The least position of a separated list is the start of its first span. -/
theorem head_le (h : Separated (s :: l)) (hi : Covers (s :: l) i) : s.lo ≤ i := by
  obtain ⟨hs, hl, -⟩ := cons_iff.mp h
  rcases (covers_cons s l i).mp hi with h | ⟨t, ht, hti⟩
  · exact h.1
  · have := hl t ht
    simp only [Apart, Has] at *
    omega

/-- The end of the first span is not covered. -/
theorem head_end (h : Separated (s :: l)) : ¬ Covers (s :: l) s.hi := by
  obtain ⟨-, hl, -⟩ := cons_iff.mp h
  rw [covers_cons]
  rintro (h | ⟨t, ht, hti⟩)
  · exact Nat.lt_irrefl _ h.2
  · have := hl t ht
    simp only [Apart, Has] at *
    omega

section

variable (h : Separated l)
include h

/-- Every other span ends before the last one begins. -/
theorem eq_or_apart_last {g : Span} (hg : l.getLast? = some g) :
    ∀ t ∈ l, t = g ∨ t.Apart g := by
  obtain ⟨front, hl⟩ := getLast?_eq_some_iff.mp hg
  have hp := h.apart
  rw [hl, pairwise_append] at hp
  intro t ht
  rw [hl, mem_append, mem_singleton] at ht
  cases ht with
  | inl hf => exact .inr (hp.2.2 t hf g (by simp))
  | inr heq => exact .inl heq

/-- The position before a span is not covered. -/
theorem before_start (hs : s ∈ l) (hi : i + 1 = s.lo) : ¬ Covers l i := by
  induction l with
  | nil => simp
  | cons t l ih =>
    obtain ⟨hne, hap, hl⟩ := cons_iff.mp h
    rw [covers_cons]
    cases mem_cons.mp hs with
    | inl heq =>
      rintro (hhas | ⟨u, hu, hui⟩)
      · have hlo := hhas.1
        rw [heq] at hi
        omega
      · have hlt := hap u hu
        have hlo := hui.1
        simp only [Apart] at hlt
        rw [heq] at hi
        omega
    | inr hmem =>
      rintro (hhas | hcov)
      · have hlt := hap s hmem
        have hhi := hhas.2
        simp only [Apart] at hlt
        omega
      · exact ih hl hmem hcov

/-- The end of a span is not covered. -/
theorem at_end (hs : s ∈ l) : ¬ Covers l s.hi := by
  induction l with
  | nil => simp
  | cons t l ih =>
    obtain ⟨hne, hap, hl⟩ := cons_iff.mp h
    cases mem_cons.mp hs with
    | inl heq =>
      rw [heq]
      exact h.head_end
    | inr hmem =>
      rw [covers_cons]
      rintro (hhas | hcov)
      · have hlt := hap s hmem
        have hhi := hhas.2
        have hsne := hl.nonempty s hmem
        simp only [Apart] at hlt
        omega
      · exact ih hl hmem hcov

/-- Two spans are the same one, or there is a gap between them. -/
theorem eq_or_apart (hs : s ∈ l) (ht : t ∈ l) : s = t ∨ s.Apart t ∨ t.Apart s := by
  induction l with
  | nil => cases hs
  | cons u l ih =>
    obtain ⟨-, hap, hl⟩ := cons_iff.mp h
    cases mem_cons.mp hs with
    | inl hsu =>
      cases mem_cons.mp ht with
      | inl htu => exact .inl (hsu.trans htu.symm)
      | inr htl => exact .inr (.inl (hsu ▸ hap t htl))
    | inr hsl =>
      cases mem_cons.mp ht with
      | inl htu => exact .inr (.inr (htu ▸ hap s hsl))
      | inr htl => exact ih hl hsl htl

theorem eq_of_has (hs : s ∈ l) (ht : t ∈ l)
    (hsi : s.Has i) (hti : t.Has i) : s = t := by
  rcases h.eq_or_apart hs ht with heq | hst | hts
  · exact heq
  · simp only [Apart, Has] at *
    omega
  · simp only [Apart, Has] at *
    omega

/-- Positions in a row that are all covered lie in one span. -/
theorem exists_around {u : Span} (hu : u.lo < u.hi)
    (hcov : ∀ i, u.Has i → Covers l i) : ∃ t ∈ l, t.lo ≤ u.lo ∧ u.hi ≤ t.hi := by
  obtain ⟨t, ht, hti⟩ := hcov u.lo ⟨Nat.le_refl _, hu⟩
  refine ⟨t, ht, hti.1, ?_⟩
  by_cases hle : u.hi ≤ t.hi
  · exact hle
  · exact absurd (hcov t.hi ⟨Nat.le_of_lt hti.2, Nat.not_le.mp hle⟩) (h.at_end ht)

end

/-- Two separated lists that cover the same positions are the same list. -/
theorem ext {m : List Span} (hl : Separated l) (hm : Separated m)
    (h : ∀ i, Covers l i ↔ Covers m i) : l = m := by
  induction l generalizing m with
  | nil =>
    cases m with
    | nil => rfl
    | cons t m =>
      have ht := (cons_iff.mp hm).1
      exact absurd ((h t.lo).mpr (by simp [Has, ht])) (by simp)
  | cons s l ih =>
    obtain ⟨hs, hsl, hl'⟩ := cons_iff.mp hl
    cases m with
    | nil => exact absurd ((h s.lo).mp (by simp [Has, hs])) (by simp)
    | cons t m =>
      obtain ⟨ht, htm, hm'⟩ := cons_iff.mp hm
      have hslo : Covers (t :: m) s.lo := (h _).mp (by simp [Has, hs])
      have htlo : Covers (s :: l) t.lo := (h _).mpr (by simp [Has, ht])
      have hlo : s.lo = t.lo := Nat.le_antisymm (hl.head_le htlo) (hm.head_le hslo)
      -- the first end is the first uncovered position after the common start
      have hhi : s.hi = t.hi := by
        rcases Nat.lt_trichotomy s.hi t.hi with hlt | heq | hgt
        · exact absurd ((h s.hi).mpr (by simp only [covers_cons, Has]; omega)) hl.head_end
        · exact heq
        · exact absurd ((h t.hi).mp (by simp only [covers_cons, Has]; omega)) hm.head_end
      have hst : s = t := by cases s; cases t; simp_all
      subst hst
      have htail : ∀ i, Covers l i ↔ Covers m i := by
        intro i
        have hi := h i
        simp only [covers_cons] at hi
        constructor
        · rintro ⟨u, hu, hui⟩
          have := hsl u hu
          refine (hi.mp (.inr ⟨u, hu, hui⟩)).resolve_left ?_
          simp only [Apart, Has] at *
          omega
        · rintro ⟨u, hu, hui⟩
          have := htm u hu
          refine (hi.mpr (.inr ⟨u, hu, hui⟩)).resolve_left ?_
          simp only [Apart, Has] at *
          omega
      rw [ih hl' hm' htail]

end Separated

/-- Insert `s` into a list that is given from its last span to its first. -/
def absorb (s : Span) : List Span → List Span
  | [] => [s]
  | r :: l =>
    if r.hi < s.lo then s :: r :: l
    else if s.hi < r.lo then r :: absorb s l
    else absorb (s.hull r) l

theorem covers_absorb (s : Span) (l : List Span) (i : Nat) :
    Covers (absorb s l) i ↔ s.Has i ∨ Covers l i := by
  induction l generalizing s with
  | nil => simp [absorb]
  | cons r l ih =>
    simp only [absorb]
    split
    · simp
    · split
      · simp only [covers_cons, ih]
        exact or_left_comm
      · rename_i h₁ h₂
        rw [ih, covers_cons, has_hull h₂ h₁, or_assoc]

/-- Nothing of the result reaches beyond a bound of the list and of the new span. -/
theorem absorb_hi_lt (hs : s.hi < b)
    (hl : ∀ r ∈ l, r.hi < b) : ∀ r ∈ absorb s l, r.hi < b := by
  induction l generalizing s with
  | nil => simpa [absorb] using hs
  | cons r l ih =>
    have hr := hl r (by simp)
    have hl' : ∀ t ∈ l, t.hi < b := fun t ht => hl t (by simp [ht])
    simp only [absorb]
    split
    · simpa [hs, hr] using hl'
    · split
      · simpa [hr] using ih hs hl'
      · exact ih (by simp only [hull_hi]; omega) hl'

/-- Insertion keeps the spans nonempty and separated. -/
theorem absorb_separated (hs : s.lo < s.hi)
    (hne : ∀ r ∈ l, r.lo < r.hi) (hl : l.Pairwise (fun a b => b.Apart a)) :
    (∀ r ∈ absorb s l, r.lo < r.hi) ∧ (absorb s l).Pairwise (fun a b => b.Apart a) := by
  induction l generalizing s with
  | nil => simpa [absorb] using hs
  | cons r l ih =>
    have hr := hne r (by simp)
    have hne' : ∀ t ∈ l, t.lo < t.hi := fun t ht => hne t (by simp [ht])
    obtain ⟨hrl, hl'⟩ := pairwise_cons.mp hl
    simp only [absorb]
    split
    · rename_i h
      refine ⟨by simpa [hs, hr] using hne', ?_⟩
      simp only [pairwise_cons, mem_cons, forall_eq_or_imp]
      refine ⟨⟨h, fun t ht => ?_⟩, hrl, hl'⟩
      have := hrl t ht
      simp only [Apart] at *
      omega
    · split
      · rename_i h
        obtain ⟨h₁, h₂⟩ := ih hs hne' hl'
        exact ⟨by simpa [hr] using h₁, pairwise_cons.mpr ⟨absorb_hi_lt h hrl, h₂⟩⟩
      · exact ih (by simp only [hull_lo, hull_hi]; omega) hne' hl'

/-- Insert `s` into an ascending list, walking it from the end. -/
def insert (s : Span) (l : List Span) : List Span := (absorb s l.reverse).reverse

@[simp] theorem covers_insert (s : Span) (l : List Span) (i : Nat) :
    Covers (insert s l) i ↔ s.Has i ∨ Covers l i := by
  simp [insert, covers_absorb]

theorem insert_hi_le (hs : s.hi ≤ b)
    (hl : ∀ r ∈ l, r.hi ≤ b) : ∀ r ∈ insert s l, r.hi ≤ b := by
  have h := absorb_hi_lt (l := l.reverse) (b := b + 1) (Nat.lt_succ_of_le hs)
    (by simpa using fun r hr => Nat.lt_succ_of_le (hl r hr))
  intro r hr
  exact Nat.le_of_lt_succ (h r (by simpa [insert] using hr))

/-- After an insertion, a span is either still there or part of the one around the new span. -/
theorem Separated.mem_insert_or {e : Span} (hl : Separated l)
    (hins : Separated (insert s l)) (ht : t ∈ insert s l) (hts : t.lo ≤ s.lo ∧ s.hi ≤ t.hi)
    (he : e ∈ l) : e ∈ insert s l ∨ t.lo ≤ e.lo ∧ e.hi ≤ t.hi := by
  have hne := hl.nonempty e he
  obtain ⟨u, hu, hue⟩ := hins.exists_around (u := e) hne
    fun i hi => (covers_insert s l i).mpr (.inr ⟨e, he, hi⟩)
  by_cases hut : u = t
  · rw [hut] at hue
    exact .inr hue
  · -- the span around `e` is one of the old spans, and so `e` itself
    left
    have hold : ∀ i, u.Has i → Covers l i := by
      intro i hi
      refine ((covers_insert s l i).mp ⟨u, hu, hi⟩).resolve_left fun hsi => hut ?_
      exact hins.eq_of_has hu ht hi ⟨Nat.le_trans hts.1 hsi.1, Nat.lt_of_lt_of_le hsi.2 hts.2⟩
    obtain ⟨v, hv, hvu⟩ := hl.exists_around (hins.nonempty u hu) hold
    have hve : v = e := hl.eq_of_has hv he (i := e.lo) ⟨by omega, by omega⟩ ⟨Nat.le_refl _, hne⟩
    rw [hve] at hvu
    have heu : e = u := by
      cases e
      cases u
      simp only [Span.mk.injEq] at *
      omega
    rwa [heu]

theorem Separated.insert (hs : s.lo < s.hi) (hl : Separated l) : Separated (insert s l) := by
  have h := absorb_separated (l := l.reverse) hs (by simpa using hl.nonempty)
    (pairwise_reverse.mpr hl.apart)
  exact ⟨by simpa [SpanList.insert] using h.1, pairwise_reverse.mpr h.2⟩

end SpanList
