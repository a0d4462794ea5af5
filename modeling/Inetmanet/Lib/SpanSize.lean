import Inetmanet.Lib.SpanList

/-!
# How many positions a list of spans covers

The lengths of separated spans add up to the number of positions they cover, so
that an insertion that does not change the sum has brought nothing new.
-/
namespace SpanList

open Span Finset

/-- The sum of the lengths. -/
def size (l : List Span) : Nat := (l.map fun s => s.hi - s.lo).sum

@[simp] theorem size_nil : size [] = 0 := rfl

@[simp] theorem size_cons (s : Span) (l : List Span) : size (s :: l) = s.hi - s.lo + size l := by
  simp [size]

/-- The positions that are covered. -/
def points : List Span → Finset Nat
  | [] => ∅
  | s :: l => Finset.Ico s.lo s.hi ∪ points l

theorem mem_points (l : List Span) (i : Nat) : i ∈ points l ↔ Covers l i := by
  induction l with
  | nil => simp [points]
  | cons s l ih => simp [points, ih, Has]

theorem card_points {l : List Span} (h : Separated l) : (points l).card = size l := by
  induction l with
  | nil => rfl
  | cons s l ih =>
    obtain ⟨-, hap, hl⟩ := Separated.cons_iff.mp h
    have hdisj : Disjoint (Finset.Ico s.lo s.hi) (points l) := by
      rw [disjoint_left]
      intro i hi hcov
      obtain ⟨t, ht, hti⟩ := (mem_points l i).mp hcov
      have hlt := hap t ht
      rw [mem_Ico] at hi
      simp only [Apart, Has] at hlt hti
      omega
    rw [points, card_union_of_disjoint hdisj, Nat.card_Ico, ih hl, size_cons]

/-- Spans between two bounds have no more positions than there are. -/
theorem size_le {l : List Span} (h : Separated l) {a b : Nat} (ha : ∀ s ∈ l, a ≤ s.lo) (hb : ∀ s ∈ l, s.hi ≤ b) :
    size l ≤ b - a := by
  rw [← card_points h, ← Nat.card_Ico a b]
  apply card_le_card
  intro i hi
  obtain ⟨s, hs, hsi⟩ := (mem_points l i).mp hi
  have h₁ := ha s hs
  have h₂ := hb s hs
  rw [mem_Ico]
  simp only [Has] at hsi
  omega

/-- The size stays the same just if all positions were covered before. -/
theorem size_insert_eq_iff {s : Span} {l : List Span} (hs : s.lo < s.hi) (h : Separated l) :
    size (insert s l) = size l ↔ ∀ i, s.Has i → Covers l i := by
  have hsub : points l ⊆ points (insert s l) := by
    intro i hi
    rw [mem_points] at hi ⊢
    exact (covers_insert s l i).mpr (.inr hi)
  rw [← card_points h, ← card_points (h.insert hs)]
  constructor
  · intro hcard i hi
    have heq := eq_of_subset_of_card_le hsub (Nat.le_of_eq hcard)
    rw [← mem_points, heq, mem_points]
    exact (covers_insert s l i).mpr (.inl hi)
  · intro hall
    congr 1
    ext i
    rw [mem_points, mem_points, covers_insert]
    exact ⟨fun hi => hi.elim (hall i) id, .inr⟩

end SpanList
