import Mathlib

/-!
# Tilings of a range

Pieces of a range of numbers, each of which begins where the one before it ends.
-/
namespace Tiling

open List

variable {α : Type} {lo hi : α → Nat} {a b c : Nat} {l m r : List α} {x y : α}

/-- The pieces follow each other from `a` to `b`. -/
def Tiles (lo hi : α → Nat) : Nat → Nat → List α → Prop
  | a, b, [] => a = b
  | a, b, x :: l => lo x = a ∧ lo x ≤ hi x ∧ Tiles lo hi (hi x) b l

namespace Tiles

theorem le (h : Tiles lo hi a b l) : a ≤ b := by
  induction l generalizing a with
  | nil => exact Nat.le_of_eq h
  | cons x l ih =>
    obtain ⟨h₁, h₂, h₃⟩ := h
    have := ih h₃
    omega

theorem append (h₁ : Tiles lo hi a b l) (h₂ : Tiles lo hi b c m) : Tiles lo hi a c (l ++ m) := by
  induction l generalizing a with
  | nil =>
    cases h₁
    exact h₂
  | cons x l ih =>
    obtain ⟨hx, hle, hl⟩ := h₁
    exact ⟨hx, hle, ih hl⟩

theorem of_append (h : Tiles lo hi a c (l ++ m)) : ∃ b, Tiles lo hi a b l ∧ Tiles lo hi b c m := by
  induction l generalizing a with
  | nil => exact ⟨a, rfl, h⟩
  | cons x l ih =>
    obtain ⟨hx, hle, hl⟩ := h
    obtain ⟨b, h₁, h₂⟩ := ih hl
    exact ⟨b, ⟨hx, hle, h₁⟩, h₂⟩

/-- Only the ends of the pieces matter. -/
theorem congr {lo' hi' : α → Nat} (h : Tiles lo hi a b l) (heq : ∀ x ∈ l, lo x = lo' x ∧ hi x = hi' x) :
    Tiles lo' hi' a b l := by
  induction l generalizing a with
  | nil => exact h
  | cons x l ih =>
    obtain ⟨hx, hle, hl⟩ := h
    obtain ⟨hlo, hhi⟩ := heq x (by simp)
    have hrest := ih hl fun y hy => heq y (mem_cons_of_mem _ hy)
    rw [hlo] at hx hle
    rw [hhi] at hle hrest
    exact ⟨hx, hle, hrest⟩

theorem map {β : Type} {lo hi : β → Nat} {f : α → β} (h : Tiles (lo ∘ f) (hi ∘ f) a b l) :
    Tiles lo hi a b (l.map f) := by
  induction l generalizing a with
  | nil => exact h
  | cons x l ih => exact ⟨h.1, h.2.1, ih h.2.2⟩

/-- A piece can be tiled itself. -/
theorem replace (h : Tiles lo hi a b (l ++ x :: r)) (hm : Tiles lo hi (lo x) (hi x) m) :
    Tiles lo hi a b (l ++ m ++ r) := by
  obtain ⟨c, hl, hx, hle, hr⟩ := h.of_append
  rw [← hx] at hl
  exact (hl.append hm).append hr

section

variable (h : Tiles lo hi a b l)
include h

theorem mem (hx : x ∈ l) : a ≤ lo x ∧ lo x ≤ hi x ∧ hi x ≤ b := by
  induction l generalizing a with
  | nil => cases hx
  | cons y l ih =>
    obtain ⟨hy, hle, hl⟩ := h
    have := hl.le
    cases mem_cons.mp hx with
    | inl heq =>
      rw [heq]
      omega
    | inr hmem =>
      have := ih hl hmem
      omega

/-- Two pieces are the same one, or one of them ends before the other one begins. -/
theorem eq_or_apart (hx : x ∈ l) (hy : y ∈ l) : x = y ∨ hi x ≤ lo y ∨ hi y ≤ lo x := by
  induction l generalizing a with
  | nil => cases hx
  | cons z l ih =>
    obtain ⟨hz, hle, hl⟩ := h
    cases mem_cons.mp hx with
    | inl hxz =>
      cases mem_cons.mp hy with
      | inl hyz => exact .inl (hxz.trans hyz.symm)
      | inr hyl =>
        rw [hxz]
        exact .inr (.inl (hl.mem hyl).1)
    | inr hxl =>
      cases mem_cons.mp hy with
      | inl hyz =>
        rw [hyz]
        exact .inr (.inr (hl.mem hxl).1)
      | inr hyl => exact ih hl hxl hyl

/-- A piece begins where the tiling or another piece begins or ends. -/
theorem exists_lo_eq (hx : x ∈ l) : hi x = b ∨ ∃ y ∈ l, lo y = hi x := by
  induction l generalizing a with
  | nil => cases hx
  | cons z l ih =>
    obtain ⟨hz, hle, hl⟩ := h
    cases mem_cons.mp hx with
    | inl hxz =>
      rw [hxz]
      cases l with
      | nil => exact .inl hl
      | cons y l => exact .inr ⟨y, by simp, hl.1⟩
    | inr hxl =>
      cases ih hl hxl with
      | inl hb => exact .inl hb
      | inr hex =>
        obtain ⟨y, hy, heq⟩ := hex
        exact .inr ⟨y, mem_cons_of_mem _ hy, heq⟩

/-- Some piece begins at the start of a tiling that is not empty. -/
theorem exists_first (hne : l ≠ []) : ∃ x ∈ l, lo x = a := by
  cases l with
  | nil => exact absurd rfl hne
  | cons x l => exact ⟨x, by simp, h.1⟩

/-- Some piece ends where a tiling that is not empty does. -/
theorem exists_last (hne : l ≠ []) : ∃ x ∈ l, hi x = b := by
  induction l generalizing a with
  | nil => exact absurd rfl hne
  | cons x l ih =>
    cases l with
    | nil => exact ⟨x, by simp, h.2.2⟩
    | cons y l =>
      obtain ⟨z, hz, heq⟩ := ih h.2.2 (by simp)
      exact ⟨z, mem_cons_of_mem _ hz, heq⟩

end

end Tiles

end Tiling
