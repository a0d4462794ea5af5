import Mathlib

/-!
# Loops over all indices

A loop over `List.finRange n` that changes one entry of a state in each round, and the
loop that looks for the best of the entries that qualify.
-/
namespace IndexLoops

open List

variable {σ α β : Type} {n : Nat}

/-- The rule of loops: the invariant also says what is left to do. -/
theorem foldl_rule {f : σ → β → σ} {I : List β → σ → Prop} (hf : ∀ s a l, I (a :: l) s → I l (f s a)) {l : List β} {s : σ}
    (h : I l s) : I [] (l.foldl f s) := by
  induction l generalizing s with
  | nil => exact h
  | cons a l ih => exact ih (hf s a l h)

/-- What every round keeps, the loop keeps. -/
theorem foldl_keeps {f : σ → β → σ} {p : σ → Prop} (hf : ∀ s a, p s → p (f s a)) (l : List β) {s : σ} (h : p s) :
    p (l.foldl f s) := foldl_rule (I := fun _ => p) (fun s a _ hs => hf s a hs) h

/-- Round `i` changes entry `i` only, in a way that depends on what no round changes. -/
theorem foldl_local {f : σ → Fin n → σ} {I : σ → Prop} (get : σ → Fin n → α) (g : Fin n → α → α)
    (hI : ∀ s i, I s → I (f s i))
    (hf : ∀ s, I s → ∀ i j, get (f s i) j = if j = i then g i (get s i) else get s j) {s : σ} (hs : I s) (j : Fin n) :
    get ((finRange n).foldl f s) j = g j (get s j) := by
  have rule := foldl_rule (f := f) (l := finRange n) (s := s)
    (I := fun l t => I t ∧ l.Nodup ∧ ∀ j, get t j = if j ∈ l then get s j else g j (get s j)) ?_ ?_
  · rw [rule.2.2 j, if_neg not_mem_nil]
  · intro t i l ⟨ht, hnodup, h⟩
    have hi := nodup_cons.mp hnodup
    refine ⟨hI t i ht, hi.2, fun j => ?_⟩
    rw [hf t ht i j]
    by_cases hj : j = i
    · subst hj
      rw [if_pos rfl, if_neg hi.1, h j, if_pos mem_cons_self]
    · rw [if_neg hj, h j]
      simp [mem_cons, hj]
  · exact ⟨hs, nodup_finRange n, fun j => by simp⟩

/-- The loop that keeps the first of the best entries. -/
theorem foldl_best [LinearOrder α] (p : β → Prop) [DecidablePred p] (key : β → α) (l : List β) :
    l.foldl (fun best a =>
      if p a then
        match best with
        | none => some a
        | some b => if key a < key b then some a else some b
      else best) none = (l.filter p).argmin key := by
  rw [argmin, foldl_filter]
  congr 1
  funext best a
  by_cases ha : p a
  · cases best <;> simp [ha, argAux]
  · simp [ha]

theorem best_some [LinearOrder α] {p : β → Prop} [DecidablePred p] {key : β → α} {l : List β} {a : β}
    (h : (l.filter p).argmin key = some a) : p a ∧ ∀ b ∈ l, p b → key a ≤ key b := by
  constructor
  · have ha := argmin_mem h
    simpa using (mem_filter.mp ha).2
  · intro b hb hpb
    exact le_of_mem_argmin (mem_filter.mpr ⟨hb, by simpa using hpb⟩) h

theorem best_none [LinearOrder α] {p : β → Prop} [DecidablePred p] {key : β → α} {l : List β}
    (h : (l.filter p).argmin key = none) : ∀ b ∈ l, ¬ p b := by
  intro b hb hpb
  have hnil := argmin_eq_none.mp h
  rw [filter_eq_nil_iff] at hnil
  exact hnil b hb (by simpa using hpb)

end IndexLoops
