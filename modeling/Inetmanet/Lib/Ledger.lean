import Mathlib

/-!
# Ledgers

Every entry owes something to every account. The books are balanced if each account
stands at what the entries owe to it together. An operation on one entry sees the
others as a sum.
-/
namespace Ledger

open List

variable {α ι : Type} {owes : α → ι → Nat} {balance : ι → Nat} {l : List α} {a : α}

/-- What the entries owe to an account together. -/
def total (owes : α → ι → Nat) (l : List α) (i : ι) : Nat := (l.map fun a => owes a i).sum

def Balanced (owes : α → ι → Nat) (balance : ι → Nat) (l : List α) : Prop := ∀ i, balance i = total owes l i

@[simp] theorem total_cons (a : α) (l : List α) (i : ι) : total owes (a :: l) i = owes a i + total owes l i :=
  sum_cons

@[simp] theorem total_append (l l' : List α) (i : ι) : total owes (l ++ l') i = total owes l i + total owes l' i := by
  rw [total, map_append, sum_append]
  rfl

/-- One entry set apart from the others. -/
theorem total_middle (front back : List α) (i : ι) :
    total owes (front ++ a :: back) i = total owes (front ++ back) i + owes a i := by
  rw [total_append, total_cons, total_append]
  omega

theorem balanced_middle {front back : List α} :
    Balanced owes balance (front ++ a :: back) ↔ ∀ i, balance i = total owes (front ++ back) i + owes a i := by
  constructor
  · intro h i
    rw [h i, total_middle]
  · intro h i
    rw [h i, total_middle]

theorem total_le_sum {weight : α → Nat} (h : ∀ a ∈ l, ∀ i, owes a i ≤ weight a) (i : ι) :
    total owes l i ≤ (l.map weight).sum := by
  induction l with
  | nil => exact Nat.le_refl 0
  | cons a l ih =>
    rw [total_cons, map_cons, sum_cons]
    have hhead := h a mem_cons_self i
    have htail := ih fun a ha => h a (mem_cons_of_mem _ ha)
    omega

/-- An account that is divided into others stands at their sum. -/
theorem total_divided {κ : Type} {parts : List κ} {part : κ → ι} {i : ι}
    (h : ∀ a ∈ l, (parts.map fun k => owes a (part k)).sum = owes a i) :
    (parts.map fun k => total owes l (part k)).sum = total owes l i := by
  induction l with
  | nil =>
    exact sum_eq_zero fun n hn => by
      obtain ⟨k, -, rfl⟩ := mem_map.mp hn
      rfl
  | cons a l ih =>
    have htail := ih fun a ha => h a (mem_cons_of_mem _ ha)
    have hsum : (parts.map fun k => total owes (a :: l) (part k)).sum =
        (parts.map fun k => owes a (part k)).sum + (parts.map fun k => total owes l (part k)).sum := by
      rw [← sum_map_add]
      rfl
    rw [hsum, h a mem_cons_self, htail, total_cons]

/-- One part gets all of it. -/
theorem sum_pick {κ : Type} [DecidableEq κ] {parts : List κ} (hnodup : parts.Nodup) {k : κ} (hk : k ∈ parts) (n : Nat) :
    (parts.map fun k' => if k = k' then n else 0).sum = n := by
  induction parts with
  | nil => cases hk
  | cons k' parts ih =>
    obtain ⟨hnew, hnodup⟩ := nodup_cons.mp hnodup
    rw [map_cons, sum_cons]
    by_cases heq : k = k'
    · subst heq
      have hrest : (parts.map fun k' => if k = k' then n else 0).sum = 0 := sum_eq_zero fun m hm => by
        obtain ⟨k'', hk'', rfl⟩ := mem_map.mp hm
        rw [if_neg]
        rintro rfl
        exact hnew hk''
      rw [if_pos rfl, hrest, Nat.add_zero]
    · rw [if_neg heq, Nat.zero_add]
      exact ih hnodup (mem_of_ne_of_mem heq hk)

/-- What the entries of one kind owe. -/
theorem total_filter (p : α → Prop) [DecidablePred p] (f : α → Nat) {i : ι} (h : ∀ a ∈ l, owes a i = if p a then f a else 0) :
    total owes l i = ((l.filter p).map f).sum := by
  induction l with
  | nil => rfl
  | cons a l ih =>
    have htail := ih fun a ha => h a (mem_cons_of_mem _ ha)
    rw [total_cons, h a mem_cons_self, htail]
    by_cases hp : p a
    · rw [if_pos hp, filter_cons_of_pos (by simpa using hp), map_cons, sum_cons]
    · rw [if_neg hp, filter_cons_of_neg (by simpa using hp), Nat.zero_add]

end Ledger
