import Mathlib

/-!
# Insertion at the upper bound

`std::upper_bound` and the insertion of an element there, for any order that
compares a key. On a list that is sorted by the key, the list stays sorted.
-/
namespace Inet.UpperBound

open List

variable {α : Type}

/-- The loop of the binary search; `count` elements from `first` on are left. -/
def search (less : α → α → Bool) (l : List α) (a : α) : Nat → Nat → Nat → Nat
  | 0, first, _ => first
  | fuel + 1, first, count =>
    if count = 0 then first
    else
      let step := count / 2
      match l[first + step]? with
      | none => first
      | some x =>
        if less a x then search less l a fuel first step
        else search less l a fuel (first + step + 1) (count - (step + 1))

def upperBound (less : α → α → Bool) (l : List α) (a : α) : Nat := search less l a l.length 0 l.length

def insert (less : α → α → Bool) (l : List α) (a : α) : List α :=
  l.take (upperBound less l a) ++ a :: l.drop (upperBound less l a)

theorem insert_perm (less : α → α → Bool) (l : List α) (a : α) : (insert less l a).Perm (a :: l) := by
  have hsplit : l.take (upperBound less l a) ++ l.drop (upperBound less l a) = l := take_append_drop _ l
  calc (insert less l a).Perm (a :: (l.take (upperBound less l a) ++ l.drop (upperBound less l a))) :=
        perm_middle
    _ = a :: l := by rw [hsplit]

theorem mem_insert {less : α → α → Bool} {l : List α} {a x : α} : x ∈ insert less l a ↔ x = a ∨ x ∈ l := by
  rw [(insert_perm less l a).mem_iff, mem_cons]

/-- Where the elements are cut in two by the comparison, the search finds the place. -/
theorem search_eq {less : α → α → Bool} {l : List α} {a : α} {p : Nat}
    (hbelow : ∀ i x, l[i]? = some x → i < p → less a x = false)
    (habove : ∀ i x, l[i]? = some x → p ≤ i → less a x = true) :
    ∀ fuel first count, count ≤ fuel → first ≤ p → p ≤ first + count → first + count ≤ l.length →
      search less l a fuel first count = p := by
  intro fuel
  induction fuel with
  | zero =>
    intro first count hfuel hle hge _
    simp only [search]
    omega
  | succ fuel ih =>
    intro first count hfuel hle hge hlen
    rw [search]
    by_cases hzero : count = 0
    · rw [if_pos hzero]
      omega
    · have hlt : first + count / 2 < l.length := by omega
      have hget : l[first + count / 2]? = some l[first + count / 2] := List.getElem?_eq_getElem hlt
      simp only [if_neg hzero, hget]
      by_cases hside : first + count / 2 < p
      · rw [hbelow _ _ hget hside]
        exact ih _ _ (by omega) (by omega) (by omega) (by omega)
      · rw [habove _ _ hget (by omega)]
        exact ih _ _ (by omega) (by omega) (by omega) (by omega)

section

variable {κ : Type} [LinearOrder κ] {key : α → κ} {less : α → α → Bool}

/-- On a sorted list the upper bound stands behind everything that is not greater. -/
theorem exists_cut (hless : ∀ a b, less a b = true ↔ key a < key b) (a : α) :
    ∀ l : List α, l.Pairwise (fun x y => key x ≤ key y) →
      ∃ p ≤ l.length, (∀ i x, l[i]? = some x → i < p → less a x = false) ∧
        ∀ i x, l[i]? = some x → p ≤ i → less a x = true
  | [], _ => ⟨0, Nat.le_refl _, by simp, by simp⟩
  | y :: l, hl => by
    rw [pairwise_cons] at hl
    by_cases hy : less a y = true
    · refine ⟨0, Nat.zero_le _, by simp, fun i x hi _ => ?_⟩
      cases i with
      | zero =>
        cases hi
        exact hy
      | succ i =>
        have hmem : x ∈ l := mem_of_getElem? (by simpa using hi)
        exact (hless a x).mpr (lt_of_lt_of_le ((hless a y).mp hy) (hl.1 x hmem))
    · obtain ⟨p, hp, hbelow, habove⟩ := exists_cut hless a l hl.2
      refine ⟨p + 1, Nat.succ_le_succ hp, fun i x hi hlt => ?_, fun i x hi hle => ?_⟩
      · cases i with
        | zero =>
          cases hi
          simpa using hy
        | succ i => exact hbelow i x (by simpa using hi) (by omega)
      · cases i with
        | zero => omega
        | succ i => exact habove i x (by simpa using hi) (by omega)

theorem insert_sorted (hless : ∀ a b, less a b = true ↔ key a < key b) (a : α) {l : List α}
    (hl : l.Pairwise fun x y => key x ≤ key y) : (insert less l a).Pairwise fun x y => key x ≤ key y := by
  obtain ⟨p, hp, hbelow, habove⟩ := exists_cut hless a l hl
  have hpos : upperBound less l a = p :=
    search_eq hbelow habove _ _ _ (Nat.le_refl _) (Nat.zero_le _) (by omega) (by omega)
  have hfront : ∀ x ∈ l.take p, key x ≤ key a := by
    intro x hx
    obtain ⟨i, hi⟩ := mem_iff_getElem?.mp hx
    rw [List.getElem?_take] at hi
    split at hi
    case isTrue hlt =>
      have hnot := hbelow i x hi hlt
      exact not_lt.mp fun hlt' => by simp [(hless a x).mpr hlt'] at hnot
    case isFalse => cases hi
  have hback : ∀ x ∈ l.drop p, key a ≤ key x := by
    intro x hx
    obtain ⟨i, hi⟩ := mem_iff_getElem?.mp hx
    rw [List.getElem?_drop] at hi
    exact le_of_lt ((hless a x).mp (habove (p + i) x hi (by omega)))
  rw [insert, hpos, pairwise_append, pairwise_cons]
  refine ⟨hl.sublist (take_sublist p l), ⟨hback, hl.sublist (drop_sublist p l)⟩, ?_⟩
  intro x hx y hy
  rw [mem_cons] at hy
  rcases hy with rfl | hy
  · exact hfront x hx
  · exact le_trans (hfront x hx) (hback y hy)

end

end Inet.UpperBound
