import Mathlib

/-!
# Run-length encoded lists

A list is given by runs of equal members. Changing the members in a range of
positions can be done run by run, once the runs are cut at both ends of it.
-/
namespace RunLength

open List

variable {α β : Type}

/-- A run is how many times what is repeated. -/
def expand (l : List (Nat × α)) : List α := l.flatMap fun r => replicate r.1 r.2

def total (l : List (Nat × α)) : Nat := (l.map Prod.fst).sum

@[simp] theorem expand_nil : expand ([] : List (Nat × α)) = [] := rfl

@[simp] theorem expand_cons (r : Nat × α) (l : List (Nat × α)) :
    expand (r :: l) = replicate r.1 r.2 ++ expand l := by simp [expand]

@[simp] theorem expand_append (l m : List (Nat × α)) : expand (l ++ m) = expand l ++ expand m := by
  simp [expand]

@[simp] theorem total_nil : total ([] : List (Nat × α)) = 0 := rfl

@[simp] theorem total_cons (r : Nat × α) (l : List (Nat × α)) : total (r :: l) = r.1 + total l := by
  simp [total]

@[simp] theorem total_append (l m : List (Nat × α)) : total (l ++ m) = total l + total m := by
  simp [total]

@[simp] theorem length_expand (l : List (Nat × α)) : (expand l).length = total l := by
  induction l with
  | nil => rfl
  | cons r l ih => simp [ih]

/-- Change what every run repeats. -/
def mapRuns (g : α → β) (l : List (Nat × α)) : List (Nat × β) := l.map fun r => (r.1, g r.2)

@[simp] theorem mapRuns_nil (g : α → β) : mapRuns g [] = [] := rfl

@[simp] theorem mapRuns_cons (g : α → β) (r : Nat × α) (l : List (Nat × α)) :
    mapRuns g (r :: l) = (r.1, g r.2) :: mapRuns g l := rfl

@[simp] theorem total_mapRuns (g : α → β) (l : List (Nat × α)) : total (mapRuns g l) = total l := by
  induction l with
  | nil => rfl
  | cons r l ih => simp [ih]

@[simp] theorem expand_mapRuns (g : α → β) (l : List (Nat × α)) :
    expand (mapRuns g l) = (expand l).map g := by
  induction l with
  | nil => rfl
  | cons r l ih => simp [ih]

/-- A run of positive length can be cut in two. -/
theorem replicate_cut {k n : Nat} (h : k ≤ n) (a : α) :
    replicate n a = replicate k a ++ replicate (n - k) a := by
  rw [replicate_append_replicate, Nat.add_sub_cancel' h]

/-- Apply `g` at the positions from `i` up to, but not including, `j`. -/
def onRange (i j : Nat) (g : α → α) (l : List α) : List α :=
  l.mapIdx fun n a => if i ≤ n ∧ n < j then g a else a

@[simp] theorem length_onRange (i j : Nat) (g : α → α) (l : List α) :
    (onRange i j g l).length = l.length := by simp [onRange]

theorem getElem?_onRange (i j : Nat) (g : α → α) (l : List α) (n : Nat) :
    (onRange i j g l)[n]? = l[n]?.map fun a => if i ≤ n ∧ n < j then g a else a := by
  simp [onRange]

theorem onRange_append (i j : Nat) (g : α → α) (l m : List α) :
    onRange i j g (l ++ m) =
      onRange i j g l ++ onRange (i - l.length) (j - l.length) g m := by
  simp only [onRange, mapIdx_append]
  congr 2
  funext n a
  have h : (i ≤ n + l.length ∧ n + l.length < j) ↔ (i - l.length ≤ n ∧ n < j - l.length) := by omega
  simp only [h]

variable {i j : Nat}

/-- All positions of the list are in the range. -/
theorem onRange_all {l : List α} (g : α → α) (hi : i = 0) (hj : l.length ≤ j) :
    onRange i j g l = l.map g := by
  apply ext_getElem
  · simp
  · intro n h₁ h₂
    have hn : i ≤ n ∧ n < j := by
      simp only [length_onRange] at h₁
      omega
    simp [onRange, hn]

/-- No position of the list is in the range. -/
theorem onRange_none {l : List α} (g : α → α) (h : l.length ≤ i ∨ j ≤ i) :
    onRange i j g l = l := by
  apply ext_getElem
  · simp
  · intro n h₁ h₂
    have hn : ¬ (i ≤ n ∧ n < j) := by omega
    simp [onRange, hn]

/-- A range in the middle of a list. -/
theorem onRange_middle {l m r : List α} (g : α → α) (hi : l.length = i)
    (hj : l.length + m.length = j) : onRange i j g (l ++ m ++ r) = l ++ m.map g ++ r := by
  rw [onRange_append, onRange_append, onRange_none g (.inl (Nat.le_of_eq hi)),
    onRange_all g (by omega) (by omega), onRange_none g]
  simp only [length_append]
  omega

/-- A range that reaches to the end of the list or beyond it. -/
theorem onRange_tail {l m : List α} (g : α → α) (hi : l.length = i)
    (hj : l.length + m.length ≤ j) : onRange i j g (l ++ m) = l ++ m.map g := by
  rw [onRange_append, onRange_none g (.inl (Nat.le_of_eq hi)), onRange_all g (by omega) (by omega)]

/-- The last member with the property `p` is the `n`-th one, if there is one. -/
structure LastWhere (p : α → Bool) (l : List α) (n : Nat) : Prop where
  holds : ∀ m, n = m + 1 → ∃ a, l[m]? = some a ∧ p a
  above : ∀ m a, n ≤ m → l[m]? = some a → p a = false

namespace LastWhere

variable {p : α → Bool} {l : List α} {n : Nat} {a : α}

theorem nil (p : α → Bool) : LastWhere p [] 0 where
  holds := by simp
  above := by simp

theorem le_length (h : LastWhere p l n) : n ≤ l.length := by
  cases n with
  | zero => exact Nat.zero_le _
  | succ m =>
    obtain ⟨b, hb, -⟩ := h.holds m rfl
    exact (List.getElem?_eq_some_iff.mp hb).1

theorem append_holds (l : List α) (hn : 0 < n) (ha : p a = true) :
    LastWhere p (l ++ replicate n a) (l.length + n) where
  holds m hm := by
    refine ⟨a, ?_, ha⟩
    rw [List.getElem?_append_right (by omega), List.getElem?_replicate_of_lt (by omega)]
  above m b hm hb := by
    rw [List.getElem?_eq_none (by simpa using hm)] at hb
    cases hb

theorem append_not {k : Nat} (h : LastWhere p l k) (n : Nat) (ha : p a = false) :
    LastWhere p (l ++ replicate n a) k where
  holds m hm := by
    obtain ⟨b, hb, hp⟩ := h.holds m hm
    exact ⟨b, by rw [List.getElem?_append_left (List.getElem?_eq_some_iff.mp hb).1, hb], hp⟩
  above m b hm hb := by
    by_cases hlt : m < l.length
    · rw [List.getElem?_append_left hlt] at hb
      exact h.above m b hm hb
    · rw [List.getElem?_append_right (by omega)] at hb
      rw [eq_of_mem_replicate (mem_of_getElem? hb), ha]

end LastWhere

end RunLength
