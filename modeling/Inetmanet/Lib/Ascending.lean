import Mathlib

/-!
# Lists in ascending order of a key

Scans that skip or keep a front or a back part of such a list are filters, and
the list is determined by its members.
-/
namespace Ascending

open List

variable {α : Type} {key : α → Nat}

/-- The keys grow strictly along the list. -/
def By (key : α → Nat) (l : List α) : Prop := l.Pairwise fun a b => key a < key b

namespace By

theorem nil : By key ([] : List α) := Pairwise.nil

theorem cons_iff {a : α} {l : List α} : By key (a :: l) ↔ (∀ b ∈ l, key a < key b) ∧ By key l :=
  pairwise_cons

theorem append_iff {l m : List α} :
    By key (l ++ m) ↔ By key l ∧ By key m ∧ ∀ a ∈ l, ∀ b ∈ m, key a < key b :=
  pairwise_append

theorem filter {l : List α} (h : By key l) (p : α → Bool) : By key (l.filter p) :=
  Pairwise.filter p h

/-- Members with the same key are the same member. -/
theorem key_inj {l : List α} (h : By key l) {a b : α} (ha : a ∈ l) (hb : b ∈ l)
    (hkey : key a = key b) : a = b := by
  induction l with
  | nil => cases ha
  | cons c l ih =>
    obtain ⟨hlt, hl⟩ := cons_iff.mp h
    cases mem_cons.mp ha with
    | inl hac =>
      cases mem_cons.mp hb with
      | inl hbc => rw [hac, hbc]
      | inr hbl =>
        have := hlt b hbl
        rw [hac] at hkey
        omega
    | inr hal =>
      cases mem_cons.mp hb with
      | inl hbc =>
        have := hlt a hal
        rw [hbc] at hkey
        omega
      | inr hbl => exact ih hl hal hbl

/-- Two ascending lists with the same members are the same list. -/
theorem ext {l m : List α} (hl : By key l) (hm : By key m) (h : ∀ a, a ∈ l ↔ a ∈ m) : l = m := by
  induction l generalizing m with
  | nil =>
    cases m with
    | nil => rfl
    | cons b m => exact absurd ((h b).mpr (by simp)) (by simp)
  | cons a l ih =>
    obtain ⟨hal, hl'⟩ := cons_iff.mp hl
    cases m with
    | nil => exact absurd ((h a).mp (by simp)) (by simp)
    | cons b m =>
      obtain ⟨hbm, hm'⟩ := cons_iff.mp hm
      -- each head is the least member
      have hab : a = b := by
        cases mem_cons.mp ((h a).mp (by simp)) with
        | inl heq => exact heq
        | inr ham =>
          cases mem_cons.mp ((h b).mpr (by simp)) with
          | inl heq => exact heq.symm
          | inr hbl =>
            have h₁ := hbm a ham
            have h₂ := hal b hbl
            omega
      subst hab
      rw [ih hl' hm']
      intro c
      constructor
      · intro hc
        have hlt := hal c hc
        cases mem_cons.mp ((h c).mp (by simp [hc])) with
        | inl heq => exact absurd hlt (by rw [heq]; exact Nat.lt_irrefl _)
        | inr hcm => exact hcm
      · intro hc
        have hlt := hbm c hc
        cases mem_cons.mp ((h c).mpr (by simp [hc])) with
        | inl heq => exact absurd hlt (by rw [heq]; exact Nat.lt_irrefl _)
        | inr hcl => exact hcl

/-- Skipping the front up to a key leaves what is above it. -/
theorem dropWhile_eq {l : List α} (h : By key l) {p : α → Bool} {x : Nat}
    (hp : ∀ a ∈ l, p a = true ↔ key a ≤ x) :
    l.dropWhile p = l.filter (fun a => decide (x < key a)) := by
  induction l with
  | nil => rfl
  | cons a l ih =>
    obtain ⟨hal, hl⟩ := cons_iff.mp h
    have hpa := hp a (by simp)
    by_cases hx : key a ≤ x
    · have hx' : ¬ x < key a := by omega
      have hrest := ih hl fun b hb => hp b (by simp [hb])
      simp [hpa.mpr hx, hx', hrest]
    · have hall : l.filter (fun b => decide (x < key b)) = l := by
        rw [filter_eq_self]
        intro b hb
        have := hal b hb
        simp only [decide_eq_true_eq]
        omega
      have hx' : x < key a := by omega
      have hpa' : ¬ p a = true := fun hc => hx (hpa.mp hc)
      rw [dropWhile_cons_of_neg hpa', filter_cons_of_pos (by simpa using hx'), hall]

/-- Taking the front up to a key keeps what is not above it. -/
theorem takeWhile_eq {l : List α} (h : By key l) {p : α → Bool} {x : Nat}
    (hp : ∀ a ∈ l, p a = true ↔ key a ≤ x) :
    l.takeWhile p = l.filter (fun a => decide (key a ≤ x)) := by
  induction l with
  | nil => rfl
  | cons a l ih =>
    obtain ⟨hal, hl⟩ := cons_iff.mp h
    have hpa := hp a (by simp)
    by_cases hx : key a ≤ x
    · have hrest := ih hl fun b hb => hp b (by simp [hb])
      simp [hpa.mpr hx, hx, hrest]
    · have hnone : l.filter (fun b => decide (key b ≤ x)) = [] := by
        rw [filter_eq_nil_iff]
        intro b hb
        have := hal b hb
        simp only [decide_eq_true_eq]
        omega
      have hpa' : ¬ p a = true := fun hc => hx (hpa.mp hc)
      rw [takeWhile_cons_of_neg hpa', filter_cons_of_neg (by simpa using hx), hnone]

/-- A key cuts the list in two. -/
theorem filter_append_filter {l : List α} (h : By key l) (x : Nat) :
    l.filter (fun a => decide (key a ≤ x)) ++ l.filter (fun a => decide (x < key a)) = l := by
  have hp : ∀ a ∈ l, decide (key a ≤ x) = true ↔ key a ≤ x := by simp
  rw [← h.takeWhile_eq hp, ← h.dropWhile_eq hp, takeWhile_append_dropWhile]

theorem filter_suffix {l : List α} (h : By key l) (x : Nat) : l.filter (fun a => decide (x < key a)) <:+ l :=
  ⟨_, h.filter_append_filter x⟩

/-- Removing from the back what is above a key. -/
theorem dropWhile_reverse_eq {l : List α} (h : By key l) {p : α → Bool} {x : Nat}
    (hp : ∀ a ∈ l, p a = true ↔ x < key a) :
    (l.reverse.dropWhile p).reverse = l.filter (fun a => decide (key a ≤ x)) := by
  induction l with
  | nil => rfl
  | cons a l ih =>
    obtain ⟨hal, hl⟩ := cons_iff.mp h
    have hpa := hp a (by simp)
    have hrest := ih hl fun b hb => hp b (by simp [hb])
    by_cases hx : key a ≤ x
    · have hpa' : ¬ p a = true := fun hc => absurd (hpa.mp hc) (Nat.not_lt.mpr hx)
      simp [dropWhile_append, hx, hpa', ← hrest]
    · have hall : ∀ b ∈ a :: l, x < key b := by
        intro b hb
        cases mem_cons.mp hb with
        | inl heq => rw [heq]; omega
        | inr hbl => have := hal b hbl; omega
      have hnone : (a :: l).filter (fun b => decide (key b ≤ x)) = [] := by
        rw [filter_eq_nil_iff]
        intro b hb
        have := hall b hb
        simp only [decide_eq_true_eq]
        omega
      have hdrop : (a :: l).reverse.dropWhile p = [] := by
        have hpos : ∀ b ∈ (a :: l).reverse, p b = true := fun b hb =>
          (hp b (mem_reverse.mp hb)).mpr (hall b (mem_reverse.mp hb))
        have happ : ((a :: l).reverse ++ []).dropWhile p = dropWhile p [] :=
          dropWhile_append_of_pos hpos
        rwa [append_nil] at happ
      rw [hnone, hdrop, reverse_nil]

/-- How many members are not above a key tells which ones these are. -/
theorem lt_length_filter {l : List α} (h : By key l) {x k : Nat} (hk : k < l.length) :
    k < (l.filter fun a => decide (key a ≤ x)).length ↔ key l[k] ≤ x := by
  induction l generalizing k with
  | nil => simp at hk
  | cons a l ih =>
    obtain ⟨hal, hl⟩ := cons_iff.mp h
    by_cases hx : key a ≤ x
    · cases k with
      | zero => simp [hx]
      | succ k =>
        have hk' : k < l.length := by simpa using hk
        simpa [hx] using ih hl hk'
    · have hnone : (a :: l).filter (fun b => decide (key b ≤ x)) = [] := by
        rw [filter_eq_nil_iff]
        intro b hb
        simp only [decide_eq_true_eq]
        cases mem_cons.mp hb with
        | inl heq => rw [heq]; exact hx
        | inr hbl => have := hal b hbl; omega
      have hkey : key a ≤ key (a :: l)[k] := by
        cases k with
        | zero => exact Nat.le_refl _
        | succ k => exact Nat.le_of_lt (hal _ (getElem_mem _))
      rw [hnone]
      simp only [length_nil, Nat.not_lt_zero, false_iff]
      omega

end By

end Ascending
