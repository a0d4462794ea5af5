import Mathlib

/-!
# Objects in a vector with an index

A container keeps pointers to its objects twice: in a vector, for those who go
through all of them, and in an index by key. Slots of the vector may be set to
null and are taken out later, all together.
-/

structure IndexedStore (κ α : Type) where
  /-- the objects by their addresses -/
  objects : Nat → Option α
  /-- no address from here on has been given to an object -/
  fresh : Nat
  vector : List (Option Nat)
  index : κ → Option Nat

namespace IndexedStore

open List Function Option

variable {κ α : Type}

def empty : IndexedStore κ α where
  objects := fun _ => none
  fresh := 0
  vector := []
  index := fun _ => none

variable (s : IndexedStore κ α)

def find (k : κ) : Option α := (s.index k).bind s.objects

def add [DecidableEq κ] (k : κ) (a : α) : IndexedStore κ α where
  objects := update s.objects s.fresh (some a)
  fresh := s.fresh + 1
  vector := s.vector ++ [some s.fresh]
  index := update s.index k (some s.fresh)

/-- Another value for the object at address `p`. -/
def write (p : Nat) (a : α) : IndexedStore κ α := { s with objects := update s.objects p (some a) }

/-- Deletes the object at address `p`, which slot `i` points to. -/
def erase [DecidableEq κ] (i p : Nat) (k : κ) : IndexedStore κ α where
  objects := update s.objects p none
  fresh := s.fresh
  vector := s.vector.set i none
  index := update s.index k none

/-- Deletes the object at address `p` and nothing else. -/
def delete (p : Nat) : IndexedStore κ α := { s with objects := update s.objects p none }

/-- Takes the null slots out of the vector. -/
def compact : IndexedStore κ α := { s with vector := s.vector.filter (·.isSome) }

variable {p i j : Nat}

theorem slot_inj_of_nodup {v : List (Option Nat)} (h : (v.filterMap id).Nodup) (hi : v[i]? = some (some p))
    (hj : v[j]? = some (some p)) : i = j := by
  rw [List.Nodup, pairwise_filterMap, pairwise_iff_getElem] at h
  obtain ⟨hil, hi⟩ := List.getElem?_eq_some_iff.mp hi
  obtain ⟨hjl, hj⟩ := List.getElem?_eq_some_iff.mp hj
  rcases Nat.lt_trichotomy i j with hlt | heq | hgt
  · exact absurd rfl (h i j hil hjl hlt p hi p hj)
  · exact heq
  · exact absurd rfl (h j i hjl hil hgt p hj p hi)

theorem filterMap_set_none_sublist (v : List (Option Nat)) (i : Nat) :
    ((v.set i none).filterMap id).Sublist (v.filterMap id) := by
  induction v generalizing i with
  | nil => exact .refl _
  | cons e v ih =>
    cases i with
    | zero =>
      cases e with
      | none => exact .refl _
      | some p => exact sublist_cons_self p _
    | succ i =>
      cases e with
      | none => exact ih i
      | some p => exact (ih i).cons_cons p

/-- The vector and the index point to the same objects; the vector may have null slots. -/
structure Sound (key : α → κ) (s : IndexedStore κ α) : Prop where
  alive : ∀ p, some p ∈ s.vector → ∃ a, s.objects p = some a
  indexed : ∀ k p, s.index k = some p ↔ some p ∈ s.vector ∧ ∃ a, s.objects p = some a ∧ key a = k
  nodup : (s.vector.filterMap id).Nodup
  below : ∀ p a, s.objects p = some a → p < s.fresh

variable {s} {key : α → κ}

namespace Sound

theorem empty (key : α → κ) : Sound key (empty : IndexedStore κ α) := by
  constructor
  · intro p hp
    cases hp
  · intro k p
    simp [IndexedStore.empty]
  · exact nodup_nil
  · intro p a hp
    cases hp

section

variable (h : Sound key s)
include h

theorem lt_fresh (hp : some p ∈ s.vector) : p < s.fresh := by
  obtain ⟨a, ha⟩ := h.alive p hp
  exact h.below p a ha

theorem index_of_mem {a : α} (hp : some p ∈ s.vector) (ha : s.objects p = some a) :
    s.index (key a) = some p := (h.indexed _ p).mpr ⟨hp, a, ha, rfl⟩

/-- What the index leads to has the key that was looked for. -/
theorem of_index {k : κ} (hp : s.index k = some p) :
    some p ∈ s.vector ∧ ∃ a, s.objects p = some a ∧ key a = k := (h.indexed k p).mp hp

theorem find_of_mem {a : α} (hp : some p ∈ s.vector) (ha : s.objects p = some a) :
    s.find (key a) = some a := by
  rw [find, h.index_of_mem hp ha]
  exact ha

theorem key_of_find {k : κ} {a : α} (ha : s.find k = some a) : key a = k := by
  obtain ⟨p, hp, hpa⟩ := bind_eq_some_iff.mp ha
  obtain ⟨-, b, hb, hbk⟩ := h.of_index hp
  rw [hpa] at hb
  cases hb
  exact hbk

/-- Two objects of one key are the same. -/
theorem eq_of_key {p q : Nat} {a b : α} (hp : some p ∈ s.vector) (hq : some q ∈ s.vector)
    (ha : s.objects p = some a) (hb : s.objects q = some b) (hab : key a = key b) : p = q := by
  have hpi := h.index_of_mem hp ha
  have hqi := h.index_of_mem hq hb
  rw [hab, hqi] at hpi
  exact (some.inj hpi).symm

/-- No object has two slots. -/
theorem slot_inj (hi : s.vector[i]? = some (some p)) (hj : s.vector[j]? = some (some p)) :
    i = j := slot_inj_of_nodup h.nodup hi hj

theorem add [DecidableEq κ] {a : α} (ha : s.index (key a) = none) : Sound key (s.add (key a) a) := by
  have hmem (p : Nat) : some p ∈ (s.add (key a) a).vector ↔ some p ∈ s.vector ∨ p = s.fresh := by
    simp [IndexedStore.add]
  have hold {p : Nat} (hp : p < s.fresh) : (s.add (key a) a).objects p = s.objects p :=
    update_of_ne (Nat.ne_of_lt hp) _ _
  have hnew : (s.add (key a) a).objects s.fresh = some a := update_self ..
  constructor
  · intro p hp
    cases (hmem p).mp hp with
    | inl hmemp =>
      rw [hold (h.lt_fresh hmemp)]
      exact h.alive p hmemp
    | inr heq =>
      rw [heq]
      exact ⟨a, hnew⟩
  · intro k p
    rw [hmem]
    by_cases hk : k = key a
    · subst hk
      have hindex : (s.add (key a) a).index (key a) = some s.fresh := update_self ..
      rw [hindex, some.injEq]
      constructor
      · rintro rfl
        exact ⟨.inr rfl, a, hnew, rfl⟩
      · rintro ⟨hp, b, hb, hba⟩
        refine (hp.resolve_left fun hmemp => ?_).symm
        rw [hold (h.lt_fresh hmemp)] at hb
        have hpi := h.index_of_mem hmemp hb
        rw [hba, ha] at hpi
        cases hpi
    · have hindex : (s.add (key a) a).index k = s.index k := update_of_ne hk _ _
      rw [hindex, h.indexed]
      constructor
      · rintro ⟨hp, b, hb, hbk⟩
        exact ⟨.inl hp, b, by rwa [hold (h.lt_fresh hp)], hbk⟩
      · rintro ⟨hp, b, hb, hbk⟩
        cases hp with
        | inl hmemp => exact ⟨hmemp, b, by rwa [hold (h.lt_fresh hmemp)] at hb, hbk⟩
        | inr heq =>
          rw [heq, hnew] at hb
          cases hb
          exact absurd hbk.symm hk
  · have happ : (s.add (key a) a).vector.filterMap id = s.vector.filterMap id ++ [s.fresh] := by
      simp [IndexedStore.add]
    rw [happ]
    refine nodup_append.mpr ⟨h.nodup, nodup_singleton _, fun p hp q hq => ?_⟩
    have hpm : some p ∈ s.vector := by simpa using hp
    rw [mem_singleton.mp hq]
    exact Nat.ne_of_lt (h.lt_fresh hpm)
  · intro p b hb
    by_cases hp : p = s.fresh
    · rw [hp]
      exact Nat.lt_succ_self _
    · have hpo : (s.add (key a) a).objects p = s.objects p := update_of_ne hp _ _
      rw [hpo] at hb
      exact Nat.lt_succ_of_lt (h.below p b hb)

/-- An object may change as long as its key stays. -/
theorem write {a b : α} (ha : s.objects p = some a) (hab : key b = key a) :
    Sound key (s.write p b) := by
  have hself : (s.write p b).objects p = some b := update_self ..
  have hother {q : Nat} (hq : q ≠ p) : (s.write p b).objects q = s.objects q := update_of_ne hq _ _
  constructor
  · intro q hq
    by_cases hqp : q = p
    · exact ⟨b, hqp ▸ hself⟩
    · rw [hother hqp]
      exact h.alive q hq
  · intro k q
    rw [show (s.write p b).index k = s.index k from rfl, h.indexed]
    by_cases hqp : q = p
    · subst hqp
      rw [hself, ha]
      simp [IndexedStore.write, hab]
    · rw [hother hqp]
      rfl
  · exact h.nodup
  · intro q c hc
    by_cases hqp : q = p
    · rw [hqp]
      exact h.below p a ha
    · rw [hother hqp] at hc
      exact h.below q c hc

/-- The slot of an object that is erased is the only one that points to it. -/
theorem erase [DecidableEq κ] {a : α} (hi : s.vector[i]? = some (some p)) (ha : s.objects p = some a) :
    Sound key (s.erase i p (key a)) := by
  obtain ⟨hlt, hget⟩ := List.getElem?_eq_some_iff.mp hi
  obtain ⟨front, back, hvec, -, hset⟩ : ∃ front back, s.vector = front ++ s.vector[i] :: back ∧ front.length = i ∧
      s.vector.set i none = front ++ none :: back := exists_of_set hlt
  rw [hget] at hvec
  have hnodup := h.nodup
  rw [hvec, filterMap_append, filterMap_cons] at hnodup
  have hpf : some p ∉ front ++ none :: back := by
    intro hmem
    have hpos : p ∈ front.filterMap id ++ back.filterMap id := by
      simpa using hmem
    exact (nodup_cons.mp (nodup_middle.mp hnodup)).1 hpos
  have hmem (q : Nat) : some q ∈ (s.erase i p (key a)).vector ↔ some q ∈ s.vector ∧ q ≠ p := by
    rw [show (s.erase i p (key a)).vector = front ++ none :: back from hset]
    constructor
    · intro hq
      refine ⟨?_, fun heq => hpf (heq ▸ hq)⟩
      rw [hvec]
      simp only [mem_append, mem_cons, reduceCtorEq, false_or] at hq ⊢
      exact hq.imp id .inr
    · rintro ⟨hq, hne⟩
      rw [hvec] at hq
      simp only [mem_append, mem_cons, some.injEq, hne, false_or] at hq
      simp only [mem_append, mem_cons]
      exact hq.imp id .inr
  have hother {q : Nat} (hq : q ≠ p) : (s.erase i p (key a)).objects q = s.objects q := update_of_ne hq _ _
  constructor
  · intro q hq
    obtain ⟨hqm, hne⟩ := (hmem q).mp hq
    rw [hother hne]
    exact h.alive q hqm
  · intro k q
    rw [hmem]
    by_cases hk : k = key a
    · subst hk
      have hindex : (s.erase i p (key a)).index (key a) = none := update_self ..
      rw [hindex]
      constructor
      · intro hnone
        cases hnone
      · rintro ⟨⟨hq, hne⟩, b, hb, hbk⟩
        rw [hother hne] at hb
        exact absurd (h.eq_of_key hq (mem_of_getElem? hi) hb ha hbk) hne
    · have hindex : (s.erase i p (key a)).index k = s.index k := update_of_ne hk _ _
      rw [hindex, h.indexed]
      constructor
      · rintro ⟨hq, b, hb, hbk⟩
        have hne : q ≠ p := by
          rintro rfl
          rw [ha] at hb
          cases hb
          exact hk hbk.symm
        exact ⟨⟨hq, hne⟩, b, by rwa [hother hne], hbk⟩
      · rintro ⟨⟨hq, hne⟩, b, hb, hbk⟩
        exact ⟨hq, b, by rwa [hother hne] at hb, hbk⟩
  · rw [show (s.erase i p (key a)).vector = front ++ none :: back from hset, filterMap_append, filterMap_cons]
    exact (nodup_cons.mp (nodup_middle.mp hnodup)).2
  · intro q b hb
    by_cases hqp : q = p
    · rw [show (s.erase i p (key a)).objects q = none from hqp ▸ update_self ..] at hb
      cases hb
    · rw [hother hqp] at hb
      exact h.below q b hb

theorem compact : Sound key s.compact := by
  have hmem (p : Nat) : some p ∈ s.compact.vector ↔ some p ∈ s.vector := by
    simp [IndexedStore.compact]
  constructor
  · intro p hp
    exact h.alive p ((hmem p).mp hp)
  · intro k p
    rw [hmem]
    exact h.indexed k p
  · exact (filter_sublist.filterMap id).nodup h.nodup
  · exact h.below

end

end Sound

theorem compact_vector_ne_none (s : IndexedStore κ α) : ∀ e ∈ s.compact.vector, e ≠ none := by
  intro e he
  rintro rfl
  simp [compact] at he

end IndexedStore
