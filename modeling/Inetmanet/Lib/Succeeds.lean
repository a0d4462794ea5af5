import Mathlib

/-!
# Total correctness of computations that may fail

`Succeeds x p`: `x` goes through, and its result has the property `p`. One rule for
each way to put computations together.
-/

/-- The computation gives a result, and the result has the property `p`. -/
def Succeeds {ε α : Type} (x : Except ε α) (p : α → Prop) : Prop := ∃ a, x = .ok a ∧ p a

namespace Succeeds

open List

variable {ε α β : Type} {p q : α → Prop} {r : β → Prop}

theorem ok {a : α} (h : p a) : Succeeds (.ok a : Except ε α) p := ⟨a, rfl, h⟩

theorem mono {x : Except ε α} (hx : Succeeds x p) (h : ∀ a, p a → q a) : Succeeds x q := by
  obtain ⟨a, ha, hp⟩ := hx
  exact ⟨a, ha, h a hp⟩

theorem bind {x : Except ε α} {f : α → Except ε β} (hx : Succeeds x p) (hf : ∀ a, p a → Succeeds (f a) r) :
    Succeeds (x >>= f) r := by
  obtain ⟨a, rfl, hp⟩ := hx
  exact hf a hp

theorem ite {c : Prop} [Decidable c] {x y : Except ε α} (hx : c → Succeeds x p) (hy : ¬ c → Succeeds y p) :
    Succeeds (if c then x else y) p := by
  by_cases h : c
  · rw [if_pos h]
    exact hx h
  · rw [if_neg h]
    exact hy h

/-- The rule of loops: the invariant also says what is left to do. -/
theorem foldlM {I : List β → α → Prop} {f : α → β → Except ε α}
    (hf : ∀ a b l, I (b :: l) a → Succeeds (f a b) (I l)) {l : List β} {a : α} (ha : I l a) :
    Succeeds (l.foldlM f a) (I []) := by
  induction l generalizing a with
  | nil => exact ok ha
  | cons b l ih =>
    exact bind (hf a b l ha) fun a' ha' => ih ha'

theorem map {f : α → β} {x : Except ε α} (hx : Succeeds x fun a => r (f a)) : Succeeds (f <$> x) r := by
  obtain ⟨a, rfl, hp⟩ := hx
  exact ⟨f a, rfl, hp⟩

/-- Steps that go through wherever the invariant `p` holds can be taken forever. -/
theorem forever {f : Nat → α → Except ε α} {t : Nat → α → α → Prop}
    (hf : ∀ n a, p a → Succeeds (f n a) fun a' => p a' ∧ t n a a') {a : α} (ha : p a) :
    ∃ history : Nat → α, history 0 = a ∧ (∀ n, f n (history n) = .ok (history (n + 1))) ∧ (∀ n, p (history n)) ∧
      ∀ n, t n (history n) (history (n + 1)) := by
  have hnext (n : Nat) (s : Subtype p) : ∃ s' : Subtype p, f n s = .ok s' ∧ t n s s' := by
    obtain ⟨a', hok, hp, ht⟩ := hf n s s.2
    exact ⟨⟨a', hp⟩, hok, ht⟩
  have hchoice : ∃ next : Nat → Subtype p → Subtype p, ∀ n (s : Subtype p), f n s = .ok (next n s) ∧ t n s (next n s) :=
    ⟨fun n s => (hnext n s).choose, fun n s => (hnext n s).choose_spec⟩
  obtain ⟨next, hspec⟩ := hchoice
  let history : Nat → Subtype p := Nat.rec ⟨a, ha⟩ next
  exact ⟨fun n => (history n).1, rfl, fun n => (hspec n (history n)).1, fun n => (history n).2, fun n => (hspec n (history n)).2⟩

/-- A computation for each element of a list. -/
theorem mapM {f : α → Except ε β} {l : List α} (hf : ∀ a ∈ l, Succeeds (f a) r) : Succeeds (l.mapM f) fun _ => True := by
  induction l with
  | nil => exact ok trivial
  | cons a l ih =>
    rw [mapM_cons]
    refine bind (hf a mem_cons_self) fun b _ => ?_
    refine bind (ih fun a' ha' => hf a' (mem_cons_of_mem _ ha')) fun bs _ => ?_
    exact ok trivial

/-- The results stand in the order of the elements. -/
theorem mapM_getElem? {f : α → Except ε β} {R : α → β → Prop} {l : List α} (hf : ∀ a ∈ l, Succeeds (f a) (R a)) :
    Succeeds (l.mapM f) fun bs => bs.length = l.length ∧ ∀ (j : Nat) a, l[j]? = some a → ∃ b, bs[j]? = some b ∧ R a b := by
  induction l with
  | nil => exact ok ⟨rfl, fun j a ha => by simp at ha⟩
  | cons a l ih =>
    rw [mapM_cons]
    refine bind (hf a mem_cons_self) fun b hb => ?_
    refine bind (ih fun a' ha' => hf a' (mem_cons_of_mem _ ha')) fun bs hbs => ?_
    refine ok ⟨congrArg Nat.succ hbs.1, fun j a' ha' => ?_⟩
    cases j with
    | zero =>
      cases Option.some.inj ha'
      exact ⟨b, rfl, hb⟩
    | succ j => exact hbs.2 j a' ha'

theorem mapM_ok {f : α → Except ε β} {l : List α} {bs : List β} (h : l.mapM f = .ok bs) :
    (∀ a ∈ l, ∃ b ∈ bs, f a = .ok b) ∧ ∀ b ∈ bs, ∃ a ∈ l, f a = .ok b := by
  induction l generalizing bs with
  | nil =>
    cases h
    exact ⟨fun a ha => absurd ha not_mem_nil, fun b hb => absurd hb not_mem_nil⟩
  | cons a l ih =>
    rw [mapM_cons] at h
    cases hb : f a with
    | error e =>
      rw [hb] at h
      cases h
    | ok b =>
      rw [hb] at h
      cases hbs : l.mapM f with
      | error e =>
        rw [hbs] at h
        cases h
      | ok bs' =>
        rw [hbs] at h
        cases h
        obtain ⟨hleft, hright⟩ := ih hbs
        constructor
        · intro a' ha'
          cases mem_cons.mp ha' with
          | inl heq => exact ⟨b, mem_cons_self, heq ▸ hb⟩
          | inr hmem =>
            obtain ⟨b', hb', hf⟩ := hleft a' hmem
            exact ⟨b', mem_cons_of_mem _ hb', hf⟩
        · intro b' hb'
          cases mem_cons.mp hb' with
          | inl heq => exact ⟨a, mem_cons_self, heq ▸ hb⟩
          | inr hmem =>
            obtain ⟨a', ha', hf⟩ := hright b' hmem
            exact ⟨a', mem_cons_of_mem _ ha', hf⟩

end Succeeds
