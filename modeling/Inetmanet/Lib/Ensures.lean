import Mathlib

/-!
# Partial correctness of computations that may fail

`Ensures x p`: if `x` goes through, its result has the property `p`. One rule for
each way to put computations together, so that a property of a program is proved
along its text.
-/

/-- What a computation gives has the property `p`. -/
def Ensures {ε α : Type} (x : Except ε α) (p : α → Prop) : Prop := ∀ a, x = .ok a → p a

namespace Ensures

variable {ε α β : Type} {p q : α → Prop} {r : β → Prop}

theorem pure {a : α} (h : p a) : Ensures (ε := ε) (pure a) p := by
  intro b hb
  cases hb
  exact h

theorem ok {a : α} (h : p a) : Ensures (ε := ε) (.ok a) p := pure h

theorem throw {e : ε} : Ensures (throw e : Except ε α) p := by
  intro b hb
  cases hb

theorem error {e : ε} : Ensures (.error e : Except ε α) p := throw

theorem mono {x : Except ε α} (hx : Ensures x p) (h : ∀ a, p a → q a) : Ensures x q :=
  fun a ha => h a (hx a ha)

theorem and {x : Except ε α} (hp : Ensures x p) (hq : Ensures x q) : Ensures x fun a => p a ∧ q a :=
  fun a ha => ⟨hp a ha, hq a ha⟩

theorem bind {x : Except ε α} {f : α → Except ε β} (hx : Ensures x p) (hf : ∀ a, p a → Ensures (f a) r) :
    Ensures (x >>= f) r := by
  intro b hb
  cases x with
  | ok a => exact hf a (hx a rfl) b hb
  | error e => cases hb

/-- Whatever the first computation gives. -/
theorem bind_any {x : Except ε α} {f : α → Except ε β} (hf : ∀ a, Ensures (f a) r) : Ensures (x >>= f) r :=
  .bind (p := fun _ => True) (fun _ _ => trivial) fun a _ => hf a

theorem map {x : Except ε α} {f : α → β} (hx : Ensures x fun a => r (f a)) : Ensures (x.map f) r := by
  intro b hb
  cases x with
  | ok a =>
    cases hb
    exact hx a rfl
  | error e => cases hb

theorem ite {c : Prop} [Decidable c] {x y : Except ε α} (hx : c → Ensures x p) (hy : ¬ c → Ensures y p) :
    Ensures (if c then x else y) p := by
  by_cases h : c
  · rw [if_pos h]
    exact hx h
  · rw [if_neg h]
    exact hy h

/-- The rule of loops: the invariant also says what is left to do. -/
theorem foldlM {I : List β → α → Prop} {f : α → β → Except ε α}
    (hf : ∀ a b l, I (b :: l) a → Ensures (f a b) (I l)) {l : List β} {a : α} (ha : I l a) :
    Ensures (l.foldlM f a) (I []) := by
  induction l generalizing a with
  | nil => exact pure ha
  | cons b l ih =>
    exact bind (hf a b l ha) fun a' ha' => ih ha'

theorem foldlM_invariant {f : α → β → Except ε α} (hf : ∀ a b, p a → Ensures (f a b) p) {l : List β} {a : α} (ha : p a) :
    Ensures (l.foldlM f a) p :=
  foldlM (I := fun _ => p) (fun a b _ => hf a b) ha

end Ensures
