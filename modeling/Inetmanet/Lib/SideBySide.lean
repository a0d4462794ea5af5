import Inetmanet.Lib.Runs

/-!
# Two computations side by side

`SideBySide r x y`: both computations fail alike, or both go through and their results
are related by `r`. One rule for each way to put computations together, so that two
programs are compared along their texts.
-/

/-- The results are related, or the errors are the same. -/
def SideBySide {ε α β : Type} (r : α → β → Prop) : Except ε α → Except ε β → Prop
  | .ok a, .ok b => r a b
  | .error e, .error e' => e = e'
  | .ok _, .error _ => False
  | .error _, .ok _ => False

namespace SideBySide

variable {ε α β α' β' ι ι' : Type} {r : α → β → Prop} {r' : α' → β' → Prop} {x : Except ε α} {y : Except ε β}

theorem ok {a : α} {b : β} (h : r a b) : SideBySide r (.ok a : Except ε α) (.ok b) := h

theorem pure {a : α} {b : β} (h : r a b) : SideBySide r (pure a : Except ε α) (pure b) := h

theorem error (r : α → β → Prop) (e : ε) : SideBySide r (.error e) (.error e) := rfl

theorem throw (r : α → β → Prop) (e : ε) : SideBySide r (throw e : Except ε α) (throw e : Except ε β) := rfl

theorem refl (x : Except ε α) : SideBySide Eq x x := by
  cases x with
  | ok a => exact rfl
  | error e => exact rfl

theorem eq {x y : Except ε α} (h : SideBySide Eq x y) : x = y := by
  cases x with
  | ok a =>
    cases y with
    | ok b => exact congrArg Except.ok h
    | error e => exact h.elim
  | error e =>
    cases y with
    | ok b => exact h.elim
    | error e' => exact congrArg Except.error h

/-- What follows may rely on the first result. -/
theorem bind_of {f : α → Except ε α'} {g : β → Except ε β'} (h : SideBySide r x y)
    (hrest : ∀ a b, x = .ok a → r a b → SideBySide r' (f a) (g b)) : SideBySide r' (x >>= f) (y >>= g) := by
  cases x with
  | ok a =>
    cases y with
    | ok b => exact hrest a b rfl h
    | error e => exact h.elim
  | error e =>
    cases y with
    | ok b => exact h.elim
    | error e' => exact h

theorem bind {f : α → Except ε α'} {g : β → Except ε β'} (h : SideBySide r x y)
    (hrest : ∀ a b, r a b → SideBySide r' (f a) (g b)) : SideBySide r' (x >>= f) (y >>= g) :=
  bind_of h fun a b _ => hrest a b

/-- Both take the same branch. -/
theorem ite {p q : Prop} [Decidable p] [Decidable q] {x' : Except ε α} {y' : Except ε β} (hiff : p ↔ q)
    (hpos : p → SideBySide r x y) (hneg : ¬ p → SideBySide r x' y') :
    SideBySide r (if p then x else x') (if q then y else y') := by
  by_cases hp : p
  · rw [if_pos hp, if_pos (hiff.mp hp)]
    exact hpos hp
  · rw [if_neg hp, if_neg (mt hiff.mpr hp)]
    exact hneg hp

/-- The rule of runs whose steps are good in the one machine. -/
theorem run {step : α → ι → Except ε α} {step' : β → ι' → Except ε β} {q : α → ι → Prop} (correspond : ι → ι')
    (hstep : ∀ a b i, r a b → q a i → SideBySide r (step a i) (step' b (correspond i))) {l : List ι} {a : α} {b : β}
    (h : r a b) (hgood : Runs.EveryStep step q a l) :
    SideBySide r (Runs.run step a l) (Runs.run step' b (l.map correspond)) := by
  induction l generalizing a b with
  | nil => exact h
  | cons i l ih =>
    obtain ⟨hi, hrest⟩ := Runs.everyStep_cons.mp hgood
    exact bind_of (hstep a b i h hi) fun a' b' ha' h' => ih h' (hrest a' ha')

/-- The rule of loops over lists whose elements correspond. -/
theorem foldlM {f : α → ι → Except ε α} {g : β → ι' → Except ε β} (correspond : ι → ι')
    (hstep : ∀ a b i, r a b → SideBySide r (f a i) (g b (correspond i))) (l : List ι) {a : α} {b : β} (h : r a b) :
    SideBySide r (l.foldlM f a) ((l.map correspond).foldlM g b) :=
  run (q := fun _ _ => True) correspond (fun a b i h _ => hstep a b i h) h fun _ _ _ _ _ => trivial

end SideBySide
