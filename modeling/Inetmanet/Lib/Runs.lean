import Mathlib

/-!
# Runs of a machine whose steps may fail

A run is a sequence of inputs. `EveryState` says what holds of all states a run
goes through, `EveryStep` what holds whenever it takes an input, `EveryTransition`
what holds between the states before and after an input.
-/
namespace Runs

open List

variable {σ ι ε : Type} (step : σ → ι → Except ε σ)

def run (s : σ) (is : List ι) : Except ε σ := is.foldlM step s

def EveryState (p : σ → Prop) (s : σ) (is : List ι) : Prop :=
  ∀ is₁ s₁, is₁ <+: is → run step s is₁ = .ok s₁ → p s₁

def EveryStep (p : σ → ι → Prop) (s : σ) (is : List ι) : Prop :=
  ∀ is₁ i s₁, is₁ ++ [i] <+: is → run step s is₁ = .ok s₁ → p s₁ i

def EveryTransition (r : σ → ι → σ → Prop) (s : σ) (is : List ι) : Prop :=
  EveryStep step (fun s₁ i => ∀ s₂, step s₁ i = .ok s₂ → r s₁ i s₂) s is

variable {step} {p : σ → Prop} {q : σ → ι → Prop} {s : σ}

@[simp] theorem run_nil : run step s [] = .ok s := rfl

theorem run_cons {i : ι} {is : List ι} {s₁ : σ} :
    run step s (i :: is) = .ok s₁ ↔ ∃ s', step s i = .ok s' ∧ run step s' is = .ok s₁ := by
  simp only [run, foldlM_cons]
  cases step s i with
  | ok s' => simp only [bind, Except.bind, Except.ok.injEq, exists_eq_left']
  | error e => simp only [bind, Except.bind, reduceCtorEq, false_and, exists_false]

theorem run_append {is₁ is₂ : List ι} {s₂ : σ} :
    run step s (is₁ ++ is₂) = .ok s₂ ↔ ∃ s₁, run step s is₁ = .ok s₁ ∧ run step s₁ is₂ = .ok s₂ := by
  induction is₁ generalizing s with
  | nil => simp
  | cons i is₁ ih => simp only [List.cons_append, run_cons, ih]; grind

theorem everyState_nil : EveryState step p s [] ↔ p s := by
  simp only [EveryState, prefix_nil]
  constructor
  · intro h
    exact h [] s rfl rfl
  · rintro h _ s₁ rfl hs₁
    cases hs₁
    exact h

theorem everyState_cons {i : ι} {is : List ι} :
    EveryState step p s (i :: is) ↔ p s ∧ ∀ s', step s i = .ok s' → EveryState step p s' is := by
  constructor
  · refine fun h => ⟨h [] s nil_prefix rfl, fun s' hs' is₁ s₁ hpre hs₁ => ?_⟩
    exact h (i :: is₁) s₁ (cons_prefix_cons.mpr ⟨rfl, hpre⟩) (run_cons.mpr ⟨s', hs', hs₁⟩)
  · rintro ⟨h, ht⟩ is₁ s₁ hpre hs₁
    cases is₁ with
    | nil =>
      cases hs₁
      exact h
    | cons j is₁ =>
      obtain ⟨rfl, htail⟩ := cons_prefix_cons.mp hpre
      obtain ⟨s', hs', hs₁⟩ := run_cons.mp hs₁
      exact ht s' hs' is₁ s₁ htail hs₁

theorem everyStep_nil : EveryStep step q s [] := by
  intro is₁ i s₁ hpre
  simp at hpre

theorem everyStep_cons {i : ι} {is : List ι} :
    EveryStep step q s (i :: is) ↔ q s i ∧ ∀ s', step s i = .ok s' → EveryStep step q s' is := by
  constructor
  · refine fun h => ⟨h [] i s (by simp) rfl, fun s' hs' is₁ j s₁ hpre hs₁ => ?_⟩
    exact h (i :: is₁) j s₁ (cons_prefix_cons.mpr ⟨rfl, hpre⟩) (run_cons.mpr ⟨s', hs', hs₁⟩)
  · rintro ⟨h, ht⟩ is₁ j s₁ hpre hs₁
    cases is₁ with
    | nil =>
      cases hs₁
      obtain ⟨rfl, -⟩ := cons_prefix_cons.mp hpre
      exact h
    | cons k is₁ =>
      obtain ⟨rfl, htail⟩ := cons_prefix_cons.mp hpre
      obtain ⟨s', hs', hs₁⟩ := run_cons.mp hs₁
      exact ht s' hs' is₁ j s₁ htail hs₁

theorem EveryStep.cons {i : ι} {is : List ι} {s' : σ} (hi : q s i) (hs : step s i = .ok s')
    (h : EveryStep step q s' is) : EveryStep step q s (i :: is) := by
  refine everyStep_cons.mpr ⟨hi, fun s'' hs'' => ?_⟩
  cases hs.symm.trans hs''
  exact h

/-- Goes through a run and looks at every step. -/
def check (step : σ → ι → Except ε σ) (q : σ → ι → Prop) [∀ s i, Decidable (q s i)] : σ → List ι → Bool
  | _, [] => true
  | s, i :: is =>
    decide (q s i) && match step s i with
      | .ok s' => check step q s' is
      | .error _ => true

theorem everyStep_of_check [∀ s i, Decidable (q s i)] {is : List ι} (h : check step q s is = true) :
    EveryStep step q s is := by
  induction is generalizing s with
  | nil => exact everyStep_nil
  | cons i is ih =>
    rw [check, Bool.and_eq_true, decide_eq_true_eq] at h
    refine everyStep_cons.mpr ⟨h.1, fun s' hs' => ih ?_⟩
    have ht := h.2
    rwa [hs'] at ht

theorem EveryStep.take {is₁ is₂ : List ι} (h : EveryStep step q s (is₁ ++ is₂)) : EveryStep step q s is₁ :=
  fun is₃ j s₃ hpre hs₃ => h is₃ j s₃ (hpre.trans (prefix_append is₁ is₂)) hs₃

theorem everyTransition_congr {r r' : σ → ι → σ → Prop}
    (h : ∀ s₁ i s₂, step s₁ i = .ok s₂ → (r s₁ i s₂ ↔ r' s₁ i s₂)) (is : List ι) :
    EveryTransition step r s is ↔ EveryTransition step r' s is := by
  constructor
  · intro hr is₁ i s₁ hpre hs₁ s₂ hs₂
    exact (h s₁ i s₂ hs₂).mp (hr is₁ i s₁ hpre hs₁ s₂ hs₂)
  · intro hr is₁ i s₁ hpre hs₁ s₂ hs₂
    exact (h s₁ i s₂ hs₂).mpr (hr is₁ i s₁ hpre hs₁ s₂ hs₂)

/-- The rule of runs: what good steps keep holds of every state. -/
theorem EveryStep.everyState (hstep : ∀ s i s', p s → q s i → step s i = .ok s' → p s') {is : List ι} (hs : p s)
    (h : EveryStep step q s is) : EveryState step p s is := by
  induction is generalizing s with
  | nil => exact everyState_nil.mpr hs
  | cons i is ih =>
    obtain ⟨hi, ht⟩ := everyStep_cons.mp h
    exact everyState_cons.mpr ⟨hs, fun s' hs' => ih (hstep s i s' hs hi hs') (ht s' hs')⟩

/-- What good steps keep holds between the states of every step. -/
theorem EveryStep.everyTransition {r : σ → ι → σ → Prop} (hstep : ∀ s i s', p s → q s i → step s i = .ok s' → p s' ∧ r s i s')
    {is : List ι} (hs : p s) (h : EveryStep step q s is) : EveryTransition step r s is := by
  intro is₁ i s₁ hpre hs₁ s₂ hs₂
  have hstate := h.everyState (fun s i s' hp hq hi => (hstep s i s' hp hq hi).1) hs
  exact (hstep s₁ i s₂ (hstate is₁ s₁ ((prefix_append is₁ [i]).trans hpre) hs₁) (h is₁ i s₁ hpre hs₁) hs₂).2

/-- A run of steps that do not fail goes through. -/
theorem EveryStep.run_ok (hstep : ∀ s i, p s → q s i → ∃ s', step s i = .ok s' ∧ p s') {is : List ι} (hs : p s)
    (h : EveryStep step q s is) : ∃ s', run step s is = .ok s' := by
  induction is generalizing s with
  | nil => exact ⟨s, rfl⟩
  | cons i is ih =>
    obtain ⟨hi, ht⟩ := everyStep_cons.mp h
    obtain ⟨s₁, hs₁, hp⟩ := hstep s i hs hi
    obtain ⟨s', hs'⟩ := ih hp (ht s₁ hs₁)
    exact ⟨s', run_cons.mpr ⟨s₁, hs₁, hs'⟩⟩

/-- An invariant holds of the last state. -/
theorem run_invariant (hstep : ∀ s i s', p s → step s i = .ok s' → p s') {is : List ι} (hs : p s) {s₁ : σ}
    (h : run step s is = .ok s₁) : p s₁ := by
  induction is generalizing s with
  | nil =>
    cases h
    exact hs
  | cons i is ih =>
    obtain ⟨s', hs', h⟩ := run_cons.mp h
    exact ih (hstep s i s' hs hs') h

/-- If good steps are exactly those that keep `p`, then `p` holds throughout a run exactly if all its steps are good. -/
theorem everyState_iff_everyStep {inv : σ → Prop} (hinv : ∀ s i s', inv s → step s i = .ok s' → inv s')
    (hgood : ∀ s i s', inv s → p s → q s i → step s i = .ok s' → p s')
    (hbad : ∀ s i, inv s → p s → ¬ q s i → ∃ s', step s i = .ok s' ∧ ¬ p s') {is : List ι} (hi : inv s) (hs : p s) :
    EveryState step p s is ↔ EveryStep step q s is := by
  induction is generalizing s with
  | nil => exact ⟨fun _ => everyStep_nil, fun _ => everyState_nil.mpr hs⟩
  | cons i is ih =>
    rw [everyState_cons, everyStep_cons]
    constructor
    · rintro ⟨-, ht⟩
      have hq : q s i := by
        by_contra hq
        obtain ⟨s', hs', hp⟩ := hbad s i hi hs hq
        exact hp (ht s' hs' [] s' nil_prefix rfl)
      refine ⟨hq, fun s' hs' => ?_⟩
      exact (ih (hinv s i s' hi hs') (hgood s i s' hi hs hq hs')).mp (ht s' hs')
    · rintro ⟨hq, ht⟩
      refine ⟨hs, fun s' hs' => ?_⟩
      exact (ih (hinv s i s' hi hs') (hgood s i s' hi hs hq hs')).mpr (ht s' hs')

end Runs
