import Mathlib

/-!
# Observations

An object is known by the answers to its calls. Two states are indistinguishable
if no sequence of calls tells one from the other, by an answer or by an error.
-/
namespace Observations

variable {σ κ α ε : Type}

/-- The state after a sequence of calls. -/
def after (call : σ → κ → Except ε (α × σ)) (s : σ) : List κ → Except ε σ
  | [] => .ok s
  | c :: calls => do
    let (_, s) ← call s c
    after call s calls

/-- What a sequence of calls answers. -/
def answers (call : σ → κ → Except ε (α × σ)) (s : σ) : List κ → Except ε (List α)
  | [] => .ok []
  | c :: calls => do
    let (a, s) ← call s c
    return a :: (← answers call s calls)

def Indistinguishable (call : σ → κ → Except ε (α × σ)) (s t : σ) : Prop :=
  ∀ calls, answers call s calls = answers call t calls

variable {call : σ → κ → Except ε (α × σ)} {s s' t : σ} {c : κ} {calls : List κ} {a : α} {l : List α}

theorem Indistinguishable.of_eq (h : s = t) : Indistinguishable call s t := by
  intro calls
  rw [h]

/-- A sequence of calls goes through call by call. -/
theorem answers_cons_ok : answers call s (c :: calls) = .ok (a :: l) ↔
    ∃ s', call s c = .ok (a, s') ∧ answers call s' calls = .ok l := by
  rw [answers]
  cases hcall : call s c with
  | error e => simp [bind, Except.bind]
  | ok r =>
    obtain ⟨b, s'⟩ := r
    cases hrest : answers call s' calls with
    | error e =>
      simp only [bind, Except.bind, hrest, Except.ok.injEq, Prod.mk.injEq]
      constructor
      · intro h
        cases h
      · rintro ⟨t', ⟨-, rfl⟩, h⟩
        rw [hrest] at h
        cases h
    | ok l' =>
      simp only [bind, Except.bind, hrest, pure, Except.pure, Except.ok.injEq, Prod.mk.injEq, List.cons.injEq]
      constructor
      · rintro ⟨rfl, rfl⟩
        exact ⟨s', ⟨rfl, rfl⟩, hrest⟩
      · rintro ⟨t', ⟨rfl, rfl⟩, h⟩
        rw [hrest] at h
        exact ⟨rfl, Except.ok.inj h⟩

/-- A call whose answer is known is passed over. -/
theorem answers_cons_of_ok (s' : σ) (h : call s c = .ok (a, s')) (hrest : answers call s' calls = .ok l) :
    answers call s (c :: calls) = .ok (a :: l) := answers_cons_ok.mpr ⟨s', h, hrest⟩

end Observations
