import Mathlib

/-!
# Histories

What holds of every entry of a history together with the entries before it.
-/
namespace Histories

variable {α : Type} {p : List α → α → Prop} {l l' : List α} {a : α}

/-- Every entry has the property `p`, in view of what came before it. -/
def Throughout (p : List α → α → Prop) (l : List α) : Prop := ∀ before a after, l = before ++ a :: after → p before a

theorem throughout_nil : Throughout p [] := by
  intro before a after h
  cases before with
  | nil => cases h
  | cons b before => cases h

theorem throughout_cons : Throughout p (a :: l) ↔ p [] a ∧ Throughout (fun before => p (a :: before)) l := by
  constructor
  · intro h
    constructor
    · exact h [] a l rfl
    · intro before b after hl
      exact h (a :: before) b after (by rw [hl]; rfl)
  · intro h before b after hl
    cases before with
    | nil =>
      cases hl
      exact h.1
    | cons c before =>
      injection hl with hhead htail
      subst hhead
      exact h.2 before b after htail

theorem throughout_append : Throughout p (l ++ l') ↔ Throughout p l ∧ Throughout (fun before => p (l ++ before)) l' := by
  induction l generalizing p with
  | nil => exact ⟨fun h => ⟨throughout_nil, h⟩, fun h => h.2⟩
  | cons a l ih =>
    rw [List.cons_append, throughout_cons, throughout_cons, ih, and_assoc]
    rfl

theorem Throughout.append (h : Throughout p l) (h' : Throughout (fun before => p (l ++ before)) l') : Throughout p (l ++ l') :=
  throughout_append.mpr ⟨h, h'⟩

/-- Entries that need no justification. -/
theorem throughout_of_forall (h : ∀ a ∈ l, ∀ before, p before a) : Throughout p l := by
  intro before a after hl
  exact h a (hl ▸ List.mem_append_right before List.mem_cons_self) before

end Histories
