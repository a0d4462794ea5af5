import Mathlib

/-!
# Simulation kernel

The parts of the simulation kernel the modelled modules rest on. A failed
`ASSERT`, a thrown `cRuntimeError` and the use of a null pointer end the
simulation, so every operation that may do so returns `Sim`.
-/
namespace Inet

inductive CRuntimeError where
  /-- `ASSERT(text)` failed. -/
  | assertion (text : String)
  /-- `throw cRuntimeError(text)`, with the format string of the source. -/
  | runtime (text : String)
  | nullPointer (name : String)
  /-- A write outside of the memory allocated for `name`. -/
  | outOfBounds (name : String)
  /-- A loop of the source that never ends. -/
  | diverges
  deriving DecidableEq, Repr

abbrev Sim (α : Type) := Except CRuntimeError α

/-! The literals of small index types share these. -/
instance neZeroOne : NeZero 1 := inferInstance
instance neZeroTwo : NeZero 2 := inferInstance
instance neZeroThree : NeZero 3 := inferInstance
instance neZeroFour : NeZero 4 := inferInstance

/-- Runs can be compared with what they are expected to give. -/
instance {α : Type} [DecidableEq α] : DecidableEq (Sim α)
  | .ok a, .ok b => decidable_of_iff (a = b) (by simp)
  | .error a, .error b => decidable_of_iff (a = b) (by simp)
  | .ok _, .error _ => isFalse (by simp)
  | .error _, .ok _ => isFalse (by simp)

/-- `ASSERT(p)`. -/
def ensure (p : Prop) [Decidable p] (text : String) : Sim Unit :=
  if p then .ok () else .error (.assertion text)

@[simp] theorem ensure_pos {p : Prop} [Decidable p] (h : p) (text : String) :
    ensure p text = .ok () := if_pos h

variable {α β : Type}

/-- A computation that went through has passed its assertion. -/
theorem ensure_bind_ok {p : Prop} [Decidable p] {text : String}
    {f : Unit → Sim α} {a : α} :
    (ensure p text >>= f) = .ok a ↔ p ∧ f () = .ok a := by
  by_cases h : p
  · simp [ensure, h, bind, Except.bind]
  · simp [ensure, h, bind, Except.bind]

/-- Both halves of a computation that went through did so. -/
theorem bind_ok {x : Sim α} {f : α → Sim β} {b : β} :
    (x >>= f) = .ok b ↔ ∃ a, x = .ok a ∧ f a = .ok b := by
  cases x with
  | ok a => simp [bind, Except.bind]
  | error e => simp [bind, Except.bind]

/-- Where a computation fails. -/
theorem bind_error {x : Sim α} {f : α → Sim β} {e : CRuntimeError} :
    (x >>= f) = .error e ↔ x = .error e ∨ ∃ a, x = .ok a ∧ f a = .error e := by
  cases x with
  | ok a => simp [bind, Except.bind]
  | error e' => simp [bind, Except.bind]

theorem ensure_error {p : Prop} [Decidable p] {text : String} {e : CRuntimeError} :
    ensure p text = .error e ↔ ¬ p ∧ e = .assertion text := by
  by_cases h : p
  · simp [ensure, h]
  · simp [ensure, h, eq_comm]

theorem map_fst_ok {x : Sim (α × β)} {a : α} (h : x.map Prod.fst = .ok a) : ∃ b, x = .ok (a, b) := by
  cases x with
  | ok res => exact ⟨res.2, congrArg Except.ok (Prod.ext (Except.ok.inj h) rfl)⟩
  | error e => cases h

/-- A run that goes through has a result. -/
theorem exists_ok {x : Sim α} {p : α → Prop} (hok : x.isOk = true) (h : ∀ a, x = .ok a → p a) :
    ∃ a, x = .ok a ∧ p a := by
  cases x with
  | ok a => exact ⟨a, rfl, h a rfl⟩
  | error e => cases hok

/-- What is required of a result can be checked where the computation went through. -/
instance {α : Type} (x : Sim α) (p : α → Prop) [DecidablePred p] : Decidable (∀ a, x = .ok a → p a) :=
  match x with
  | .ok a => decidable_of_iff (p a) (by simp)
  | .error _ => isTrue (by simp)

/-- `cPacket`: what an application hands to the transport layer. -/
structure CPacket where
  id : Nat
  byteLength : Nat
  deriving DecidableEq, Repr

end Inet
