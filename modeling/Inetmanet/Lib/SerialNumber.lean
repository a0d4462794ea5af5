import Mathlib

/-!
# Serial numbers

Positions of an unbounded sequence are natural numbers; on the wire only the
position modulo `2 ^ w` is carried, counted from an arbitrary base. Two serial
numbers are compared through their difference, which agrees with the order of
the positions as long as these are at most half the number space apart.
-/
namespace SerialNumber

open BitVec

variable {w : Nat}

/-- The serial number of the position `n` places after `base`. -/
def nth (base : BitVec w) (n : Nat) : BitVec w := base + BitVec.ofNat w n

/-- `a` comes before `b` or equals it. -/
def Le (a b : BitVec w) : Prop := (b - a).toNat < 2 ^ (w - 1)
deriving Decidable

/-- `a` comes strictly before `b`. -/
def Lt (a b : BitVec w) : Prop := a ≠ b ∧ Le a b
deriving Decidable

section

variable (base : BitVec w)
include base

@[simp] theorem nth_zero : nth base 0 = base := by simp [nth]

theorem nth_add (m n : Nat) :
    nth base (m + n) = nth base m + BitVec.ofNat w n := by
  simp [nth, ofNat_add, BitVec.add_assoc]

theorem nth_succ (n : Nat) : nth base (n + 1) = nth base n + 1 :=
  nth_add base n 1

/-- Counting from a later base. -/
theorem nth_nth (m n : Nat) : nth (nth base m) n = nth base (m + n) :=
  (nth_add base m n).symm

end

/-- Every serial number is a position of the first period. -/
theorem eq_nth (base a : BitVec w) : a = nth base (a - base).toNat := by
  simp only [nth, ofNat_toNat, setWidth_eq]
  grind

variable {m n : Nat}

theorem nth_sub (base : BitVec w) (h : m ≤ n) :
    nth base n - nth base m = BitVec.ofNat w (n - m) := by
  have hn : nth base n = nth base m + BitVec.ofNat w (n - m) := by
    rw [← nth_add, Nat.add_sub_cancel' h]
  grind

/-- The distance of two positions less than one period apart. -/
theorem toNat_nth_sub (base : BitVec w) (h : m ≤ n) (hw : n - m < 2 ^ w) :
    (nth base n - nth base m).toNat = n - m := by
  rw [nth_sub base h, toNat_ofNat, Nat.mod_eq_of_lt hw]

/-- Read the other way round, a distance is the rest of the period. -/
theorem toNat_sub_comm (a b : BitVec w) (h : a ≠ b) :
    (a - b).toNat = 2 ^ w - (b - a).toNat := by
  have hne : (b - a).toNat ≠ 0 := by
    intro h0
    have : b - a = 0 := eq_of_toNat_eq (by simpa using h0)
    exact h (by grind)
  have hneg : a - b = -(b - a) := by grind
  rw [hneg, toNat_neg, Nat.mod_eq_of_lt (by omega)]

theorem nth_inj (base : BitVec w) (h₁ : m < n + 2 ^ w) (h₂ : n < m + 2 ^ w) :
    nth base m = nth base n ↔ m = n := by
  refine ⟨fun h => ?_, fun h => h ▸ rfl⟩
  rcases Nat.le_total m n with hmn | hmn
  · have := toNat_nth_sub base hmn (by omega)
    simp only [h, BitVec.sub_self, toNat_zero] at this
    omega
  · have := toNat_nth_sub base hmn (by omega)
    simp only [h, BitVec.sub_self, toNat_zero] at this
    omega

theorem half_lt (hw : 0 < w) : 2 ^ w = 2 * 2 ^ (w - 1) := by
  rw [← Nat.pow_succ', Nat.succ_eq_add_one, Nat.sub_add_cancel hw]

section

variable (base : BitVec w)
include base

/-- Within half a period the order of serial numbers is that of the positions. -/
theorem le_nth (hw : 0 < w)
    (hmn : n < m + 2 ^ (w - 1)) (hnm : m ≤ n + 2 ^ (w - 1)) :
    Le (nth base m) (nth base n) ↔ m ≤ n := by
  have hp := half_lt hw
  rcases Nat.lt_or_ge n m with h | h
  · have hne : nth base n ≠ nth base m := by
      rw [Ne, nth_inj base (by omega) (by omega)]
      omega
    have hd := toNat_nth_sub base (Nat.le_of_lt h) (by omega)
    have hd' := toNat_sub_comm _ _ hne
    simp only [Le]
    omega
  · have hd := toNat_nth_sub base h (by omega)
    simp only [Le]
    omega

theorem lt_nth (hw : 0 < w)
    (hmn : n < m + 2 ^ (w - 1)) (hnm : m ≤ n + 2 ^ (w - 1)) :
    Lt (nth base m) (nth base n) ↔ m < n := by
  have hp := half_lt hw
  rw [Lt, le_nth base hw hmn hnm, Ne, nth_inj base (by omega) (by omega)]
  omega

/-- More than half a period behind counts as being ahead. -/
theorem le_nth_of_far (hw : 0 < w)
    (hfar : n + 2 ^ (w - 1) < m) (hm : m < n + 2 ^ w) : Le (nth base m) (nth base n) := by
  have hp := half_lt hw
  have hne : nth base n ≠ nth base m := by
    rw [Ne, nth_inj base (by omega) (by omega)]
    omega
  have hd := toNat_nth_sub base (m := n) (n := m) (by omega) (by omega)
  have hd' := toNat_sub_comm _ _ hne
  simp only [Le]
  omega

/-- Half a period ahead counts as being behind. -/
theorem not_le_nth_of_far
    (hfar : m + 2 ^ (w - 1) ≤ n) (hn : n < m + 2 ^ w) : ¬ Le (nth base m) (nth base n) := by
  have hmn : m ≤ n := Nat.le_trans (Nat.le_add_right _ _) hfar
  rw [Le, toNat_nth_sub base hmn (by omega)]
  omega

end

end SerialNumber
