import Inetmanet.Lib.SerialNumber

/-!
# Transmission sequence numbers

`SCTPAssociation.h`: the comparisons of TSNs and SSNs.
-/
namespace Inet.Sctp

open SerialNumber BitVec

/-- `uint32` -/
abbrev Tsn := BitVec 32

/-- `uint16` -/
abbrev Ssn := BitVec 16

def tsnLt (tsn1 tsn2 : Tsn) : Prop := (tsn1 - tsn2).toInt < 0
deriving Decidable
def tsnLe (tsn1 tsn2 : Tsn) : Prop := (tsn1 - tsn2).toInt ≤ 0
deriving Decidable
def tsnGe (tsn1 tsn2 : Tsn) : Prop := (tsn1 - tsn2).toInt ≥ 0
deriving Decidable
def tsnGt (tsn1 tsn2 : Tsn) : Prop := (tsn1 - tsn2).toInt > 0
deriving Decidable
def tsnBetween (tsn1 midtsn tsn2 : Tsn) : Prop := tsn2 - tsn1 ≥ midtsn - tsn1
deriving Decidable

theorem tsnGt_iff {a b : Tsn} : tsnGt a b ↔ Lt b a := by
  unfold tsnGt Lt Le
  rw [toInt_eq_toNat_cond]
  constructor
  · intro h
    constructor
    · rintro rfl
      simp at h
    · split at h
      · omega
      · omega
  · rintro ⟨hne, hlt⟩
    have hpos : (a - b).toNat ≠ 0 := by
      intro h0
      have : a - b = 0 := eq_of_toNat_eq (by simpa using h0)
      exact hne (by grind)
    omega

theorem tsnLe_iff {a b : Tsn} : tsnLe a b ↔ ¬ tsnGt a b := Int.not_lt.symm

theorem tsnGe_iff {a b : Tsn} : tsnGe a b ↔ Le b a := by
  unfold tsnGe Le
  rw [toInt_eq_toNat_cond]
  split
  · omega
  · omega

/-! ## In a window

Positions are counted from `base`; those compared lie in half the number space. -/

variable (base : Tsn) {m n : Nat}

theorem tsnGt_nth (hmn : m < n + 2 ^ 31) (hnm : n ≤ m + 2 ^ 31) : tsnGt (nth base m) (nth base n) ↔ n < m := by
  rw [tsnGt_iff]
  exact lt_nth base (by decide) hmn hnm

theorem tsnLe_nth (hmn : m < n + 2 ^ 31) (hnm : n ≤ m + 2 ^ 31) : tsnLe (nth base m) (nth base n) ↔ m ≤ n := by
  rw [tsnLe_iff, tsnGt_nth base hmn hnm, Nat.not_lt]

theorem tsnGe_nth (hmn : m < n + 2 ^ 31) (hnm : n ≤ m + 2 ^ 31) : tsnGe (nth base m) (nth base n) ↔ n ≤ m := by
  rw [tsnGe_iff]
  exact le_nth base (by decide) hmn hnm

theorem tsnBetween_nth {a p b : Nat} (hab : a ≤ b) (hb : b < a + 2 ^ 32) (hp : p < a + 2 ^ 32) (ha : b < p + 2 ^ 32) :
    tsnBetween (nth base a) (nth base p) (nth base b) ↔ a ≤ p ∧ p ≤ b := by
  have hbd := toNat_nth_sub base hab (by omega)
  rw [tsnBetween, ge_iff_le, le_def, hbd]
  by_cases hle : a ≤ p
  · rw [toNat_nth_sub base hle (by omega)]
    omega
  · have hne : nth base p ≠ nth base a := by
      rw [Ne, nth_inj base (by omega) (by omega)]
      omega
    rw [toNat_sub_comm _ _ hne, toNat_nth_sub base (Nat.le_of_not_le hle) (by omega)]
    omega

/-- The position of a TSN that is not behind another one. -/
theorem tsnGe.exists_nth {t : Tsn} {n : Nat} (h : tsnGe t (nth base n)) :
    ∃ p, t = nth base p ∧ n ≤ p ∧ p < n + 2 ^ 31 := by
  have hle := tsnGe_iff.mp h
  refine ⟨n + (t - nth base n).toNat, ?_, Nat.le_add_right _ _, by simpa [Le] using hle⟩
  rw [← nth_nth]
  exact eq_nth _ _

end Inet.Sctp
