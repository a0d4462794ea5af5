import Inetmanet.Lib.SerialNumber

/-!
# Comparing sequence numbers

`TCPSegment.h`: the comparison functions on 32-bit sequence numbers.
-/
namespace Inet.Tcp

open SerialNumber BitVec

/-- `uint32` -/
abbrev SeqNo := BitVec 32

def seqLess (a b : SeqNo) : Prop := a ≠ b ∧ (b - a).toNat < 2 ^ 31
deriving Decidable
def seqLE (a b : SeqNo) : Prop := (b - a).toNat < 2 ^ 31
deriving Decidable
def seqGreater (a b : SeqNo) : Prop := a ≠ b ∧ (a - b).toNat < 2 ^ 31
deriving Decidable
def seqGE (a b : SeqNo) : Prop := (a - b).toNat < 2 ^ 31
deriving Decidable

def seqMin (a b : SeqNo) : SeqNo := if (b - a).toNat < 2 ^ 31 then a else b
def seqMax (a b : SeqNo) : SeqNo := if (a - b).toNat < 2 ^ 31 then a else b

/-- The end of a window. -/
theorem nth_add_window (base : SeqNo) (rcv : Nat) (wnd : SeqNo) :
    nth base rcv + wnd = nth base (rcv + wnd.toNat) := by
  rw [nth_add, ofNat_toNat, setWidth_eq]

section Window

/-! Positions at most half the sequence space apart. The side conditions are
linear, so `simp (disch := omega)` rewrites with these lemmas. -/

variable {base : SeqNo} {m n : Nat}

theorem seqLE_nth (hmn : n < m + 2 ^ 31) (hnm : m ≤ n + 2 ^ 31) :
    seqLE (nth base m) (nth base n) ↔ m ≤ n :=
  le_nth base (by decide) hmn hnm

theorem seqLess_nth (hmn : n < m + 2 ^ 31) (hnm : m ≤ n + 2 ^ 31) :
    seqLess (nth base m) (nth base n) ↔ m < n :=
  lt_nth base (by decide) hmn hnm

theorem seqGE_nth (hmn : m < n + 2 ^ 31) (hnm : n ≤ m + 2 ^ 31) :
    seqGE (nth base m) (nth base n) ↔ n ≤ m :=
  le_nth base (by decide) hmn hnm

theorem seqGreater_nth (hmn : m < n + 2 ^ 31) (hnm : n ≤ m + 2 ^ 31) :
    seqGreater (nth base m) (nth base n) ↔ n < m := by
  rw [seqGreater, ne_comm]
  exact lt_nth base (by decide) hmn hnm

theorem nth_eq_nth (hmn : m < n + 2 ^ 32) (hnm : n < m + 2 ^ 32) :
    nth base m = nth base n ↔ m = n :=
  nth_inj base hmn hnm

theorem seqMin_nth (hmn : n < m + 2 ^ 31) (hnm : m ≤ n + 2 ^ 31) :
    seqMin (nth base m) (nth base n) = nth base (min m n) := by
  have h : ((nth base n - nth base m).toNat < 2 ^ 31) ↔ m ≤ n := seqLE_nth hmn hnm
  simp only [seqMin, h, Nat.min_def]
  split <;> rfl

theorem seqMax_nth (hmn : m < n + 2 ^ 31) (hnm : n ≤ m + 2 ^ 31) :
    seqMax (nth base m) (nth base n) = nth base (max m n) := by
  have h : ((nth base m - nth base n).toNat < 2 ^ 31) ↔ n ≤ m := seqGE_nth hmn hnm
  simp only [seqMax, h, Nat.max_def]
  split
  · split
    · congr 1; omega
    · rfl
  · rw [if_pos (by omega)]

/-- More than half of the sequence space behind counts as ahead. -/
theorem seqGE_nth_of_far (hfar : m + 2 ^ 31 < n) (hn : n < m + 2 ^ 32) :
    seqGE (nth base m) (nth base n) :=
  le_nth_of_far base (by decide) hfar hn

theorem seqMin_nth_of_far (hfar : m + 2 ^ 31 ≤ n) (hn : n < m + 2 ^ 32) :
    seqMin (nth base m) (nth base n) = nth base n :=
  if_neg (not_le_nth_of_far base hfar hn)

end Window

section Offset

/-! Sequence numbers by how far they lie beyond an arbitrary one. -/

variable (base : SeqNo) {a b : SeqNo}

theorem offset_inj (h : (a - base).toNat = (b - base).toNat) : a = b := by
  rw [eq_nth base a, eq_nth base b, h]

theorem offset_add (seqNum bytes : SeqNo) :
    (seqNum + bytes - base).toNat = ((seqNum - base).toNat + bytes.toNat) % 2 ^ 32 := by
  rw [← toNat_add]
  congr 1
  grind

/-- The distance of two sequence numbers. -/
theorem toNat_sub_offset (a b : SeqNo) : (b - a).toNat =
    if (a - base).toNat ≤ (b - base).toNat then (b - base).toNat - (a - base).toNat
    else 2 ^ 32 - ((a - base).toNat - (b - base).toNat) := by
  have hdiff : b - a = (b - base) - (a - base) := by grind
  rw [hdiff, toNat_sub]
  split
  · omega
  · omega

section

variable (ha : (a - base).toNat < 2 ^ 31)
include ha

section

variable (hb : (b - base).toNat < 2 ^ 31)
include hb

theorem seqLE_offset :
    seqLE a b ↔ (a - base).toNat ≤ (b - base).toNat := by
  rw [seqLE, toNat_sub_offset base]
  split
  · omega
  · omega

theorem seqLess_offset :
    seqLess a b ↔ (a - base).toNat < (b - base).toNat := by
  have hne : a = b ↔ (a - base).toNat = (b - base).toNat := ⟨fun h => h ▸ rfl, offset_inj base⟩
  rw [seqLess, toNat_sub_offset base, Ne, hne]
  split
  · omega
  · omega

theorem seqGreater_offset :
    seqGreater a b ↔ (b - base).toNat < (a - base).toNat := by
  rw [← seqLess_offset base hb ha, seqGreater, seqLess, ne_comm]

theorem seqGE_offset :
    seqGE a b ↔ (b - base).toNat ≤ (a - base).toNat := seqLE_offset base hb ha

end

end

end Offset

end Inet.Tcp
