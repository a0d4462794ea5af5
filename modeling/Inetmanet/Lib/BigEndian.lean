import Mathlib

/-!
# Big-endian numbers

A number as a list of bytes, the most significant one first.
-/
namespace BigEndian

open BitVec

/-- The lowest `n` bytes of a number. -/
def bytes : Nat → Nat → List UInt8
  | 0, _ => []
  | n + 1, v => bytes n (v / 256) ++ [UInt8.ofNat v]

def value (bs : List UInt8) : Nat := bs.foldl (fun v b => 256 * v + b.toNat) 0

@[simp] theorem bytes_zero (v : Nat) : bytes 0 v = [] := rfl

theorem bytes_succ (n v : Nat) : bytes (n + 1) v = bytes n (v / 256) ++ [UInt8.ofNat v] := rfl

@[simp] theorem length_bytes (n v : Nat) : (bytes n v).length = n := by
  induction n generalizing v with
  | zero => rfl
  | succ n ih => simp [bytes_succ, ih]

/-- The same in a word of fixed width. -/
def word (w : Nat) (bs : List UInt8) : BitVec w := bs.foldl (fun v b => (v <<< 8) + BitVec.ofNat w b.toNat) 0

theorem value_append_singleton (bs : List UInt8) (b : UInt8) : value (bs ++ [b]) = 256 * value bs + b.toNat := by
  simp [value]

theorem word_append_singleton (w : Nat) (bs : List UInt8) (b : UInt8) :
    word w (bs ++ [b]) = (word w bs <<< 8) + BitVec.ofNat w b.toNat := by
  simp [word]

/-- Reading back what was written; higher bytes are lost. -/
theorem value_bytes (n v : Nat) : value (bytes n v) = v % 256 ^ n := by
  induction n generalizing v with
  | zero => simp [value, Nat.mod_one]
  | succ n ih =>
    have hpow : 256 ^ (n + 1) = 256 * 256 ^ n := by rw [Nat.pow_succ, Nat.mul_comm]
    have hlow : (UInt8.ofNat v).toNat = v % 256 := by simp
    rw [bytes_succ, value_append_singleton, ih, hlow, hpow, Nat.mod_mul]
    omega

theorem value_bytes_of_lt {n v : Nat} (h : v < 256 ^ n) : value (bytes n v) = v := by
  rw [value_bytes, Nat.mod_eq_of_lt h]

/-- Reading into a word is reading modulo its size. -/
theorem toNat_word (w : Nat) (bs : List UInt8) : (word w bs).toNat = value bs % 2 ^ w := by
  induction bs using List.reverseRecOn with
  | nil => simp [word, value]
  | append_singleton bs b ih =>
    rw [word_append_singleton, value_append_singleton, toNat_add, toNat_shiftLeft, toNat_ofNat,
      ih, Nat.shiftLeft_eq, Nat.mul_comm _ (2 ^ 8)]
    simp [Nat.add_mod, Nat.mul_mod]

theorem word_bytes {w n : Nat} {v : BitVec w} (h : v.toNat < 256 ^ n) : word w (bytes n v.toNat) = v := by
  apply eq_of_toNat_eq
  rw [toNat_word, value_bytes_of_lt h, Nat.mod_eq_of_lt v.isLt]

end BigEndian
