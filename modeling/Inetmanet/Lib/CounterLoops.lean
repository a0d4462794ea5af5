import Inetmanet.Lib.Succeeds

/-!
# Loops over a counter that may wrap around

`for (i = ...; c(i); i = next(i)) body`, where the condition reads the counter only. A
counter of `w` bits that has taken all its values without an end of the loop goes on
forever, so the loops up to and down to a bound are cut off after `2 ^ w` rounds.
-/
namespace CounterLoops

open BitVec Nat

variable {σ ι ε : Type} (e : ε)

/-- After so many rounds the loop has not ended: `e`. -/
def loop (c : ι → Prop) [DecidablePred c] (next : ι → ι) (body : σ → ι → Except ε σ) : Nat → ι → σ → Except ε σ
  | 0, _, _ => .error e
  | rounds + 1, i, s => if c i then body s i >>= loop c next body rounds (next i) else .ok s

variable {c : ι → Prop} [DecidablePred c] {next : ι → ι} {body : σ → ι → Except ε σ}

/-- A loop whose end is known is a fold. -/
theorem loop_eq {n rounds : Nat} (hrounds : n < rounds) {i : ι} (hc : ∀ k < n, c (next^[k] i)) (hend : ¬ c (next^[n] i))
    (s : σ) : loop e c next body rounds i s = (List.iterate next i n).foldlM body s := by
  induction n generalizing rounds i s with
  | zero =>
    obtain ⟨rounds, rfl⟩ := Nat.exists_eq_add_of_lt hrounds
    exact if_neg hend
  | succ n ih =>
    obtain ⟨rounds, rfl⟩ := exists_eq_add_one_of_ne_zero (Nat.ne_of_gt (Nat.lt_of_le_of_lt (Nat.zero_le _) hrounds))
    rw [loop, if_pos (show c i from hc 0 (succ_pos n)), List.iterate, List.foldlM_cons]
    congr 1
    funext t
    exact ih (by omega) (fun k hk => hc (k + 1) (by omega)) hend t

/-- A loop whose condition always holds gives no result. -/
theorem loop_never {rounds : Nat} {i : ι} (hc : ∀ k, c (next^[k] i)) (s t : σ) : loop e c next body rounds i s ≠ .ok t := by
  induction rounds generalizing i s with
  | zero => exact nofun
  | succ rounds ih =>
    rw [loop, if_pos (show c i from hc 0)]
    cases body s i with
    | error e' => exact nofun
    | ok s' => exact ih (fun k => hc (k + 1)) s'

variable {w : Nat} {body : σ → BitVec w → Except ε σ} {bound i : BitVec w} {s t : σ}

theorem iterate_add_one (k : Nat) (i : BitVec w) : (· + 1)^[k] i = i + BitVec.ofNat w k := by
  induction k generalizing i with
  | zero => simp
  | succ k ih =>
    rw [Function.iterate_succ_apply, ih, BitVec.add_assoc, Nat.add_comm k 1, ofNat_add]
    rfl

theorem iterate_sub_one (k : Nat) (i : BitVec w) : (· - 1)^[k] i = i - BitVec.ofNat w k := by
  induction k generalizing i with
  | zero => simp
  | succ k ih =>
    rw [Function.iterate_succ_apply, ih, Nat.add_comm k 1, ofNat_add, BitVec.sub_sub]
    rfl

/-- `for (; i <= bound; i++)` -/
def upTo (bound : BitVec w) (body : σ → BitVec w → Except ε σ) (i : BitVec w) (s : σ) : Except ε σ :=
  loop e (· ≤ bound) (· + 1) body (2 ^ w) i s

/-- `for (; i >= bound; i--)` -/
def downTo (bound : BitVec w) (body : σ → BitVec w → Except ε σ) (i : BitVec w) (s : σ) : Except ε σ :=
  loop e (bound ≤ ·) (· - 1) body (2 ^ w) i s

/-- The values from `i` up to `bound`. -/
def rangeUp (i bound : BitVec w) : List (BitVec w) := List.iterate (· + 1) i (bound.toNat + 1 - i.toNat)

/-- The values from `i` down to `bound`. -/
def rangeDown (i bound : BitVec w) : List (BitVec w) := List.iterate (· - 1) i (i.toNat + 1 - bound.toNat)

theorem upTo_eq (hbound : bound ≠ allOnes w) : upTo e bound body i s = (rangeUp i bound).foldlM body s := by
  have hlast : bound.toNat + 1 < 2 ^ w := by
    have hne : bound.toNat ≠ 2 ^ w - 1 := fun h => hbound (eq_of_toNat_eq (by rw [h, toNat_allOnes]))
    omega
  have hi := i.isLt
  refine loop_eq e (by omega) (fun k hk => ?_) ?_ s
  · rw [iterate_add_one, le_def, toNat_add, toNat_ofNat, add_mod_mod, mod_eq_of_lt (by omega)]
    omega
  · rw [iterate_add_one, le_def, toNat_add, toNat_ofNat, add_mod_mod]
    by_cases h : i.toNat ≤ bound.toNat
    · rw [mod_eq_of_lt (by omega)]
      omega
    · rw [Nat.sub_eq_zero_of_le (by omega), Nat.add_zero, mod_eq_of_lt hi]
      exact h

/-- The greatest value is never exceeded. -/
theorem upTo_allOnes : upTo e (allOnes w) body i s ≠ .ok t := by
  refine loop_never e (fun k => ?_) s t
  exact le_sub_one_of_lt (isLt _)

theorem downTo_eq (hbound : bound ≠ 0) : downTo e bound body i s = (rangeDown i bound).foldlM body s := by
  have hpos : bound.toNat ≠ 0 := fun h => hbound (eq_of_toNat_eq (by rw [h]; simp))
  have hsub {k : Nat} (hk : k ≤ i.toNat) : (i - BitVec.ofNat w k).toNat = i.toNat - k := by
    rw [toNat_sub_of_le]
    · rw [toNat_ofNat, mod_eq_of_lt (by omega)]
    · rw [le_def, toNat_ofNat, mod_eq_of_lt (by omega)]
      exact hk
  refine loop_eq e (by omega) (fun k hk => ?_) ?_ s
  · rw [iterate_sub_one, le_def, hsub (by omega)]
    omega
  · rw [iterate_sub_one, le_def, hsub (by omega)]
    omega

/-- No value is less than 0. -/
theorem downTo_zero : downTo e 0 body i s ≠ .ok t := by
  refine loop_never e (fun k => ?_) s t
  exact Nat.zero_le _

theorem rangeUp_of_lt (h : bound < i) : rangeUp i bound = [] := by
  rw [lt_def] at h
  rw [rangeUp, Nat.sub_eq_zero_of_le (by omega)]
  rfl

theorem rangeUp_of_le (h : i ≤ bound) : ∃ l, rangeUp i bound = i :: l := by
  refine ⟨List.iterate (· + 1) (i + 1) (bound.toNat - i.toNat), ?_⟩
  rw [rangeUp, succ_sub h]
  rfl

end CounterLoops
