import Mathlib

/-!
# Going round in a circle

A loop goes round the numbers below `n`, starting behind `last` and ending with it,
unless it has found something before. It looks at every number once.
-/
namespace CircularScan

open Nat List

variable {n : Nat}

/-- The number `k` places behind the one next to `last`. -/
def ahead (last : Fin n) (k : Nat) : Fin n := ⟨(last + 1 + k) % n, mod_lt _ (Nat.lt_of_le_of_lt (Nat.zero_le _) last.2)⟩

def next (i : Fin n) : Fin n := ahead i 0

variable {σ : Type}

/-- `do body while (!found && i != last)`, with at most so many rounds. -/
def scan (last : Fin n) (body : σ → Fin n → σ) (found : σ → Bool) : Nat → Fin n → σ → Option σ
  | 0, _, _ => none
  | rounds + 1, i, s =>
    let s := body s i
    if found s ∨ i = last then some s else scan last body found rounds (next i) s

/-- The order in which the numbers are looked at. -/
def circle (last : Fin n) : List (Fin n) := (List.range n).map (ahead last)

variable {last : Fin n}

theorem next_ahead (k : Nat) : next (ahead last k) = ahead last (k + 1) := by
  apply Fin.ext
  simp only [next, ahead, Nat.add_zero, mod_add_mod]
  congr 1

theorem ahead_last {k : Nat} (hk : k + 1 = n) : ahead last k = last := by
  apply Fin.ext
  have hsum : (last : Nat) + 1 + k = last + n := by omega
  simp only [ahead, hsum, add_mod_right, mod_eq_of_lt last.2]

theorem ahead_injective {j k : Nat} (hj : j < n) (hk : k < n) (h : ahead last j = ahead last k) : j = k := by
  have hmod : (last + 1 + j) % n = (last + 1 + k) % n := congrArg Fin.val h
  exact Nat.ModEq.eq_of_lt_of_lt (Nat.ModEq.add_left_cancel' _ hmod) hj hk

theorem ahead_ne_last {k : Nat} (hk : k + 1 < n) : ahead last k ≠ last := by
  intro heq
  have hlast : ahead last (n - 1) = last := ahead_last (by omega)
  have := ahead_injective (by omega) (by omega) (heq.trans hlast.symm)
  omega

theorem exists_ahead (last i : Fin n) : ∃ k < n, ahead last k = i := by
  refine ⟨(i + n - last - 1) % n, mod_lt _ (Nat.lt_of_le_of_lt (Nat.zero_le _) i.2), Fin.ext ?_⟩
  have hsum : (last : Nat) + 1 + (i + n - last - 1) = i + n := by omega
  simp only [ahead, add_mod_mod, hsum, add_mod_right, mod_eq_of_lt i.2]

theorem mem_circle (i : Fin n) : i ∈ circle last := by
  obtain ⟨k, hk, rfl⟩ := exists_ahead last i
  exact mem_map_of_mem (mem_range.mpr hk)

theorem circle_getElem? {k : Nat} (hk : k < n) : (circle last)[k]? = some (ahead last k) := by
  simp [circle, hk]

theorem length_circle : (circle last).length = n := by
  simp [circle]

theorem nodup_circle : (circle last).Nodup :=
  Nodup.map_on (fun _ hj _ hk h => ahead_injective (mem_range.mp hj) (mem_range.mp hk) h) nodup_range

/-- The induction is on the rounds that are left. -/
theorem scan_ahead {body : σ → Fin n → σ} {found : σ → Bool} (hfound : ∀ s i, found s → body s i = s) {j rounds : Nat}
    (hpos : 0 < rounds) (hsum : j + rounds = n) (s : σ) :
    scan last body found rounds (ahead last j) s =
      some (((range rounds).map fun k => ahead last (j + k)).foldl body s) := by
  have hstop (l : List (Fin n)) (s : σ) (hs : found s) : l.foldl body s = s := by
    induction l with
    | nil => rfl
    | cons i l ih => rw [foldl_cons, hfound s i hs, ih]
  induction rounds generalizing j s with
  | zero => exact absurd hpos (Nat.lt_irrefl 0)
  | succ rounds ih =>
    have hcons : (range (rounds + 1)).map (fun k => ahead last (j + k)) =
        ahead last j :: (range rounds).map fun k => ahead last (j + 1 + k) := by
      rw [range_succ_eq_map, map_cons, map_map]
      refine congrArg₂ _ rfl (map_congr_left fun k _ => ?_)
      exact congrArg (ahead last) (by simp only [succ_eq_add_one]; omega)
    rw [hcons, foldl_cons, scan]
    by_cases hs : found (body s (ahead last j)) = true
    · rw [if_pos (.inl hs), hstop _ _ hs]
    · by_cases hrounds : rounds = 0
      · subst hrounds
        rw [if_pos (.inr (ahead_last hsum))]
        rfl
      · have hne : ahead last j ≠ last := ahead_ne_last (by omega)
        rw [if_neg (by simp [hs, hne]), next_ahead]
        exact ih (Nat.pos_of_ne_zero hrounds) (by omega) _

/-- A loop that stops early goes on as if it had gone all the way round. -/
theorem scan_next {body : σ → Fin n → σ} {found : σ → Bool} (hfound : ∀ s i, found s → body s i = s) (s : σ) :
    scan last body found n (next last) s = some ((circle last).foldl body s) := by
  rw [next, scan_ahead hfound (Nat.lt_of_le_of_lt (Nat.zero_le _) last.2) (Nat.zero_add n)]
  simp only [circle, Nat.zero_add]

end CircularScan
