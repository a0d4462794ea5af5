import Inetmanet.Ieee8021d.RSTP
import Inetmanet.Lib.IndexLoops

/-!
# The order of priority vectors

`compareRSTPData` is a lexicographic order in which the better vector is the smaller
one. The loops that look for the root port and for the best alternate port find what
they look for.
-/
namespace Inet.Ieee8021d

open BitVec

/-- The better vector has the smaller key. -/
def PriorityVector.key (v : PriorityVector) : Int ×ₗ Nat ×ₗ Int ×ₗ Int ×ₗ Nat ×ₗ Int ×ₗ Int :=
  toLex (v.rootPriority.toInt, toLex (v.rootAddress.toNat, toLex (v.rootPathCost.toInt,
    toLex (v.bridgePriority.toInt, toLex (v.bridgeAddress.toNat, toLex (v.portPriority.toInt, v.portNum.toInt))))))

variable {v w : PriorityVector}

theorem PriorityVector.key_lt : v.key < w.key ↔
    v.rootPriority.toInt < w.rootPriority.toInt ∨ v.rootPriority = w.rootPriority ∧
    (v.rootAddress < w.rootAddress ∨ v.rootAddress = w.rootAddress ∧
    (v.rootPathCost.toInt < w.rootPathCost.toInt ∨ v.rootPathCost = w.rootPathCost ∧
    (v.bridgePriority.toInt < w.bridgePriority.toInt ∨ v.bridgePriority = w.bridgePriority ∧
    (v.bridgeAddress < w.bridgeAddress ∨ v.bridgeAddress = w.bridgeAddress ∧
    (v.portPriority.toInt < w.portPriority.toInt ∨ v.portPriority = w.portPriority ∧
      v.portNum.toInt < w.portNum.toInt))))) := by
  simp only [PriorityVector.key, Prod.Lex.toLex_lt_toLex, toInt_inj, lt_def, toNat_eq]

theorem toInt_lt_of_ne {x y : UInt} (hne : x ≠ y) (h : ¬ x.toInt < y.toInt) : y.toInt < x.toInt := by
  have : x.toInt ≠ y.toInt := fun heq => hne (toInt_inj.mp heq)
  omega

theorem address_lt_of_ne {x y : MACAddress} (hne : x ≠ y) (h : ¬ x < y) : y < x := by
  have : x.toNat ≠ y.toNat := fun heq => hne (toNat_eq.mpr heq)
  rw [lt_def] at h ⊢
  omega

theorem compare_spec (v w : PriorityVector) :
    (compareRSTPData v w).toInt < 0 ∧ v.key < w.key ∨ compareRSTPData v w = .SIMILAR ∧ v = w ∨
      0 < (compareRSTPData v w).toInt ∧ w.key < v.key := by
  unfold compareRSTPData
  simp only [PriorityVector.key_lt]
  split_ifs with h₁ g₁ h₂ g₂ h₃ g₃ h₄ g₄ h₅ g₅ h₆ g₆ h₇ g₇
  all_goals simp only [CompareResult.toInt]
  all_goals simp_all [toInt_lt_of_ne, address_lt_of_ne]
  cases v
  cases w
  simp_all

theorem compare_neg : (compareRSTPData v w).toInt < 0 ↔ v.key < w.key := by
  rcases compare_spec v w with h | h | h
  · simp [h]
  · rw [h.1, h.2]
    simp [CompareResult.toInt]
  · constructor
    · intro hneg
      omega
    · intro hlt
      exact absurd hlt (lt_asymm h.2)

theorem compare_pos : 0 < (compareRSTPData v w).toInt ↔ w.key < v.key := by
  rcases compare_spec v w with h | h | h
  · constructor
    · intro hpos
      omega
    · intro hlt
      exact absurd hlt (lt_asymm h.2)
  · rw [h.1, h.2]
    simp [CompareResult.toInt]
  · simp [h]

theorem compare_le : (compareRSTPData v w).toInt ≤ 0 ↔ v.key ≤ w.key := by
  rw [← not_lt, compare_pos, not_lt]

theorem compare_similar : compareRSTPData v w = .SIMILAR ↔ v = w := by
  rcases compare_spec v w with h | h | h
  · constructor
    · intro hs
      simp [hs, CompareResult.toInt] at h
    · rintro rfl
      exact absurd h.2 (lt_irrefl _)
  · exact iff_of_true h.1 h.2
  · constructor
    · intro hs
      simp [hs, CompareResult.toInt] at h
    · rintro rfl
      exact absurd h.2 (lt_irrefl _)

namespace RSTP

variable {n : Nat} {b : RSTP n} {i j k : Fin n}

theorem getRootIndex_some (h : b.getRootIndex = some i) : (b.ports i).role = .ROOT := by
  simpa using List.find?_some h

theorem getRootIndex_none : b.getRootIndex = none ↔ ∀ i, (b.ports i).role ≠ .ROOT := by
  simp [getRootIndex]

theorem getBestAlternate_eq : b.getBestAlternate =
    ((List.finRange n).filter fun j => (b.ports j).role = .ALTERNATE).argmin fun j => (b.ports j).key := by
  rw [← IndexLoops.foldl_best]
  unfold getBestAlternate
  congr 1
  funext candidate j
  cases candidate with
  | none => rfl
  | some k => simp only [compare_neg]

theorem getBestAlternate_some (h : b.getBestAlternate = some k) :
    (b.ports k).role = .ALTERNATE ∧ ∀ j, (b.ports j).role = .ALTERNATE → (b.ports k).key ≤ (b.ports j).key := by
  rw [getBestAlternate_eq] at h
  have hk := IndexLoops.best_some h
  exact ⟨hk.1, fun j hj => hk.2 j (List.mem_finRange j) hj⟩

theorem getBestAlternate_none (h : b.getBestAlternate = none) (j : Fin n) : (b.ports j).role ≠ .ALTERNATE := by
  rw [getBestAlternate_eq] at h
  exact IndexLoops.best_none h j (List.mem_finRange j)

end RSTP

end Inet.Ieee8021d
