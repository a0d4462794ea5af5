import Mathlib

/-!
# Distance vectors

Nodes that reach targets by themselves at a cost, and pass estimates of their distance
on over links that cost something. An estimate is safe when it does not fall below the
true distance, or the cap that stands for infinity.
-/
namespace Inet.DistanceVector

variable {Node Target : Type}

structure Graph (Node Target : Type) where
  /-- The node is at the target, at a cost. -/
  attached : Node → Target → Nat → Prop
  /-- The first node reaches the second one, at a cost. -/
  link : Node → Node → Nat → Prop

/-- The costs of the ways from a node to a target. -/
inductive Graph.Path (G : Graph Node Target) : Node → Target → Nat → Prop where
  | direct {v : Node} {t : Target} {c : Nat} : G.attached v t c → G.Path v t c
  | hop {v w : Node} {t : Target} {c d : Nat} : G.link v w c → G.Path w t d → G.Path v t (c + d)

/-- The cost of the cheapest way, `⊤` where there is none. -/
noncomputable def Graph.distance (G : Graph Node Target) (v : Node) (t : Target) : ℕ∞ :=
  ⨅ c : { c : Nat // G.Path v t c }, ((c : Nat) : ℕ∞)

/-- The number is no underestimate of the distance, as far as the cap goes. -/
def Graph.Estimate (G : Graph Node Target) (cap : Nat) (v : Node) (t : Target) (m : Nat) : Prop :=
  min (cap : ℕ∞) (G.distance v t) ≤ m

variable {G : Graph Node Target} {cap : Nat} {v w : Node} {t : Target} {b c m : Nat}

theorem Graph.distance_le (h : G.Path v t c) : G.distance v t ≤ c :=
  iInf_le (fun c : { c : Nat // G.Path v t c } => ((c : Nat) : ℕ∞)) ⟨c, h⟩

theorem Graph.le_distance {b : ℕ∞} (h : ∀ c, G.Path v t c → b ≤ c) : b ≤ G.distance v t :=
  le_iInf fun c => h c.val c.property

/-- The first link of a way costs something, the rest at least the distance. -/
theorem Graph.distance_hop_le (h : G.link v w c) : G.distance v t ≤ c + G.distance w t := by
  rw [Graph.distance.eq_1 G w t, ENat.add_iInf]
  refine le_iInf fun d => ?_
  have hpath : G.distance v t ≤ ((c + d.val : Nat) : ℕ∞) := G.distance_le (.hop h d.property)
  exact hpath

namespace Graph.Estimate

theorem of_path (h : G.Path v t c) : G.Estimate cap v t c := (min_le_right _ _).trans (G.distance_le h)

/-- The cap itself is always safe. -/
theorem cap_self : G.Estimate cap v t cap := min_le_left _ _

/-- A neighbour's estimate, with the cost of the link. -/
theorem hop (hlink : G.link v w c) (h : G.Estimate cap w t m) : G.Estimate cap v t (m + c) := by
  rw [Graph.Estimate, Nat.cast_add]
  rcases min_le_iff.mp h with hcap | hdist
  · exact (min_le_left _ _).trans (hcap.trans le_self_add)
  · calc min (cap : ℕ∞) (G.distance v t) ≤ G.distance v t := min_le_right _ _
      _ ≤ c + G.distance w t := G.distance_hop_le hlink
      _ ≤ c + m := by gcongr
      _ = m + c := add_comm _ _

theorem capped (h : G.Estimate cap v t m) : G.Estimate cap v t (min m cap) := by
  rcases min_cases m cap with ⟨heq, -⟩ | ⟨heq, -⟩
  · rw [heq]
    exact h
  · rw [heq]
    exact cap_self

/-- A number below the cap that is less than every way's cost is an underestimate. -/
theorem not_of_lt (hcap : m < cap) (h : ∀ c, G.Path v t c → m < c) : ¬ G.Estimate cap v t m := by
  have hdist : ((m + 1 : Nat) : ℕ∞) ≤ G.distance v t := G.le_distance fun c hc => by exact_mod_cast h c hc
  intro hest
  have hle : ((m + 1 : Nat) : ℕ∞) ≤ m := (le_min (by exact_mod_cast hcap) hdist).trans hest
  exact absurd (by exact_mod_cast hle) (Nat.lt_irrefl m)

end Graph.Estimate

end Inet.DistanceVector
