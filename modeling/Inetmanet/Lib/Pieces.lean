import Mathlib

/-!
# Data cut into pieces

`Carries` describes the pieces of one datum, `Grouped` a sequence of pieces in which
those of one datum stand together. What is taken from the front of such a sequence
keeps the pieces of a datum together.
-/
namespace Pieces

open List

section Carries

variable {γ β : Type} (isFirst isLast : γ → Bool) (payload : γ → List β)

/-- The pieces of `data`, which start with the first one if `first`. Only the last piece is marked as the last. -/
inductive Carries : Bool → List β → List γ → Prop
  | last {first : Bool} {data : List β} {c : γ} (hf : isFirst c = first) (hl : isLast c = true)
      (hd : payload c = data) : Carries first data [c]
  | more {first : Bool} {data rest : List β} {c : γ} {cs : List γ} (hf : isFirst c = first) (hl : isLast c = false)
      (hd : payload c ++ rest = data) (hne : rest ≠ []) (h : Carries false rest cs) : Carries first data (c :: cs)

variable {isFirst isLast payload} {first : Bool} {data : List β} {cs : List γ}

namespace Carries

section

variable (h : Carries isFirst isLast payload first data cs)
include h

theorem ne_nil : cs ≠ [] := by
  cases h with
  | last hf hl hd => exact cons_ne_nil _ _
  | more hf hl hd hne h => exact cons_ne_nil _ _

theorem isFirst_iff {i : Nat} {c : γ} (hc : cs[i]? = some c) :
    isFirst c = true ↔ first = true ∧ i = 0 := by
  induction h generalizing i with
  | last hf hl hd =>
    cases i with
    | zero =>
      cases hc
      simp [hf]
    | succ i => simp at hc
  | more hf hl hd hne h ih =>
    cases i with
    | zero =>
      cases hc
      simp [hf]
    | succ i =>
      simp [ih hc]

theorem isLast_iff {i : Nat} {c : γ} (hc : cs[i]? = some c) :
    isLast c = true ↔ i + 1 = cs.length := by
  induction h generalizing i with
  | last hf hl hd =>
    cases i with
    | zero =>
      cases hc
      simp [hl]
    | succ i => simp at hc
  | more hf hl hd hne h ih =>
    cases i with
    | zero =>
      cases hc
      simp [hl, h.ne_nil]
    | succ i =>
      simp [ih hc]

theorem flatMap : cs.flatMap payload = data := by
  induction h with
  | last hf hl hd => simpa using hd
  | more hf hl hd hne h ih => simpa [ih] using hd

/-- The last piece is the one that completes the data. -/
theorem payload_take_iff {i : Nat} {c : γ} (hc : cs[i]? = some c) :
    (cs.take (i + 1)).flatMap payload = data ↔ isLast c = true := by
  induction h generalizing i with
  | last hf hl hd =>
    cases i with
    | zero =>
      cases hc
      simp [hl, hd]
    | succ i => simp at hc
  | more hf hl hd hne h ih =>
    subst hd
    cases i with
    | zero =>
      cases hc
      simp [hl, hne]
    | succ i =>
      simp [ih hc]

end

/-- Nothing follows a piece that is marked as the last. -/
theorem tail_of_isLast {c : γ} (h : Carries isFirst isLast payload first data (c :: cs)) (hl : isLast c = true) :
    cs = [] ∧ payload c = data := by
  cases h with
  | last hf hl' hd => exact ⟨rfl, hd⟩
  | more hf hl' hd hne h => simp [hl] at hl'

/-- Behind any other piece the rest of the data goes on. -/
theorem tail_of_not_isLast {c : γ} (h : Carries isFirst isLast payload first data (c :: cs)) (hl : isLast c = false) :
    ∃ rest, Carries isFirst isLast payload false rest cs := by
  cases h with
  | last hf hl' hd => simp [hl] at hl'
  | more hf hl' hd hne h => exact ⟨_, h⟩

theorem isFirst_head {c : γ} (h : Carries isFirst isLast payload first data (c :: cs)) : isFirst c = first := by
  cases h with
  | last hf hl hd => exact hf
  | more hf hl hd hne h => exact hf

end Carries

end Carries

section Grouped

variable {υ α κ : Type} (name : υ → κ) (key : α → κ)

/-- One group for each name, made of what has this name as its key. -/
structure Grouped (gs : List (υ × List α)) : Prop where
  nodup : (gs.map fun x => name x.1).Nodup
  keyed : ∀ x ∈ gs, ∀ a ∈ x.2, key a = name x.1

variable {name key} {gs : List (υ × List α)}

theorem Grouped.tail {x : υ × List α} (h : Grouped name key (x :: gs)) : Grouped name key gs :=
  ⟨(nodup_cons.mp h.nodup).2, fun y hy => h.keyed y (mem_cons_of_mem _ hy)⟩

theorem Grouped.key_ne_of_mem_tail {x : υ × List α} (h : Grouped name key (x :: gs)) {a : α}
    (ha : a ∈ gs.flatMap Prod.snd) : key a ≠ name x.1 := by
  obtain ⟨y, hy, hay⟩ := mem_flatMap.mp ha
  rw [h.keyed y (mem_cons_of_mem _ hy) a hay]
  intro he
  have hmem : name y.1 ∈ gs.map fun x => name x.1 := mem_map_of_mem hy
  rw [he] at hmem
  exact (nodup_cons.mp h.nodup).1 hmem

variable [DecidableEq κ] {ε : Type} {f : ε → α} {l : List ε} {k : κ}

/-- What has the key of a group, in a sequence that starts like the groups, starts like this group. -/
theorem Grouped.filter_first (h : Grouped name key gs) (hl : l.map f <+: gs.flatMap Prod.snd) {x : υ × List α}
    (hx : x ∈ gs) : (l.filter fun e => key (f e) = name x.1).map f <+: x.2 := by
  have hmap : (l.filter fun e => key (f e) = name x.1).map f = (l.map f).filter fun a => key a = name x.1 := by
    rw [filter_map]
    rfl
  rw [hmap]
  have hfilter : (gs.flatMap Prod.snd).filter (fun a => key a = name x.1) = x.2 := by
    clear hl hmap
    induction gs with
    | nil => simp at hx
    | cons y gs ih =>
      rw [flatMap_cons, filter_append]
      rcases mem_cons.mp hx with rfl | hx'
      · have hrest : (gs.flatMap Prod.snd).filter (fun a => key a = name x.1) = [] := by
          rw [filter_eq_nil_iff]
          intro a ha
          simpa using h.key_ne_of_mem_tail ha
        rw [hrest, append_nil, filter_eq_self]
        intro a ha
        simpa using h.keyed x hx a ha
      · have hfirst : y.2.filter (fun a => key a = name x.1) = [] := by
          rw [filter_eq_nil_iff]
          intro a ha
          have hne : name y.1 ≠ name x.1 := by
            intro he
            have hmem : name x.1 ∈ gs.map fun x => name x.1 := mem_map_of_mem hx'
            rw [← he] at hmem
            exact (nodup_cons.mp h.nodup).1 hmem
          simpa [h.keyed y (by simp) a ha] using hne
        rw [hfirst, nil_append]
        exact ih h.tail hx'
  calc (l.map f).filter (fun a => key a = name x.1) <+: (gs.flatMap Prod.snd).filter (fun a => key a = name x.1) :=
        hl.filter _
    _ = x.2 := hfilter

/-- What has one key stands together in a sequence that starts like the groups. -/
theorem Grouped.filter_contiguous (h : Grouped name key gs) (hl : l.map f <+: gs.flatMap Prod.snd) :
    (l.filter fun e => key (f e) = k) <:+: l := by
  induction gs generalizing l with
  | nil =>
    have hnil : l = [] := by simpa using hl
    simp [hnil]
  | cons x gs ih =>
    have hcons : l.map f <+: x.2 ∨ ∃ l₀ l₁, l = l₀ ++ l₁ ∧ l₀.map f = x.2 ∧ l₁.map f <+: gs.flatMap Prod.snd := by
      obtain ⟨t, ht⟩ := hl
      rcases append_eq_append_iff.mp ht with ⟨r, hr, -⟩ | ⟨r, hr, hrest⟩
      · exact .inl ⟨r, hr.symm⟩
      · obtain ⟨l₀, l₁, rfl, h₀, h₁⟩ := map_eq_append_iff.mp hr
        exact .inr ⟨l₀, l₁, rfl, h₀, t, h₁ ▸ hrest.symm⟩
    rcases hcons with hpre | ⟨l₀, l₁, rfl, h₀, hpre⟩
    · have hkey : ∀ e ∈ l, key (f e) = name x.1 := by
        intro e he
        exact h.keyed x (by simp) _ (hpre.subset (mem_map_of_mem he))
      by_cases hk : name x.1 = k
      · rw [filter_eq_self.mpr (fun e he => by simpa [hkey e he] using hk)]
      · rw [filter_eq_nil_iff.mpr (fun e he => by simpa [hkey e he] using hk)]
        exact nil_infix
    · have hkey : ∀ e ∈ l₀, key (f e) = name x.1 := by
        intro e he
        exact h.keyed x (by simp) _ (h₀ ▸ mem_map_of_mem he)
      have hother : ∀ e ∈ l₁, key (f e) ≠ name x.1 := by
        intro e he
        exact h.key_ne_of_mem_tail (hpre.subset (mem_map_of_mem he))
      rw [filter_append]
      by_cases hk : name x.1 = k
      · have h₁ : l₁.filter (fun e => key (f e) = k) = [] := by
          rw [filter_eq_nil_iff]
          intro e he
          simpa [← hk] using hother e he
        have h₀ : l₀.filter (fun e => key (f e) = k) = l₀ := by
          rw [filter_eq_self]
          intro e he
          simpa [hkey e he] using hk
        rw [h₀, h₁, append_nil]
        exact (prefix_append l₀ l₁).isInfix
      · have h₀ : l₀.filter (fun e => key (f e) = k) = [] := by
          rw [filter_eq_nil_iff]
          intro e he
          simpa [hkey e he] using hk
        rw [h₀, nil_append]
        exact (ih h.tail hpre).trans (suffix_append l₀ l₁).isInfix

end Grouped

end Pieces
