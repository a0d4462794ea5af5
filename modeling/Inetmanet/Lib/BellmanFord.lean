import Mathlib

/-!
# Shortest paths by rounds of relaxation

Every vertex has a distance and a parent. Following a link may lower the distance of
its end; after as many rounds over all links as a simple path has, or after a round
that changes nothing, the distances are those of the shortest paths, and the parents
lead along such paths. The costs may be zero. A distance never exceeds the number
`top` that stands for infinity.
-/
namespace BellmanFord

open List Function

structure Edge (V : Type) where
  src : V
  dest : V
  metric : Nat

structure Label (V : Type) where
  parent : Option V
  dist : Nat

variable {V : Type}

/-- The vertices of a path from the source, the last one first, and its cost. -/
inductive Path (edges : List (Edge V)) (s : V) : List V → Nat → Prop
  | source : Path edges s [s] 0
  | snoc {u v : V} {p : List V} {d c : Nat} (h : Path edges s (u :: p) d) (he : ⟨u, v, c⟩ ∈ edges) :
      Path edges s (v :: u :: p) (d + c)

/-- The vertices from one up to the source, along the parents. -/
inductive Tree (l : V → Label V) (s : V) : List V → Prop
  | source : Tree l s [s]
  | step {u v : V} {p : List V} (hv : (l v).parent = some u) (h : Tree l s (u :: p)) : Tree l s (v :: u :: p)

section Relax

variable [DecidableEq V]

def relax (l : V → Label V) (e : Edge V) : (V → Label V) × Bool :=
  if (l e.dest).dist ≤ (l e.src).dist + e.metric then (l, false)
  else (Function.update l e.dest ⟨some e.src, (l e.src).dist + e.metric⟩, true)

/-- One round, and whether it has changed anything. -/
def relaxAll : List (Edge V) → (V → Label V) × Bool → (V → Label V) × Bool
  | [], r => r
  | e :: edges, r => relaxAll edges ((relax r.1 e).1, r.2 || (relax r.1 e).2)

/-- At most this many rounds. -/
def rounds (edges : List (Edge V)) : Nat → (V → Label V) → V → Label V
  | 0, l => l
  | n + 1, l => if (relaxAll edges (l, false)).2 then rounds edges n (relaxAll edges (l, false)).1 else l

def start (top : Nat) (s : V) : V → Label V := Function.update (fun _ => ⟨none, top⟩) s ⟨none, 0⟩

end Relax

variable {edges : List (Edge V)} {s u v w : V} {p q : List V} {c d n top : Nat} {l : V → Label V}

/-- A path goes to each of its vertices, and that costs no more. -/
theorem Path.prefix_to (h : Path edges s p d) (hv : v ∈ p) : ∃ q e, Path edges s (v :: q) e ∧ e ≤ d ∧ (v :: q) <:+ p := by
  induction h with
  | source =>
    rw [mem_singleton] at hv
    subst hv
    exact ⟨[], 0, Path.source, Nat.le_refl 0, suffix_refl _⟩
  | snoc h he ih =>
    rename_i a b p d c
    cases mem_cons.mp hv with
    | inl heq =>
      subst heq
      exact ⟨a :: p, d + c, h.snoc he, Nat.le_refl _, suffix_refl _⟩
    | inr hmem =>
      obtain ⟨q, e, hq, hle, hsuffix⟩ := ih hmem
      exact ⟨q, e, hq, Nat.le_add_right_of_le hle, hsuffix.trans (suffix_cons b _)⟩

/-- Going round in circles is no use. -/
theorem Path.simple (h : Path edges s (v :: p) d) : ∃ q e, Path edges s (v :: q) e ∧ e ≤ d ∧ (v :: q).Nodup := by
  generalize hvp : v :: p = vp at h
  induction h generalizing v p with
  | source =>
    cases hvp
    exact ⟨[], 0, Path.source, Nat.le_refl 0, nodup_singleton s⟩
  | snoc h he ih =>
    rename_i a b p' d c
    cases hvp
    obtain ⟨q, e, hq, hle, hnodup⟩ := ih rfl
    by_cases hmem : b ∈ a :: q
    · obtain ⟨q', e', hq', hle', hsuffix⟩ := hq.prefix_to hmem
      exact ⟨q', e', hq', by omega, hnodup.sublist hsuffix.sublist⟩
    · exact ⟨a :: q, e + c, hq.snoc he, by omega, nodup_cons.mpr ⟨hmem, hnodup⟩⟩

theorem Path.vertices {vs : List V} (hs : s ∈ vs) (hedges : ∀ e ∈ edges, e.dest ∈ vs) (h : Path edges s p d) : p ⊆ vs := by
  induction h with
  | source =>
    intro x hx
    rw [mem_singleton] at hx
    exact hx ▸ hs
  | snoc h he ih => exact cons_subset.mpr ⟨hedges _ he, ih⟩

/-- A path that is cheap enough is no longer than there are vertices. -/
theorem Path.short {vs : List V} (hs : s ∈ vs) (hedges : ∀ e ∈ edges, e.dest ∈ vs) (h : Path edges s (v :: p) d) :
    ∃ q e, Path edges s (v :: q) e ∧ e ≤ d ∧ q.length ≤ vs.length - 1 := by
  obtain ⟨q, e, hq, hle, hnodup⟩ := h.simple
  refine ⟨q, e, hq, hle, ?_⟩
  have hlength : (v :: q).length ≤ vs.length := (hnodup.subperm (hq.vertices hs hedges)).length_le
  rw [length_cons] at hlength
  omega

/-- A path with another beginning that costs no more. -/
theorem Path.exchange {front back : List V} {b e : Nat} (h : Path edges s (front ++ v :: back) d) (hb : Path edges s (v :: back) b)
    (hq : Path edges s (v :: q) e) (hle : e ≤ b) (hleast : ∀ q e, Path edges s (v :: q) e → b ≤ e) :
    ∃ d', Path edges s (front ++ v :: q) d' ∧ d' ≤ d := by
  generalize hp : front ++ v :: back = p at h
  induction h generalizing front with
  | source =>
    cases front with
    | nil =>
      cases hp
      exact ⟨e, hq, Nat.le_trans hle (hleast [] 0 Path.source)⟩
    | cons x front => simp at hp
  | snoc h he ih =>
    rename_i u x p' d c
    cases front with
    | nil =>
      cases hp
      exact ⟨e, hq, Nat.le_trans hle (hleast _ _ (h.snoc he))⟩
    | cons y front =>
      obtain ⟨hhead, hrest⟩ := cons.inj hp
      subst hhead
      obtain ⟨d', hd', hle'⟩ := ih hrest
      cases front with
      | nil =>
        cases hrest
        exact ⟨d' + c, hd'.snoc he, by omega⟩
      | cons z front =>
        cases hrest
        exact ⟨d' + c, hd'.snoc he, by omega⟩

/-- The beginning of a path. -/
theorem Path.ends_with {front : List V} (h : Path edges s (front ++ [v, s]) d) : ∃ c, Path edges s [v, s] c ∧ c ≤ d := by
  generalize hp : front ++ [v, s] = p at h
  induction h generalizing front with
  | source =>
    cases front with
    | nil => cases hp
    | cons x front => simp at hp
  | snoc h he ih =>
    rename_i u x p' d c
    cases front with
    | nil =>
      cases hp
      exact ⟨d + c, h.snoc he, Nat.le_refl _⟩
    | cons y front =>
      obtain ⟨c', hc', hle⟩ := ih (cons.inj hp).2
      exact ⟨c', hc', Nat.le_add_right_of_le hle⟩

theorem Path.direct {c : Nat} (he : ⟨s, v, c⟩ ∈ edges) : Path edges s [v, s] c := by
  have h : Path edges s [v, s] (0 + c) := Path.source.snoc he
  rwa [Nat.zero_add] at h

theorem Path.direct_edge (h : Path edges s [v, s] d) : ⟨s, v, d⟩ ∈ edges := by
  cases h with
  | snoc h he =>
    cases h with
    | source =>
      rw [Nat.zero_add]
      exact he

/-- What holds of the labels from the start on. -/
structure Sound (edges : List (Edge V)) (s : V) (top : Nat) (l : V → Label V) : Prop where
  source_dist : (l s).dist = 0
  source_parent : (l s).parent = none
  bounded : ∀ v, (l v).dist ≤ top
  path : ∀ v, (l v).dist < top → ∃ p, Path edges s (v :: p) (l v).dist
  parent : ∀ v u, (l v).parent = some u → ∃ c, ⟨u, v, c⟩ ∈ edges ∧ (l u).dist + c ≤ (l v).dist
  tree : ∀ v, (l v).dist < top → ∃ p, Tree l s (v :: p)
  unknown : ∀ v, (l v).dist = top → v ≠ s → (l v).parent = none

/-- All that is known of paths with few links has been used. -/
def Settled (edges : List (Edge V)) (s : V) (n : Nat) (l : V → Label V) : Prop :=
  ∀ v p d, Path edges s (v :: p) d → p.length ≤ n → (l v).dist ≤ d

def Lower (l l' : V → Label V) : Prop := ∀ v, (l' v).dist ≤ (l v).dist

theorem Tree.dist_le (h : Tree l s (v :: p)) (hl : Sound edges s top l) : ∀ x ∈ v :: p, (l x).dist ≤ (l v).dist := by
  generalize hvp : v :: p = vp at h
  induction h generalizing v p with
  | source =>
    cases hvp
    intro x hx
    exact Nat.le_of_eq (by rw [mem_singleton.mp hx])
  | step hv h ih =>
    cases hvp
    intro x hx
    cases mem_cons.mp hx with
    | inl heq =>
      exact Nat.le_of_eq (by rw [heq])
    | inr hmem =>
      obtain ⟨c, -, hle⟩ := hl.parent _ _ hv
      have hx' := ih rfl x hmem
      omega

/-- A vertex has one way up. -/
theorem Tree.unique (hs : (l s).parent = none) (h : Tree l s (v :: p)) (h' : Tree l s (v :: q)) : p = q := by
  generalize hvp : v :: p = vp at h
  induction h generalizing v p q with
  | source =>
    cases hvp
    cases h' with
    | source => rfl
    | step hv h' =>
      rw [hs] at hv
      cases hv
  | step hv h ih =>
    cases hvp
    cases h' with
    | source =>
      rw [hs] at hv
      cases hv
    | step hv' h' =>
      rw [hv] at hv'
      cases hv'
      rw [ih h' rfl]

theorem Tree.from (h : Tree l s p) (hv : v ∈ p) : ∃ q, Tree l s (v :: q) ∧ (v :: q) <:+ p := by
  induction h with
  | source =>
    rw [mem_singleton] at hv
    subst hv
    exact ⟨[], Tree.source, suffix_refl _⟩
  | step hparent h ih =>
    rename_i a b p
    cases mem_cons.mp hv with
    | inl heq =>
      subst heq
      exact ⟨a :: p, Tree.step hparent h, suffix_refl _⟩
    | inr hmem =>
      obtain ⟨q, hq, hsuffix⟩ := ih hmem
      exact ⟨q, hq, hsuffix.trans (suffix_cons b _)⟩

theorem Tree.nodup (hs : (l s).parent = none) (h : Tree l s p) : p.Nodup := by
  induction h with
  | source => exact nodup_singleton s
  | step hparent h ih =>
    refine nodup_cons.mpr ⟨?_, ih⟩
    intro hmem
    obtain ⟨q, hq, hsuffix⟩ := h.from hmem
    have hlength := hsuffix.length_le
    rw [Tree.unique hs hq (Tree.step hparent h)] at hlength
    exact absurd hlength (Nat.not_succ_le_self _)

/-- Where no link lowers a distance, the distances are below all paths. -/
theorem settled_of_relaxed (hs : (l s).dist = 0) (hall : ∀ e ∈ edges, (l e.dest).dist ≤ (l e.src).dist + e.metric) (n : Nat) :
    Settled edges s n l := by
  intro v p d hpath hlength
  clear hlength
  generalize hvp : v :: p = vp at hpath
  induction hpath generalizing v p with
  | source =>
    cases hvp
    exact Nat.le_of_eq hs
  | snoc h he ih =>
    cases hvp
    exact Nat.le_trans (hall _ he) (Nat.add_le_add_right (ih _ _ rfl) _)

section Relax

variable [DecidableEq V] {e : Edge V}

theorem relax_skip (h : (l e.dest).dist ≤ (l e.src).dist + e.metric) : relax l e = (l, false) := if_pos h

theorem relax_lower (h : ¬ (l e.dest).dist ≤ (l e.src).dist + e.metric) :
    relax l e = (Function.update l e.dest ⟨some e.src, (l e.src).dist + e.metric⟩, true) := if_neg h

theorem lower_relax (l : V → Label V) (e : Edge V) : Lower l (relax l e).1 := by
  intro v
  by_cases h : (l e.dest).dist ≤ (l e.src).dist + e.metric
  · exact Nat.le_of_eq (by rw [relax_skip h])
  · rw [relax_lower h]
    dsimp only
    by_cases hv : v = e.dest
    · subst hv
      rw [update_self]
      exact Nat.le_of_not_ge h
    · exact Nat.le_of_eq (by rw [update_of_ne hv])

/-- A way up that does not meet the vertex stays. -/
theorem Tree.update (h : Tree l s p) {lab : Label V} (hv : v ∉ p) : Tree (Function.update l v lab) s p := by
  induction h with
  | source => exact Tree.source
  | step hparent h ih =>
    rw [mem_cons, not_or] at hv
    refine Tree.step ?_ (ih hv.2)
    rw [update_of_ne (Ne.symm hv.1)]
    exact hparent

/-- The old way up, until it meets the vertex. -/
theorem Tree.updated {lab : Label V} (h : Tree l s (v :: p)) (hnew : Tree (Function.update l w lab) s (w :: q)) :
    ∃ r, Tree (Function.update l w lab) s (v :: r) := by
  generalize hvp : v :: p = vp at h
  induction h generalizing v p with
  | source =>
    cases hvp
    exact ⟨[], Tree.source⟩
  | step hparent h ih =>
    rename_i a b p'
    cases hvp
    by_cases hv : b = w
    · subst hv
      exact ⟨q, hnew⟩
    · obtain ⟨r, hr⟩ := ih rfl
      refine ⟨a :: r, Tree.step ?_ hr⟩
      rw [update_of_ne hv]
      exact hparent

theorem Sound.relax (hl : Sound edges s top l) (he : e ∈ edges) : Sound edges s top (relax l e).1 := by
  by_cases h : (l e.dest).dist ≤ (l e.src).dist + e.metric
  · rw [relax_skip h]
    exact hl
  · rw [relax_lower h]
    dsimp only
    have hlt : (l e.src).dist + e.metric < (l e.dest).dist := Nat.lt_of_not_le h
    have hsrc : (l e.src).dist < top := by
      have := hl.bounded e.dest
      omega
    have hdest : e.dest ≠ s := by
      intro heq
      rw [heq, hl.source_dist] at hlt
      exact absurd hlt (Nat.not_lt_zero _)
    have hne : e.src ≠ e.dest := by
      intro heq
      rw [heq] at hlt
      omega
    obtain ⟨p, hp⟩ := hl.tree e.src hsrc
    have hnew : Tree (Function.update l e.dest ⟨some e.src, (l e.src).dist + e.metric⟩) s (e.dest :: e.src :: p) := by
      refine Tree.step ?_ (hp.update ?_)
      · rw [update_self]
      · intro hmem
        have := hp.dist_le hl e.dest hmem
        omega
    constructor
    · rw [update_of_ne hdest.symm]
      exact hl.source_dist
    · rw [update_of_ne hdest.symm]
      exact hl.source_parent
    · intro v
      by_cases hv : v = e.dest
      · subst hv
        rw [update_self]
        have := hl.bounded e.dest
        dsimp only
        omega
      · rw [update_of_ne hv]
        exact hl.bounded v
    · intro v hdist
      by_cases hv : v = e.dest
      · subst hv
        rw [update_self]
        obtain ⟨q, hq⟩ := hl.path e.src hsrc
        exact ⟨e.src :: q, hq.snoc he⟩
      · rw [update_of_ne hv] at hdist ⊢
        exact hl.path v hdist
    · intro v u hparent
      by_cases hv : v = e.dest
      · subst hv
        rw [update_self] at hparent
        cases hparent
        refine ⟨e.metric, he, ?_⟩
        exact Nat.le_of_eq (by rw [update_self, update_of_ne hne])
      · rw [update_of_ne hv] at hparent
        obtain ⟨c, hmem, hle⟩ := hl.parent v u hparent
        refine ⟨c, hmem, ?_⟩
        rw [update_of_ne hv]
        by_cases hu : u = e.dest
        · subst hu
          rw [update_self]
          dsimp only
          omega
        · rw [update_of_ne hu]
          exact hle
    · intro v hdist
      by_cases hv : v = e.dest
      · subst hv
        exact ⟨_, hnew⟩
      · rw [update_of_ne hv] at hdist
        obtain ⟨q, hq⟩ := hl.tree v hdist
        exact hq.updated hnew
    · intro v hdist hs
      by_cases hv : v = e.dest
      · subst hv
        rw [update_self] at hdist
        dsimp only at hdist
        have := hl.bounded e.dest
        omega
      · rw [update_of_ne hv] at hdist ⊢
        exact hl.unknown v hdist hs

variable {r : (V → Label V) × Bool} {es : List (Edge V)}

theorem Sound.relaxAll (hes : es ⊆ edges) (hl : Sound edges s top r.1) :
    Sound edges s top (relaxAll es r).1 := by
  induction es generalizing r with
  | nil => exact hl
  | cons e es ih =>
    obtain ⟨he, hes⟩ := cons_subset.mp hes
    exact ih hes (hl.relax he)

theorem lower_relaxAll (es : List (Edge V)) (r : (V → Label V) × Bool) : Lower r.1 (relaxAll es r).1 := by
  induction es generalizing r with
  | nil => exact fun v => Nat.le_refl _
  | cons e es ih => exact fun v => Nat.le_trans (ih _ v) (lower_relax r.1 e v)

/-- After a round, each link has been followed from the distance there was before. -/
theorem relaxAll_dist (he : e ∈ es) :
    ((relaxAll es r).1 e.dest).dist ≤ (r.1 e.src).dist + e.metric := by
  induction es generalizing r with
  | nil => cases he
  | cons e' es ih =>
    cases mem_cons.mp he with
    | inl heq =>
      subst heq
      refine Nat.le_trans (lower_relaxAll es _ e.dest) ?_
      by_cases h : (r.1 e.dest).dist ≤ (r.1 e.src).dist + e.metric
      · rw [relax_skip h]
        exact h
      · rw [relax_lower h]
        dsimp only
        exact Nat.le_of_eq (by rw [update_self])
    | inr hmem =>
      have hsrc := lower_relax r.1 e' e.src
      exact Nat.le_trans (ih hmem) (Nat.add_le_add_right hsrc e.metric)

theorem relaxAll_changed (h : (relaxAll es r).2 = false) :
    r.2 = false ∧ (relaxAll es r).1 = r.1 ∧ ∀ e ∈ es, (r.1 e.dest).dist ≤ (r.1 e.src).dist + e.metric := by
  induction es generalizing r with
  | nil => exact ⟨h, rfl, fun e he => absurd he not_mem_nil⟩
  | cons e es ih =>
    obtain ⟨hflag, hsame, hall⟩ := ih h
    obtain ⟨hr, hrelax⟩ := Bool.or_eq_false_iff.mp hflag
    have hskip : (r.1 e.dest).dist ≤ (r.1 e.src).dist + e.metric := by
      by_contra hlt
      rw [relax_lower hlt] at hrelax
      cases hrelax
    rw [relax_skip hskip] at hsame hall
    refine ⟨hr, ?_, ?_⟩
    · rw [BellmanFord.relaxAll, relax_skip hskip]
      exact hsame
    · intro e' he'
      cases mem_cons.mp he' with
      | inl heq =>
        rw [heq]
        exact hskip
      | inr hmem => exact hall e' hmem

theorem Settled.relaxAll (hl : Settled edges s n l) : Settled edges s (n + 1) (relaxAll edges (l, false)).1 := by
  intro v p d hpath hlength
  cases hpath with
  | source => exact Nat.le_trans (lower_relaxAll edges (l, false) s) (hl s [] 0 Path.source (Nat.zero_le n))
  | snoc h he =>
    rename_i u p d c
    have hu : (l u).dist ≤ d := hl u p d h (Nat.le_of_succ_le_succ hlength)
    exact Nat.le_trans (relaxAll_dist he) (Nat.add_le_add_right hu c)

/-- So many rounds settle paths with so many links more. -/
theorem rounds_spec {k : Nat} (hl : Sound edges s top l) (hsettled : Settled edges s k l) (n : Nat) :
    Sound edges s top (rounds edges n l) ∧ Settled edges s (k + n) (rounds edges n l) := by
  induction n generalizing k l with
  | zero => exact ⟨hl, hsettled⟩
  | succ n ih =>
    rw [rounds]
    by_cases hmod : (relaxAll edges (l, false)).2 = true
    · rw [if_pos hmod, Nat.add_comm n 1, ← Nat.add_assoc]
      exact ih (hl.relaxAll (Subset.refl edges)) hsettled.relaxAll
    · rw [if_neg hmod]
      have hall := (relaxAll_changed (Bool.eq_false_iff.mpr hmod)).2.2
      exact ⟨hl, settled_of_relaxed hl.source_dist hall _⟩

theorem start_sound : Sound edges s top (start top s) := by
  have hdist {v : V} (h : (start top s v).dist < top) : v = s := by
    by_contra hv
    rw [start, update_of_ne hv] at h
    exact absurd h (Nat.lt_irrefl top)
  have hparent (v : V) : (start top s v).parent = none := by
    by_cases hv : v = s
    · rw [start, hv, update_self]
    · rw [start, update_of_ne hv]
  constructor
  · rw [start, update_self]
  · exact hparent s
  · intro v
    by_cases hv : v = s
    · rw [start, hv, update_self]
      exact Nat.zero_le top
    · exact Nat.le_of_eq (by rw [start, update_of_ne hv])
  · intro v h
    rw [hdist h, start, update_self]
    exact ⟨[], Path.source⟩
  · intro v u h
    rw [hparent v] at h
    cases h
  · intro v h
    rw [hdist h]
    exact ⟨[], Tree.source⟩
  · intro v _ _
    exact hparent v

theorem start_settled : Settled edges s 0 (start top s) := by
  intro v p d hpath hlength
  cases hpath with
  | source =>
    exact Nat.le_of_eq (by rw [start, update_self])
  | snoc h he => cases hlength

/-- The labels are those of the shortest paths. -/
structure Shortest (edges : List (Edge V)) (s : V) (top : Nat) (l : V → Label V) : Prop extends Sound edges s top l where
  least : ∀ v p d, Path edges s (v :: p) d → (l v).dist ≤ d

/-- One round less than there are vertices is enough. -/
theorem rounds_shortest {vs : List V} (hs : s ∈ vs) (hedges : ∀ e ∈ edges, e.dest ∈ vs) :
    Shortest edges s top (rounds edges (vs.length - 1) (start top s)) := by
  have hstart : Settled edges s 0 (start top s) := start_settled
  obtain ⟨hsound, hsettled⟩ := rounds_spec start_sound hstart (vs.length - 1)
  refine { hsound with least := ?_ }
  intro v p d hpath
  obtain ⟨q, e, hq, hle, hlength⟩ := hpath.short hs hedges
  exact Nat.le_trans (hsettled v q e hq (by rwa [Nat.zero_add])) hle

end Relax

theorem Shortest.tight (hl : Shortest edges s top l) (hparent : (l v).parent = some u) :
    ∃ c, ⟨u, v, c⟩ ∈ edges ∧ (l v).dist = (l u).dist + c ∧ (l u).dist < top := by
  obtain ⟨c, he, hle⟩ := hl.parent v u hparent
  have hv : (l v).dist < top := by
    refine Nat.lt_of_le_of_ne (hl.bounded v) fun htop => ?_
    by_cases hvs : v = s
    · rw [hvs, hl.source_parent] at hparent
      cases hparent
    · rw [hl.unknown v htop hvs] at hparent
      cases hparent
  have hu : (l u).dist < top := by omega
  obtain ⟨p, hp⟩ := hl.path u hu
  have hupper := hl.least v (u :: p) _ (hp.snoc he)
  exact ⟨c, he, by omega, hu⟩

/-- The way up the parents is a shortest path. -/
theorem Shortest.tree_path (hl : Shortest edges s top l) (h : Tree l s (v :: p)) : Path edges s (v :: p) (l v).dist := by
  generalize hvp : v :: p = vp at h
  induction h generalizing v p with
  | source =>
    cases hvp
    rw [hl.source_dist]
    exact Path.source
  | step hparent h ih =>
    cases hvp
    obtain ⟨c, he, hdist, -⟩ := hl.tight hparent
    rw [hdist]
    exact (ih rfl).snoc he

end BellmanFord
