import Inetmanet.Lib.Tiling

/-!
# The reassembly buffer

`ReassemblyBuffer.cc`: the offset range that is there already, and the fragments
that do not connect to it yet.
-/
namespace Inet

open List Nat

structure ReassemblyBuffer.Region where
  beg : Nat
  end_ : Nat
  islast : Bool
  deriving DecidableEq, Repr

structure ReassemblyBuffer where
  main : ReassemblyBuffer.Region
  fragments : List ReassemblyBuffer.Region
  deriving DecidableEq, Repr

namespace ReassemblyBuffer

open Tiling

def init : ReassemblyBuffer := ⟨⟨0, 0, false⟩, []⟩

/-- One pass of the loop of `mergeFragments`. -/
def mergePass (main : Region) : List Region → Region × List Region
  | [] => (main, [])
  | frag :: frags =>
    if main.end_ = frag.beg then
      mergePass { main with end_ := frag.end_, islast := main.islast || frag.islast } frags
    else if main.beg = frag.end_ then mergePass { main with beg := frag.beg } frags
    else if main.beg ≤ frag.beg ∧ frag.end_ ≤ main.end_ then mergePass main frags
    else ((mergePass main frags).1, frag :: (mergePass main frags).2)

/-- The passes are repeated as long as they take fragments out, so that there are at
most as many of them as fragments, and one more. -/
def mergeFragments : Nat → Region → List Region → ReassemblyBuffer
  | 0, main, frags => ⟨main, frags⟩
  | fuel + 1, main, frags =>
    let (main', frags') := mergePass main frags
    if frags'.length = frags.length then ⟨main', frags'⟩ else mergeFragments fuel main' frags'

def merge (buf : ReassemblyBuffer) (beg end_ : Nat) (islast : Bool) : ReassemblyBuffer :=
  let main := buf.main
  if main.end_ = beg then
    mergeFragments buf.fragments.length
      { main with end_ := end_, islast := main.islast || islast } buf.fragments
  else if main.beg = end_ then
    mergeFragments buf.fragments.length { main with beg := beg } buf.fragments
  else if main.end_ < beg ∨ end_ < main.beg then
    { buf with fragments := buf.fragments ++ [⟨beg, end_, islast⟩] }
  else buf

/-- The buffer afterwards, and whether everything up to the last fragment is there. The
offsets are of type `ushort`. -/
def addFragment (buf : ReassemblyBuffer) (beg end_ : Nat) (islast : Bool) : ReassemblyBuffer × Bool :=
  let buf := buf.merge (beg % 2 ^ 16) (end_ % 2 ^ 16) islast
  (buf, buf.main.beg == 0 && buf.main.islast)

/-- Only a fragment from the start on completes a datagram by itself. -/
theorem addFragment_init {beg end_ : Nat} {islast : Bool} (h : (init.addFragment beg end_ islast).2 = true) :
    beg % 2 ^ 16 = 0 ∧ islast = true := by
  simp only [addFragment, merge] at h
  by_cases hbeg : init.main.end_ = beg % 2 ^ 16
  · rw [if_pos hbeg] at h
    exact ⟨hbeg.symm, by simpa [init, mergeFragments] using h⟩
  · by_cases hend : init.main.beg = end_ % 2 ^ 16
    · rw [if_neg hbeg, if_pos hend] at h
      simp [init, mergeFragments] at h
    · by_cases hapart : init.main.end_ < beg % 2 ^ 16 ∨ end_ % 2 ^ 16 < init.main.beg
      · rw [if_neg hbeg, if_neg hend, if_pos hapart] at h
        simp [init] at h
      · rw [if_neg hbeg, if_neg hend, if_neg hapart] at h
        simp [init] at h

def getTotalLength (buf : ReassemblyBuffer) : Nat := buf.main.end_

section Tiling

variable {α : Type} {lo hi : α → Nat} {n : Nat} {l : List α} {R : α → Prop} {x : α}
  {main : Region} {frags : List Region} {buf : ReassemblyBuffer}

/-- The region of a piece of `[0, n)`. -/
def regionOf (lo hi : α → Nat) (n : Nat) (x : α) : Region := ⟨lo x, hi x, decide (hi x = n)⟩

/-- The main region covers received pieces from the start on; the other received pieces
are among the fragments. -/
structure Covers (lo hi : α → Nat) (n : Nat) (l : List α) (R : α → Prop) (main : Region)
    (frags : List Region) : Prop where
  beg : main.beg = 0
  ends : main.end_ = 0 ∨ ∃ x ∈ l, hi x = main.end_
  islast : main.islast = decide (main.end_ = n)
  below : ∀ x ∈ l, hi x ≤ main.end_ → R x
  above : ∀ x ∈ l, main.end_ ≤ lo x → R x → regionOf lo hi n x ∈ frags
  kept : ∀ f ∈ frags, ∃ x ∈ l, R x ∧ f = regionOf lo hi n x

/-- Nothing that is put aside connects to the main region. -/
structure Holds (lo hi : α → Nat) (n : Nat) (l : List α) (R : α → Prop) (buf : ReassemblyBuffer) :
    Prop extends Covers lo hi n l R buf.main buf.fragments where
  next : ∀ x ∈ l, lo x = buf.main.end_ → ¬ R x

theorem Holds.init (hn : 0 < n) (hpos : ∀ x ∈ l, lo x < hi x) : Holds lo hi n l (fun _ => False) init where
  beg := rfl
  ends := .inl rfl
  islast := by
    have hne : ¬ 0 = n := by omega
    simp [ReassemblyBuffer.init, hne]
  below x hx hle := by
    have := hpos x hx
    have hzero : hi x ≤ 0 := hle
    omega
  above _ _ _ h := h.elim
  kept f hf := by cases hf
  next _ _ _ h := h

/-- The piece at the end of the main region extends it. -/
theorem Covers.extend (h : Covers lo hi n l R main frags) (htiles : Tiles lo hi 0 n l)
    (hpos : ∀ x ∈ l, lo x < hi x) (hx : x ∈ l) (hend : main.end_ = lo x) {S : α → Prop}
    (hS : ∀ y, S y ↔ R y ∨ y = x) {frags' : List Region}
    (hsub : ∀ f ∈ frags', f ∈ frags) (hrest : ∀ f ∈ frags, f.beg ≠ lo x → f ∈ frags') :
    Covers lo hi n l S
      { main with end_ := hi x, islast := main.islast || decide (hi x = n) } frags' where
  beg := h.beg
  ends := .inr ⟨x, hx, rfl⟩
  islast := by
    have hlt := hpos x hx
    have hle := (htiles.mem hx).2.2
    have hne : ¬ lo x = n := by omega
    simp [h.islast, hend, hne]
  below y hy hle := by
    rw [hS]
    rcases htiles.eq_or_apart hy hx with heq | hlt | hgt
    · exact .inr heq
    · exact .inl (h.below y hy (by rw [hend]; exact hlt))
    · have := hpos y hy
      simp only at hle
      omega
  above y hy hle hR := by
    simp only at hle
    have hlt := hpos x hx
    have hne : y ≠ x := by
      intro heq
      rw [heq] at hle
      omega
    have hRy : R y := ((hS y).mp hR).resolve_right hne
    refine hrest _ (h.above y hy (by omega) hRy) ?_
    simp only [regionOf]
    omega
  kept f hf := by
    obtain ⟨y, hy, hRy, heq⟩ := h.kept f (hsub f hf)
    exact ⟨y, hy, (hS y).mpr (.inl hRy), heq⟩

/-- A fragment that lies in the main region need not be kept. -/
theorem Covers.forget (h : Covers lo hi n l R main frags) (hpos : ∀ x ∈ l, lo x < hi x)
    {frags' : List Region} (hsub : ∀ f ∈ frags', f ∈ frags)
    (hrest : ∀ f ∈ frags, main.end_ < f.end_ → f ∈ frags') : Covers lo hi n l R main frags' where
  beg := h.beg
  ends := h.ends
  islast := h.islast
  below := h.below
  above y hy hle hR := by
    have hlt := hpos y hy
    refine hrest _ (h.above y hy hle hR) ?_
    simp only [regionOf]
    omega
  kept f hf := h.kept f (hsub f hf)

theorem mergePass_covers (htiles : Tiles lo hi 0 n l) (hpos : ∀ x ∈ l, lo x < hi x) (passed : List Region)
    (h : Covers lo hi n l R main (passed ++ frags)) :
    Covers lo hi n l R (mergePass main frags).1 (passed ++ (mergePass main frags).2) := by
  induction frags generalizing main passed with
  | nil => exact h
  | cons frag frags ih =>
    obtain ⟨x, hx, hR, hfrag⟩ := h.kept frag (by simp)
    have hsub : ∀ f ∈ passed ++ frags, f ∈ passed ++ frag :: frags := by
      intro f hf
      simp only [mem_append, mem_cons] at hf ⊢
      exact hf.imp_right .inr
    have hothers : ∀ f ∈ passed ++ frag :: frags, f ≠ frag → f ∈ passed ++ frags := by
      intro f hf hne
      simp only [mem_append, mem_cons] at hf ⊢
      exact hf.imp_right fun h => h.resolve_left hne
    rw [mergePass]
    by_cases hend : main.end_ = frag.beg
    · rw [if_pos hend]
      apply ih
      have hbeg : frag.beg = lo x := by rw [hfrag]; rfl
      have hext := h.extend htiles hpos hx (hend.trans hbeg) (S := R)
        (fun y => ⟨.inl, fun h => h.elim id fun heq => heq ▸ hR⟩) hsub
        (fun f hf hne => hothers f hf fun heq => hne (by rw [heq, hbeg]))
      rw [hfrag]
      exact hext
    · have hbeg : ¬ main.beg = frag.end_ := by
        have hlt := hpos x hx
        have hend' : frag.end_ = hi x := by rw [hfrag]; rfl
        rw [h.beg, hend']
        omega
      rw [if_neg hend, if_neg hbeg]
      by_cases hin : main.beg ≤ frag.beg ∧ frag.end_ ≤ main.end_
      · rw [if_pos hin]
        apply ih
        refine h.forget hpos hsub fun f hf hlt => hothers f hf fun heq => ?_
        rw [heq] at hlt
        exact absurd hin.2 (by omega)
      · rw [if_neg hin]
        have hrest := ih (passed ++ [frag]) (by rw [append_assoc]; exact h)
        rw [append_assoc] at hrest
        exact hrest

theorem mergePass_length (main : Region) (frags : List Region) :
    (mergePass main frags).2.length ≤ frags.length := by
  induction frags generalizing main with
  | nil => exact Nat.le_refl _
  | cons frag frags ih =>
    rw [mergePass]
    split
    · exact le_succ_of_le (ih _)
    · split
      · exact le_succ_of_le (ih _)
      · split
        · exact le_succ_of_le (ih _)
        · exact succ_le_succ (ih _)

/-- A pass that takes nothing out has found nothing at the end of the main region. -/
theorem mergePass_stable (h : (mergePass main frags).2.length = frags.length) :
    (mergePass main frags).1 = main ∧ ∀ f ∈ (mergePass main frags).2, main.end_ ≠ f.beg := by
  induction frags generalizing main with
  | nil => exact ⟨rfl, by simp [mergePass]⟩
  | cons frag frags ih =>
    have hshort : ∀ main', (mergePass main' frags).2.length ≠ frags.length + 1 := by
      intro main'
      have := mergePass_length main' frags
      omega
    rw [mergePass] at h ⊢
    by_cases hend : main.end_ = frag.beg
    · rw [if_pos hend] at h
      exact absurd h (hshort _)
    · rw [if_neg hend] at h ⊢
      by_cases hbeg : main.beg = frag.end_
      · rw [if_pos hbeg] at h
        exact absurd h (hshort _)
      · rw [if_neg hbeg] at h ⊢
        by_cases hin : main.beg ≤ frag.beg ∧ frag.end_ ≤ main.end_
        · rw [if_pos hin] at h
          exact absurd h (hshort _)
        · rw [if_neg hin] at h ⊢
          obtain ⟨hmain, hrest⟩ := ih (succ_inj.mp h)
          refine ⟨hmain, fun f hf => ?_⟩
          cases mem_cons.mp hf with
          | inl heq => rw [heq]; exact hend
          | inr hmem => exact hrest f hmem

/-- When the passes are over, nothing that was put aside connects any more. -/
theorem mergeFragments_holds (htiles : Tiles lo hi 0 n l) (hpos : ∀ x ∈ l, lo x < hi x) {fuel : Nat}
    (hfuel : frags.length ≤ fuel) (h : Covers lo hi n l R main frags) :
    Holds lo hi n l R (mergeFragments fuel main frags) := by
  induction fuel generalizing main frags with
  | zero =>
    have hnil := eq_nil_of_length_eq_zero (le_zero.mp hfuel)
    refine ⟨h, fun x hx heq hR => ?_⟩
    have hmem := h.above x hx (Nat.le_of_eq heq.symm) hR
    rw [hnil] at hmem
    cases hmem
  | succ fuel ih =>
    have hpass := mergePass_covers htiles hpos [] h
    rw [mergeFragments]
    by_cases hlen : (mergePass main frags).2.length = frags.length
    · obtain ⟨hmain, hstable⟩ := mergePass_stable hlen
      simp only [hlen, if_true]
      refine ⟨hpass, fun x hx heq hR => ?_⟩
      have hmem := hpass.above x hx (Nat.le_of_eq heq.symm) hR
      exact hstable _ hmem (by rw [← hmain, ← heq]; rfl)
    · have hshort := mergePass_length main frags
      simp only [hlen, if_false]
      exact ih (by omega) hpass

section

variable (h : Holds lo hi n l R buf)
include h

theorem Holds.congr {S : α → Prop}
    (hS : ∀ x ∈ l, S x ↔ R x) : Holds lo hi n l S buf where
  beg := h.beg
  ends := h.ends
  islast := h.islast
  below x hx hle := (hS x hx).mpr (h.below x hx hle)
  above x hx hle hSx := h.above x hx hle ((hS x hx).mp hSx)
  kept f hf := by
    obtain ⟨x, hx, hR, heq⟩ := h.kept f hf
    exact ⟨x, hx, (hS x hx).mpr hR, heq⟩
  next x hx heq hSx := h.next x hx heq ((hS x hx).mp hSx)

/-- Pieces may arrive in any order, and several times. -/
theorem Holds.merge (htiles : Tiles lo hi 0 n l) (hpos : ∀ x ∈ l, lo x < hi x) (hx : x ∈ l) :
    Holds lo hi n l (fun y => R y ∨ y = x) (buf.merge (lo x) (hi x) (decide (hi x = n))) := by
  have hlt := hpos x hx
  have hbeg : ¬ buf.main.beg = hi x := by
    rw [h.beg]
    omega
  simp only [ReassemblyBuffer.merge]
  by_cases hend : buf.main.end_ = lo x
  · rw [if_pos hend]
    refine mergeFragments_holds htiles hpos (Nat.le_refl _) ?_
    exact h.toCovers.extend htiles hpos hx hend (fun _ => Iff.rfl) (fun _ hf => hf) (fun _ hf _ => hf)
  · rw [if_neg hend, if_neg hbeg]
    by_cases hapart : buf.main.end_ < lo x ∨ hi x < buf.main.beg
    · -- the piece is put aside
      rw [if_pos hapart]
      exact {
        beg := h.beg
        ends := h.ends
        islast := h.islast
        below := fun y hy hle => .inl (h.below y hy hle)
        above := fun y hy hle hR => by
          cases hR with
          | inl hR => exact mem_append_left _ (h.above y hy hle hR)
          | inr heq => rw [heq]; exact mem_append_right _ (mem_singleton.mpr rfl)
        kept := fun f hf => by
          cases mem_append.mp hf with
          | inl hf =>
            obtain ⟨y, hy, hR, heq⟩ := h.kept f hf
            exact ⟨y, hy, .inl hR, heq⟩
          | inr hf => exact ⟨x, hx, .inr rfl, mem_singleton.mp hf⟩
        next := fun y hy heq hR => by
          cases hR with
          | inl hR => exact h.next y hy heq hR
          | inr hyx =>
            rw [hyx] at heq
            simp only at heq
            omega }
    · -- the piece is a duplicate
      rw [if_neg hapart]
      have hR : R x := by
        apply h.below x hx
        rcases h.ends with hzero | ⟨z, hz, hzend⟩
        · omega
        · have hzlt := hpos z hz
          rcases htiles.eq_or_apart hx hz with heq | hlt | hgt
          · exact heq ▸ Nat.le_of_eq hzend
          · omega
          · omega
      exact h.congr fun y _ => ⟨fun hy => hy.elim id fun heq => heq ▸ hR, .inl⟩

/-- The buffer is complete as soon as every piece has arrived. -/
theorem Holds.complete_iff (hn : 0 < n)
    (htiles : Tiles lo hi 0 n l) : (buf.main.beg == 0 && buf.main.islast) = true ↔ ∀ x ∈ l, R x := by
  have hne : l ≠ [] := by
    intro hnil
    rw [hnil] at htiles
    have : 0 = n := htiles
    omega
  have hbeg : (buf.main.beg == 0) = true := by
    rw [h.beg]
    rfl
  rw [hbeg, Bool.true_and, h.islast, decide_eq_true_iff]
  constructor
  · intro hend x hx
    exact h.below x hx (by rw [hend]; exact (htiles.mem hx).2.2)
  · intro hall
    rcases h.ends with hzero | ⟨x, hx, hxend⟩
    · obtain ⟨y, hy, hlo⟩ := htiles.exists_first hne
      exact absurd (hall y hy) (h.next y hy (hlo.trans hzero.symm))
    · rcases htiles.exists_lo_eq hx with hb | ⟨y, hy, hlo⟩
      · exact hxend.symm.trans hb
      · exact absurd (hall y hy) (h.next y hy (hlo.trans hxend))

theorem Holds.getTotalLength (hlast : buf.main.islast = true) :
    buf.getTotalLength = n := by
  rw [h.islast, decide_eq_true_iff] at hlast
  exact hlast

end

end Tiling

/-- The buffer after some calls. -/
def after (calls : List Region) : ReassemblyBuffer :=
  calls.foldl (fun buf f => (buf.addFragment f.beg f.end_ f.islast).1) init

/-- What `addFragment` returns after some calls. -/
def returned (calls : List Region) (f : Region) : Bool := ((after calls).addFragment f.beg f.end_ f.islast).2

/-- The fragments of a datagram of `n` octets, in order. -/
structure Partition (n : Nat) (parts : List Region) : Prop where
  tiles : Tiles Region.beg Region.end_ 0 n parts
  nonempty : ∀ f ∈ parts, f.beg < f.end_
  islast : ∀ f ∈ parts, f.islast = decide (f.end_ = n)

/-- A fragment as it can come from a datagram. -/
def Region.Fits (f : Region) : Prop := f.beg ≤ f.end_ ∧ f.end_ < 2 ^ 16
deriving Decidable

section Histories

variable {n : Nat} {parts calls frags : List Region} {f main : Region} {buf : ReassemblyBuffer}

theorem after_append (calls : List Region) (f : Region) :
    after (calls ++ [f]) = ((after calls).addFragment f.beg f.end_ f.islast).1 := by
  rw [after, foldl_append]
  rfl

/-- The offsets do not wrap around. -/
theorem addFragment_of_fits (buf : ReassemblyBuffer) (hf : f.Fits) :
    buf.addFragment f.beg f.end_ f.islast =
      (buf.merge f.beg f.end_ f.islast, (buf.merge f.beg f.end_ f.islast).main.beg == 0 &&
        (buf.merge f.beg f.end_ f.islast).main.islast) := by
  have hbeg := mod_eq_of_lt (Nat.lt_of_le_of_lt hf.1 hf.2)
  have hend := mod_eq_of_lt hf.2
  rw [addFragment, hbeg, hend]

section

variable (h : Partition n parts)
include h

theorem Partition.fits (hn : n ≤ 65535) (hf : f ∈ parts) : f.Fits := by
  obtain ⟨-, hle, hend⟩ := h.tiles.mem hf
  exact ⟨hle, by omega⟩

theorem Partition.pos (hf : f ∈ parts) : 0 < n := by
  have hlt := h.nonempty f hf
  have hend := (h.tiles.mem hf).2.2
  omega

/-- One more fragment of the datagram. -/
theorem Partition.holds_merge {R : Region → Prop} (hf : f ∈ parts)
    (hholds : Holds Region.beg Region.end_ n parts R buf) :
    Holds Region.beg Region.end_ n parts (fun g => R g ∨ g = f) (buf.merge f.beg f.end_ f.islast) := by
  rw [h.islast f hf]
  exact hholds.merge h.tiles h.nonempty hf

theorem Partition.holds (hn : n ≤ 65535) (hpos : 0 < n) (hcalls : ∀ g ∈ calls, g ∈ parts) :
    Holds Region.beg Region.end_ n parts (fun g => g ∈ calls) (after calls) := by
  induction calls using reverseRecOn with
  | nil =>
    apply (Holds.init hpos h.nonempty).congr
    intro g _
    exact ⟨fun hg => absurd hg not_mem_nil, False.elim⟩
  | append_singleton calls f ih =>
    have hf : f ∈ parts := hcalls f (mem_append_right _ mem_cons_self)
    have hbefore := ih fun g hg => hcalls g (mem_append_left _ hg)
    rw [after_append, addFragment_of_fits _ (h.fits hn hf)]
    apply (h.holds_merge hf hbefore).congr
    intro g _
    rw [mem_append, mem_singleton]

end

/-- The main region begins at 0 and is covered by what has been added; what is put aside has been added. -/
structure Filled (calls : List Region) (main : Region) (frags : List Region) : Prop where
  beg : main.beg = 0
  covered : ∀ i, i < main.end_ → ∃ f ∈ calls, f.beg ≤ i ∧ i < f.end_
  kept : ∀ f ∈ frags, f ∈ calls

section

variable (h : Filled calls main frags)
include h

theorem Filled.mono {more : List Region} (hsub : ∀ f ∈ calls, f ∈ more) :
    Filled more main frags := by
  refine ⟨h.beg, ?_, fun f hf => hsub f (h.kept f hf)⟩
  intro i hi
  obtain ⟨f, hf, hin⟩ := h.covered i hi
  exact ⟨f, hsub f hf, hin⟩

/-- An added fragment at the end of the main region extends it. -/
theorem Filled.extend (hf : f ∈ calls) (hend : main.end_ = f.beg) (islast : Bool) :
    Filled calls { main with end_ := f.end_, islast := islast } frags := by
  refine ⟨h.beg, ?_, h.kept⟩
  intro i hi
  by_cases hbefore : i < main.end_
  · exact h.covered i hbefore
  · exact ⟨f, hf, by omega, hi⟩

/-- Only an empty fragment precedes the main region. -/
theorem Filled.precede (hfits : f.beg ≤ f.end_) (hbeg : main.beg = f.end_) :
    Filled calls { main with beg := f.beg } frags := by
  have hzero := h.beg
  refine ⟨?_, h.covered, h.kept⟩
  change f.beg = 0
  omega

end

theorem Filled.drop (h : Filled calls main (f :: frags)) : Filled calls main frags :=
  ⟨h.beg, h.covered, fun g hg => h.kept g (mem_cons_of_mem _ hg)⟩

section

variable (hfits : ∀ g ∈ calls, g.Fits)
include hfits

theorem Filled.mergePass (h : Filled calls main frags) :
    Filled calls (mergePass main frags).1 (mergePass main frags).2 := by
  induction frags generalizing main with
  | nil => exact h
  | cons f frags ih =>
    have hf : f ∈ calls := h.kept f mem_cons_self
    rw [ReassemblyBuffer.mergePass]
    split
    · next hend => exact ih (h.drop.extend hf hend _)
    · split
      · next hbeg => exact ih (h.drop.precede (hfits f hf).1 hbeg)
      · split
        · exact ih h.drop
        · have hrest := ih h.drop
          refine ⟨hrest.beg, hrest.covered, ?_⟩
          intro g hg
          cases mem_cons.mp hg with
          | inl heq => rw [heq]; exact hf
          | inr hmem => exact hrest.kept g hmem

theorem Filled.mergeFragments {fuel : Nat} (h : Filled calls main frags) :
    Filled calls (mergeFragments fuel main frags).main (mergeFragments fuel main frags).fragments := by
  induction fuel generalizing main frags with
  | zero => exact h
  | succ fuel ih =>
    rw [ReassemblyBuffer.mergeFragments]
    simp only
    split
    · exact h.mergePass hfits
    · exact ih (h.mergePass hfits)

theorem Filled.merge (hf : f ∈ calls) (h : Filled calls buf.main buf.fragments) :
    Filled calls (buf.merge f.beg f.end_ f.islast).main (buf.merge f.beg f.end_ f.islast).fragments := by
  rw [ReassemblyBuffer.merge]
  split
  · next hend => exact (h.extend hf hend _).mergeFragments hfits
  · split
    · next hbeg => exact (h.precede (hfits f hf).1 hbeg).mergeFragments hfits
    · split
      · refine ⟨h.beg, h.covered, ?_⟩
        intro g hg
        cases mem_append.mp hg with
        | inl hold => exact h.kept g hold
        | inr hnew => rw [mem_singleton.mp hnew]; exact hf
      · exact h

theorem filled_after : Filled calls (after calls).main (after calls).fragments := by
  induction calls using reverseRecOn with
  | nil => exact ⟨rfl, fun i hi => absurd hi (Nat.not_lt_zero i), fun f hf => absurd hf not_mem_nil⟩
  | append_singleton calls f ih =>
    have hbefore := ih fun g hg => hfits g (mem_append_left _ hg)
    have hf : f ∈ calls ++ [f] := mem_append_right _ mem_cons_self
    rw [after_append, addFragment_of_fits _ (hfits f hf)]
    exact (hbefore.mono fun g hg => mem_append_left _ hg).merge hfits hf

end

/-- Of the fragments of one datagram, `addFragment` returns true from the call on with which the last missing one
is added; and of no fragments whatever it returns true while an octet is missing. -/
theorem addFragment_exact :
    (∀ (n : Nat) (parts : List Region), n ≤ 65535 → Partition n parts → ∀ (calls : List Region) (f : Region),
      (∀ g ∈ calls ++ [f], g ∈ parts) →
        (returned calls f = true ↔ ∀ g ∈ parts, g ∈ calls ++ [f]) ∧
          (returned calls f = true → (after (calls ++ [f])).getTotalLength = n)) ∧
    ∀ (calls : List Region) (f : Region), (∀ g ∈ calls ++ [f], g.Fits) → returned calls f = true →
      ∀ i, i < (after (calls ++ [f])).getTotalLength → ∃ g ∈ calls ++ [f], g.beg ≤ i ∧ i < g.end_ := by
  constructor
  · intro n parts hn hparts calls f hcalls
    have hf : f ∈ parts := hcalls f (mem_append_right _ List.mem_cons_self)
    have hpos := hparts.pos hf
    have hholds := hparts.holds hn hpos hcalls
    have hreturned : returned calls f = ((after (calls ++ [f])).main.beg == 0 && (after (calls ++ [f])).main.islast) := by
      rw [returned, after_append, addFragment_of_fits _ (hparts.fits hn hf)]
    rw [hreturned, hholds.complete_iff hpos hparts.tiles]
    refine ⟨Iff.rfl, fun hall => ?_⟩
    have hcomplete := (hholds.complete_iff hpos hparts.tiles).mpr hall
    rw [Bool.and_eq_true] at hcomplete
    exact hholds.getTotalLength hcomplete.2
  · intro calls f hfits _
    exact (filled_after hfits).covered

/-- The second half comes first, and twice. -/
theorem secondHalf_first : returned [⟨8, 16, true⟩, ⟨8, 16, true⟩] ⟨0, 8, false⟩ = true ∧
    (after [⟨8, 16, true⟩, ⟨8, 16, true⟩, ⟨0, 8, false⟩]).getTotalLength = 16 := by
  have hparts : Partition 16 [⟨0, 8, false⟩, ⟨8, 16, true⟩] := by
    refine ⟨⟨rfl, by decide, rfl, by decide, rfl⟩, ?_, ?_⟩
    · decide
    · decide
  obtain ⟨hreturned, htotal⟩ := addFragment_exact.1 16 _ (by decide) hparts [⟨8, 16, true⟩, ⟨8, 16, true⟩] ⟨0, 8, false⟩
    (by decide)
  have hall := hreturned.mpr (by decide)
  exact ⟨hall, htotal hall⟩

end Histories

end ReassemblyBuffer

end Inet
