import Inetmanet.Ipv6.AddressGrammar

/-!
# Printed IPv6 addresses are read back

`str` replaces the first longest run of zero groups by `::`, and `tryParse` reads the
address back. With a prefix length after it the printed address is read back unless it
is unspecified: `<unspec>` is looked for with the rest of the text still there.
-/
namespace Inet.Ipv6

open Strtoul List BitVec Nat

namespace IPv6Address

/-- At least two zero groups in a row, from `i` up to `j`. -/
def Run (gs : List (BitVec 16)) (i j : Nat) : Prop := i + 2 ≤ j ∧ ∀ k, i ≤ k → k < j → gs[k]? = some 0

/-- The first one of the longest runs. -/
def LongestRun (gs : List (BitVec 16)) (start stop : Nat) : Prop :=
  Run gs start stop ∧ ∀ i j, Run gs i j → j - i ≤ stop - start ∧ (j - i = stop - start → start ≤ i)

/-- What is known once the groups before `i` are seen. Those from `beg` on are zero, and no run reaches across
the group before it; `gap` is the best of what lies before. -/
structure Swept (gs : List (BitVec 16)) (i beg : Nat) (gap : Nat × Nat) : Prop where
  le : beg ≤ i
  zeros : ∀ k, beg ≤ k → k < i → gs[k]? = some 0
  edge : 0 < beg → gs[beg - 1]? ≠ some 0
  run : gap = (0, 0) ∨ Run gs gap.1 gap.2
  before : gap.2 ≤ beg
  best : ∀ p q, Run gs p q → q ≤ beg → q - p ≤ gap.2 - gap.1 ∧ (q - p = gap.2 - gap.1 → gap.1 ≤ p)

variable {gs : List (BitVec 16)} {i beg : Nat} {gap : Nat × Nat}

variable {p q start stop n : Nat}

theorem Run.not_across (h : Run gs p q) (hedge : 0 < beg → gs[beg - 1]? ≠ some 0) :
    q ≤ beg ∨ beg ≤ p := by
  by_cases hp : beg ≤ p
  · exact .inr hp
  · left
    apply Classical.byContradiction
    intro hq
    exact hedge (by omega) (h.2 (beg - 1) (by omega) (by omega))

/-- The gap after a run of zeroes from `beg` up to `i`. -/
def close (i beg : Nat) (gap : Nat × Nat) : Nat × Nat :=
  if 2 ≤ i - beg ∧ gap.2 - gap.1 < i - beg then (beg, i) else gap

section

variable (h : Swept gs i beg gap)
include h

theorem Swept.close_best (hrun : Run gs p q) (hq : q ≤ i) :
    q - p ≤ (close i beg gap).2 - (close i beg gap).1 ∧
      (q - p = (close i beg gap).2 - (close i beg gap).1 → (close i beg gap).1 ≤ p) := by
  have hlong := hrun.1
  have hbefore := h.before
  unfold close
  split
  · rcases hrun.not_across h.edge with hq' | hp
    · have hbest := (h.best p q hrun hq').1
      exact ⟨by simp only; omega, fun heq => by simp only at heq; omega⟩
    · exact ⟨by simp only; omega, fun _ => hp⟩
  · rcases hrun.not_across h.edge with hq' | hp
    · exact h.best p q hrun hq'
    · exact ⟨by omega, fun heq => by omega⟩

theorem Swept.close_run :
    close i beg gap = (0, 0) ∨ Run gs (close i beg gap).1 (close i beg gap).2 := by
  unfold close
  split
  · exact .inr ⟨by simp only; omega, h.zeros⟩
  · exact h.run

theorem Swept.close_le : (close i beg gap).2 ≤ i := by
  have hbefore := h.before
  have hle := h.le
  unfold close
  split
  · exact Nat.le_refl i
  · omega

/-- A zero group. -/
theorem Swept.zero (hzero : gs[i]? = some 0) : Swept gs (i + 1) beg gap := by
  have hle := h.le
  refine { h with le := by omega, zeros := fun k hk hk' => ?_ }
  by_cases hlast : k = i
  · rw [hlast]
    exact hzero
  · exact h.zeros k hk (by omega)

/-- A group that is not zero. -/
theorem Swept.nonzero (hnonzero : gs[i]? ≠ some 0) : Swept gs (i + 1) (i + 1) (close i beg gap) where
  le := Nat.le_refl _
  zeros := fun k hk hk' => by omega
  edge := fun _ => hnonzero
  run := h.close_run
  before := le_succ_of_le h.close_le
  best := by
    intro p q hrun hq
    apply h.close_best hrun
    have hlong := hrun.1
    have hedge : 0 < i + 1 → gs[i + 1 - 1]? ≠ some 0 := fun _ => hnonzero
    rcases hrun.not_across hedge with _ | hp
    · apply Classical.byContradiction
      intro hi
      exact hnonzero (hrun.2 i (by omega) (by omega))
    · omega

end

theorem close_self (i : Nat) (gap : Nat × Nat) : close i i gap = gap := by
  rw [close, if_neg (by omega)]

theorem findGapLoop_swept (begun : Option Nat) {rest : List (BitVec 16)} (h : Swept gs i (begun.getD i) gap)
    (hrest : gs.drop i = rest) (hi : i ≤ gs.length) :
    Swept gs gs.length ((findGapLoop i begun gap rest).1.getD gs.length) (findGapLoop i begun gap rest).2 := by
  induction rest generalizing i begun gap with
  | nil =>
    have hend : i = gs.length := Nat.le_antisymm hi (drop_eq_nil_iff.mp hrest)
    subst hend
    cases begun with
    | none => exact h
    | some b => exact h
  | cons group rest ih =>
    have hgroup : gs[i]? = some group := by
      rw [← List.head?_drop, hrest]
      rfl
    have hrest' : gs.drop (i + 1) = rest := by
      rw [← tail_drop, hrest]
      rfl
    have hi' : i + 1 ≤ gs.length := List.getElem?_eq_some_iff.mp hgroup |>.1
    cases begun with
    | none =>
      rw [findGapLoop]
      by_cases hzero : group = 0
      · rw [if_pos hzero]
        exact ih (some i) (h.zero (by rw [hgroup, hzero])) hrest' hi'
      · rw [if_neg hzero]
        have hnext := h.nonzero (by rw [hgroup]; simpa using hzero)
        rw [Option.getD_none, close_self] at hnext
        exact ih none hnext hrest' hi'
    | some b =>
      rw [findGapLoop]
      by_cases hzero : group = 0
      · rw [if_neg (by simpa using hzero)]
        exact ih (some b) (h.zero (by rw [hgroup, hzero])) hrest' hi'
      · rw [if_pos hzero]
        exact ih none (h.nonzero (by rw [hgroup]; simpa using hzero)) hrest' hi'

section

variable (hlength : gs.length = 8)
include hlength

/-- The gap is none at all or a run, and no run is better. -/
theorem findGap_spec :
    (findGap gs = (0, 0) ∨ Run gs (findGap gs).1 (findGap gs).2) ∧ (findGap gs).2 ≤ 8 ∧
      ∀ p q, Run gs p q → q - p ≤ (findGap gs).2 - (findGap gs).1 ∧
        (q - p = (findGap gs).2 - (findGap gs).1 → (findGap gs).1 ≤ p) := by
  have hstart : Swept gs 0 0 (0, 0) := by
    refine ⟨Nat.le_refl _, by omega, by omega, .inl rfl, Nat.le_refl _, fun p q hrun hq => ?_⟩
    omega
  have hswept := findGapLoop_swept none hstart rfl (Nat.zero_le _)
  rw [drop_zero, hlength] at hswept
  have hgap : findGap gs = close 8 ((findGapLoop 0 none (0, 0) gs).1.getD 8) (findGapLoop 0 none (0, 0) gs).2 := by
    unfold findGap
    rcases hloop : findGapLoop 0 none (0, 0) gs with ⟨begun, gap⟩
    cases begun with
    | none => exact (close_self 8 gap).symm
    | some b =>
      have hiff : (b ≤ 6 ∧ gap.2 - gap.1 < 8 - b) ↔ (2 ≤ 8 - b ∧ gap.2 - gap.1 < 8 - b) := by omega
      simp only [close, Option.getD_some, hiff]
  rw [hgap]
  refine ⟨hswept.close_run, hswept.close_le, fun p q hrun => hswept.close_best hrun ?_⟩
  have hlast := (List.getElem?_eq_some_iff.mp (hrun.2 (q - 1) (by have := hrun.1; omega) (by have := hrun.1; omega))).1
  omega

theorem LongestRun.findGap_eq (h : LongestRun gs start stop) :
    findGap gs = (start, stop) := by
  obtain ⟨hrun, -, hbest⟩ := findGap_spec hlength
  have hlong := h.1.1
  obtain ⟨hle, hfirst⟩ := hbest start stop h.1
  rcases hrun with hnone | hrun
  · rw [hnone] at hle
    omega
  · obtain ⟨hle', hfirst'⟩ := h.2 _ _ hrun
    exact Prod.ext (by simp only; omega) (by simp only; omega)

theorem longestRun_findGap (h : ∃ i j, Run gs i j) :
    LongestRun gs (findGap gs).1 (findGap gs).2 := by
  obtain ⟨i, j, hrun⟩ := h
  obtain ⟨hgap, -, hbest⟩ := findGap_spec hlength
  have hlong := hrun.1
  have hle := (hbest i j hrun).1
  refine ⟨hgap.resolve_left fun hnone => ?_, hbest⟩
  rw [hnone] at hle
  omega

theorem findGap_of_no_run (h : ¬ ∃ i j, Run gs i j) : findGap gs = (0, 0) :=
  (findGap_spec hlength).1.resolve_right fun hrun => h ⟨_, _, hrun⟩

end

variable (address : IPv6Address)

theorem length_groups : (groups address).length = 8 := rfl

/-- One more group of the address. -/
theorem push_group (n : Nat) :
    (address >>> (n + 16)) <<< 16 ||| ((address >>> n).setWidth 16).setWidth 128 = address >>> n := by
  apply eq_of_getLsbD_eq
  intro i hi
  by_cases hlow : i < 16
  · simp [hlow, hi]
  · have hshift : n + 16 + (i - 16) = n + i := by omega
    simp [hlow, hi, hshift]

theorem ofGroups_groups : ofGroups (groups address) = address := by
  have hstart : (0 : BitVec 128) = address >>> (112 + 16) := by
    apply eq_of_getLsbD_eq
    intro i _
    rw [getLsbD_ushiftRight, getLsbD_of_ge address _ (by omega)]
    exact getLsbD_zero
  have hlast := push_group address 0
  simp only [ofGroups, groups, foldl_cons, foldl_nil]
  rw [hstart, push_group address 112, push_group address 96, push_group address 80, push_group address 64,
    push_group address 48, push_group address 32, push_group address 16]
  exact hlast

/-- Zero groups in a row are what is put in for the gap. -/
theorem take_replicate_drop (hlength : gs.length = 8) (hstop : stop ≤ 8) (h : Run gs start stop) :
    gs.take start ++ List.replicate (stop - start) 0 ++ gs.drop stop = gs := by
  have hlong := h.1
  apply ext_getElem?
  intro k
  by_cases hstart : k < start
  · rw [List.append_assoc, List.getElem?_append_left (by simp; omega), List.getElem?_take_of_lt hstart]
  · by_cases hend : k < stop
    · rw [List.getElem?_append_left (by simp; omega), List.getElem?_append_right (by simp; omega),
        List.getElem?_replicate_of_lt (by simp; omega), h.2 k (by omega) hend]
    · rw [List.getElem?_append_right (by simp; omega), List.getElem?_drop]
      congr 1
      simp
      omega

theorem eq_zero_of_run (h : Run (groups address) 0 8) : address = 0 := by
  have hzero := take_replicate_drop (length_groups address) (Nat.le_refl 8) h
  rw [← ofGroups_groups address, ← hzero]
  change ofGroups (List.replicate 8 0) = 0
  decide

def printGroup (group : BitVec 16) : List Char := toDigits 16 group.toNat

theorem printGroups_eq (gs : List (BitVec 16)) : printGroups gs = join (gs.map printGroup) := rfl

theorem strtoul_printGroup (group : BitVec 16) : strtoul 16 (printGroup group) = (group.toNat, []) := by
  exact strtoul_toDigits (by decide) (by decide) (by rw [ULONG_MAX]; omega)

theorem isGroup_printGroup (group : BitVec 16) : IsGroup (printGroup group) := by
  have hread := strtoul_printGroup group
  exact ⟨toDigits_ne_nil, by rw [hread], by rw [hread]; simp only; omega⟩

theorem isGroup_printed (gs : List (BitVec 16)) : ∀ g ∈ gs.map printGroup, IsGroup g := by
  intro g hg
  obtain ⟨group, -, rfl⟩ := List.mem_map.mp hg
  exact isGroup_printGroup group

theorem groupValue_printed (gs : List (BitVec 16)) : (gs.map printGroup).map groupValue = gs := by
  have hid : groupValue ∘ printGroup = id := by
    funext group
    simp [groupValue, strtoul_printGroup]
  rw [List.map_map, hid, List.map_id]

variable {address}

section

variable (hne : address ≠ 0)
include hne

theorem str_of_run (h : LongestRun (groups address) start stop) : str address =
        printGroups ((groups address).take start) ++ ':' :: ':' :: printGroups ((groups address).drop stop) := by
  have hlong := h.1.1
  have hall : ¬ (start = 0 ∧ stop = 8) := by
    rintro ⟨rfl, rfl⟩
    exact hne (eq_zero_of_run address h.1)
  rw [str, if_neg hne, h.findGap_eq (length_groups address)]
  simp only
  rw [if_neg hall, if_pos (by omega), List.append_assoc]
  rfl

theorem str_of_no_run (h : ¬ ∃ i j, Run (groups address) i j) :
    str address = printGroups (groups address) := by
  rw [str, if_neg hne, findGap_of_no_run (length_groups address) h]
  simp [printGroups]

/-- A printed address is read back, whatever comes after it. -/
theorem doTryParse_str {rest : List Char} (hrest : Done rest) :
    doTryParse (str address ++ rest) = some (address, rest) := by
  by_cases hrun : ∃ i j, Run (groups address) i j
  · have hlongest := longestRun_findGap (length_groups address) hrun
    have hstop := (findGap_spec (length_groups address)).2.1
    generalize (findGap (groups address)).1 = start at hlongest
    generalize (findGap (groups address)).2 = stop at hlongest hstop
    have hlong := hlongest.1.1
    have hpre : ((groups address).take start).length = start := by simp [length_groups]; omega
    have hsuf : ((groups address).drop stop).length = 8 - stop := by simp [length_groups]
    have hread := doTryParse_gap (isGroup_printed ((groups address).take start))
      (isGroup_printed ((groups address).drop stop)) (by simp only [length_map, hpre, hsuf]; omega) hrest
    have hcount : 8 - start - (8 - stop) = stop - start := by omega
    rw [groupValue_printed, groupValue_printed, length_map, length_map, hpre, hsuf, hcount,
      take_replicate_drop (length_groups address) hstop hlongest.1, ofGroups_groups] at hread
    rw [str_of_run hne hlongest, printGroups_eq, printGroups_eq, List.append_assoc]
    exact hread
  · have hread := doTryParse_full (isGroup_printed (groups address)) (by rw [length_map]; rfl) hrest
    rw [groupValue_printed, ofGroups_groups] at hread
    rw [str_of_no_run hne hrun, printGroups_eq]
    exact hread

/-- A printed address has `::` in it if and only if there are zero groups in a row. -/
theorem gap_printed_iff : [':', ':'] <:+: str address ↔ ∃ i j, Run (groups address) i j := by
  constructor
  · rintro ⟨before, after, htext⟩
    apply Classical.byContradiction
    intro hrun
    have hgroups := isGroup_printed (groups address)
    have hne' : (groups address).map printGroup ≠ [] := by simp [groups]
    have hsplit := splitOn_join hne' fun g hg => colon_not_mem (hgroups g hg)
    rw [str_of_no_run hne hrun, printGroups_eq] at htext
    rw [← htext, List.append_assoc, List.cons_append, singleton_append, splitOn_append_cons_self] at hsplit
    have hmem : [] ∈ (groups address).map printGroup := by
      rw [← hsplit]
      have hempty : [] ∈ (':' :: after).splitOn ':' := by
        rw [← nil_append (':' :: after), splitOn_append_cons_self]
        simp
      exact mem_append_right _ hempty
    exact nil_not_mem hgroups hmem
  · intro hrun
    rw [str_of_run hne (longestRun_findGap (length_groups address) hrun)]
    exact ⟨_, _, by rw [List.append_assoc]; rfl⟩

end

theorem tryParse_str (address : IPv6Address) : tryParse (str address) = some address := by
  by_cases hne : address = 0
  · rw [hne]
    decide
  · have hread := doTryParse_str hne done_nil
    rw [append_nil] at hread
    rw [tryParse, hread]

theorem strtoul_prefixLen (hn : n ≤ 128) : strtoul 10 (toDigits 10 n) = (n, []) :=
  strtoul_toDigits (by decide) (by decide) (Nat.le_trans hn (by decide))

theorem toInt_prefixLen (hn : n ≤ 128) : (BitVec.ofNat 32 n).toInt = n := by
  have hnat : (BitVec.ofNat 32 n).toNat = n := by
    rw [toNat_ofNat, mod_eq_of_lt (by omega)]
  rw [toInt_eq_toNat_of_lt (by omega), hnat]

theorem tryParseAddrWithPrefix_str (hne : address ≠ 0) (hn : n ≤ 128) :
    tryParseAddrWithPrefix (str address ++ '/' :: toDigits 10 n) = some (address, (n : Int)) := by
  have hdone : Done ('/' :: toDigits 10 n) :=
    ⟨ends_cons (by decide), fun t h => absurd (List.cons.inj h).1 (by decide)⟩
  rw [tryParseAddrWithPrefix, doTryParse_str hne hdone]
  simp only [strtoul_prefixLen hn, toInt_prefixLen hn]
  rw [if_neg toDigits_ne_nil.symm, if_neg (by simp), if_neg (by omega)]

/-- The unspecified address is not recognised before a slash. -/
theorem tryParseAddrWithPrefix_unspec (s : List Char) : tryParseAddrWithPrefix (str 0 ++ '/' :: s) = none := by
  have hstr : str 0 = unspec := by decide
  have hne : unspec ++ '/' :: s ≠ unspec := by simp
  have hends : Ends (unspec ++ '/' :: s) := ends_cons (by decide)
  have hparse : doTryParse (unspec ++ '/' :: s) = none := by
    rw [doTryParse, if_neg hne, parseGroups_ends 7 true hends]
    rfl
  rw [tryParseAddrWithPrefix, hstr, hparse]

/-- A printed address is read back, `::` stands for the first longest run of zero groups, and the address is also
read back with a prefix length after it: all of this holds but for the unspecified address. -/
theorem printed_roundTrip_iff (address : IPv6Address) (n : Nat) (hn : n ≤ 128) :
    (tryParse (str address) = some address ∧
      (address ≠ 0 → ([':', ':'] <:+: str address ↔ ∃ i j, Run (groups address) i j) ∧
        ∀ start stop, LongestRun (groups address) start stop → str address =
          printGroups ((groups address).take start) ++ ':' :: ':' :: printGroups ((groups address).drop stop)) ∧
      tryParseAddrWithPrefix (str address ++ '/' :: toDigits 10 n) = some (address, (n : Int))) ↔
    address ≠ 0 := by
  constructor
  · rintro ⟨-, -, hafter⟩ rfl
    rw [tryParseAddrWithPrefix_unspec] at hafter
    exact absurd hafter (by simp)
  · intro hne
    exact ⟨tryParse_str address, fun _ => ⟨gap_printed_iff hne, fun _ _ h => str_of_run hne h⟩,
      tryParseAddrWithPrefix_str hne hn⟩

theorem linkLocal_roundTrip :
    64 ≤ 128 ∧ tryParseAddrWithPrefix (str (ofGroups [0xfe80, 0, 0, 0, 0, 0, 0, 1]) ++ "/64".toList) =
      some (ofGroups [0xfe80, 0, 0, 0, 0, 0, 0, 1], 64) :=
  ⟨by decide, ((printed_roundTrip_iff (ofGroups [0xfe80, 0, 0, 0, 0, 0, 0, 1]) 64 (by decide)).mpr (by decide)).2.2⟩

/-- `<unspec>/0` is no address with a prefix length. -/
theorem unspec_prefix_rejected :
    str 0 ++ '/' :: toDigits 10 0 = "<unspec>/0".toList ∧
      tryParseAddrWithPrefix (str 0 ++ '/' :: toDigits 10 0) ≠ some (0, 0) := by decide

end IPv6Address

end Inet.Ipv6
