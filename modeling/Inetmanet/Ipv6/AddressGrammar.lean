import Inetmanet.Ipv6.AddressText

/-!
# Which texts are IPv6 addresses

The groups of an address are read with `strtoul`, which also takes white space, a sign and
a radix prefix, and a `::` is not asked to stand for a group. These are the only texts that
are accepted without being addresses.
-/
namespace Inet.Ipv6

open Strtoul List

namespace IPv6Address

/-- Hexadecimal digits and nothing else, and the number has 16 bits. -/
def PlainGroup (g : List Char) : Prop := Plain 16 g ∧ value 16 g ≤ 0xffff

/-- `<unspec>`, eight groups, or fewer of them and a `::`. -/
def WellFormed (t : List Char) : Prop := t = unspec ∨ Form PlainGroup 7 t

/-- It starts with white space, with a sign or with a radix prefix. -/
def Decorated : List Char → Prop
  | [] => False
  | c :: s => isSpace c = true ∨ c = '-' ∨ c = '+' ∨ c = '0' ∧ (s.head? = some 'x' ∨ s.head? = some 'X')

/-- Groups of which one is decorated, or eight of them and still a `::`. -/
def Slips (t : List Char) : Prop :=
  (∃ gs, gs.length = 8 ∧ (∀ g ∈ gs, IsGroup g) ∧ (∃ g ∈ gs, Decorated g) ∧ t = join gs) ∨
    ∃ pre suf, pre.length + suf.length ≤ 8 ∧ (∀ g ∈ pre ++ suf, IsGroup g) ∧
      (pre.length + suf.length = 8 ∨ ∃ g ∈ pre ++ suf, Decorated g) ∧ t = join pre ++ ':' :: ':' :: join suf

variable {g t : List Char} {gs gs' pre suf : List (List Char)}

theorem PlainGroup.isGroup (h : PlainGroup g) : IsGroup g := by
  obtain ⟨hplain, hle⟩ := h
  have hsmall : value 16 g ≤ ULONG_MAX := Nat.le_trans hle (by decide)
  have hread := strtoul_plain (by decide) hplain
  rw [result_of_le hsmall] at hread
  exact ⟨hplain.1, by rw [hread], by rw [hread]; exact hle⟩

theorem not_decorated_of_plain (h : Plain 16 g) : ¬ Decorated g := by
  obtain ⟨hne, hdigits⟩ := h
  obtain ⟨c, s, rfl⟩ := exists_cons_of_ne_nil hne
  have hc : digitVal c < 16 := of_decide_eq_true (hdigits c mem_cons_self)
  have hx : ∀ x, s.head? = some x → isDigit 16 x = true := fun x hhead =>
    hdigits x (mem_cons_of_mem c (mem_of_mem_head? hhead))
  rintro (hspace | rfl | rfl | ⟨-, hhead | hhead⟩)
  · rw [not_space_of_digit (by omega)] at hspace
    exact absurd hspace (by simp)
  · exact absurd hc (by decide)
  · exact absurd hc (by decide)
  · exact absurd (hx 'x' hhead) (by decide)
  · exact absurd (hx 'X' hhead) (by decide)

theorem number_of_not_decorated (h : ¬ Decorated g) :
    number 16 g = g ∧ (sign (g.dropWhile isSpace)).1 = false := by
  cases g with
  | nil => exact ⟨rfl, rfl⟩
  | cons c s =>
    simp only [Decorated, not_or, Bool.not_eq_true] at h
    obtain ⟨hspace, hminus, hplus, hradix⟩ := h
    have hdrop : (c :: s).dropWhile isSpace = c :: s := by
      rw [dropWhile_cons, hspace]
      rfl
    have hsign : sign (c :: s) = (false, c :: s) := by simp [sign, hminus, hplus]
    have hskip : skipRadix 16 (c :: s) = c :: s := by
      rcases s with _ | ⟨x, _ | ⟨d, s⟩⟩
      · rfl
      · rfl
      · have hx : ¬ (c = '0' ∧ (x = 'x' ∨ x = 'X')) := by simpa using hradix
        rw [skipRadix, if_neg fun hall => hx ⟨hall.2.1, hall.2.2.1⟩]
    rw [number, hdrop, hsign]
    exact ⟨hskip, rfl⟩

theorem plainGroup_of_not_decorated (hgroup : IsGroup g) (h : ¬ Decorated g) : PlainGroup g := by
  obtain ⟨hne, hend, hle⟩ := hgroup
  obtain ⟨hnumber, -⟩ := number_of_not_decorated h
  have hplain : Plain 16 g := by
    rw [strtoul, hnumber] at hend
    split at hend
    · exact absurd hend hne
    · exact ⟨hne, dropWhile_eq_nil_iff.mp hend⟩
  rw [strtoul_plain (by decide) hplain, result] at hle
  split at hle
  · exact absurd hle (by decide)
  · exact ⟨hplain, by simpa using hle⟩

/-- What stands between the colons. -/
def pieces (gs : List (List Char)) : List (List Char) := if gs = [] then [[]] else gs

theorem pieces_ne_nil (gs : List (List Char)) : pieces gs ≠ [] := by
  unfold pieces
  split
  · simp
  · assumption

theorem join_pieces (gs : List (List Char)) : join (pieces gs) = join gs := by
  unfold pieces
  split
  · rename_i h
    rw [h]
    simp
  · rfl

theorem join_append (hgs : gs ≠ []) (hgs' : gs' ≠ []) :
    join (gs ++ gs') = join gs ++ ':' :: join gs' := by
  induction gs with
  | nil => exact absurd rfl hgs
  | cons g gs ih =>
    cases gs with
    | nil =>
      obtain ⟨g', gs', rfl⟩ := exists_cons_of_ne_nil hgs'
      simp [join_cons_cons]
    | cons g'' gs => simpa [join_cons_cons] using ih (by simp)

theorem splitOn_join (hne : gs ≠ []) (hcolon : ∀ g ∈ gs, ':' ∉ g) : (join gs).splitOn ':' = gs :=
  splitOn_intercalate ':' hcolon hne

theorem colon_not_mem_pieces (hgroups : ∀ g ∈ gs, IsGroup g) : ∀ g ∈ pieces gs, ':' ∉ g := by
  intro g hg
  unfold pieces at hg
  split at hg
  · rw [mem_singleton.mp hg]
    simp
  · exact colon_not_mem (hgroups g hg)

theorem splitOn_gap (hgroups : ∀ g ∈ pre ++ suf, IsGroup g) :
    (join pre ++ ':' :: ':' :: join suf).splitOn ':' = pieces pre ++ [] :: pieces suf := by
  have hpre := colon_not_mem_pieces fun g hg => hgroups g (mem_append_left suf hg)
  have hsuf := colon_not_mem_pieces fun g hg => hgroups g (mem_append_right pre hg)
  have hjoin : join pre ++ ':' :: ':' :: join suf = join (pieces pre ++ [] :: pieces suf) := by
    rw [join_append (pieces_ne_nil pre) (by simp), join_pieces]
    obtain ⟨g, gs, hcons⟩ := exists_cons_of_ne_nil (pieces_ne_nil suf)
    rw [hcons, join_cons_cons, ← hcons, join_pieces]
    rfl
  rw [hjoin, splitOn_join (by simp)]
  intro g hg
  rcases mem_append.mp hg with hg | hg
  · exact hpre g hg
  · rcases mem_cons.mp hg with rfl | hg
    · simp
    · exact hsuf g hg

theorem nil_not_mem (hgroups : ∀ g ∈ gs, IsGroup g) : [] ∉ gs := fun h => (hgroups [] h).1 rfl

theorem full_unique (hgs : ∀ g ∈ gs, IsGroup g) (hgs' : ∀ g ∈ gs', IsGroup g)
    (hne : gs ≠ []) (hne' : gs' ≠ []) (h : join gs = join gs') : gs = gs' := by
  rw [← splitOn_join hne fun g hg => colon_not_mem (hgs g hg), h,
    splitOn_join hne' fun g hg => colon_not_mem (hgs' g hg)]

theorem full_ne_gap (hgs : ∀ g ∈ gs, IsGroup g) (hne : gs ≠ [])
    (hgroups : ∀ g ∈ pre ++ suf, IsGroup g) : join gs ≠ join pre ++ ':' :: ':' :: join suf := by
  intro h
  have hsplit := splitOn_gap hgroups
  rw [← h, splitOn_join hne fun g hg => colon_not_mem (hgs g hg)] at hsplit
  exact nil_not_mem hgs (by rw [hsplit]; simp)

theorem pieces_inj (hgs : [] ∉ gs) (hgs' : [] ∉ gs') (h : pieces gs = pieces gs') : gs = gs' := by
  unfold pieces at h
  split at h
  · rename_i hnil
    split at h
    · rename_i hnil'
      rw [hnil, hnil']
    · exact absurd (by rw [← h]; simp) hgs'
  · split at h
    · exact absurd (by rw [h]; simp) hgs
    · exact h

theorem append_cons_cancel {x : List Char} {xs xs' ys ys' : List (List Char)} (hxs : x ∉ xs) (hxs' : x ∉ xs')
    (h : xs ++ x :: ys = xs' ++ x :: ys') : xs = xs' ∧ ys = ys' := by
  induction xs generalizing xs' with
  | nil =>
    cases xs' with
    | nil => exact ⟨rfl, (List.cons.inj h).2⟩
    | cons y xs' => exact absurd (by rw [(List.cons.inj h).1]; simp) hxs'
  | cons y xs ih =>
    cases xs' with
    | nil => exact absurd (by rw [(List.cons.inj h).1]; simp) hxs
    | cons y' xs' =>
      obtain ⟨rfl, htail⟩ := List.cons.inj h
      obtain ⟨rfl, hys⟩ := ih (fun hx => hxs (mem_cons_of_mem y hx))
        (fun hx => hxs' (mem_cons_of_mem y hx)) htail
      exact ⟨rfl, hys⟩

theorem gap_unique {pre' suf' : List (List Char)} (hgroups : ∀ g ∈ pre ++ suf, IsGroup g)
    (hgroups' : ∀ g ∈ pre' ++ suf', IsGroup g)
    (h : join pre ++ ':' :: ':' :: join suf = join pre' ++ ':' :: ':' :: join suf') : pre = pre' ∧ suf = suf' := by
  have hmem := nil_not_mem hgroups
  have hmem' := nil_not_mem hgroups'
  rw [mem_append, not_or] at hmem hmem'
  have hsplit := splitOn_gap hgroups
  rw [h, splitOn_gap hgroups'] at hsplit
  cases pre with
  | nil =>
    cases pre' with
    | nil =>
      have hsuf : pieces suf' = pieces suf := by simpa [pieces] using hsplit
      exact ⟨rfl, pieces_inj hmem.2 hmem'.2 hsuf.symm⟩
    | cons g gs =>
      have hg : g = [] := by simpa [pieces] using (List.cons.inj hsplit).1
      exact absurd (by rw [hg]; simp) hmem'.1
  | cons g gs =>
    cases pre' with
    | nil =>
      have hg : [] = g := by simpa [pieces] using (List.cons.inj hsplit).1
      exact absurd (by rw [← hg]; simp) hmem.1
    | cons g' gs' =>
      obtain ⟨hpre, hsuf⟩ := append_cons_cancel hmem'.1 hmem.1 hsplit
      exact ⟨hpre.symm, pieces_inj hmem.2 hmem'.2 hsuf.symm⟩

theorem Slips.form (h : Slips t) : Form IsGroup 8 t := by
  rcases h with ⟨gs, hlength, hgroups, -, ht⟩ | ⟨pre, suf, hlength, hgroups, -, ht⟩
  · exact .inl ⟨gs, hlength, hgroups, ht⟩
  · exact .inr ⟨pre, suf, hlength, hgroups, ht⟩

theorem colon_mem_form (h : Form IsGroup 8 t) : ':' ∈ t := by
  rcases h with ⟨gs, hlength, -, rfl⟩ | ⟨pre, suf, -, -, rfl⟩
  · exact colon_mem_join (by omega)
  · simp

/-- A text that slips through is not well formed. -/
theorem Slips.not_wellFormed (h : Slips t) : ¬ WellFormed t := by
  have hplain {gs : List (List Char)} (hgs : ∀ g ∈ gs, PlainGroup g) : ∀ g ∈ gs, IsGroup g :=
    fun g hg => (hgs g hg).isGroup
  rintro (hunspec | ⟨gs, hlength, hgroups, ht⟩ | ⟨pre, suf, hlength, hgroups, ht⟩)
  · exact unspec_ne (colon_mem_form h.form) hunspec
  · have hne : gs ≠ [] := ne_nil_of_length_pos (by omega)
    rcases h with ⟨gs', hlength', hgroups', ⟨g, hg, hdecorated⟩, rfl⟩ | ⟨pre, suf, -, hgroups', -, rfl⟩
    · have hne' : gs' ≠ [] := ne_nil_of_length_pos (by omega)
      have heq := full_unique hgroups' (hplain hgroups) hne' hne ht
      exact not_decorated_of_plain (hgroups g (by rw [← heq]; exact hg)).1 hdecorated
    · exact full_ne_gap (hplain hgroups) hne hgroups' ht.symm
  · rcases h with ⟨gs, hlength', hgroups', -, rfl⟩ | ⟨pre', suf', -, hgroups', hslip, rfl⟩
    · exact full_ne_gap hgroups' (ne_nil_of_length_pos (by omega)) (hplain hgroups) ht
    · obtain ⟨rfl, rfl⟩ := gap_unique hgroups' (hplain hgroups) ht
      rcases hslip with hcount | ⟨g, hg, hdecorated⟩
      · omega
      · exact not_decorated_of_plain (hgroups g hg).1 hdecorated

theorem wellFormed_of_form (h : Form IsGroup 8 t) (hslips : ¬ Slips t) : WellFormed t := by
  rcases h with ⟨gs, hlength, hgroups, ht⟩ | ⟨pre, suf, hlength, hgroups, ht⟩
  · refine .inr (.inl ⟨gs, hlength, fun g hg => plainGroup_of_not_decorated (hgroups g hg) fun hdecorated => ?_, ht⟩)
    exact hslips (.inl ⟨gs, hlength, hgroups, ⟨g, hg, hdecorated⟩, ht⟩)
  · have hcount : pre.length + suf.length ≠ 8 := fun hcount =>
      hslips (.inr ⟨pre, suf, hlength, hgroups, .inl hcount, ht⟩)
    refine .inr (.inr ⟨pre, suf, by omega,
      fun g hg => plainGroup_of_not_decorated (hgroups g hg) fun hdecorated => ?_, ht⟩)
    exact hslips (.inr ⟨pre, suf, hlength, hgroups, .inr ⟨g, hg, hdecorated⟩, ht⟩)

/-- An accepted text is well formed, unless one of its groups is decorated or its `::` stands for nothing. -/
theorem accepted_wellFormed_iff (t : List Char) : ((tryParse t).isSome = true → WellFormed t) ↔ ¬ Slips t := by
  constructor
  · intro h hslips
    exact hslips.not_wellFormed (h (tryParse_of_form hslips.form))
  · intro hslips haccepted
    rcases (tryParse_iff t).mp haccepted with hunspec | hform
    · exact .inl hunspec
    · exact wellFormed_of_form hform hslips

/-- `::` stands for no group, and `+1` is a group. -/
theorem slips_accepted :
    ((tryParse "1:2:3:4::5:6:7:8".toList).isSome = true ∧ ¬ WellFormed "1:2:3:4::5:6:7:8".toList) ∧
      (tryParse "::+1".toList).isSome = true ∧ ¬ WellFormed "::+1".toList := by
  have hgap : Slips "1:2:3:4::5:6:7:8".toList :=
    .inr ⟨[['1'], ['2'], ['3'], ['4']], [['5'], ['6'], ['7'], ['8']], by decide, by decide, .inl rfl, by decide⟩
  have hsign : Slips "::+1".toList :=
    .inr ⟨[], [['+', '1']], by decide, by decide, .inr ⟨['+', '1'], by decide, .inr (.inr (.inl rfl))⟩, by decide⟩
  exact ⟨⟨by decide, hgap.not_wellFormed⟩, by decide, hsign.not_wellFormed⟩

end IPv6Address

end Inet.Ipv6
