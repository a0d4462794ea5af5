import Inetmanet.Lib.Strtoul
import Inetmanet.Ipv6.IPv6Datagram

/-!
# The text of an IPv6 address

`IPv6Address::tryParse`, `IPv6Address::tryParseAddrWithPrefix` and `IPv6Address::str`.
A text is a C string, given by the characters before its terminating zero.
-/
namespace Inet.Ipv6

open Strtoul List

namespace IPv6Address

/-- At most `left` colon-separated groups, and what follows the last digit converted. `first` says that no
group has been read yet, which is when there is no colon to go back to. -/
def parseGroups : Nat → Bool → List Char → List (BitVec 16) × List Char
  | 0, _, s => ([], s)
  | left + 1, first, s =>
    let (grp, e) := strtoul 16 s
    if e = s then ([], if first then s else ':' :: s)  -- no hex digit converted
    else if 0xffff < grp then ([], s)  -- negative or too big
    else
      match e with
      | [] => ([BitVec.ofNat 16 grp], [])
      | c :: rest =>
        if c ≠ ':' ∨ left = 0 then ([BitVec.ofNat 16 grp], c :: rest)
        else
          let (groups, s) := parseGroups left false rest
          (BitVec.ofNat 16 grp :: groups, s)

/-- `d[i]` is made of `groups[2*i]` and `groups[2*i + 1]`. -/
def ofGroups (groups : List (BitVec 16)) : IPv6Address :=
  groups.foldl (fun address group => address <<< 16 ||| group.setWidth 128) 0

def unspec : List Char := "<unspec>".toList

/-- The address, and where `addr` points to afterwards. -/
def doTryParse (addr : List Char) : Option (IPv6Address × List Char) :=
  if addr = unspec then some (0, [])
  else
    let (groups, s) := parseGroups 8 true addr
    match s with
    | ':' :: ':' :: s =>
      let (suffixGroups, s) := parseGroups 8 true s
      if 8 < groups.length + suffixGroups.length then none  -- too many
      else
        some (ofGroups (groups ++ List.replicate (8 - groups.length - suffixGroups.length) 0 ++ suffixGroups), s)
    | s => if groups.length ≠ 8 then none else some (ofGroups groups, s)

def tryParse (addr : List Char) : Option IPv6Address :=
  match doTryParse addr with
  | some (address, []) => some address
  | _ => none

/-- The number of the prefix is read into an `int`. -/
def tryParseAddrWithPrefix (addr : List Char) : Option (IPv6Address × Int) :=
  match doTryParse addr with
  | some (address, '/' :: s) =>
    let (number, e) := strtoul 10 s
    let prefixLen := (BitVec.ofNat 32 number).toInt
    if e = s then none  -- no number after '/'
    else if e ≠ [] then none  -- garbage after number
    else if prefixLen < 0 ∨ 128 < prefixLen then none  -- wrong len value
    else some (address, prefixLen)
  | _ => none

/-- The loop of `findGap` from group `i` on; `beg` is where the zeroes have begun. -/
def findGapLoop : Nat → Option Nat → Nat × Nat → List (BitVec 16) → Option Nat × (Nat × Nat)
  | _, beg, gap, [] => (beg, gap)
  | i, none, gap, group :: groups => findGapLoop (i + 1) (if group = 0 then some i else none) gap groups
  | i, some beg, gap, group :: groups =>
    if group ≠ 0 then
      findGapLoop (i + 1) none (if 2 ≤ i - beg ∧ gap.2 - gap.1 < i - beg then (beg, i) else gap) groups
    else findGapLoop (i + 1) (some beg) gap groups

/-- The longest sequence of zeroes in the address (at least with len=2). -/
def findGap (groups : List (BitVec 16)) : Nat × Nat :=
  match findGapLoop 0 none (0, 0) groups with
  | (some beg, gap) => if beg ≤ 6 ∧ gap.2 - gap.1 < 8 - beg then (beg, 8) else gap
  | (none, gap) => gap

/-- The 16-bit groups of the address. -/
def groups (address : IPv6Address) : List (BitVec 16) :=
  [(address >>> 112).setWidth 16, (address >>> 96).setWidth 16, (address >>> 80).setWidth 16,
    (address >>> 64).setWidth 16, (address >>> 48).setWidth 16, (address >>> 32).setWidth 16,
    (address >>> 16).setWidth 16, address.setWidth 16]

/-- Groups in hexadecimal, with colons in between. -/
def printGroups (groups : List (BitVec 16)) : List Char :=
  [':'].intercalate (groups.map fun group => Nat.toDigits 16 group.toNat)

def str (address : IPv6Address) : List Char :=
  if address = 0 then unspec
  else
    let (start, stop) := findGap (groups address)
    if start = 0 ∧ stop = 8 then "::0".toList
    else
      printGroups ((groups address).take start) ++ (if start ≠ stop then "::".toList else []) ++
        printGroups ((groups address).drop stop)

example : str (ofGroups [0xaaaa, 0, 0, 0xbbbb, 0, 0, 1, 0]) = "aaaa::bbbb:0:0:1:0".toList := by decide
example : tryParse "aaaa:bbbb::1:ffff".toList = some (ofGroups [0xaaaa, 0xbbbb, 0, 0, 0, 0, 1, 0xffff]) := by decide

/-- `strtoul` reads the text to its end, and the number is neither negative nor too big. -/
def IsGroup (g : List Char) : Prop := g ≠ [] ∧ (strtoul 16 g).2 = [] ∧ (strtoul 16 g).1 ≤ 0xffff
deriving Decidable

def groupValue (g : List Char) : BitVec 16 := BitVec.ofNat 16 (strtoul 16 g).1

/-- The groups with colons in between. -/
def join (gs : List (List Char)) : List Char := [':'].intercalate gs

theorem join_cons_cons (g g' : List Char) (gs : List (List Char)) :
    join (g :: g' :: gs) = g ++ ':' :: join (g' :: gs) := by
  simp [join, intercalate_cons_cons]

@[simp] theorem join_singleton (g : List Char) : join [g] = g := by simp [join]

@[simp] theorem join_nil : join [] = [] := rfl

theorem stops_colon : Stops ':' := by decide

variable {g rest s t : List Char} {gs : List (List Char)}

theorem colon_not_mem (h : IsGroup g) : ':' ∉ g := by
  intro hmem
  obtain ⟨s, t, rfl⟩ := append_of_mem hmem
  have happend : strtoul 16 (s ++ ':' :: t) = _ := strtoul_append (by decide) s (ends_cons stops_colon)
  have hend := h.2.1
  rw [happend] at hend
  exact absurd hend (by simp)

theorem strtoul_group (hrest : Ends rest) :
    strtoul 16 (g ++ rest) = ((strtoul 16 g).1, (strtoul 16 g).2 ++ rest) :=
  strtoul_append (by decide) g hrest

/-- What the parser does after a group. -/
def parseMore (left : Nat) (group : BitVec 16) : List Char → List (BitVec 16) × List Char
  | [] => ([group], [])
  | c :: t =>
    if c ≠ ':' ∨ left = 0 then ([group], c :: t)
    else (group :: (parseGroups left false t).1, (parseGroups left false t).2)

theorem parseGroups_group (left : Nat) (first : Bool) (hg : IsGroup g) (hrest : Ends rest) :
    parseGroups (left + 1) first (g ++ rest) = parseMore left (groupValue g) rest := by
  have hne : rest ≠ g ++ rest := fun he => hg.1 (append_left_eq_self.mp he.symm)
  rw [parseGroups, strtoul_group hrest, hg.2.1, nil_append]
  simp only [if_neg hne, if_neg (Nat.not_lt.mpr hg.2.2)]
  cases rest with
  | nil => rfl
  | cons c t => rfl

theorem parseGroups_ends (left : Nat) (first : Bool) (hs : Ends s) :
    parseGroups (left + 1) first s = ([], if first then s else ':' :: s) := by
  rw [parseGroups, strtoul_ends (by decide) hs]
  simp

/-- Groups are read as far as they go. -/
theorem parseGroups_join {left : Nat} {first : Bool}
    (hgroups : ∀ g' ∈ g :: gs, IsGroup g') (hleft : gs.length ≤ left) (hrest : Ends rest)
    (hcolon : ∀ t, rest = ':' :: t → Ends t) :
    parseGroups (left + 1) first (join (g :: gs) ++ rest) = ((g :: gs).map groupValue, rest) := by
  induction gs generalizing g left first with
  | nil =>
    rw [join_singleton, parseGroups_group left first (hgroups g mem_cons_self) hrest]
    cases rest with
    | nil => rfl
    | cons c rest =>
      by_cases hmore : c ≠ ':' ∨ left = 0
      · exact if_pos hmore
      · have hc : c = ':' := Classical.not_not.mp fun h => hmore (.inl h)
        obtain ⟨n, rfl⟩ : ∃ n, left = n + 1 := ⟨left - 1, by omega⟩
        subst hc
        rw [parseMore, if_neg hmore, parseGroups_ends n false (hcolon rest rfl)]
        rfl
  | cons g' gs ih =>
    obtain ⟨n, rfl⟩ : ∃ n, left = n + 1 := ⟨left - 1, by simp at hleft; omega⟩
    have hmore : ¬ (':' ≠ ':' ∨ n + 1 = 0) := by simp
    have hnext : parseGroups (n + 1) false (join (g' :: gs) ++ rest) = ((g' :: gs).map groupValue, rest) :=
      ih (fun x hx => hgroups x (mem_cons_of_mem g hx)) (by simpa using hleft)
    rw [join_cons_cons, append_assoc, cons_append,
      parseGroups_group (n + 1) first (hgroups g mem_cons_self) (ends_cons stops_colon)]
    rw [parseMore, if_neg hmore, hnext]
    rfl

/-- A text that the parser does not get past. -/
def Stuck (s : List Char) : Prop := ∃ c t, s = c :: t ∧ c ≠ ':'

/-- How the parser starts: with a group that goes on to the next colon, or not at all, or it gets stuck. -/
theorem parseGroups_start (left : Nat) (first : Bool) (s : List Char) :
    Stuck (parseGroups (left + 1) first s).2 ∨
      parseGroups (left + 1) first s = ([], if first then s else ':' :: s) ∨
      ∃ g rest, IsGroup g ∧ s = g ++ rest ∧ (rest = [] ∨ ∃ t, rest = ':' :: t) := by
  have hs : s.takeWhile (· != ':') ++ s.dropWhile (· != ':') = s := takeWhile_append_dropWhile
  have hcolon : ∀ c ∈ s.takeWhile (· != ':'), c ≠ ':' := by
    simpa using all_eq_true.mp (all_takeWhile (p := (· != ':')) (l := s))
  have hrest : s.dropWhile (· != ':') = [] ∨ ∃ t, s.dropWhile (· != ':') = ':' :: t := by
    cases hd : s.dropWhile (· != ':') with
    | nil => exact .inl rfl
    | cons c t =>
      have hhead := head?_dropWhile_not (· != ':') s
      rw [hd] at hhead
      exact .inr ⟨t, by simpa using hhead⟩
  generalize s.takeWhile (· != ':') = g at hs hcolon
  generalize s.dropWhile (· != ':') = rest at hs hrest
  have hends : Ends rest := by
    rcases hrest with rfl | ⟨t, rfl⟩
    · exact ends_nil
    · exact ends_cons stops_colon
  subst hs
  by_cases hgroup : IsGroup g
  · exact .inr (.inr ⟨g, rest, hgroup, rfl, hrest⟩)
  · have hsuffix := strtoul_suffix 16 g
    rw [parseGroups, strtoul_group hends]
    by_cases hsame : (strtoul 16 g).2 ++ rest = g ++ rest
    · exact .inr (.inl (by simp only [if_pos hsame]))
    · left
      simp only [if_neg hsame]
      have hne : g ≠ [] := by
        rintro rfl
        exact hsame (by rw [suffix_nil.mp hsuffix])
      by_cases hbig : 0xffff < (strtoul 16 g).1
      · obtain ⟨c, t, rfl⟩ := exists_cons_of_ne_nil hne
        simp only [if_pos hbig]
        exact ⟨c, t ++ rest, rfl, hcolon c mem_cons_self⟩
      · simp only [if_neg hbig]
        cases hend : (strtoul 16 g).2 with
        | nil => exact absurd ⟨hne, hend, Nat.not_lt.mp hbig⟩ hgroup
        | cons c t =>
          have hc : c ≠ ':' := hcolon c (hsuffix.subset (by rw [hend]; exact mem_cons_self))
          simp only [cons_append, if_pos (Or.inl hc : c ≠ ':' ∨ left = 0)]
          exact ⟨c, t ++ rest, rfl, hc⟩

/-- What has been read of a text are groups, or the parser is stuck. -/
def Reads (left : Nat) (first : Bool) (s : List Char) (result : List (BitVec 16) × List Char) : Prop :=
  Stuck result.2 ∨ ∃ gs, (∀ g ∈ gs, IsGroup g) ∧ gs.length ≤ left + 1 ∧ result.1 = gs.map groupValue ∧
    (gs ≠ [] ∧ s = join gs ++ result.2 ∨ gs = [] ∧ result.2 = if first then s else ':' :: s)

/-- The parser reads groups if it does so after a first group and its colon. -/
theorem reads_of_more {left : Nat} {first : Bool} (s : List Char)
    (hmore : ∀ g t, IsGroup g → Reads left first (g ++ ':' :: t) (parseMore left (groupValue g) (':' :: t))) :
    Reads left first s (parseGroups (left + 1) first s) := by
  rcases parseGroups_start left first s with hstuck | hnone | ⟨g, rest, hg, rfl, hrest⟩
  · exact .inl hstuck
  · exact .inr ⟨[], by simp, by simp, by rw [hnone]; rfl, .inr ⟨rfl, by rw [hnone]⟩⟩
  · rcases hrest with rfl | ⟨t, rfl⟩
    · rw [parseGroups_group left first hg ends_nil]
      exact .inr ⟨[g], by simpa using hg, by simp, rfl, .inl ⟨by simp, by simp [parseMore]⟩⟩
    · rw [parseGroups_group left first hg (ends_cons stops_colon)]
      exact hmore g t hg

theorem parseGroups_reads (left : Nat) (first : Bool) (s : List Char) :
    Reads left first s (parseGroups (left + 1) first s) := by
  induction left generalizing first s with
  | zero =>
    apply reads_of_more
    intro g t hg
    exact .inr ⟨[g], by simpa using hg, by simp, by simp [parseMore], .inl ⟨by simp, by simp [parseMore]⟩⟩
  | succ left ih =>
    apply reads_of_more
    intro g t hg
    have hmore : parseMore (left + 1) (groupValue g) (':' :: t) =
        (groupValue g :: (parseGroups (left + 1) false t).1, (parseGroups (left + 1) false t).2) := by
      simp [parseMore]
    rw [hmore]
    rcases ih false t with hstuck | ⟨gs, hgs, hlength, hvalues, hrest⟩
    · exact .inl hstuck
    · have hall : ∀ g' ∈ g :: gs, IsGroup g' := by simpa using ⟨hg, hgs⟩
      refine .inr ⟨g :: gs, hall, Nat.succ_le_succ hlength, by simp [hvalues], .inl ⟨by simp, ?_⟩⟩
      rcases hrest with ⟨hne, ht⟩ | ⟨rfl, hback⟩
      · obtain ⟨g', gs', rfl⟩ := exists_cons_of_ne_nil hne
        rw [join_cons_cons, append_assoc, cons_append, ← ht]
      · simp [hback]

/-- What may follow an address. -/
def Done (rest : List Char) : Prop := Ends rest ∧ ∀ t, rest ≠ ':' :: t

theorem done_nil : Done [] := ⟨ends_nil, by simp⟩

theorem parseGroups_groups (hgroups : ∀ g ∈ gs, IsGroup g)
    (hlength : gs.length ≤ 8) (hrest : Ends rest) (hcolon : ∀ t, rest = ':' :: t → Ends t) :
    parseGroups 8 true (join gs ++ rest) = (gs.map groupValue, rest) := by
  cases gs with
  | nil => exact parseGroups_ends 7 true hrest
  | cons g gs => exact parseGroups_join hgroups (Nat.le_of_succ_le_succ hlength) hrest hcolon

/-- What is read of any text. -/
theorem parseGroups_text (s : List Char) :
    Stuck (parseGroups 8 true s).2 ∨ ∃ gs, (∀ g ∈ gs, IsGroup g) ∧ gs.length ≤ 8 ∧
      (parseGroups 8 true s).1 = gs.map groupValue ∧ s = join gs ++ (parseGroups 8 true s).2 := by
  rcases parseGroups_reads 7 true s with hstuck | ⟨gs, hgroups, hlength, hvalues, ⟨-, hs⟩ | ⟨rfl, hs⟩⟩
  · exact .inl hstuck
  · exact .inr ⟨gs, hgroups, hlength, hvalues, hs⟩
  · exact .inr ⟨[], hgroups, hlength, hvalues, hs.symm⟩

theorem unspec_ne (h : ':' ∈ s) : s ≠ unspec := by
  rintro rfl
  exact absurd h (by decide)

theorem colon_mem_join (h : 1 < gs.length) : ':' ∈ join gs := by
  match gs with
  | g :: g' :: gs => simp [join_cons_cons]

/-- Eight groups. -/
theorem doTryParse_full (hgroups : ∀ g ∈ gs, IsGroup g)
    (hlength : gs.length = 8) (hrest : Done rest) :
    doTryParse (join gs ++ rest) = some (ofGroups (gs.map groupValue), rest) := by
  have hne : join gs ++ rest ≠ unspec := unspec_ne (mem_append_left _ (colon_mem_join (by omega)))
  have hread := parseGroups_groups hgroups (by omega) hrest.1 fun t ht => absurd ht (hrest.2 t)
  rw [doTryParse, if_neg hne, hread]
  simp only
  split
  · exact absurd rfl (hrest.2 _)
  · simp [hlength]

/-- Groups with zeroes in between. -/
theorem doTryParse_gap {pre suf : List (List Char)} (hpre : ∀ g ∈ pre, IsGroup g)
    (hsuf : ∀ g ∈ suf, IsGroup g) (hlength : pre.length + suf.length ≤ 8) (hrest : Done rest) :
    doTryParse (join pre ++ ':' :: ':' :: (join suf ++ rest)) =
      some (ofGroups (pre.map groupValue ++ replicate (8 - pre.length - suf.length) 0 ++ suf.map groupValue),
        rest) := by
  have hne : join pre ++ ':' :: ':' :: (join suf ++ rest) ≠ unspec := unspec_ne (by simp)
  have hcolon : ∀ t, ':' :: ':' :: (join suf ++ rest) = ':' :: t → Ends t := by
    intro t ht
    rw [← (cons.inj ht).2]
    exact ends_cons stops_colon
  have hread := parseGroups_groups hpre (by omega) (ends_cons stops_colon) hcolon
  have hread' := parseGroups_groups hsuf (by omega) hrest.1 fun t ht => absurd ht (hrest.2 t)
  rw [doTryParse, if_neg hne, hread]
  simp only [hread', length_map]
  rw [if_neg (by omega)]

/-- Eight of these groups, or at most `most` of them and a `::`. -/
def Form (isGroup : List Char → Prop) (most : Nat) (t : List Char) : Prop :=
  (∃ gs, gs.length = 8 ∧ (∀ g ∈ gs, isGroup g) ∧ t = join gs) ∨
    ∃ pre suf, pre.length + suf.length ≤ most ∧ (∀ g ∈ pre ++ suf, isGroup g) ∧ t = join pre ++ ':' :: ':' :: join suf

theorem tryParse_of_form (h : Form IsGroup 8 t) : (tryParse t).isSome = true := by
  rcases h with ⟨gs, hlength, hgroups, rfl⟩ | ⟨pre, suf, hlength, hgroups, rfl⟩
  · have hparse := doTryParse_full hgroups hlength done_nil
    rw [append_nil] at hparse
    rw [tryParse, hparse]
    rfl
  · have hparse := doTryParse_gap (fun g hg => hgroups g (mem_append_left _ hg))
      (fun g hg => hgroups g (mem_append_right _ hg)) hlength done_nil
    rw [append_nil] at hparse
    rw [tryParse, hparse]
    rfl

theorem form_of_doTryParse {address : IPv6Address} (hne : t ≠ unspec)
    (h : doTryParse t = some (address, [])) : Form IsGroup 8 t := by
  rw [doTryParse, if_neg hne] at h
  simp only at h
  rcases parseGroups_text t with ⟨c, s, hs, hc⟩ | ⟨pre, hpre, hlength, hvalues, ht⟩
  · -- the text that is left does not go away
    rw [hs] at h
    split at h
    · rename_i hcolon
      exact absurd (cons.inj hcolon).1 hc
    · split at h
      · exact absurd h (by simp)
      · exact absurd h (by simp)
  · split at h
    · rename_i s hs
      split at h
      · exact absurd h (by simp)
      · rename_i hcount
        have hleft : (parseGroups 8 true s).2 = [] := (Prod.mk.inj (Option.some.inj h)).2
        rcases parseGroups_text s with ⟨c, s', hs', -⟩ | ⟨suf, hsuf, -, hvalues', hs'⟩
        · rw [hleft] at hs'
          exact absurd hs' (by simp)
        · rw [hvalues, hvalues', length_map, length_map] at hcount
          rw [hleft, append_nil] at hs'
          rw [hs, hs'] at ht
          exact .inr ⟨pre, suf, by omega, fun g hg => (mem_append.mp hg).elim (hpre g) (hsuf g), ht⟩
    · split at h
      · exact absurd h (by simp)
      · rename_i hcount
        have hleft : (parseGroups 8 true t).2 = [] := (Prod.mk.inj (Option.some.inj h)).2
        rw [hleft, append_nil] at ht
        rw [hvalues, length_map] at hcount
        exact .inl ⟨pre, by omega, hpre, ht⟩

/-- What is accepted. -/
theorem tryParse_iff (t : List Char) : (tryParse t).isSome = true ↔ t = unspec ∨ Form IsGroup 8 t := by
  constructor
  · intro h
    by_cases hne : t = unspec
    · exact .inl hne
    · right
      unfold tryParse at h
      split at h
      · rename_i address hparse
        exact form_of_doTryParse hne hparse
      · exact absurd h (by simp)
  · rintro (rfl | h)
    · decide
    · exact tryParse_of_form h

end IPv6Address

end Inet.Ipv6
